import OpenRouter.Base.StringLiterals

/-!
# Snippets — the prompt of the playground as a literal of four languages

`build` of `CodeSnippets.tsx` puts one text, in which quotes are escaped and which is then cut to
200 code units, between the quotes of four templates, and the model as it is between two others.
`quotesPrompt_iff` says for which models and prompts both are literals of each of the languages: the
escaping leaves backslashes, line ends and apostrophes as they are, and the cut can divide an
escape.
-/

namespace OpenRouter
namespace Frontend
namespace CodeSnippets

open Base.Literal

/-! ## Templates -/

/-- The code units of an ASCII text. -/
def units (s : String) : Units :=
  s.toList.map Char.toNat

theorem units_append (s t : String) : units (s ++ t) = units s ++ units t := by
  rw [units, String.toList_append, List.map_append]
  rfl

/-- A snippet with two quoted places, for the model and for the prompt. -/
structure Template where
  before : String
  /-- From behind the closing quote of the model up to the opening one of the prompt. -/
  between : String
  /-- From behind the closing quote of the prompt. -/
  after : String

/-- What is behind the closing quote of the model. -/
def Template.behind (t : Template) (safe : Units) : Units :=
  units t.between ++ quote :: (safe ++ quote :: units t.after)

def Template.fill (t : Template) (model safe : Units) : Units :=
  units t.before ++ quote :: (model ++ quote :: t.behind safe)

def lines (xs : List String) : String :=
  "\n".intercalate xs

def pythonTemplate : Template where
  before := lines [
    "from openai import OpenAI",
    "",
    "client = OpenAI(",
    "    base_url=\"https://api.openrouter.example.com/api/v1\",",
    "    api_key=\"$OPENROUTER_API_KEY\",",
    ")",
    "resp = client.chat.completions.create(",
    "    model="]
  between := lines [
    ",",
    "    messages=[\x7b\"role\": \"user\", \"content\": "]
  after := lines [
    "\x7d],",
    ")",
    "print(resp.choices[0].message.content)"]

def jsTemplate : Template where
  before := lines [
    "import OpenAI from \"openai\";",
    "",
    "const client = new OpenAI(\x7b",
    "  baseURL: \"https://api.openrouter.example.com/api/v1\",",
    "  apiKey: process.env.OPENROUTER_API_KEY,",
    "\x7d);",
    "",
    "const resp = await client.chat.completions.create(\x7b",
    "  model: "]
  between := lines [
    ",",
    "  messages: [\x7b role: \"user\", content: "]
  after := lines [
    " \x7d],",
    "\x7d);",
    "console.log(resp.choices[0].message.content);"]

/-- The command up to the quote of the shell, and the beginning of the quoted argument. -/
def curlCommand : String :=
  lines [
    "curl https://api.openrouter.example.com/api/v1/chat/completions \\",
    "  -H \"Authorization: Bearer $OPENROUTER_API_KEY\" \\",
    "  -H \"Content-Type: application/json\" \\",
    "  -d "]

def curlLead : String :=
  "\x7b\"model\":"

def curlTemplate : Template where
  before := curlCommand ++ ("'" ++ curlLead)
  between := ",\"messages\":[\x7b\"role\":\"user\",\"content\":"
  after := "\x7d]\x7d'"

def goTemplate : Template where
  before := lines [
    "package main",
    "",
    "import (",
    "    \"context\"",
    "    openai \"github.com/sashabaranov/go-openai\"",
    ")",
    "",
    "func main() \x7b",
    "    cfg := openai.DefaultConfig(\"OPENROUTER_API_KEY\")",
    "    cfg.BaseURL = \"https://api.openrouter.example.com/api/v1\"",
    "    client := openai.NewClientWithConfig(cfg)",
    "    resp, _ := client.CreateChatCompletion(context.Background(), " ++
      "openai.ChatCompletionRequest\x7b",
    "        Model:    "]
  between := lines [
    ",",
    "        Messages: []openai.ChatCompletionMessage\x7b\x7bRole: \"user\", Content: "]
  after := lines [
    "\x7d\x7d,",
    "    \x7d)",
    "    println(resp.Choices[0].Message.Content)",
    "\x7d"]

/-! ## Building -/

/-- `replace(/"/g, '\\"')`. -/
def escapeQuotes (prompt : Units) : Units :=
  prompt.flatMap fun c => if c = quote then [backslash, quote] else [c]

/-- The room that `slice` leaves. -/
def room : ℕ :=
  200

def safe (prompt : Units) : Units :=
  (escapeQuotes prompt).take room

structure Snippets where
  python : Units
  js : Units
  curl : Units
  go : Units

def build (model prompt : Units) : Snippets where
  python := pythonTemplate.fill model (safe prompt)
  js := jsTemplate.fill model (safe prompt)
  curl := curlTemplate.fill model (safe prompt)
  go := goTemplate.fill model (safe prompt)

/-! ## Well-quoted prompts -/

/-- The text in the place of the model, and the one in the place of the prompt, are each one literal
that ends where the template closes it, and the second is of a prefix of the prompt. -/
structure Quoted (g : Grammar) (model behind text rest prompt : Units) : Prop where
  modelText : isText model = true
  modelReads : ∃ named, Reads g (model ++ quote :: behind) named behind
  promptText : isText text = true
  promptReads : ∃ value : Units, Reads g (text ++ quote :: rest) (value.map .unit) rest ∧
    value <+: prompt

/-- The snippet is read from the opening quote of the model on. -/
def InSource (g : Grammar) (t : Template) (model prompt snippet : Units) : Prop :=
  ∃ text : Units, snippet = t.fill model text ∧
    Quoted g model (t.behind text) text (units t.after) prompt

/-- The same in the argument of a shell, whose quotes close at the end of the snippet. -/
def InShell (g : Grammar) (model prompt snippet : Units) : Prop :=
  ∃ text rest behind argument : Units, snippet = curlTemplate.fill model text ∧
    snippet = units curlCommand ++ apostrophe :: argument ∧
    singleQuoted argument = some (units curlLead ++ quote :: (model ++ quote :: behind), []) ∧
    behind = units curlTemplate.between ++ quote :: (text ++ quote :: rest) ∧
    Quoted g model behind text rest prompt

/-- In each of the four snippets; `name` are Python's names of characters. -/
structure QuotesPrompt (name : Units → Option ℕ) (model prompt : Units) : Prop where
  python : InSource (python name) pythonTemplate model prompt (build model prompt).python
  js : InSource javascript jsTemplate model prompt (build model prompt).js
  curl : InShell json model prompt (build model prompt).curl
  go : InSource go goTemplate model prompt (build model prompt).go

variable {name : Units → Option ℕ} {model prompt text : Units} {t : Template} {g : Grammar}

theorem fill_inj {text' : Units} : t.fill model text = t.fill model text' ↔ text = text' := by
  constructor
  · intro h
    have hmodel := (List.cons.inj (List.append_cancel_left h)).2
    have hbehind := (List.cons.inj (List.append_cancel_left hmodel)).2
    exact List.append_cancel_right (List.cons.inj (List.append_cancel_left hbehind)).2
  · exact congrArg _

theorem inSource_fill : InSource g t model prompt (t.fill model text) ↔
    Quoted g model (t.behind text) text (units t.after) prompt := by
  constructor
  · rintro ⟨text', hfill, hquoted⟩
    cases fill_inj.1 hfill
    exact hquoted
  · intro hquoted
    exact ⟨text, rfl, hquoted⟩

/-- The rest of the argument behind the prompt, and behind the model. -/
def curlRest : Units :=
  units "\x7d]\x7d"

def curlBehind (text : Units) : Units :=
  units curlTemplate.between ++ quote :: (text ++ quote :: curlRest)

/-- The argument of the shell ends with the snippet. -/
theorem fill_curl : curlTemplate.fill model text = units curlCommand ++ apostrophe ::
    ((units curlLead ++ quote :: (model ++ quote :: curlBehind text)) ++ [apostrophe]) := by
  have hbefore : units curlTemplate.before =
      units curlCommand ++ apostrophe :: units curlLead := by
    rw [show curlTemplate.before = curlCommand ++ ("'" ++ curlLead) from rfl, units_append,
      units_append]
    rfl
  have hafter : units curlTemplate.after = curlRest ++ [apostrophe] := rfl
  rw [Template.fill, Template.behind, hbefore, hafter, curlBehind]
  simp only [List.append_assoc, List.cons_append]

theorem apostrophe_not_mem_argument :
    apostrophe ∉ units curlLead ++ quote :: (model ++ quote :: curlBehind text) ↔
      apostrophe ∉ model ∧ apostrophe ∉ text := by
  have hlead : apostrophe ∉ units curlLead := by decide
  have hbetween : apostrophe ∉ units curlTemplate.between := by decide
  have hrest : apostrophe ∉ curlRest := by decide
  have hquote : apostrophe ≠ quote := by decide
  simp only [curlBehind, List.mem_append, List.mem_cons, hlead, hbetween, hrest, hquote, false_or,
    or_false, not_or]

theorem inShell_fill : InShell json model prompt (curlTemplate.fill model text) ↔
    apostrophe ∉ model ∧ apostrophe ∉ text ∧
      Quoted json model (curlBehind text) text curlRest prompt := by
  constructor
  · rintro ⟨text', rest, behind, argument, hfill, hcommand, hshell, rfl, hquoted⟩
    cases fill_inj.1 hfill
    rw [fill_curl] at hcommand
    have hargument := (List.cons.inj (List.append_cancel_left hcommand)).2
    rw [← hargument, singleQuoted_eq_some] at hshell
    rcases hshell with ⟨hinside, hmem⟩
    -- What the quotes of the shell hold is the argument of the template.
    have hmodel := (List.cons.inj
      (List.append_cancel_left (List.append_cancel_right hinside))).2
    have hbehind := (List.cons.inj (List.append_cancel_left hmodel)).2
    have hrest : curlRest = rest := by
      have htext := (List.cons.inj (List.append_cancel_left hbehind)).2
      exact (List.cons.inj (List.append_cancel_left htext)).2
    subst hrest
    rcases apostrophe_not_mem_argument.1 hmem with ⟨hmodel, htext⟩
    exact ⟨hmodel, htext, hquoted⟩
  · rintro ⟨hmodel, htext, hquoted⟩
    refine ⟨text, curlRest, curlBehind text, _, rfl, fill_curl, ?_, rfl, hquoted⟩
    exact singleQuoted_eq_some.2 ⟨rfl, apostrophe_not_mem_argument.2 ⟨hmodel, htext⟩⟩

/-- The models that are a literal of each of the languages as they are. -/
structure Plain (model : Units) : Prop where
  text : isText model = true
  shell : apostrophe ∉ model
  spelled : ∃ named, Spells shared model named

/-- What is read in all four is spelled with the escapes that they share. -/
theorem quotesPrompt_iff_spells : QuotesPrompt name model prompt ↔
    Plain model ∧ isText (safe prompt) = true ∧ apostrophe ∉ safe prompt ∧
      ∃ value : Units, Spells shared (safe prompt) (value.map .unit) ∧ value <+: prompt := by
  constructor
  · rintro ⟨-, -, hcurl, hgo⟩
    rcases inShell_fill.1 hcurl with ⟨hmodelShell, hshell, hjson⟩
    have hgo := inSource_fill.1 hgo
    rcases hjson.modelReads with ⟨named, hmodelJson⟩
    rcases hgo.modelReads with ⟨named', hmodelGo⟩
    rcases hjson.promptReads with ⟨value, hpromptJson, hle⟩
    rcases hgo.promptReads with ⟨value', hpromptGo, -⟩
    -- What JSON and Go both read is spelled with the shared escapes.
    have hmodel := ((reads_quote_iff local_json).1 hmodelJson).shared
      ((reads_quote_iff local_go).1 hmodelGo)
    have hspells := ((reads_quote_iff local_json).1 hpromptJson).shared
      ((reads_quote_iff local_go).1 hpromptGo)
    exact ⟨⟨hjson.modelText, hmodelShell, named, hmodel.1⟩, hjson.promptText, hshell, value,
      hspells.1, hle⟩
  · rintro ⟨⟨hmodelText, hmodelShell, named, hmodel⟩, htext, hshell, value, hspells, hle⟩
    have hquoted : ∀ {h : Grammar},
        (∀ c, c ≠ quote → c ≠ backslash → shared.raw c = true → h.raw c = true) →
        (∀ cs r, shared.escape cs = some r → h.escape cs = some r) → ∀ behind rest : Units,
          Quoted h model behind (safe prompt) rest prompt := by
      intro h hraw hesc behind rest
      exact
        { modelText := hmodelText
          modelReads := ⟨named, (reads_of_spells local_shared hmodel behind).mono hraw hesc⟩
          promptText := htext
          promptReads :=
            ⟨value, (reads_of_spells local_shared hspells rest).mono hraw hesc, hle⟩ }
    exact {
      python := inSource_fill.2 (hquoted (fun c _ _ => python_raw_of_shared name)
        (fun _ _ => python_of_shared name) _ _)
      js := inSource_fill.2 (hquoted (fun c _ _ => javascript_raw_of_shared)
        (fun _ _ => javascript_of_shared) _ _)
      curl := inShell_fill.2 ⟨hmodelShell, hshell, hquoted (fun c _ _ => json_raw_of_shared)
        (fun _ _ => json_of_shared) _ _⟩
      go := inSource_fill.2 (hquoted (fun c _ _ => go_raw_of_shared)
        (fun _ _ => go_of_shared) _ _) }

/-! ## The cut -/

/-- The length of a unit once it is escaped. -/
def width (c : ℕ) : ℕ :=
  if c = quote then 2 else 1

/-- The units that fit into `n` when they are escaped, up to the first that does not. -/
def kept : ℕ → Units → Units
  | _, [] => []
  | n, c :: cs => if width c ≤ n then c :: kept (n - width c) cs else []

/-- The cut divides the escape of a quote. -/
def cutsQuote : ℕ → Units → Bool
  | _, [] => false
  | n, c :: cs => if width c ≤ n then cutsQuote (n - width c) cs else n == 1

/-- What is left of a quote whose escape is divided. -/
def half (n : ℕ) (cs : Units) : Units :=
  if cutsQuote n cs then [backslash] else []

theorem escapeQuotes_cons (c : ℕ) (cs : Units) :
    escapeQuotes (c :: cs) = (if c = quote then [backslash, quote] else [c]) ++ escapeQuotes cs :=
  List.flatMap_cons

theorem take_escapeQuotes (n : ℕ) (cs : Units) :
    (escapeQuotes cs).take n = escapeQuotes (kept n cs) ++ half n cs := by
  induction cs generalizing n with
  | nil => rw [escapeQuotes, List.flatMap_nil, List.take_nil]; rfl
  | cons c cs ih =>
      -- An escaped quote takes two units: with one left, the cut divides it.
      by_cases hc : c = quote
      · match n with
        | 0 => simp [kept, half, cutsQuote, width, hc, escapeQuotes]
        | 1 => simp [kept, half, cutsQuote, width, hc, escapeQuotes]
        | n + 2 =>
            have hrest := ih n
            simp only [half] at hrest
            simp [kept, half, cutsQuote, width, hc, escapeQuotes_cons, hrest]
      · match n with
        | 0 => simp [kept, half, cutsQuote, width, hc, escapeQuotes]
        | n + 1 =>
            have hrest := ih n
            simp only [half] at hrest
            simp [kept, half, cutsQuote, width, hc, escapeQuotes_cons, hrest]

theorem kept_le (n : ℕ) (cs : Units) : kept n cs <+: cs := by
  induction cs generalizing n with
  | nil => exact List.prefix_rfl
  | cons c cs ih =>
      rw [kept]
      split
      · exact List.cons_prefix_cons.2 ⟨rfl, ih _⟩
      · exact List.nil_prefix

/-- The quote whose escape is divided is the first unit that is not kept. -/
theorem kept_append_quote {n : ℕ} {cs : Units} (h : cutsQuote n cs = true) :
    kept n cs ++ [quote] <+: cs := by
  induction cs generalizing n with
  | nil => cases h
  | cons c cs ih =>
      rw [cutsQuote] at h
      rw [kept]
      split at h
      · rename_i hfits
        rw [if_pos hfits]
        exact List.cons_prefix_cons.2 ⟨rfl, ih h⟩
      · rename_i hfits
        have hc : c = quote := by
          by_contra hc
          rw [width, if_neg hc] at hfits
          have hn : n = 1 := by
            simpa using h
          omega
        rw [if_neg hfits, hc]
        exact ⟨cs, rfl⟩

/-- Escapes neither make nor part pairs of surrogates. -/
theorem textFrom_escapeQuotes (high : Bool) (cs tail : Units)
    (htail : ∀ b, textFrom b tail = !b) :
    textFrom high (escapeQuotes cs ++ tail) = textFrom high cs := by
  induction cs generalizing high with
  | nil =>
      rw [escapeQuotes, List.flatMap_nil, List.nil_append, htail]
      rfl
  | cons c cs ih =>
      have hquote : isHighSurrogate quote = false ∧ isLowSurrogate quote = false := ⟨rfl, rfl⟩
      have hslash : isHighSurrogate backslash = false ∧ isLowSurrogate backslash = false :=
        ⟨rfl, rfl⟩
      by_cases hc : c = quote
      · cases high with
        | true => simp [escapeQuotes_cons, hc, textFrom, hquote, hslash]
        | false => simp [escapeQuotes_cons, hc, textFrom, hquote, hslash, ih]
      · cases high with
        | true => simp [escapeQuotes_cons, hc, textFrom, ih]
        | false => simp [escapeQuotes_cons, hc, textFrom, ih]

theorem textFrom_half (n : ℕ) (cs : Units) (b : Bool) : textFrom b (half n cs) = !b := by
  unfold half
  split
  · cases b <;> rfl
  · cases b <;> rfl

theorem mem_escapeQuotes {c : ℕ} (hquote : c ≠ quote) (hslash : c ≠ backslash) {cs : Units} :
    c ∈ escapeQuotes cs ↔ c ∈ cs := by
  induction cs with
  | nil => exact Iff.rfl
  | cons d cs ih =>
      rw [escapeQuotes_cons, List.mem_append, ih, List.mem_cons]
      by_cases hd : d = quote
      · have hne : c ≠ d := by
          rw [hd]
          exact hquote
        simp [hd, hquote, hslash]
      · simp [hd]

theorem isText_safe : isText (safe prompt) = isText (kept room prompt) := by
  rw [safe, take_escapeQuotes]
  exact textFrom_escapeQuotes false _ _ (textFrom_half room prompt)

theorem apostrophe_mem_safe : apostrophe ∈ safe prompt ↔ apostrophe ∈ kept room prompt := by
  have hhalf : apostrophe ∉ half room prompt := by
    unfold half
    split <;> decide
  rw [safe, take_escapeQuotes, List.mem_append, or_iff_left hhalf]
  exact mem_escapeQuotes (by decide) (by decide)

/-! ## What a text writes -/

/-- The text writes the units or a first part of them: two backslashes write one, an escape with a
code writes its unit, which is no surrogate, and the rest writes itself. -/
inductive Writes : Units → Units → Prop
  | nil (cs : Units) : Writes [] cs
  | plain {c : ℕ} {text cs : Units} : c ≠ backslash → Writes text cs → Writes (c :: text) (c :: cs)
  | slash {text cs : Units} : Writes text cs →
      Writes (backslash :: backslash :: text) (backslash :: cs)
  | code {d : ℕ} {hex text cs : Units} : digits hexUnit 16 4 hex = some (d, []) →
      isSurrogateUnit d = false → Writes text cs →
        Writes (backslash :: 'u'.toNat :: (hex ++ text)) (d :: cs)

/-- Two backslashes write one of them. -/
example : Writes [backslash, backslash] [backslash, backslash] :=
  .slash (.nil _)

/-- A text without backslashes writes itself. -/
theorem writes_of_prefix {cs : Units} (hslash : backslash ∉ text) (hle : text <+: cs) :
    Writes text cs := by
  induction text generalizing cs with
  | nil => exact .nil cs
  | cons c text ih =>
      rw [List.mem_cons, not_or] at hslash
      rcases hle with ⟨rest, rfl⟩
      exact .plain (Ne.symm hslash.1) (ih hslash.2 (List.prefix_append text rest))

/-- A last backslash without another before it writes nothing. -/
theorem not_writes_slash {cs : Units} (hslash : backslash ∉ text) :
    ¬ Writes (text ++ [backslash]) cs := by
  induction text generalizing cs with
  | nil =>
      intro h
      cases h with
      | plain hne => exact hne rfl
  | cons c text ih =>
      rw [List.mem_cons, not_or] at hslash
      intro h
      rw [List.cons_append] at h
      generalize htext : text ++ [backslash] = whole at h
      cases h with
      | plain _ hrest => exact ih hslash.2 (htext ▸ hrest)
      | slash => exact hslash.1 rfl
      | code => exact hslash.1 rfl

/-- No control character, and no byte order mark. -/
def isPlain (c : ℕ) : Bool :=
  32 ≤ c && c ≠ 0xFEFF

/-- The prompts that escaping quotes is enough for. -/
structure Quotable (prompt : Units) : Prop where
  text : isText (kept room prompt) = true
  shell : apostrophe ∉ kept room prompt
  plain : ∀ c ∈ kept room prompt, isPlain c = true
  escapes :
    if backslash ∈ kept room prompt then Writes (kept room prompt ++ half room prompt) prompt
    else cutsQuote room prompt = false

theorem writes_kept (hslash : backslash ∉ kept room prompt) :
    Writes (kept room prompt ++ half room prompt) prompt ↔ cutsQuote room prompt = false := by
  constructor
  · intro h
    by_contra hcut
    rw [Bool.not_eq_false] at hcut
    rw [half, if_pos hcut] at h
    exact not_writes_slash hslash h
  · intro hcut
    have hhalf : half room prompt = [] := by
      rw [half, hcut]
      rfl
    rw [hhalf, List.append_nil]
    exact writes_of_prefix hslash (kept_le room prompt)

/-! ## What a text spells once its quotes are escaped -/

/-- A unit that is no backslash spells itself, as a quote does once it is escaped. -/
theorem spells_escapeQuotes_cons {c : ℕ} {cs : Units} {v : List Piece} (hne : c ≠ backslash) :
    Spells shared (escapeQuotes (c :: cs)) v ↔
      isPlain c = true ∧ ∃ w, v = .unit c :: w ∧ Spells shared (escapeQuotes cs) w := by
  by_cases hc : c = quote
  · have htext : escapeQuotes (c :: cs) = backslash :: quote :: escapeQuotes cs := by
      rw [escapeQuotes_cons, if_pos hc]
      rfl
    have hesc : shared.escape (quote :: escapeQuotes cs) =
        some ([.unit quote], escapeQuotes cs) := rfl
    rw [htext, hc]
    constructor
    · intro h
      cases h with
      | raw _ hslash => exact absurd rfl hslash
      | escape hesc' hspells =>
          cases hesc.symm.trans hesc'
          exact ⟨rfl, _, rfl, hspells⟩
    · rintro ⟨-, w, rfl, hspells⟩
      exact .escape hesc hspells
  · have htext : escapeQuotes (c :: cs) = c :: escapeQuotes cs := by
      rw [escapeQuotes_cons, if_neg hc]
      rfl
    rw [htext]
    constructor
    · intro h
      cases h with
      | raw _ _ hraw hspells => exact ⟨hraw, _, rfl, hspells⟩
      | escape => exact absurd rfl hne
    · rintro ⟨hraw, w, rfl, hspells⟩
      exact .raw hc hne hraw hspells

theorem escapeQuotes_append (cs ds : Units) :
    escapeQuotes (cs ++ ds) = escapeQuotes cs ++ escapeQuotes ds :=
  List.flatMap_append

theorem escapeQuotes_of_not_mem {cs : Units} (h : quote ∉ cs) : escapeQuotes cs = cs := by
  induction cs with
  | nil => rfl
  | cons c cs ih =>
      rw [List.mem_cons, not_or] at h
      rw [escapeQuotes_cons, if_neg (Ne.symm h.1), ih h.2]
      rfl

theorem escapeQuotes_slash (cs : Units) :
    escapeQuotes (backslash :: cs) = backslash :: escapeQuotes cs := by
  rw [escapeQuotes_cons, if_neg (by decide)]
  rfl

/-- Escaped quotes stand behind backslashes. -/
theorem escapeQuotes_ne_quote {c : ℕ} {cs ds : Units} (h : escapeQuotes cs = c :: ds) :
    c ≠ quote := by
  cases cs with
  | nil => cases h
  | cons d cs =>
      rw [escapeQuotes_cons] at h
      split at h
      · cases h
        decide
      · rename_i hd
        cases h
        exact hd

/-- The first unit is the text's own when it is no backslash. -/
theorem escapeQuotes_eq_cons {c : ℕ} {cs ds : Units} (h : escapeQuotes cs = c :: ds)
    (hne : c ≠ backslash) : ∃ cs', cs = c :: cs' ∧ escapeQuotes cs' = ds := by
  cases cs with
  | nil => cases h
  | cons d cs =>
      rw [escapeQuotes_cons] at h
      split at h
      · cases h
        exact absurd rfl hne
      · cases h
        exact ⟨cs, rfl, rfl⟩

theorem isPlain_of_hexUnit {c : ℕ} (h : (hexUnit c).isSome = true) : isPlain c = true := by
  unfold hexUnit at h
  simp only [isPlain, Bool.and_eq_true, decide_eq_true_eq]
  split_ifs at h
  · omega
  · omega
  · omega
  · cases h

theorem quote_not_mem_hex {d : ℕ} {hex : Units} (h : digits hexUnit 16 4 hex = some (d, [])) :
    quote ∉ hex := by
  intro hmem
  have hdigit := isSome_of_digits h quote hmem
  cases hdigit

/-- The digits are in front of the escaped rest. -/
theorem digits_escapeQuotes {n x : ℕ} {cs rest : Units}
    (h : digits hexUnit 16 n (escapeQuotes cs) = some (x, rest)) :
    ∃ hex cs', cs = hex ++ cs' ∧ digits hexUnit 16 n hex = some (x, []) ∧
      escapeQuotes cs' = rest := by
  induction n generalizing x cs with
  | zero =>
      cases h
      exact ⟨[], cs, rfl, rfl, rfl⟩
  | succ n ih =>
      generalize htext : escapeQuotes cs = text at h
      cases text with
      | nil => cases h
      | cons c text =>
          rcases Option.bind_eq_some_iff.1 h with ⟨⟨y, rest'⟩, hrest, hmap⟩
          rcases Option.map_eq_some_iff.1 hmap with ⟨d, hd, hx⟩
          cases hx
          have hne : c ≠ backslash := by
            rintro rfl
            cases hd
          rcases escapeQuotes_eq_cons htext hne with ⟨cs, rfl, htail⟩
          rw [← htail] at hrest
          rcases ih hrest with ⟨hex, cs', rfl, hhex, hrest⟩
          refine ⟨c :: hex, cs', rfl, ?_, hrest⟩
          simp only [digits, hhex, hd, Option.bind_some, Option.map_some]

/-- What a backslash begins: itself twice, a control character, or a code. -/
inductive Escapes : Units → ℕ → Units → Prop
  | slash (text : Units) : Escapes (backslash :: text) backslash text
  | control {c u : ℕ} (text : Units) : isPlain c = true → u < 32 → Escapes (c :: text) u text
  | code {d : ℕ} {hex : Units} (text : Units) : digits hexUnit 16 4 hex = some (d, []) →
      isSurrogateUnit d = false → Escapes ('u'.toNat :: (hex ++ text)) d text

theorem escapes_of_short {e : Char × ℕ} (he : e ∈ sharedShort) (hquote : e.1.toNat ≠ quote)
    (hslash : e.1.toNat ≠ backslash) (text : Units) : Escapes (e.1.toNat :: text) e.2 text := by
  simp only [sharedShort, List.mem_cons, List.not_mem_nil, or_false] at he
  rcases he with rfl | rfl | rfl | rfl | rfl | rfl | rfl
  · exact absurd rfl hquote
  · exact absurd rfl hslash
  all_goals exact .control text (by decide) (by decide)

theorem escapes_of_spells {cs : Units} {v : List Piece}
    (h : Spells shared (escapeQuotes (backslash :: cs)) v) :
    ∃ u cs' w, Escapes cs u cs' ∧ v = .unit u :: w ∧ Spells shared (escapeQuotes cs') w := by
  rw [escapeQuotes_slash] at h
  generalize htext : escapeQuotes cs = text at h
  cases h with
  | raw _ hslash => exact absurd rfl hslash
  | escape hesc hspells =>
      rcases shared_escape_cases hesc with ⟨e, he, rest, rfl, hr⟩ | ⟨ds, x, rest, rfl, hx, hsur, hr⟩
      · cases hr
        by_cases hslash : e.1.toNat = backslash
        · rw [hslash] at htext
          have hu : e.2 = backslash := by
            simp only [sharedShort, List.mem_cons, List.not_mem_nil, or_false] at he
            rcases he with rfl | rfl | rfl | rfl | rfl | rfl | rfl
            all_goals first
              | rfl
              | cases hslash
          cases cs with
          | nil => cases htext
          | cons c cs =>
              rw [escapeQuotes_cons] at htext
              split at htext
              · -- Behind two backslashes a quote is not escaped.
                cases htext
                cases hspells with
                | raw hquote => exact absurd rfl hquote
              · cases htext
                rw [hu]
                exact ⟨backslash, cs, _, .slash cs, rfl, hspells⟩
        · rcases escapeQuotes_eq_cons htext hslash with ⟨cs', rfl, rfl⟩
          exact ⟨e.2, cs', _, escapes_of_short he (escapeQuotes_ne_quote htext) hslash cs', rfl,
            hspells⟩
      · cases hr
        rcases escapeQuotes_eq_cons htext (by decide) with ⟨cs', rfl, rfl⟩
        rcases digits_escapeQuotes hx with ⟨hex, cs'', rfl, hhex, rfl⟩
        exact ⟨x, cs'', _, .code cs'' hhex hsur, rfl, hspells⟩

theorem Escapes.length_lt {cs rest : Units} {u : ℕ} (h : Escapes cs u rest) :
    rest.length < cs.length := by
  cases h with
  | slash => exact Nat.lt_succ_self _
  | control => exact Nat.lt_succ_self _
  | code =>
      rw [List.length_cons, List.length_append]
      omega

theorem Escapes.isPlain {cs rest : Units} {u : ℕ} (h : Escapes cs u rest)
    (hrest : ∀ c ∈ rest, isPlain c = true) : ∀ c ∈ cs, isPlain c = true := by
  cases h with
  | slash => exact List.forall_mem_cons.2 ⟨rfl, hrest⟩
  | control _ hc => exact List.forall_mem_cons.2 ⟨hc, hrest⟩
  | code _ hhex =>
      refine List.forall_mem_cons.2 ⟨rfl, List.forall_mem_append.2 ⟨?_, hrest⟩⟩
      intro c hc
      exact isPlain_of_hexUnit (isSome_of_digits hhex c hc)

theorem Escapes.writes {cs rest ds : Units} {u : ℕ} (h : Escapes cs u rest) (hu : 32 ≤ u)
    (hrest : Writes rest ds) : Writes (backslash :: cs) (u :: ds) := by
  cases h with
  | slash => exact .slash hrest
  | control _ _ hlt => omega
  | code _ hhex hsur => exact .code hhex hsur hrest

/-- What is spelled is plain, and no longer than the text in which quotes are not escaped. -/
theorem isPlain_of_spells {v : List Piece} (h : Spells shared (escapeQuotes text) v) :
    (∀ c ∈ text, isPlain c = true) ∧ v.length ≤ text.length := by
  induction hn : text.length using Nat.strong_induction_on generalizing text v with
  | _ n ih =>
      cases text with
      | nil =>
          cases h
          exact ⟨List.forall_mem_nil _, Nat.zero_le _⟩
      | cons c cs =>
          rw [List.length_cons] at hn
          by_cases hc : c = backslash
          · rw [hc] at h ⊢
            rcases escapes_of_spells h with ⟨u, rest, w, hesc, rfl, hspells⟩
            have hlt := hesc.length_lt
            rcases ih rest.length (by omega) hspells rfl with ⟨hplain, hlen⟩
            refine ⟨List.forall_mem_cons.2 ⟨rfl, hesc.isPlain hplain⟩, ?_⟩
            rw [List.length_cons]
            omega
          · rcases (spells_escapeQuotes_cons hc).1 h with ⟨hplain, w, rfl, hspells⟩
            rcases ih cs.length (by omega) hspells rfl with ⟨hplains, hlen⟩
            refine ⟨List.forall_mem_cons.2 ⟨hplain, hplains⟩, ?_⟩
            rw [List.length_cons]
            omega

/-- A text that spells units without control characters writes them. -/
theorem writes_of_spells {value cs : Units}
    (h : Spells shared (escapeQuotes text) (value.map .unit))
    (hvalue : ∀ c ∈ value, 32 ≤ c) (hle : value <+: cs) : Writes text cs := by
  induction hn : text.length using Nat.strong_induction_on generalizing text value cs with
  | _ n ih =>
      cases text with
      | nil => exact .nil cs
      | cons c text =>
          rw [List.length_cons] at hn
          by_cases hc : c = backslash
          · rw [hc] at h ⊢
            rcases escapes_of_spells h with ⟨u, rest, w, hesc, hw, hspells⟩
            rcases List.map_eq_cons_iff.1 hw with ⟨d, value, rfl, hd, rfl⟩
            cases hd
            rcases hle with ⟨more, rfl⟩
            rcases List.forall_mem_cons.1 hvalue with ⟨hu, hvalue⟩
            have hlt := hesc.length_lt
            exact hesc.writes hu
              (ih rest.length (by omega) hspells hvalue (List.prefix_append value more) rfl)
          · rcases (spells_escapeQuotes_cons hc).1 h with ⟨hplain, w, hw, hspells⟩
            rcases List.map_eq_cons_iff.1 hw with ⟨d, value, rfl, hd, rfl⟩
            cases hd
            rcases hle with ⟨more, rfl⟩
            exact .plain hc (ih text.length (by omega) hspells
              (List.forall_mem_cons.1 hvalue).2 (List.prefix_append value more) rfl)

theorem spells_of_writes {cs : Units} (h : Writes text cs) (hplain : ∀ c ∈ text, isPlain c = true) :
    ∃ value : Units, Spells shared (escapeQuotes text) (value.map .unit) ∧ value <+: cs := by
  induction h with
  | nil cs => exact ⟨[], .nil, List.nil_prefix⟩
  | @plain c text cs hne _ ih =>
      rcases List.forall_mem_cons.1 hplain with ⟨hc, hplain⟩
      rcases ih hplain with ⟨value, hspells, hle⟩
      exact ⟨c :: value, (spells_escapeQuotes_cons hne).2 ⟨hc, _, rfl, hspells⟩,
        List.cons_prefix_cons.2 ⟨rfl, hle⟩⟩
  | @slash text cs _ ih =>
      rcases ih (List.forall_mem_cons.1 (List.forall_mem_cons.1 hplain).2).2 with
        ⟨value, hspells, hle⟩
      refine ⟨backslash :: value, ?_, List.cons_prefix_cons.2 ⟨rfl, hle⟩⟩
      rw [escapeQuotes_slash, escapeQuotes_slash]
      exact Spells.escape (w := [.unit backslash]) rfl hspells
  | @code d hex text cs hhex hsur _ ih =>
      have hrest := (List.forall_mem_cons.1 (List.forall_mem_cons.1 hplain).2).2
      rcases ih (List.forall_mem_append.1 hrest).2 with ⟨value, hspells, hle⟩
      refine ⟨d :: value, ?_, List.cons_prefix_cons.2 ⟨rfl, hle⟩⟩
      have htext : escapeQuotes (backslash :: 'u'.toNat :: (hex ++ text)) =
          backslash :: 'u'.toNat :: (hex ++ escapeQuotes text) := by
        rw [escapeQuotes_slash, escapeQuotes_cons, escapeQuotes_append,
          escapeQuotes_of_not_mem (quote_not_mem_hex hhex)]
        rfl
      have hread : digits hexUnit 16 4 (hex ++ escapeQuotes text) =
          some (d, escapeQuotes text) :=
        (LocalReader.digits hexUnit 16 4).extend (escapeQuotes text) hhex
      rw [htext]
      exact Spells.escape (w := [.unit d]) (valued_eq_some hread (if_neg (by simp [hsur]))) hspells

/-! ## The prompts that are quoted -/

/-- What is in the place of the prompt, before its quotes are escaped. -/
theorem safe_eq : safe prompt = escapeQuotes (kept room prompt ++ half room prompt) := by
  have hhalf : escapeQuotes (half room prompt) = half room prompt := by
    unfold half
    split <;> rfl
  rw [escapeQuotes_append, hhalf]
  exact take_escapeQuotes room prompt

/-- As much of the prompt as there is room for is plain, with a quote where one is divided. -/
theorem isPlain_of_prefix {value : Units} (hplain : ∀ c ∈ kept room prompt, isPlain c = true)
    (hlen : value.length ≤ (kept room prompt ++ half room prompt).length)
    (hle : value <+: prompt) : ∀ c ∈ value, isPlain c = true := by
  by_cases hcut : cutsQuote room prompt = true
  · have hle : value <+: kept room prompt ++ [quote] := by
      refine List.prefix_of_prefix_length_le hle (kept_append_quote hcut) ?_
      rw [half, if_pos hcut, List.length_append] at hlen
      rw [List.length_append]
      exact hlen
    intro c hc
    rcases List.mem_append.1 (hle.subset hc) with hc | hc
    · exact hplain c hc
    · rw [List.mem_singleton.1 hc]
      rfl
  · have hle : value <+: kept room prompt := by
      refine List.prefix_of_prefix_length_le hle (kept_le room prompt) ?_
      rw [half, if_neg hcut, List.append_nil] at hlen
      exact hlen
    exact fun c hc => hplain c (hle.subset hc)

theorem spells_safe :
    (∃ value : Units, Spells shared (safe prompt) (value.map .unit) ∧ value <+: prompt) ↔
      (∀ c ∈ kept room prompt, isPlain c = true) ∧
        Writes (kept room prompt ++ half room prompt) prompt := by
  rw [safe_eq]
  constructor
  · rintro ⟨value, hspells, hle⟩
    rcases isPlain_of_spells hspells with ⟨hplain, hlen⟩
    have hkept : ∀ c ∈ kept room prompt, isPlain c = true :=
      fun c hc => hplain c (List.mem_append_left _ hc)
    rw [List.length_map] at hlen
    refine ⟨hkept, writes_of_spells hspells ?_ hle⟩
    intro c hc
    have hc := isPlain_of_prefix hkept hlen hle c hc
    simp only [isPlain, Bool.and_eq_true, decide_eq_true_eq] at hc
    exact hc.1
  · rintro ⟨hplain, hwrites⟩
    refine spells_of_writes hwrites (List.forall_mem_append.2 ⟨hplain, ?_⟩)
    unfold half
    split
    · exact List.forall_mem_singleton.2 rfl
    · exact List.forall_mem_nil _

theorem writes_iff_escapes : Writes (kept room prompt ++ half room prompt) prompt ↔
    if backslash ∈ kept room prompt then Writes (kept room prompt ++ half room prompt) prompt
    else cutsQuote room prompt = false := by
  split
  · exact Iff.rfl
  · rename_i hslash
    exact writes_kept hslash

/-- A prompt with code behind a backslash and a quote. -/
def codePrompt : Units :=
  units "\\\" + leak() #"

end CodeSnippets
end Frontend
end OpenRouter
