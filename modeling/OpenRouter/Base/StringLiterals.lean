import Mathlib.Data.List.Infix
import Mathlib.Data.List.TakeWhile
import Mathlib.Tactic.Ring

/-!
# StringLiterals — double-quoted literals of four languages

A text is a list of UTF-16 code units.  A `Grammar` says which units stand for themselves in a
literal and what a backslash begins; `Reads g text value rest` reads a literal from behind its
opening quote, and `Spells g text value` is the same without a closing quote.

Where every escape of a grammar is local, a text in front of a quote is read up to this quote
exactly when it is spelled (`reads_quote_iff`).  `shared` has the escapes that Python, JavaScript,
JSON and Go have in common: what it spells all four read (`Spells.mono`), and what JSON and Go both
spell is spelled by it (`Spells.shared`).
-/

namespace OpenRouter
namespace Base
namespace Literal

abbrev Units : Type :=
  List ℕ

abbrev quote : ℕ := 34

abbrev apostrophe : ℕ := 39

abbrev backslash : ℕ := 92

/-- What a literal is made of. -/
inductive Piece
  | unit (u : ℕ)
  /-- A byte from 128 on, which is no character by itself. -/
  | byte (b : ℕ)
  deriving DecidableEq

structure Grammar where
  /-- The units that stand for themselves, quote and backslash apart. -/
  raw : ℕ → Bool
  /-- From behind a backslash: what the escape stands for, and what is behind it. -/
  escape : Units → Option (List Piece × Units)

/-! ## Reading -/

/-- A literal, from behind its opening quote. -/
inductive Reads (g : Grammar) : Units → List Piece → Units → Prop
  | close (rest : Units) : Reads g (quote :: rest) [] rest
  | raw {c : ℕ} {cs rest : Units} {v : List Piece} : c ≠ quote → c ≠ backslash → g.raw c = true →
      Reads g cs v rest → Reads g (c :: cs) (.unit c :: v) rest
  | escape {cs cs' rest : Units} {w v : List Piece} : g.escape cs = some (w, cs') →
      Reads g cs' v rest → Reads g (backslash :: cs) (w ++ v) rest

/-- The inside of a literal. -/
inductive Spells (g : Grammar) : Units → List Piece → Prop
  | nil : Spells g [] []
  | raw {c : ℕ} {cs : Units} {v : List Piece} : c ≠ quote → c ≠ backslash → g.raw c = true →
      Spells g cs v → Spells g (c :: cs) (.unit c :: v)
  | escape {cs cs' : Units} {w v : List Piece} : g.escape cs = some (w, cs') →
      Spells g cs' v → Spells g (backslash :: cs) (w ++ v)

/-- There is one way to read a literal. -/
theorem Reads.functional {g : Grammar} {cs rest rest' : Units} {v v' : List Piece}
    (h : Reads g cs v rest) (h' : Reads g cs v' rest') : v = v' ∧ rest = rest' := by
  induction h generalizing v' rest' with
  | close rest =>
      cases h' with
      | close => exact ⟨rfl, rfl⟩
      | raw hquote => exact absurd rfl hquote
  | raw hquote hslash hraw _ ih =>
      cases h' with
      | close => exact absurd rfl hquote
      | raw _ _ _ hrest =>
          rcases ih hrest with ⟨hv, hr⟩
          exact ⟨congrArg _ hv, hr⟩
      | escape => exact absurd rfl hslash
  | escape hesc _ ih =>
      cases h' with
      | raw _ hslash => exact absurd rfl hslash
      | escape hesc' hrest =>
          cases hesc.symm.trans hesc'
          rcases ih hrest with ⟨hv, hr⟩
          exact ⟨congrArg _ hv, hr⟩

/-! ## Local readers -/

/-- What is read is a part of the text, and what is behind it does not matter. -/
structure LocalReader {α : Type} (f : Units → Option (α × Units)) : Prop where
  suffix : ∀ {cs rest : Units} {x : α}, f cs = some (x, rest) → rest <:+ cs
  extend : ∀ {cs rest : Units} {x : α} (more : Units), f cs = some (x, rest) →
    f (cs ++ more) = some (x, rest ++ more)
  restrict : ∀ {cs rest : Units} {x : α} (more : Units),
    f (cs ++ more) = some (x, rest ++ more) → f cs = some (x, rest)

abbrev Grammar.Local (g : Grammar) : Prop :=
  LocalReader g.escape

variable {g : Grammar}

theorem Reads.suffix (hg : g.Local) {cs rest : Units} {v : List Piece} (h : Reads g cs v rest) :
    quote :: rest <:+ cs := by
  induction h with
  | close rest => exact List.suffix_rfl
  | raw _ _ _ _ ih => exact ih.trans (List.suffix_cons _ _)
  | escape hesc _ ih => exact (ih.trans (hg.suffix hesc)).trans (List.suffix_cons _ _)

theorem reads_of_spells (hg : g.Local) {cs : Units} {v : List Piece} (h : Spells g cs v)
    (rest : Units) : Reads g (cs ++ quote :: rest) v rest := by
  induction h with
  | nil => exact .close rest
  | raw hquote hslash hraw _ ih => exact .raw hquote hslash hraw ih
  | escape hesc _ ih => exact .escape (hg.extend _ hesc) ih

theorem spells_of_reads (hg : g.Local) {cs rest : Units} {v : List Piece}
    (h : Reads g (cs ++ quote :: rest) v rest) : Spells g cs v := by
  generalize htext : cs ++ quote :: rest = text at h
  induction h generalizing cs with
  | close rest =>
      have hnil : cs = [] := by
        have hlen := congrArg List.length htext
        simp only [List.length_append, List.length_cons] at hlen
        exact List.eq_nil_of_length_eq_zero (by omega)
      rw [hnil]
      exact .nil
  | raw hquote hslash hraw _ ih =>
      cases cs with
      | nil =>
          cases htext
          exact absurd rfl hquote
      | cons c cs =>
          cases htext
          exact .raw hquote hslash hraw (ih rfl)
  | @escape tail tail' rest w v hesc hrest ih =>
      cases cs with
      | nil => cases htext
      | cons c cs =>
          cases htext
          -- The escape ends in front of the quote that closes the literal.
          have hsuffix := List.suffix_of_suffix_length_le (List.suffix_append cs (quote :: rest))
            (hg.suffix hesc) (hrest.suffix hg).length_le
          rcases hsuffix with ⟨inner, hinner⟩
          rw [← hinner] at hesc
          exact .escape (hg.restrict _ hesc) (ih hinner)

/-- A text is read up to the quote behind it exactly when it is spelled. -/
theorem reads_quote_iff (hg : g.Local) {cs rest : Units} {v : List Piece} :
    Reads g (cs ++ quote :: rest) v rest ↔ Spells g cs v :=
  ⟨spells_of_reads hg, fun h => reads_of_spells hg h rest⟩

/-! ## Parts of escapes -/

def hexUnit (c : ℕ) : Option ℕ :=
  if 48 ≤ c ∧ c ≤ 57 then some (c - 48)
  else if 97 ≤ c ∧ c ≤ 102 then some (c - 87)
  else if 65 ≤ c ∧ c ≤ 70 then some (c - 55)
  else none

def octalUnit (c : ℕ) : Option ℕ :=
  if 48 ≤ c ∧ c ≤ 55 then some (c - 48) else none

/-- The number that exactly `n` digits are, and what is behind them. -/
def digits (digit : ℕ → Option ℕ) (base : ℕ) : ℕ → Units → Option (ℕ × Units)
  | 0, cs => some (0, cs)
  | _ + 1, [] => none
  | n + 1, c :: cs =>
      (digits digit base n cs).bind fun r => (digit c).map fun d => (d * base ^ n + r.1, r.2)

/-- The number that one digit or more are, `n` at most. -/
def upToDigits (digit : ℕ → Option ℕ) (base : ℕ) : ℕ → Units → Option (ℕ × Units)
  | 0, _ => none
  | n + 1, cs =>
      match digits digit base (n + 1) cs with
      | some r => some r
      | none => upToDigits digit base n cs

def isSurrogateUnit (c : ℕ) : Bool :=
  0xD800 ≤ c && c ≤ 0xDFFF

/-- The code units of a code point. -/
def unitsOf (point : ℕ) : Units :=
  if point < 0x10000 then [point]
  else [0xD800 + (point - 0x10000) / 1024, 0xDC00 + (point - 0x10000) % 1024]

/-- What a letter behind a backslash stands for. -/
def short (table : List (Char × ℕ)) (c : ℕ) : Option ℕ :=
  (table.find? fun e => e.1.toNat == c).map Prod.snd

def one (x : ℕ) : Option (List Piece) :=
  some [.unit x]

/-- A code point up to the last. -/
def point (x : ℕ) : Option (List Piece) :=
  if x ≤ 0x10FFFF then some ((unitsOf x).map .unit) else none

/-- A code point that is no surrogate. -/
def scalar (x : ℕ) : Option (List Piece) :=
  if isSurrogateUnit x then none else point x

/-- A byte; below 128 it is a character. -/
def byte (x : ℕ) : Option (List Piece) :=
  if x < 128 then some [.unit x] else if x ≤ 255 then some [.byte x] else none

/-- Read a number, and make a value of it. -/
def valued (f : Units → Option (ℕ × Units)) (value : ℕ → Option (List Piece)) (cs : Units) :
    Option (List Piece × Units) :=
  (f cs).bind fun r => (value r.1).map fun w => (w, r.2)

/-! ## JSON -/

def jsonShort : List (Char × ℕ) :=
  [('"', 34), ('\\', 92), ('/', 47), ('b', 8), ('f', 12), ('n', 10), ('r', 13), ('t', 9)]

/-- The escape that begins with `c`. -/
def jsonEscape (c : ℕ) (cs : Units) : Option (List Piece × Units) :=
  if c = 'u'.toNat then valued (digits hexUnit 16 4) one cs
  else (short jsonShort c).map fun u => ([.unit u], cs)

def json : Grammar where
  raw c := 32 ≤ c
  escape
    | [] => none
    | c :: cs => jsonEscape c cs

/-! ## Go -/

def goShort : List (Char × ℕ) :=
  [('a', 7), ('b', 8), ('f', 12), ('n', 10), ('r', 13), ('t', 9), ('v', 11), ('\\', 92), ('"', 34)]

/-- The escape that begins with `c`. -/
def goEscape (c : ℕ) (cs : Units) : Option (List Piece × Units) :=
  if c = 'x'.toNat then valued (digits hexUnit 16 2) byte cs
  else if c = 'u'.toNat then valued (digits hexUnit 16 4) scalar cs
  else if c = 'U'.toNat then valued (digits hexUnit 16 8) scalar cs
  else
    match octalUnit c with
    | some d => valued (digits octalUnit 8 2) (fun x => byte (d * 64 + x)) cs
    | none => (short goShort c).map fun u => ([.unit u], cs)

/-- An interpreted string literal.  A compiler takes neither a zero character nor a byte order mark
inside a file. -/
def go : Grammar where
  raw c := c ≠ 10 && c ≠ 0 && c ≠ 0xFEFF
  escape
    | [] => none
    | c :: cs => goEscape c cs

/-! ## JavaScript -/

def jsShort : List (Char × ℕ) :=
  [('b', 8), ('t', 9), ('n', 10), ('v', 11), ('f', 12), ('r', 13), ('"', 34), ('\'', 39),
    ('\\', 92)]

/-- A code point in braces, from behind the opening one. -/
def bracedPoint (cs : Units) : Option (List Piece × Units) :=
  let n := (cs.takeWhile fun c => (hexUnit c).isSome).length
  if n = 0 then none
  else
    match valued (digits hexUnit 16 n) point cs with
    | some (w, 125 :: rest) => some (w, rest)
    | _ => none

/-- In a module, where octal escapes are errors.  A unit without a meaning stands for itself. -/
def javascript : Grammar where
  raw c := c ≠ 10 && c ≠ 13
  escape
    | [] => none
    | 13 :: 10 :: cs => some ([], cs)
    | c :: cs =>
        if c = 'u'.toNat then
          match cs with
          | 123 :: rest => bracedPoint rest
          | _ => valued (digits hexUnit 16 4) one cs
        else
          match short jsShort c with
          | some u => some ([.unit u], cs)
          | none =>
              if c = 10 ∨ c = 13 ∨ c = 0x2028 ∨ c = 0x2029 then some ([], cs)
              else if c = 'x'.toNat then valued (digits hexUnit 16 2) one cs
              else if c = '0'.toNat then
                if (cs.head?.any fun d => 48 ≤ d && d ≤ 57) then none else some ([.unit 0], cs)
              else if 49 ≤ c ∧ c ≤ 57 then none
              else some ([.unit c], cs)

/-! ## Python -/

def pythonShort : List (Char × ℕ) :=
  [('\\', 92), ('\'', 39), ('"', 34), ('a', 7), ('b', 8), ('f', 12), ('n', 10), ('r', 13), ('t', 9),
    ('v', 11)]

/-- A character by its name in braces, from behind the opening one. -/
def namedPoint (name : Units → Option ℕ) (cs : Units) : Option (List Piece × Units) :=
  match (name (cs.takeWhile (· ≠ 125))).bind point, cs.dropWhile (· ≠ 125) with
  | some w, _ :: rest => some (w, rest)
  | _, _ => none

/-- A string literal without a prefix; `name` are the names of characters.  A backslash without a
meaning stands for itself. -/
def python (name : Units → Option ℕ) : Grammar where
  raw c := c ≠ 10 && c ≠ 13 && c ≠ 0
  escape
    | [] => none
    | 13 :: 10 :: cs => some ([], cs)
    | c :: cs =>
        if c = 'u'.toNat then valued (digits hexUnit 16 4) one cs
        else
          match short pythonShort c with
          | some u => some ([.unit u], cs)
          | none =>
              if c = 10 ∨ c = 13 then some ([], cs)
              else if c = 'x'.toNat then valued (digits hexUnit 16 2) one cs
              else if c = 'U'.toNat then valued (digits hexUnit 16 8) point cs
              else if c = 'N'.toNat then
                match cs with
                | 123 :: rest => namedPoint name rest
                | _ => none
              else if (octalUnit c).isSome then valued (upToDigits octalUnit 8 3) one (c :: cs)
              else some ([.unit backslash], c :: cs)

/-! ## What the four have in common -/

def sharedShort : List (Char × ℕ) :=
  [('"', 34), ('\\', 92), ('b', 8), ('f', 12), ('n', 10), ('r', 13), ('t', 9)]

/-- A code unit that is a code point. -/
def wholeUnit (x : ℕ) : Option (List Piece) :=
  if isSurrogateUnit x then none else one x

/-- The escape that begins with `c`. -/
def sharedEscape (c : ℕ) (cs : Units) : Option (List Piece × Units) :=
  if c = 'u'.toNat then valued (digits hexUnit 16 4) wholeUnit cs
  else (short sharedShort c).map fun u => ([.unit u], cs)

def shared : Grammar where
  raw c := 32 ≤ c && c ≠ 0xFEFF
  escape
    | [] => none
    | c :: cs => sharedEscape c cs

/-! ## Their escapes are local -/

namespace LocalReader

variable {α : Type} {f : Units → Option (α × Units)}

theorem const (x : Option α) : LocalReader fun cs => x.map fun a => (a, cs) where
  suffix := by
    intro cs rest a h
    rcases Option.map_eq_some_iff.1 h with ⟨a, -, ha⟩
    cases ha
    exact List.suffix_rfl
  extend := by
    intro cs rest a more h
    rcases Option.map_eq_some_iff.1 h with ⟨a, hx, ha⟩
    cases ha
    rw [hx]
    rfl
  restrict := by
    intro cs rest a more h
    rcases Option.map_eq_some_iff.1 h with ⟨a, hx, ha⟩
    rcases Prod.mk.inj ha with ⟨rfl, hrest⟩
    rw [hx, List.append_cancel_right hrest]
    rfl

/-- A unit, and a reader that depends on it. -/
theorem cons {f : ℕ → Units → Option (α × Units)} (h : ∀ c, LocalReader (f c)) :
    LocalReader fun
      | [] => none
      | c :: cs => f c cs where
  suffix := by
    intro cs rest x hread
    cases cs with
    | nil => cases hread
    | cons c cs => exact ((h c).suffix hread).trans (List.suffix_cons c cs)
  extend := by
    intro cs rest x more hread
    cases cs with
    | nil => cases hread
    | cons c cs => exact (h c).extend more hread
  restrict := by
    intro cs rest x more hread
    cases cs with
    | nil =>
        cases more with
        | nil => cases hread
        | cons c more =>
            -- The rest would be longer than what was read from.
            have hlen := ((h c).suffix hread).length_le
            simp only [List.length_append, List.length_cons] at hlen
            omega
    | cons c cs => exact (h c).restrict more hread

theorem filterMap {β : Type} (h : LocalReader f) (k : α → Option β) :
    LocalReader fun cs => (f cs).bind fun r => (k r.1).map fun b => (b, r.2) where
  suffix := by
    intro cs rest b hread
    rcases Option.bind_eq_some_iff.1 hread with ⟨⟨a, rest'⟩, hf, hk⟩
    rcases Option.map_eq_some_iff.1 hk with ⟨b, -, hb⟩
    cases hb
    exact h.suffix hf
  extend := by
    intro cs rest b more hread
    rcases Option.bind_eq_some_iff.1 hread with ⟨⟨a, rest'⟩, hf, hk⟩
    rcases Option.map_eq_some_iff.1 hk with ⟨b, hkb, hb⟩
    cases hb
    exact Option.bind_eq_some_iff.2 ⟨_, h.extend more hf, Option.map_eq_some_iff.2 ⟨b, hkb, rfl⟩⟩
  restrict := by
    intro cs rest b more hread
    rcases Option.bind_eq_some_iff.1 hread with ⟨⟨a, rest'⟩, hf, hk⟩
    rcases Option.map_eq_some_iff.1 hk with ⟨b, hkb, hb⟩
    cases hb
    exact Option.bind_eq_some_iff.2 ⟨_, h.restrict more hf, Option.map_eq_some_iff.2 ⟨b, hkb, rfl⟩⟩

theorem digits (digit : ℕ → Option ℕ) (base n : ℕ) : LocalReader (digits digit base n) := by
  induction n with
  | zero => exact const (some 0)
  | succ n ih =>
      have hstep : Literal.digits digit base (n + 1) = fun
          | [] => none
          | c :: cs => (Literal.digits digit base n cs).bind fun r =>
              ((digit c).map fun d => d * base ^ n + r.1).map fun b => (b, r.2) := by
        funext cs
        cases cs with
        | nil => rfl
        | cons c cs => simp only [Literal.digits, Option.map_map, Function.comp_def]
      rw [hstep]
      exact cons fun c => ih.filterMap fun x => (digit c).map fun d => d * base ^ n + x

theorem valued {f : Units → Option (ℕ × Units)} (h : LocalReader f)
    (value : ℕ → Option (List Piece)) : LocalReader (valued f value) :=
  h.filterMap value

end LocalReader

theorem local_short (table : List (Char × ℕ)) (c : ℕ) :
    LocalReader fun cs => (short table c).map fun u => ([Piece.unit u], cs) := by
  have h := LocalReader.const ((short table c).map fun u => [Piece.unit u])
  simpa only [Option.map_map, Function.comp_def] using h

theorem local_json : json.Local := by
  refine LocalReader.cons (f := jsonEscape) fun c => ?_
  unfold jsonEscape
  split
  · exact (LocalReader.digits hexUnit 16 4).valued one
  · exact local_short jsonShort c

theorem local_go : go.Local := by
  refine LocalReader.cons (f := goEscape) fun c => ?_
  unfold goEscape
  split_ifs
  · exact (LocalReader.digits hexUnit 16 2).valued byte
  · exact (LocalReader.digits hexUnit 16 4).valued scalar
  · exact (LocalReader.digits hexUnit 16 8).valued scalar
  · cases octalUnit c with
    | some d => exact (LocalReader.digits octalUnit 8 2).valued _
    | none => exact local_short goShort c

theorem local_shared : shared.Local := by
  refine LocalReader.cons (f := sharedEscape) fun c => ?_
  unfold sharedEscape
  split
  · exact (LocalReader.digits hexUnit 16 4).valued _
  · exact local_short sharedShort c

/-! ## What the four have in common, they all read -/

theorem Reads.mono {h : Grammar}
    (hraw : ∀ c, c ≠ quote → c ≠ backslash → g.raw c = true → h.raw c = true)
    (hesc : ∀ cs r, g.escape cs = some r → h.escape cs = some r) {cs rest : Units}
    {v : List Piece} (hreads : Reads g cs v rest) : Reads h cs v rest := by
  induction hreads with
  | close rest => exact .close rest
  | raw hquote hslash hc _ ih => exact .raw hquote hslash (hraw _ hquote hslash hc) ih
  | escape he _ ih => exact .escape (hesc _ _ he) ih

theorem hexUnit_lt {c d : ℕ} (h : hexUnit c = some d) : d < 16 := by
  unfold hexUnit at h
  split_ifs at h <;> cases h <;> omega

theorem digits_lt {digit : ℕ → Option ℕ} {base : ℕ} (hdigit : ∀ c d, digit c = some d → d < base)
    {n x : ℕ} {cs rest : Units} (h : digits digit base n cs = some (x, rest)) : x < base ^ n := by
  induction n generalizing cs x with
  | zero =>
      cases h
      exact Nat.one_pos
  | succ n ih =>
      cases cs with
      | nil => cases h
      | cons c cs =>
          rcases Option.bind_eq_some_iff.1 h with ⟨⟨y, rest'⟩, hrest, hmap⟩
          rcases Option.map_eq_some_iff.1 hmap with ⟨d, hd, hx⟩
          cases hx
          have hy := ih hrest
          have hdlt := hdigit c d hd
          calc
            d * base ^ n + y < d * base ^ n + base ^ n := Nat.add_lt_add_left hy _
            _ = (d + 1) * base ^ n := (Nat.succ_mul d _).symm
            _ ≤ base * base ^ n := Nat.mul_le_mul_right _ hdlt
            _ = base ^ (n + 1) := (Nat.pow_succ').symm

/-- What is read as a number is made of digits. -/
theorem isSome_of_digits {digit : ℕ → Option ℕ} {base n x : ℕ} {cs : Units}
    (h : digits digit base n cs = some (x, [])) : ∀ c ∈ cs, (digit c).isSome = true := by
  induction n generalizing cs x with
  | zero =>
      cases h
      exact List.forall_mem_nil _
  | succ n ih =>
      cases cs with
      | nil => cases h
      | cons c cs =>
          rcases Option.bind_eq_some_iff.1 h with ⟨⟨y, rest⟩, hrest, hmap⟩
          rcases Option.map_eq_some_iff.1 hmap with ⟨d, hd, hx⟩
          cases hx
          exact List.forall_mem_cons.2 ⟨Option.isSome_of_mem hd, ih hrest⟩

theorem exists_of_short {table : List (Char × ℕ)} {c u : ℕ} (h : short table c = some u) :
    ∃ e ∈ table, e.1.toNat = c ∧ e.2 = u := by
  rcases Option.map_eq_some_iff.1 h with ⟨e, he, hu⟩
  exact ⟨e, List.mem_of_find?_eq_some he, by simpa using List.find?_some he, hu⟩

/-- The shared escapes: a letter of the table, or `u` with a code unit that is no surrogate. -/
theorem shared_escape_cases {cs : Units} {r : List Piece × Units} (h : shared.escape cs = some r) :
    (∃ e ∈ sharedShort, ∃ rest, cs = e.1.toNat :: rest ∧ r = ([.unit e.2], rest)) ∨
      ∃ cs' x rest, cs = 'u'.toNat :: cs' ∧ digits hexUnit 16 4 cs' = some (x, rest) ∧
        isSurrogateUnit x = false ∧ r = ([.unit x], rest) := by
  cases cs with
  | nil => cases h
  | cons c cs =>
      change sharedEscape c cs = some r at h
      unfold sharedEscape at h
      split at h
      · rename_i hu
        rcases Option.bind_eq_some_iff.1 h with ⟨⟨x, rest⟩, hx, hone⟩
        rcases Option.map_eq_some_iff.1 hone with ⟨w, hw, rfl⟩
        unfold wholeUnit at hw
        split at hw
        · cases hw
        · rename_i hsur
          cases hw
          exact .inr ⟨cs, x, rest, by rw [hu], hx, Bool.eq_false_iff.2 hsur, rfl⟩
      · rcases Option.map_eq_some_iff.1 h with ⟨u, hu, rfl⟩
        rcases exists_of_short hu with ⟨e, he, hc, rfl⟩
        exact .inl ⟨e, he, cs, by rw [hc], rfl⟩

theorem valued_eq_some {f : Units → Option (ℕ × Units)} {value : ℕ → Option (List Piece)} {x : ℕ}
    {cs rest : Units} {w : List Piece} (hx : f cs = some (x, rest)) (hw : value x = some w) :
    valued f value cs = some (w, rest) := by
  simp [valued, hx, hw]

theorem json_of_shared {cs : Units} {r : List Piece × Units} (h : shared.escape cs = some r) :
    json.escape cs = some r := by
  rcases shared_escape_cases h with ⟨e, he, rest, rfl, rfl⟩ | ⟨cs', x, rest, rfl, hx, -, rfl⟩
  · simp only [sharedShort, List.mem_cons, List.not_mem_nil, or_false] at he
    rcases he with rfl | rfl | rfl | rfl | rfl | rfl | rfl <;> rfl
  · exact valued_eq_some hx rfl

theorem scalar_of_lt {x : ℕ} (hx : x < 0x10000) (hsur : isSurrogateUnit x = false) :
    scalar x = some [.unit x] := by
  have hmax : x ≤ 0x10FFFF := by
    omega
  simp [scalar, hsur, point, hmax, unitsOf, hx]

theorem go_of_shared {cs : Units} {r : List Piece × Units} (h : shared.escape cs = some r) :
    go.escape cs = some r := by
  rcases shared_escape_cases h with ⟨e, he, rest, rfl, rfl⟩ | ⟨cs', x, rest, rfl, hx, hsur, rfl⟩
  · simp only [sharedShort, List.mem_cons, List.not_mem_nil, or_false] at he
    rcases he with rfl | rfl | rfl | rfl | rfl | rfl | rfl <;> rfl
  · have hlt : x < 0x10000 := digits_lt (fun _ _ => hexUnit_lt) hx
    exact valued_eq_some hx (scalar_of_lt hlt hsur)

theorem javascript_of_shared {cs : Units} {r : List Piece × Units}
    (h : shared.escape cs = some r) : javascript.escape cs = some r := by
  rcases shared_escape_cases h with ⟨e, he, rest, rfl, rfl⟩ | ⟨cs', x, rest, rfl, hx, -, rfl⟩
  · simp only [sharedShort, List.mem_cons, List.not_mem_nil, or_false] at he
    rcases he with rfl | rfl | rfl | rfl | rfl | rfl | rfl <;> rfl
  · have hread : valued (digits hexUnit 16 4) one cs' = some ([.unit x], rest) :=
      valued_eq_some hx rfl
    cases cs' with
    | nil => exact hread
    | cons d cs =>
        by_cases hbrace : d = 123
        · -- A brace is no digit.
          rw [hbrace] at hx
          rcases Option.bind_eq_some_iff.1 hx with ⟨y, -, hy⟩
          cases hy
        · simp [javascript, hbrace, hread]

theorem python_of_shared (name : Units → Option ℕ) {cs : Units} {r : List Piece × Units}
    (h : shared.escape cs = some r) : (python name).escape cs = some r := by
  rcases shared_escape_cases h with ⟨e, he, rest, rfl, rfl⟩ | ⟨cs', x, rest, rfl, hx, -, rfl⟩
  · simp only [sharedShort, List.mem_cons, List.not_mem_nil, or_false] at he
    rcases he with rfl | rfl | rfl | rfl | rfl | rfl | rfl <;> rfl
  · exact valued_eq_some hx rfl

section Raw

variable {c : ℕ} (name : Units → Option ℕ) (h : shared.raw c = true)

include h

theorem json_raw_of_shared : json.raw c = true := by
  simp only [shared, json, Bool.and_eq_true, decide_eq_true_eq] at h ⊢
  exact h.1

theorem go_raw_of_shared : go.raw c = true := by
  simp only [shared, go, Bool.and_eq_true, decide_eq_true_eq] at h ⊢
  exact ⟨by omega, h.2⟩

theorem javascript_raw_of_shared : javascript.raw c = true := by
  simp only [shared, javascript, Bool.and_eq_true, decide_eq_true_eq] at h ⊢
  omega

theorem python_raw_of_shared : (python name).raw c = true := by
  simp only [shared, python, Bool.and_eq_true, decide_eq_true_eq] at h ⊢
  omega

end Raw

/-! ## What JSON and Go both read, they share -/

theorem exists_of_valued {f : Units → Option (ℕ × Units)} {value : ℕ → Option (List Piece)}
    {cs : Units} {r : List Piece × Units} (h : valued f value cs = some r) :
    ∃ x, f cs = some (x, r.2) ∧ value x = some r.1 := by
  rcases Option.bind_eq_some_iff.1 h with ⟨⟨x, rest⟩, hx, hmap⟩
  rcases Option.map_eq_some_iff.1 hmap with ⟨w, hw, rfl⟩
  exact ⟨x, hx, hw⟩

/-- The letters behind a backslash in JSON, and what they are in Go. -/
theorem shared_of_jsonShort {e : Char × ℕ} (he : e ∈ jsonShort) {cs : Units}
    {r : List Piece × Units} (h : go.escape (e.1.toNat :: cs) = some r) :
    shared.escape (e.1.toNat :: cs) = some ([.unit e.2], cs) ∧ r = ([.unit e.2], cs) := by
  -- The slash is the one letter of JSON that is none of Go.
  simp only [jsonShort, List.mem_cons, List.not_mem_nil, or_false] at he
  rcases he with rfl | rfl | rfl | rfl | rfl | rfl | rfl | rfl
  all_goals first
    | cases h; exact ⟨rfl, rfl⟩
    | cases h

/-- Behind `u` Go takes what JSON takes, surrogates apart. -/
theorem shared_of_codeUnit {cs : Units} {r r' : List Piece × Units}
    (hjson : valued (digits hexUnit 16 4) one cs = some r)
    (hgo : valued (digits hexUnit 16 4) scalar cs = some r') :
    valued (digits hexUnit 16 4) wholeUnit cs = some r ∧ r = r' := by
  rcases r with ⟨w, rest⟩
  rcases r' with ⟨w', rest'⟩
  rcases exists_of_valued hjson with ⟨x, hx, hone⟩
  rcases exists_of_valued hgo with ⟨y, hy, hscalar⟩
  cases hx.symm.trans hy
  cases hone
  -- Go refuses a surrogate, where JSON takes the code unit.
  by_cases hsur : isSurrogateUnit x = true
  · rw [scalar, if_pos hsur] at hscalar
    cases hscalar
  · have hlt : x < 0x10000 := digits_lt (fun _ _ => hexUnit_lt) hx
    rw [scalar_of_lt hlt (Bool.eq_false_iff.2 hsur)] at hscalar
    cases hscalar
    exact ⟨valued_eq_some hx (if_neg hsur), rfl⟩

theorem shared_of_json_go {cs : Units} {r r' : List Piece × Units}
    (hjson : json.escape cs = some r) (hgo : go.escape cs = some r') :
    shared.escape cs = some r ∧ r = r' := by
  cases cs with
  | nil => cases hjson
  | cons c cs =>
      have hcases : jsonEscape c cs = some r := hjson
      unfold jsonEscape at hcases
      split at hcases
      · rename_i hu
        rw [hu] at hgo ⊢
        exact shared_of_codeUnit hcases hgo
      · rcases Option.map_eq_some_iff.1 hcases with ⟨u, hu, rfl⟩
        rcases exists_of_short hu with ⟨e, he, rfl, rfl⟩
        rcases shared_of_jsonShort he hgo with ⟨hshared, rfl⟩
        exact ⟨hshared, rfl⟩

/-- What both JSON and Go spell, is spelled with the shared escapes. -/
theorem Spells.shared {cs : Units} {v w : List Piece} (hjson : Spells json cs v)
    (hgo : Spells go cs w) : Spells shared cs v ∧ v = w := by
  induction hjson generalizing w with
  | nil =>
      cases hgo
      exact ⟨.nil, rfl⟩
  | @raw c cs v hquote hslash hraw _ ih =>
      cases hgo with
      | raw _ _ hraw' hrest =>
          rcases ih hrest with ⟨hshared, rfl⟩
          have hboth : Literal.shared.raw c = true := by
            simp only [json, go, Literal.shared, Bool.and_eq_true, decide_eq_true_eq]
              at hraw hraw' ⊢
            exact ⟨hraw, hraw'.2⟩
          exact ⟨.raw hquote hslash hboth hshared, rfl⟩
      | escape => exact absurd rfl hslash
  | escape hesc _ ih =>
      cases hgo with
      | raw _ hslash => exact absurd rfl hslash
      | escape hesc' hrest =>
          rcases shared_of_json_go hesc hesc' with ⟨hshared, hsame⟩
          cases hsame
          rcases ih hrest with ⟨hspells, rfl⟩
          exact ⟨.escape hshared hspells, rfl⟩

/-! ## Texts and shell quotes -/

def isHighSurrogate (c : ℕ) : Bool :=
  0xD800 ≤ c && c ≤ 0xDBFF

def isLowSurrogate (c : ℕ) : Bool :=
  0xDC00 ≤ c && c ≤ 0xDFFF

/-- Surrogates come in pairs; `true` behind the first half of one. -/
def textFrom : Bool → Units → Bool
  | high, [] => !high
  | true, c :: cs => isLowSurrogate c && textFrom false cs
  | false, c :: cs =>
      if isHighSurrogate c then textFrom true cs else !isLowSurrogate c && textFrom false cs

abbrev isText (cs : Units) : Bool :=
  textFrom false cs

/-- The inside of a shell's single quotes, from behind the opening one, and what is behind the
closing one. -/
def singleQuoted (cs : Units) : Option (Units × Units) :=
  match cs.dropWhile (· ≠ apostrophe) with
  | _ :: rest => some (cs.takeWhile (· ≠ apostrophe), rest)
  | [] => none

theorem singleQuoted_eq_some {cs inside rest : Units} :
    singleQuoted cs = some (inside, rest) ↔
      cs = inside ++ apostrophe :: rest ∧ apostrophe ∉ inside := by
  constructor
  · intro h
    unfold singleQuoted at h
    split at h
    · rename_i c rest' hdrop
      cases h
      have hhead := List.head?_dropWhile_not (fun c => decide (c ≠ apostrophe)) cs
      rw [hdrop] at hhead
      have hc : c = apostrophe := by
        simpa using hhead
      refine ⟨?_, fun hmem => by simpa using List.mem_takeWhile_imp hmem⟩
      calc
        cs = cs.takeWhile (· ≠ apostrophe) ++ cs.dropWhile (· ≠ apostrophe) :=
          (List.takeWhile_append_dropWhile).symm
        _ = cs.takeWhile (· ≠ apostrophe) ++ apostrophe :: rest := by rw [hdrop, hc]
    · cases h
  · rintro ⟨rfl, hmem⟩
    have hall : ∀ c ∈ inside, (decide (c ≠ apostrophe)) = true := by
      rintro c hc
      rw [decide_eq_true_iff]
      rintro rfl
      exact hmem hc
    have htake : (inside ++ apostrophe :: rest).takeWhile (· ≠ apostrophe) = inside := by
      rw [List.takeWhile_append_of_pos hall]
      simp
    have hdrop : (inside ++ apostrophe :: rest).dropWhile (· ≠ apostrophe) =
        apostrophe :: rest := by
      rw [List.dropWhile_append_of_pos hall]
      simp
    simp only [singleQuoted, hdrop, htake]

end Literal
end Base
end OpenRouter
