import OpenRouter.Base.Binary64
import OpenRouter.Base.DecimalText
import OpenRouter.Gateway.RoutedModel
import OpenRouter.Gateway.StreamedMessage

/-!
# Parameters — which settings of a request reach Anthropic

`NormalizeRequest` reads the client's body into a struct and writes another one.  `Conveys` asks of
the four settings that both APIs have that a set one arrives with its value and an unset one does
not arrive; `carries_iff` says for which requests it does.
-/

namespace OpenRouter
namespace Gateway

open Base

/-! ## The value of a literal -/

def fractionDigits : List Char → List Char
  | '.' :: cs => cs.takeWhile isDigit
  | _ => []

def exponentDigits : List Char → List Char
  | '.' :: cs => cs.dropWhile isDigit
  | cs => cs

/-- The power of ten behind the digits. -/
def exponentValue : List Char → ℤ
  | _ :: '-' :: ds => -(digitsValue ds : ℤ)
  | _ :: '+' :: ds => digitsValue ds
  | _ :: ds => digitsValue ds
  | [] => 0

/-- The number that a literal stands for. -/
def literalValue (n : Number) : ℚ :=
  let cs := afterSign n.text
  let rest := cs.dropWhile isDigit
  let digits := cs.takeWhile isDigit ++ fractionDigits rest
  (if n.text.head? = some '-' then -1 else 1) * digitsValue digits *
    10 ^ (exponentValue (exponentDigits rest) - (fractionDigits rest).length)

theorem digitsValue_natLiteral (n : ℕ) : digitsValue (natLiteral n) = n :=
  digitsNat_natLiteral n

/-- A literal of digits alone. -/
theorem literalValue_of_digits {n : Number} (h : (afterSign n.text).all isDigit = true) :
    literalValue n =
      (if n.text.head? = some '-' then -1 else 1) * (digitsValue (afterSign n.text) : ℚ) := by
  have hall := List.all_eq_true.1 h
  have htake : (afterSign n.text).takeWhile isDigit = afterSign n.text :=
    List.takeWhile_eq_self_iff.2 hall
  have hdrop : (afterSign n.text).dropWhile isDigit = [] := List.dropWhile_eq_nil_iff.2 hall
  simp [literalValue, htake, hdrop, fractionDigits, exponentDigits, exponentValue]

theorem literalValue_of_parseInt64 {n : Number} {k : ℤ} (h : parseInt64 n = some k) :
    literalValue n = k := by
  rw [parseInt64, Option.ite_none_right_eq_some, Option.some.injEq] at h
  rcases h with ⟨⟨hdigits, -⟩, hk⟩
  rw [literalValue_of_digits hdigits, ← hk]
  split
  · push_cast
    ring
  · push_cast
    ring

theorem literalValue_intNumber (k : ℤ) : literalValue (intNumber k) = k := by
  rcases natLiteral_cases k.natAbs with ⟨hdigits, -⟩
  have hhead : ∀ cs : List Char, (∀ c ∈ cs, isDigit c = true) → cs.head? ≠ some '-' := by
    intro cs hcs hminus
    exact absurd (hcs '-' (List.mem_of_head? hminus)) (by decide)
  by_cases hneg : k < 0
  · have htext : (intNumber k).text = '-' :: natLiteral k.natAbs := by
      simp [intNumber, intLiteral, hneg]
    have hall : (afterSign (intNumber k).text).all isDigit = true := by
      rw [htext]
      exact List.all_eq_true.2 hdigits
    rw [literalValue_of_digits hall, htext, List.head?_cons, if_pos rfl]
    simp only [afterSign, digitsValue_natLiteral]
    have habs : ((k.natAbs : ℤ) : ℚ) = -k := by
      rw [Int.ofNat_natAbs_of_nonpos hneg.le, Int.cast_neg]
    rw [Int.cast_natCast] at habs
    rw [habs]
    ring
  · have htext : (intNumber k).text = natLiteral k.natAbs := by
      simp [intNumber, intLiteral, hneg]
    have hsign : afterSign (natLiteral k.natAbs) = natLiteral k.natAbs := by
      have hnot := hhead _ hdigits
      unfold afterSign
      split
      · rename_i cs hcs
        rw [hcs] at hnot
        exact absurd rfl hnot
      · rfl
    have hall : (afterSign (intNumber k).text).all isDigit = true := by
      rw [htext, hsign]
      exact List.all_eq_true.2 hdigits
    rw [literalValue_of_digits hall, htext, hsign, if_neg (hhead _ hdigits),
      digitsValue_natLiteral]
    have habs : ((k.natAbs : ℤ) : ℚ) = k := by
      rw [Int.natAbs_of_nonneg (not_lt.1 hneg)]
    rw [Int.cast_natCast] at habs
    rw [habs, one_mul]

/-! ## Settings -/

/-- The settings that both APIs have. -/
def settings : List String :=
  ["temperature", "top_p", "max_tokens", "stream"]

/-- A value that the OpenAI API takes for a setting. -/
def Allowed (field : String) : Json → Prop
  | .num n =>
      field = "temperature" ∧ 0 ≤ literalValue n ∧ literalValue n ≤ 2 ∨
        field = "top_p" ∧ 0 ≤ literalValue n ∧ literalValue n ≤ 1 ∨
          field = "max_tokens" ∧ ∃ k : ℤ, 1 ≤ k ∧ literalValue n = k
  | .bool _ => field = "stream"
  | _ => False

/-- A number of tokens is the same integer, another number the same double. -/
def SameValue (field : String) : Json → Json → Prop
  | .num n, .num n' =>
      if field = "max_tokens" then literalValue n' = literalValue n
      else toBinary64 (literalValue n') = toBinary64 (literalValue n)
  | .bool b, .bool b' => b' = b
  | _, _ => False

/-- The client leaves the setting out, or says `null`. -/
def Unset (field : String) (asked : Json) : Prop :=
  ∀ v, memberOf field asked = some v → v = .null

/-- The settings of the client's request are those of the upstream's. -/
structure Conveys (asked sent : Json) : Prop where
  set : ∀ field ∈ settings, ∀ v, memberOf field asked = some v → Allowed field v →
    ∃ v', memberOf field sent = some v' ∧ SameValue field v v'
  unset : ∀ field ∈ settings, field ≠ "max_tokens" → Unset field asked →
    memberOf field sent = none
  default : Unset "max_tokens" asked →
    ∃ n, memberOf "max_tokens" sent = some (.num n) ∧ literalValue n = 4096

/-! ## Reading -/

theorem memberOf_cons (field key : String) (v : Json) (ms : List (String × Json)) :
    memberOf field (.obj ((key, v) :: ms)) =
      if key = field then some v else memberOf field (.obj ms) := by
  by_cases h : key = field <;> simp [memberOf, h]

/-- What a struct has in a field, after members of different names. -/
theorem field_of_decodeStruct {α β : Type} {set : String → α → Json → Option α} (field : String)
    (get : α → β) (decoder : Decoder β)
    (hthis : ∀ a v a', set field a v = some a' → decoder (get a) v = some (get a'))
    (hother : ∀ key a v a', isField field key = false → set key a v = some a' → get a' = get a)
    {ms : List (String × Json)} (hnames : (ms.map Prod.fst).Nodup)
    (hspelled : ∀ kv ∈ ms, isField field kv.1 = true → kv.1 = field) {a a' : α}
    (h : decodeStruct set a (.obj ms) = some a') :
    match memberOf field (.obj ms) with
    | none => get a' = get a
    | some v => decoder (get a) v = some (get a') := by
  induction ms generalizing a with
  | nil =>
      cases h
      rfl
  | cons kv ms ih =>
      rcases kv with ⟨key, v⟩
      rw [List.map_cons, List.nodup_cons] at hnames
      rcases List.forall_mem_cons.1 hspelled with ⟨hkey, hrest⟩
      rw [decodeStruct, List.foldlM_cons] at h
      rcases Option.bind_eq_some_iff.1 h with ⟨a₁, hset, hfold⟩
      have htail := ih hnames.2 hrest hfold
      rw [memberOf_cons]
      by_cases hname : key = field
      · subst hname
        -- No later member has the name.
        have hnone : memberOf key (.obj ms) = none := by
          have hfind : ms.find? (fun m => m.1 == key) = none := by
            refine List.find?_eq_none.2 fun m hm hsame => hnames.1 ?_
            exact List.mem_map.2 ⟨m, hm, eq_of_beq hsame⟩
          simp only [memberOf, hfind, Option.map_none]
        rw [hnone] at htail
        simp only [if_true]
        rw [hthis a v a₁ hset]
        exact congrArg some htail.symm
      · have hnot : isField field key = false := by
          rw [← Bool.not_eq_true]
          exact fun hfield => hname (hkey hfield)
        rw [if_neg hname, ← hother key a v a₁ hnot hset]
        exact htail

/-- The members of a request, as its struct has them. -/
structure Decodes (rt : Runtime) (asked : Json) (req : OpenAIChatRequest) : Prop where
  temperature : match memberOf "temperature" asked with
    | none => req.temperature = zeroFloat
    | some v => decodeFloat rt zeroFloat v = some req.temperature
  topP : match memberOf "top_p" asked with
    | none => req.topP = zeroFloat
    | some v => decodeFloat rt zeroFloat v = some req.topP
  maxTokens : match memberOf "max_tokens" asked with
    | none => req.maxTokens = 0
    | some v => decodeInt 0 v = some req.maxTokens
  stream : match memberOf "stream" asked with
    | none => req.stream = false
    | some v => decodeBool false v = some req.stream

/-- The fields that are looked at before each setting, and the setting's own. -/
theorem isField_settings :
    (∀ field ∈ ["model", "messages"], ∀ key ∈ settings, isField field key = false) ∧
      ∀ field ∈ settings, ∀ key ∈ settings, isField field key = decide (field = key) := by
  decide +kernel

theorem decodes_of_decode {rt : Runtime} {ms : List (String × Json)}
    (hnames : (ms.map Prod.fst).Nodup)
    (hspelled : ∀ kv ∈ ms, ∀ field ∈ settings, isField field kv.1 = true → kv.1 = field)
    {req : OpenAIChatRequest} (h : decodeOpenAIChatRequest rt {} (.obj ms) = some req) :
    Decodes rt (.obj ms) req := by
  have hspelled' : ∀ field ∈ settings, ∀ kv ∈ ms, isField field kv.1 = true → kv.1 = field :=
    fun field hfield kv hkv => hspelled kv hkv field hfield
  rcases isField_settings with ⟨hothers, hsettings⟩
  simp only [settings, List.forall_mem_cons, List.not_mem_nil, false_imp_iff, implies_true,
    and_true] at hothers hsettings
  refine
    { temperature := field_of_decodeStruct "temperature" OpenAIChatRequest.temperature
        (decodeFloat rt) ?_ ?_ hnames (hspelled' _ (by decide)) h
      topP := field_of_decodeStruct "top_p" OpenAIChatRequest.topP
        (decodeFloat rt) ?_ ?_ hnames (hspelled' _ (by decide)) h
      maxTokens := field_of_decodeStruct "max_tokens" OpenAIChatRequest.maxTokens
        decodeInt ?_ ?_ hnames (hspelled' _ (by decide)) h
      stream := field_of_decodeStruct "stream" OpenAIChatRequest.stream
        decodeBool ?_ ?_ hnames (hspelled' _ (by decide)) h }
  -- A setting's own member goes into its field.
  case refine_1 | refine_3 | refine_5 | refine_7 =>
    intro req v req' hset
    simp only [hothers, hsettings, Bool.false_eq_true, if_false, decide_true, decide_false,
      if_true, String.reduceEq, Option.map_eq_some_iff] at hset
    rcases hset with ⟨_, hvalue, rfl⟩
    exact hvalue
  -- A member of another name leaves the field alone.
  case refine_2 | refine_4 | refine_6 | refine_8 =>
    intro key req v req' hnot hset
    simp only [hnot, Bool.false_eq_true, if_false] at hset
    split_ifs at hset
    all_goals
      first
        | cases hset
          rfl
        | rcases Option.map_eq_some_iff.1 hset with ⟨_, _, rfl⟩
          rfl

/-! ## Writing -/

/-- The loop over the messages sets no parameter. -/
theorem foldl_addMessage (ms : List OpenAIMessage) (req : AnthropicMessagesRequest) :
    ∃ system messages,
      ms.foldl addMessage req = { req with system := system, messages := messages } := by
  induction ms generalizing req with
  | nil => exact ⟨req.system, req.messages, rfl⟩
  | cons m ms ih =>
      rcases ih (addMessage req m) with ⟨system, messages, hfold⟩
      refine ⟨system, messages, ?_⟩
      rw [List.foldl_cons, hfold]
      unfold addMessage
      split_ifs <;> rfl

theorem settings_toAnthropic (modelID : String) (req : OpenAIChatRequest) :
    (toAnthropic modelID req).maxTokens = defaultIfZero req.maxTokens 4096 ∧
      (toAnthropic modelID req).temperature = req.temperature ∧
      (toAnthropic modelID req).topP = req.topP ∧
      (toAnthropic modelID req).stream = req.stream := by
  rcases foldl_addMessage req.messages.toList
    { model := stripProviderPrefix modelID
      maxTokens := defaultIfZero req.maxTokens 4096
      temperature := req.temperature
      topP := req.topP
      stream := req.stream } with ⟨system, messages, hfold⟩
  rw [toAnthropic, hfold]
  exact ⟨rfl, rfl, rfl, rfl⟩

theorem memberOf_omitIf (empty : Bool) {key field : String} (v : Json)
    (ms : List (String × Json)) :
    memberOf field (.obj (omitIf empty key v ++ ms)) =
      if key = field ∧ empty = false then some v else memberOf field (.obj ms) := by
  cases empty with
  | true => simp [omitIf]
  | false =>
      rw [omitIf, if_neg Bool.false_ne_true, List.singleton_append, memberOf_cons]
      simp

theorem memberOf_nil (field : String) : memberOf field (.obj []) = none :=
  rfl

/-- What the upstream's body says of each setting. -/
theorem memberOf_tree (req : AnthropicMessagesRequest) :
    memberOf "temperature" req.tree =
        (if isZeroFloat req.temperature then none else some (.num req.temperature)) ∧
      memberOf "top_p" req.tree =
        (if isZeroFloat req.topP then none else some (.num req.topP)) ∧
      memberOf "max_tokens" req.tree = some (.num (intNumber req.maxTokens)) ∧
      memberOf "stream" req.tree = if req.stream then some (.bool true) else none := by
  have hlast : omitIf (!req.stream) "stream" (.bool req.stream) =
      omitIf (!req.stream) "stream" (.bool req.stream) ++ [] := (List.append_nil _).symm
  unfold AnthropicMessagesRequest.tree
  rw [hlast]
  simp only [memberOf_cons, memberOf_omitIf, List.append_assoc, memberOf_nil, String.reduceEq,
    if_false, if_true, false_and, true_and]
  refine ⟨?_, ?_, ?_⟩
  · cases isZeroFloat req.temperature <;> rfl
  · cases isZeroFloat req.topP <;> rfl
  · cases req.stream <;> rfl

/-- What is sent of a request that was decoded. -/
theorem sent_of_normalizeRequest {rt : Runtime} {modelID : String} {body : Bytes}
    {cfg : ProviderConfig} {upstream : UpstreamRequest} {ms : List (String × Json)}
    (hparse : parse (decode body) = some (.obj ms))
    (h : (anthropic rt).normalizeRequest modelID body cfg = .ok upstream) :
    ∃ req, decodeOpenAIChatRequest rt {} (.obj ms) = some req ∧
      parse (decode upstream.body) = some (toAnthropic modelID req).tree := by
  simp only [anthropic, unmarshal, hparse, Option.bind_some] at h
  split at h
  · cases h
  · rename_i req hreq
    cases h
    exact ⟨req, hreq, parse_marshal _⟩

/-! ## Setting by setting -/

/-- A setting arrives with its value, and not when it is unset. -/
def CarriesSetting (field : String) (asked sent : Option Json) : Prop :=
  (∀ v, asked = some v → Allowed field v → ∃ v', sent = some v' ∧ SameValue field v v') ∧
    ((∀ v, asked = some v → v = .null) → sent = none)

section Floats

variable {rt : Runtime}
  (hkeeps : ∀ n n', rt.float64 n = some n' →
    toBinary64 (literalValue n') = toBinary64 (literalValue n))
  (hzero : ∀ n n', rt.float64 n = some n' →
    (isZeroFloat n' = true ↔ toBinary64 (literalValue n) = 0))

include hkeeps hzero

/-- A float arrives unless it is the zero double. -/
theorem carriesSetting_float_iff {field : String} (hfield : field ≠ "max_tokens")
    {asked : Option Json} {x : Number}
    (hdecode : match asked with
      | none => x = zeroFloat
      | some v => decodeFloat rt zeroFloat v = some x) :
    CarriesSetting field asked (if isZeroFloat x then none else some (.num x)) ↔
      ∀ n, asked = some (.num n) → Allowed field (.num n) → toBinary64 (literalValue n) ≠ 0 := by
  rcases asked with _ | (_ | b | n | t | xs | ms)
  · -- Left out.
    subst hdecode
    simp [CarriesSetting, isZeroFloat, zeroFloat]
  · -- `null`.
    cases hdecode
    simp [CarriesSetting, isZeroFloat, zeroFloat, Allowed]
  · cases hdecode
  · -- A number: it is dropped exactly when its double is zero.
    have hsame := hkeeps n x hdecode
    have hdropped := hzero n x hdecode
    constructor
    · rintro ⟨hset, -⟩ n' hn hallowed hvalue
      cases hn
      rcases hset _ rfl hallowed with ⟨v', hv', -⟩
      rw [hdropped.2 hvalue] at hv'
      cases hv'
    · intro hcond
      refine ⟨?_, fun hunset => absurd (hunset _ rfl) (by simp)⟩
      intro v hv hallowed
      cases hv
      have hkept : isZeroFloat x = false := by
        rw [← Bool.not_eq_true, hdropped]
        exact hcond n rfl hallowed
      refine ⟨.num x, by simp [hkept], ?_⟩
      simpa only [SameValue, hfield, if_false] using hsame
  · cases hdecode
  · cases hdecode
  · cases hdecode

end Floats

/-- The number of tokens arrives whenever the API takes it. -/
theorem carries_maxTokens {asked : Option Json} {k : ℤ}
    (hdecode : match asked with
      | none => k = 0
      | some v => decodeInt 0 v = some k) :
    (∀ v, asked = some v → Allowed "max_tokens" v →
        SameValue "max_tokens" v (.num (intNumber (defaultIfZero k 4096)))) ∧
      ((∀ v, asked = some v → v = .null) → defaultIfZero k 4096 = 4096) := by
  rcases asked with _ | (_ | b | n | t | xs | ms)
  -- Left out and `null` leave the zero that the default replaces.
  · subst hdecode
    simp [defaultIfZero]
  · cases hdecode
    simp [defaultIfZero, Allowed]
  · cases hdecode
  · refine ⟨?_, fun hunset => absurd (hunset _ rfl) (by simp)⟩
    intro v hv hallowed
    cases hv
    have hvalue := literalValue_of_parseInt64 hdecode
    -- The API takes no zero, so the default stays out.
    have hpos : k ≠ 0 := by
      rintro rfl
      simp only [Allowed, String.reduceEq, false_and, false_or, true_and] at hallowed
      rcases hallowed with ⟨k, hk, hliteral⟩
      rw [hvalue, Int.cast_inj] at hliteral
      omega
    simp only [SameValue, if_true, defaultIfZero, hpos, if_false]
    rw [literalValue_intNumber, hvalue]
  · cases hdecode
  · cases hdecode
  · cases hdecode

/-- The stream flag arrives unless it is turned off in so many words. -/
theorem carriesSetting_stream_iff {asked : Option Json} {b : Bool}
    (hdecode : match asked with
      | none => b = false
      | some v => decodeBool false v = some b) :
    CarriesSetting "stream" asked (if b then some (.bool true) else none) ↔
      asked ≠ some (.bool false) := by
  rcases asked with _ | (_ | b' | n | t | xs | ms)
  · subst hdecode
    simp [CarriesSetting]
  · cases hdecode
    simp [CarriesSetting, Allowed]
  · -- A flag: `false` is the one that `omitempty` drops.
    cases hdecode
    cases b <;> simp [CarriesSetting, Allowed, SameValue]
  · cases hdecode
  · cases hdecode
  · cases hdecode
  · cases hdecode

/-! ## Requests -/

theorem carries_iff_settings (asked sent : Json) :
    Conveys asked sent ↔
      CarriesSetting "temperature" (memberOf "temperature" asked) (memberOf "temperature" sent) ∧
        CarriesSetting "top_p" (memberOf "top_p" asked) (memberOf "top_p" sent) ∧
        CarriesSetting "stream" (memberOf "stream" asked) (memberOf "stream" sent) ∧
        (∀ v, memberOf "max_tokens" asked = some v → Allowed "max_tokens" v →
          ∃ v', memberOf "max_tokens" sent = some v' ∧ SameValue "max_tokens" v v') ∧
        (Unset "max_tokens" asked →
          ∃ n, memberOf "max_tokens" sent = some (.num n) ∧ literalValue n = 4096) := by
  constructor
  · intro h
    have hcarries : ∀ field ∈ settings, field ≠ "max_tokens" →
        CarriesSetting field (memberOf field asked) (memberOf field sent) :=
      fun field hfield hne => ⟨h.set field hfield, h.unset field hfield hne⟩
    exact ⟨hcarries _ (by decide) (by decide), hcarries _ (by decide) (by decide),
      hcarries _ (by decide) (by decide), h.set _ (by decide), h.default⟩
  · rintro ⟨htemperature, htopP, hstream, hmax, hdefault⟩
    refine { set := ?_, unset := ?_, default := hdefault }
    · simp only [settings, List.forall_mem_cons, List.not_mem_nil, false_imp_iff, implies_true,
        and_true]
      exact ⟨htemperature.1, htopP.1, hmax, hstream.1⟩
    · simp only [settings, List.forall_mem_cons, List.not_mem_nil, false_imp_iff, implies_true,
        and_true]
      exact ⟨fun _ => htemperature.2, fun _ => htopP.2, fun hne => absurd rfl hne,
        fun _ => hstream.2⟩

/-- A request with distinct names, spelled as the API spells them, reaches Anthropic with its
settings exactly when it sets no number to the zero double and does not set `stream` to
`false`. -/
theorem carries_iff {rt : Runtime}
    (hkeeps : ∀ n n', rt.float64 n = some n' →
      toBinary64 (literalValue n') = toBinary64 (literalValue n))
    (hzero : ∀ n n', rt.float64 n = some n' →
      (isZeroFloat n' = true ↔ toBinary64 (literalValue n) = 0))
    {modelID : String} {body : Bytes} {cfg : ProviderConfig} {upstream : UpstreamRequest}
    {ms : List (String × Json)} (hparse : parse (decode body) = some (.obj ms))
    (hnames : (ms.map Prod.fst).Nodup)
    (hspelled : ∀ kv ∈ ms, ∀ field ∈ settings, isField field kv.1 = true → kv.1 = field)
    (haccept : (anthropic rt).normalizeRequest modelID body cfg = .ok upstream) :
    (∃ sent, parse (decode upstream.body) = some sent ∧ Conveys (.obj ms) sent) ↔
      (∀ field ∈ ["temperature", "top_p"], ∀ n, memberOf field (.obj ms) = some (.num n) →
          Allowed field (.num n) → toBinary64 (literalValue n) ≠ 0) ∧
        memberOf "stream" (.obj ms) ≠ some (.bool false) := by
  rcases sent_of_normalizeRequest hparse haccept with ⟨req, hdecode, hsent⟩
  have hdecodes := decodes_of_decode hnames hspelled hdecode
  rcases settings_toAnthropic modelID req with ⟨hmaxTokens, htemp, htop, hstr⟩
  rcases memberOf_tree (toAnthropic modelID req) with ⟨htemperature, htopP, hmax, hstream⟩
  rw [htemp] at htemperature
  rw [htop] at htopP
  rw [hmaxTokens] at hmax
  rw [hstr] at hstream
  rcases carries_maxTokens hdecodes.maxTokens with ⟨hset, hdefault⟩
  have hcarries : Conveys (.obj ms) (toAnthropic modelID req).tree ↔
      (∀ field ∈ ["temperature", "top_p"], ∀ n, memberOf field (.obj ms) = some (.num n) →
          Allowed field (.num n) → toBinary64 (literalValue n) ≠ 0) ∧
        memberOf "stream" (.obj ms) ≠ some (.bool false) := by
    rw [carries_iff_settings, htemperature, htopP, hmax, hstream,
      carriesSetting_float_iff hkeeps hzero (by decide) hdecodes.temperature,
      carriesSetting_float_iff hkeeps hzero (by decide) hdecodes.topP,
      carriesSetting_stream_iff hdecodes.stream]
    simp only [List.forall_mem_cons, List.not_mem_nil, false_imp_iff, implies_true, and_true]
    constructor
    · rintro ⟨hfirst, hsecond, hthird, -⟩
      exact ⟨⟨hfirst, hsecond⟩, hthird⟩
    · rintro ⟨⟨hfirst, hsecond⟩, hthird⟩
      refine ⟨hfirst, hsecond, hthird, fun v hv hallowed => ⟨_, rfl, hset v hv hallowed⟩, ?_⟩
      intro hunset
      exact ⟨_, rfl, by rw [hdefault hunset, literalValue_intNumber]; norm_num⟩
  rw [← hcarries, hsent]
  simp

/-- A runtime that keeps every literal but those of the zero double. -/
def doubles : Runtime :=
  { plainRuntime with
    float64 := fun n => if toBinary64 (literalValue n) = 0 then some zeroFloat else some n }

theorem toBinary64_zero : toBinary64 0 = 0 := by
  simp [toBinary64, roundHalfEven]

theorem literalValue_of_isZeroFloat {n : Number} (h : isZeroFloat n = true) :
    literalValue n = 0 := by
  rw [isZeroFloat, Bool.or_eq_true] at h
  rcases h with h | h <;>
    simp [literalValue, eq_of_beq h, afterSign, isDigit, fractionDigits, digitsValue]

theorem doubles_keeps (n n' : Number) (h : doubles.float64 n = some n') :
    toBinary64 (literalValue n') = toBinary64 (literalValue n) := by
  simp only [doubles] at h
  split at h
  · rename_i hvalue
    cases h
    rw [hvalue, literalValue_of_isZeroFloat rfl, toBinary64_zero]
  · cases h
    rfl

theorem doubles_zero (n n' : Number) (h : doubles.float64 n = some n') :
    isZeroFloat n' = true ↔ toBinary64 (literalValue n) = 0 := by
  simp only [doubles] at h
  split at h
  · rename_i hvalue
    cases h
    exact iff_of_true rfl hvalue
  · rename_i hvalue
    cases h
    refine iff_of_false (fun hzero => hvalue ?_) hvalue
    rw [literalValue_of_isZeroFloat hzero, toBinary64_zero]

def noKey : ProviderConfig where
  baseURL := ""
  keyEnv := ""
  headers := ∅

/-- A request of one setting. -/
def asking (field : String) (v : Json) : List (String × Json) :=
  [("model", .str "claude-4"), ("messages", .arr []), (field, v)]

theorem spelled_asking {field : String} (hfield : field ∈ settings) (v : Json) :
    ∀ kv ∈ asking field v, ∀ field' ∈ settings, isField field' kv.1 = true → kv.1 = field' := by
  have hkeys : ∀ key ∈ "model" :: "messages" :: settings, ∀ field' ∈ settings,
      isField field' key = true → key = field' := by
    decide +kernel
  intro kv hkv
  refine hkeys kv.1 ?_
  simp only [asking, List.mem_cons, List.not_mem_nil, or_false] at hkv
  rcases hkv with rfl | rfl | rfl
  · exact List.mem_cons_self
  · exact List.mem_cons_of_mem _ List.mem_cons_self
  · exact List.mem_cons_of_mem _ (List.mem_cons_of_mem _ hfield)

/-- The client asks for the temperature zero, and the upstream is not told. -/
theorem zero_temperature_is_dropped :
    Allowed "temperature" (.num zeroFloat) ∧
      ((anthropic plainRuntime).normalizeRequest "claude-4"
        (marshal (.obj (asking "temperature" (.num zeroFloat)))) noKey).isOk = true ∧
      ∀ upstream,
        (anthropic plainRuntime).normalizeRequest "claude-4"
            (marshal (.obj (asking "temperature" (.num zeroFloat)))) noKey = .ok upstream →
          ¬ ∃ sent, parse (decode upstream.body) = some sent ∧
            Conveys (.obj (asking "temperature" (.num zeroFloat))) sent := by
  have hallowed : Allowed "temperature" (.num zeroFloat) := by
    simp [Allowed, literalValue_of_isZeroFloat (n := zeroFloat) rfl]
  refine ⟨hallowed, by decide +kernel, ?_⟩
  rintro upstream haccept ⟨sent, hsent, hcarries⟩
  rcases sent_of_normalizeRequest (parse_marshal _) haccept with ⟨req, hdecode, htree⟩
  rw [htree, Option.some.injEq] at hsent
  rcases hcarries.set "temperature" (by decide) _ rfl hallowed with ⟨v', hv', -⟩
  have hzero := (decodes_of_decode (by decide) (spelled_asking (by decide) _) hdecode).temperature
  have htemperature : req.temperature = zeroFloat := (Option.some.inj hzero).symm
  rw [← hsent, (memberOf_tree _).1, (settings_toAnthropic _ req).2.1, htemperature] at hv'
  cases hv'

theorem carries_iff_one :
    ∃ upstream sent,
      (anthropic doubles).normalizeRequest "claude-4"
          (marshal (.obj (asking "temperature" (.num (intNumber 1))))) noKey = .ok upstream ∧
        parse (decode upstream.body) = some sent ∧
        Conveys (.obj (asking "temperature" (.num (intNumber 1)))) sent := by
  have hone : toBinary64 (literalValue (intNumber 1)) ≠ 0 := by
    rw [literalValue_intNumber]
    decide +kernel
  have hok : ((anthropic doubles).normalizeRequest "claude-4"
      (marshal (.obj (asking "temperature" (.num (intNumber 1))))) noKey).isOk = true := by
    decide +kernel
  cases haccept : (anthropic doubles).normalizeRequest "claude-4"
      (marshal (.obj (asking "temperature" (.num (intNumber 1))))) noKey with
  | error err =>
      rw [haccept] at hok
      cases hok
  | ok upstream =>
      have hset : ∀ field ∈ ["temperature", "top_p"], ∀ n,
          memberOf field (.obj (asking "temperature" (.num (intNumber 1)))) = some (.num n) →
            Allowed field (.num n) → toBinary64 (literalValue n) ≠ 0 := by
        intro field hfield n hn _
        simp only [List.mem_cons, List.not_mem_nil, or_false] at hfield
        rcases hfield with rfl | rfl
        · cases hn
          exact hone
        · cases hn
      rcases (carries_iff doubles_keeps doubles_zero (parse_marshal _) (by decide)
        (spelled_asking (by decide) _) haccept).2 ⟨hset, nofun⟩ with ⟨sent, hsent, hcarries⟩
      exact ⟨upstream, sent, rfl, hsent, hcarries⟩

end Gateway
end OpenRouter
