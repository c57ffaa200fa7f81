import Mathlib.Data.List.Forall2
import OpenRouter.Backend.Providers
import OpenRouter.Gateway.Parameters

/-!
# Conversations — one list of messages through two adapters

The gateway's `Anthropic.NormalizeRequest` folds the messages into a system prompt and a list; the
backend's `_split_system` collects and joins.  `splitsAlike_iff` says for which conversations the
two come to the same.
-/

namespace OpenRouter
namespace Wire

open Base Gateway Backend.Providers.AnthropicAdapter
open Backend.Providers (Message)

/-! ## System prompts -/

theorem foldl_appendSystem_of_ne {existing : String} (h : existing ≠ "") (texts : List String) :
    texts.foldl appendSystem existing = "\n\n".intercalate (existing :: texts) := by
  induction texts generalizing existing with
  | nil => rw [List.foldl_nil, String.intercalate_singleton]
  | cons text texts ih =>
      have hne : existing ++ "\n\n" ++ text ≠ "" := by
        simp [h]
      rw [List.foldl_cons, appendSystem, if_neg h, ih hne, String.intercalate_cons_append,
        String.intercalate_cons_cons]

/-- A join with an empty text in front. -/
theorem length_intercalate_empty_cons (texts : List String) :
    ("\n\n".intercalate texts).length ≤ ("\n\n".intercalate ("" :: texts)).length := by
  cases texts with
  | nil => simp
  | cons text texts => rw [String.intercalate_cons_cons, String.length_append]; omega

theorem length_foldl_appendSystem_le (texts : List String) :
    (texts.foldl appendSystem "").length ≤ ("\n\n".intercalate texts).length := by
  induction texts with
  | nil => simp
  | cons text texts ih =>
      rw [List.foldl_cons, appendSystem, if_pos rfl]
      by_cases htext : text = ""
      · subst htext
        exact ih.trans (length_intercalate_empty_cons texts)
      · rw [foldl_appendSystem_of_ne htext]

/-- An empty first text takes its separator along when it is folded. -/
theorem foldl_appendSystem_eq_iff (texts : List String) :
    texts.foldl appendSystem "" = "\n\n".intercalate texts ↔
      ∀ next rest, texts ≠ "" :: next :: rest := by
  rcases texts with _ | ⟨text, _ | ⟨next, rest⟩⟩
  · simp
  · simp [appendSystem]
  · rw [List.foldl_cons, appendSystem, if_pos rfl]
    by_cases htext : text = ""
    · subst htext
      -- The fold is shorter than the join by the separator.
      refine iff_of_false (fun heq => ?_) fun h => h next rest rfl
      have hle := length_foldl_appendSystem_le (next :: rest)
      rw [heq, String.intercalate_cons_cons, String.length_append, String.length_append] at hle
      have hseparator : "\n\n".length = 2 := rfl
      omega
    · rw [foldl_appendSystem_of_ne htext]
      refine iff_of_true rfl fun next' rest' heq => htext ?_
      exact (List.cons.inj heq).1

/-! ## The two loops -/

/-- The message that the gateway's loop passes on. -/
def passed (m : OpenAIMessage) : Option AnthropicMessage :=
  if m.role = "user" ∨ m.role = "assistant" ∨ m.role = "tool" then
    some { role := m.role, content := m.content }
  else none

theorem foldl_addMessage_eq (ms : List OpenAIMessage) (req : AnthropicMessagesRequest) :
    (ms.foldl addMessage req).system =
        ((ms.filter fun m => m.role == "system").map OpenAIMessage.content).foldl appendSystem
          req.system ∧
      (ms.foldl addMessage req).messages = req.messages ++ ms.filterMap passed := by
  induction ms generalizing req with
  | nil => simp
  | cons m ms ih =>
      rw [List.foldl_cons, (ih _).1, (ih _).2]
      by_cases hsystem : m.role = "system"
      · simp [addMessage, passed, hsystem]
      · by_cases hpassed : m.role = "user" ∨ m.role = "assistant" ∨ m.role = "tool"
        · simp [addMessage, passed, hsystem, hpassed]
        · simp [addMessage, passed, hsystem, hpassed]

theorem collect_eq (repr : Json → String) (ms : List Message) :
    collect repr ms =
      ((ms.filter isSystem).map (contentText repr), ms.filter fun m => !isSystem m) := by
  induction ms with
  | nil => rfl
  | cons m ms ih => cases hsystem : isSystem m <;> simp [collect, ih, hsystem]

/-! ## One message -/

/-- A message with distinct names, spelled as the API spells them, and a text. -/
structure HasText (m : Message) : Prop where
  names : (m.map Prod.fst).Nodup
  spelled : ∀ kv ∈ m, ∀ field ∈ ["role", "content"], isField field kv.1 = true → kv.1 = field
  content : ∃ text, m.get "content" = some (.str text)

/-- What the gateway decodes a message to. -/
structure DecodesTo (m : Message) (om : OpenAIMessage) : Prop where
  role : match m.get "role" with
    | none => om.role = ""
    | some v => decodeString "" v = some om.role
  content : m.get "content" = some (.str om.content)

theorem isField_message :
    isField "role" "role" = true ∧ isField "role" "content" = false ∧
      isField "content" "content" = true := by
  decide +kernel

theorem decodesTo_of_decode {m : Message} (hm : HasText m) {om : OpenAIMessage}
    (h : decodeOpenAIMessage {} (.obj m) = some om) : DecodesTo m om := by
  rcases isField_message with ⟨hrole, hnot, hcontent⟩
  have hroles := field_of_decodeStruct "role" OpenAIMessage.role decodeString
    (by
      intro om v om' hset
      rw [if_pos hrole, Option.map_eq_some_iff] at hset
      rcases hset with ⟨role, hvalue, rfl⟩
      exact hvalue)
    (by
      intro key om v om' hother hset
      rw [hother, if_neg Bool.false_ne_true] at hset
      split at hset
      · rcases Option.map_eq_some_iff.1 hset with ⟨_, _, rfl⟩
        rfl
      · cases hset
        rfl)
    hm.names (fun kv hkv => hm.spelled kv hkv "role" (by decide)) h
  have hcontents := field_of_decodeStruct "content" OpenAIMessage.content decodeString
    (by
      intro om v om' hset
      rw [hnot, if_neg Bool.false_ne_true, if_pos hcontent, Option.map_eq_some_iff] at hset
      rcases hset with ⟨content, hvalue, rfl⟩
      exact hvalue)
    (by
      intro key om v om' hother hset
      rw [hother] at hset
      split at hset
      · rcases Option.map_eq_some_iff.1 hset with ⟨_, _, rfl⟩
        rfl
      · cases hset
        rfl)
    hm.names (fun kv hkv => hm.spelled kv hkv "content" (by decide)) h
  refine { role := hroles, content := ?_ }
  rcases hm.content with ⟨text, htext⟩
  have hmember : memberOf "content" (.obj m) = some (.str text) := htext
  rw [hmember] at hcontents
  rw [htext, ← Option.some.inj hcontents]

variable {m : Message} {om : OpenAIMessage}

/-- A role that is a text is the message's own; any other counts as empty. -/
theorem DecodesTo.role_cases (h : DecodesTo m om) :
    m.get "role" = some (.str om.role) ∨
      om.role = "" ∧ ∀ role, m.get "role" ≠ some (.str role) := by
  have hrole := h.role
  split at hrole
  · rename_i hnone
    exact .inr ⟨hrole, fun role => by rw [hnone]; nofun⟩
  · rename_i v hv
    cases v with
    | null => exact .inr ⟨(Option.some.inj hrole).symm, fun role => by rw [hv]; nofun⟩
    | str role => exact .inl (by rw [hv, ← Option.some.inj hrole])
    | _ => cases hrole

theorem DecodesTo.role_eq_iff (h : DecodesTo m om) {role : String} (hrole : role ≠ "") :
    om.role = role ↔ m.get "role" = some (.str role) := by
  rcases h.role_cases with hown | ⟨hempty, hnone⟩
  · rw [hown, Option.some.injEq, Json.str.injEq]
  · rw [hempty]
    exact iff_of_false (fun heq => hrole heq.symm) (hnone role)

theorem DecodesTo.isSystem_eq (h : DecodesTo m om) : isSystem m = (om.role == "system") := by
  rcases h.role_cases with hown | ⟨hempty, hnone⟩
  · rw [isSystem, hown]
  · rw [hempty, isSystem]
    split
    · rename_i role hrole
      exact absurd hrole (hnone role)
    · rfl

theorem DecodesTo.contentText_eq (h : DecodesTo m om) (repr : Json → String) :
    contentText repr m = om.content := by
  rw [contentText, h.content]

/-- A message that both sides can hold: a role of the Messages API, and no member but the role and
the content. -/
structure Plain (m : Message) : Prop where
  role : ∃ role ∈ ["user", "assistant", "tool"], m.get "role" = some (.str role)
  members : ∀ kv ∈ m, kv.1 = "role" ∨ kv.1 = "content"

/-- An object with the members of a message, in any order. -/
def SameMessage (t : Json) (m : Message) : Prop :=
  ∀ key, memberOf key t = m.get key

theorem DecodesTo.sameMessage_iff (h : DecodesTo m om)
    (hrole : m.get "role" = some (.str om.role)) :
    SameMessage (AnthropicMessage.tree { role := om.role, content := om.content }) m ↔
      ∀ kv ∈ m, kv.1 = "role" ∨ kv.1 = "content" := by
  have htree : ∀ key, memberOf key (AnthropicMessage.tree
      { role := om.role, content := om.content }) =
        if "role" = key then some (.str om.role)
        else if "content" = key then some (.str om.content) else none := by
    intro key
    rw [AnthropicMessage.tree, memberOf_cons, memberOf_cons, memberOf_nil]
  constructor
  · intro hsame kv hkv
    by_contra hother
    rw [not_or] at hother
    have hget := hsame kv.1
    rw [htree, if_neg (Ne.symm hother.1), if_neg (Ne.symm hother.2)] at hget
    -- The message has a member under this key.
    have hnone := List.find?_eq_none.1 (Option.map_eq_none_iff.1 hget.symm) kv hkv
    exact hnone (beq_self_eq_true kv.1)
  · intro hmembers key
    rw [htree]
    split
    · rename_i heq
      rw [← heq, hrole]
    · rename_i hnot
      split
      · rename_i heq
        rw [← heq, h.content]
      · rename_i hnot'
        refine (Option.map_eq_none_iff.2 (List.find?_eq_none.2 fun kv hkv heq => ?_)).symm
        have hkey : kv.1 = key := eq_of_beq heq
        rcases hmembers kv hkv with hk | hk
        · exact hnot (hk.symm.trans hkey)
        · exact hnot' (hk.symm.trans hkey)

/-! ## Conversations -/

/-- A system message first that is empty, and another one. -/
def EmptyFirst (ms : List Message) : Prop :=
  ∃ first next rest, ms.filter isSystem = first :: next :: rest ∧
    first.get "content" = some (.str "")

section Both

variable {ms : List Message} {oms : List OpenAIMessage} (h : List.Forall₂ DecodesTo ms oms)

include h

theorem systemTexts_eq (repr : Json → String) :
    (oms.filter fun m => m.role == "system").map OpenAIMessage.content =
      (ms.filter isSystem).map (contentText repr) := by
  induction h with
  | nil => rfl
  | cons hm _ ih =>
      rw [List.filter_cons, List.filter_cons, hm.isSystem_eq]
      split
      · rw [List.map_cons, List.map_cons, ih, hm.contentText_eq]
      · exact ih

theorem length_passed_le :
    (oms.filterMap passed).length ≤ (ms.filter fun m => !isSystem m).length := by
  induction h with
  | nil => exact Nat.le_refl 0
  | @cons m om ms oms hm _ ih =>
      rw [List.filter_cons, List.filterMap_cons, hm.isSystem_eq]
      by_cases hsystem : om.role = "system"
      · simpa [passed, hsystem] using ih
      · by_cases hpassed : om.role = "user" ∨ om.role = "assistant" ∨ om.role = "tool"
        · simpa [passed, hsystem, hpassed] using ih
        · simpa [passed, hsystem, hpassed] using Nat.le_succ_of_le ih

/-- The system prompt is the same exactly when no empty one is folded into a later one. -/
theorem systemText_eq_iff (repr : Json → String) (hms : ∀ m ∈ ms, HasText m) :
    ((oms.filter fun m => m.role == "system").map OpenAIMessage.content).foldl appendSystem "" =
        (splitSystem repr ms).1.getD "" ↔ ¬ EmptyFirst ms := by
  have htexts := systemTexts_eq h repr
  have hjoin : (splitSystem repr ms).1.getD "" =
      "\n\n".intercalate ((ms.filter isSystem).map (contentText repr)) := by
    rw [splitSystem, collect_eq]
    cases (ms.filter isSystem).map (contentText repr) <;> simp
  rw [hjoin, htexts, foldl_appendSystem_eq_iff]
  constructor
  · rintro hne ⟨first, next, rest, hfilter, hempty⟩
    refine hne (contentText repr next) (rest.map (contentText repr)) ?_
    have hfirst : contentText repr first = "" := by
      rw [contentText, hempty]
    rw [hfilter, List.map_cons, List.map_cons, hfirst]
  · intro hnot next rest hcons
    rcases List.map_eq_cons_iff.1 hcons with ⟨first, tail, hfilter, hfirst, htail⟩
    rcases List.map_eq_cons_iff.1 htail with ⟨second, tail', rfl, -, -⟩
    refine hnot ⟨first, second, tail', hfilter, ?_⟩
    have hmem : first ∈ ms.filter isSystem := by
      rw [hfilter]
      exact List.mem_cons_self
    rcases (hms first (List.mem_filter.1 hmem).1).content with ⟨text, htext⟩
    -- Its text is a string, so only an empty string reads as one.
    rw [contentText, htext] at hfirst
    rw [htext, ← hfirst]

/-- The rest is the same on both sides exactly when the gateway can hold all of it. -/
theorem forall2_passed_iff :
    List.Forall₂ SameMessage ((oms.filterMap passed).map AnthropicMessage.tree)
        (ms.filter fun m => !isSystem m) ↔
      ∀ m ∈ ms, isSystem m = false → Plain m := by
  induction h with
  | nil => simp
  | @cons m om ms oms hm htail ih =>
      rw [List.forall_mem_cons, ← ih, List.filter_cons, List.filterMap_cons, hm.isSystem_eq]
      by_cases hsystem : om.role = "system"
      · simp [passed, hsystem]
      · have hplain : (om.role = "user" ∨ om.role = "assistant" ∨ om.role = "tool") ↔
            ∃ role ∈ ["user", "assistant", "tool"], m.get "role" = some (.str role) := by
          simp only [List.mem_cons, List.not_mem_nil, or_false, exists_eq_or_imp,
            exists_eq_left]
          rw [hm.role_eq_iff (by decide), hm.role_eq_iff (by decide), hm.role_eq_iff (by decide)]
        have hnot : (!(om.role == "system")) = true := by
          simp [hsystem]
        have hfalse : (om.role == "system") = false := by
          simp [hsystem]
        rw [if_pos hnot, forall_prop_of_true hfalse]
        -- A message that is passed on stands across from itself.
        by_cases hpassed : om.role = "user" ∨ om.role = "assistant" ∨ om.role = "tool"
        · have hown : m.get "role" = some (.str om.role) := by
            refine (hm.role_eq_iff ?_).1 rfl
            rcases hpassed with h | h | h <;> rw [h] <;> decide
          rw [passed, if_pos hpassed, List.map_cons, List.forall₂_cons,
            hm.sameMessage_iff hown]
          exact and_congr_left' ⟨fun hmembers => ⟨hplain.1 hpassed, hmembers⟩, Plain.members⟩
        · simp only [passed, if_neg hpassed]
          refine iff_of_false (fun hsame => ?_) fun hboth => hpassed (hplain.2 hboth.1.role)
          -- One message is missing, and no other can stand in its place.
          have hlength := hsame.length_eq
          have hle := length_passed_le htail
          rw [List.length_map, List.length_cons] at hlength
          omega

end Both

/-! ## Requests -/

/-- The system prompt of an Anthropic request. -/
def systemOf (sent : Json) : String :=
  ((memberOf "system" sent).bind stringOf).getD ""

/-- Its messages; `null` is the empty list. -/
def messagesOf (sent : Json) : List Json :=
  match memberOf "messages" sent with
  | some (.arr xs) => xs
  | _ => []

/-- The gateway's request says what the backend's split does. -/
structure SplitsAlike (repr : Json → String) (ms : List Message) (sent : Json) : Prop where
  system : systemOf sent = (splitSystem repr ms).1.getD ""
  messages : List.Forall₂ SameMessage (messagesOf sent) (splitSystem repr ms).2

theorem systemOf_tree (req : AnthropicMessagesRequest) : systemOf req.tree = req.system := by
  have hlast : omitIf (!req.stream) "stream" (.bool req.stream) =
      omitIf (!req.stream) "stream" (.bool req.stream) ++ [] := (List.append_nil _).symm
  unfold systemOf AnthropicMessagesRequest.tree
  rw [hlast]
  simp only [memberOf_cons, memberOf_omitIf, List.append_assoc, memberOf_nil, String.reduceEq,
    if_false, false_and, true_and]
  by_cases hempty : req.system = ""
  · simp [hempty]
  · simp [hempty, stringOf]

theorem messagesOf_tree (req : AnthropicMessagesRequest) :
    messagesOf req.tree = req.messages.map AnthropicMessage.tree := by
  unfold messagesOf AnthropicMessagesRequest.tree
  simp only [memberOf_cons, memberOf_omitIf, String.reduceEq, if_false, if_true, false_and]
  cases req.messages <;> simp

theorem forall2_of_decodeElems {α : Type} {zero : α} {decoder : Decoder α} {xs : List Json}
    {ys : List α} (h : decodeElems zero decoder [] xs = some ys) :
    List.Forall₂ (fun x y => decoder zero x = some y) xs ys := by
  induction xs generalizing ys with
  | nil =>
      cases h
      exact .nil
  | cons x xs ih =>
      rw [decodeElems] at h
      rcases Option.bind_eq_some_iff.1 h with ⟨y, hy, h⟩
      rcases Option.bind_eq_some_iff.1 h with ⟨ys', hys, h⟩
      cases h
      exact .cons hy (ih hys)

/-- The elements of an array that is decoded into an empty slice. -/
theorem forall2_of_decodeSlice {α : Type} {zero : α} {decoder : Decoder α} {xs : List Json}
    {s : Slice α} (h : decodeSlice zero decoder {} (.arr xs) = some s) :
    List.Forall₂ (fun x y => decoder zero x = some y) xs s.toList := by
  cases xs with
  | nil =>
      cases h
      exact .nil
  | cons x xs =>
      rw [decodeSlice] at h
      · rcases Option.map_eq_some_iff.1 h with ⟨slots, hslots, rfl⟩
        have hall := forall2_of_decodeElems hslots
        have hlength := hall.length_eq
        rw [Slice.toList, hlength, List.take_length]
        exact hall
      · nofun

/-- The messages of a request, as its struct has them. -/
theorem decodesTo_messages {rt : Runtime} {kvs : List (String × Json)} {ms : List Message}
    (hnames : (kvs.map Prod.fst).Nodup)
    (hspelled : ∀ kv ∈ kvs, isField "messages" kv.1 = true → kv.1 = "messages")
    (hmessages : memberOf "messages" (.obj kvs) = some (.arr (ms.map .obj)))
    (htexts : ∀ m ∈ ms, HasText m) {req : OpenAIChatRequest}
    (h : decodeOpenAIChatRequest rt {} (.obj kvs) = some req) :
    List.Forall₂ DecodesTo ms req.messages.toList := by
  have hthis : isField "model" "messages" = false ∧ isField "messages" "messages" = true := by
    decide +kernel
  have hfield := field_of_decodeStruct "messages" OpenAIChatRequest.messages
    (decodeSlice {} decodeOpenAIMessage)
    (by
      intro req v req' hset
      rw [hthis.1, if_neg Bool.false_ne_true, if_pos hthis.2, Option.map_eq_some_iff] at hset
      rcases hset with ⟨messages, hvalue, rfl⟩
      exact hvalue)
    (by
      intro key req v req' hother hset
      simp only [hother, Bool.false_eq_true, if_false] at hset
      split_ifs at hset
      all_goals
        first
          | cases hset
            rfl
          | rcases Option.map_eq_some_iff.1 hset with ⟨_, _, rfl⟩
            rfl)
    hnames hspelled h
  rw [hmessages] at hfield
  have hall := List.forall₂_map_left_iff.1 (forall2_of_decodeSlice hfield)
  refine ((List.forall₂_and_left _ _).2 ⟨htexts, hall⟩).imp ?_
  rintro m om ⟨htext, hdecode⟩
  exact decodesTo_of_decode htext hdecode

theorem splitsAlike_toAnthropic_iff (repr : Json → String) {req : OpenAIChatRequest}
    {ms : List Message} (h : List.Forall₂ DecodesTo ms req.messages.toList)
    (hms : ∀ m ∈ ms, HasText m) (modelID : String) :
    SplitsAlike repr ms (toAnthropic modelID req).tree ↔
      (∀ m ∈ ms, isSystem m = false → Plain m) ∧ ¬ EmptyFirst ms := by
  rcases foldl_addMessage_eq req.messages.toList
    { model := stripProviderPrefix modelID
      maxTokens := defaultIfZero req.maxTokens 4096
      temperature := req.temperature
      topP := req.topP
      stream := req.stream } with ⟨hsystem, hmessages⟩
  have hrest : (splitSystem repr ms).2 = ms.filter fun m => !isSystem m := by
    rw [splitSystem, collect_eq]
  rw [← forall2_passed_iff h, ← systemText_eq_iff h repr hms, ← hsystem]
  constructor
  · rintro ⟨hprompt, hlist⟩
    rw [systemOf_tree] at hprompt
    rw [messagesOf_tree, toAnthropic, hmessages, hrest] at hlist
    exact ⟨hlist, hprompt⟩
  · rintro ⟨hlist, hprompt⟩
    refine { system := ?_, messages := ?_ }
    · rw [systemOf_tree]
      exact hprompt
    · rw [messagesOf_tree, toAnthropic, hmessages, hrest]
      exact hlist

/-- Two requests for one conversation agree exactly when every message outside the system prompt
is plain and the first of several system messages is not empty. -/
theorem splitsAlike_iff (repr : Json → String) {rt : Runtime} {modelID : String} {body : Bytes}
    {cfg : ProviderConfig} {upstream : UpstreamRequest} {kvs : List (String × Json)}
    {ms : List Message} (hparse : parse (decode body) = some (.obj kvs))
    (hnames : (kvs.map Prod.fst).Nodup)
    (hspelled : ∀ kv ∈ kvs, isField "messages" kv.1 = true → kv.1 = "messages")
    (hmessages : memberOf "messages" (.obj kvs) = some (.arr (ms.map .obj)))
    (htexts : ∀ m ∈ ms, HasText m)
    (haccept : (anthropic rt).normalizeRequest modelID body cfg = .ok upstream) :
    (∃ sent, parse (decode upstream.body) = some sent ∧ SplitsAlike repr ms sent) ↔
      (∀ m ∈ ms, isSystem m = false → Plain m) ∧ ¬ EmptyFirst ms := by
  rcases sent_of_normalizeRequest hparse haccept with ⟨req, hdecode, hsent⟩
  have hboth := decodesTo_messages hnames hspelled hmessages htexts hdecode
  rw [← splitsAlike_toAnthropic_iff repr hboth htexts modelID, hsent]
  simp

/-- A body with these messages. -/
def conversation (ms : List Message) : List (String × Json) :=
  [("model", .str "claude-4"), ("messages", .arr (ms.map .obj))]

theorem spelled_conversation (ms : List Message) :
    ∀ kv ∈ conversation ms, isField "messages" kv.1 = true → kv.1 = "messages" := by
  have hmodel : isField "messages" "model" = false := by
    decide +kernel
  intro kv hkv hfield
  simp only [conversation, List.mem_cons, List.not_mem_nil, or_false] at hkv
  rcases hkv with rfl | rfl
  · rw [hmodel] at hfield
    cases hfield
  · rfl

def textMessage (role text : String) : Message :=
  [("role", .str role), ("content", .str text)]

theorem hasText_textMessage (role text : String) : HasText (textMessage role text) := by
  have hkeys : ∀ key ∈ ["role", "content"], ∀ field ∈ ["role", "content"],
      isField field key = true → key = field := by
    decide +kernel
  have hnames : ((textMessage role text).map Prod.fst).Nodup := by
    simp [textMessage]
  refine { names := hnames, spelled := ?_, content := ⟨text, rfl⟩ }
  intro kv hkv
  simp only [textMessage, List.mem_cons, List.not_mem_nil, or_false] at hkv
  rcases hkv with rfl | rfl
  · exact hkeys "role" (by decide)
  · exact hkeys "content" (by decide)

/-- The gateway drops the instructions of a developer. -/
theorem developer_message_is_dropped :
    ((anthropic plainRuntime).normalizeRequest "claude-4"
        (marshal (.obj (conversation [textMessage "developer" "Be brief."]))) noKey).isOk = true ∧
      ∀ upstream,
        (anthropic plainRuntime).normalizeRequest "claude-4"
            (marshal (.obj (conversation [textMessage "developer" "Be brief."]))) noKey =
              .ok upstream →
          ¬ ∃ sent, parse (decode upstream.body) = some sent ∧
            SplitsAlike (fun _ => "") [textMessage "developer" "Be brief."] sent := by
  refine ⟨by decide +kernel, ?_⟩
  rintro upstream haccept ⟨sent, hsent, hsplits⟩
  rcases sent_of_normalizeRequest (parse_marshal _) haccept with ⟨req, hdecode, htree⟩
  rw [htree, Option.some.injEq] at hsent
  have htexts : ∀ m ∈ [textMessage "developer" "Be brief."], HasText m :=
    List.forall_mem_singleton.2 (hasText_textMessage _ _)
  have hboth := decodesTo_messages (by decide) (spelled_conversation _) rfl htexts hdecode
  rw [← hsent, splitsAlike_toAnthropic_iff _ hboth htexts] at hsplits
  rcases (hsplits.1 _ List.mem_cons_self rfl).role with ⟨role, hrole, hget⟩
  rw [← Json.str.inj (Option.some.inj hget)] at hrole
  revert hrole
  decide

theorem splitsAlike_iff_brief :
    ∃ upstream sent,
      (anthropic plainRuntime).normalizeRequest "claude-4"
          (marshal (.obj (conversation
            [textMessage "system" "Be brief.", textMessage "user" "Hi"]))) noKey = .ok upstream ∧
        parse (decode upstream.body) = some sent ∧
        SplitsAlike (fun _ => "") [textMessage "system" "Be brief.", textMessage "user" "Hi"]
          sent := by
  have hok : ((anthropic plainRuntime).normalizeRequest "claude-4"
      (marshal (.obj (conversation
        [textMessage "system" "Be brief.", textMessage "user" "Hi"]))) noKey).isOk = true := by
    decide +kernel
  cases haccept : (anthropic plainRuntime).normalizeRequest "claude-4"
      (marshal (.obj (conversation
        [textMessage "system" "Be brief.", textMessage "user" "Hi"]))) noKey with
  | error err =>
      rw [haccept] at hok
      cases hok
  | ok upstream =>
      have htexts : ∀ m ∈ [textMessage "system" "Be brief.", textMessage "user" "Hi"],
          HasText m := by
        simp [hasText_textMessage]
      have hplain : ∀ m ∈ [textMessage "system" "Be brief.", textMessage "user" "Hi"],
          isSystem m = false → Plain m := by
        rw [List.forall_mem_cons, List.forall_mem_singleton]
        refine ⟨nofun, fun _ => ⟨⟨"user", by decide, rfl⟩, ?_⟩⟩
        simp [textMessage]
      have hfirst : ¬ EmptyFirst [textMessage "system" "Be brief.", textMessage "user" "Hi"] := by
        rintro ⟨first, next, rest, hfilter, -⟩
        cases hfilter
      rcases (splitsAlike_iff (fun _ => "") (parse_marshal _) (by decide)
        (spelled_conversation _) rfl htexts haccept).2 ⟨hplain, hfirst⟩ with ⟨sent, hsent, hsplits⟩
      exact ⟨upstream, sent, rfl, hsent, hsplits⟩

end Wire
end OpenRouter
