import Mathlib.Data.List.Basic

/-!
# Logging — `_scrub_sensitive_fields`

The processor of `shared/logging.py` that stands before the JSON renderer looks at the keys of the
event dictionary itself, and at none of the dictionaries inside its values.
`forall_alike_scrub_iff` says for which events that is enough.
-/

namespace OpenRouter
namespace Backend
namespace Logging

/-! ## Events -/

/-- A key of a dictionary: a string, or another hashable object. -/
inductive Key (α : Type)
  | str (s : String)
  | other (a : α)

/-- What an event holds under a key.  Anything but a string, a list and a dictionary is `other`. -/
inductive Value (α : Type)
  | str (s : String)
  | other (a : α)
  | list (vs : List (Value α))
  | dict (entries : List (Key α × Value α))

variable {α : Type}

/-- The event dictionary in its insertion order; structlog has strings as its keys. -/
abbrev EventDict (α : Type) := List (String × Value α)

/-- `event_dict[key] = value`, for a key that is present. -/
def EventDict.assign (event : EventDict α) (key : String) (value : Value α) : EventDict α :=
  event.map fun entry => if entry.1 = key then (entry.1, value) else entry

/-! ## The scrubber -/

/-- `_SENSITIVE_KEYS`. -/
def sensitiveKeys : List String :=
  ["api_key", "password", "secret", "token", "authorization", "x-api-key", "stripe_api_key"]

variable (lower : String → String)

/-- `key.lower() in _SENSITIVE_KEYS`. -/
def isSensitive (key : String) : Bool :=
  lower key ∈ sensitiveKeys

/-- The same of any key of a dictionary. -/
def Key.isSensitive : Key α → Bool
  | str s => Logging.isSensitive lower s
  | other _ => false

/-- The body of the loop. -/
def scrubKey (event : EventDict α) (key : String) : EventDict α :=
  if isSensitive lower key then event.assign key (.str "***REDACTED***") else event

/-- `_scrub_sensitive_fields`, its loop over the keys that the event has on entry. -/
def scrubSensitiveFields (event : EventDict α) : EventDict α :=
  (event.map Prod.fst).foldl (scrubKey lower) event

/-- What the scrubber makes of an entry. -/
def scrubEntry (entry : String × Value α) : String × Value α :=
  if isSensitive lower entry.1 then (entry.1, .str "***REDACTED***") else entry

/-- One round of the loop touches the entry of its key only. -/
theorem scrubKey_eq_map (event : EventDict α) (key : String) :
    scrubKey lower event key =
      event.map fun entry => if entry.1 = key then scrubEntry lower entry else entry := by
  unfold scrubKey
  split
  · rename_i hkey
    refine List.map_congr_left fun entry _ => ?_
    by_cases hhere : entry.1 = key
    · subst hhere
      simp [scrubEntry, hkey]
    · simp [hhere]
  · rename_i hkey
    -- An entry under this key is left as it is by `scrubEntry` too.
    have hsame : ∀ entry ∈ event,
        (if entry.1 = key then scrubEntry lower entry else entry) = entry := by
      intro entry _
      by_cases hhere : entry.1 = key
      · subst hhere
        simp [scrubEntry, hkey]
      · exact if_neg hhere
    exact (List.map_congr_left hsame).trans (List.map_id event) |>.symm

theorem scrubEntry_fst (entry : String × Value α) : (scrubEntry lower entry).1 = entry.1 := by
  unfold scrubEntry
  split <;> rfl

/-- A second round does no more than the first. -/
theorem scrubEntry_scrubEntry (entry : String × Value α) :
    scrubEntry lower (scrubEntry lower entry) = scrubEntry lower entry := by
  cases hkey : isSensitive lower entry.1 <;> simp [scrubEntry, hkey]

/-- What the rounds of the loop for the given keys have done to an entry. -/
theorem foldl_scrubKey (keys : List String) (event : EventDict α) :
    keys.foldl (scrubKey lower) event =
      event.map fun entry => if entry.1 ∈ keys then scrubEntry lower entry else entry := by
  induction keys generalizing event with
  | nil =>
      simp
  | cons key keys ih =>
      rw [List.foldl_cons, ih, scrubKey_eq_map, List.map_map]
      refine List.map_congr_left fun entry _ => ?_
      by_cases hhere : entry.1 = key
      · simp [hhere, scrubEntry_fst, scrubEntry_scrubEntry]
      · simp [hhere]

/-- The loop treats each entry on its own. -/
theorem scrubSensitiveFields_eq_map (event : EventDict α) :
    scrubSensitiveFields lower event = event.map (scrubEntry lower) := by
  rw [scrubSensitiveFields, foldl_scrubKey]
  refine List.map_congr_left fun entry hentry => ?_
  exact if_pos (List.mem_map_of_mem hentry)

/-! ## Events that differ in credentials only -/

mutual

/-- Put `w` in the place of whatever is stored under a sensitive key, at any depth. -/
def Value.conceal (w : Value α) : Value α → Value α
  | .str s => .str s
  | .other a => .other a
  | .list vs => .list (concealList w vs)
  | .dict entries => .dict (concealEntries w entries)

def concealList (w : Value α) : List (Value α) → List (Value α)
  | [] => []
  | v :: vs => Value.conceal w v :: concealList w vs

def concealEntries (w : Value α) : List (Key α × Value α) → List (Key α × Value α)
  | [] => []
  | (key, v) :: entries =>
      (key, if key.isSensitive lower then w else Value.conceal w v) :: concealEntries w entries

end

mutual

/-- There is a sensitive key in the value, at any depth. -/
def Value.holdsSecret : Value α → Bool
  | .str _ => false
  | .other _ => false
  | .list vs => listHoldsSecret vs
  | .dict entries => entriesHoldSecret entries

def listHoldsSecret : List (Value α) → Bool
  | [] => false
  | v :: vs => v.holdsSecret || listHoldsSecret vs

def entriesHoldSecret : List (Key α × Value α) → Bool
  | [] => false
  | (key, v) :: entries => key.isSensitive lower || v.holdsSecret || entriesHoldSecret entries

end

/-- The event with `w` for what is stored under a sensitive key, at any depth. -/
def concealEvent (w : Value α) (event : EventDict α) : EventDict α :=
  event.map fun entry =>
    (entry.1, if isSensitive lower entry.1 then w else Value.conceal lower w entry.2)

/-- The events differ at most in what is stored under sensitive keys. -/
def Alike (event event' : EventDict α) : Prop :=
  concealEvent lower (.str "") event = concealEvent lower (.str "") event'

/-! ## Concealing -/

mutual

/-- What was put in the place of the credentials before does not show. -/
theorem Value.conceal_conceal (w w' : Value α) (v : Value α) :
    Value.conceal lower w (Value.conceal lower w' v) = Value.conceal lower w v := by
  cases v with
  | str s => rfl
  | other a => rfl
  | list vs => simp only [Value.conceal, concealList_concealList w w' vs]
  | dict entries => simp only [Value.conceal, concealEntries_concealEntries w w' entries]

theorem concealList_concealList (w w' : Value α) (vs : List (Value α)) :
    concealList lower w (concealList lower w' vs) = concealList lower w vs := by
  cases vs with
  | nil => rfl
  | cons v vs =>
      simp only [concealList, Value.conceal_conceal w w' v, concealList_concealList w w' vs]

theorem concealEntries_concealEntries (w w' : Value α) (entries : List (Key α × Value α)) :
    concealEntries lower w (concealEntries lower w' entries) = concealEntries lower w entries := by
  match entries with
  | [] => rfl
  | (key, v) :: entries =>
      have hrest := concealEntries_concealEntries w w' entries
      have hvalue := Value.conceal_conceal w w' v
      cases hkey : key.isSensitive lower with
      | true => simp [concealEntries, hkey, hrest]
      | false => simp [concealEntries, hkey, hrest, hvalue]

end

mutual

/-- A value without a sensitive key is determined by what is left of it. -/
theorem Value.conceal_inj {w v v' : Value α} (hv : v.holdsSecret lower = false)
    (h : Value.conceal lower w v = Value.conceal lower w v') : v = v' := by
  -- Concealing keeps the kind of a value, so that the other one is of the same kind.
  cases v with
  | str s =>
      cases v' <;> simp [Value.conceal] at h ⊢
      exact h
  | other a =>
      cases v' <;> simp [Value.conceal] at h ⊢
      exact h
  | list vs =>
      cases v' <;> simp [Value.conceal] at h ⊢
      exact concealList_inj hv h
  | dict entries =>
      cases v' <;> simp [Value.conceal] at h ⊢
      exact concealEntries_inj hv h

theorem concealList_inj {w : Value α} {vs vs' : List (Value α)}
    (hvs : listHoldsSecret lower vs = false)
    (h : concealList lower w vs = concealList lower w vs') : vs = vs' := by
  match vs, vs' with
  | [], [] => rfl
  | [], v' :: vs' => simp [concealList] at h
  | v :: vs, [] => simp [concealList] at h
  | v :: vs, v' :: vs' =>
      simp only [listHoldsSecret, Bool.or_eq_false_iff] at hvs
      simp only [concealList, List.cons.injEq] at h
      rw [Value.conceal_inj hvs.1 h.1, concealList_inj hvs.2 h.2]

theorem concealEntries_inj {w : Value α} {entries entries' : List (Key α × Value α)}
    (hentries : entriesHoldSecret lower entries = false)
    (h : concealEntries lower w entries = concealEntries lower w entries') :
    entries = entries' := by
  match entries, entries' with
  | [], [] => rfl
  | [], (key', v') :: entries' => simp [concealEntries] at h
  | (key, v) :: entries, [] => simp [concealEntries] at h
  | (key, v) :: entries, (key', v') :: entries' =>
      simp only [entriesHoldSecret, Bool.or_eq_false_iff] at hentries
      rcases hentries with ⟨⟨hkey, hvalue⟩, hrest⟩
      simp only [concealEntries, List.cons.injEq, Prod.mk.injEq] at h
      rcases h with ⟨⟨rfl, hsame⟩, htail⟩
      simp only [hkey, Bool.false_eq_true, if_false] at hsame
      rw [Value.conceal_inj hvalue hsame, concealEntries_inj hrest htail]

end

mutual

/-- Whatever is put in the place of a credential inside a value can be read off the result. -/
theorem Value.eq_of_conceal_eq {w w' v : Value α} (hv : v.holdsSecret lower = true)
    (h : Value.conceal lower w v = Value.conceal lower w' v) : w = w' := by
  cases v with
  | str s => simp [Value.holdsSecret] at hv
  | other a => simp [Value.holdsSecret] at hv
  | list vs =>
      simp only [Value.conceal, Value.list.injEq] at h
      exact eq_of_concealList_eq hv h
  | dict entries =>
      simp only [Value.conceal, Value.dict.injEq] at h
      exact eq_of_concealEntries_eq hv h

theorem eq_of_concealList_eq {w w' : Value α} {vs : List (Value α)}
    (hvs : listHoldsSecret lower vs = true)
    (h : concealList lower w vs = concealList lower w' vs) : w = w' := by
  cases vs with
  | nil => simp [listHoldsSecret] at hvs
  | cons v vs =>
      simp only [listHoldsSecret, Bool.or_eq_true] at hvs
      simp only [concealList, List.cons.injEq] at h
      rcases hvs with hhere | hlater
      · exact Value.eq_of_conceal_eq hhere h.1
      · exact eq_of_concealList_eq hlater h.2

theorem eq_of_concealEntries_eq {w w' : Value α} {entries : List (Key α × Value α)}
    (hentries : entriesHoldSecret lower entries = true)
    (h : concealEntries lower w entries = concealEntries lower w' entries) : w = w' := by
  match entries with
  | [] => simp [entriesHoldSecret] at hentries
  | (key, v) :: entries =>
      simp only [entriesHoldSecret, Bool.or_eq_true] at hentries
      simp only [concealEntries, List.cons.injEq, Prod.mk.injEq] at h
      rcases h with ⟨⟨-, hsame⟩, htail⟩
      cases hkey : key.isSensitive lower with
      -- Here is what was put in.
      | true => simpa [hkey] using hsame
      | false =>
          simp only [hkey, Bool.false_eq_true, if_false, false_or] at hsame hentries
          rcases hentries with hhere | hlater
          · exact Value.eq_of_conceal_eq hhere hsame
          · exact eq_of_concealEntries_eq hlater htail

end

variable {lower}

/-- Another credential everywhere makes an event alike. -/
theorem alike_concealEvent (w : Value α) (event : EventDict α) :
    Alike lower event (concealEvent lower w event) := by
  rw [Alike, concealEvent, concealEvent, concealEvent, List.map_map]
  refine List.map_congr_left fun entry _ => ?_
  cases hkey : isSensitive lower entry.1 with
  | true => simp [hkey]
  | false => simp [hkey, Value.conceal_conceal]

/-! ## What the scrubber hides -/

/-- Where no value outside the sensitive keys holds a sensitive key, nothing else is needed. -/
theorem scrub_eq_of_alike {event event' : EventDict α}
    (hflat : ∀ entry ∈ event, isSensitive lower entry.1 = false →
      entry.2.holdsSecret lower = false)
    (h : Alike lower event event') :
    scrubSensitiveFields lower event = scrubSensitiveFields lower event' := by
  rw [scrubSensitiveFields_eq_map, scrubSensitiveFields_eq_map]
  rw [Alike, concealEvent, concealEvent] at h
  induction event generalizing event' with
  | nil =>
      cases event' with
      | nil => rfl
      | cons entry' event' => cases h
  | cons entry event ih =>
      cases event' with
      | nil => cases h
      | cons entry' event' =>
          simp only [List.map_cons, List.cons.injEq, Prod.mk.injEq] at h
          rcases h with ⟨⟨hkey, hvalue⟩, hrest⟩
          -- The keys are the same; the values may differ where the scrubber puts its own.
          have htail := ih (fun e he => hflat e (List.mem_cons_of_mem _ he)) hrest
          have hhead : scrubEntry lower entry = scrubEntry lower entry' := by
            cases hsensitive : isSensitive lower entry.1 with
            | true => simp [scrubEntry, ← hkey, hsensitive]
            | false =>
                have hopen := hflat entry List.mem_cons_self hsensitive
                simp only [← hkey, hsensitive, Bool.false_eq_true, if_false] at hvalue
                have hsame : entry.2 = entry'.2 := Value.conceal_inj lower hopen hvalue
                simp [scrubEntry, ← hkey, hsensitive, Prod.ext hkey hsame]
          rw [List.map_cons, List.map_cons, hhead, htail]

/-- The scrubber hides every credential of an event if and only if each sensitive key of it is a
key of the event itself or stands below one that is. -/
theorem forall_alike_scrub_iff (lower : String → String) (event : EventDict α) :
    (∀ event', Alike lower event event' →
        scrubSensitiveFields lower event = scrubSensitiveFields lower event') ↔
      ∀ entry ∈ event, isSensitive lower entry.1 = false →
        entry.2.holdsSecret lower = false := by
  constructor
  · intro h entry hentry hkey
    by_contra hsecret
    -- The two events that have a list and a dictionary for every credential are told apart.
    have hlist := h _ (alike_concealEvent (.list []) event)
    have hdict := h _ (alike_concealEvent (.dict []) event)
    have hsame := hlist.symm.trans hdict
    rw [scrubSensitiveFields_eq_map, scrubSensitiveFields_eq_map, concealEvent, concealEvent,
      List.map_map, List.map_map] at hsame
    have hhere := List.map_inj_left.1 hsame entry hentry
    simp only [Function.comp, scrubEntry, hkey, Bool.false_eq_true, if_false,
      Prod.mk.injEq, true_and] at hhere
    have hequal := Value.eq_of_conceal_eq lower (by simpa using hsecret) hhere
    cases hequal
  · intro hflat event' halike
    exact scrub_eq_of_alike hflat halike

/-- The token of a nested request is in the log. -/
theorem scrub_nested_token :
    let event : String → EventDict Unit := fun token =>
      [("event", .str "retry"), ("request", .dict [(.str "Token", .str token)])]
    Alike String.toLower (event "a") (event "b") ∧
      scrubSensitiveFields String.toLower (event "a") ≠
        scrubSensitiveFields String.toLower (event "b") := by
  intro event
  have htoken : isSensitive String.toLower "Token" = true := by decide +kernel
  have hrequest : isSensitive String.toLower "request" = false := by decide +kernel
  have hevent : isSensitive String.toLower "event" = false := by decide +kernel
  constructor
  · simp [Alike, concealEvent, event, Value.conceal, concealEntries, Key.isSensitive, htoken]
  · simp [scrubSensitiveFields_eq_map, scrubEntry, event, hrequest, hevent]

end Logging
end Backend
end OpenRouter
