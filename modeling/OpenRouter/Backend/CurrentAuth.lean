import Mathlib.Data.List.TakeWhile
import OpenRouter.Backend.Routes

/-!
# CurrentAuth — the caller of a backend route

`get_current_auth` of `api/dependencies.py`: the bearer token is looked up among the API keys, and
the caller is the user that owns the key.
-/

namespace OpenRouter
namespace Backend

open Routes

/-! ## The bearer token -/

/-- `str.isspace`, of the characters that a header can have. -/
def isPySpace (c : Char) : Bool :=
  c ∈ [' ', '\t', '\n', '\r', '\x0b', '\x0c', '\x1c', '\x1d', '\x1e', '\x1f', '\x85', '\xa0']

/-- `str.strip`. -/
def strip (cs : List Char) : List Char :=
  ((cs.dropWhile isPySpace).reverse.dropWhile isPySpace).reverse

/-- `_extract_bearer`; the first blank of such a header is the one behind the scheme. -/
def extractBearer (authorization : Option String) : Except DomainError String :=
  match authorization with
  | none => .error (.invalidApiKey "Missing bearer token")
  | some h =>
      if "bearer ".toList <+: h.toList.map Char.toLower then
        .ok (String.ofList (strip (h.toList.drop 7)))
      else
        .error (.invalidApiKey "Missing bearer token")

theorem mem_strip {c : Char} {cs : List Char} (hmem : c ∈ cs) (hspace : isPySpace c = false) :
    c ∈ strip cs := by
  have hdrop : ∀ l : List Char, c ∈ l → c ∈ l.dropWhile isPySpace := by
    intro l hl
    rw [← List.takeWhile_append_dropWhile (p := isPySpace) (l := l)] at hl
    rcases List.mem_append.1 hl with htake | hrest
    · have hblank : isPySpace c = true := List.mem_takeWhile_imp htake
      rw [hspace] at hblank
      cases hblank
    · exact hrest
  unfold strip
  exact List.mem_reverse.2 (hdrop _ (List.mem_reverse.2 (hdrop cs hmem)))

theorem extractBearer_bearer (t : String) :
    extractBearer (some ("Bearer " ++ t)) = .ok (String.ofList (strip t.toList)) := by
  have hchars : ("Bearer " ++ t).toList = "Bearer ".toList ++ t.toList := String.toList_append
  have hscheme : "bearer ".toList <+: ("Bearer " ++ t).toList.map Char.toLower := by
    rw [hchars, List.map_append]
    exact ⟨t.toList.map Char.toLower, rfl⟩
  have hrest : ("Bearer " ++ t).toList.drop 7 = t.toList := by
    rw [hchars]
    rfl
  rw [extractBearer, if_pos hscheme, hrest]

/-! ## The key and its owner -/

/-- `SqlAPIKeyRepository.find_by_lookup_hash`; the column is unique. -/
def findByLookupHash (db : Db) (lookup : String) : Option APIKey :=
  db.apiKeys.find? fun k => k.keyLookup = lookup

/-- The row of a lookup hash is the one that has it. -/
theorem findByLookupHash_eq_some {db : Db} {lookup : String} {k : APIKey} :
    findByLookupHash db lookup = some k ↔ k ∈ db.apiKeys ∧ k.keyLookup = lookup := by
  constructor
  · intro h
    exact ⟨List.mem_of_find?_eq_some h, by simpa using List.find?_some h⟩
  · rintro ⟨hmem, hlookup⟩
    cases hfind : findByLookupHash db lookup with
    | none =>
        have hno := List.find?_eq_none.1 hfind k hmem
        simp [hlookup] at hno
    | some k' =>
        have hmem' : k' ∈ db.apiKeys := List.mem_of_find?_eq_some hfind
        have hlookup' : k'.keyLookup = lookup := by
          simpa using List.find?_some hfind
        rw [List.inj_on_of_nodup_map db.keyLookups_nodup hmem' hmem (hlookup'.trans hlookup.symm)]

variable (sha256Lookup : String → String) (verifyApiKey : String → String → Bool)

/-- `get_current_auth` at the instant `now`. -/
def getCurrentAuth (db : Db) (now : ℤ) (authorization : Option String) :
    Except DomainError AuthContext :=
  match extractBearer authorization with
  | .error err => .error err
  | .ok plaintext =>
      match findByLookupHash db (sha256Lookup plaintext) with
      | none => .error (.invalidApiKey "Unknown API key")
      | some key =>
          if verifyApiKey plaintext key.keyHash = false then
            .error (.invalidApiKey "Unknown API key")
          else
            match key.assertUsable now with
            | .error err => .error err
            | .ok () =>
                match db.users key.userId with
                | none => .error (.invalidApiKey "Key owner not found")
                | some user => .ok { user := user }

variable {sha256Lookup verifyApiKey}

/-- Who is let in owns a stored, usable key whose plaintext is presented. -/
theorem getCurrentAuth_eq_ok_iff {db : Db} {now : ℤ} {authorization : Option String}
    {auth : AuthContext} :
    getCurrentAuth sha256Lookup verifyApiKey db now authorization = .ok auth ↔
      ∃ plaintext key, extractBearer authorization = .ok plaintext ∧ key ∈ db.apiKeys ∧
        key.keyLookup = sha256Lookup plaintext ∧ verifyApiKey plaintext key.keyHash = true ∧
        key.assertUsable now = .ok () ∧ db.users key.userId = some auth.user := by
  constructor
  · intro h
    unfold getCurrentAuth at h
    cases hbearer : extractBearer authorization with
    | error err => simp [hbearer] at h
    | ok plaintext =>
        cases hfind : findByLookupHash db (sha256Lookup plaintext) with
        | none => simp [hbearer, hfind] at h
        | some key =>
            cases hverify : verifyApiKey plaintext key.keyHash with
            | false => simp [hbearer, hfind, hverify] at h
            | true =>
                cases husable : key.assertUsable now with
                | error err => simp [hbearer, hfind, hverify, husable] at h
                | ok u =>
                    cases huser : db.users key.userId with
                    | none => simp [hbearer, hfind, hverify, husable, huser] at h
                    | some user =>
                        simp only [hbearer, hfind, hverify, husable, huser, Bool.true_eq_false,
                          if_false] at h
                        cases h
                        rcases findByLookupHash_eq_some.1 hfind with ⟨hmem, hlookup⟩
                        exact ⟨plaintext, key, rfl, hmem, hlookup, hverify, husable, huser⟩
  · rintro ⟨plaintext, key, hbearer, hmem, hlookup, hverify, husable, huser⟩
    have hfind := findByLookupHash_eq_some.2 ⟨hmem, hlookup⟩
    simp [getCurrentAuth, hbearer, hfind, hverify, husable, huser]

end Backend
end OpenRouter
