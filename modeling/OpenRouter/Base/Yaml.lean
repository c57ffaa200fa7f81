import OpenRouter.Base.Binary64
import OpenRouter.Base.Utf8

/-!
# Yaml — what a YAML file loads to in Python

`Yaml` has the values of `yaml.safe_load`, `Yaml.eq` is Python's `==` on them, and `toInt`,
`toFloat`, `toDecimal` are the conversions `int(v)`, `float(v)` and `Decimal(str(v))`.  How a text
is read as a number, and how a float is printed, is left to the `Conversions`.
-/

namespace OpenRouter
namespace Base

/-! ## Numbers -/

/-- The value of a `float` or a `Decimal`.  The loader has one object for its NaN, which is
identical with itself; any other NaN is a new one. -/
inductive PyNumber
  | finite (x : ℚ)
  | inf (negative : Bool)
  | nan (shared : Bool)
  deriving DecidableEq

namespace PyNumber

def isNan : PyNumber → Bool
  | .nan _ => true
  | _ => false

/-- `x < y`, which is `False` when one is a NaN. -/
def lt : PyNumber → PyNumber → Bool
  | .finite x, .finite y => x < y
  | .finite _, .inf negative => !negative
  | .inf negative, .finite _ => negative
  | .inf negative, .inf negative' => negative && !negative'
  | _, _ => false

/-- `x is y or x == y`, for what two loads have made. -/
def same : PyNumber → PyNumber → Bool
  | .finite x, .finite y => x = y
  | .inf negative, .inf negative' => negative = negative'
  | .nan shared, .nan shared' => shared && shared'
  | _, _ => false

/-- The same value, where a NaN is as good as another. -/
def agrees : PyNumber → PyNumber → Bool
  | .nan _, .nan _ => true
  | x, y => x = y

/-- `x == y`. -/
def eq (x y : PyNumber) : Bool :=
  x.agrees y && !x.isNan

/-- The NaN that is not identical with the one of the next load. -/
def fresh : PyNumber → Bool
  | .nan shared => !shared
  | _ => false

theorem agrees_refl (x : PyNumber) : x.agrees x = true := by
  cases x <;> simp [agrees]

theorem same_iff (x y : PyNumber) :
    x.same y = true ↔ x.agrees y = true ∧ x.fresh = false ∧ y.fresh = false := by
  cases x <;> cases y <;> simp [same, agrees, fresh]

end PyNumber

/-! ## Values -/

inductive Yaml
  | null
  | bool (b : Bool)
  | int (n : ℤ)
  | float (x : PyNumber)
  | str (s : String)
  | bytes (bs : Bytes)
  /-- A date, a time or a tuple, by its text. -/
  | other (text : String)
  | seq (xs : List Yaml)
  | set (xs : List Yaml)
  | map (ms : List (Yaml × Yaml))

namespace Yaml

/-- The value of a number; `True` and `False` are numbers. -/
def number : Yaml → Option PyNumber
  | .bool b => some (.finite (if b then 1 else 0))
  | .int n => some (.finite n)
  | .float x => some x
  | _ => none

/-- `a == b` of two values without members. -/
def eqLeaf : Yaml → Yaml → Bool
  | .null, .null => true
  | .str s, .str t => s == t
  | .bytes bs, .bytes cs => bs == cs
  | .other s, .other t => s == t
  | a, b =>
      match a.number, b.number with
      -- The one NaN of the loader is identical with itself.
      | some x, some y => x.agrees y
      | _, _ => false

mutual

/-- `a == b`. -/
def eq : Yaml → Yaml → Bool
  | .seq xs, .seq ys => eqAll xs ys
  | .set xs, .set ys => xs.length == ys.length && allIn xs ys
  | .map ms, .map ns => ms.length == ns.length && membersIn ms ns
  | a, b => eqLeaf a b

def eqAll : List Yaml → List Yaml → Bool
  | [], [] => true
  | x :: xs, y :: ys => eq x y && eqAll xs ys
  | _, _ => false

/-- Every value equals one of the others. -/
def allIn : List Yaml → List Yaml → Bool
  | [], _ => true
  | x :: xs, ys => ys.any (fun y => eq x y) && allIn xs ys

def membersIn : List (Yaml × Yaml) → List (Yaml × Yaml) → Bool
  | [], _ => true
  | (k, v) :: ms, ns => ns.any (fun n => eq k n.1 && eq v n.2) && membersIn ms ns

end

/-- `v == text`. -/
def isStr (text : String) : Yaml → Bool
  | .str s => s == text
  | _ => false

/-- `hash(v)` does not raise. -/
def hashable : Yaml → Bool
  | .seq _ | .set _ | .map _ => false
  | _ => true

/-- `v[key]` or `v.get(key)` of a mapping. -/
def lookup (key : String) (ms : List (Yaml × Yaml)) : Option Yaml :=
  (ms.find? fun m => m.1.isStr key).map Prod.snd

/-- `iter(v)`; `none` when `v` is not iterable. -/
def iterate : Yaml → Option (List Yaml)
  | .str s => some (s.toList.map fun c => .str (String.ofList [c]))
  | .bytes bs => some (bs.map fun b => .int b.toNat)
  | .seq xs => some xs
  | .set xs => some xs
  | .map ms => some (ms.map Prod.fst)
  | _ => none

/-- `frozenset(v)`, as the values that `v` iterates over. -/
def frozenset (v : Yaml) : Option (List Yaml) :=
  v.iterate.bind fun xs => if xs.all hashable then some xs else none

mutual

theorem eq_refl : ∀ v : Yaml, eq v v = true
  | .seq xs => by
      rw [eq]
      exact eqAll_refl xs
  | .set xs => by
      rw [eq, allIn_of_subset xs xs fun _ hx => hx]
      simp
  | .map ms => by
      rw [eq, membersIn_of_subset ms ms fun _ hm => hm]
      simp
  | .null => by simp [eq, eqLeaf]
  | .bool b => by simp [eq, eqLeaf, number, PyNumber.agrees_refl]
  | .int n => by simp [eq, eqLeaf, number, PyNumber.agrees_refl]
  | .float x => by simp [eq, eqLeaf, number, PyNumber.agrees_refl]
  | .str s => by simp [eq, eqLeaf]
  | .bytes bs => by simp [eq, eqLeaf]
  | .other s => by simp [eq, eqLeaf]

theorem eqAll_refl : ∀ xs : List Yaml, eqAll xs xs = true
  | [] => by rw [eqAll]
  | x :: xs => by rw [eqAll, eq_refl x, eqAll_refl xs, Bool.and_self]

theorem allIn_of_subset : ∀ (xs ys : List Yaml), (∀ x ∈ xs, x ∈ ys) → allIn xs ys = true
  | [], ys, _ => by rw [allIn]
  | x :: xs, ys, h => by
      rw [allIn, allIn_of_subset xs ys fun z hz => h z (List.mem_cons_of_mem x hz), Bool.and_true]
      exact List.any_eq_true.2 ⟨x, h x List.mem_cons_self, eq_refl x⟩

theorem membersIn_of_subset :
    ∀ (ms ns : List (Yaml × Yaml)), (∀ m ∈ ms, m ∈ ns) → membersIn ms ns = true
  | [], ns, _ => by rw [membersIn]
  | (k, v) :: ms, ns, h => by
      rw [membersIn, membersIn_of_subset ms ns fun m hm => h m (List.mem_cons_of_mem _ hm),
        Bool.and_true]
      refine List.any_eq_true.2 ⟨(k, v), h (k, v) List.mem_cons_self, ?_⟩
      rw [eq_refl k, eq_refl v, Bool.and_self]

end

/-- `text in members`. -/
def containsStr (text : String) (members : List Yaml) : Bool :=
  members.any (isStr text)

theorem containsStr_iff {text : String} {members : List Yaml} :
    containsStr text members = true ↔ .str text ∈ members := by
  rw [containsStr, List.any_eq_true]
  constructor
  · rintro ⟨v, hv, hstr⟩
    cases v with
    | str s =>
        have hs : s = text := by simpa [isStr] using hstr
        exact hs ▸ hv
    | _ => simp [isStr] at hstr
  · intro h
    exact ⟨_, h, by simp [isStr]⟩

/-- `a == b` of two sets. -/
def setEq (xs ys : List Yaml) : Bool :=
  allIn xs ys && allIn ys xs

theorem setEq_refl (xs : List Yaml) : setEq xs xs = true := by
  rw [setEq, allIn_of_subset xs xs fun _ hx => hx, Bool.and_self]

end Yaml

/-! ## Conversions -/

/-- What the conversions make of a text, of bytes, and for `decimal` of the text of a float. -/
structure Conversions where
  int : Yaml → Option ℤ
  float : Yaml → Option PyNumber
  decimal : Yaml → Option PyNumber

/-- `int(v)`; a float loses its fraction. -/
def toInt (cv : Conversions) : Yaml → Option ℤ
  | .bool b => some (if b then 1 else 0)
  | .int n => some n
  | .float (.finite x) => some (x.num.tdiv x.den)
  | .str s => cv.int (.str s)
  | .bytes bs => cv.int (.bytes bs)
  | _ => none

/-- `float(v)`; an integer whose double overflows raises. -/
def toFloat (cv : Conversions) : Yaml → Option PyNumber
  | .bool b => some (.finite (if b then 1 else 0))
  | .int n => if |toBinary64 n| < 2 ^ 1024 then some (.finite (toBinary64 n)) else none
  | .float x => some x
  | .str s => cv.float (.str s)
  | .bytes bs => cv.float (.bytes bs)
  | _ => none

/-- `Decimal(str(v))`; `str` refuses an integer of more than 4300 digits. -/
def toDecimal (cv : Conversions) : Yaml → Option PyNumber
  | .int n => if n.natAbs < 10 ^ 4300 then some (.finite n) else none
  | .float x => cv.decimal (.float x)
  | .str s => cv.decimal (.str s)
  | _ => none

end Base
end OpenRouter
