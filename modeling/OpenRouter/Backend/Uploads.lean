import Mathlib.Algebra.Order.Group.Unbundled.Int
import Mathlib.Data.List.Infix
import OpenRouter.Base.Utf8

/-!
# Uploads — an async stream behind a file's `read`

`_AsyncIterReader` of `repository/storage/s3_client.py`: the chunks of a stream, cut again to the
sizes that the upload asks for.  Against the bytes of the stream a call is `take` from where the
last one has ended (`reads_eq`), whatever the chunks are.
-/

namespace OpenRouter
namespace Backend

open Base

/-! ## The bytes of a stream -/

/-- What `read(size)` of a file returns when `left` is what is left of it. -/
def readOf (left : Bytes) (size : ℤ) : Bytes :=
  if size < 0 then left else left.take size.toNat

/-- The results of calls one after the other. -/
def readsOf : Bytes → List ℤ → List Bytes
  | _, [] => []
  | left, size :: sizes =>
      readOf left size :: readsOf (left.drop (readOf left size).length) sizes

theorem readOf_prefix (left : Bytes) (size : ℤ) : readOf left size <+: left := by
  unfold readOf
  split
  · exact List.prefix_rfl
  · exact List.take_prefix _ _

theorem readOf_append_drop (left : Bytes) (size : ℤ) :
    readOf left size ++ left.drop (readOf left size).length = left := by
  rcases readOf_prefix left size with ⟨rest, hrest⟩
  calc
    readOf left size ++ left.drop (readOf left size).length
        = readOf left size ++ (readOf left size ++ rest).drop (readOf left size).length := by
          rw [hrest]
    _ = left := by rw [List.drop_left, hrest]

theorem flatten_readsOf_le (left : Bytes) (sizes : List ℤ) :
    (readsOf left sizes).flatten <+: left := by
  induction sizes generalizing left with
  | nil =>
      exact List.nil_prefix
  | cons size sizes ih =>
      have hrest := ih (left.drop (readOf left size).length)
      have hcons : readOf left size ++ (readsOf _ sizes).flatten <+:
          readOf left size ++ left.drop (readOf left size).length :=
        (List.prefix_append_right_inj _).2 hrest
      rwa [readOf_append_drop] at hcons

theorem readsOf_length (left : Bytes) (sizes : List ℤ) :
    (readsOf left sizes).length = sizes.length := by
  induction sizes generalizing left with
  | nil => rfl
  | cons size sizes ih => simp [readsOf, ih]

/-- The call at `i` begins where the calls before it have ended. -/
theorem readsOf_getElem? (left : Bytes) (sizes : List ℤ) (i : ℕ) :
    (readsOf left sizes)[i]? =
      sizes[i]?.map (readOf (left.drop ((readsOf left sizes).take i).flatten.length)) := by
  induction sizes generalizing left i with
  | nil =>
      simp [readsOf]
  | cons size sizes ih =>
      cases i with
      | zero => simp [readsOf]
      | succ i =>
          calc
            (readsOf left (size :: sizes))[i + 1]?
                = (readsOf (left.drop (readOf left size).length) sizes)[i]? := rfl
            _ = sizes[i]?.map (readOf ((left.drop (readOf left size).length).drop
                  ((readsOf (left.drop (readOf left size).length) sizes).take i).flatten.length)) :=
                ih _ i
            _ = _ := by
                simp [readsOf, List.drop_drop]

/-- Calls with one size. -/
theorem readsOf_replicate (left : Bytes) (part n : ℕ) :
    (readsOf left (List.replicate n (part : ℤ))).flatten = left.take (n * part) := by
  induction n generalizing left with
  | zero =>
      simp [readsOf]
  | succ n ih =>
      have hread : readOf left part = left.take part := by simp [readOf]
      have hdrop : left.drop (left.take part).length = left.drop part := by
        rw [List.length_take]
        rcases le_total part left.length with hle | hle
        · rw [min_eq_left hle]
        · rw [min_eq_right hle, List.drop_length, List.drop_eq_nil_of_le hle]
      rw [List.replicate_succ, readsOf, hread, hdrop, List.flatten_cons, ih, Nat.succ_mul,
        Nat.add_comm, List.take_add]

/-! ## `_AsyncIterReader` -/

/-- `source` are the chunks that the iterator has not yielded yet; behind them it stops. -/
structure AsyncIterReader where
  source : List Bytes
  buffer : Bytes := []

namespace AsyncIterReader

/-- The `while` loop of `read`; an iterator without chunks raises `StopAsyncIteration`. -/
def fill (size : ℕ) : List Bytes → Bytes → AsyncIterReader
  | [], buffer => { source := [], buffer := buffer }
  | chunk :: source, buffer =>
      if buffer.length < size then fill size source (buffer ++ chunk)
      else { source := chunk :: source, buffer := buffer }

def read (r : AsyncIterReader) (size : ℤ) : Bytes × AsyncIterReader :=
  if size < 0 then
    ((r.buffer :: r.source).flatten, { source := [], buffer := [] })
  else
    -- What has been read beyond `size` is kept for the next call.
    let filled := fill size.toNat r.source r.buffer
    (filled.buffer.take size.toNat,
      { source := filled.source, buffer := filled.buffer.drop size.toNat })

/-- Calls one after the other on one reader. -/
def reads : AsyncIterReader → List ℤ → List Bytes
  | _, [] => []
  | r, size :: sizes => (r.read size).1 :: reads (r.read size).2 sizes

/-- What is left of the stream. -/
def left (r : AsyncIterReader) : Bytes :=
  r.buffer ++ r.source.flatten

theorem fill_left (size : ℕ) (source : List Bytes) (buffer : Bytes) :
    (fill size source buffer).left = buffer ++ source.flatten := by
  induction source generalizing buffer with
  | nil => rfl
  | cons chunk source ih =>
      unfold fill
      split
      · rw [ih, List.flatten_cons, List.append_assoc]
      · rfl

/-- The loop ends with enough bytes, or with none left behind the buffer. -/
theorem fill_enough (size : ℕ) (source : List Bytes) (buffer : Bytes) :
    size ≤ (fill size source buffer).buffer.length ∨ (fill size source buffer).source = [] := by
  induction source generalizing buffer with
  | nil =>
      exact .inr rfl
  | cons chunk source ih =>
      unfold fill
      split
      · exact ih (buffer ++ chunk)
      · rename_i hlong
        exact .inl (not_lt.1 hlong)

/-- From a filled buffer `size` bytes are taken as from all that is left. -/
theorem take_fill (size : ℕ) (source : List Bytes) (buffer : Bytes) :
    (fill size source buffer).buffer.take size = (buffer ++ source.flatten).take size := by
  rw [← fill_left size source buffer, left]
  -- A buffer that is still short is all that there is.
  rcases fill_enough size source buffer with henough | hempty
  · rw [List.take_append_of_le_length henough]
  · rw [hempty, List.flatten_nil, List.append_nil]

/-- A call returns what a file would, and leaves the rest. -/
theorem read_spec (r : AsyncIterReader) (size : ℤ) :
    (r.read size).1 = readOf r.left size ∧
      (r.read size).1 ++ (r.read size).2.left = r.left := by
  unfold read readOf
  split
  · simp [left]
  · refine ⟨take_fill _ _ _, ?_⟩
    have hfill := fill_left size.toNat r.source r.buffer
    calc
      _ = (fill size.toNat r.source r.buffer).left := by
            simp only [left]
            rw [← List.append_assoc, List.take_append_drop]
      _ = r.left := hfill

/-- Calls on a reader return what calls on a file with the same bytes return. -/
theorem reads_eq (r : AsyncIterReader) (sizes : List ℤ) :
    r.reads sizes = readsOf r.left sizes := by
  induction sizes generalizing r with
  | nil => rfl
  | cons size sizes ih =>
      rcases read_spec r size with ⟨hout, hleft⟩
      -- The calls that follow read on from where this one has ended.
      have hrest : (r.read size).2.left = r.left.drop (readOf r.left size).length := by
        calc
          (r.read size).2.left
              = ((r.read size).1 ++ (r.read size).2.left).drop (r.read size).1.length :=
                List.drop_left.symm
          _ = r.left.drop (readOf r.left size).length := by rw [hleft, hout]
      rw [reads, readsOf, ih, hout, hrest]

/-- An upload part by part sends the whole stream. -/
theorem reads_parts {part n : ℕ} (r : AsyncIterReader) (h : r.left.length ≤ n * part) :
    (r.reads (List.replicate n (part : ℤ))).flatten = r.left := by
  rw [reads_eq, readsOf_replicate, List.take_of_length_le h]

/-- Whatever the chunks of a stream are, and whatever is asked for: the results are the stream in
its order, up to where the last call has ended; a call with a size returns so many bytes, or all
that is left when there are fewer; a call with a negative size returns all that is left. -/
theorem reads_in_order (chunks : List Bytes) (sizes : List ℤ) :
    ((AsyncIterReader.mk chunks []).reads sizes).length = sizes.length ∧
      ((AsyncIterReader.mk chunks []).reads sizes).flatten <+: chunks.flatten ∧
        ∀ i size out, sizes[i]? = some size →
          ((AsyncIterReader.mk chunks []).reads sizes)[i]? = some out →
            ∃ rest, chunks.flatten =
                (((AsyncIterReader.mk chunks []).reads sizes).take i).flatten ++ (out ++ rest) ∧
              (0 ≤ size → (out.length : ℤ) = size ∨ out.length < size ∧ rest = []) ∧
              (size < 0 → rest = []) := by
  have hstream : (AsyncIterReader.mk chunks []).left = chunks.flatten := rfl
  rw [reads_eq, hstream]
  refine ⟨readsOf_length _ _, flatten_readsOf_le _ _, fun i size out hsize hout => ?_⟩
  -- `after` is the stream from behind the calls in front of `i`.
  have hbefore : ((readsOf chunks.flatten sizes).take i).flatten <+: chunks.flatten :=
    (List.IsPrefix.flatten (List.take_prefix i _)).trans (flatten_readsOf_le _ _)
  rcases hbefore with ⟨after, hafter⟩
  have hcall : readOf after size = out := by
    rw [readsOf_getElem?, hsize, Option.map_some, Option.some.injEq] at hout
    have hdrop :
        chunks.flatten.drop ((readsOf chunks.flatten sizes).take i).flatten.length = after :=
      calc
        _ = (((readsOf chunks.flatten sizes).take i).flatten ++ after).drop
              ((readsOf chunks.flatten sizes).take i).flatten.length := by rw [hafter]
        _ = after := List.drop_left
    rw [← hdrop, hout]
  refine ⟨after.drop out.length, ?_, fun hsized => ?_, fun hnegative => ?_⟩
  · rw [← hcall, readOf_append_drop, hafter]
  · rw [readOf, if_neg (not_lt.2 hsized)] at hcall
    rcases le_or_gt size.toNat after.length with hlong | hshort
    · left
      rw [← hcall, List.length_take_of_le hlong]
      exact Int.toNat_of_nonneg hsized
    · right
      rw [← hcall, List.take_of_length_le hshort.le]
      exact ⟨by omega, List.drop_length⟩
  · rw [readOf, if_pos hnegative] at hcall
    rw [← hcall, List.drop_length]

end AsyncIterReader

end Backend
end OpenRouter
