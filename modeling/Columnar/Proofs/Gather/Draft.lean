import Mathlib.Tactic.Common
import Columnar.Gather.Draft
import Columnar.Proofs.Column.LaidOut
import Columnar.Proofs.Gather.Trace

/-!
# Drafts that were filled up to a position

After the slots `done` a bitmap holds their bits and zeros for those that are left, which
`Bytes.slate` says, and a draft holds such a bitmap and the number of nulls (`Draft.sketch`). Each
mark decides the next bit. A draft with nothing left is the bitmap and the null count of a column
laid out afresh.
-/

namespace Columnar

namespace Bytes

/-- The memory of a bitmap whose first bits are decided while `left` more are still clear. -/
def slate (done : List Bool) (left : Nat) : Bytes :=
  (Buffer.packed (ofBits (done ++ List.replicate left false))).memory

variable {done : List Bool} {left : Nat}

lemma slate_zero : slate done 0 = (Buffer.packed (ofBits done)).memory := by
  rw [slate, List.replicate_zero, List.append_nil]

/-- A cleared bitmap has everything left. -/
lemma slate_nil : slate [] left = (Buffer.packed (zeros ((left + 7) / 8))).memory := by
  have clear : ofBits (List.replicate left false) = zeros ((left + 7) / 8) := by
    apply eq_of_bits
    · rw [size_ofBits, size_zeros, List.length_replicate]
    · intro i
      rw [bit_ofBits, bit_zeros, List.getD_eq_getElem?_getD, List.getElem?_replicate]
      split <;> rfl
  rw [slate, List.nil_append, clear]

/-- A bit that stays clear is decided as it is. -/
lemma slate_succ : slate done (left + 1) = slate (done ++ [false]) left := by
  rw [slate, slate, List.replicate_succ, List.append_assoc, List.singleton_append]

/-- Setting the next bit decides it. -/
lemma setBit_slate (done : List Bool) (left : Nat) :
    (slate done (left + 1)).setBit done.length = .ok (slate (done ++ [true]) left) := by
  have inside : done.length < 8 * (slate done (left + 1)).size := by
    simp only [slate, Buffer.memory_packed, Array.size_append, size_ofBits, List.length_append,
      List.length_replicate]
    omega
  obtain ⟨c, run, size, bits⟩ := setBit_eq inside
  rw [run]
  congr 1
  -- Bits before the next one are decided, and those behind it are clear on both sides.
  apply eq_of_bits
  · rw [size]
    simp [slate, Nat.add_assoc, Nat.add_comm 1]
  · intro i
    rw [bits, slate, slate, Buffer.bit_packed, Buffer.bit_packed, bit_ofBits, bit_ofBits,
      List.replicate_succ, List.append_assoc, List.singleton_append]
    simp only [List.getD_eq_getElem?_getD]
    rcases Nat.lt_trichotomy i done.length with lt | rfl | gt
    · have ne : ¬ i = done.length := by omega
      simp [List.getElem?_append_left lt, ne]
    · simp
    · have ne : ¬ i = done.length := by omega
      obtain ⟨m, hm⟩ : ∃ m, i - done.length = m + 1 := ⟨i - done.length - 1, by omega⟩
      simp [List.getElem?_append_right (Nat.le_of_lt gt), hm, ne]

end Bytes

namespace Gather

namespace Draft

variable {α β : Type}

/-- The draft behind the slots `done`, with `left` more to come. -/
def sketch (bitmap : Bool) (done : List (Option α)) (left : Nat) : Draft where
  validity := if bitmap then some (Bytes.slate (done.map Option.isSome) left) else none
  nulls := done.countP Option.isNone

variable {bitmap : Bool} {done : List (Option α)} {left : Nat}

/-- What valid slots hold does not matter. -/
lemma sketch_map (f : α → β) : sketch bitmap (done.map (Option.map f)) left =
    sketch bitmap done left := by
  unfold sketch
  rw [List.map_map, List.countP_map]
  congr 1
  · simp [Function.comp_def]
  · simp [Function.comp_def]

/-- Deciding one more slot leaves one less. -/
lemma left_of_lt {n : Nat} (s : Option α) (hn : done.length < n) :
    n - done.length = n - (done ++ [s]).length + 1 := by
  rw [List.length_append, List.length_singleton]
  omega

lemma markValid_sketch (bitmap : Bool) (done : List (Option α)) (left : Nat) (c : α) :
    (sketch bitmap done (left + 1)).markValid done.length =
      .ok (sketch bitmap (done ++ [some c]) left) := by
  have nulls : (done ++ [some c]).countP Option.isNone = done.countP Option.isNone := by
    rw [List.countP_append, List.countP_singleton]
    rfl
  have valid : (done ++ [some c]).map Option.isSome = done.map Option.isSome ++ [true] := by
    rw [List.map_append, List.map_singleton]
    rfl
  unfold sketch
  rw [nulls, valid]
  cases bitmap with
  | false => rfl
  | true =>
    have set := Bytes.setBit_slate (done.map Option.isSome) left
    rw [List.length_map] at set
    change (do return Draft.mk (some (← Bytes.setBit _ _)) _) = _
    rw [set]
    rfl

lemma markNull_sketch : (sketch bitmap done (left + 1)).markNull =
    sketch bitmap (done ++ [none]) left := by
  have nulls : (done ++ [none]).countP Option.isNone = done.countP Option.isNone + 1 := by
    rw [List.countP_append, List.countP_singleton]
    rfl
  have valid : (done ++ [none]).map Option.isSome = done.map Option.isSome ++ [false] := by
    rw [List.map_append, List.map_singleton]
    rfl
  unfold sketch markNull
  rw [nulls, valid, Bytes.slate_succ]

end Draft

/-- The cleared validity bitmap that a gather of `n` slots begins with, if it needs one. -/
def cleanValidity (bitmap : Bool) (n : Nat) : Option Buffer :=
  if bitmap then some (.packed (Bytes.zeros ((n + 7) / 8))) else none

/-- The first draft has everything left. -/
lemma sketch_nil {α : Type} (bitmap : Bool) (n : Nat) :
    Draft.mk ((cleanValidity bitmap n).map Buffer.memory) 0 =
      Draft.sketch (α := α) bitmap [] n := by
  cases bitmap with
  | false => rfl
  | true =>
    unfold Draft.sketch
    rw [List.map_nil, Bytes.slate_nil]
    rfl

/-- The last draft is the bitmap and the null count of a column laid out afresh. -/
lemma finish_eq (t : DataType) (slots : List (Option Cell)) (bitmap : Bool) (buffers : List Buffer)
    (stored : t.layout ≠ .empty) (same : buffers = t.layout.buffers (Column.physical t slots)) :
    finish t slots.length (cleanValidity bitmap slots.length) (.sketch bitmap slots 0) buffers =
      .laidOut t slots bitmap none := by
  have validity : ((cleanValidity bitmap slots.length).bind fun b =>
      (Draft.sketch bitmap slots 0).validity.map b.withMemory) =
        if bitmap then some (.packed (.ofBits (slots.map Option.isSome))) else none := by
    cases bitmap with
    | false => rfl
    | true =>
      unfold Draft.sketch
      rw [Bytes.slate_zero]
      refine congrArg some (Buffer.withMemory_packed ?_)
      rw [Bytes.size_ofBits, Bytes.size_zeros, List.length_map]
  have known : ((slots.countP Option.isNone : Nat) : Int) ≠ Column.unknownCount := by
    unfold Column.unknownCount
    omega
  unfold finish
  rw [validity, same]
  exact Column.make_eq (Column.type_ne_null stored) known

/-- A gather begins with a cleared bitmap if it needs one. -/
lemma follows_holdingValidity {α : Type} {values indices : Column} {n : Nat}
    {body : Option Buffer → Pooled α} {plan : Plan α} (length : indices.length = n)
    (fits : n < 2 ^ 63)
    (follows : (body (cleanValidity (needsValidity values indices) n)).Follows plan) :
    (holdingValidity values indices body).Follows
      (.asksIf (needsValidity values indices) (Buffer.footprint ((n + 7) / 8)) plan) := by
  unfold holdingValidity allocateValidity cleanValidity at *
  rw [length]
  cases needs : needsValidity values indices with
  | false =>
    rw [needs] at follows
    exact .of_unwinds (follows.giveBack Pooled.givesBack_nothing)
  | true =>
    rw [needs] at follows
    have fetches := (Buffer.fetches_allocateEmptyBitmap fits).map (f := some)
      (Q := fun v => v = some (.packed (Bytes.zeros ((n + 7) / 8)))) fun b e => congrArg some e
    refine .bind_fetches fetches ?_
    rintro _ rfl
    exact follows.giveBack (Buffer.givesBack_bitmap n)

end Gather

end Columnar
