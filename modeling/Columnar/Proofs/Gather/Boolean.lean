import Mathlib.Tactic.Common
import Columnar.Gather.Boolean
import Columnar.Proofs.Gather.Draft

/-!
# Gathering bits lays them out

A walk over bits keeps a cleared bitmap in step with the slots it has picked. The gathered column is
the picked slots laid out afresh.
-/

namespace Columnar.Gather
variable {values indices : Column} {k : IntKind} {n : Nat} {xs : List (Option Cell)}
  {bitmap : Bool}

/-- The draft of `n` bits behind the slots `done`. -/
def BitDraft.sketch (t : DataType) (bitmap : Bool) (n : Nat) (done : List (Option Cell)) :
    BitDraft where
  toDraft := .sketch bitmap done (n - done.length)
  values := .slate ((Column.physical t done).map Cell.isSet) (n - done.length)

lemma visitBit_valid {done : List (Option Cell)} {j : Nat} {x : Cell} {t : DataType}
    (layout : values.type.layout = .bits) (cell : values.cell j = .ok x) (hn : done.length < n) :
    visitBit values (.sketch t bitmap n done) (.valid done.length j) =
      .ok (.sketch t bitmap n (done ++ [some x])) := by
  rw [Column.cell_of_bits layout] at cell
  obtain ⟨b, read, e⟩ := Checked.bind_eq_ok.1 cell
  cases e
  have left := Draft.left_of_lt (some (Cell.bit b)) hn
  have mark := Draft.markValid_sketch bitmap done
    (n - (done ++ [some (Cell.bit b)]).length) (.bit b)
  have physical : (Column.physical t (done ++ [some (Cell.bit b)])).map Cell.isSet =
      (Column.physical t done).map Cell.isSet ++ [b] := by
    simp [Column.physical, Cell.isSet]
  unfold BitDraft.sketch visitBit
  rw [left, physical]
  simp only [read, mark, Checked.ok_bind]
  cases b with
  | false => rw [Bytes.slate_succ]; rfl
  | true =>
    have set := Bytes.setBit_slate ((Column.physical t done).map Cell.isSet)
      (n - (done ++ [some (Cell.bit true)]).length)
    rw [List.length_map, Column.physical, List.length_map, ← Column.physical] at set
    simp only [if_true, set, Checked.ok_bind]
    rfl

lemma visitBit_null {done : List (Option Cell)} {t : DataType} (hn : done.length < n) :
    visitBit values (.sketch t bitmap n done) (.null done.length) =
      .ok (.sketch t bitmap n (done ++ [none])) := by
  have left := Draft.left_of_lt none hn
  have clear : (Cell.cleared t.layout).isSet = false := by cases t.layout <;> rfl
  have physical : (Column.physical t (done ++ [none])).map Cell.isSet =
      (Column.physical t done).map Cell.isSet ++ [false] := by
    simp [Column.physical, clear]
  unfold BitDraft.sketch visitBit
  rw [left, physical, ← Bytes.slate_succ, ← Draft.markNull_sketch]
  rfl

lemma walk_visitBit (layout : values.type.layout = .bits)
    (selects : Visit.Selects values 0 (trace values indices k).visits xs) (hn : xs.length ≤ n) :
    walk (m := Checked) values indices k (visitBit values) (.sketch values.type bitmap n []) =
      (do
        let _ ← (trace values indices k).ending
        return .sketch values.type bitmap n xs) := by
  have run := selects.foldlM (visitBit values) (BitDraft.sketch values.type bitmap n)
    (fun done j x after e cell => visitBit_valid layout cell (by
      rw [e, List.length_append, List.length_cons] at hn
      omega))
    (fun done after e => visitBit_null (by
      rw [e, List.length_append, List.length_cons] at hn
      omega))
  rw [walk_eq, run]
  rfl

/-- Gathering bits lays out the slots that are picked. -/
lemma follows_booleanOf (layout : values.type.layout = .bits) (length : indices.length = n)
    (fits : n < 2 ^ 63)
    (selects : Visit.Selects values 0 (trace values indices k).visits xs) :
    (booleanOf values indices k).Follows
      (.asksIf (needsValidity values indices) (Buffer.footprint ((n + 7) / 8))
        (.asks (Buffer.footprint ((n + 7) / 8))
          (.check (trace values indices k).ending
            (.ends (.ok (.laidOut values.type xs (needsValidity values indices) none)))))) := by
  obtain ⟨le, whole⟩ := length_visits values k length
  rw [← selects.length] at le whole
  apply follows_holdingValidity length fits
  rw [length]
  apply Buffer.follows_holding_bitmap fits
  have start : BitDraft.mk
      ⟨(cleanValidity (needsValidity values indices) n).map Buffer.memory, 0⟩
        (Buffer.packed (Bytes.zeros ((n + 7) / 8))).memory =
      .sketch values.type (needsValidity values indices) n [] := by
    rw [sketch_nil, ← Bytes.slate_nil]
    rfl
  simp only [start, walk_visitBit layout selects le]
  cases ending : (trace values indices k).ending with
  | error e => exact .of_checked _
  | ok u =>
    have full := whole ending
    subst full
    have bits : (Buffer.packed (Bytes.zeros ((xs.length + 7) / 8))).withMemory
        (Bytes.slate ((Column.physical values.type xs).map Cell.isSet) 0) =
        .packed (.ofBits ((Column.physical values.type xs).map Cell.isSet)) := by
      rw [Bytes.slate_zero, Buffer.withMemory_packed]
      rw [Bytes.size_ofBits, Bytes.size_zeros, List.length_map, Column.physical, List.length_map]
    have finished := finish_eq values.type xs (needsValidity values indices)
      [.packed (.ofBits ((Column.physical values.type xs).map Cell.isSet))]
      (by rw [layout]; exact Layout.noConfusion) (by rw [layout]; rfl)
    rw [← finished, ← bits, BitDraft.sketch, Nat.sub_self]
    exact .of_checked _

end Columnar.Gather
