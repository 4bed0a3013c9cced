import Mathlib.Tactic.Common
import Columnar.Gather.FixedWidth
import Columnar.Proofs.Gather.Draft

/-!
# Gathering fixed-width values lays them out

The output begins as unspecified bytes, and a walk replaces them front to back. Behind the slots
picked so far still stands what was there.
-/

namespace Columnar.Gather
variable {values indices : Column} {k : IntKind} {n w : Nat} {xs : List (Option Cell)}
  {bitmap : Bool} {old : List UInt8}

/-- The draft of `n` slots over the memory `old`, behind the slots `done`. -/
def FixedDraft.sketch (t : DataType) (w : Nat) (bitmap : Bool) (n : Nat) (old : List UInt8)
    (done : List (Option Cell)) : FixedDraft where
  toDraft := .sketch bitmap done (n - done.length)
  values := (Column.contents t done ++ old.drop (done.length * w)).toArray

/-- Writing the next slot puts it behind those that are done. -/
lemma overwrite_sketch (bitmap : Bool) {t : DataType} {done : List (Option Cell)}
    {s : Option Cell} {slot : Bytes}
    (layout : t.layout = .fixed w) (fit : ∀ c, some c ∈ done → c.Fits t.layout)
    (here : s.getD (.cleared t.layout) = .bytes slot) (size : slot.size = w)
    (hn : done.length < n) (room : n * w ≤ old.length) :
    (FixedDraft.sketch t w bitmap n old done).values.overwrite (done.length * w) slot =
      .ok (FixedDraft.sketch t w bitmap n old (done ++ [s])).values := by
  have before := Column.length_contents layout fit
  have le : (done.length + 1) * w ≤ n * w := Nat.mul_le_mul_right w hn
  rw [Nat.succ_mul] at le
  have replaced := Bytes.overwrite_drop (Column.contents t done) old slot
    (by rw [before, size]; omega)
  have bytes : slot.toList.length = w := Array.length_toList.trans size
  rw [List.length_append, before, bytes, Int.natCast_mul, ← Nat.succ_mul] at replaced
  rw [FixedDraft.sketch, FixedDraft.sketch, Column.contents_append, Column.contents_singleton, here,
    List.length_append, List.length_singleton]
  exact replaced

variable {t : DataType} {done : List (Option Cell)}

lemma visitFixed_valid {j : Nat} {x : Cell} (layout : values.type.layout = .fixed w)
    (fit : ∀ c, some c ∈ done → c.Fits values.type.layout) (cell : values.cell j = .ok x)
    (hn : done.length < n) (room : n * w ≤ old.length) :
    visitFixed values w (.sketch values.type w bitmap n old done) (.valid done.length j) =
      .ok (.sketch values.type w bitmap n old (done ++ [some x])) := by
  rw [Column.cell_of_fixed layout] at cell
  obtain ⟨slot, read, e⟩ := Checked.bind_eq_ok.1 cell
  cases e
  have mark := Draft.markValid_sketch bitmap done
    (n - (done ++ [some (Cell.bytes slot)]).length) (.bytes slot)
  have put := overwrite_sketch bitmap (s := some (.bytes slot)) layout fit rfl
    (Int.ofNat_inj.1 (Bytes.size_of_span read)) hn room
  unfold visitFixed
  change (do
    let slot ← (values.memory 1).span ((values.offset + j) * w) w
    return FixedDraft.mk (← (Draft.sketch bitmap done (n - done.length)).markValid done.length)
      (← (FixedDraft.sketch values.type w bitmap n old done).values.overwrite _ slot)) = _
  rw [Draft.left_of_lt (some (Cell.bytes slot)) hn, read, Checked.ok_bind, mark, Checked.ok_bind,
    put]
  rfl

lemma visitFixed_null (layout : values.type.layout = .fixed w)
    (fit : ∀ c, some c ∈ done → c.Fits values.type.layout)
    (hn : done.length < n) (room : n * w ≤ old.length) :
    visitFixed values w (.sketch values.type w bitmap n old done) (.null done.length) =
      .ok (.sketch values.type w bitmap n old (done ++ [none])) := by
  have put := overwrite_sketch bitmap (s := none) layout fit (by rw [layout]; rfl)
    (Bytes.size_zeros w) hn room
  unfold visitFixed
  change (do
    return FixedDraft.mk (Draft.sketch bitmap done (n - done.length)).markNull
      (← (FixedDraft.sketch values.type w bitmap n old done).values.overwrite _ _)) = _
  rw [Draft.left_of_lt none hn, Draft.markNull_sketch, put]
  rfl

lemma walk_visitFixed (layout : values.type.layout = .fixed w)
    (selects : Visit.Selects values 0 (trace values indices k).visits xs) (hn : xs.length ≤ n)
    (room : n * w ≤ old.length) :
    walk (m := Checked) values indices k (visitFixed values w)
      (.sketch values.type w bitmap n old []) = (do
        let _ ← (trace values indices k).ending
        return .sketch values.type w bitmap n old xs) := by
  have fit (done : List (Option Cell)) (s after) (e : xs = done ++ s :: after) :
      (∀ c, some c ∈ done → c.Fits values.type.layout) ∧ done.length < n := by
    refine ⟨fun c hc => selects.fits (by simp [e, hc]), ?_⟩
    rw [e, List.length_append, List.length_cons] at hn
    omega
  have run := selects.foldlM (visitFixed values w)
    (FixedDraft.sketch values.type w bitmap n old)
    (fun done j x after e cell =>
      visitFixed_valid layout (fit done _ after e).1 cell (fit done _ after e).2 room)
    (fun done after e => visitFixed_null layout (fit done _ after e).1 (fit done _ after e).2 room)
  rw [walk_eq, run]
  rfl

/-- Gathering fixed-width values lays out the slots that are picked, if there is room. -/
lemma follows_fixedWidthOf (layout : values.type.layout = .fixed w) (length : indices.length = n)
    (fits : n < 2 ^ 63)
    (selects : Visit.Selects values 0 (trace values indices k).visits xs) :
    (fixedWidthOf values indices w k).Follows
      (.asksIf (needsValidity values indices) (Buffer.footprint ((n + 7) / 8))
        (.check (Buffer.room (n * w))
          (.asks (Buffer.footprint (n * w))
            (.check (trace values indices k).ending
              (.ends (.ok (.laidOut values.type xs (needsValidity values indices) none))))))) := by
  obtain ⟨le, whole⟩ := length_visits values k length
  rw [← selects.length] at le whole
  apply follows_holdingValidity length fits
  rw [length, ← Int.natCast_mul]
  refine Buffer.follows_holding_allocate fun _ old size => ?_
  have start : FixedDraft.mk
      ⟨(cleanValidity (needsValidity values indices) n).map Buffer.memory, 0⟩
        (Buffer.packed old).memory =
      .sketch values.type w (needsValidity values indices) n (Buffer.packed old).memory.toList
        [] := by
    rw [sketch_nil (α := Cell)]
    simp [FixedDraft.sketch, Column.contents, Column.physical]
  have room := Buffer.le_length_packed old
  rw [size] at room
  simp only [start, walk_visitFixed layout selects le room]
  cases ending : (trace values indices k).ending with
  | error e => exact .of_checked _
  | ok u =>
    have full := whole ending
    subst full
    have contents := Column.length_contents layout fun c hc => selects.fits hc
    have bytes := Buffer.append_drop_packed (contents.trans size.symm)
    rw [contents] at bytes
    have buffer : (Buffer.packed old).withMemory
        (Buffer.packed (Column.contents values.type xs).toArray).memory =
        .packed (Column.contents values.type xs).toArray :=
      Buffer.withMemory_packed (by rw [size, ← contents]; rfl)
    have finished := finish_eq values.type xs (needsValidity values indices)
      [.packed (Column.contents values.type xs).toArray]
      (by rw [layout]; exact Layout.noConfusion) (by rw [layout]; rfl)
    rw [← finished, ← buffer, FixedDraft.sketch, Nat.sub_self, bytes]
    exact .of_checked _

end Columnar.Gather
