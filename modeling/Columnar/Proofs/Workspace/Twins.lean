import Mathlib.Tactic.Common
import Columnar.Proofs.Workspace.Accounted

/-!
# Twin workspaces

Twins are accounted workspaces that are the same but for the null counts that records store. Where
one of them does not know a count the other one may know it, and both are right where they know one.
What changes both alike leaves them twins, and so does a right null count that is stored in one.
Views and records last while nulls are counted and dictionaries are opened.
-/

namespace Columnar.Workspace
variable {w w' : Workspace} {id v : Nat} {n n' : Int}

/-- Accounted workspaces that are the same but for stored null counts. -/
structure Twins (w w' : Workspace) : Prop extends w.Recounted w' where
  left : w.Accounted
  right : w'.Accounted

namespace Recounted

lemma refl (w : Workspace) : w.Recounted w := ⟨rfl, rfl, rfl, fun _ => rfl, rfl, rfl⟩

lemma withCount (h : w.Recounted w') (id : Nat) (n : Int) : w.Recounted (w'.withCount id n) where
  pool := h.pool
  buffers := h.buffers
  size := (size_withCount w' id n).trans h.size
  record j := by
    rw [(recounted_withCount w' id n).record, h.record]
  views := h.views
  registers := h.registers

lemma symm (h : w.Recounted w') : w'.Recounted w where
  pool := h.pool.symm
  buffers := h.buffers.symm
  size := h.size.symm
  record j := by rw [h.record]
  views := h.views.symm
  registers := h.registers.symm

lemma buffersOf (h : w.Recounted w') (id : Nat) : w'.buffersOf id = w.buffersOf id := by
  induction id using Nat.strong_induction_on with
  | _ id ih =>
    rw [Workspace.buffersOf, Workspace.buffersOf, h.record]
    cases (w.record id).dictionary with
    | none => rfl
    | some d =>
      by_cases older : d < id
      · simp only [older, ih d older]
      · simp [older]

/-- What registers reach does not depend on what records count. -/
lemma reachedBytes (h : w.Recounted w') : w'.reachedBytes = w.reachedBytes := by
  simp only [Workspace.reachedBytes, h.registers, view_of_views h.views, h.buffers, h.buffersOf]

end Recounted

namespace Twins

lemma refl (h : w.Accounted) : w.Twins w := ⟨.refl w, h, h⟩

lemma symm (h : w.Twins w') : w'.Twins w := ⟨h.toRecounted.symm, h.right, h.left⟩

section Columns

lemma column (h : w.Twins w') (hid : id < w.records.size) :
    (w.column id).Recounted (w'.column id) := h.toRecounted.column h.left.furnished hid

lemma view (h : w.Twins w') (v : Nat) : w'.view v = w.view v := view_of_views h.views v

lemma columnOf (h : w.Twins w') (hv : v < w.views.size) :
    (w.columnOf v).Recounted (w'.columnOf v) := by
  rw [Workspace.columnOf, Workspace.columnOf, h.view]
  exact h.column (h.left.record v hv)

lemma slotsOf (h : w.Twins w') (hv : v < w.views.size) :
    (w.slotsOf v).Recounted (w'.slotsOf v) := by
  rw [Workspace.slotsOf, Workspace.slotsOf, h.view]
  cases (w.view v).keys with
  | none => exact h.columnOf hv
  | some k => exact (h.columnOf hv).withNullCount _ _

lemma sound_column (h : w.Twins w') (hid : id < w.records.size) :
    (w.column id).Sound ∧ (w'.column id).Sound :=
  ⟨h.left.sound id hid, h.right.sound id (h.size ▸ hid)⟩

lemma sound_columnOf (h : w.Twins w') (hv : v < w.views.size) :
    (w.columnOf v).DeeplySound ∧ (w'.columnOf v).DeeplySound :=
  ⟨h.left.columnOf hv, h.right.columnOf (h.views ▸ hv)⟩

end Columns

section Changing

lemma withPool (h : w.Twins w') (pool : Pool) : Twins { w with pool } { w' with pool } where
  pool := rfl
  buffers := h.buffers
  size := h.size
  record := h.record
  views := h.views
  registers := h.registers
  left := h.left.withPool pool
  right := h.right.withPool pool

lemma reclaim (h : w.Twins w') : w.reclaim.Twins w'.reclaim := by
  rw [Workspace.reclaim, Workspace.reclaim, h.reachedBytes, h.pool]
  exact h.withPool _

lemma withRegisters {registers : Array (Option Nat)} (h : w.Twins w')
    (inside : ∀ (r v : Nat), registers[r]? = some (some v) → v < w.views.size) :
    Twins { w with registers } { w' with registers } where
  pool := h.pool
  buffers := h.buffers
  size := h.size
  record := h.record
  views := h.views
  registers := rfl
  left := h.left.withRegisters inside
  right := h.right.withRegisters (h.views ▸ inside)

lemma withRegister {held : Option Nat} (h : w.Twins w')
    (inside : ∀ v, held = some v → v < w.views.size) :
    Twins { w with registers := w.registers.push held }
      { w' with registers := w'.registers.push held } := by
  rw [h.registers]
  exact h.withRegisters (h.left.inside_push inside)

lemma emptied (h : w.Twins w') (r : Nat) :
    Twins { w with registers := w.registers.setIfInBounds r none }
      { w' with registers := w'.registers.setIfInBounds r none } := by
  rw [h.registers]
  refine h.withRegisters fun s v here => ?_
  rw [Array.getElem?_setIfInBounds] at here
  split at here
  · split at here
    · cases here
    · cases here
  · exact h.left.registers s v here

lemma withBuffer (h : w.Twins w') (b : Buffer) : (w.withBuffer b).Twins (w'.withBuffer b) where
  pool := h.pool
  buffers := by rw [Workspace.withBuffer, Workspace.withBuffer, h.buffers]
  size := h.size
  record := h.record
  views := h.views
  registers := h.registers
  left := h.left.withBuffer b
  right := h.right.withBuffer b

lemma withRecord {r r' : Record} (h : w.Twins w')
    (same : r' = { r with nullCount := r'.nullCount }) (left : (w.withRecord r).Accounted)
    (right : (w'.withRecord r').Accounted) : (w.withRecord r).Twins (w'.withRecord r') where
  pool := h.pool
  buffers := h.buffers
  size := by rw [size_withRecord, size_withRecord, h.size]
  record j := by
    rw [record_withRecord, record_withRecord, h.size]
    split
    · exact same
    · exact h.record j
  views := h.views
  registers := h.registers
  left := left
  right := right

lemma withView {v : View} (h : w.Twins w') (left : (w.withView v).Accounted)
    (right : (w'.withView v).Accounted) : (w.withView v).Twins (w'.withView v) where
  pool := h.pool
  buffers := h.buffers
  size := h.size
  record := h.record
  views := by rw [Workspace.withView, Workspace.withView, h.views]
  registers := h.registers
  left := left
  right := right

lemma withDictionary {opened : Nat} (h : w.Twins w') (inside : opened < w.views.size) (id : Nat) :
    (w.withDictionary id opened).Twins (w'.withDictionary id opened) where
  pool := h.pool
  buffers := h.buffers
  size := h.size
  record := h.record
  views := by rw [Workspace.withDictionary, Workspace.withDictionary, h.views]
  registers := h.registers
  left := h.left.withDictionary inside id
  right := h.right.withDictionary (h.views ▸ inside) id

/-- One of two twins learns a null count. -/
lemma withCount_right (h : w.Twins w') (hid : id < w.records.size)
    (right : (w'.column id).Admits n) : w.Twins (w'.withCount id n) :=
  ⟨h.toRecounted.withCount id n, h.left, h.right.withCount (h.size ▸ hid) right⟩

lemma withCount_left (h : w.Twins w') (hid : id < w.records.size)
    (left : (w.column id).Admits n) : (w.withCount id n).Twins w' :=
  (h.symm.withCount_right (h.size ▸ hid) left).symm

lemma withCount (h : w.Twins w') (hid : id < w.records.size) (left : (w.column id).Admits n)
    (right : (w'.column id).Admits n') : (w.withCount id n).Twins (w'.withCount id n') :=
  (h.withCount_left hid left).withCount_right (by rw [size_withCount]; exact hid) right

end Changing

end Twins

section Lasting

/-- Whether all views and records of a workspace are still there in another one. Null counts may
have been stored meanwhile, and dictionaries opened. -/
structure Lasts (w w' : Workspace) : Prop where
  records : w.records.size ≤ w'.records.size
  record : ∀ id < w.records.size, w'.record id =
    { w.record id with nullCount := (w'.record id).nullCount }
  views : w.views.size ≤ w'.views.size
  view : ∀ v < w.views.size, (w'.view v).record = (w.view v).record

namespace Lasts

lemma refl (w : Workspace) : w.Lasts w :=
  ⟨Nat.le_refl _, fun _ _ => rfl, Nat.le_refl _, fun _ _ => rfl⟩

lemma trans {w'' : Workspace} (h : w.Lasts w') (h' : w'.Lasts w'') : w.Lasts w'' where
  records := Nat.le_trans h.records h'.records
  record id hid := by rw [h'.record id (Nat.lt_of_lt_of_le hid h.records), h.record id hid]
  views := Nat.le_trans h.views h'.views
  view v hv := (h'.view v (Nat.lt_of_lt_of_le hv h.views)).trans (h.view v hv)

lemma withCount (w : Workspace) (id : Nat) (n : Int) : w.Lasts (w.withCount id n) where
  records := Nat.le_of_eq (size_withCount w id n).symm
  record j _ := (recounted_withCount w id n).record j
  views := Nat.le_refl _
  view _ _ := rfl

lemma withRecord (w : Workspace) (r : Record) : w.Lasts (w.withRecord r) where
  records := by
    rw [size_withRecord]
    exact Nat.le_succ _
  record id hid := by rw [record_withRecord, if_neg (Nat.ne_of_lt hid)]
  views := Nat.le_refl _
  view _ _ := rfl

lemma withView (w : Workspace) (v : View) : w.Lasts (w.withView v) where
  records := Nat.le_refl _
  record _ _ := rfl
  views := by
    rw [size_withView]
    exact Nat.le_succ _
  view j hj := by rw [view_withView, if_neg (Nat.ne_of_lt hj)]

lemma withDictionary (w : Workspace) (id opened : Nat) :
    w.Lasts (w.withDictionary id opened) where
  records := Nat.le_refl _
  record _ _ := rfl
  views := Nat.le_of_eq (size_withDictionary w id opened).symm
  view v _ := (view_withDictionary w id opened v).1

lemma inside (h : w.Lasts w') (hv : v < w.views.size) : v < w'.views.size :=
  Nat.lt_of_lt_of_le hv h.views

/-- The slots of a view stay as many as they were. -/
lemma length_slotsOf (h : w.Lasts w') (linked : w.Linked) (hv : v < w.views.size) :
    (w'.slotsOf v).length = (w.columnOf v).length := by
  have slots : (w'.slotsOf v).length = (w'.columnOf v).length := by
    rw [Workspace.slotsOf]
    split
    · rfl
    · rfl
  rw [slots, Workspace.columnOf, Workspace.columnOf, column_eq, column_eq, h.view v hv,
    h.record _ (linked.record v hv)]

end Lasts

end Lasting

end Columnar.Workspace
