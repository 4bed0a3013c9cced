import Mathlib.Tactic.Common
import Columnar.Workspace.Basic
import Columnar.Proofs.Column.WellFormed

/-!
# Columns of a workspace

The column of a record depends on the record, its buffers and its dictionaries only. It stays the
same when records and buffers are added, and stays well-formed when a right null count is stored in
one of the records, which may be its own or that of a dictionary.
-/

namespace Columnar.Workspace
variable {w w' : Workspace} {id : Nat}

lemma column_eq (w : Workspace) (id : Nat) : w.column id =
    ⟨(w.record id).type, (w.record id).length, (w.record id).offset, (w.record id).nullCount,
      (w.record id).buffers.map (·.bind fun b => w.buffers[b]?),
      (w.record id).dictionary.bind fun d => if d < id then some (w.column d) else none⟩ := by
  rw [column]
  cases (w.record id).dictionary with
  | none => rfl
  | some d =>
    by_cases lt : d < id
    · simp [lt]
    · simp [lt]

/-- Whether all records and buffers of a workspace are still there in another one. -/
structure Extends (w' w : Workspace) : Prop where
  records : w.records.size ≤ w'.records.size
  record : ∀ id < w.records.size, w'.record id = w.record id
  buffers : w.buffers.size ≤ w'.buffers.size
  buffer : ∀ b < w.buffers.size, w'.buffers[b]? = w.buffers[b]?

lemma Extends.trans {w'' : Workspace} (h : w''.Extends w') (h' : w'.Extends w) :
    w''.Extends w where
  records := Nat.le_trans h'.records h.records
  record id hid := (h.record id (Nat.lt_of_lt_of_le hid h'.records)).trans (h'.record id hid)
  buffers := Nat.le_trans h'.buffers h.buffers
  buffer b hb := (h.buffer b (Nat.lt_of_lt_of_le hb h'.buffers)).trans (h'.buffer b hb)

/-- Whether a record refers to buffers of the workspace and to a dictionary older than `id`. -/
structure Refers (w : Workspace) (r : Record) (id : Nat) : Prop where
  buffers : ∀ b, some b ∈ r.buffers → b < w.buffers.size
  older : ∀ d, r.dictionary = some d → d < id

/-- Whether all that records refer to is there. -/
def Furnished (w : Workspace) : Prop := ∀ id < w.records.size, w.Refers (w.record id) id

lemma Refers.extend {r : Record} {j : Nat} (h : w.Refers r id) (ext : w'.Extends w) (le : id ≤ j) :
    w'.Refers r j where
  buffers b hb := Nat.lt_of_lt_of_le (h.buffers b hb) ext.buffers
  older d hd := Nat.lt_of_lt_of_le (h.older d hd) le

/-- What is added does not change the columns that are there. -/
lemma Extends.column (h : w'.Extends w) (furnished : w.Furnished) (hid : id < w.records.size) :
    w'.column id = w.column id := by
  -- Dictionaries are older than the columns that have them.
  induction id using Nat.strong_induction_on with
  | _ id ih =>
    have same := h.record id hid
    have buffers : (w.record id).buffers.map (·.bind fun b => w'.buffers[b]?) =
        (w.record id).buffers.map (·.bind fun b => w.buffers[b]?) := by
      apply List.map_congr_left
      intro b hb
      cases b with
      | none => rfl
      | some b => exact h.buffer b ((furnished id hid).buffers b hb)
    have dictionary : ((w.record id).dictionary.bind fun d =>
          if d < id then some (w'.column d) else none) =
        (w.record id).dictionary.bind fun d => if d < id then some (w.column d) else none := by
      refine Option.bind_congr fun d _ => ?_
      split
      · next lt => rw [ih d lt (by omega)]
      · rfl
    rw [column_eq w', column_eq w, same, buffers, dictionary]

section Counting

/-- The workspace with a null count stored in a record. -/
def withCount (w : Workspace) (id : Nat) (n : Int) : Workspace :=
  { w with records := w.records.modify id fun r => { r with nullCount := n } }

@[simp] lemma size_withCount (w : Workspace) (id : Nat) (n : Int) :
    (w.withCount id n).records.size = w.records.size := Array.size_modify ..

lemma record_withCount {n : Int} (hid : id < w.records.size) (j : Nat) :
    (w.withCount id n).record j =
      if j = id then { w.record id with nullCount := n } else w.record j := by
  simp only [record, withCount, Array.getD_eq_getD_getElem?, Array.getElem?_modify]
  by_cases same : id = j
  · subst same
    rw [if_pos rfl, if_pos rfl, Array.getElem?_eq_getElem hid]
    rfl
  · rw [if_neg same, if_neg (Ne.symm same)]

/-- Columns keep all but their null counts. -/
lemma column_withCount {n : Int} (hid : id < w.records.size) (j : Nat) :
    (w.withCount id n).column j =
      { w.column j with
        nullCount := if j = id then n else (w.column j).nullCount
        dictionary := (w.record j).dictionary.bind fun d =>
          if d < j then some ((w.withCount id n).column d) else none } := by
  rw [column_eq (w.withCount id n), column_eq w, record_withCount hid]
  by_cases same : j = id
  · subst same
    rw [if_pos rfl, if_pos rfl]
    rfl
  · rw [if_neg same, if_neg same]
    rfl

/-- A right null count that is stored in one record keeps all columns well-formed. -/
lemma wellFormed_withCount {n : Int} (hid : id < w.records.size) (right : (w.column id).Admits n)
    {j : Nat} (h : (w.column j).WellFormed) : ((w.withCount id n).column j).WellFormed := by
  induction j using Nat.strong_induction_on with
  | _ j ih =>
    rw [column_withCount hid]
    apply h.recount
    · by_cases same : j = id
      · rw [if_pos same, same]
        exact right
      · rw [if_neg same]
        exact h.sound.admits_nullCount
    · intro d _ found values
      rw [column_eq] at found
      obtain ⟨i, named, found⟩ := Option.bind_eq_some_iff.1 found
      split at found
      · next older =>
        cases found
        refine ⟨(w.withCount id n).column i, ?_, ?_, ?_, ih i older values⟩
        · rw [named, Option.bind_some, if_pos older]
        · rw [column_withCount hid]
        · rw [column_withCount hid]
      · cases found

end Counting

end Columnar.Workspace
