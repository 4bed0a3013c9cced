import Mathlib.Tactic.Common
import Columnar.Proofs.Workspace.Columns

/-!
# Well-formed workspaces

A workspace is well-formed when all numbers in it refer to something and the columns of all views
are well-formed. It stays so when buffers, records and views are added, when a right null count is
stored, and when a view gets an open dictionary.
-/

namespace Columnar

namespace Workspace

/-- Whether all numbers in a workspace refer to something. -/
structure Linked (w : Workspace) : Prop where
  furnished : w.Furnished
  record : ∀ v < w.views.size, (w.view v).record < w.records.size
  keys : ∀ v < w.views.size, ∀ k, (w.view v).keys = some k → k < w.views.size
  dictionary : ∀ v < w.views.size, ∀ d, (w.view v).dictionary = some d → d < w.views.size
  registers : ∀ (r v : Nat), w.registers[r]? = some (some v) → v < w.views.size

/-- A workspace all of whose columns in use are well-formed. -/
structure WellFormed (w : Workspace) : Prop where
  furnished : w.Furnished
  record : ∀ v < w.views.size, (w.view v).record < w.records.size
  column : ∀ v < w.views.size, (w.columnOf v).WellFormed
  keys : ∀ v < w.views.size, ∀ k, (w.view v).keys = some k → k < w.views.size
  dictionary : ∀ v < w.views.size, ∀ d, (w.view v).dictionary = some d → d < w.views.size
  registers : ∀ (r v : Nat), w.registers[r]? = some (some v) → v < w.views.size

variable {w w' : Workspace} {id : Nat}

lemma WellFormed.linked (h : w.WellFormed) : w.Linked :=
  ⟨h.furnished, h.record, h.keys, h.dictionary, h.registers⟩

lemma Linked.wellFormed (h : w.Linked)
    (column : ∀ v < w.views.size, (w.columnOf v).WellFormed) : w.WellFormed :=
  ⟨h.furnished, h.record, column, h.keys, h.dictionary, h.registers⟩

lemma linked_empty (pool : Pool) : Linked { pool } where
  furnished _ h := absurd h (Nat.not_lt_zero _)
  record _ h := absurd h (Nat.not_lt_zero _)
  keys _ h := absurd h (Nat.not_lt_zero _)
  dictionary _ h := absurd h (Nat.not_lt_zero _)
  registers r v h := by simp at h

lemma wellFormed_empty (pool : Pool) : WellFormed { pool } :=
  (linked_empty pool).wellFormed fun _ h => absurd h (Nat.not_lt_zero _)

section Adding

/-- The workspace with one more buffer. -/
def withBuffer (w : Workspace) (b : Buffer) : Workspace := { w with buffers := w.buffers.push b }

/-- The workspace with one more record. -/
def withRecord (w : Workspace) (r : Record) : Workspace := { w with records := w.records.push r }

/-- The workspace with one more view. -/
def withView (w : Workspace) (v : View) : Workspace := { w with views := w.views.push v }

/-- The workspace in which a view has an open dictionary. -/
def withDictionary (w : Workspace) (id opened : Nat) : Workspace :=
  { w with views := w.views.modify id fun v => { v with dictionary := some opened } }

lemma record_withRecord (w : Workspace) (r : Record) (j : Nat) :
    (w.withRecord r).record j = if j = w.records.size then r else w.record j := by
  simp only [record, withRecord, Array.getD_eq_getD_getElem?, Array.getElem?_push]
  split
  · rfl
  · rfl

lemma view_withView (w : Workspace) (v : View) (j : Nat) :
    (w.withView v).view j = if j = w.views.size then v else w.view j := by
  simp only [view, withView, Array.getD_eq_getD_getElem?, Array.getElem?_push]
  split
  · rfl
  · rfl

@[simp] lemma size_withRecord (w : Workspace) (r : Record) :
    (w.withRecord r).records.size = w.records.size + 1 := Array.size_push ..

@[simp] lemma size_withView (w : Workspace) (v : View) :
    (w.withView v).views.size = w.views.size + 1 := Array.size_push ..

lemma extends_withBuffer (w : Workspace) (b : Buffer) : (w.withBuffer b).Extends w where
  records := Nat.le_refl _
  record _ _ := rfl
  buffers := by simp [withBuffer]
  buffer i hi := (Array.getElem?_push_lt hi).trans (Array.getElem?_eq_getElem hi).symm

lemma extends_withRecord (w : Workspace) (r : Record) : (w.withRecord r).Extends w where
  records := by simp [withRecord]
  record id hid := by rw [record_withRecord, if_neg (Nat.ne_of_lt hid)]
  buffers := Nat.le_refl _
  buffer _ _ := rfl

lemma extends_of_eq (records : w'.records = w.records) (buffers : w'.buffers = w.buffers) :
    w'.Extends w where
  records := by rw [records]
  record id _ := by rw [record, record, records]
  buffers := by rw [buffers]
  buffer b _ := by rw [buffers]

lemma Furnished.of_eq (h : w.Furnished) (records : w'.records = w.records)
    (buffers : w'.buffers = w.buffers) : w'.Furnished := by
  intro id hid
  rw [record, records]
  exact (h id (records ▸ hid)).extend (extends_of_eq records buffers) (Nat.le_refl id)

lemma Furnished.withRecord {r : Record} (h : w.Furnished) (refers : w.Refers r w.records.size) :
    (w.withRecord r).Furnished := by
  intro id hid
  rw [size_withRecord] at hid
  rw [record_withRecord]
  split
  · next same => exact refers.extend (extends_withRecord w r) (Nat.le_of_eq same.symm)
  · exact (h id (by omega)).extend (extends_withRecord w r) (Nat.le_refl id)

lemma extends_withView (w : Workspace) (v : View) : (w.withView v).Extends w :=
  extends_of_eq rfl rfl

/-- Where dictionaries are older a column is what its record says. -/
lemma column_of_furnished (furnished : w.Furnished) (hid : id < w.records.size) : w.column id =
    ⟨(w.record id).type, (w.record id).length, (w.record id).offset, (w.record id).nullCount,
      (w.record id).buffers.map (·.bind fun b => w.buffers[b]?),
      (w.record id).dictionary.map w.column⟩ := by
  have same : ((w.record id).dictionary.bind fun d => if d < id then some (w.column d) else none) =
      (w.record id).dictionary.map w.column := by
    cases e : (w.record id).dictionary with
    | none => rfl
    | some d =>
      have lt := (furnished id hid).older d e
      rw [Option.bind_some, if_pos lt]
      rfl
  rw [column_eq, same]

lemma column_withRecord {r : Record} (furnished : w.Furnished)
    (refers : w.Refers r w.records.size) :
    (w.withRecord r).column w.records.size =
      ⟨r.type, r.length, r.offset, r.nullCount, r.buffers.map (·.bind fun b => w.buffers[b]?),
        r.dictionary.map w.column⟩ := by
  have furnished' : (w.withRecord r).Furnished := furnished.withRecord refers
  have older : r.dictionary.map (w.withRecord r).column = r.dictionary.map w.column := by
    refine Option.map_congr fun d hd => ?_
    exact (extends_withRecord w r).column furnished (refers.older d hd)
  rw [column_of_furnished furnished' (by rw [size_withRecord]; exact Nat.lt_succ_self _),
    record_withRecord, if_pos rfl, older]
  rfl

/-- A record with another window stands for that window. -/
lemma column_window {window : Column} (furnished : w.Furnished)
    (hid : id < w.records.size) (same : window = { w.column id with
      length := window.length, offset := window.offset, nullCount := window.nullCount }) :
    let s : Record := { w.record id with
      length := window.length, offset := window.offset, nullCount := window.nullCount }
    w.Refers s w.records.size ∧ (w.withRecord s).column w.records.size = window := by
  intro s
  have refers : w.Refers s w.records.size := by
    have refers := furnished id hid
    exact ⟨refers.buffers, fun d hd => Nat.lt_trans (refers.older d hd) hid⟩
  refine ⟨refers, ?_⟩
  rw [column_withRecord furnished refers, same, column_of_furnished furnished hid]

end Adding

lemma view_of_views (views : w'.views = w.views) (v : Nat) : w'.view v = w.view v := by
  rw [view, view, views]

/-- Opening the dictionary of a view changes neither its record nor its keys. -/
lemma view_withDictionary (w : Workspace) (id opened : Nat) (v : Nat) :
    ((w.withDictionary id opened).view v).record = (w.view v).record ∧
      ((w.withDictionary id opened).view v).keys = (w.view v).keys ∧
      (((w.withDictionary id opened).view v).dictionary = (w.view v).dictionary ∨
        ((w.withDictionary id opened).view v).dictionary = some opened) := by
  simp only [view, withDictionary, Array.getD_eq_getD_getElem?, Array.getElem?_modify]
  split
  · cases w.views[v]? with
    | none => exact ⟨rfl, rfl, .inl rfl⟩
    | some v => exact ⟨rfl, rfl, .inr rfl⟩
  · exact ⟨rfl, rfl, .inl rfl⟩

@[simp] lemma size_withDictionary (w : Workspace) (id opened : Nat) :
    (w.withDictionary id opened).views.size = w.views.size := Array.size_modify ..

lemma extends_withDictionary (w : Workspace) (id opened : Nat) :
    (w.withDictionary id opened).Extends w := extends_of_eq rfl rfl

section Recounting

/-- Whether two workspaces are the same but for the null counts that records store. -/
structure Recounted (w w' : Workspace) : Prop where
  pool : w'.pool = w.pool
  buffers : w'.buffers = w.buffers
  size : w'.records.size = w.records.size
  record : ∀ id, w'.record id = { w.record id with nullCount := (w'.record id).nullCount }
  views : w'.views = w.views
  registers : w'.registers = w.registers

lemma recounted_withCount (w : Workspace) (id : Nat) (n : Int) :
    w.Recounted (w.withCount id n) where
  pool := rfl
  buffers := rfl
  size := size_withCount w id n
  record j := by
    simp only [record, withCount, Array.getD_eq_getD_getElem?, Array.getElem?_modify]
    split
    · cases w.records[j]? with
      | none => rfl
      | some r => rfl
    · rfl
  views := rfl
  registers := rfl

end Recounting

namespace Linked

/-- What is added without a view keeps all numbers referring to something. -/
lemma extend (h : w.Linked) (ext : w'.Extends w) (furnished : w'.Furnished)
    (views : w'.views = w.views)
    (registers : ∀ (r v : Nat), w'.registers[r]? = some (some v) → v < w.views.size) :
    w'.Linked := by
  have view := view_of_views views
  constructor
  · exact furnished
  · intro v hv
    rw [view]
    exact Nat.lt_of_lt_of_le (h.record v (views ▸ hv)) ext.records
  · intro v hv k
    rw [view, views]
    exact h.keys v (views ▸ hv) k
  · intro v hv d
    rw [view, views]
    exact h.dictionary v (views ▸ hv) d
  · rw [views]
    exact registers

lemma withPool (h : w.Linked) (pool : Pool) : Linked { w with pool } :=
  h.extend (extends_of_eq rfl rfl) (h.furnished.of_eq rfl rfl) rfl h.registers

lemma withRegisters (h : w.Linked) {registers : Array (Option Nat)}
    (inside : ∀ (r v : Nat), registers[r]? = some (some v) → v < w.views.size) :
    Linked { w with registers } :=
  h.extend (extends_of_eq rfl rfl) (h.furnished.of_eq rfl rfl) rfl inside

/-- A register that is added holds what it is given, and the others what they held. -/
lemma inside_push (h : w.Linked) {held : Option Nat}
    (inside : ∀ v, held = some v → v < w.views.size) (r v : Nat)
    (here : (w.registers.push held)[r]? = some (some v)) : v < w.views.size := by
  rw [Array.getElem?_push] at here
  split at here
  · exact inside v (Option.some.inj here)
  · exact h.registers r v here

lemma withBuffer (h : w.Linked) (b : Buffer) : (w.withBuffer b).Linked := by
  refine h.extend (extends_withBuffer w b) (fun id hid => ?_) rfl h.registers
  exact (h.furnished id hid).extend (extends_withBuffer w b) (Nat.le_refl id)

lemma withRecord (h : w.Linked) {r : Record} (refers : w.Refers r w.records.size) :
    (w.withRecord r).Linked :=
  h.extend (extends_withRecord w r) (h.furnished.withRecord refers) rfl h.registers

lemma withView (h : w.Linked) {v : View} (record : v.record < w.records.size)
    (keys : ∀ k, v.keys = some k → k < w.views.size) (dictionary : v.dictionary = none) :
    (w.withView v).Linked := by
  have size := size_withView w v
  constructor
  · exact h.furnished.of_eq rfl rfl
  · intro j hj
    rw [view_withView]
    split
    · exact record
    · exact h.record j (by omega)
  · intro j hj k hk
    rw [view_withView] at hk
    split at hk
    · have lt := keys k hk
      omega
    · have lt := h.keys j (by omega) k hk
      omega
  · intro j hj d hd
    rw [view_withView] at hd
    split at hd
    · rw [dictionary] at hd
      cases hd
    · have lt := h.dictionary j (by omega) d hd
      omega
  · intro r j hj
    have lt := h.registers r j hj
    omega

lemma withDictionary {opened : Nat} (h : w.Linked) (inside : opened < w.views.size) (id : Nat) :
    (w.withDictionary id opened).Linked := by
  constructor
  · exact h.furnished.of_eq rfl rfl
  · intro v hv
    rw [size_withDictionary] at hv
    rw [(view_withDictionary w id opened v).1]
    exact h.record v hv
  · intro v hv k hk
    rw [size_withDictionary] at hv ⊢
    rw [(view_withDictionary w id opened v).2.1] at hk
    exact h.keys v hv k hk
  · intro v hv d hd
    rw [size_withDictionary] at hv ⊢
    rcases (view_withDictionary w id opened v).2.2 with same | same
    · rw [same] at hd
      exact h.dictionary v hv d hd
    · rw [same] at hd
      cases hd
      exact inside
  · rw [size_withDictionary]
    exact h.registers

/-- Numbers do not depend on what records count. -/
lemma recounted (h : w.Linked) (same : w.Recounted w') : w'.Linked := by
  have view := view_of_views same.views
  constructor
  · intro j hj
    have refers := h.furnished j (same.size ▸ hj)
    rw [same.record]
    exact ⟨same.buffers ▸ refers.buffers, refers.older⟩
  · intro v hv
    rw [same.views] at hv
    rw [view, same.size]
    exact h.record v hv
  · rw [same.views]
    intro v hv k
    rw [view]
    exact h.keys v hv k
  · rw [same.views]
    intro v hv d
    rw [view]
    exact h.dictionary v hv d
  · rw [same.registers, same.views]
    exact h.registers

end Linked

namespace WellFormed

/-- What is added without a view keeps a workspace well-formed. -/
lemma extend (h : w.WellFormed) (ext : w'.Extends w) (linked : w'.Linked)
    (views : w'.views = w.views) : w'.WellFormed := by
  refine linked.wellFormed fun v hv => ?_
  rw [columnOf, view_of_views views, ext.column h.furnished (h.record v (views ▸ hv))]
  exact h.column v (views ▸ hv)

lemma withPool (h : w.WellFormed) (pool : Pool) : WellFormed { w with pool } :=
  h.extend (extends_of_eq rfl rfl) (h.linked.withPool pool) rfl

lemma withRegister (h : w.WellFormed) {held : Option Nat}
    (inside : ∀ v, held = some v → v < w.views.size) :
    WellFormed { w with registers := w.registers.push held } :=
  h.extend (extends_of_eq rfl rfl) (h.linked.withRegisters (h.linked.inside_push inside)) rfl

lemma withBuffer (h : w.WellFormed) (b : Buffer) : (w.withBuffer b).WellFormed :=
  h.extend (extends_withBuffer w b) (h.linked.withBuffer b) rfl

lemma withRecord (h : w.WellFormed) {r : Record} (refers : w.Refers r w.records.size) :
    (w.withRecord r).WellFormed :=
  h.extend (extends_withRecord w r) (h.linked.withRecord refers) rfl

lemma withView (h : w.WellFormed) {v : View} (record : v.record < w.records.size)
    (column : (w.column v.record).WellFormed) (keys : ∀ k, v.keys = some k → k < w.views.size)
    (dictionary : v.dictionary = none) : (w.withView v).WellFormed := by
  have size := size_withView w v
  have ext := extends_withView w v
  refine (h.linked.withView record keys dictionary).wellFormed fun j hj => ?_
  rw [columnOf, view_withView]
  split
  · rw [ext.column h.furnished record]
    exact column
  -- The views that were there still show the same columns.
  · rw [ext.column h.furnished (h.record j (by omega))]
    exact h.column j (by omega)

lemma withDictionary {opened : Nat} (h : w.WellFormed) (inside : opened < w.views.size)
    (id : Nat) : (w.withDictionary id opened).WellFormed := by
  refine (h.linked.withDictionary inside id).wellFormed fun v hv => ?_
  rw [size_withDictionary] at hv
  rw [columnOf, (view_withDictionary w id opened v).1,
    (extends_withDictionary w id opened).column h.furnished (h.record v hv)]
  exact h.column v hv

lemma withCount {n : Int} (h : w.WellFormed) (hid : id < w.records.size)
    (right : (w.column id).Admits n) : (w.withCount id n).WellFormed :=
  (h.linked.recounted (recounted_withCount w id n)).wellFormed fun v hv =>
    wellFormed_withCount hid right (h.column v hv)

end WellFormed

end Workspace

end Columnar
