import Mathlib.Tactic.Common
import Columnar.Proofs.Column.Recounted
import Columnar.Proofs.Workspace.WellFormed

/-!
# Accounted workspaces

A workspace is accounted if all its columns are sound: whole columns, windows of them, keys and
dictionaries, each with a null count that is unknown or right. The record of the keys of a
dictionary column is that of the column but for its type and its null count, so both counts are
right for the same slots. A workspace stays accounted when sound columns are added and when right
null counts are stored.
-/

namespace Columnar

namespace Column
variable {c d : Column}

/-- A right null count of one column is right for another one over the same slots. -/
lemma Sound.admits_of_alike (h : d.Sound) (stored : d.type ≠ .null)
    (alike : (c.withNullCount d.nullCount).Alike d) : c.Admits d.nullCount := by
  intro _
  have window := h.counted_window
  rw [storedCount_eq d stored, ← (alike.within h.shaped).windowNulls_eq alike.length] at window
  exact window

end Column

namespace Workspace
variable {w w' : Workspace} {id v k : Nat} {n : Int}

/-- Columns differ in stored null counts if their workspaces do. -/
lemma Recounted.column (h : w.Recounted w') (furnished : w.Furnished)
    (hid : id < w.records.size) : (w.column id).Recounted (w'.column id) := by
  induction id using Nat.strong_induction_on with
  | _ id ih =>
    rw [column_eq w', column_eq w, h.record id, h.buffers]
    cases found : (w.record id).dictionary with
    | none => exact .plain
    | some d =>
      have older := (furnished id hid).older d found
      rw [Option.bind_some, Option.bind_some, if_pos older, if_pos older]
      exact .encoded (ih d older (Nat.lt_trans older hid))

/-- Whether view `k` is that of the keys of view `v`, which store a null count of their own. -/
def OfKeys (w : Workspace) (v k : Nat) : Prop :=
  ∃ kind value ordered n, (w.record (w.view v).record).type = .dictionary kind value ordered ∧
    w.record (w.view k).record =
      { w.record (w.view v).record with type := .int kind, nullCount := n, dictionary := none }

lemma OfKeys.congr {m : Int} (h : w.OfKeys v k) (view : (w'.view v).record = (w.view v).record)
    (view' : (w'.view k).record = (w.view k).record)
    (same : w'.record (w.view v).record = { w.record (w.view v).record with nullCount := m })
    (same' : w'.record (w.view k).record = { w.record (w.view k).record with nullCount := n }) :
    w'.OfKeys v k := by
  obtain ⟨kind, value, ordered, _, type, keys⟩ := h
  refine ⟨kind, value, ordered, n, ?_, ?_⟩
  · rw [view, same]
    exact type
  · rw [view, view', same, same', keys]

/-- A workspace all of whose columns are sound. -/
structure Accounted (w : Workspace) : Prop extends w.Linked where
  sound : ∀ id < w.records.size, (w.column id).Sound
  ofKeys : ∀ v < w.views.size, ∀ k, (w.view v).keys = some k → w.OfKeys v k

lemma accounted_empty (pool : Pool) : Accounted { pool } where
  toLinked := linked_empty pool
  sound _ h := absurd h (Nat.not_lt_zero _)
  ofKeys _ h := absurd h (Nat.not_lt_zero _)

namespace Accounted

section Columns

lemma dictionary_lt {d : Nat} (h : w.Accounted) (hid : id < w.records.size)
    (found : (w.record id).dictionary = some d) : d < w.records.size :=
  Nat.lt_trans ((h.furnished id hid).older d found) hid

lemma soundThroughout (h : w.Accounted) (hid : id < w.records.size) :
    (w.column id).SoundThroughout := by
  induction id using Nat.strong_induction_on with
  | _ id ih =>
    refine .intro (h.sound id hid) fun d found => ?_
    rw [column_of_furnished h.furnished hid] at found
    obtain ⟨j, named, rfl⟩ := Option.map_eq_some_iff.1 found
    exact ih j ((h.furnished id hid).older j named) (h.dictionary_lt hid named)

lemma columnOf (h : w.Accounted) (hv : v < w.views.size) : (w.columnOf v).DeeplySound :=
  (h.soundThroughout (h.record v hv)).deeplySound

/-- The null count that the keys store is right for the slots of a dictionary column. -/
lemma slotsOf (h : w.Accounted) (hv : v < w.views.size) : (w.slotsOf v).DeeplySound := by
  unfold Workspace.slotsOf
  cases keys : (w.view v).keys with
  | none => exact h.columnOf hv
  | some k =>
    have inside := h.record k (h.keys v hv k keys)
    obtain ⟨kind, value, ordered, n, type, same⟩ := h.ofKeys v hv k keys
    have integer : (w.columnOf k).type = .int kind := by
      rw [Workspace.columnOf, column_eq, same]
    refine (h.columnOf hv).recount ((h.sound _ inside).admits_of_alike ?_ ?_)
    · change (w.columnOf k).type ≠ .null
      rw [integer]
      rintro ⟨⟩
    · rw [Workspace.columnOf, column_eq w (w.view v).record, column_eq w (w.view k).record, same]
      exact ⟨by rw [Column.withNullCount, type]; rfl, rfl, rfl, rfl, rfl⟩

end Columns

/-- What is added without a view keeps a workspace accounted if it is sound. -/
lemma extend (h : w.Accounted) (ext : w'.Extends w) (linked : w'.Linked)
    (views : w'.views = w.views)
    (new : ∀ id, w.records.size ≤ id → id < w'.records.size → (w'.column id).Sound) :
    w'.Accounted where
  toLinked := linked
  sound id hid := by
    by_cases old : id < w.records.size
    · rw [ext.column h.furnished old]
      exact h.sound id old
    · exact new id (Nat.le_of_not_lt old) hid
  ofKeys v hv k keys := by
    have view := view_of_views views
    rw [views] at hv
    rw [view] at keys
    exact (h.ofKeys v hv k keys).congr (by rw [view]) (by rw [view])
      (ext.record _ (h.record v hv)) (ext.record _ (h.record k (h.keys v hv k keys)))

lemma withPool (h : w.Accounted) (pool : Pool) : Accounted { w with pool } :=
  h.extend (extends_of_eq rfl rfl) (h.toLinked.withPool pool) rfl fun _ ge lt =>
    absurd lt (Nat.not_lt_of_le ge)

lemma withRegisters (h : w.Accounted) {registers : Array (Option Nat)}
    (inside : ∀ (r v : Nat), registers[r]? = some (some v) → v < w.views.size) :
    Accounted { w with registers } :=
  h.extend (extends_of_eq rfl rfl) (h.toLinked.withRegisters inside) rfl fun _ ge lt =>
    absurd lt (Nat.not_lt_of_le ge)

lemma withBuffer (h : w.Accounted) (b : Buffer) : (w.withBuffer b).Accounted :=
  h.extend (extends_withBuffer w b) (h.toLinked.withBuffer b) rfl fun _ ge lt =>
    absurd lt (Nat.not_lt_of_le ge)

lemma withRecord {r : Record} {c : Column} (h : w.Accounted) (refers : w.Refers r w.records.size)
    (column : (w.withRecord r).column w.records.size = c) (sound : c.Sound) :
    (w.withRecord r).Accounted := by
  refine h.extend (extends_withRecord w r) (h.toLinked.withRecord refers) rfl fun id ge lt => ?_
  rw [size_withRecord] at lt
  obtain rfl : id = w.records.size := by omega
  rw [column]
  exact sound

lemma withView {v : View} (h : w.Accounted) (record : v.record < w.records.size)
    (keys : ∀ k, v.keys = some k → k < w.views.size ∧ (w.withView v).OfKeys w.views.size k)
    (dictionary : v.dictionary = none) : (w.withView v).Accounted where
  toLinked := h.toLinked.withView record (fun k hk => (keys k hk).1) dictionary
  sound id hid := by
    rw [(extends_withView w v).column h.furnished hid]
    exact h.sound id hid
  ofKeys j hj k hk := by
    rw [size_withView] at hj
    by_cases new : j = w.views.size
    · subst new
      rw [view_withView, if_pos rfl] at hk
      exact (keys k hk).2
    · have old : j < w.views.size := by omega
      rw [view_withView, if_neg new] at hk
      have inside := h.keys j old k hk
      exact (h.ofKeys j old k hk).congr (by rw [view_withView, if_neg new])
        (by rw [view_withView, if_neg (Nat.ne_of_lt inside)]) rfl rfl

lemma withDictionary {opened : Nat} (h : w.Accounted) (inside : opened < w.views.size)
    (id : Nat) : (w.withDictionary id opened).Accounted where
  toLinked := h.toLinked.withDictionary inside id
  sound j hj := by
    rw [(extends_withDictionary w id opened).column h.furnished hj]
    exact h.sound j hj
  ofKeys v hv k keys := by
    rw [size_withDictionary] at hv
    rw [(view_withDictionary w id opened v).2.1] at keys
    exact (h.ofKeys v hv k keys).congr (view_withDictionary w id opened v).1
      (view_withDictionary w id opened k).1 rfl rfl

/-- A workspace stays accounted whichever right null counts are stored. -/
lemma recounted (h : w.Accounted) (same : w.Recounted w')
    (right : ∀ id < w.records.size, (w.column id).Admits (w'.column id).nullCount) :
    w'.Accounted where
  toLinked := h.toLinked.recounted same
  sound id hid := by
    rw [same.size] at hid
    exact (same.column h.furnished hid).sound (h.sound id hid) (right id hid)
  ofKeys v hv k keys := by
    have view := view_of_views same.views
    rw [same.views] at hv
    rw [view] at keys
    exact (h.ofKeys v hv k keys).congr (by rw [view]) (by rw [view]) (same.record _)
      (same.record _)

lemma withCount (h : w.Accounted) (hid : id < w.records.size) (right : (w.column id).Admits n) :
    (w.withCount id n).Accounted := by
  refine h.recounted (recounted_withCount w id n) fun j hj => ?_
  rw [column_withCount hid]
  by_cases same : j = id
  · rw [if_pos same, same]
    exact right
  · rw [if_neg same]
    exact (h.sound j hj).admits_nullCount

end Accounted

end Workspace

end Columnar
