import Mathlib.Tactic.Common
import Columnar.Proofs.Workspace.Opening
import Columnar.Proofs.Workspace.Tandem

/-!
# Making and opening records in twins

What the parts of operations do to twins: each leaves twins, and gives new buffers, records and
views the same numbers in both.
-/

namespace Columnar.Session
open Workspace
variable {w w' : Workspace} {id : Nat}

section Adding

lemma tandem_addBuffers (bs : List (Option Buffer)) (h : w.Twins w') :
    Tandem (addBuffers bs) (addBuffers bs) w w' fun _ _ _ => True := by
  induction bs generalizing w w' with
  | nil => exact .answer h trivial
  | cons b bs ih =>
    cases b with
    | none => exact (ih h).bind fun _ _ _ twins _ => .answer twins trivial
    | some b =>
      have first : Tandem (addBuffer b) (addBuffer b) w w' fun _ _ _ => True := by
        change Agree _ (.ok w.buffers.size, w.withBuffer b) (.ok w'.buffers.size, w'.withBuffer b)
        rw [h.buffers]
        exact .ok (h.withBuffer b) trivial
      exact first.bind fun _ _ _ twins _ => (ih twins).bind fun _ _ _ twins _ =>
        .answer twins trivial

lemma tandem_addRecord {r r' : Record} (h : w.Twins w')
    (same : r' = { r with nullCount := r'.nullCount }) (left : (w.withRecord r).Accounted)
    (right : (w'.withRecord r').Accounted) :
    Tandem (addRecord r) (addRecord r') w w' fun id v v' =>
      id = w.records.size ∧ v = w.withRecord r ∧ v' = w'.withRecord r' := by
  change Agree _ (.ok w.records.size, w.withRecord r) (.ok w'.records.size, w'.withRecord r')
  rw [h.size]
  exact .ok (h.withRecord same left right) ⟨rfl, rfl, rfl⟩

lemma tandem_addView {v : View} (h : w.Twins w') (left : (w.withView v).Accounted)
    (right : (w'.withView v).Accounted) :
    Tandem (addView v) (addView v) w w' fun id u u' =>
      id = w.views.size ∧ u = w.withView v ∧ u' = w'.withView v := by
  change Agree _ (.ok w.views.size, w.withView v) (.ok w'.views.size, w'.withView v)
  rw [h.views]
  exact .ok (h.withView left right) ⟨rfl, rfl, rfl⟩

/-- New records for two columns that differ in stored null counts. -/
lemma tandem_addWithDictionary {c c' : Column} {d : Option Nat} (h : w.Twins w')
    (same : c.Recounted c') (sound : c.Sound) (sound' : c'.Sound)
    (older : ∀ j, d = some j → j < w.records.size) (found : c.dictionary = d.map w.column)
    (found' : c'.dictionary = d.map w'.column) :
    Tandem (addWithDictionary c d) (addWithDictionary c' d) w w' fun id v v' =>
      id < v.records.size ∧ v.column id = c ∧ v'.column id = c' := by
  have buffers : c'.buffers = c.buffers := same.buffers
  rw [addWithDictionary, addWithDictionary, buffers]
  have left : Keeps Accounted (addBuffers c.buffers) w _ :=
    keeps_addBuffers c.buffers (fun _ b h => h.withBuffer b) h.left
  have right : Keeps Accounted (addBuffers c.buffers) w' _ :=
    keeps_addBuffers c.buffers (fun _ b h => h.withBuffer b) h.right
  refine ((tandem_addBuffers c.buffers h).along left right).bind fun ids v v' twins added => ?_
  obtain ⟨-, added, added'⟩ := added
  obtain ⟨refers, column⟩ :=
    column_added h.left.furnished twins.left.furnished added older found
  obtain ⟨refers', column'⟩ :=
    column_added h.right.furnished twins.right.furnished (buffers ▸ added') (h.size ▸ older) found'
  refine (tandem_addRecord twins ?_ (twins.left.withRecord refers column sound)
    (twins.right.withRecord refers' column' sound')).weaken fun id u u' _ => ?_
  · rw [same.type, same.length, same.offset]
  · rintro ⟨rfl, rfl, rfl⟩
    refine ⟨by rw [size_withRecord]; exact Nat.lt_succ_self _, column, ?_⟩
    rw [← twins.size]
    exact column'

/-- New records for a column of which nothing is shared. -/
lemma tandem_addColumn (c : Column) (sound : c.SoundThroughout) (h : w.Twins w') :
    Tandem (addColumn c) (addColumn c) w w' fun id v v' =>
      id < v.records.size ∧ v.column id = c ∧ v'.column id = c := by
  induction c using addColumn.induct generalizing w w' with
  | case1 t n o k bs =>
    refine tandem_addWithDictionary h (.refl _) sound.sound sound.sound ?_ rfl rfl
    rintro _ ⟨⟩
  | case2 t n o k bs d ih =>
    refine (ih (sound.dictionary rfl) h).bind fun id v v' twins => ?_
    rintro ⟨lt, found, found'⟩
    refine tandem_addWithDictionary twins (.refl _) sound.sound sound.sound (fun e same => ?_) ?_ ?_
    · cases same
      exact lt
    · rw [Option.map_some, found]
    · rw [Option.map_some, found']

end Adding

section Opening

lemma tandem_addPlain (h : w.Twins w') (hid : id < w.records.size) :
    Tandem (addView ⟨id, none, none⟩) (addView ⟨id, none, none⟩) w w' fun v u _ =>
      w.Lasts u ∧ v < u.views.size := by
  have left : (w.withView ⟨id, none, none⟩).Accounted := h.left.withView hid nofun rfl
  have right : (w'.withView ⟨id, none, none⟩).Accounted :=
    h.right.withView (h.size ▸ hid) nofun rfl
  refine (tandem_addView h left right).weaken fun v u u' _ => ?_
  rintro ⟨rfl, rfl, rfl⟩
  rw [size_withView]
  exact ⟨.withView w _, Nat.lt_succ_self _⟩

/-- What opening a dictionary column adds keeps a workspace accounted. -/
lemma accounted_encoded {k : IntKind} {value : DataType} {ordered : Bool} (h : w.Accounted)
    (hid : id < w.records.size) (type : (w.column id).type = .dictionary k value ordered) :
    let keyed := w.withRecord (keysRecord w id k)
    let viewed := keyed.withView ⟨w.records.size, none, none⟩
    keyed.Accounted ∧ viewed.Accounted ∧
      (viewed.withView ⟨id, some w.views.size, none⟩).Accounted := by
  intro keyed viewed
  have size : keyed.records.size = w.records.size + 1 := size_withRecord ..
  have size' : viewed.views.size = w.views.size + 1 := size_withView ..
  have new : w.records.size < keyed.records.size := by omega
  have old : id < keyed.records.size := by omega
  have column := column_keysRecord h.furnished hid type
  have hk : keyed.Accounted :=
    h.withRecord (refers_keysRecord h.furnished hid) column (h.sound id hid).keys
  have hv : viewed.Accounted := hk.withView new nofun rfl
  refine ⟨hk, hv, hv.withView old ?_ rfl⟩
  rintro _ ⟨⟩
  have view : (viewed.withView ⟨id, some w.views.size, none⟩).view viewed.views.size =
      ⟨id, some w.views.size, none⟩ := by rw [view_withView, if_pos rfl]
  have view' : (viewed.withView ⟨id, some w.views.size, none⟩).view w.views.size =
      ⟨w.records.size, none, none⟩ := by
    rw [view_withView, if_neg (by omega), view_withView]
    exact if_pos rfl
  have record : keyed.record id = w.record id := by
    rw [record_withRecord, if_neg (Nat.ne_of_lt hid)]
  have record' : keyed.record w.records.size = keysRecord w id k := by
    rw [record_withRecord, if_pos rfl]
  refine ⟨by omega, k, value, ordered, (w.record id).nullCount, ?_, ?_⟩
  · rw [view]
    show (keyed.record id).type = _
    rw [record]
    rw [column_eq] at type
    exact type
  · rw [view, view']
    show keyed.record w.records.size = { keyed.record id with
      type := .int k, nullCount := (w.record id).nullCount, dictionary := none }
    rw [record, record']
    rfl

lemma tandem_addEncoded {k : IntKind} {value : DataType} {ordered : Bool} (h : w.Twins w')
    (hid : id < w.records.size) (type : (w.column id).type = .dictionary k value ordered) :
    Tandem
      (do
        let keys ← addRecord (keysRecord w id k)
        let keysView ← addView ⟨keys, none, none⟩
        addView ⟨id, some keysView, none⟩)
      (do
        let keys ← addRecord (keysRecord w' id k)
        let keysView ← addView ⟨keys, none, none⟩
        addView ⟨id, some keysView, none⟩) w w' fun v u _ =>
      w.Lasts u ∧ v < u.views.size := by
  obtain ⟨keyed, viewed, opened⟩ := accounted_encoded h.left hid type
  obtain ⟨keyed', viewed', opened'⟩ :=
    accounted_encoded h.right (h.size ▸ hid) ((h.column hid).type.trans type)
  rw [h.size] at viewed' opened'
  rw [h.views] at opened'
  have same : keysRecord w' id k =
      { keysRecord w id k with nullCount := (keysRecord w' id k).nullCount } := by
    rw [keysRecord, keysRecord, h.record]
  refine (tandem_addRecord h same keyed keyed').bind fun _ _ _ twins => ?_
  rintro ⟨rfl, rfl, rfl⟩
  refine (tandem_addView twins viewed viewed').bind fun _ _ _ twins => ?_
  rintro ⟨rfl, rfl, rfl⟩
  refine (tandem_addView twins opened opened').weaken fun v u u' _ => ?_
  rintro ⟨rfl, rfl, rfl⟩
  exact ⟨((Lasts.withRecord w _).trans (.withView _ _)).trans (.withView _ _),
    Nat.lt_of_lt_of_eq (Nat.lt_succ_self _) (size_withView ..).symm⟩

lemma tandem_setNullCount {n n' : Int} (h : w.Twins w') (hid : id < w.records.size)
    (left : (w.column id).Admits n) (right : (w'.column id).Admits n') :
    Tandem (setNullCount id n) (setNullCount id n') w w' fun _ v v' =>
      v = w.withCount id n ∧ v' = w'.withCount id n' :=
  .change (h.withCount hid left right)

/-- The views of a record in twins. -/
lemma tandem_openRecord (h : w.Twins w') (hid : id < w.records.size) :
    Tandem (openRecord id) (openRecord id) w w' fun v u _ =>
      w.Lasts u ∧ v < u.views.size := by
  refine .look (.check h (h.column hid).opened fun c c' opened opened' same => ?_)
  obtain ⟨sound, sound'⟩ := h.sound_column hid
  obtain ⟨type, count⟩ := type_of_opened opened
  obtain ⟨-, count'⟩ := type_of_opened opened'
  refine (tandem_setNullCount h hid (count ▸ sound.admits_storedCount)
    (count' ▸ sound'.admits_storedCount)).bind fun _ v v' twins => ?_
  rintro ⟨rfl, rfl⟩
  have lt : id < (w.withCount id c.nullCount).records.size := by
    rw [size_withCount]
    exact hid
  rw [same.type]
  cases e : c.type with
  -- A dictionary column gets a record for its keys, which has the same buffers and null count.
  | dictionary k value ordered =>
    have typed : ((w.withCount id c.nullCount).column id).type = .dictionary k value ordered := by
      rw [column_withCount hid]
      exact type.symm.trans e
    exact .look ((tandem_addEncoded twins lt typed).weaken fun _ _ _ _ opened =>
      opened.imp_left (Lasts.withCount w id c.nullCount).trans)
  | _ =>
    exact (tandem_addPlain twins lt).weaken fun _ _ _ _ opened =>
      opened.imp_left (Lasts.withCount w id c.nullCount).trans

/-- The views of the dictionary of a view, which twins have opened both or neither. -/
lemma tandem_openDictionary {v : Nat} (h : w.Twins w') (hv : v < w.views.size) :
    Tandem (openDictionary v) (openDictionary v) w w' fun d u _ =>
      w.Lasts u ∧ d < u.views.size := by
  have named : (w'.record (w'.view v).record).dictionary =
      (w.record (w.view v).record).dictionary := by rw [h.view, h.record]
  refine .look (.look ?_)
  rw [named, h.view]
  cases opened : (w.view v).dictionary with
  | some d => exact .answer h ⟨.refl w, h.left.dictionary v hv d opened⟩
  | none =>
    cases found : (w.record (w.view v).record).dictionary with
    | none => exact .fail h
    | some d =>
      have hd := h.left.dictionary_lt (h.left.record v hv) found
      refine (tandem_openRecord h hd).bind fun opened u u' twins => ?_
      rintro ⟨lasts, inside⟩
      refine (Tandem.change (twins.withDictionary inside v)).bind fun _ x _ twins => ?_
      rintro ⟨changed, -⟩
      have lasts' : u.Lasts x := by
        rw [changed]
        exact .withDictionary u v opened
      exact .answer twins ⟨lasts.trans lasts', lasts'.inside inside⟩

end Opening

end Columnar.Session
