import Mathlib.Tactic.Common
import Columnar.Proofs.Gather.Recounted
import Columnar.Proofs.Workspace.Runs
import Columnar.Proofs.Workspace.TwinCounting

/-!
# Operations on twins

Every operation on registers answers twins alike and leaves twins. What is made in both differs in
stored null counts at most: windows know as much as what they were cut from, keys that are put
together are checked slot by slot, and a gather counts for itself.
-/

namespace Columnar.Session
open Workspace
variable {w w' : Workspace} {r : Nat}

section Making

lemma tandem_openNew {s s' : Record} {c c' : Column} (h : w.Twins w')
    (same : s' = { s with nullCount := s'.nullCount }) (refers : w.Refers s w.records.size)
    (column : (w.withRecord s).column w.records.size = c)
    (column' : (w'.withRecord s').column w'.records.size = c') (sound : c.Sound)
    (sound' : c'.Sound) :
    Tandem (addRecord s >>= openRecord) (addRecord s' >>= openRecord) w w' fun v u _ =>
      v < u.views.size := by
  have refers' : w'.Refers s' w'.records.size := by
    rw [same, h.size]
    exact ⟨h.buffers ▸ refers.buffers, refers.older⟩
  refine (tandem_addRecord h same (h.left.withRecord refers column sound)
    (h.right.withRecord refers' column' sound')).bind fun id v v' twins => ?_
  rintro ⟨rfl, rfl, rfl⟩
  have new : w.records.size < (w.withRecord s).records.size := by
    rw [size_withRecord]
    exact Nat.lt_succ_self _
  exact (tandem_openRecord twins new).weaken fun _ _ _ _ opened => opened.2

lemma tandem_addInput {c : Column} (h : w.Twins w') (sound : c.SoundThroughout) :
    Tandem (addInput c) (addInput c) w w' fun _ _ _ => True := by
  refine .produce ((tandem_addColumn c sound h).bind fun id u u' twins => ?_)
  rintro ⟨inside, -, -⟩
  exact (tandem_openRecord twins inside).weaken fun _ _ _ _ opened => opened.2

lemma tandem_openWindow {id : Nat} {window window' : Column} (h : w.Twins w')
    (hid : id < w.records.size) (alike : window.Recounted window')
    (same : window = { w.column id with
      length := window.length, offset := window.offset, nullCount := window.nullCount })
    (same' : window' = { w'.column id with
      length := window'.length, offset := window'.offset, nullCount := window'.nullCount })
    (sound : window.Sound) (sound' : window'.Sound) :
    Tandem (openWindow id window) (openWindow id window') w w' fun v u _ => v < u.views.size := by
  obtain ⟨refers, column⟩ := column_window h.left.furnished hid same
  obtain ⟨-, column'⟩ := column_window h.right.furnished (h.size ▸ hid) same'
  refine .look (tandem_openNew h ?_ refers column column' sound sound')
  rw [h.record, alike.length, alike.offset]

/-- Windows that are cut out of a column are the same in twins, but for what is known of them. -/
lemma tandem_cut {cut : Column → Checked Column} (h : w.Twins w')
    (alike : ∀ c c', Column.Recounted c c' → (cut c).Matches Column.Recounted (cut c'))
    (window : ∀ c out, cut c = .ok out → out = { c with
      length := out.length, offset := out.offset, nullCount := out.nullCount })
    (sound : ∀ c out, Column.Sound c → cut c = .ok out → out.Sound) :
    Tandem
      (produce do
        let c ← columnIn r
        openWindow (← recordIn r) (← cut c))
      (produce do
        let c ← columnIn r
        openWindow (← recordIn r) (← cut c)) w w' fun _ _ _ => True := by
  refine .produce (.columnIn h fun v hv => .recordIn h fun v' hv' => ?_)
  obtain rfl := view_unique hv hv'
  have inside := h.left.registers r v hv
  obtain ⟨deep, deep'⟩ := h.sound_columnOf inside
  refine .check h (alike _ _ (h.columnOf inside)) fun out out' made made' same => ?_
  have shape' := window _ _ made'
  rw [Workspace.columnOf, h.view] at shape'
  exact tandem_openWindow h (h.left.record v inside) same (window _ _ made) shape'
    (sound _ _ deep.sound made) (sound _ _ deep'.sound made')

lemma tandem_slice {offset length : Int} (h : w.Twins w') (lo : 0 ≤ offset)
    (nonneg : 0 ≤ length) :
    Tandem (Session.slice r offset length) (Session.slice r offset length) w w'
      fun _ _ _ => True :=
  tandem_cut h (fun _ _ same => same.slice offset length) (fun _ _ => Column.eq_of_slice)
    fun _ _ sound => sound.slice lo nonneg

lemma tandem_slice? {offset length : Int} (h : w.Twins w') :
    Tandem (Session.slice? r offset length) (Session.slice? r offset length) w w'
      fun _ _ _ => True :=
  tandem_cut h (fun _ _ same => same.slice? offset length)
    (fun _ _ made => Column.eq_of_slice (Column.slice_of_slice? made).2.2)
    fun _ _ sound => sound.slice?

lemma tandem_dropSlots {offset : Int} (h : w.Twins w') (lo : 0 ≤ offset) :
    Tandem (dropSlots r offset) (dropSlots r offset) w w' fun _ _ _ => True :=
  tandem_cut h (fun _ _ same => same.drop offset) (fun _ _ => Column.eq_of_slice)
    fun _ _ sound => sound.drop lo

/-- A gathered column goes with the dictionary of the values that it was gathered from. -/
lemma tandem_openGathered {id : Nat} {out out' : Column} (h : w.Twins w')
    (hid : id < w.records.size) (same : out.Recounted out') (sound : out.Sound)
    (sound' : out'.Sound)
    (shares : out.dictionary = none ∨ out.dictionary = (w.record id).dictionary.map w.column)
    (shares' : out'.dictionary = none ∨ out'.dictionary = (w.record id).dictionary.map w'.column) :
    Tandem (openGathered id out) (openGathered id out') w w' fun v u _ => v < u.views.size := by
  have both : out'.dictionary.isSome = out.dictionary.isSome := by cases same <;> rfl
  have found := dictionary_of_shared shares'
  rw [both] at found
  refine .look ?_
  rw [both, h.record]
  refine (tandem_addWithDictionary h same sound sound' (fun d hd => ?_)
    (dictionary_of_shared shares) found).bind fun id u u' twins => ?_
  · split at hd
    · exact h.left.dictionary_lt hid hd
    · cases hd
  · rintro ⟨inside, -, -⟩
    exact (tandem_openRecord twins inside).weaken fun _ _ _ _ opened => opened.2

/-- What a gather shares is still there when it has asked for memory. -/
lemma shared_withPool {id : Nat} {out : Column} (h : w.Accounted) (hid : id < w.records.size)
    (pool : Pool) (shares : out.dictionary = none ∨ out.dictionary = (w.column id).dictionary) :
    out.dictionary = none ∨
      out.dictionary = (w.record id).dictionary.map (Workspace.column { w with pool }) := by
  have ext : Workspace.Extends { w with pool } w := extends_of_eq rfl rfl
  rw [column_of_furnished h.furnished hid] at shares
  refine shares.imp_right fun same => same.trans (Option.map_congr fun d hd => ?_)
  exact (ext.column h.furnished (h.dictionary_lt hid hd)).symm

lemma tandem_take {values indices : Nat} (h : w.Twins w') :
    Tandem (Session.take values indices) (Session.take values indices) w w' fun _ _ _ => True := by
  refine .produce (.columnIn h fun v hv => .columnIn h fun i hi => .recordIn h fun v' hv' => ?_)
  obtain rfl := view_unique hv hv'
  have inside := h.left.registers _ v hv
  have inside' := h.left.registers _ i hi
  obtain ⟨deep, deep'⟩ := h.sound_columnOf inside
  obtain ⟨indices, indices'⟩ := h.sound_columnOf inside'
  have gathers := Gather.take_recounted (h.columnOf inside) (h.columnOf inside') deep.sound
    deep'.sound indices.sound indices'.sound
  refine .pooled h gathers fun out out' pool made made' same => ?_
  have hid := h.left.record v inside
  have shares' := Gather.dictionary_of_take deep'.sound indices'.sound made'
  rw [Workspace.columnOf, h.view] at shares'
  have shared' := shared_withPool h.right (h.size ▸ hid) pool shares'
  rw [h.record] at shared'
  exact tandem_openGathered (h.withPool pool) hid same
    (Gather.sound_of_take deep.sound indices.sound made)
    (Gather.sound_of_take deep'.sound indices'.sound made')
    (shared_withPool h.left hid pool (Gather.dictionary_of_take deep.sound indices.sound made))
    shared'

/-- The record of keys with another type and a dictionary stands for what is put together. -/
lemma column_encodedRecord {keys values : Nat} {out : Column} (furnished : w.Furnished)
    (hk : keys < w.records.size) (hv : values < w.records.size)
    (encoded : out = .encoded out.type (w.column keys) (w.column values)) :
    let s : Record := { w.record keys with type := out.type, dictionary := some values }
    w.Refers s w.records.size ∧ (w.withRecord s).column w.records.size = out := by
  intro s
  have refers : w.Refers s w.records.size := by
    refine ⟨(furnished keys hk).buffers, ?_⟩
    rintro _ ⟨⟩
    exact hv
  refine ⟨refers, ?_⟩
  rw [column_withRecord furnished refers, encoded, column_of_furnished furnished hk]
  rfl

/-- Keys and values are put together alike. -/
lemma tandem_encodeWith {assemble : Column → Column → Checked Column} {k v : Nat}
    (h : w.Twins w')
    (alike : ∀ a a' b b', Column.Recounted a a' → Column.Recounted b b' → a.Sound → a'.Sound →
      (assemble a b).Matches Column.Recounted (assemble a' b'))
    (encodes : ∀ a b out, Column.Sound a → assemble a b = .ok out →
      out.Sound ∧ out = .encoded out.type a b) :
    Tandem (encodeWith assemble k v) (encodeWith assemble k v) w w' fun _ _ _ => True := by
  refine .produce (.columnIn h fun a ha => .columnIn h fun b hb => ?_)
  have insideKeys := h.left.registers _ a ha
  have insideValues := h.left.registers _ b hb
  obtain ⟨keys, keys'⟩ := h.sound_columnOf insideKeys
  refine .check h (alike _ _ _ _ (h.columnOf insideKeys) (h.columnOf insideValues) keys.sound
    keys'.sound) fun out out' made made' same => ?_
  refine .look (.recordIn h fun a₁ ha₁ => .recordIn h fun b₁ hb₁ => ?_)
  obtain rfl := view_unique ha ha₁
  obtain rfl := view_unique hb hb₁
  obtain ⟨sound, encoded⟩ := encodes _ _ _ keys.sound made
  obtain ⟨sound', encoded'⟩ := encodes _ _ _ keys'.sound made'
  rw [Workspace.columnOf, Workspace.columnOf, h.view, h.view] at encoded'
  have hk := h.left.record _ insideKeys
  have hv := h.left.record _ insideValues
  obtain ⟨refers, column⟩ := column_encodedRecord h.left.furnished hk hv encoded
  obtain ⟨-, column'⟩ :=
    column_encodedRecord h.right.furnished (h.size ▸ hk) (h.size ▸ hv) encoded'
  refine tandem_openNew h ?_ refers column column' sound sound'
  rw [h.record, same.type]

lemma sound_of_encode? {type : DataType} {keys values out : Column} (hk : keys.Sound)
    (run : Column.encode? type keys values = .ok out) : out.Sound := by
  obtain ⟨k, value, ordered, rfl, integer, same, -, rfl⟩ := Column.encode?_eq_ok run
  exact Column.sound_encoded hk integer same

lemma tandem_encode? {type : Option (Checked DataType)} {k v : Nat} (h : w.Twins w') :
    Tandem (Session.encode? type k v) (Session.encode? type k v) w w' fun _ _ _ => True := by
  refine tandem_encodeWith h (fun a a' b b' keys values hk hk' => ?_) fun a b out hk made => ?_
  · cases type with
    | none => exact keys.encodeUntyped? values hk hk'
    | some t =>
      cases t with
      | ok t => exact keys.encode? values hk hk' t
      | error e => exact .error e
  · cases type with
    | none =>
      obtain ⟨t, -, encoded⟩ := Checked.bind_eq_ok.1 made
      exact ⟨sound_of_encode? hk encoded, Column.eq_of_encode? encoded⟩
    | some t =>
      obtain ⟨t, -, encoded⟩ := Checked.bind_eq_ok.1 made
      exact ⟨sound_of_encode? hk encoded, Column.eq_of_encode? encoded⟩

lemma tandem_keys (h : w.Twins w') :
    Tandem (Session.keys r) (Session.keys r) w w' fun _ _ _ => True := by
  refine .produce (.look (.viewIn h fun v hv => ?_))
  rw [h.view]
  cases keys : (w.view v).keys with
  | none => exact .fail h
  | some k => exact .answer h (h.left.keys v (h.left.registers r v hv) k keys)

lemma tandem_dictionary (h : w.Twins w') :
    Tandem (Session.dictionary r) (Session.dictionary r) w w' fun _ _ _ => True :=
  .produce (.viewIn h fun v hv =>
    (tandem_openDictionary h (h.left.registers r v hv)).weaken fun _ _ _ _ opened => opened.2)

lemma tandem_drop (h : w.Twins w') :
    Tandem (Session.drop r) (Session.drop r) w w' fun _ _ _ => True := by
  rw [Session.drop, held, bind_assoc]
  refine .look ?_
  rw [h.registers]
  cases w.registers[r]? with
  | none => exact .error _ h
  | some holds =>
    have emptied : Tandem
        (modify fun w => { w with registers := w.registers.setIfInBounds r none } : Session Unit)
        (modify fun w => { w with registers := w.registers.setIfInBounds r none }) w w'
        fun _ _ _ => True := .ok (h.emptied r) trivial
    exact emptied.bind fun _ _ _ twins _ => .ok twins.reclaim trivial

end Making

section Asking

lemma tandem_nullCount (h : w.Twins w') :
    Tandem (Session.nullCount r) (Session.nullCount r) w w' fun _ _ _ => True := by
  refine .columnIn h fun v hv => .recordIn h fun v' hv' => ?_
  have inside := h.left.registers r v hv
  obtain ⟨deep, deep'⟩ := h.sound_columnOf inside
  refine (tandem_countRecord h (h.left.record v' (h.left.registers r v' hv'))).bind
    fun _ _ _ twins _ => ?_
  refine (Tandem.checked twins ?_).weaken fun _ _ _ _ _ => trivial
  exact (h.columnOf inside).countNulls deep.sound deep'.sound

lemma tandem_validities (h : w.Twins w') :
    Tandem (Session.validities r) (Session.validities r) w w' fun _ _ _ => True := by
  refine .columnIn h fun v hv => ?_
  have inside := h.left.registers r v hv
  obtain ⟨deep, deep'⟩ := h.sound_columnOf inside
  refine (Tandem.checked h ?_).weaken fun _ _ _ _ _ => trivial
  exact (h.columnOf inside).validities deep.sound deep'.sound

lemma tandem_validate (h : w.Twins w') :
    Tandem (Session.validate r) (Session.validate r) w w' fun _ _ _ => True := by
  refine .columnIn h fun v hv => .recordIn h fun v' hv' => ?_
  obtain ⟨deep, deep'⟩ := h.sound_columnOf (h.left.registers r v hv)
  refine (tandem_countForValidation h (h.left.record v' (h.left.registers r v' hv'))).bind
    fun _ _ _ twins _ => ?_
  refine (Tandem.checked twins ?_).weaken fun _ _ _ _ _ => trivial
  rw [deep.sound.validates, deep'.sound.validates]

lemma tandem_print {options : PrintOptions} (h : w.Twins w') :
    Tandem (Session.print options r) (Session.print options r) w w' fun _ _ _ => True := by
  refine .viewIn h fun v hv => .look ?_
  have inside := h.left.registers r v hv
  obtain ⟨deep, deep'⟩ := h.sound_columnOf inside
  have same := h.columnOf inside
  refine (tandem_countForPrinting same options h inside).bind fun _ _ _ twins _ => ?_
  exact (Tandem.checked twins (same.print deep deep' options)).weaken fun _ _ _ _ _ => trivial

lemma tandem_equals {s : Option Nat} (h : w.Twins w') :
    Tandem (Session.equals r s) (Session.equals r s) w w' fun _ _ _ => True := by
  refine .viewIn h fun a ha => ?_
  cases s with
  | none => exact .answer h trivial
  | some s =>
    refine .viewIn h fun b hb => .look ?_
    have insideLeft := h.left.registers r a ha
    have insideRight := h.left.registers s b hb
    have left := h.columnOf insideLeft
    obtain ⟨deep, deep'⟩ := h.sound_columnOf insideLeft
    refine (tandem_countForEquality left h insideLeft insideRight).bind
      fun _ u u' twins lasts => .look ?_
    have still := lasts.inside insideRight
    obtain ⟨other, other'⟩ := twins.sound_columnOf still
    exact (Tandem.checked twins
      (left.equals (twins.columnOf still) deep deep' other other' _)).weaken
        fun _ _ _ _ _ => trivial

/-- Ranges of slots are compared alike, unless some that are compared are not there. -/
lemma tandem_rangeEquals {s : Nat} {start stop other : Int} (h : w.Twins w')
    (any : stop ≤ start ∨ ∀ q ∈ [r, s], ∀ v ∈ w.registers[q]?.join, (w.columnOf v).length ≠ 0) :
    Tandem (Session.rangeEquals r s start stop other) (Session.rangeEquals r s start stop other)
      w w' fun _ _ _ => True := by
  refine .viewIn h fun a ha => .viewIn h fun b hb => ?_
  have insideLeft := h.left.registers r a ha
  have insideRight := h.left.registers s b hb
  refine (tandem_countForRange h insideLeft insideRight start stop other).bind
    fun _ u u' twins lasts => .look ?_
  have left := lasts.inside insideLeft
  have right := lasts.inside insideRight
  have some : (u.slotsOf a).length = 0 → stop ≤ start := by
    rw [lasts.length_slotsOf h.left.toLinked insideLeft]
    exact fun empty => any.resolve_right fun all => all r (by simp) a (by rw [ha]; rfl) empty
  have some' : (u.slotsOf b).length = 0 → stop ≤ start := by
    rw [lasts.length_slotsOf h.left.toLinked insideRight]
    exact fun empty => any.resolve_right fun all => all s (by simp) b (by rw [hb]; rfl) empty
  have compared := (twins.slotsOf left).rangeEquals (twins.slotsOf right)
    (twins.left.slotsOf left) (twins.right.slotsOf (twins.views ▸ left))
    (twins.left.slotsOf right) (twins.right.slotsOf (twins.views ▸ right)) (a == b) other
    (fun _ => some) fun _ => some'
  exact (Tandem.checked twins compared).weaken fun _ _ _ _ _ => trivial

lemma tandem_truthCounts (h : w.Twins w') :
    Tandem (Session.truthCounts r) (Session.truthCounts r) w w' fun _ _ _ => True := by
  refine .columnIn h fun v hv => ?_
  have inside := h.left.registers r v hv
  obtain ⟨deep, deep'⟩ := h.sound_columnOf inside
  have same := h.columnOf inside
  have trues : (w.columnOf v).trueCount.Matches Eq (w'.columnOf v).trueCount := by
    rw [same.trueCount]
    exact .refl (fun _ => rfl) _
  have falses : (w.columnOf v).falseCount.Matches Eq (w'.columnOf v).falseCount := by
    rw [same.falseCount deep.sound deep'.sound]
    exact .refl (fun _ => rfl) _
  refine .check h trues fun t t' _ _ first => .recordIn h fun v' hv' => ?_
  refine (tandem_countRecord h (h.left.record v' (h.left.registers r v' hv'))).bind
    fun _ _ _ twins _ => ?_
  refine .check twins falses fun f f' _ _ second => ?_
  rw [first, second]
  exact .answer twins trivial

end Asking

end Columnar.Session
