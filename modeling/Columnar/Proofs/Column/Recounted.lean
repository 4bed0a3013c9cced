import Mathlib.Tactic.Common
import Columnar.Column.Value
import Columnar.Print.Column
import Columnar.Proofs.Column.Equal
import Columnar.Proofs.Matching

/-!
# Columns that differ in stored null counts

`Column.Recounted` relates columns that are the same but for the null counts that they and their
dictionaries store. Where both are sound they have the same slots and the same number of nulls, are
printed alike, compare alike and are put together alike, although a stored count is looked at before
it is known to be right: it decides whether a column without a bitmap is valid, and what count a
window of a column begins with.
-/

namespace Columnar.Column
variable {c c' l l' r r' : Column} {xs : List (Option Cell)}

/-- Columns that are the same but for the null counts that they and their dictionaries store. -/
inductive Recounted : Column → Column → Prop
  | plain {t : DataType} {n o m m' : Int} {bs : List (Option Buffer)} :
    Recounted ⟨t, n, o, m, bs, none⟩ ⟨t, n, o, m', bs, none⟩
  | encoded {t : DataType} {n o m m' : Int} {bs : List (Option Buffer)} {d d' : Column}
    (values : Recounted d d') : Recounted ⟨t, n, o, m, bs, some d⟩ ⟨t, n, o, m', bs, some d'⟩

namespace Recounted

lemma refl : ∀ c : Column, c.Recounted c
  | ⟨_, _, _, _, _, none⟩ => .plain
  | ⟨_, _, _, _, _, some d⟩ => .encoded (refl d)

/-- With the null count of the other one, a column has the same slots. -/
lemma alike (h : c.Recounted c') : c'.Alike { c with nullCount := c'.nullCount } := by
  cases h with
  | plain => exact ⟨rfl, rfl, rfl, rfl, rfl⟩
  | encoded => exact ⟨rfl, rfl, rfl, rfl, rfl⟩

lemma type (h : c.Recounted c') : c'.type = c.type := by
  cases h with
  | plain => rfl
  | encoded => rfl

lemma length (h : c.Recounted c') : c'.length = c.length := h.alike.length

lemma offset (h : c.Recounted c') : c'.offset = c.offset := h.alike.offset

lemma buffers (h : c.Recounted c') : c'.buffers = c.buffers := h.alike.buffers

lemma bitmap? (h : c.Recounted c') : c'.bitmap? = c.bitmap? := h.alike.bitmap?

lemma cell (h : c.Recounted c') (i : Int) : c'.cell i = c.cell i := h.alike.cell i

lemma integer (h : c.Recounted c') (k : IntKind) (i : Int) : c'.integer k i = c.integer k i := by
  cases h with
  | plain => rfl
  | encoded => rfl

lemma value (h : c.Recounted c') (i : Int) : c'.value i = c.value i := by
  cases h with
  | plain => rfl
  | encoded => rfl

lemma stringLength (h : c.Recounted c') (w : Width) (i : Int) :
    c'.stringLength w i = c.stringLength w i := by
  cases h with
  | plain => rfl
  | encoded => rfl

/-- The same column can be opened, and is one that differs in stored counts again. -/
lemma opened (h : c.Recounted c') : Checked.Matches Recounted c.opened c'.opened := by
  cases h with
  | plain =>
    rw [Column.opened, Column.opened]
    exact .guard fun _ => .ok .plain
  | encoded values =>
    rw [Column.opened, Column.opened]
    exact .guard fun _ => .ok (.encoded values)

/-- The same column has a dictionary to open. -/
lemma openDictionary (h : c.Recounted c') :
    Checked.Matches Recounted c.openDictionary c'.openDictionary := by
  cases h with
  | plain => exact .error _
  | encoded values => exact values.opened

lemma keys (h : c.Recounted c') : c.keys.Recounted c'.keys := by
  unfold Column.keys
  rw [h.type]
  cases c.type with
  | dictionary => cases h <;> exact .plain
  | _ => exact h

lemma withNullCount (h : c.Recounted c') (n n' : Int) :
    (c.withNullCount n).Recounted (c'.withNullCount n') := by
  cases h with
  | plain => exact .plain
  | encoded values => exact .encoded values

end Recounted

section Soundness

/-- A column that is sound and whose dictionary is sound throughout, whether the type calls for one
or not. -/
inductive SoundThroughout : Column → Prop
  | intro {c : Column} (sound : c.Sound)
    (dictionary : ∀ d, c.dictionary = some d → SoundThroughout d) : SoundThroughout c

lemma SoundThroughout.sound (h : c.SoundThroughout) : c.Sound := by
  cases h with
  | intro sound => exact sound

lemma SoundThroughout.dictionary {d : Column} (h : c.SoundThroughout)
    (found : c.dictionary = some d) : d.SoundThroughout := by
  cases h with
  | intro _ dictionary => exact dictionary d found

lemma SoundThroughout.deeplySound (h : c.SoundThroughout) : c.DeeplySound := by
  induction h with
  | intro sound _ ih => exact .intro sound fun _ d found => ih d found

/-- A right null count keeps a column sound, whatever counts its dictionaries store. -/
lemma Recounted.sound (h : c.Recounted c') (hc : c.Sound) (right : c.Admits c'.nullCount) :
    c'.Sound := by
  have part : c'.Within c 0 :=
    within_of_window (by rw [h.type]) h.buffers h.offset h.length hc.shaped.length_nonneg
  have validated : c'.validateDictionary = c.validateDictionary := by
    cases h with
    | plain => rfl
    | @encoded t _ _ _ _ _ d d' values =>
      cases t with
      | dictionary => simp only [validateDictionary, values.type]
      | _ => rfl
  exact .of_shaped (part.shaped hc.shaped (validated.trans hc.shaped.validateDictionary))
    (right.counted part h.length rfl)

end Soundness

section Slots

/-- Without a bitmap a sound column that has slots is valid wherever it is asked. -/
lemma Sound.isValid_of_no_bitmap (h : c.Sound) (stored : c.type ≠ .null) (none : c.bitmap? = none)
    (some : c.length ≠ 0) (i : Int) : c.isValid i = .ok true := by
  have count := h.counted_window
  have nonneg := h.shaped.length_nonneg
  have full : c.windowNulls = 0 := by rw [windowNulls, none, if_neg stored]
  rw [Column.isValid_of_no_bitmap none]
  refine congrArg Except.ok (bne_iff_ne.2 ?_)
  rw [full] at count
  unfold unknownCount at count
  omega

namespace Recounted

/-- Sound columns have the same valid slots, even outside their windows unless there is neither a
slot nor a bitmap. -/
lemma isValid (h : c.Recounted c') (hc : c.Sound) (hc' : c'.Sound)
    (some : c.bitmap? = none → c.length ≠ 0) (i : Int) : c'.isValid i = c.isValid i := by
  have bitmap := h.bitmap?
  cases found : c.bitmap? with
  | some b =>
    rw [Column.isValid, Column.isValid, bitmap, found, h.offset]
  | none =>
    by_cases null : c.type = .null
    · have count := storedCount_of_null null
      have count' := storedCount_of_null (h.type.trans null)
      rw [Column.isValid_of_no_bitmap found, Column.isValid_of_no_bitmap (bitmap.trans found),
        count, count', bne_self_eq_false, bne_self_eq_false]
    · rw [hc.isValid_of_no_bitmap null found (some found),
        hc'.isValid_of_no_bitmap (h.type ▸ null) (bitmap.trans found)
          (h.length ▸ some found)]

lemma reads (h : c.Recounted c') (hc : c.Sound) (hc' : c'.Sound) (reads : c.Reads xs) :
    c'.Reads xs := by
  refine ⟨h.length.trans reads.length, fun p s here => ?_⟩
  have some : c.length ≠ 0 := by
    obtain ⟨lt, -⟩ := List.getElem?_eq_some_iff.1 here
    rw [reads.length]
    omega
  rw [← reads.slot p s here, Column.slot, Column.slot, h.isValid hc hc' (fun _ => some), h.cell]

lemma countNulls (h : c.Recounted c') (hc : c.Sound) (hc' : c'.Sound) :
    c'.countNulls = c.countNulls := by
  obtain ⟨xs, reads⟩ := hc.exists_reads
  rw [hc.countNulls_eq, hc'.countNulls_eq, reads.nullSlots, (h.reads hc hc' reads).nullSlots]

lemma validities (h : c.Recounted c') (hc : c.Sound) (hc' : c'.Sound) :
    c'.validities = c.validities := by
  by_cases empty : c.length = 0
  · rw [Column.validities, Column.validities, positions, positions, h.length, empty]
    rfl
  · rw [Column.validities, Column.validities, positions, positions, h.length]
    congr 1
    funext i
    exact h.isValid hc hc' (fun _ => empty) i

lemma trueCount (h : c.Recounted c') : c'.trueCount = c.trueCount := by
  have bitmap := h.bitmap?
  have memory : c'.memory 1 = c.memory 1 := h.alike.memory 1
  unfold Column.trueCount foldSlots
  rw [bitmap, memory, h.offset, h.length]
  cases found : c.bitmap? with
  | none => rfl
  | some b =>
    have valid : ∀ i : Int, c'.isValid i = c.isValid i := fun i => by
      rw [Column.isValid, Column.isValid, bitmap, found, h.offset]
    simp only [valid]

lemma falseCount (h : c.Recounted c') (hc : c.Sound) (hc' : c'.Sound) :
    c'.falseCount = c.falseCount := by
  rw [Column.falseCount, Column.falseCount, h.countNulls hc hc', h.trueCount, h.length]

/-- Columns that are sound with all their dictionaries are equal whatever counts they store. -/
lemma equal (h : c.Recounted c') (hc : c.DeeplySound) (hc' : c'.DeeplySound) : c.Equal c' := by
  induction h with
  | plain =>
    obtain ⟨xs, reads⟩ := hc.sound.exists_reads
    exact .intro rfl reads (Recounted.plain.reads hc.sound hc'.sound reads) nofun
  | encoded values ih =>
    obtain ⟨xs, reads⟩ := hc.sound.exists_reads
    refine .intro rfl reads ((Recounted.encoded values).reads hc.sound hc'.sound reads) ?_
    rintro encoded - _ _ ⟨⟩ ⟨⟩
    exact ih (hc.dictionary encoded rfl) (hc'.dictionary encoded rfl)

end Recounted

end Slots

section Comparing

lemma equals_same (l r : Column) : Column.equals true l r = .ok true := by
  obtain ⟨t, n, o, k, bs, d⟩ := l
  cases d with
  | none => rfl
  | some d => rfl

lemma DeeplySound.exists_openDictionary (h : c.DeeplySound) (encoded : c.type.isDictionary = true) :
    ∃ d, c.openDictionary = .ok d ∧ d.DeeplySound := by
  obtain ⟨d, found, values⟩ := h.exists_dictionary encoded
  obtain ⟨e, opened, deep, -⟩ := values.exists_opened
  exact ⟨e, by rw [Column.openDictionary, found]; exact opened, deep⟩

namespace Recounted

lemma equals (left : l.Recounted l') (right : r.Recounted r') (hl : l.DeeplySound)
    (hl' : l'.DeeplySound) (hr : r.DeeplySound) (hr' : r'.DeeplySound) (same : Bool) :
    Column.equals same l' r' = Column.equals same l r := by
  cases same with
  | true => rw [equals_same, equals_same]
  | false =>
    rw [hl.equals_congr hl' hr' (left.equal hl hl').symm, ← hl.equals_comm hr',
      hr.equals_congr hr' hl (right.equal hr hr').symm, hl.equals_comm hr]

lemma dictionariesEqual (left : l.Recounted l') (right : r.Recounted r') (hl : l.DeeplySound)
    (hl' : l'.DeeplySound) (hr : r.DeeplySound) (hr' : r'.DeeplySound)
    (encoded : l.type.isDictionary = true) (encoded' : r.type.isDictionary = true) (same : Bool) :
    Column.dictionariesEqual same l' r' = Column.dictionariesEqual same l r := by
  obtain ⟨d, found, deep⟩ := hl.exists_openDictionary encoded
  obtain ⟨e, found', deep'⟩ := hr.exists_openDictionary encoded'
  obtain ⟨d₁, found₁, deep₁⟩ := hl'.exists_openDictionary (left.type ▸ encoded)
  obtain ⟨e₁, found₁', deep₁'⟩ := hr'.exists_openDictionary (right.type ▸ encoded')
  have values := left.openDictionary
  have values' := right.openDictionary
  rw [found, found₁] at values
  rw [found', found₁'] at values'
  cases values with
  | ok values =>
    cases values' with
    | ok values' =>
      rw [Column.dictionariesEqual, Column.dictionariesEqual, found, found', found₁, found₁']
      exact values.equals values' deep deep₁ deep' deep₁' same

/-- Slots that are valid alike are compared alike. -/
lemma windowsAgree (left : l.Recounted l') (right : r.Recounted r')
    (valid : ∀ i, l'.isValid i = l.isValid i) (valid' : ∀ i, r'.isValid i = r.isValid i)
    (i j : Int) (n : Nat) : Column.windowsAgree l' r' i j n = Column.windowsAgree l r i j n := by
  induction n generalizing i j with
  | zero => rfl
  | succ n ih =>
    simp only [Column.windowsAgree, slotsAgree, cellsAgree, lengthsAgree, valid, valid', left.type,
      left.cell, right.cell, left.stringLength, right.stringLength, ih]

/-- Ranges are compared alike, even outside of the windows unless a column has neither a slot nor a
bitmap. -/
lemma rangeEquals (left : l.Recounted l') (right : r.Recounted r') (hl : l.DeeplySound)
    (hl' : l'.DeeplySound) (hr : r.DeeplySound) (hr' : r'.DeeplySound) (same : Bool)
    {start stop : Int} (other : Int)
    (some : l.bitmap? = none → l.length = 0 → stop ≤ start)
    (some' : r.bitmap? = none → r.length = 0 → stop ≤ start) :
    Column.rangeEquals same l' r' start stop other =
      Column.rangeEquals same l r start stop other := by
  have windows {a b a' b' : Column} (alike : a.Recounted a') (alike' : b.Recounted b')
      (valid : ¬ stop ≤ start → ∀ i, a'.isValid i = a.isValid i)
      (valid' : ¬ stop ≤ start → ∀ i, b'.isValid i = b.isValid i) :
      Column.windowsAgree a' b' start other (stop - start).toNat =
        Column.windowsAgree a b start other (stop - start).toNat := by
    by_cases none : stop ≤ start
    · rw [show (stop - start).toNat = 0 by omega]
      rfl
    · exact alike.windowsAgree alike' (valid none) (valid' none) start other _
  have valid (any : ¬ stop ≤ start) (i : Int) : l'.isValid i = l.isValid i :=
    left.isValid hl.sound hl'.sound (fun none empty => any (some none empty)) i
  have valid' (any : ¬ stop ≤ start) (i : Int) : r'.isValid i = r.isValid i :=
    right.isValid hr.sound hr'.sound (fun none empty => any (some' none empty)) i
  unfold Column.rangeEquals rangeAgrees
  rw [left.type, right.type]
  by_cases typed : l.type.equals r.type = true
  · cases type : l.type with
    | null => rfl
    | dictionary k v o =>
      have encoded : l.type.isDictionary = true := by rw [type]; rfl
      have encoded' := DataType.equals_iff.1 typed ▸ encoded
      simp only [left.dictionariesEqual right hl hl' hr hr' encoded encoded']
      rw [windows left.keys right.keys
        (fun any i => by rw [l'.alike_keys.isValid, l.alike_keys.isValid, valid any])
        fun any i => by rw [r'.alike_keys.isValid, r.alike_keys.isValid, valid' any]]
    | _ => simp only [windows left right valid valid']
  · rw [if_pos typed, if_pos typed]

end Recounted

end Comparing

section Printing

namespace Recounted

lemma slots (h : c.Recounted c') (hc : c.Sound) (hc' : c'.Sound) (options : PrintOptions) :
    Print.slots options c' = Print.slots options c := by
  unfold Print.slots
  rw [hc.validates, hc'.validates, h.length]
  by_cases empty : c.length = 0
  · simp only [empty]
    rfl
  · have valid := h.isValid hc hc' fun _ => empty
    have line (l : Line) : Print.line options c' l = Print.line options c l := by
      cases l with
      | dots => rfl
      | slot i =>
        simp only [Print.line, Print.slot, Print.cell, valid, h.length, h.type, h.stringLength,
          h.value]
    have body (blanks : Text) (ls : List Line) :
        Print.body options c' blanks ls = Print.body options c blanks ls := by
      induction ls with
      | nil => rfl
      | cons l ls ih => rw [Print.body, Print.body, line, ih]
    simp only [body]

lemma printout (h : c.Recounted c') (hc : c.DeeplySound) (hc' : c'.DeeplySound)
    (options : PrintOptions) : c'.printout options = c.printout options := by
  induction h generalizing options with
  | @plain t n o m m' bs =>
    cases t with
    | null => rfl
    | dictionary => rfl
    | _ => exact Recounted.plain.slots hc.sound hc'.sound options
  | @encoded t n o m m' bs d d' values ih =>
    cases t with
    | null => rfl
    | dictionary k value ordered =>
      have whole : Recounted ⟨.dictionary k value ordered, n, o, m, bs, some d⟩
          ⟨.dictionary k value ordered, n, o, m', bs, some d'⟩ := .encoded values
      have inner := hc.dictionary rfl rfl
      have inner' := hc'.dictionary rfl rfl
      obtain ⟨_, opened, -⟩ := inner.exists_opened
      obtain ⟨_, opened', -⟩ := inner'.exists_opened
      simp only [Column.printout, opened, opened', Checked.ok_bind, ih inner inner',
        whole.keys.slots hc.sound.keys hc'.sound.keys]
    | _ => exact (Recounted.encoded values).slots hc.sound hc'.sound options

lemma print (h : c.Recounted c') (hc : c.DeeplySound) (hc' : c'.DeeplySound)
    (options : PrintOptions) : c'.print options = c.print options := by
  rw [Column.print, Column.print, h.printout hc hc']

end Recounted

end Printing

section Making
variable {keys keys' values values' : Column}

namespace Recounted

lemma validationCounts (h : c.Recounted c') : c'.validationCounts = c.validationCounts := by
  cases h with
  | plain => rfl
  | encoded => rfl

/-- The same windows can be cut out. Which counts are known of them may differ. -/
lemma slice (h : c.Recounted c') (offset length : Int) :
    Checked.Matches Recounted (c.slice offset length) (c'.slice offset length) := by
  simp only [Column.slice, h.length, h.offset, Checked.throw_eq_error, Checked.pure_eq_ok]
  refine .guard fun _ => .ok ?_
  cases h with
  | plain => exact .plain
  | encoded values => exact .encoded values

lemma slice? (h : c.Recounted c') (offset length : Int) :
    Checked.Matches Recounted (c.slice? offset length) (c'.slice? offset length) := by
  unfold Column.slice?
  rw [h.length]
  exact .guard fun _ => .guard fun _ => h.slice offset length

lemma drop (h : c.Recounted c') (offset : Int) :
    Checked.Matches Recounted (c.drop offset) (c'.drop offset) := by
  rw [Column.drop, Column.drop, h.length]
  exact h.slice offset _

lemma encoded_congr (left : keys.Recounted keys') (right : values.Recounted values')
    (type : DataType) : Recounted (.encoded type keys values) (.encoded type keys' values') := by
  cases left with
  | plain => exact .encoded right
  | encoded => exact .encoded right

lemma checkKeys (h : c.Recounted c') (hc : c.Sound) (hc' : c'.Sound) (k : IntKind) (n : Int) :
    Column.checkKeys c' k n = Column.checkKeys c k n := by
  rw [Column.checkKeys, Column.checkKeys, foldSlots, foldSlots, h.length]
  by_cases empty : c.length = 0
  · rw [empty]
    rfl
  · simp only [Column.checkKey, h.integer, h.isValid hc hc' fun _ => empty]

/-- The same keys and values can be put together. -/
lemma encode? (left : keys.Recounted keys') (right : values.Recounted values') (hk : keys.Sound)
    (hk' : keys'.Sound) (type : DataType) :
    Checked.Matches Recounted (Column.encode? type keys values)
      (Column.encode? type keys' values') := by
  unfold Column.encode?
  rw [left.type, right.type, right.length]
  cases type with
  | dictionary k value ordered =>
    simp only [Checked.throw_eq_error, Checked.error_bind, Checked.pure_eq_ok,
      left.checkKeys hk hk']
    refine .guard fun _ => .guard fun _ => ?_
    cases Column.checkKeys keys k values.length with
    | ok => exact .ok (left.encoded_congr right _)
    | error e => exact .error e
  | _ => exact .error _

lemma encodeUntyped? (left : keys.Recounted keys') (right : values.Recounted values')
    (hk : keys.Sound) (hk' : keys'.Sound) :
    Checked.Matches Recounted (Column.encodeUntyped? keys values)
      (Column.encodeUntyped? keys' values') := by
  rw [Column.encodeUntyped?, Column.encodeUntyped?, left.type, right.type]
  cases DataType.dictionary? keys.type values.type false with
  | ok type => exact left.encode? right hk hk' type
  | error e => exact .error e

end Recounted

end Making

end Columnar.Column
