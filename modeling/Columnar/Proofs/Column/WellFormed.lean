import Mathlib.Tactic.Common
import Columnar.Column.Encoded
import Columnar.Proofs.Column.Within

/-!
# Well-formed columns

A column is well-formed when it is sound and, if it is dictionary-encoded, has a well-formed
dictionary and valid keys that name its values. Slicing, counting nulls, taking a dictionary column
apart and putting one together all lead from well-formed columns to well-formed columns.
-/

namespace Columnar

lemma DataType.eq_of_equals_int {k : IntKind} {t : DataType}
    (h : (DataType.int k).equals t = true) : t = .int k := by
  have same : (DataType.int k).id = t.id := by
    rw [DataType.equals, Bool.and_eq_true, beq_iff_eq] at h
    exact h.1
  obtain ⟨signed, width⟩ := k
  cases t with
  | int k' =>
    obtain ⟨signed', width'⟩ := k'
    cases signed <;> cases width <;> cases signed' <;> cases width' <;> first | rfl | cases same
  | _ => cases signed <;> cases width <;> cases same

namespace Column

/-- Whether each valid key of kind `k` names one of `n` values. -/
def KeysBelow (c : Column) (k : IntKind) (n : Int) : Prop :=
  ∀ (i : Nat) (v : Int), i < c.length → c.isValid i = .ok true → c.integer k i = .ok v →
    0 ≤ v ∧ v < n

/-- Whether a null count may be stored in a column. The null type makes nothing of it. -/
def Admits (c : Column) (n : Int) : Prop :=
  c.type ≠ .null → n = unknownCount ∨ n = c.windowNulls

/-- A column that is sound, with sound dictionaries all the way down and keys that name values. -/
inductive WellFormed : Column → Prop
  | plain {c : Column} (sound : c.Sound) (plain : c.type.isDictionary = false) : WellFormed c
  | encoded {c d : Column} {k : IntKind} {value : DataType} {ordered : Bool} (sound : c.Sound)
    (type : c.type = .dictionary k value ordered) (dictionary : c.dictionary = some d)
    (values : WellFormed d) (keys : c.KeysBelow k d.length) : WellFormed c

variable {c c' : Column} {place : Nat} {k : IntKind} {n : Int}

lemma KeysBelow.within (keys : c.KeysBelow k n) (h : c'.Within c place) (sound : c.Sound)
    (sound' : c'.Sound) (stored : c.type ≠ .null) : c'.KeysBelow k n := by
  have inside := h.inside
  intro i v hi valid integer
  rw [h.isValid sound sound' stored hi] at valid
  rw [h.integer] at integer
  exact keys (place + i) v (by omega) valid integer

section Counts

lemma Sound.admits_nullCount (h : c.Sound) : c.Admits c.nullCount := by
  intro stored
  rw [← storedCount_eq c stored]
  exact h.counted_window

lemma Sound.admits_storedCount (h : c.Sound) : c.Admits c.storedCount := fun _ => h.counted_window

lemma Sound.admits_of_countNulls (h : c.Sound) (counted : c.countNulls = .ok n) : c.Admits n := by
  have right := h.countNulls_eq.symm.trans counted
  cases right
  exact fun _ => .inr h.nullSlots_eq_windowNulls

/-- A column with the same window accounts for its nulls by a null count that may be stored. -/
lemma Admits.counted (right : c.Admits n) (part : c'.Within c 0) (whole : c'.length = c.length)
    (count : c'.nullCount = n) :
    c'.storedCount = unknownCount ∨ c'.storedCount = c'.windowNulls := by
  by_cases null : c'.type = .null
  · right
    rw [storedCount, windowNulls, Column.bitmap?, null]
    rfl
  · rw [storedCount_eq c' null, part.windowNulls_eq whole, count]
    exact right (mt part.null_iff.2 null)

end Counts

section Windows
variable {offset length : Int}

/-- A slice that has to lie inside the column is a slice that does not reach back. -/
lemma slice_of_slice? (run : c.slice? offset length = .ok c') :
    0 ≤ offset ∧ 0 ≤ length ∧ c.slice offset length = .ok c' := by
  unfold Column.slice? at run
  rw [Checked.throw_eq_error, Checked.throw_eq_error, Checked.guard_eq_ok, Checked.guard_eq_ok]
    at run
  exact ⟨by omega, by omega, run.2.2⟩

lemma eq_of_slice (run : c.slice offset length = .ok c') :
    c' = { c with length := c'.length, offset := c'.offset, nullCount := c'.nullCount } := by
  obtain ⟨-, rfl⟩ := slice_eq_ok.1 run
  rfl

end Windows

namespace Sound

/-- The keys of a sound dictionary column are a sound column. -/
lemma keys (h : c.Sound) : c.keys.Sound := by
  have alike := c.alike_keys
  have part := alike.within h.shaped
  have count : c.keys.storedCount = unknownCount ∨ c.keys.storedCount = c.keys.windowNulls := by
    rw [alike.storedCount, part.windowNulls_eq alike.length]
    exact h.counted_window
  cases type : c.type with
  | dictionary k value ordered =>
    refine .of_shaped (part.shaped h.shaped ?_) count
    unfold validateDictionary
    rw [Column.keys, type]
    rfl
  | _ =>
    rw [Column.keys, type]
    exact h

/-- A window of a sound column that does not reach back is sound. -/
lemma slice {offset length : Int} (h : c.Sound) (lo : 0 ≤ offset) (nonneg : 0 ≤ length)
    (run : c.slice offset length = .ok c') : c'.Sound := by
  have hi := (slice_eq_ok.1 run).1
  rw [eq_window_of_slice (h.shaped.word_of_offset lo hi) run]
  have part := within_window c lo hi nonneg
  refine .of_shaped (part.shaped h.shaped h.shaped.validateDictionary) (counted_within h part ?_)
  rw [Int.toNat_of_nonneg lo]
  rfl

lemma slice? {offset length : Int} (h : c.Sound) (run : c.slice? offset length = .ok c') :
    c'.Sound := by
  obtain ⟨lo, nonneg, sliced⟩ := slice_of_slice? run
  exact h.slice lo nonneg sliced

lemma drop {offset : Int} (h : c.Sound) (lo : 0 ≤ offset) (run : c.drop offset = .ok c') :
    c'.Sound := by
  have hi := (slice_eq_ok.1 run).1
  exact h.slice lo (by omega) run

end Sound

namespace WellFormed

lemma sound (h : c.WellFormed) : c.Sound := by
  cases h with
  | plain sound => exact sound
  | encoded sound => exact sound

lemma exists_dictionary (h : c.WellFormed) (dictionary : c.type.isDictionary = true) :
    ∃ d, c.dictionary = some d ∧ d.WellFormed := by
  cases h with
  | plain sound plain =>
    rw [plain] at dictionary
    cases dictionary
  | @encoded _ d _ _ _ sound type found values => exact ⟨d, found, values⟩

/-- A part of a well-formed column is well-formed if it accounts for its nulls and has a dictionary
of the same type and length. -/
lemma within (h : c.WellFormed) (part : c'.Within c place) (type : c'.type = c.type)
    (count : c'.storedCount = unknownCount ∨ c'.storedCount = c'.windowNulls)
    (dictionary : ∀ d, c.type.isDictionary = true → c.dictionary = some d → d.WellFormed →
      ∃ e, c'.dictionary = some e ∧ e.type = d.type ∧ e.length = d.length ∧ e.WellFormed) :
    c'.WellFormed := by
  have validated := h.sound.shaped.validateDictionary
  cases h with
  | plain sound plain =>
    refine .plain (.of_shaped (part.shaped sound.shaped ?_) count) (type ▸ plain)
    rw [← type] at plain
    unfold validateDictionary
    split
    · next e =>
      rw [e] at plain
      cases plain
    · rfl
  | @encoded _ d k value ordered sound encoded found values keys =>
    obtain ⟨e, found', same, length, values'⟩ := dictionary d (by rw [encoded]; rfl) found values
    have stored : c.type ≠ .null := by
      rw [encoded]
      nofun
    -- Keys are compared slot by slot, which needs both columns to be sound.
    have sound' : c'.Sound := by
      refine .of_shaped (part.shaped sound.shaped ?_) count
      unfold validateDictionary at validated ⊢
      rw [encoded, found] at validated
      rw [type, encoded, found']
      simp only [same]
      exact validated
    refine .encoded sound' (type.trans encoded) found' values' ?_
    rw [length]
    exact keys.within part sound sound' stored

/-- Another null count, and a dictionary that differs in its null counts, keep a column
well-formed. -/
lemma recount {d : Option Column} (h : c.WellFormed) (right : c.Admits n)
    (dictionary : ∀ d₁, c.type.isDictionary = true → c.dictionary = some d₁ → d₁.WellFormed →
      ∃ e, d = some e ∧ e.type = d₁.type ∧ e.length = d₁.length ∧ e.WellFormed) :
    WellFormed { c with nullCount := n, dictionary := d } := by
  obtain ⟨c₁, made⟩ : ∃ c₁, c₁ = { c with nullCount := n, dictionary := d } := ⟨_, rfl⟩
  have part : c₁.Within c 0 := by
    rw [made]
    exact within_of_window rfl rfl rfl rfl h.sound.shaped.length_nonneg
  rw [← made]
  refine h.within part (by rw [made]) (right.counted part (by rw [made]) (by rw [made]))
    fun d₁ encoded found values => ?_
  rw [made]
  exact dictionary d₁ encoded found values

/-- A well-formed column is opened with its nulls accounted for. -/
lemma opened (h : c.WellFormed) (run : c.opened = .ok c') : c'.WellFormed := by
  rw [opened_eq h.sound.encoded] at run
  cases run
  exact h.recount h.sound.admits_storedCount fun d _ found values => ⟨d, found, rfl, rfl, values⟩

/-- The dictionary of a well-formed column is well-formed once it is opened. -/
lemma openDictionary (h : c.WellFormed) (encoded : c.type.isDictionary = true)
    (run : c.openDictionary = .ok c') : c'.WellFormed := by
  obtain ⟨d, found, values⟩ := h.exists_dictionary encoded
  rw [Column.openDictionary, found] at run
  exact values.opened run

lemma slice {offset length : Int} (h : c.WellFormed) (lo : 0 ≤ offset) (nonneg : 0 ≤ length)
    (run : c.slice offset length = .ok c') : c'.WellFormed := by
  have hi := (slice_eq_ok.1 run).1
  rw [eq_window_of_slice (h.sound.shaped.word_of_offset lo hi) run]
  have part := within_window c lo hi nonneg
  refine h.within part rfl (counted_within h.sound part ?_) fun d _ found values =>
    ⟨d, found, rfl, rfl, values⟩
  rw [Int.toNat_of_nonneg lo]
  rfl

lemma slice? {offset length : Int} (h : c.WellFormed) (run : c.slice? offset length = .ok c') :
    c'.WellFormed := by
  obtain ⟨lo, nonneg, sliced⟩ := slice_of_slice? run
  exact h.slice lo nonneg sliced

lemma keys (h : c.WellFormed) : c.keys.WellFormed := by
  cases type : c.type with
  | dictionary k value ordered => exact .plain h.sound.keys (by rw [Column.keys, type]; rfl)
  | _ =>
    rw [Column.keys, type]
    exact h

end WellFormed

section Encoding
variable {type : DataType} {keys values out : Column}

lemma checkKey_of_null {i : Int} (null : keys.isValid i = .ok false) :
    keys.checkKey k n i = .ok () := by
  rw [checkKey, null]
  rfl

/-- A valid key passes exactly if, as a signed 64-bit word, it names a value. -/
lemma checkKey_of_valid {i v : Int} (valid : keys.isValid i = .ok true)
    (integer : keys.integer k i = .ok v) :
    keys.checkKey k n i =
      if v < 0 ∨ 2 ^ 63 ≤ v ∨ n ≤ v then .error (.encoding (.keyOutOfRange v n)) else .ok () := by
  have holds := holds_of_integer integer
  have bounds := IntKind.word_of_holds holds
  have word := IntKind.wrap_word_of_holds holds
  have same : ((IntKind.int .w64).wrap v < 0 ∨ (IntKind.int .w64).wrap v ≥ n) ↔
      (v < 0 ∨ 2 ^ 63 ≤ v ∨ n ≤ v) := by
    rw [word]
    split <;> omega
  rw [checkKey, valid, Checked.ok_bind, if_pos rfl, integer, Checked.ok_bind]
  simp only [same]
  rfl

/-- Keys that pass their check name values. -/
lemma keysBelow_of_checkKeys (h : keys.checkKeys k n = .ok ()) : keys.KeysBelow k n := by
  intro i v hi valid integer
  rcases foldPositions_cases (fun _ i => keys.checkKey k n i) keys.length.toNat 0 with
    ⟨-, passed⟩ | ⟨p, e, -, -, -, -, failed⟩
  · have here := passed i (Nat.zero_le i) (by omega)
    rw [checkKey_of_valid valid integer] at here
    split at here
    · cases here
    · omega
  · rw [checkKeys, foldSlots, failed] at h
    cases h

/-- What a dictionary column is put together from has been checked: the keys are integers of the
kind that its type names, the values have its value type, and no valid key is out of range. -/
lemma encode?_eq_ok (run : Column.encode? type keys values = .ok out) :
    ∃ k value ordered, type = .dictionary k value ordered ∧ keys.type = .int k ∧
      value.equals values.type = true ∧ checkKeys keys k values.length = .ok () ∧
      out = Column.encoded type keys values := by
  unfold Column.encode? at run
  cases type with
  | dictionary k value ordered =>
    simp only [Checked.throw_eq_error, Checked.error_bind, Checked.guard_eq_ok,
      Checked.check_bind_eq_ok, Decidable.not_not] at run
    obtain ⟨typed, same, checked, made⟩ := run
    cases made
    exact ⟨k, value, ordered, rfl, DataType.eq_of_equals_int typed, same, checked, rfl⟩
  | _ => cases run

lemma alike_encoded {value : DataType} {ordered : Bool} (integer : keys.type = .int k) :
    (Column.encoded (.dictionary k value ordered) keys values).Alike keys :=
  ⟨by rw [integer]; rfl, rfl, rfl, rfl, rfl⟩

/-- Sound keys make a sound dictionary column of values of its value type. -/
lemma sound_encoded {value : DataType} {ordered : Bool} (h : keys.Sound)
    (integer : keys.type = .int k) (same : value.equals values.type = true) :
    (Column.encoded (.dictionary k value ordered) keys values).Sound := by
  have alike : (Column.encoded (.dictionary k value ordered) keys values).Alike keys :=
    alike_encoded integer
  have part := alike.within h.shaped
  refine .of_shaped (part.shaped h.shaped (if_pos same)) ?_
  rw [alike.storedCount, part.windowNulls_eq alike.length]
  exact h.counted_window

/-- A dictionary column that can be put together from well-formed keys and values is well-formed. -/
lemma WellFormed.encode? (hk : keys.WellFormed) (hv : values.WellFormed)
    (run : Column.encode? type keys values = .ok out) : out.WellFormed := by
  obtain ⟨k, value, ordered, rfl, integer, same, checked, rfl⟩ := encode?_eq_ok run
  have alike : (Column.encoded (.dictionary k value ordered) keys values).Alike keys :=
    alike_encoded integer
  have sound : (Column.encoded (.dictionary k value ordered) keys values).Sound :=
    sound_encoded hk.sound integer same
  have part := alike.within hk.sound.shaped
  refine .encoded sound rfl rfl hv ?_
  exact (keysBelow_of_checkKeys checked).within part hk.sound sound (by rw [integer]; nofun)

/-- What is put together is its keys but for the type and the dictionary. -/
lemma eq_of_encode? (run : Column.encode? type keys values = .ok out) :
    out = Column.encoded out.type keys values := by
  obtain ⟨k, value, ordered, rfl, -, -, -, rfl⟩ := encode?_eq_ok run
  rfl

end Encoding

end Column

end Columnar
