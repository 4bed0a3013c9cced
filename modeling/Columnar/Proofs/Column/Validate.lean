import Mathlib.Tactic.Common
import Columnar.Column.Validate
import Columnar.Proofs.Bits.Rounding
import Columnar.Proofs.Checked
import Columnar.Proofs.Column.Covered

/-!
# What validation checks

`Column.Passes` lists what a column has to be like to pass validation, in the order of the checks,
and `validate_iff` says that it is exactly that where the sizes that follow from the window are
64-bit words (`Column.Fits`). Validation itself takes such sizes for what they wrap to.
-/

namespace Columnar.Column

/-- Whether the column has a bitmap, or a buffer of values or offsets. -/
def hasBuffer (c : Column) : Bool := (c.buffer? 0).isSome || (c.buffer? 1).isSome

/-- A window whose sizes are 64-bit words. Its end is one, under buffers also once it is rounded up
to a whole word of a bitmap, and so is the size of its values or offsets where there are any. -/
structure Fits (c : Column) : Prop where
  stop_lt : c.stop < 2 ^ 63
  aligned : c.hasBuffer = true → c.stop + 64 ≤ 2 ^ 63
  reach_lt : (c.buffer? 1).isSome = true → c.type.layout.reach c.stop < 2 ^ 63

/-- Whether the values have at least `size` bytes, or there are no slots. -/
def ValuesReach (c : Column) (size : Int) : Prop :=
  match c.buffer? 1 with
  | none => c.length ≤ 0
  | some values => size ≤ values.size

/-- Whether there are enough offsets, the first and the last one in order and inside the data. -/
def OffsetsReach (c : Column) (w : Width) : Prop :=
  match c.buffer? 1 with
  | none => c.length ≤ 0
  | some offsets => c.stop + 1 ≤ (offsets.size : Int) / w.bytes ∧
    ∃ first last, c.stringOffset w 0 = .ok first ∧ c.stringOffset w c.length = .ok last ∧
      0 ≤ first ∧ first ≤ last ∧ last ≤ ((c.buffer? 2).map Buffer.size).getD 0

/-- What the layout of the type calls for. -/
def PassesLayout (c : Column) : Prop :=
  match c.type.layout with
  | .empty => c.buffers.length = 1 ∧ c.countNulls = .ok c.length
  | .bits => c.buffers.length = 2 ∧ c.ValuesReach (Rounding.byteCount c.stop)
  | .fixed w => c.buffers.length = 2 ∧ c.validateDictionary = .ok () ∧ c.ValuesReach (c.stop * w)
  | .strings w => c.buffers.length = 3 ∧ c.OffsetsReach w

/-- What a column that passes validation is like. -/
structure Passes (c : Column) : Prop where
  length_nonneg : 0 ≤ c.length
  offset_nonneg : 0 ≤ c.offset
  buffers : c.buffers ≠ []
  bitmap : ∀ b, c.buffer? 0 = some b → Rounding.byteCount c.stop ≤ b.size
  nulls : ∃ n, c.countNulls = .ok n ∧ n ≤ c.length ∧
    (c.buffer? 0 = none → c.type ≠ .null → n ≤ 0)
  layout : c.PassesLayout

variable {c : Column} {w : Nat} {v : Width} {size : Int}

lemma hasBuffer_of_bitmap {b : Buffer} (h : c.buffer? 0 = some b) : c.hasBuffer = true := by
  rw [hasBuffer, h]
  rfl

lemma hasBuffer_of_values {b : Buffer} (h : c.buffer? 1 = some b) : c.hasBuffer = true := by
  rw [hasBuffer, h]
  exact Bool.or_true _

/-- A buffer with a byte for every eight slots up to the end of the window reaches over them. -/
lemma Fits.reaches {b : Buffer} (fits : c.Fits) (lo : 0 ≤ c.stop)
    (enough : Rounding.byteCount c.stop ≤ b.size) :
    c.stop ≤ 8 * b.memory.size ∧ (c.stop + 7) / 8 ≤ b.memory.size := by
  obtain ⟨n, whole⟩ := Int.eq_ofNat_of_zero_le lo
  have lt := fits.stop_lt
  have inside := b.size_le
  rw [whole] at lt
  rw [whole, Rounding.byteCount_eq (by omega)] at enough
  omega

lemma passesLayout_bits (layout : c.type.layout = .bits) : c.PassesLayout ↔
    c.buffers.length = 2 ∧ c.ValuesReach (Rounding.byteCount c.stop) := by
  rw [PassesLayout, layout]

lemma passesLayout_fixed (layout : c.type.layout = .fixed w) : c.PassesLayout ↔
    c.buffers.length = 2 ∧ c.validateDictionary = .ok () ∧ c.ValuesReach (c.stop * w) := by
  rw [PassesLayout, layout]

lemma passesLayout_strings (layout : c.type.layout = .strings v) :
    c.PassesLayout ↔ c.buffers.length = 3 ∧ c.OffsetsReach v := by
  rw [PassesLayout, layout]

/-- Where there are slots there is a buffer with their values. -/
lemma ValuesReach.exists_buffer (h : c.ValuesReach size) (pos : 0 < c.length) :
    ∃ b, c.buffer? 1 = some b ∧ size ≤ b.size := by
  unfold ValuesReach at h
  cases e : c.buffer? 1 with
  | none =>
    rw [e] at h
    exact absurd h (by omega)
  | some b =>
    rw [e] at h
    exact ⟨b, rfl, h⟩

/-- Where there are slots there is a buffer with their offsets. -/
lemma OffsetsReach.exists_buffer (h : c.OffsetsReach v) (pos : 0 < c.length) :
    ∃ b, c.buffer? 1 = some b ∧ c.stop + 1 ≤ (b.size : Int) / v.bytes ∧
      ∃ first last, c.stringOffset v 0 = .ok first ∧ c.stringOffset v c.length = .ok last ∧
        0 ≤ first ∧ first ≤ last ∧ last ≤ ((c.buffer? 2).map Buffer.size).getD 0 := by
  unfold OffsetsReach at h
  cases e : c.buffer? 1 with
  | none =>
    rw [e] at h
    exact absurd h (by omega)
  | some b =>
    rw [e] at h
    exact ⟨b, rfl, h⟩

lemma validateWindow_iff : c.validateWindow = .ok () ↔
    0 ≤ c.length ∧ 0 ≤ c.offset ∧ c.buffers ≠ [] ∧
      ∀ b, c.buffer? 0 = some b → Rounding.byteCount c.stop ≤ b.size := by
  unfold validateWindow
  simp only [Checked.throw_eq_error, Checked.error_bind, Checked.pure_eq_ok,
    Checked.guard_eq_ok, Int.not_lt, List.isEmpty_iff]
  cases c.buffer? 0 with
  | none => simp
  | some b => simp

lemma validateNulls_iff : c.validateNulls = .ok () ↔
    ∃ n, c.countNulls = .ok n ∧ n ≤ c.length ∧
      (c.buffer? 0 = none → c.type ≠ .null → n ≤ 0) := by
  unfold validateNulls
  rw [Checked.bind_eq_ok]
  refine exists_congr fun n => and_congr_right fun _ => ?_
  simp only [Checked.throw_eq_error, Checked.error_bind, Checked.pure_eq_ok, Checked.guard_eq_ok,
    Option.isNone_iff_eq_none, not_and, Int.not_lt, gt_iff_lt, and_true]

lemma validateBufferCount_iff {n : Nat} :
    c.validateBufferCount n = .ok () ↔ c.buffers.length = n := by
  unfold validateBufferCount
  simp

lemma validateValues_iff : c.validateValues size = .ok () ↔ c.ValuesReach size := by
  unfold validateValues ValuesReach
  cases c.buffer? 1 with
  | none => simp
  | some b => simp

/-- The size of values that fits a word is taken for what it is. -/
lemma Fits.valuesReach_wrap (fits : c.Fits) (lo : 0 ≤ c.stop) (layout : c.type.layout = .fixed w) :
    c.ValuesReach ((IntKind.int .w64).wrap (c.stop * w)) ↔ c.ValuesReach (c.stop * w) := by
  unfold ValuesReach
  cases found : c.buffer? 1 with
  | none => exact Iff.rfl
  | some values =>
    have lt := fits.reach_lt (by rw [found]; rfl)
    have nonneg : 0 ≤ c.stop * w := Int.mul_nonneg lo (Int.natCast_nonneg w)
    rw [layout] at lt
    rw [IntKind.wrap_w64 (Int.le_trans (by decide) nonneg) lt]

lemma validateStrings_iff {w : Width} (fits : c.Fits) (lo : 0 ≤ c.stop) :
    c.validateStrings w = .ok () ↔ c.buffers.length = 3 ∧ c.OffsetsReach w := by
  unfold validateStrings OffsetsReach
  rw [Checked.check_bind_eq_ok, validateBufferCount_iff]
  refine and_congr_right fun _ => ?_
  cases found : c.buffer? 1 with
  | none => simp
  | some offsets =>
    have aligned := fits.aligned (hasBuffer_of_values found)
    have word : (IntKind.int .w64).wrap (c.stop + 1) = c.stop + 1 :=
      IntKind.wrap_w64 (by omega) (by omega)
    simp only [word, Checked.throw_eq_error, Checked.error_bind, Checked.guard_eq_ok, Int.not_lt,
      Checked.bind_eq_ok, Checked.pure_eq_ok, not_or, gt_iff_lt, and_true]
    refine and_congr_right fun _ => ?_
    constructor
    · rintro ⟨first, readFirst, last, readLast, order, reach⟩
      exact ⟨first, last, readFirst, readLast, order.1, order.2, reach⟩
    · rintro ⟨first, last, readFirst, readLast, lo, order, reach⟩
      exact ⟨first, readFirst, last, readLast, ⟨lo, order⟩, reach⟩

lemma validateLayout_iff (fits : c.Fits) (lo : 0 ≤ c.stop) :
    c.validateLayout = .ok () ↔ c.PassesLayout := by
  unfold validateLayout PassesLayout
  cases layout : c.type.layout with
  | empty =>
    unfold validateNullColumn
    simp only [Checked.throw_eq_error, Checked.error_bind, Checked.guard_eq_ok, Decidable.not_not,
      Checked.bind_eq_ok, Checked.pure_eq_ok, and_true]
    refine and_congr_right fun _ => ?_
    constructor
    · rintro ⟨n, count, rfl⟩
      exact count
    · intro count
      exact ⟨c.length, count, rfl⟩
  | bits => simp only [Checked.check_bind_eq_ok, validateBufferCount_iff, validateValues_iff]
  | fixed w =>
    simp only [Checked.check_bind_eq_ok, validateBufferCount_iff, validateValues_iff,
      fits.valuesReach_wrap lo layout]
  | strings w => exact validateStrings_iff fits lo

/-- The validity of a slot can be read behind the check of the bitmap. -/
lemma Passes.exists_isValid {i : Nat} (h : c.Passes) (fits : c.Fits) (hi : i < c.length) :
    ∃ v, c.isValid i = .ok v := by
  have lo := h.offset_nonneg
  unfold isValid
  cases e : c.bitmap? with
  | none => exact ⟨_, rfl⟩
  | some b =>
    have enough := h.bitmap b (buffer?_of_bitmap? e)
    have reach := (fits.reaches (Int.add_nonneg lo h.length_nonneg) enough).1
    unfold stop at reach
    exact ⟨_, Bytes.getBit_of_nonneg (by omega) (by omega)⟩

/-- Validation is a check of the window, of the null count and of what the layout calls for. -/
lemma validate_eq_ok : c.validate = .ok () ↔
    c.validateWindow = .ok () ∧ c.validateNulls = .ok () ∧ c.validateLayout = .ok () := by
  unfold validate
  rw [Checked.check_bind_eq_ok, Checked.check_bind_eq_ok]

/-- A column with a window that fits passes validation exactly when it is like this. -/
theorem validate_iff (fits : c.Fits) : c.validate = .ok () ↔ c.Passes := by
  rw [validate_eq_ok]
  constructor
  · rintro ⟨window, nulls, layout⟩
    obtain ⟨length, offset, buffers, bitmap⟩ := validateWindow_iff.1 window
    have lo : 0 ≤ c.stop := Int.add_nonneg offset length
    exact ⟨length, offset, buffers, bitmap, validateNulls_iff.1 nulls,
      (validateLayout_iff fits lo).1 layout⟩
  · intro h
    have lo : 0 ≤ c.stop := Int.add_nonneg h.offset_nonneg h.length_nonneg
    exact ⟨validateWindow_iff.2 ⟨h.length_nonneg, h.offset_nonneg, h.buffers, h.bitmap⟩,
      validateNulls_iff.2 h.nulls, (validateLayout_iff fits lo).2 h.layout⟩

end Columnar.Column
