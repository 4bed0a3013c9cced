import Mathlib.Tactic.Common
import Columnar.Proofs.Column.WellFormed
import Columnar.Proofs.DataType.Text

/-!
# Which parts make a dictionary column

A dictionary column is put together of keys and values when they are `Consistent`: the type is a
dictionary type of both their types, and each valid key names a value. Types are compared before any
key is read. After that only a key can be refused, and it is the first that `Offends`, under the
number it stands for in its own type (`encode_consistent`).
-/

namespace Columnar

/-- Whether a type is that of a dictionary column with keys and values of these types. -/
def DataType.Encodes (t key value : DataType) : Prop :=
  ∃ k ordered, t = .dictionary k value ordered ∧ key = .int k

namespace Column
variable {type : DataType} {keys values out : Column} {k : IntKind} {n : Int}

/-- Whether keys and values make a dictionary column of a type: the types go together, and each
valid key can be read and names a value. -/
structure Consistent (type : DataType) (keys values : Column) : Prop where
  encodes : type.Encodes keys.type values.type
  named : ∀ k, keys.type = .int k → ∀ i : Nat, i < keys.length → keys.isValid i = .ok true →
    ∃ v, keys.integer k i = .ok v ∧ 0 ≤ v ∧ v < values.length

/-- Whether slot `i` has the first valid key of kind `k` that names none of `n` values, which
is `v`. -/
structure Offends (keys : Column) (k : IntKind) (n : Int) (i : Nat) (v : Int) : Prop where
  inside : i < keys.length
  valid : keys.isValid i = .ok true
  key : keys.integer k i = .ok v
  outside : v < 0 ∨ n ≤ v
  before : ∀ (j : Nat) u, j < i → keys.isValid j = .ok true → keys.integer k j = .ok u →
    0 ≤ u ∧ u < n

section Scanning

lemma Sound.exists_key {i : Nat} (h : keys.Sound) (integer : keys.type = .int k)
    (hi : i < keys.length) : ∃ v, keys.integer k i = .ok v :=
  h.covered.exists_integer (by rw [integer]; rfl) hi

/-- A check of sound keys passes and all valid keys name values, or it fails at the first one that
does not. -/
lemma checkKeys_cases (hk : keys.Sound) (integer : keys.type = .int k) (short : n < 2 ^ 63) :
    (keys.checkKeys k n = .ok () ∧ keys.KeysBelow k n) ∨
    ∃ i v, keys.Offends k n i v ∧
      keys.checkKeys k n = .error (.encoding (.keyOutOfRange v n)) := by
  rcases foldPositions_cases (fun _ i => keys.checkKey k n i) keys.length.toNat 0 with
    ⟨run, -⟩ | ⟨i, e, -, hi, failed, before, run⟩
  · exact .inl ⟨run, keysBelow_of_checkKeys run⟩
  · refine .inr ?_
    obtain ⟨b, valid⟩ := hk.covered.exists_isValid (i := i) (by omega)
    cases b with
    | false => cases (checkKey_of_null (k := k) (n := n) valid).symm.trans failed
    | true =>
      obtain ⟨v, key⟩ := hk.exists_key integer (i := i) (by omega)
      have outcome := (checkKey_of_valid (n := n) valid key).symm.trans failed
      split at outcome
      · next outside =>
        cases outcome
        refine ⟨i, v, ⟨by omega, valid, key, by omega, fun j u hj valid' key' => ?_⟩, run⟩
        have passed := before j (Nat.zero_le j) hj
        rw [checkKey_of_valid valid' key'] at passed
        split at passed
        · cases passed
        · omega
      · cases outcome

end Scanning

section Typing

/-- Types that do not go together are refused whatever the columns hold. -/
lemma exists_error_of_mismatch {key value : DataType} (mismatch : ¬ type.Encodes key value) :
    ∃ e : EncodingError, e.report.code = .typeError ∧ ∀ keys values : Column, keys.type = key →
      values.type = value → Column.encode? type keys values = .error (.encoding e) := by
  cases type with
  | dictionary k t ordered =>
    by_cases integer : key = .int k
    · have differ : ¬ t = value := by
        rintro rfl
        exact mismatch ⟨k, ordered, rfl, integer⟩
      refine ⟨.valueType t value, rfl, fun keys values typed typed' => ?_⟩
      unfold Column.encode?
      simp only [DataType.equals_iff, typed, typed', integer, not_true_eq_false, if_false]
      rw [if_pos differ]
      rfl
    · refine ⟨.keyType (.int k) key, rfl, fun keys values typed typed' => ?_⟩
      unfold Column.encode?
      simp only [DataType.equals_iff, typed]
      rw [if_pos (Ne.symm integer)]
      rfl
  | _ => exact ⟨.notDictionaryType _, rfl, fun _ _ _ _ => rfl⟩

lemma encode?_of_encodes (h : type.Encodes keys.type values.type) (integer : keys.type = .int k) :
    Column.encode? type keys values = (do
      checkKeys keys k values.length
      return encoded type keys values) := by
  obtain ⟨k', ordered, rfl, integer'⟩ := h
  cases integer.symm.trans integer'
  unfold Column.encode?
  simp only [DataType.equals_iff, integer, not_true_eq_false, if_false]

end Typing

section Encoding

/-- In a valid slot of what is put together stands the position of a value. -/
lemma exists_key_of_encode? (hk : keys.Sound) (short : values.length < 2 ^ 63)
    (run : Column.encode? type keys values = .ok out) {i : Nat} (hi : i < out.length)
    (valid : out.isValid i = .ok true) :
    ∃ v, out.key i = .ok v ∧ 0 ≤ v ∧ v < values.length := by
  obtain ⟨k, value, ordered, rfl, integer, -, checked, rfl⟩ := encode?_eq_ok run
  have alike : (encoded (.dictionary k value ordered) keys values).Alike keys :=
    alike_encoded integer
  rw [alike.isValid] at valid
  obtain ⟨v, key⟩ := hk.exists_key integer (i := i) hi
  obtain ⟨lo, lt⟩ := keysBelow_of_checkKeys checked i v hi valid key
  refine ⟨v, ?_, lo, lt⟩
  have read : (encoded (.dictionary k value ordered) keys values).key i =
      keys.integer k i >>= fun v => .ok ((IntKind.int .w64).wrap v) := rfl
  rw [read, key, Checked.ok_bind, IntKind.wrap_word_of_holds (holds_of_integer key),
    if_pos (by omega)]

end Encoding

/-- Dictionary columns are put together of consistent parts exactly. Types that do not go together
are a type error, whatever the columns hold. Otherwise what fails is the first valid key that names
no value, by its mathematical value. What is put together is the keys with another type and a
dictionary, and each of its valid slots has the position of a value. -/
theorem encode_consistent (type : DataType) (hk : keys.Sound) (short : values.length < 2 ^ 63) :
    ((∃ out, Column.encode? type keys values = .ok out) ↔ Consistent type keys values) ∧
    (¬ type.Encodes keys.type values.type →
      ∃ e : EncodingError, e.report.code = .typeError ∧ ∀ keys' values' : Column,
        keys'.type = keys.type → values'.type = values.type →
          Column.encode? type keys' values' = .error (.encoding e)) ∧
    (∀ e, type.Encodes keys.type values.type → Column.encode? type keys values = .error e →
      ∃ k i v, keys.type = .int k ∧ keys.Offends k values.length i v ∧
        e = .encoding (.keyOutOfRange v values.length) ∧
        (EncodingError.keyOutOfRange v values.length).report.code = .indexError) ∧
    ∀ out, Column.encode? type keys values = .ok out →
      out = { keys with type, dictionary := some values } ∧
      ∀ i : Nat, i < out.length → out.isValid i = .ok true →
        ∃ v, out.key i = .ok v ∧ 0 ≤ v ∧ v < values.length := by
  refine ⟨⟨?_, fun consistent => ?_⟩, fun mismatch => ?_, fun e encodes failed => ?_,
    fun out run => ⟨?_, fun i hi valid => exists_key_of_encode? hk short run hi valid⟩⟩
  · rintro ⟨out, run⟩
    obtain ⟨k, value, ordered, rfl, integer, same, checked, -⟩ := encode?_eq_ok run
    refine ⟨⟨k, ordered, by rw [DataType.equals_iff.1 same], integer⟩,
      fun k' integer' i hi valid => ?_⟩
    cases integer.symm.trans integer'
    obtain ⟨v, key⟩ := hk.exists_key integer hi
    exact ⟨v, key, keysBelow_of_checkKeys checked i v hi valid key⟩
  · obtain ⟨k, ordered, -, integer⟩ := consistent.encodes
    rw [encode?_of_encodes consistent.encodes integer]
    rcases checkKeys_cases hk integer short with ⟨run, -⟩ | ⟨i, v, offends, -⟩
    · exact ⟨_, by rw [run]; rfl⟩
    · obtain ⟨u, key, lo, lt⟩ := consistent.named k integer i offends.inside offends.valid
      cases key.symm.trans offends.key
      have outside := offends.outside
      omega
  · exact exists_error_of_mismatch mismatch
  · obtain ⟨k, ordered, rfl, integer⟩ := id encodes
    rw [encode?_of_encodes encodes integer] at failed
    rcases checkKeys_cases hk integer short with ⟨run, -⟩ | ⟨i, v, offends, run⟩
    · rw [run] at failed
      cases failed
    · rw [run] at failed
      cases failed
      exact ⟨k, i, v, integer, offends, rfl, rfl⟩
  · obtain ⟨k, value, ordered, rfl, -, -, -, rfl⟩ := encode?_eq_ok run
    rfl

/-- A null key may be anything. A key that no signed 64-bit word holds is reported as the unsigned
number that it is, and before the one behind it. -/
theorem encode_consistent_unsigned :
    let values := laidOut .string [some (.bytes #[97]), none] true none
    let type := DataType.dictionary (.uint .w64) .string false
    let keys := { ofInts (.uint .w64) [some 7, some 1, none] with
      offset := 1, length := 2, nullCount := -1 }
    let wrong := ofInts (.uint .w64) [some 0, some (2 ^ 64 - 1), some 2]
    keys.Sound ∧ wrong.Sound ∧ values.length < 2 ^ 63 ∧ Consistent type keys values ∧
      (∃ out v, Column.encode? type keys values = .ok out ∧ out.key 0 = .ok v ∧ 0 ≤ v ∧ v < 2) ∧
      Column.encode? type wrong values = .error (.encoding (.keyOutOfRange (2 ^ 64 - 1) 2)) ∧
      (∃ i, wrong.Offends (.uint .w64) 2 i (2 ^ 64 - 1)) ∧
      ∃ e : EncodingError, e.report.code = .typeError ∧
        Column.encode? .string keys values = .error (.encoding e) := by
  intro values type keys wrong
  have hk : keys.Sound := by decide +kernel
  have hw : wrong.Sound := by decide +kernel
  have short : values.length < 2 ^ 63 := by decide
  have fine : Column.encode? type keys values = .ok (encoded type keys values) := by decide +kernel
  have failed : Column.encode? type wrong values =
      .error (.encoding (.keyOutOfRange (2 ^ 64 - 1) 2)) := by decide +kernel
  obtain ⟨accepts, -, -, made⟩ := encode_consistent type hk short
  obtain ⟨-, refused, -⟩ := encode_consistent .string hk short
  obtain ⟨-, -, first, -⟩ := encode_consistent type hw short
  obtain ⟨v, key, inside⟩ := (made _ fine).2 0 (by decide) (by decide +kernel)
  obtain ⟨k, i, u, integer, offends, same, -⟩ :=
    first _ ⟨.uint .w64, false, rfl, rfl⟩ failed
  obtain ⟨e, code, mismatch⟩ := refused fun encodes => by
    obtain ⟨_, _, dictionary, -⟩ := encodes
    cases dictionary
  cases integer
  obtain rfl : 2 ^ 64 - 1 = u := by
    injection same with same
    injection same with same
    injection same
  exact ⟨hk, hw, short, accepts.1 ⟨_, fine⟩, ⟨_, v, fine, key, inside⟩, failed, ⟨i, offends⟩,
    e, code, mismatch keys values rfl rfl⟩

end Column

end Columnar
