import Mathlib.Tactic.Common
import Columnar.Print.Column
import Columnar.Proofs.Column.LaidOut
import Columnar.Proofs.Decimal.Scaled

/-!
# What is printed for a slot

A slot that can be read is printed as the text for null or as the text of its value, and is never
cut (`Print.slot_eq`), as long as the zeros that its type appends can be counted
(`DataType.scaleFits`). The text of a decimal is exact (`Print.decimal_exact`).
-/

namespace Columnar

/-- Whether the zeros that a type appends to its values can be counted. Those of a decimal type
cannot if its scale is the least 32-bit word. -/
def DataType.scaleFits : DataType → Bool
  | .decimal128 _ scale => -2 ^ 31 < scale
  | _ => true

namespace Print
variable {c : Column} {options : PrintOptions} {i : Int} {x : Cell} {s : Option Cell}

/-- What a slot of a type is shown as. -/
def slotText (options : PrintOptions) (t : DataType) : Option Cell → Text
  | none => options.nullText
  | some x => value t (t.valueOf x)

section Slots

lemma value_eq (plain : c.type.isDictionary = false) (h : c.cell i = .ok x) :
    c.value i = .ok (c.type.valueOf x) := by
  unfold Column.value
  cases type : c.type with
  | dictionary =>
    rw [type] at plain
    cases plain
  | _ => rw [h]; rfl

lemma checkScale_eq {t : DataType} (h : t.scaleFits = true) : checkScale t = .ok () := by
  cases t with
  | decimal128 precision scale =>
    have word := of_decide_eq_true h
    have counted := (Decimal.zeros_nonneg_iff (Int.le_of_lt word)).2 word
    exact if_neg (Int.not_lt.2 counted)
  | _ => rfl

/-- A cell that can be read is printed as its value: what was read has no negative length. -/
lemma cell_eq (plain : c.type.isDictionary = false) (scale : c.type.scaleFits = true)
    (h : c.cell i = .ok x) :
    cell c i = .ok (.ofText (value c.type (c.type.valueOf x))) := by
  have shown : (do
      let read ← c.value i
      checkScale c.type
      return .ofText (value c.type read) : Checked Printout) =
        .ok (.ofText (value c.type (c.type.valueOf x))) := by
    rw [value_eq plain h, Checked.ok_bind, checkScale_eq scale]
    rfl
  unfold cell
  cases layout : c.type.layout with
  | strings w =>
    obtain ⟨-, b, -, length, -, -⟩ := Column.string_of_cell layout h
    have nonneg : ¬ (c.type.isText = true ∧ (b.size : Int) < 0) := by omega
    simp only [length, Checked.ok_bind, if_neg nonneg]
    exact shown
  | _ => exact shown

/-- A slot that can be read is printed as what it is shown as. -/
lemma slot_eq (plain : c.type.isDictionary = false) (scale : c.type.scaleFits = true)
    (h : c.slot i = .ok s) : slot options c i = .ok (.ofText (slotText options c.type s)) := by
  unfold slot
  rcases Column.slot_eq_ok.1 h with ⟨null, rfl⟩ | ⟨x, valid, cell, rfl⟩
  · rw [null]
    rfl
  · rw [valid]
    exact cell_eq plain scale cell

end Slots

section Decimals
variable {precision scale : Int} {bytes : Bytes}

/-- The sixteen bytes of a decimal are its unscaled integer in two's complement. -/
lemma exists_unscaled (precision scale : Int) (size : bytes.size = 16) :
    ∃ raw : Int, -2 ^ 127 ≤ raw ∧ raw < 2 ^ 127 ∧ bytes = Bytes.ofInt 16 raw ∧
      (DataType.decimal128 precision scale).valueOfBytes bytes = .decimal raw := by
  have small := Bytes.toNat_lt bytes.toList
  rw [Array.length_toList, size] at small
  refine ⟨(Bytes.toNat bytes.toList : Int).bmod (2 ^ 128), ?_, ?_, ?_, rfl⟩
  · exact Int.le_bmod (by decide)
  · exact Int.bmod_lt (by decide)
  · have same : (Bytes.toNat bytes.toList : Int).bmod (2 ^ 128) % (256 ^ bytes.size : Nat) =
        Bytes.toNat bytes.toList := by
      rw [size]
      exact Int.bmod_emod.trans (Int.emod_eq_of_lt (by omega) (by omega))
    have spelled := Bytes.ofInt_of_emod same
    rw [size] at spelled
    exact spelled.symm

/-- The text of a slot of a decimal column is exact. Its sixteen bytes are the unscaled integer in
two's complement, and the text reads as a numeral that spells this integer at the scale of the
type. So two slots of one type are printed alike exactly if their bytes are the same. The zeros that
the scale appends have to be a number of 32 bits. -/
theorem decimal_exact (type : c.type = .decimal128 precision scale) (word : -2 ^ 31 < scale)
    (stored : c.cell i = .ok (.bytes bytes)) :
    ∃ (raw : Int) (n : Decimal.Numeral),
      -2 ^ 127 ≤ raw ∧ raw < 2 ^ 127 ∧ bytes = Bytes.ofInt 16 raw ∧
      c.value i = .ok (.decimal raw) ∧
      cell c i = .ok (.ofText (Decimal.scaled raw scale)) ∧
      Decimal.Numeral.ofText? (Decimal.scaled raw scale) = some n ∧ n.Spells raw scale ∧
      ∀ (d : Column) (j : Int) (other : Bytes), d.type = c.type →
        d.cell j = .ok (.bytes other) → (cell d j = cell c i ↔ other = bytes) := by
  have plain : c.type.isDictionary = false := by rw [type]; rfl
  have fits : c.type.scaleFits = true := by
    rw [type]
    exact decide_eq_true word
  have sixteen {d : Column} {j : Int} {other : Bytes} (same : d.type = c.type)
      (stored : d.cell j = .ok (.bytes other)) : other.size = 16 := by
    have fits := Column.fits_of_cell stored
    rw [same, type] at fits
    exact fits
  have printed {d : Column} {j : Int} {other : Bytes} {v : Int} (same : d.type = c.type)
      (stored : d.cell j = .ok (.bytes other))
      (value : (DataType.decimal128 precision scale).valueOfBytes other = .decimal v) :
      cell d j = .ok (.ofText (Decimal.scaled v scale)) := by
    rw [cell_eq (same ▸ plain) (same ▸ fits) stored, same, type, DataType.valueOf, value]
    rfl
  obtain ⟨raw, lo, hi, spelled, value⟩ := exists_unscaled precision scale
    (sixteen rfl stored)
  refine ⟨raw, _, lo, hi, spelled, ?_, printed rfl stored value, Decimal.ofText?_scaled raw scale,
    Decimal.spells_numeral raw word, fun d j other same stored' => ?_⟩
  · rw [value_eq plain stored, type, DataType.valueOf, value]
  · obtain ⟨v, -, -, spelled', value'⟩ := exists_unscaled precision scale
      (sixteen same stored')
    rw [printed rfl stored value, printed same stored' value']
    constructor
    · intro alike
      have integers := Decimal.scaled_injective word (congrArg Printout.text (Except.ok.inj alike))
      rw [spelled, spelled', integers]
    · rintro rfl
      rw [Value.decimal.inj (value'.symm.trans value)]

/-- The least unscaled integer at a scale that leaves no digit in front of the point. -/
theorem decimal_exact_least :
    let bytes := Bytes.ofInt 16 (-2 ^ 127)
    let c := Column.laidOut (.decimal128 38 39) [none, some (.bytes bytes)] true none
    c.type = .decimal128 38 39 ∧ c.cell 1 = .ok (.bytes bytes) ∧
      cell c 1 = .ok (.ofText (Text.ascii "-0.170141183460469231731687303715884105728")) ∧
      (cell c 0 = cell c 1 ↔ Bytes.zeros 16 = bytes) := by
  intro bytes c
  have stored : c.cell 1 = .ok (.bytes bytes) := by decide +kernel
  have cleared : c.cell 0 = .ok (.bytes (Bytes.zeros 16)) := by decide +kernel
  obtain ⟨raw, -, -, -, -, value, printed, -, -, alike⟩ := decimal_exact rfl (by decide) stored
  have least : c.value 1 = .ok (.decimal (-2 ^ 127)) := by decide +kernel
  obtain rfl := Value.decimal.inj (Except.ok.inj (value.symm.trans least))
  have text : Decimal.scaled (-2 ^ 127) 39 =
      Text.ascii "-0.170141183460469231731687303715884105728" := by decide +kernel
  rw [text] at printed
  exact ⟨rfl, stored, printed, alike c 0 _ rfl cleared⟩

end Decimals

end Print

end Columnar
