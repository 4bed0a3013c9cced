import Mathlib.Algebra.Field.Rat
import Mathlib.Algebra.GroupWithZero.Basic
import Mathlib.Data.List.Basic
import Mathlib.Tactic.Common
import Mathlib.Tactic.FieldSimp
import Mathlib.Tactic.Ring
import Columnar.Powers
import Columnar.Proofs.Text

/-!
# Numerals

A numeral is a number as it is written: a minus sign or none, digits, and behind a point more digits
or neither. `Numeral.ofText?` reads one, `Numeral.value` is the number that it stands for, and what
was written properly is read back (`Numeral.ofText?_text`).
-/

namespace Columnar.Decimal

/-- A number as it is written: a minus sign or none, digits, and behind a point more digits or
neither. -/
structure Numeral where
  negative : Bool
  whole : List Nat
  fraction : Option (List Nat)
deriving DecidableEq, Repr

/-- The number that digits spell, most significant first. -/
def spelled (digits : List Nat) : Nat := digits.foldl (fun n d => 10 * n + d) 0

section Spelling

/-- Digits with more digits behind them spell as many times a power of ten. -/
lemma spelled_append (a b : List Nat) :
    spelled (a ++ b) = spelled a * 10 ^ b.length + spelled b := by
  have from_any (n : Nat) : b.foldl (fun n d => 10 * n + d) n = n * 10 ^ b.length + spelled b := by
    induction b generalizing n with
    | nil => rw [List.length_nil, Nat.pow_zero, Nat.mul_one]; rfl
    | cons d ds ih =>
      rw [spelled, List.foldl_cons, List.foldl_cons, ih, ih, List.length_cons, Nat.pow_succ]
      ring
  rw [spelled, List.foldl_append, from_any]
  rfl

/-- The digits of a number spell it. -/
lemma spelled_digits (n : Nat) : spelled (Text.digits n) = n := by
  induction n using Nat.strongRecOn with
  | ind n ih =>
    rcases Nat.lt_or_ge n 10 with small | large
    · rw [Text.digits_of_lt small]
      exact Nat.zero_add n
    · have last : spelled [n % 10] = n % 10 := Nat.zero_add _
      rw [Text.digits_of_le large, spelled_append, ih (n / 10) (by omega), last,
        List.length_singleton, Nat.pow_one, Nat.div_add_mod']

lemma spelled_zeros (k : Nat) : spelled (List.replicate k 0) = 0 := by
  induction k with
  | zero => rfl
  | succ k ih => exact ih

end Spelling

namespace Numeral
variable {n : Numeral} {ds : List Nat} {t : Text}

section Reading

/-- Whether a byte is written for a digit. -/
def isDigit (b : UInt8) : Bool := 48 ≤ b && b ≤ 57

/-- The digits that a text is made of. It has to have some and nothing else. -/
def digits? (t : Text) : Option (List Nat) :=
  if t ≠ [] ∧ t.all isDigit then some (t.map fun b => b.toNat - 48) else none

/-- Reads a numeral whose sign is known. -/
def unsigned? (negative : Bool) (t : Text) : Option Numeral := do
  let whole ← digits? (t.takeWhile isDigit)
  match t.dropWhile isDigit with
  | [] => return ⟨negative, whole, none⟩
  | b :: rest => if b = 46 then return ⟨negative, whole, some (← digits? rest)⟩ else none

/-- Reads a numeral: a minus sign or none, digits, and behind a point more digits or neither. -/
def ofText? : Text → Option Numeral
  | [] => none
  | b :: rest => if b = 45 then unsigned? true rest else unsigned? false (b :: rest)

end Reading

/-- The number that a numeral stands for. -/
def value (n : Numeral) : ℚ :=
  let places := n.fraction.getD []
  (if n.negative then -1 else 1) * (spelled n.whole + spelled places / 10 ^ places.length)

/-- How the digits behind a point are written. -/
def fractionText : Option (List Nat) → Text
  | none => []
  | some places => Text.ascii "." ++ places.map Text.digit

/-- How a numeral is written. -/
def text (n : Numeral) : Text :=
  (if n.negative then Text.ascii "-" else []) ++
    (n.whole.map Text.digit ++ fractionText n.fraction)

/-- Whether a numeral has digits where it needs some, and nothing but digits. -/
structure Proper (n : Numeral) : Prop where
  whole_ne : n.whole ≠ []
  whole_lt : ∀ d ∈ n.whole, d < 10
  fraction_ne : n.fraction ≠ some []
  fraction_lt : ∀ places, n.fraction = some places → ∀ d ∈ places, d < 10

section RoundTrip

lemma toNat_digit {d : Nat} (h : d < 10) : (Text.digit d).toNat = 48 + d := by
  rw [Text.digit, UInt8.toNat_ofNat']
  omega

lemma isDigit_digit {d : Nat} (h : d < 10) : isDigit (Text.digit d) = true := by
  have value := toNat_digit h
  rw [isDigit, Bool.and_eq_true, decide_eq_true_iff, decide_eq_true_iff, UInt8.le_iff_toNat_le,
    UInt8.le_iff_toNat_le, value]
  exact ⟨Nat.le_add_right _ _, by change 48 + d ≤ 57; omega⟩

lemma isDigit_of_mem_digits {b : UInt8} (proper : ∀ d ∈ ds, d < 10)
    (mem : b ∈ ds.map Text.digit) : isDigit b = true := by
  obtain ⟨d, hd, rfl⟩ := List.mem_map.1 mem
  exact isDigit_digit (proper d hd)

/-- Digits are read back. -/
lemma digits?_digits (some : ds ≠ []) (proper : ∀ d ∈ ds, d < 10) :
    digits? (ds.map Text.digit) = .some ds := by
  have digits : (ds.map Text.digit).all isDigit = true :=
    List.all_eq_true.2 fun b mem => isDigit_of_mem_digits proper mem
  rw [digits?, if_pos ⟨mt List.map_eq_nil_iff.1 some, digits⟩, List.map_map]
  refine congrArg Option.some ((List.map_congr_left fun d hd => ?_).trans (List.map_id ds))
  rw [Function.comp_apply, toNat_digit (proper d hd), Nat.add_sub_cancel_left, id]

/-- Reading digits stops behind the last of them. -/
lemma takeWhile_digits (proper : ∀ d ∈ ds, d < 10) (stops : t.takeWhile isDigit = []) :
    (ds.map Text.digit ++ t).takeWhile isDigit = ds.map Text.digit := by
  rw [List.takeWhile_append_of_pos fun b mem => isDigit_of_mem_digits proper mem, stops,
    List.append_nil]

lemma dropWhile_digits (proper : ∀ d ∈ ds, d < 10) (stops : t.dropWhile isDigit = t) :
    (ds.map Text.digit ++ t).dropWhile isDigit = t := by
  rw [List.dropWhile_append_of_pos fun b mem => isDigit_of_mem_digits proper mem, stops]

/-- What is written behind the sign is read back. -/
lemma unsigned?_text (h : n.Proper) :
    unsigned? n.negative (n.whole.map Text.digit ++ fractionText n.fraction) = some n := by
  obtain ⟨negative, whole, fraction⟩ := n
  have read := digits?_digits h.whole_ne h.whole_lt
  have stops : (fractionText fraction).takeWhile isDigit = [] ∧
      (fractionText fraction).dropWhile isDigit = fractionText fraction := by
    cases fraction with
    | none => exact ⟨rfl, rfl⟩
    | some places => exact ⟨rfl, rfl⟩
  rw [unsigned?, takeWhile_digits h.whole_lt stops.1, dropWhile_digits h.whole_lt stops.2, read]
  cases fraction with
  | none => rfl
  | some places =>
    have nonempty : places ≠ [] := fun e => h.fraction_ne (congrArg some e)
    have read := digits?_digits nonempty (h.fraction_lt places rfl)
    have point : fractionText (some places) = 46 :: places.map Text.digit := rfl
    simp only [point, Option.bind_eq_bind, Option.bind_some, if_true, read]
    rfl

/-- A numeral is read back from how it is written. -/
lemma ofText?_text (h : n.Proper) : ofText? n.text = some n := by
  obtain ⟨negative, whole, fraction⟩ := n
  cases negative with
  | true => exact unsigned?_text h
  | false =>
    obtain ⟨d, ds, rfl⟩ := List.exists_cons_of_ne_nil h.whole_ne
    have digit := toNat_digit (h.whole_lt d List.mem_cons_self)
    have unsigned : Text.digit d ≠ 45 := by
      intro e
      rw [e] at digit
      change 45 = 48 + d at digit
      omega
    exact (if_neg unsigned).trans (unsigned?_text h)

end RoundTrip

/-- A numeral is written with digits, a minus sign and a point. -/
lemma byte_of_mem_text (h : n.Proper) {b : UInt8} (mem : b ∈ n.text) :
    b = 45 ∨ b = 46 ∨ isDigit b = true := by
  obtain ⟨negative, whole, fraction⟩ := n
  rcases List.mem_append.1 mem with sign | mem
  · cases negative with
    | true => exact .inl (List.mem_singleton.1 sign)
    | false => cases sign
  rcases List.mem_append.1 mem with digit | mem
  · exact .inr (.inr (isDigit_of_mem_digits h.whole_lt digit))
  cases fraction with
  | none => cases mem
  | some places =>
    rcases List.mem_cons.1 mem with point | digit
    · exact .inr (.inl point)
    · exact .inr (.inr (isDigit_of_mem_digits (h.fraction_lt places rfl) digit))

/-- A numeral stands for what all of its digits spell, divided by a power of ten. -/
lemma value_eq (n : Numeral) : n.value = (if n.negative then -1 else 1) *
    (spelled (n.whole ++ n.fraction.getD []) / 10 ^ (n.fraction.getD []).length : ℚ) := by
  rw [value, spelled_append]
  push_cast
  field_simp

/-- Whether a numeral spells an unscaled integer at a scale: its value is exact, it has a sign if
it is negative, as many digits behind a point as the scale says and no point if it says none, and
no zero in front that is not the only digit there. -/
structure Spells (n : Numeral) (unscaled scale : Int) : Prop where
  value : n.value = unscaled * (10 : ℚ) ^ (-scale)
  sign : n.negative = true ↔ unscaled < 0
  places : 0 < scale → ∃ ds, n.fraction = some ds ∧ (ds.length : Int) = scale
  pointless : scale ≤ 0 → n.fraction = none
  leading : 0 ≤ scale → n.whole.head? = some 0 → n.whole = [0]

end Numeral

end Columnar.Decimal
