import Mathlib.Data.List.Basic
import Mathlib.Tactic.Common
import Columnar.Text

/-!
# Numbers are read back from their text

Decimal text determines the number that it spells (`Text.ofInt_injective`), and is made of digits
and a minus sign only, so what stands behind a number cannot be taken for a part of it. Hexadecimal
text determines the bytes that it spells (`Text.upperHex_injective`).
-/

namespace Columnar.Text

/-- The number that decimal digits spell. -/
def number (t : Text) : Nat := Nat.ofDigitChars 10 (t.map fun b => Char.ofNat b.toNat) 0

/-- Whether a byte may stand in a number: a digit or a minus sign. -/
def isNumeric (b : UInt8) : Bool := b == 45 || (48 ≤ b && b ≤ 57)

/-- A decimal digit is written as its character. -/
lemma toNat_digit {c : Char} (h : c.isDigit = true) :
    (digit (c.toNat - 48)).toNat = c.toNat ∧ 48 ≤ c.toNat ∧ c.toNat ≤ 57 := by
  obtain ⟨lo, hi⟩ := Char.isDigit_iff_toNat.1 h
  have lo : 48 ≤ c.toNat := lo
  have hi : c.toNat ≤ 57 := hi
  refine ⟨?_, lo, hi⟩
  rw [digit, UInt8.toNat_ofNat']
  omega

/-- The digits of a number spell it. -/
lemma number_ofNat (n : Nat) : number (ofNat n) = n := by
  have read : (ofNat n).map (fun b => Char.ofNat b.toNat) = Nat.toDigits 10 n := by
    rw [ofNat, digits, List.map_map, List.map_map]
    refine (List.map_congr_left fun c hc => ?_).trans (List.map_id _)
    have isDigit := Nat.isDigit_of_mem_toDigits (by decide) (by decide) hc
    rw [Function.comp_apply, Function.comp_apply, (toNat_digit isDigit).1, Char.ofNat_toNat]
    rfl
  rw [number, read, Nat.ofDigitChars_toDigits (by decide) (by decide)]

lemma ofNat_injective {m n : Nat} (h : ofNat m = ofNat n) : m = n := by
  rw [← number_ofNat m, h, number_ofNat]

lemma digit_of_mem_ofNat {n : Nat} {b : UInt8} (h : b ∈ ofNat n) : 48 ≤ b ∧ b ≤ 57 := by
  rw [ofNat, digits, List.map_map] at h
  obtain ⟨c, hc, rfl⟩ := List.mem_map.1 h
  obtain ⟨same, lo, hi⟩ := toNat_digit (Nat.isDigit_of_mem_toDigits (by decide) (by decide) hc)
  rw [Function.comp_apply, UInt8.le_iff_toNat_le, UInt8.le_iff_toNat_le, same]
  exact ⟨lo, hi⟩

lemma isNumeric_of_mem_ofNat {n : Nat} {b : UInt8} (h : b ∈ ofNat n) : isNumeric b = true := by
  obtain ⟨lo, hi⟩ := digit_of_mem_ofNat h
  simp [isNumeric, lo, hi]

lemma isNumeric_of_mem_ofInt {v : Int} {b : UInt8} (h : b ∈ ofInt v) : isNumeric b = true := by
  cases v with
  | ofNat n => exact isNumeric_of_mem_ofNat h
  | negSucc n =>
    rcases List.mem_append.1 h with sign | digits
    · obtain rfl : b = 45 := List.mem_singleton.1 sign
      rfl
    · exact isNumeric_of_mem_ofNat digits

/-- No number that is not negative begins with a minus sign. -/
lemma ofNat_ne_minus {m n : Nat} : ofNat m ≠ ascii "-" ++ ofNat n := by
  intro e
  have sign : (45 : UInt8) ∈ ofNat m := by
    rw [e]
    exact List.mem_append_left _ (List.mem_singleton.2 rfl)
  exact absurd (digit_of_mem_ofNat sign).1 (by decide)

lemma ofInt_injective {u v : Int} (h : ofInt u = ofInt v) : u = v := by
  cases u with
  | ofNat m =>
    cases v with
    | ofNat n => rw [ofNat_injective h]
    | negSucc n => exact absurd h ofNat_ne_minus
  | negSucc m =>
    cases v with
    | ofNat n => exact absurd h.symm ofNat_ne_minus
    | negSucc n => rw [Nat.succ.inj (ofNat_injective (List.append_cancel_left h))]

section Digits
variable {n d : Nat}

lemma digits_of_lt (h : n < 10) : digits n = [n] := by
  rw [digits, Nat.toDigits_of_lt_base h, List.map_singleton, Nat.toNat_digitChar_of_lt_ten h,
    Nat.add_sub_cancel_left]

/-- The last digit is the remainder, and the digits before it are those of the quotient. -/
lemma digits_of_le (h : 10 ≤ n) : digits n = digits (n / 10) ++ [n % 10] := by
  rw [digits, Nat.toDigits_of_base_le (by decide) h, List.map_append, List.map_singleton,
    Nat.toNat_digitChar_of_lt_ten (Nat.mod_lt n (by decide)), Nat.add_sub_cancel_left]
  rfl

lemma digits_ne_nil (n : Nat) : digits n ≠ [] := by
  rw [digits, ne_eq, List.map_eq_nil_iff]
  exact Nat.toDigits_ne_nil

lemma lt_ten_of_mem_digits (h : d ∈ digits n) : d < 10 := by
  obtain ⟨c, hc, rfl⟩ := List.mem_map.1 h
  have bounds := toNat_digit (Nat.isDigit_of_mem_toDigits (by decide) (by decide) hc)
  omega

/-- Only the digits of zero begin with a zero. -/
lemma eq_zero_of_head_digits (h : (digits n).head? = some 0) : n = 0 := by
  induction n using Nat.strongRecOn with
  | ind n ih =>
    rcases Nat.lt_or_ge n 10 with small | large
    · rw [digits_of_lt small] at h
      exact Option.some.inj h
    · rw [digits_of_le large, List.head?_append_of_ne_nil _ (digits_ne_nil _)] at h
      have zero := ih (n / 10) (by omega) h
      omega

end Digits

section Hexadecimal
variable {a b d : Nat} {x y : UInt8} {xs ys : List UInt8}

lemma upperHexDigit_injective (ha : a < 16) (hb : b < 16)
    (h : upperHexDigit a = upperHexDigit b) : a = b := by
  have apart : ∀ a < 16, ∀ b < 16, upperHexDigit a = upperHexDigit b → a = b := by decide
  exact apart a ha b hb h

/-- The upper and the lower half of a byte are told apart by their digits. -/
lemma upperHexByte_injective (h : upperHexByte x = upperHexByte y) : x = y := by
  have small := x.toNat_lt
  have small' := y.toNat_lt
  injection h with upper rest
  injection rest with lower
  have upper := upperHexDigit_injective (by omega) (by omega) upper
  have lower := upperHexDigit_injective (by omega) (by omega) lower
  exact UInt8.toNat_inj.1 (by omega)

lemma upperHex_cons : upperHex (x :: xs) = upperHexByte x ++ upperHex xs := List.flatMap_cons

/-- Every byte takes two digits, so bytes are told apart one by one. -/
lemma upperHex_injective (h : upperHex xs = upperHex ys) : xs = ys := by
  induction xs generalizing ys with
  | nil =>
    cases ys with
    | nil => rfl
    | cons y ys => cases h
  | cons x xs ih =>
    cases ys with
    | nil => cases h
    | cons y ys =>
      rw [upperHex_cons, upperHex_cons] at h
      obtain ⟨first, rest⟩ := List.append_inj h rfl
      rw [upperHexByte_injective first, ih rest]

lemma exists_digit_of_mem_upperHex (h : x ∈ upperHex xs) : ∃ d < 16, x = upperHexDigit d := by
  obtain ⟨y, -, mem⟩ := List.mem_flatMap.1 h
  have small := y.toNat_lt
  rcases List.mem_cons.1 mem with upper | lower
  · exact ⟨_, by omega, upper⟩
  · exact ⟨_, by omega, List.mem_singleton.1 lower⟩

end Hexadecimal
end Columnar.Text
