import Mathlib.Tactic.Common
import Columnar.Bits.Count
import Columnar.Proofs.Bits.Bitmap
import Columnar.Proofs.Bits.Rounding

/-!
# Counting bits is exact

`Bytes.ones` counts the set bits of a window one position at a time. The count by single bits and
64-bit words comes to the same number, and reads nothing outside the bytes that hold the window
(`Bytes.countSetBits_exact`). Over any window and any memory a count that comes to its end at all is
at most the length of the window (`Bytes.countSetBits_le`).
-/

namespace Columnar.Bytes
variable {b : Bytes} {start n : Nat}

/-- The number of set bits among the `n` bits from `start`. -/
def ones (b : Bytes) (start n : Nat) : Nat := (List.range' start n).countP b.bit

lemma ones_add (b : Bytes) (start m n : Nat) :
    b.ones start (m + n) = b.ones start m + b.ones (start + m) n := by
  rw [ones, ones, ones, ← List.countP_append, List.range'_append_1]

lemma ones_succ (b : Bytes) (start n : Nat) :
    b.ones start (n + 1) = b.ones start n + (b.bit (start + n)).toNat := by
  have last : b.ones (start + n) 1 = (b.bit (start + n)).toNat := by
    rw [ones, List.range'_one, List.countP_singleton]
    cases b.bit (start + n) <;> rfl
  rw [ones_add, last]

lemma ones_le (b : Bytes) (start n : Nat) : b.ones start n ≤ n := by
  have le := List.countP_le_length (p := b.bit) (l := List.range' start n)
  rwa [List.length_range'] at le

lemma countBits_eq (h : start + n ≤ 8 * b.size) : b.countBits start n = .ok (b.ones start n) := by
  obtain ⟨count, run, inv⟩ := foldPositions_inv (fun p count => count = b.ones start p)
    (f := fun count i => return count + (← b.getBit (start + i)).toNat) (n := n) (i := 0) (s := 0)
    rfl (by
      intro p count _ hp inv
      have place : (start : Int) + p = (start + p : Nat) := by omega
      refine ⟨b.ones start (p + 1), ?_, rfl⟩
      rw [place, getBit_eq (by omega), inv, ones_succ]
      rfl)
  rw [countBits, run, inv, Nat.zero_add]

/-- The bits of a number that bytes spell are those of the bytes. -/
lemma testBit_toNat (bytes : List UInt8) (i : Nat) :
    (toNat bytes).testBit i = (bytes.getD (i / 8) 0).toNat.testBit (i % 8) := by
  induction bytes generalizing i with
  | nil =>
    rw [toNat, List.foldr_nil, Nat.zero_testBit, List.getD_nil]
    exact (Nat.zero_testBit _).symm
  | cons byte bytes ih =>
    -- The first byte holds bits below eight, and all others move down by as many.
    have spelled : toNat (byte :: bytes) = 2 ^ 8 * toNat bytes + byte.toNat := by
      rw [toNat, List.foldr_cons, Nat.add_comm]
      rfl
    rw [spelled, Nat.testBit_two_pow_mul_add _ byte.toNat_lt]
    by_cases low : i < 8
    · have zero : i / 8 = 0 := by omega
      have rest : i % 8 = i := by omega
      rw [if_pos low, zero, rest, List.getD_cons_zero]
    · have succ : i / 8 = (i - 8) / 8 + 1 := by omega
      have rest : i % 8 = (i - 8) % 8 := by omega
      rw [if_neg low, succ, rest, List.getD_cons_succ, ih]

/-- The set bits of a word are those of its eight bytes. -/
lemma popCount_word (h : start + 8 ≤ b.size) :
    ∃ w, b.word start 8 = .ok w ∧ popCount (UInt64.ofNat w) = b.ones (8 * start) 64 := by
  refine ⟨toNat (b.extract start (start + 8)).toList, ?_, ?_⟩
  · have read := span_eq (n := 8) h
    rw [word, show ((8 : Nat) : Int) = 8 from rfl] at *
    rw [read]
    rfl
  · rw [popCount, ones, List.range'_eq_map_range, List.countP_map]
    apply List.countP_congr
    intro i hi
    rw [List.mem_range] at hi
    have byte : (8 * start + i) / 8 = start + i / 8 := by omega
    have low : (8 * start + i) % 8 = i % 8 := by omega
    rw [Function.comp_apply, UInt64.toNat_ofNat', Nat.testBit_mod_two_pow, testBit_toNat,
      bit_eq (by omega), List.getD_eq_getElem _ _ (by simp; omega)]
    simp [hi, byte, low]

lemma countWords_eq (h : start + 8 * n ≤ b.size) :
    b.countWords start n = .ok (b.ones (8 * start) (64 * n)) := by
  obtain ⟨count, run, inv⟩ := foldPositions_inv
    (fun p count => count = b.ones (8 * start) (64 * p))
    (f := fun count i =>
      return count + popCount (UInt64.ofNat (← b.word (start + 8 * i) 8)))
    (n := n) (i := 0) (s := 0) rfl (by
      intro p count _ hp inv
      have place : (start : Int) + 8 * p = (start + 8 * p : Nat) := by omega
      have inside : start + 8 * p + 8 ≤ b.size := by omega
      obtain ⟨w, read, ones⟩ := popCount_word inside
      refine ⟨b.ones (8 * start) (64 * (p + 1)), ?_, rfl⟩
      rw [place, read, inv, Nat.mul_add, ones_add, Checked.ok_bind, ones]
      have next : 8 * (start + 8 * p) = 8 * start + 64 * p := by omega
      rw [next]
      rfl)
  rw [countWords, run, inv, Nat.zero_add]

/-- The count in three parts is the count of the window. -/
theorem countSetBits_eq {offset length : Nat} (h : offset + length ≤ 8 * b.size)
    (fits : offset + 64 ≤ 2 ^ 63) : b.countSetBits offset length = .ok (b.ones offset length) := by
  have aligned := Rounding.toInt_roundUp (n := offset) (k := 6) fits
  rw [show Int64.ofInt (2 ^ 6 : Nat) = 64 from rfl] at aligned
  set a := (offset + (2 ^ 6 - 1)) / 2 ^ 6 * 2 ^ 6 with ha
  have le : offset ≤ a := by omega
  unfold countSetBits
  simp only [aligned]
  -- Either the window reaches the next whole word, or single bits are all there is to it.
  by_cases inside : a ≤ offset + length
  · have head : min (length : Int) (a - offset) = (a - offset : Nat) := by omega
    obtain ⟨w, hw⟩ : ∃ w, w = (length - (a - offset)) / 64 := ⟨_, rfl⟩
    have words : ((length : Int) - (a - offset : Nat)) / 64 = (w : Nat) := by omega
    have first : (a : Int) / 8 = (a / 8 : Nat) := by omega
    have last : (a : Int) + (w : Nat) * 64 = (a + w * 64 : Nat) := by omega
    have left : ((offset : Int) + length - (a + w * 64 : Nat)).toNat =
        offset + length - (a + w * 64) := by omega
    rw [head, words, first, last, left, Int.toNat_natCast, Int.toNat_natCast,
      countBits_eq (by omega), countWords_eq (by omega), countBits_eq (by omega)]
    have split : length = (a - offset) + (64 * w + (offset + length - (a + w * 64))) := by omega
    have second : offset + (a - offset) = 8 * (a / 8) := by omega
    have third : 8 * (a / 8) + 64 * w = a + w * 64 := by omega
    conv_rhs => rw [split, ones_add, ones_add, second, third]
    simp only [Checked.ok_bind, Checked.pure_eq_ok, Nat.add_assoc]
  · have head : min (length : Int) (a - offset) = length := by omega
    have words : (((length : Int) - length) / 64).toNat = 0 := by omega
    have left :
        ((offset : Int) + length - (a + ((length : Int) - length) / 64 * 64)).toNat = 0 := by
      omega
    rw [head, words, left, Int.toNat_natCast, countBits_eq h]
    simp [countBits, countWords, foldPositions]

/-- Counting no bits looks at none, wherever they would be. -/
lemma countSetBits_zero {offset : Nat} (fits : offset + 64 ≤ 2 ^ 63) :
    b.countSetBits offset 0 = .ok 0 := by
  have aligned := Rounding.toInt_roundUp (n := offset) (k := 6) fits
  rw [show Int64.ofInt (2 ^ 6 : Nat) = 64 from rfl] at aligned
  set a := (offset + (2 ^ 6 - 1)) / 2 ^ 6 * 2 ^ 6 with ha
  have head : min 0 ((a : Int) - offset) = 0 := by omega
  have behind : ((offset : Int) + 0 - (a + (0 - 0) / 64 * 64)).toNat = 0 := by omega
  unfold countSetBits
  simp only [aligned]
  rw [head, behind]
  rfl

section Bounds

/-- At most all bits of a stretch are counted, wherever it lies. -/
lemma countBits_le {start : Int} {n k : Nat} (run : b.countBits start n = .ok k) : k ≤ n := by
  have inv := inv_of_foldPositions (fun p count => count ≤ p) run (Nat.le_refl 0) (by
    intro p count next visited le
    obtain ⟨bit, -, next⟩ := Checked.bind_eq_ok.1 visited
    cases next
    have one := bit.toNat_le
    omega)
  rwa [Nat.zero_add] at inv

lemma popCount_le (word : UInt64) : popCount word ≤ 64 := by
  have le := List.countP_le_length (p := fun i => word.toNat.testBit i) (l := List.range 64)
  rwa [List.length_range] at le

lemma countWords_le {start : Int} {n k : Nat} (run : b.countWords start n = .ok k) :
    k ≤ 64 * n := by
  have inv := inv_of_foldPositions (fun p count => count ≤ 64 * p) run (Nat.le_refl 0) (by
    intro p count next visited le
    obtain ⟨word, -, next⟩ := Checked.bind_eq_ok.1 visited
    cases next
    have few := popCount_le (UInt64.ofNat word)
    omega)
  rwa [Nat.zero_add] at inv

/-- Words that are counted do not begin in front of the memory. -/
lemma nonneg_of_countWords {start : Int} {n k : Nat} (run : b.countWords start n = .ok k)
    (pos : 0 < n) : 0 ≤ start := by
  by_contra before
  obtain ⟨m, rfl⟩ := Nat.exists_eq_succ_of_ne_zero (Nat.ne_of_gt pos)
  have outside : b.span (start + 8 * (0 : Nat)) (8 : Nat) = .error .stray := by
    rw [span, if_neg (by decide), if_neg (by omega)]
    rfl
  rw [countWords, foldPositions, word, outside] at run
  cases run

/-- The 64-bit boundary behind an offset. Where it would leave the word it is the least number. -/
lemma boundary_cases {offset : Nat} (word : offset < 2 ^ 63) :
    (Rounding.roundUp (Int64.ofInt offset) 64).toInt = ((offset + 63) / 64 * 64 : Nat) ∨
      (Rounding.roundUp (Int64.ofInt offset) 64).toInt = -2 ^ 63 := by
  by_cases fits : offset + 64 ≤ 2 ^ 63
  · exact .inl (Rounding.toInt_roundUp (k := 6) fits)
  · right
    have whole := Rounding.toNat_roundUp (n := offset) (k := 6) (by omega)
    rw [show Int64.ofInt (2 ^ 6 : Nat) = 64 from rfl] at whole
    rw [← Int64.toInt_toBitVec, BitVec.toInt_eq_toNat_cond, whole]
    omega

/-- A count that comes to its end is not larger than its window, wherever the window lies. -/
lemma countSetBits_le {offset length : Int} {k : Nat} (lo : 0 ≤ offset) (word : offset < 2 ^ 63)
    (nonneg : 0 ≤ length) (run : b.countSetBits offset length = .ok k) : (k : Int) ≤ length := by
  obtain ⟨o, rfl⟩ := Int.eq_ofNat_of_zero_le lo
  unfold countSetBits at run
  simp only [Checked.bind_eq_ok] at run
  obtain ⟨inHead, head, inWords, words, inTail, tail, sum⟩ := run
  cases sum
  have headLe := countBits_le head
  have wordsLe := countWords_le words
  have tailLe := countBits_le tail
  rcases boundary_cases (Int.ofNat_lt.1 word) with boundary | wrapped
  · rw [boundary] at headLe wordsLe tailLe
    omega
  · -- The words would begin in front of the memory, so this count does not come to its end.
    rw [wrapped] at words
    have inside := nonneg_of_countWords words (by omega)
    exact absurd inside (by decide)

end Bounds

/-- The count of single bits says how many of them are read as set. -/
lemma ones_eq_countP_getBit (h : start + n ≤ 8 * b.size) :
    b.ones start n = (List.range' start n).countP fun p : Nat => b.getBit p = .ok true := by
  refine List.countP_congr fun p mem => ?_
  have reach := List.mem_range'_1.1 mem
  rw [getBit_eq (by omega), decide_eq_true_iff, Except.ok.injEq]

/-- Counting comes to the number of bits that are read as set one at a time. Where it reads depends
on the window only, and it reads nothing behind the bytes that hold the window: a word that reached
further would go astray in a memory that ends with them. -/
theorem countSetBits_exact {offset length : Nat} (inside : offset + length ≤ 8 * b.size)
    (fits : offset + length < 2 ^ 63 - 64) :
    b.countSetBits offset length =
        .ok ((List.range' offset length).countP fun p : Nat => b.getBit p = .ok true) ∧
      countSetBits (b.extract 0 (Rounding.byteCount (offset + length : Nat)).toNat) offset length =
        b.countSetBits offset length := by
  have whole := countSetBits_eq inside (by omega)
  refine ⟨by rw [whole, ones_eq_countP_getBit inside], ?_⟩
  rw [Rounding.byteCount_eq (by omega), Int.toNat_natCast]
  set m := (offset + length + 7) / 8 with hm
  have size : (b.extract 0 m).size = m := by
    rw [Array.size_extract]
    omega
  rw [whole, countSetBits_eq (by omega) (by omega)]
  congr 1
  refine List.countP_congr fun p mem => ?_
  have reach := List.mem_range'_1.1 mem
  rw [bit_eq (by omega), bit_eq (by omega), Array.getElem_extract]
  simp only [Nat.zero_add]

/-- A window with a head of single bits, a word and a tail. -/
theorem countSetBits_exact_window :
    let b : Bytes := Array.replicate 17 0xA5
    3 + 130 ≤ 8 * b.size ∧ 3 + 130 < 2 ^ 63 - 64 ∧ b.countSetBits 3 130 = .ok 64 ∧
      countSetBits (b.extract 0 (Rounding.byteCount 133).toNat) 3 130 = .ok 64 := by
  intro b
  have inside : 3 + 130 ≤ 8 * b.size := by decide
  obtain ⟨count, reads⟩ := countSetBits_exact inside (by decide)
  have bits : ((List.range' 3 130).countP fun p : Nat => b.getBit p = .ok true) = 64 := by
    decide +kernel
  rw [bits] at count
  exact ⟨inside, by decide, count, reads.trans count⟩

end Columnar.Bytes
