import Mathlib.Tactic.Common
import Mathlib.Order.Bounds.Basic
import Columnar.Proofs.Memory.Buffer

/-!
# Allocation over every word

The size of a buffer and the length of a bitmap are any words of 64 bits. A request is either turned
down before the pool hears of it (`Pooled.Rejects`), or put to the pool once, with one exact number
of bytes (`Pooled.Fetches`).

Main statements: `Buffer.allocate_of_word` says which sizes are turned down and with which code, and
what comes of the rest. `Buffer.allocateBitmap_of_word` does so for bitmaps. Their length is looked
at only as a number of bytes, and the seven lengths from -7 to -1 need none: each of them yields a
bitmap without bits, as `Buffer.allocateBitmap_of_minus_seven` shows for one.
-/

namespace Columnar

namespace Pooled
variable {α β : Type} {x : Pooled α} {code : Code}

/-- Whether a computation fails with a code before its pool is asked for anything: the failure does
not depend on what the pool would say, and the pool stays as it is. -/
def Rejects (x : Pooled α) (code : Code) : Prop :=
  ∃ f : Failure, f.report.code = code ∧ ∀ p : Pool, x.run p = (.error (.failure f), p)

lemma Rejects.bind (h : x.Rejects code) (f : α → Pooled β) : (x >>= f).Rejects code := by
  obtain ⟨cause, named, run⟩ := h
  exact ⟨cause, named, fun p => run_bind_error (run p)⟩

/-- Where the pool grants everything, what is asked for is had and counted. -/
lemma Fetches.of_grants {size : Int} {property : α → Prop} (h : x.Fetches size property) {p : Pool}
    (grants : p.Grants) : ∃ a q, x.run p = (.ok a, q) ∧ property a ∧ q.bytes = p.bytes + size := by
  have run := h p
  rw [grants] at run
  obtain ⟨a, q, holds, -, bytes, run⟩ := run
  exact ⟨a, q, run, holds, bytes⟩

end Pooled

namespace Buffer
open Pooled

section Sizes

/-- What a new buffer of `n` bytes in a region of `m` is: zero behind its contents, and given back
with all of the region. -/
structure IsFresh (b : Buffer) (n m : Int) : Prop where
  size : b.size = n
  capacity : b.capacity = m
  zero : ∀ i, n ≤ i → i < m → b.memory.read i = .ok 0
  givesBack : b.release.GivesBack m

lemma isFresh_packed (c : Bytes) : (packed c).IsFresh c.size (footprint c.size) where
  size := rfl
  capacity := capacity_packed c
  zero i lo hi := by
    obtain ⟨i, rfl⟩ := Int.eq_ofNat_of_zero_le (show 0 ≤ i by omega)
    have size : (packed c).memory.size = footprint c.size := by
      rw [memory_packed, Array.size_append, Bytes.size_zeros, add_gap]
    have behind : (c ++ Bytes.zeros (gap c.size))[i]? = some 0 := by
      have add := add_gap c.size
      rw [Array.getElem?_append_right (by omega), Bytes.zeros, Bytes.fill,
        Array.getElem?_replicate, if_pos (by omega)]
    rw [Bytes.read_eq (by omega)]
    exact congrArg _ (Array.getElem_eq_iff.2 behind)
  givesBack := givesBack_release c

/-- A pool is charged for the least multiple of sixty-four that holds the contents. -/
lemma isLeast_footprint (n : Nat) :
    IsLeast {m : Int | 64 ∣ m ∧ n ≤ m} (footprint n) := by
  unfold footprint
  refine ⟨⟨by omega, by omega⟩, ?_⟩
  rintro m ⟨multiple, le⟩
  omega

lemma rejects_negative {size : Int} (negative : size < 0) : (allocate size).Rejects .invalid := by
  unfold allocate
  rw [if_pos negative]
  exact ⟨.allocation (.negativeBuffer size), rfl, fun _ => rfl⟩

lemma rejects_large {size : Int} (large : maxSize < size) :
    (allocate size).Rejects .capacityError := by
  have nonneg : ¬ size < 0 := by
    unfold maxSize at large
    omega
  unfold allocate
  rw [if_neg nonneg, if_pos large]
  exact ⟨.allocation (.bufferTooLarge size), rfl, fun _ => rfl⟩

/-- A negative size is invalid and one above 2⁶³ - 65 is too large, and the pool hears of neither.
For any other the pool is asked for the least multiple of sixty-four that holds it, which is
computed in words none of which overflows. A refusal is passed on and nothing is charged. What the
pool grants is a fresh buffer that is charged for, and later given back, with that multiple. -/
theorem allocate_of_word (size : Int64) :
    (size.toInt < 0 → (allocate size.toInt).Rejects .invalid) ∧
    (2 ^ 63 - 1 - 64 < size.toInt → (allocate size.toInt).Rejects .capacityError) ∧
    (0 ≤ size.toInt → size.toInt ≤ 2 ^ 63 - 1 - 64 →
      ∃ capacity, IsLeast {m : Int | 64 ∣ m ∧ size.toInt ≤ m} capacity ∧
        (size + 63).toInt = size.toInt + 63 ∧
        (Rounding.roundUpToSixtyFour size).toInt = capacity ∧
        (allocate size.toInt).Fetches capacity fun b => b.IsFresh size.toInt capacity) := by
  refine ⟨rejects_negative, rejects_large, fun lo hi => ?_⟩
  obtain ⟨n, e⟩ := Int.eq_ofNat_of_zero_le lo
  have sum : (size + 63).toInt = size.toInt + 63 := by
    have addend : (63 : Int64).toInt = 63 := rfl
    rw [Int64.toInt_add, addend, Int.bmod_eq_of_le (by omega) (by omega)]
  have rounded : (Rounding.roundUpToSixtyFour size).toInt = footprint n := by
    have padded := Rounding.paddedSize_eq (n := n) (by omega)
    rwa [← e, Rounding.paddedSize, Int64.ofInt_toInt] at padded
  have fetched := fetches_allocate (n := n) (by unfold maxSize; omega)
  rw [e] at sum ⊢
  refine ⟨footprint n, isLeast_footprint n, sum, rounded, ?_⟩
  intro p
  have run := fetched p
  split at run
  · exact run
  · obtain ⟨b, q, ⟨c, rfl, rfl⟩, same, bytes, run⟩ := run
    exact ⟨packed c, q, isFresh_packed c, same, bytes, run⟩

/-- The last size that fits is padded to the last multiple of sixty-four in a word, the next one is
too large, and below zero all is invalid. -/
theorem allocate_of_last_word :
    (allocate (Int64.ofInt (-1)).toInt).Rejects .invalid ∧
    (allocate (Int64.ofInt (2 ^ 63 - 64)).toInt).Rejects .capacityError ∧
    (allocate (Int64.ofInt (2 ^ 63 - 65)).toInt).Fetches (2 ^ 63 - 64)
      fun b => b.IsFresh (2 ^ 63 - 65) (2 ^ 63 - 64) := by
  have word : (Int64.ofInt (2 ^ 63 - 65)).toInt = 2 ^ 63 - 65 := by decide
  obtain ⟨capacity, least, -, -, fetches⟩ :=
    (allocate_of_word (Int64.ofInt (2 ^ 63 - 65))).2.2 (by decide) (by decide)
  have last : capacity = 2 ^ 63 - 64 := by
    have bound := least.2 (show (2 ^ 63 - 64 : Int) ∈ _ by rw [word]; exact ⟨by omega, by omega⟩)
    obtain ⟨multiple, le⟩ := least.1
    rw [word] at le
    omega
  rw [last, word] at fetches
  exact ⟨(allocate_of_word _).1 (by decide), (allocate_of_word _).2.1 (by decide),
    by rwa [word]⟩

end Sizes

section Bitmaps
variable {p : Pool} {bits : Int}

/-- Whether every bit from a position on is clear, up to the capacity. -/
def ClearFrom (b : Buffer) (start : Int) : Prop :=
  ∀ i, start ≤ i → i < 8 * b.capacity → b.memory.getBit i = .ok false

/-- What a bitmap of `bits` bits is: as few bytes as hold them, and no bit set behind them. -/
structure IsBitmap (b : Buffer) (bits : Int) : Prop where
  size : IsLeast {bytes : Int | bits ≤ 8 * bytes} b.size
  clear : b.ClearFrom bits

lemma clearFrom_packed {c : Bytes} {n : Nat} (clear : ∀ i, n ≤ i → c.bit i = false) :
    (packed c).ClearFrom n := by
  intro i behind inside
  rw [Bytes.getBit_of_nonneg (by omega) inside, bit_packed, clear i.toNat (by omega)]

/-- In a bitmap of as few bytes as hold its bits, those behind the bits belong to the last one. -/
lemma bit_of_last_zero {c : Bytes} {n : Nat} (size : c.size = (n + 7) / 8)
    (zero : c.getD (c.size - 1) 0 = 0) {i : Nat} (behind : n ≤ i) : c.bit i = false := by
  by_cases inside : i < 8 * c.size
  · have last : i / 8 = c.size - 1 := by omega
    rw [Bytes.bit, last, zero]
    exact Nat.zero_testBit _
  · exact Bytes.bit_of_le (by omega)

lemma isBitmap_packed {c : Bytes} {n : Nat} (size : c.size = (n + 7) / 8)
    (clear : ∀ i, n ≤ i → c.bit i = false) : (packed c).IsBitmap n where
  size := by
    rw [size_packed, size]
    refine ⟨show (n : Int) ≤ 8 * ((n + 7) / 8 : Nat) by omega, ?_⟩
    intro m (le : (n : Int) ≤ 8 * m)
    omega
  clear := clearFrom_packed clear

/-- A pool that grants everything yields a bitmap of `n` bits where as many bytes are asked for. -/
lemma exists_run_allocateBitmap {n : Nat} (count : Rounding.byteCount bits = ((n + 7) / 8 : Nat))
    (fits : n < 2 ^ 63) (grants : p.Grants) :
    ∃ c q, (allocateBitmap bits).run p = (.ok (packed c), q) ∧ c.size = (n + 7) / 8 ∧
      (packed c).IsBitmap n ∧ q.bytes = p.bytes + (packed c).capacity := by
  obtain ⟨b, q, run, ⟨c, size, zero, rfl⟩, charged⟩ :=
    (fetches_allocateBitmap count (by unfold maxSize; omega)).of_grants grants
  rw [← size] at zero charged
  exact ⟨c, q, run, size, isBitmap_packed size fun i => bit_of_last_zero size zero,
    by rw [capacity_packed, charged]⟩

/-- A pool that grants everything yields a bitmap of `n` clear bits where as many bytes are asked
for. -/
lemma exists_run_allocateEmptyBitmap {n : Nat}
    (count : Rounding.byteCount bits = ((n + 7) / 8 : Nat)) (fits : n < 2 ^ 63)
    (grants : p.Grants) :
    ∃ c q, (allocateEmptyBitmap bits).run p = (.ok (packed c), q) ∧ c.size = (n + 7) / 8 ∧
      (packed c).IsBitmap n ∧ (packed c).ClearFrom 0 ∧
      q.bytes = p.bytes + (packed c).capacity := by
  obtain ⟨b, q, run, rfl, charged⟩ :=
    (fetches_clearBitmap count (by unfold maxSize; omega)).of_grants grants
  have size := Bytes.size_zeros ((n + 7) / 8)
  have clear (i : Nat) : (Bytes.zeros ((n + 7) / 8)).bit i = false := Bytes.bit_zeros _ i
  exact ⟨_, q, run, size, isBitmap_packed size fun i _ => clear i,
    clearFrom_packed fun i _ => clear i, by rw [capacity_packed, charged, size]⟩

/-- At most -8 bits are invalid, and the pool does not hear of them. From -7 to -1 bits take no
bytes, so that an empty buffer is made which charges nothing. Any other number of bits is had from a
pool that grants everything, in as few bytes as hold them; what is behind them is clear, and so are
they if the bitmap is to be empty. -/
theorem allocateBitmap_of_word (bits : Int64) (grants : p.Grants) :
    (bits.toInt ≤ -8 →
      (allocateBitmap bits.toInt).Rejects .invalid ∧
      (allocateEmptyBitmap bits.toInt).Rejects .invalid) ∧
    (-8 < bits.toInt → bits.toInt < 0 →
      (∃ q, (allocateBitmap bits.toInt).run p = (.ok (packed #[]), q) ∧ q.bytes = p.bytes) ∧
      ∃ q, (allocateEmptyBitmap bits.toInt).run p = (.ok (packed #[]), q) ∧ q.bytes = p.bytes) ∧
    (0 ≤ bits.toInt →
      (∃ b q, (allocateBitmap bits.toInt).run p = (.ok b, q) ∧
        b.IsBitmap bits.toInt ∧ q.bytes = p.bytes + b.capacity) ∧
      ∃ b q, (allocateEmptyBitmap bits.toInt).run p = (.ok b, q) ∧
        b.IsBitmap bits.toInt ∧ b.ClearFrom 0 ∧ q.bytes = p.bytes + b.capacity) := by
  have bytes := Rounding.byteCount_toInt bits
  refine ⟨fun low => ?_, fun lo negative => ?_, fun nonneg => ?_⟩
  · have rejects : (allocate (Rounding.byteCount bits.toInt)).Rejects .invalid :=
      rejects_negative (by omega)
    exact ⟨rejects.bind _, rejects.bind _⟩
  · have none : Rounding.byteCount bits.toInt = ((0 + 7) / 8 : Nat) := by omega
    have empty : (packed #[]).capacity = 0 := rfl
    constructor
    · obtain ⟨c, q, run, size, -, charged⟩ := exists_run_allocateBitmap none (by decide) grants
      obtain rfl := Array.eq_empty_of_size_eq_zero size
      exact ⟨q, run, by rw [charged, empty, Int.add_zero]⟩
    · obtain ⟨c, q, run, size, -, -, charged⟩ :=
        exists_run_allocateEmptyBitmap none (by decide) grants
      obtain rfl := Array.eq_empty_of_size_eq_zero size
      exact ⟨q, run, by rw [charged, empty, Int.add_zero]⟩
  · have hi := bits.toInt_lt
    obtain ⟨n, e⟩ := Int.eq_ofNat_of_zero_le nonneg
    have count : Rounding.byteCount bits.toInt = ((n + 7) / 8 : Nat) := by omega
    rw [e] at count ⊢
    constructor
    · obtain ⟨c, q, run, -, bitmap, charged⟩ :=
        exists_run_allocateBitmap count (by omega) grants
      exact ⟨packed c, q, run, bitmap, charged⟩
    · obtain ⟨c, q, run, -, bitmap, clear, charged⟩ :=
        exists_run_allocateEmptyBitmap count (by omega) grants
      exact ⟨packed c, q, run, bitmap, clear, charged⟩

/-- Nine bits take two bytes, the longest bitmap of a word takes 2⁶⁰ bytes, minus one bit takes none
and minus nine bits are invalid. -/
theorem allocateBitmap_of_nine :
    let p : Pool := ⟨[], .generous, true, {}, fun _ => 255⟩
    let longest := Int64.ofInt (2 ^ 63 - 1)
    p.Grants ∧ (allocateBitmap (-9 : Int64).toInt).Rejects .invalid ∧
      (∃ q, (allocateBitmap (-1 : Int64).toInt).run p = (.ok (packed #[]), q)) ∧
      (∃ b q, (allocateBitmap (9 : Int64).toInt).run p = (.ok b, q) ∧ b.IsBitmap 9 ∧
        b.size = 2) ∧
      ∃ b q, (allocateEmptyBitmap longest.toInt).run p = (.ok b, q) ∧ b.size = 2 ^ 60 ∧
        b.ClearFrom 0 := by
  intro p longest
  have grants : p.Grants := fun _ _ => rfl
  have nine : (9 : Int64).toInt = 9 := by decide
  have all : longest.toInt = 2 ^ 63 - 1 := by decide
  obtain ⟨⟨b, q, run, bitmap, -⟩, -⟩ := (allocateBitmap_of_word 9 grants).2.2 (by decide)
  obtain ⟨-, c, r, run', bitmap', clear, -⟩ :=
    (allocateBitmap_of_word longest grants).2.2 (by decide)
  obtain ⟨⟨t, none, -⟩, -⟩ := (allocateBitmap_of_word (-1) grants).2.1 (by decide) (by decide)
  refine ⟨grants, ((allocateBitmap_of_word (-9) grants).1 (by decide)).1, ⟨t, none⟩,
    ⟨b, q, run, nine ▸ bitmap, ?_⟩, c, r, run', ?_, clear⟩
  · obtain ⟨(fits : (9 : Int64).toInt ≤ 8 * (b.size : Int)), least⟩ := bitmap.size
    have two : (b.size : Int) ≤ 2 := least (show (9 : Int64).toInt ≤ 8 * 2 by decide)
    rw [nine] at fits
    omega
  · obtain ⟨(fits : longest.toInt ≤ 8 * (c.size : Int)), least⟩ := bitmap'.size
    have few : (c.size : Int) ≤ 2 ^ 60 := least (show longest.toInt ≤ 8 * 2 ^ 60 by decide)
    rw [all] at fits
    omega

/-- Minus seven bits are not turned down: both kinds of bitmaps are made and hold nothing. -/
theorem allocateBitmap_of_minus_seven :
    let p : Pool := ⟨[], .generous, true, {}, fun _ => 0⟩
    (-7 : Int64).toInt < 0 ∧ p.Grants ∧
      (allocateBitmap (-7 : Int64).toInt).run p = (.ok (packed #[]), p) ∧
      (allocateEmptyBitmap (-7 : Int64).toInt).run p = (.ok (packed #[]), p) :=
  ⟨by decide, fun _ _ => rfl, rfl, rfl⟩

end Bitmaps

end Buffer

end Columnar
