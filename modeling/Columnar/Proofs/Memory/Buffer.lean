import Mathlib.Tactic.Common
import Columnar.Proofs.Memory.Plan
import Columnar.Proofs.Bits.Bitmap
import Columnar.Proofs.Bits.Rounding

/-!
# Fresh buffers

Every buffer from a pool is its contents followed by zeros up to a multiple of sixty-four, which
`Buffer.packed` says. Requests of a size that fits fetch such buffers, and a body that runs over one
follows a plan when it does so whatever the fresh contents are.
-/

namespace Columnar

namespace Buffer

/-- The zero bytes that follow `n` bytes of contents. -/
def gap (n : Nat) : Nat := (n + 63) / 64 * 64 - n

/-- The bytes that a pool is charged for a buffer of `n` bytes: a multiple of sixty-four. -/
def footprint (n : Nat) : Nat := (n + 63) / 64 * 64

lemma add_gap (n : Nat) : n + gap n = footprint n := by
  unfold gap footprint
  omega

/-- The buffer from a pool with given contents. -/
def packed (contents : Bytes) : Buffer := padded contents (gap contents.size)

@[simp] lemma memory_packed (c : Bytes) : (packed c).memory = c ++ Bytes.zeros (gap c.size) := rfl

@[simp] lemma size_packed (c : Bytes) : (packed c).size = c.size := rfl

lemma bytes_packed (c : Bytes) : (packed c).bytes = c := by
  rw [bytes, memory_packed, size_packed, Array.extract_append_left]
  exact Array.extract_size

lemma capacity_packed (c : Bytes) : (packed c).capacity = footprint c.size := by
  rw [capacity, memory_packed, Array.size_append, Bytes.size_zeros, add_gap]

lemma charge_packed (c : Bytes) : (packed c).charge = footprint c.size := by
  rw [charge, if_pos (by rfl), capacity_packed]

lemma toList_packed (c : List UInt8) :
    (packed c.toArray).memory.toList = c ++ List.replicate (gap c.length) 0 := by
  simp [Bytes.zeros, Bytes.fill]

lemma le_length_packed (c : Bytes) : c.size ≤ (packed c).memory.toList.length := by
  have length : (packed c).memory.toList.length = (packed c).memory.size := Array.length_toList
  rw [length, memory_packed, Array.size_append]
  exact Nat.le_add_right _ _

/-- New contents that take the place of all of the old ones leave the zeros behind them. -/
lemma append_drop_packed {old : Bytes} {new : List UInt8} (size : new.length = old.size) :
    (new ++ (packed old).memory.toList.drop new.length).toArray = (packed new.toArray).memory := by
  have length : old.toList.length = new.length := by rw [Array.length_toList, size]
  have whole : (packed old).memory.toList =
      old.toList ++ List.replicate (gap old.toList.length) 0 := toList_packed old.toList
  apply Array.toList_inj.1
  rw [whole, List.drop_left' length, length, toList_packed]

lemma withMemory_packed {a c : Bytes} (size : c.size = a.size) :
    (packed a).withMemory (packed c).memory = packed c := by
  have le : a.size ≤ (packed c).memory.size := by
    rw [memory_packed, Array.size_append, size]
    exact Nat.le_add_right _ _
  simp only [withMemory, size_packed, Nat.min_eq_left le]
  simp only [packed, padded, size]

lemma bit_packed (c : Bytes) (i : Nat) : (packed c).memory.bit i = c.bit i := by
  rw [memory_packed, Bytes.bit_append]
  by_cases h : i < 8 * c.size
  · rw [if_pos h]
  · rw [if_neg h, Bytes.bit_zeros, Bytes.bit_of_le (by omega)]

end Buffer

namespace Pooled
variable {α : Type} {n : Nat} {r : Checked α}

/-- A request is refused and changes nothing, or is granted and counted unless it is empty. -/
lemma run_allocate (size : Int) (p : Pool) :
    (allocate size).run p =
      match p.policy p.bytes size with
      | some e => (.error (.allocation e), p)
      | none =>
        (.ok (Array.ofFn fun i : Fin size.toNat => p.scratch i),
          if size ≠ 0 then { p with usage := p.usage.allocated size } else p) := by
  change ExceptT.run (match p.policy p.bytes size with
    | some e => (throw (.allocation e) : Pooled Bytes)
    | none => _) p = _
  cases p.policy p.bytes size with
  | some e => rfl
  | none =>
    by_cases zero : size ≠ 0
    · simp only [if_pos zero]
      rfl
    · simp only [if_neg zero]
      rfl

/-- A region has the size that was asked for. -/
lemma fetches_allocate (size : Int) :
    (allocate size).Fetches size fun memory => memory.size = size.toNat := by
  intro p
  have run := run_allocate size p
  cases answer : p.policy p.bytes size with
  | some e =>
    rw [answer] at run
    exact run
  | none =>
    rw [answer] at run
    refine ⟨_, _, Array.size_ofFn, ?_, ?_, run⟩
    · split <;> rfl
    · split
      · change (p.usage.allocated size).balance = p.usage.balance + size
        unfold Usage.allocated
        simp only
        split <;> rfl
      · next zero => rw [Decidable.not_not.1 zero, Int.add_zero]

end Pooled

namespace Buffer
open Pooled
variable {α : Type} {n : Nat} {plan : Plan α}

/-- A request of a size that fits fetches a buffer of that size. -/
lemma fetches_allocate (fits : (n : Int) ≤ maxSize) :
    (allocate n).Fetches (footprint n) fun b => ∃ c, c.size = n ∧ b = packed c := by
  have capacity : Rounding.paddedSize n = (n + gap n : Nat) := by
    rw [Rounding.paddedSize_eq (by unfold maxSize at fits; omega), gap]
    omega
  unfold allocate
  rw [if_neg (by omega), if_neg (by omega), capacity, ← add_gap]
  refine (Pooled.fetches_allocate (n + gap n : Nat)).map fun memory size => ?_
  rw [Int.toNat_natCast] at size
  refine ⟨memory.extract 0 n, ?_, ?_⟩
  · rw [Array.size_extract]
    omega
  · have whole : ((n + gap n : Nat) - (n : Int)).toNat = gap n := by omega
    have part : (memory.extract 0 n).size = n := by
      rw [Array.size_extract]
      omega
    rw [whole, Int.toNat_natCast, packed, part]

/-- A buffer that was allocated has the size that was asked for, which fits. -/
lemma exists_of_allocate {size : Int} {b : Buffer} {p q : Pool}
    (run : (allocate size).run p = (.ok b, q)) :
    ∃ (n : Nat) (c : Bytes), size = n ∧ size ≤ maxSize ∧ c.size = n ∧ b = packed c := by
  by_cases negative : size < 0
  · rw [allocate, if_pos negative] at run
    cases run
  by_cases large : size > maxSize
  · rw [allocate, if_neg negative, if_pos large] at run
    cases run
  obtain ⟨n, rfl⟩ := Int.eq_ofNat_of_zero_le (Int.not_lt.1 negative)
  have fetched := fetches_allocate (Int.not_lt.1 large) p
  cases answer : p.policy p.bytes (footprint n) with
  | some e =>
    rw [answer, run] at fetched
    cases fetched
  | none =>
    rw [answer, run] at fetched
    obtain ⟨b', q', ⟨c, length, rfl⟩, -, -, same⟩ := fetched
    cases same
    exact ⟨n, c, rfl, Int.not_lt.1 large, length, rfl⟩

/-- What holds a buffer and ends well has had it. -/
lemma exists_of_holding {fresh : Pooled Buffer} {body : Buffer → Pooled α} {p : Pool} {a : α}
    (h : ((holding fresh body).run p).1 = .ok a) :
    ∃ b q, fresh.run p = (.ok b, q) ∧ ((body b).run q).1 = .ok a := by
  obtain ⟨b, q, run, rest⟩ := exists_of_bind h
  exact ⟨b, q, run, of_tryCatch rest⟩

/-- A size that does not fit is refused, whatever the pool would say. -/
def room (size : Int) : Checked Unit :=
  if maxSize < size then .error (.allocation (.bufferTooLarge size)) else .ok ()

lemma room_eq_ok {size : Int} : room size = .ok () ↔ size ≤ maxSize := by
  unfold room
  split
  · simp only [reduceCtorEq, false_iff]
    omega
  · simp only [true_iff]
    omega

/-- A bitmap of unspecified bits whose bytes fit: the last one is zero. -/
lemma fetches_allocateBitmap {bits : Int} (bytes : Rounding.byteCount bits = n)
    (fits : (n : Int) ≤ maxSize) :
    (allocateBitmap bits).Fetches (footprint n)
      fun b => ∃ c : Bytes, c.size = n ∧ c.getD (n - 1) 0 = 0 ∧ b = packed c := by
  unfold allocateBitmap
  rw [bytes]
  refine (fetches_allocate fits).map fun b fresh => ?_
  obtain ⟨c, rfl, rfl⟩ := fresh
  have cleared : (packed c).memory.setIfInBounds (c.size - 1) 0 =
      (packed (c.setIfInBounds (c.size - 1) 0)).memory := by
    rw [memory_packed, memory_packed, Array.setIfInBounds_append, Array.size_setIfInBounds]
    split
    · rfl
    · next outside =>
      have empty : c = #[] := Array.eq_empty_of_size_eq_zero (by omega)
      rw [empty]
      rfl
  refine ⟨c.setIfInBounds (c.size - 1) 0, Array.size_setIfInBounds, ?_, ?_⟩
  · rw [Array.getD_eq_getD_getElem?, Array.getElem?_setIfInBounds, if_pos rfl]
    split <;> rfl
  · rw [size_packed, cleared]
    exact withMemory_packed Array.size_setIfInBounds

/-- A bitmap of clear bits whose bytes fit. -/
lemma fetches_clearBitmap {bits : Int} (bytes : Rounding.byteCount bits = n)
    (fits : (n : Int) ≤ maxSize) :
    (allocateEmptyBitmap bits).Fetches (footprint n) fun b => b = packed (Bytes.zeros n) := by
  unfold allocateEmptyBitmap
  rw [bytes]
  refine (fetches_allocate fits).map fun b fresh => ?_
  obtain ⟨c, rfl, rfl⟩ := fresh
  have cleared : Bytes.zeros (packed c).memory.size = (packed (Bytes.zeros c.size)).memory := by
    rw [memory_packed, memory_packed, Array.size_append, Bytes.size_zeros, Bytes.size_zeros]
    exact Array.replicate_append_replicate.symm
  rw [cleared]
  exact withMemory_packed (Bytes.size_zeros _)

lemma fetches_allocateEmptyBitmap (fits : n < 2 ^ 63) :
    (allocateEmptyBitmap n).Fetches (footprint ((n + 7) / 8))
      fun b => b = packed (Bytes.zeros ((n + 7) / 8)) :=
  fetches_clearBitmap (Rounding.byteCount_eq fits) (by unfold maxSize; omega)

lemma givesBack_release (c : Bytes) : (packed c).release.GivesBack (footprint c.size) := by
  rw [release, charge_packed]
  exact givesBack_free _

lemma givesBack_bitmap (n : Nat) :
    (packed (Bytes.zeros ((n + 7) / 8))).release.GivesBack (footprint ((n + 7) / 8)) := by
  have released := givesBack_release (Bytes.zeros ((n + 7) / 8))
  rwa [Bytes.size_zeros] at released

/-- A body over a fresh buffer of `n` bytes, for which there has to be room. -/
lemma follows_holding_allocate {body : Buffer → Pooled α}
    (follows : (n : Int) ≤ maxSize → ∀ c, c.size = n → (body (packed c)).Follows plan) :
    (holding (allocate n) body).Follows (.check (room n) (.asks (footprint n) plan)) := by
  unfold room
  by_cases large : maxSize < n
  · rw [if_pos large]
    unfold holding allocate
    rw [if_neg (by omega), if_pos (by omega)]
    exact fun p => ⟨p, rfl, rfl, rfl⟩
  · rw [if_neg large]
    refine .bind_fetches (fetches_allocate (by omega)) ?_
    rintro b ⟨c, rfl, rfl⟩
    exact (follows (by omega) c rfl).giveBack (givesBack_release c)

/-- A body over a fresh bitmap of `n` clear bits. -/
lemma follows_holding_bitmap {body : Buffer → Pooled α} (fits : n < 2 ^ 63)
    (follows : (body (packed (Bytes.zeros ((n + 7) / 8)))).Follows plan) :
    (holding (allocateEmptyBitmap n) body).Follows (.asks (footprint ((n + 7) / 8)) plan) := by
  refine .bind_fetches (fetches_allocateEmptyBitmap fits) ?_
  rintro b rfl
  exact follows.giveBack (givesBack_bitmap n)

end Buffer

end Columnar
