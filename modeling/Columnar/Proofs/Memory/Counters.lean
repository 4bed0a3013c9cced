import Mathlib.Tactic.Common
import Mathlib.Order.Bounds.Basic
import Columnar.Memory.Ledger
import Columnar.Proofs.IntKind
import Columnar.Proofs.Memory.Lifetime

/-!
# Counters of the system's pool

Regions are asked for and given back one after the other, each of them once and with its size. What
memory there is may change from one request to the next, so any request may be refused. Main
statement: after every run of requests the counter shows what it showed at first and the sizes of
the regions that are still out, and the peak is the most that the counter showed whenever a request
was granted (`Ledger.Watch.counters_after`).
-/

namespace Columnar

namespace Ledger

/-- What is asked of the system's pool: a region, with the memory that is there at the time, or to
take region number `k` back. -/
inductive Request where
  | allocate (size : Int) (available : Int → Bool)
  | free (k : Nat)

/-- The ledger where that memory is there. -/
def providing (l : Ledger) (available : Int → Bool) : Ledger :=
  { l with pool := { l.pool with policy := .system available } }

/-- A ledger that is watched: it comes with the regions that are still out, and with the size and
what the counter showed then for each request that was granted. -/
structure Watch where
  ledger : Ledger
  live : Finset Nat := ∅
  readings : List (Int × Int) := []

namespace Watch

/-- The system's pool before anything is asked of it, with counters that may show anything. -/
def ofUsage (u : Usage) : Watch := { ledger := { pool := { Pool.system with usage := u } } }

def usage (w : Watch) : Usage := w.ledger.pool.usage

def sizeOf (w : Watch) (k : Nat) : Int := w.ledger.regions.getD k 0

/-- The sizes of the regions that are still out. -/
def liveBytes (w : Watch) : Int := ∑ k ∈ w.live, w.sizeOf k

def step (w : Watch) : Request → Watch
  | .allocate size available =>
    match (w.ledger.providing available).allocate size with
    | (.ok _, l) =>
      ⟨l, insert w.ledger.regions.length w.live, w.readings ++ [(size, l.pool.usage.bytes)]⟩
    | (.error _, l) => ⟨l, w.live, w.readings⟩
  | .free k => ⟨w.ledger.free k, w.live.erase k, w.readings⟩

/-- A region that is given back is one that is still out. -/
def Allowed (w : Watch) : Request → Prop
  | .allocate .. => True
  | .free k => k ∈ w.live

instance (w : Watch) : (r : Request) → Decidable (w.Allowed r)
  | .allocate .. => isTrue trivial
  | .free k => inferInstanceAs (Decidable (k ∈ w.live))

/-- Whether a counter that showed `bytes` at first has room for what is out. -/
def Fits (w : Watch) (bytes : Int) : Prop := (IntKind.int .w64).holds (bytes + w.liveBytes) = true

instance (w : Watch) (bytes : Int) : Decidable (w.Fits bytes) := inferInstanceAs (Decidable (_ = _))

def after (w : Watch) : List Request → Watch
  | [] => w
  | r :: rest => (w.step r).after rest

/-- Whether each request is allowed when its turn comes, and the counter has room all the time. -/
def Allows (w : Watch) (bytes : Int) : List Request → Prop
  | [] => w.Fits bytes
  | r :: rest => w.Fits bytes ∧ w.Allowed r ∧ (w.step r).Allows bytes rest

/-- Whether a run is allowed can be told by running it. -/
def decideAllows (bytes : Int) : (w : Watch) → (rs : List Request) → Decidable (w.Allows bytes rs)
  | w, [] => inferInstanceAs (Decidable (w.Fits bytes))
  | w, r :: rest =>
    have := decideAllows bytes (w.step r) rest
    inferInstanceAs (Decidable (w.Fits bytes ∧ w.Allowed r ∧ (w.step r).Allows bytes rest))

instance (w : Watch) (bytes : Int) (rs : List Request) : Decidable (w.Allows bytes rs) :=
  decideAllows bytes w rs

variable {w : Watch} {start : Usage} {size : Int} {available : Int → Bool} {r : Request}

section Steps

/-- The watch after a request for a region was granted. -/
def granted (w : Watch) (size : Int) (available : Int → Bool) : Watch :=
  let pool := (w.ledger.providing available).pool.granted size
  ⟨⟨pool, w.ledger.regions ++ [size]⟩, insert w.ledger.regions.length w.live,
    w.readings ++ [(size, pool.usage.bytes)]⟩

/-- The watch after a request for a region was refused. -/
def refused (w : Watch) (available : Int → Bool) : Watch :=
  { w with ledger := w.ledger.providing available }

/-- A request for a region is granted, which a negative one is not, or refused. -/
lemma step_allocate (w : Watch) (size : Int) (available : Int → Bool) :
    (0 ≤ size ∧ ((w.ledger.providing available).allocate size).1 = .ok () ∧
      w.step (.allocate size available) = w.granted size available) ∨
    ((∃ e, ((w.ledger.providing available).allocate size).1 = .error e) ∧
      w.step (.allocate size available) = w.refused available) := by
  have run := Pooled.run_allocate size (w.ledger.providing available).pool
  cases answer : (w.ledger.providing available).pool.policy
      (w.ledger.providing available).pool.bytes size with
  | some e =>
    rw [answer] at run
    simp only [step, Ledger.allocate, run]
    exact .inr ⟨⟨_, rfl⟩, rfl⟩
  | none =>
    have nonneg : 0 ≤ size := by
      by_contra negative
      cases answer.symm.trans (if_pos (Int.not_le.1 negative))
    rw [answer] at run
    have pool : (if size ≠ 0 then { (w.ledger.providing available).pool with
        usage := (w.ledger.providing available).pool.usage.allocated size }
        else (w.ledger.providing available).pool) =
          (w.ledger.providing available).pool.granted size := ite_not ..
    rw [pool] at run
    simp only [step, Ledger.allocate, run]
    exact .inl ⟨nonneg, trivial, rfl⟩

lemma usage_granted (w : Watch) (size : Int) (available : Int → Bool) :
    (w.granted size available).usage =
      if size = 0 then w.usage else w.usage.allocated size := by
  unfold granted usage Pool.granted
  split <;> rfl

lemma bytes_granted (w : Watch) (size : Int) (available : Int → Bool) :
    (w.granted size available).ledger.pool.bytes = w.ledger.pool.bytes + size :=
  Pool.bytes_granted _ size

/-- A region that is given back is taken off the balance, and the peak stays. -/
lemma usage_free (w : Watch) (k : Nat) :
    (w.step (.free k)).usage = w.usage.freed (w.sizeOf k) := by
  change (w.ledger.pool.free (w.sizeOf k)).usage = _
  unfold Pool.free
  split
  · next zero =>
    rw [Usage.freed, zero, Int.sub_zero]
    rfl
  · rfl

lemma tracksPeak_step (w : Watch) (r : Request) :
    (w.step r).ledger.pool.tracksPeak = w.ledger.pool.tracksPeak := by
  cases r with
  | allocate size available =>
    rcases w.step_allocate size available with ⟨-, -, made⟩ | ⟨-, made⟩
    · rw [made, granted, Pool.granted]
      split <;> rfl
    · rw [made]
      rfl
  | free k =>
    change (w.ledger.pool.free (w.sizeOf k)).tracksPeak = _
    unfold Pool.free
    split <;> rfl

lemma mem_readings_granted {s n : Int} : (s, n) ∈ (w.granted size available).readings ↔
    (s, n) ∈ w.readings ∨ s = size ∧ n = (w.granted size available).usage.bytes := by
  rw [← Prod.mk_inj, ← List.mem_singleton, ← List.mem_append]
  rfl

/-- Handing out raises the peak to what the counter shows then, or leaves it. -/
lemma peak_allocated (u : Usage) (size : Int) :
    (u.allocated size).peak = max u.peak (u.allocated size).bytes := by
  unfold Usage.allocated
  simp only
  split
  · next raised => exact (max_eq_right (Int.le_of_lt raised)).symm
  · next kept => exact (max_eq_left (Int.not_lt.1 kept)).symm

end Steps

section Sizes

/-- What is known of the regions that are still out. -/
structure Sized (w : Watch) : Prop where
  inside : ∀ k ∈ w.live, k < w.ledger.regions.length
  nonneg : ∀ k ∈ w.live, 0 ≤ w.sizeOf k

lemma Sized.sizeOf_granted (h : w.Sized) (size : Int) (available : Int → Bool) {k : Nat}
    (mem : k ∈ w.live) : (w.granted size available).sizeOf k = w.sizeOf k :=
  List.getD_append _ _ _ _ (h.inside k mem)

lemma sizeOf_granted_new (w : Watch) (size : Int) (available : Int → Bool) :
    (w.granted size available).sizeOf w.ledger.regions.length = size := by
  rw [sizeOf, granted, List.getD_append_right _ _ _ _ (Nat.le_refl _), Nat.sub_self]
  rfl

lemma Sized.granted (h : w.Sized) (nonneg : 0 ≤ size) : (w.granted size available).Sized where
  inside k mem := by
    have length : (w.granted size available).ledger.regions.length =
        w.ledger.regions.length + 1 := List.length_append
    rw [length]
    rcases Finset.mem_insert.1 mem with rfl | old
    · exact Nat.lt_succ_self _
    · exact Nat.lt_succ_of_lt (h.inside k old)
  nonneg k mem := by
    rcases Finset.mem_insert.1 mem with rfl | old
    · rw [sizeOf_granted_new]
      exact nonneg
    · rw [h.sizeOf_granted size available old]
      exact h.nonneg k old

lemma Sized.free (h : w.Sized) (k : Nat) : (w.step (.free k)).Sized where
  inside j mem := h.inside j (Finset.mem_of_mem_erase mem)
  nonneg j mem := h.nonneg j (Finset.mem_of_mem_erase mem)

lemma Sized.liveBytes_granted (h : w.Sized) (size : Int) (available : Int → Bool) :
    (w.granted size available).liveBytes = w.liveBytes + size := by
  have new : w.ledger.regions.length ∉ w.live := fun mem => Nat.lt_irrefl _ (h.inside _ mem)
  have old : ∑ k ∈ w.live, (w.granted size available).sizeOf k = w.liveBytes :=
    Finset.sum_congr rfl fun k mem => h.sizeOf_granted size available mem
  calc (w.granted size available).liveBytes
      = (w.granted size available).sizeOf w.ledger.regions.length +
          ∑ k ∈ w.live, (w.granted size available).sizeOf k := Finset.sum_insert new
    _ = w.liveBytes + size := by rw [sizeOf_granted_new, old, Int.add_comm]

lemma liveBytes_free {k : Nat} (mem : k ∈ w.live) :
    (w.step (.free k)).liveBytes = w.liveBytes - w.sizeOf k :=
  Finset.sum_erase_eq_sub mem

end Sizes

section Readings
variable {P : Int → Prop} {first p : Int}

/-- What the counter showed whenever a request was granted for a size of some sort. -/
def shown (w : Watch) (P : Int → Prop) : Set Int := {n | ∃ size, P size ∧ (size, n) ∈ w.readings}

lemma shown_granted_of_not (other : ¬ P size) : (w.granted size available).shown P = w.shown P := by
  ext n
  constructor
  · rintro ⟨s, holds, mem⟩
    rcases mem_readings_granted.1 mem with old | ⟨rfl, -⟩
    · exact ⟨s, holds, old⟩
    · exact absurd holds other
  · rintro ⟨s, holds, mem⟩
    exact ⟨s, holds, mem_readings_granted.2 (.inl mem)⟩

lemma shown_granted (holds : P size) : (w.granted size available).shown P =
    insert (w.granted size available).usage.bytes (w.shown P) := by
  ext n
  constructor
  · rintro ⟨s, holds, mem⟩
    rcases mem_readings_granted.1 mem with old | ⟨-, rfl⟩
    · exact .inr ⟨s, holds, old⟩
    · exact .inl rfl
  · rintro (rfl | ⟨s, holds, mem⟩)
    · exact ⟨size, holds, mem_readings_granted.2 (.inr ⟨rfl, rfl⟩)⟩
    · exact ⟨s, holds, mem_readings_granted.2 (.inl mem)⟩

/-- One more reading raises the most that was read, or leaves it. -/
lemma isGreatest_granted (h : IsGreatest (insert first (w.shown P)) p) (holds : P size) :
    IsGreatest (insert first ((w.granted size available).shown P))
      (max p (w.granted size available).usage.bytes) := by
  rw [shown_granted holds, Set.insert_comm, max_comm]
  exact h.insert _

end Readings

section Runs

/-- How the counters stand that showed `start` at first. -/
structure Shows (start : Usage) (w : Watch) : Prop where
  balance : w.ledger.pool.bytes = start.balance + w.liveBytes
  bytes : w.usage.bytes = start.bytes + w.liveBytes
  /-- The peak is the most that was read when a region was counted, or the first peak. -/
  peak : IsGreatest (insert start.peak (w.shown (· ≠ 0))) w.usage.peak
  /-- A peak that is not below the counter at first never is, nor below any reading. -/
  bounded : start.bytes ≤ start.peak → w.usage.bytes ≤ w.usage.peak ∧
    IsGreatest (insert start.peak (w.shown fun _ => True)) w.usage.peak

/-- What holds of a watch while the counter has room. -/
structure Kept (start : Usage) (w : Watch) : Prop extends w.Sized, w.Shows start

/-- A counter that has room shows the exact balance. -/
lemma bytes_of_fits (balance : w.ledger.pool.bytes = start.balance + w.liveBytes)
    (fits : w.Fits start.bytes) : w.usage.bytes = start.bytes + w.liveBytes := by
  change (IntKind.int .w64).wrap w.ledger.pool.bytes = _
  rw [balance, ← IntKind.wrap_of_holds fits]
  exact (Int.bmod_add_bmod ..).symm

lemma kept_ofUsage (start : Usage) : (ofUsage start).Kept start := by
  have greatest (P : Int → Prop) :
      IsGreatest (insert start.peak ((ofUsage start).shown P)) start.peak :=
    ⟨.inl rfl, fun n mem => mem.elim Int.le_of_eq fun ⟨_, _, mem⟩ => absurd mem List.not_mem_nil⟩
  exact {
    inside := fun k mem => absurd mem (Finset.notMem_empty k)
    nonneg := fun k mem => absurd mem (Finset.notMem_empty k)
    balance := (Int.add_zero _).symm
    bytes := (Int.add_zero _).symm
    peak := greatest _
    bounded := fun low => ⟨low, greatest _⟩ }

lemma Kept.granted (h : w.Kept start) (nonneg : 0 ≤ size)
    (fits : (w.granted size available).Fits start.bytes) :
    (w.granted size available).Kept start := by
  have balance : (w.granted size available).ledger.pool.bytes =
      start.balance + (w.granted size available).liveBytes := by
    rw [bytes_granted, h.balance, h.liveBytes_granted, Int.add_assoc]
  have usage := w.usage_granted size available
  refine ⟨h.toSized.granted nonneg, balance, bytes_of_fits balance fits, ?_, fun low => ?_⟩
  · by_cases zero : size = 0
    · rw [if_pos zero] at usage
      rw [shown_granted_of_not (not_not.2 zero), usage]
      exact h.peak
    · rw [if_neg zero] at usage
      rw [usage, peak_allocated, ← usage]
      exact isGreatest_granted h.peak zero
  · obtain ⟨le, all⟩ := h.bounded low
    -- Where the peak is not below the counter, not even the empty region makes a difference.
    have top : (w.granted size available).usage.peak =
        max w.usage.peak (w.granted size available).usage.bytes := by
      by_cases zero : size = 0
      · rw [if_pos zero] at usage
        rw [usage, max_eq_left le]
      · rw [if_neg zero] at usage
        rw [usage, peak_allocated]
    rw [top]
    exact ⟨le_max_right _ _, isGreatest_granted all trivial⟩

lemma Kept.refused (h : w.Kept start) (available : Int → Bool) :
    (w.refused available).Kept start :=
  ⟨⟨h.inside, h.nonneg⟩, h.balance, h.bytes, h.peak, h.bounded⟩

lemma Kept.free (h : w.Kept start) {k : Nat} (mem : k ∈ w.live)
    (fits : (w.step (.free k)).Fits start.bytes) : (w.step (.free k)).Kept start := by
  have usage := w.usage_free k
  have live := liveBytes_free mem
  have balance : (w.step (.free k)).ledger.pool.bytes =
      start.balance + (w.step (.free k)).liveBytes := by
    rw [live, ← Int.add_sub_assoc, ← h.balance]
    exact congrArg Usage.balance usage
  have bytes := bytes_of_fits balance fits
  have peak : (w.step (.free k)).usage.peak = w.usage.peak := by rw [usage, Usage.freed]
  refine ⟨h.toSized.free k, balance, bytes, ?_, fun low => ?_⟩
  · rw [peak]
    exact h.peak
  · obtain ⟨le, all⟩ := h.bounded low
    have before := h.bytes
    have size := h.nonneg k mem
    rw [peak]
    exact ⟨by omega, all⟩

/-- Each request that is allowed keeps the counters right. -/
lemma Kept.step (h : w.Kept start) (allowed : w.Allowed r) (fits : (w.step r).Fits start.bytes) :
    (w.step r).Kept start := by
  cases r with
  | allocate size available =>
    rcases w.step_allocate size available with ⟨nonneg, -, made⟩ | ⟨-, made⟩
    · rw [made] at fits ⊢
      exact h.granted nonneg fits
    · rw [made]
      exact h.refused available
  | free k => exact h.free allowed fits

lemma Allows.fits {bytes : Int} {requests : List Request} (h : w.Allows bytes requests) :
    w.Fits bytes := by
  cases requests with
  | nil => exact h
  | cons r rest => exact h.1

lemma Kept.after (h : w.Kept start) {requests : List Request}
    (allowed : w.Allows start.bytes requests) : (w.after requests).Kept start := by
  induction requests generalizing w with
  | nil => exact h
  | cons r rest ih => exact ih (h.step allowed.2.1 allowed.2.2.fits) allowed.2.2

lemma tracksPeak_after (w : Watch) (requests : List Request) :
    (w.after requests).ledger.pool.tracksPeak = w.ledger.pool.tracksPeak := by
  induction requests generalizing w with
  | nil => rfl
  | cons r rest ih => exact (ih (w.step r)).trans (w.tracksPeak_step r)

/-- No request lowers the peak. -/
lemma peak_le_step (w : Watch) (r : Request) : w.usage.peak ≤ (w.step r).usage.peak := by
  cases r with
  | allocate size available =>
    rcases w.step_allocate size available with ⟨-, -, made⟩ | ⟨-, made⟩
    · rw [made, usage_granted]
      split
      · exact Int.le_refl _
      · rw [peak_allocated]
        exact le_max_left _ _
    · rw [made]
      exact Int.le_refl _
  | free k =>
    rw [usage_free]
    exact Int.le_refl _

/-- What is refused, empty or negative is not counted. -/
lemma usage_step_of_uncounted
    (uncounted : size ≤ 0 ∨ ∃ e, ((w.ledger.providing available).allocate size).1 = .error e) :
    (w.step (.allocate size available)).usage = w.usage := by
  rcases w.step_allocate size available with ⟨nonneg, fine, made⟩ | ⟨-, made⟩
  · rcases uncounted with low | ⟨e, failed⟩
    · rw [made, usage_granted, if_pos (by omega)]
    · cases fine.symm.trans failed
  · rw [made]
    rfl

/-- After every run of requests the counter shows what it showed at first and the sizes of the
regions that are still out, and the peak that the pool tells is the most that was read when a region
was counted. No request lowers it, and one that is refused, empty or negative changes neither. -/
theorem counters_after {start : Usage} {requests : List Request}
    (allowed : (ofUsage start).Allows start.bytes requests) :
    let w := (ofUsage start).after requests
    w.Shows start ∧ w.ledger.pool.peak = w.usage.peak ∧
      (∀ r, w.usage.peak ≤ (w.step r).usage.peak) ∧
      ∀ size available,
        (size ≤ 0 ∨ ∃ e, ((w.ledger.providing available).allocate size).1 = .error e) →
        (w.step (.allocate size available)).usage = w.usage := by
  intro w
  have tracks : w.ledger.pool.tracksPeak = true := tracksPeak_after _ requests
  exact ⟨((kept_ofUsage start).after allowed).toShows, if_pos tracks, w.peak_le_step,
    fun _ _ => usage_step_of_uncounted⟩

/-- Two regions and an empty one are handed out and the last two given back; a negative request and
one that the memory is not there for come between. -/
def thereAndBack : List Request :=
  [.allocate 100 fun _ => true, .allocate (-1) fun _ => true, .allocate 0 fun _ => false,
    .allocate 50 fun _ => true, .allocate 50 fun _ => false, .free 2, .free 1]

theorem counters_after_thereAndBack :
    (ofUsage ⟨7, 20⟩).Allows 7 thereAndBack ∧
    let w := (ofUsage ⟨7, 20⟩).after thereAndBack
    w.Shows ⟨7, 20⟩ ∧ w.live = {0} ∧ w.usage = ⟨107, 157⟩ := by
  have allowed : (ofUsage ⟨7, 20⟩).Allows 7 thereAndBack := by decide +kernel
  exact ⟨allowed, (counters_after allowed).1, by decide +kernel, by decide +kernel⟩

end Runs

end Watch

end Ledger

end Columnar
