import Mathlib.Tactic.Common
import Mathlib.Algebra.BigOperators.Group.Finset.Basic
import Mathlib.Algebra.Ring.Int.Defs
import Columnar.Proofs.Memory.Buffer
import Columnar.Proofs.Memory.Shelf

/-!
# Lifetimes of regions

Buffers are requested from a pool, adopted, sliced and dropped in any order. The policy of the pool
may change from one request to the next, so what is granted once may be refused later. What a pool
is asked for is told as a list of calls: a region is granted when its buffer is made, and given back
when the last holder of the buffer lets go. Each action makes at most one call (`Shelf.Effect`).
Main statement: after any run of actions the outstanding bytes are the capacities of the regions
that registers reach, and each other region was given back once (`Shelf.accounts_after`).
-/

namespace Columnar

/-- The pool after `size` bytes were handed out. The empty region is never counted. -/
def Pool.granted (p : Pool) (size : Int) : Pool :=
  if size = 0 then p else { p with usage := p.usage.allocated size }

lemma Pool.bytes_granted (p : Pool) (size : Int) : (p.granted size).bytes = p.bytes + size := by
  unfold granted
  split
  · next zero => rw [zero, Int.add_zero]
  · change (p.usage.allocated size).balance = p.usage.balance + size
    unfold Usage.allocated
    simp only
    split <;> rfl

/-- The pool with another policy. -/
def Pool.deciding (p : Pool) (policy : Policy) : Pool := { p with policy }

lemma Pool.granted_deciding (p : Pool) (policy : Policy) (size : Int) :
    (p.deciding policy).granted size = (p.granted size).deciding policy := by
  unfold granted
  split <;> rfl

lemma Pool.free_deciding (p : Pool) (policy : Policy) (size : Int) :
    (p.deciding policy).free size = (p.free size).deciding policy := by
  unfold free
  split <;> rfl

/-- A call of a pool on account of a block: for a region, or to give it back. -/
inductive Call where
  | grant (block : Nat) (size : Int)
  | giveBack (block : Nat) (size : Int)
deriving DecidableEq, Repr

namespace Call

def block : Call → Nat
  | grant id _ => id
  | giveBack id _ => id

/-- The pool after a call. -/
def answer (p : Pool) : Call → Pool
  | grant _ size => p.granted size
  | giveBack _ size => p.free size

lemma answer_deciding (p : Pool) (policy : Policy) (c : Call) :
    answer (p.deciding policy) c = (answer p c).deciding policy := by
  cases c with
  | grant id size => exact p.granted_deciding policy size
  | giveBack id size => exact p.free_deciding policy size

/-- Calls that were answered already do not depend on the policy. -/
lemma foldl_answer_deciding (p : Pool) (policy : Policy) (calls : List Call) :
    calls.foldl answer (p.deciding policy) = (calls.foldl answer p).deciding policy := by
  induction calls generalizing p with
  | nil => rfl
  | cons c rest ih =>
    rw [List.foldl_cons, List.foldl_cons, answer_deciding]
    exact ih _

end Call

section Demands

/-- What a pool can be asked for. -/
inductive Demand where
  | buffer (size : Int)
  | bitmap (bits : Int)
  | emptyBitmap (bits : Int)
deriving DecidableEq, Repr

def Demand.fresh : Demand → Pooled Buffer
  | buffer size => Buffer.allocate size
  | bitmap bits => Buffer.allocateBitmap bits
  | emptyBitmap bits => Buffer.allocateEmptyBitmap bits

/-- Whether a pool is charged for the capacity of what it yields, and for nothing if it fails. -/
def Pooled.Charges (fresh : Pooled Buffer) : Prop :=
  ∀ p, match fresh.run p with
    | (.ok b, q) => q = p.granted b.capacity
    | (.error _, q) => q = p

lemma Pooled.Charges.map {fresh : Pooled Buffer} {f : Buffer → Buffer} (h : fresh.Charges)
    (same : ∀ b, (f b).capacity = b.capacity) :
    (do return f (← fresh) : Pooled Buffer).Charges := by
  intro p
  have charged := h p
  cases run : fresh.run p with
  | mk r q =>
    rw [run] at charged
    cases r with
    | ok b =>
      rw [Pooled.run_bind_ok run]
      exact charged.trans (by rw [same])
    | error e =>
      rw [Pooled.run_bind_error run]
      exact charged

/-- A buffer that takes up all of the region that was asked for. -/
lemma Pooled.charges_allocate {size : Int} {f : Bytes → Buffer}
    (whole : ∀ memory : Bytes, memory.size = size.toNat → (f memory).capacity = size) :
    (do return f (← Pooled.allocate size) : Pooled Buffer).Charges := by
  intro p
  have run := Pooled.run_allocate size p
  cases answer : p.policy p.bytes size with
  | some e =>
    rw [answer] at run
    rw [Pooled.run_bind_error run]
  | none =>
    rw [answer] at run
    rw [Pooled.run_bind_ok run]
    change _ = p.granted (f _).capacity
    rw [whole _ Array.size_ofFn]
    exact ite_not ..

lemma Buffer.charges_allocate (size : Int) : (allocate size).Charges := by
  unfold allocate
  by_cases negative : size < 0
  · rw [if_pos negative]
    exact fun p => rfl
  by_cases large : size > maxSize
  · rw [if_neg negative, if_pos large]
    exact fun p => rfl
  obtain ⟨n, rfl⟩ := Int.eq_ofNat_of_zero_le (Int.not_lt.1 negative)
  have padded : Rounding.paddedSize n = (n + gap n : Nat) := by
    rw [Rounding.paddedSize_eq (by unfold maxSize at large; omega), add_gap]
    rfl
  rw [if_neg negative, if_neg large, padded]
  refine Pooled.charges_allocate fun memory size => ?_
  rw [capacity, Buffer.padded, Array.size_append, Bytes.size_zeros, Array.size_extract]
  omega

lemma Demand.charges (demand : Demand) : demand.fresh.Charges := by
  cases demand with
  | buffer size => exact Buffer.charges_allocate size
  | bitmap bits =>
    refine (Buffer.charges_allocate _).map fun b => ?_
    rw [Buffer.capacity, Buffer.withMemory, Array.size_setIfInBounds]
    rfl
  | emptyBitmap bits =>
    refine (Buffer.charges_allocate _).map fun b => ?_
    rw [Buffer.capacity, Buffer.withMemory, Bytes.size_zeros]
    rfl

end Demands

namespace Shelf
variable {s t : Shelf} {id : Nat} {b : Block}

section Charging

/-- The blocks with regions that are not given back yet. -/
def charged (s : Shelf) : Finset Nat :=
  (Finset.range s.blocks.size).filter fun id => (s.region? id).isSome ∧ s.holders id ≠ 0

lemma mem_charged : id ∈ s.charged ↔ (s.region? id).isSome ∧ s.holders id ≠ 0 := by
  rw [charged, Finset.mem_filter, Finset.mem_range]
  exact ⟨fun h => h.2, fun h => ⟨lt_of_holders h.2, h⟩⟩

lemma mem_charged_iff (hb : s.blocks[id]? = some b) :
    id ∈ s.charged ↔ b.region?.isSome ∧ b.holders ≠ 0 := by
  rw [mem_charged, region?, holders, hb]
  rfl

lemma region?_size (s : Shelf) : s.region? s.blocks.size = none := by
  rw [region?, Array.getElem?_eq_none (Nat.le_refl _)]
  rfl

lemma size_notMem_charged (s : Shelf) : s.blocks.size ∉ s.charged := by
  rw [mem_charged, region?_size]
  exact fun h => Bool.noConfusion h.1

/-- A block that is not from the pool has no region. -/
lemma region?_put_of_none {block : Block} (none : block.region? = none) (j : Nat) :
    (s.put block).region? j = s.region? j := by
  rw [region?_put]
  split
  · next new => rw [new, none, region?_size]
  · rfl

/-- A block keeps its region as long as it has holders. -/
lemma charged_withHolders (hb : s.blocks[id]? = some b) (held : b.holders ≠ 0) (n : Nat) :
    (s.withHolders id b n).charged = if n = 0 then s.charged.erase id else s.charged := by
  have own : s.holders id = b.holders := by rw [holders, hb]; rfl
  ext j
  rw [mem_charged, region?_withHolders hb, holders_withHolders hb]
  by_cases here : j = id
  · subst here
    by_cases zero : n = 0
    · simp [zero]
    · simp [zero, mem_charged, own, held]
  · by_cases zero : n = 0
    · simp [zero, here, mem_charged]
    · simp [zero, here, mem_charged]

lemma charged_put {block : Block} (one : block.holders = 1) :
    (s.put block).charged =
      if block.region?.isSome then insert s.blocks.size s.charged else s.charged := by
  ext j
  rw [mem_charged, region?_put, holders_put]
  by_cases new : j = s.blocks.size
  · subst new
    by_cases pooled : block.region?.isSome = true
    · simp [pooled, one]
    · simp [pooled, size_notMem_charged]
  · by_cases pooled : block.region?.isSome = true
    · simp [pooled, new, mem_charged]
    · simp [pooled, new, mem_charged]

end Charging

section Effects

/-- What comes of an action: no call of the pool, a region for a new block, or a region that is
given back. -/
inductive Effect (s t : Shelf) : List Call → Prop where
  | nothing (regions : ∀ j, t.region? j = s.region? j) (charged : t.charged = s.charged)
      (pool : t.pool = s.pool) : Effect s t []
  | grants {size : Int}
      (regions : ∀ j, t.region? j = if j = s.blocks.size then some size else s.region? j)
      (charged : t.charged = insert s.blocks.size s.charged)
      (pool : t.pool = s.pool.granted size) : Effect s t [.grant s.blocks.size size]
  | givesBack {id : Nat} {size : Int} (held : id ∈ s.charged) (region : s.region? id = some size)
      (regions : ∀ j, t.region? j = s.region? j) (charged : t.charged = s.charged.erase id)
      (pool : t.pool = s.pool.free size) : Effect s t [.giveBack id size]

/-- The calls on account of a block so far. -/
def history (s : Shelf) (id : Nat) : List Call :=
  match s.region? id with
  | none => []
  | some size =>
    if id ∈ s.charged then [.grant id size] else [.grant id size, .giveBack id size]

/-- The bytes of the regions that are not given back yet. -/
def chargedBytes (s : Shelf) : Int := ∑ id ∈ s.charged, (s.region? id).getD 0

namespace Effect
variable {calls : List Call}

/-- What comes of an action counts from any shelf before with the same regions and pool. -/
lemma after {r : Shelf} (same : ∀ j, s.region? j = r.region? j) (kept : s.charged = r.charged)
    (size : s.blocks.size = r.blocks.size) (old : s.pool = r.pool) (h : Effect s t calls) :
    Effect r t calls := by
  cases h with
  | nothing regions charged pool =>
    exact .nothing (fun j => (regions j).trans (same j)) (charged.trans kept) (pool.trans old)
  | grants regions charged pool =>
    rw [size, kept] at charged
    rw [old] at pool
    rw [size]
    exact .grants (fun j => by rw [regions, same, size]) charged pool
  | givesBack held region regions charged pool =>
    rw [kept] at held charged
    rw [same] at region
    rw [old] at pool
    exact .givesBack held region (fun j => (regions j).trans (same j)) charged pool

/-- The pool is what the calls make of it. -/
lemma pool_eq (h : Effect s t calls) : t.pool = calls.foldl Call.answer s.pool := by
  cases h with
  | nothing _ _ pool => exact pool
  | grants _ _ pool => exact pool
  | givesBack _ _ _ _ pool => exact pool

/-- Regions and outstanding bytes change alike. -/
lemma bytes_eq (h : Effect s t calls) :
    t.pool.bytes + s.chargedBytes = s.pool.bytes + t.chargedBytes := by
  cases h with
  | nothing regions charged pool =>
    rw [pool, chargedBytes, chargedBytes, charged]
    simp only [regions]
  | @grants size regions charged pool =>
    have old : ∑ id ∈ s.charged, (t.region? id).getD 0 = s.chargedBytes :=
      Finset.sum_congr rfl fun id mem => by
        have old : ¬ id = s.blocks.size := fun e => s.size_notMem_charged (e ▸ mem)
        rw [regions, if_neg old]
    have new : t.chargedBytes = size + s.chargedBytes := by
      rw [chargedBytes, charged, Finset.sum_insert s.size_notMem_charged, old, regions, if_pos rfl]
      rfl
    rw [pool, Pool.bytes_granted, new]
    omega
  | @givesBack id size held region regions charged pool =>
    have rest : t.chargedBytes = s.chargedBytes - size := by
      rw [chargedBytes, charged]
      simp only [regions]
      rw [Finset.sum_erase_eq_sub held, region]
      rfl
    rw [pool, Pool.bytes_free, rest]
    omega

/-- The calls on account of a block go on from where they were. -/
lemma history_eq (h : Effect s t calls) (id : Nat) :
    t.history id = s.history id ++ calls.filter fun c => c.block = id := by
  cases h with
  | nothing regions charged pool =>
    rw [history, history, regions, charged]
    exact (List.append_nil _).symm
  | @grants size regions charged pool =>
    rw [history, history, regions, charged]
    by_cases new : id = s.blocks.size
    · subst new
      simp [region?_size, Call.block]
    · simp [new, Ne.symm new, Call.block]
  | @givesBack i size held region regions charged pool =>
    rw [history, history, regions, charged]
    by_cases here : id = i
    · subst here
      simp [region, held, Call.block]
    · simp [here, Ne.symm here, Call.block]

end Effect

end Effects

section Dropping

/-- The calls that letting go of a block makes. -/
def givenUp (s : Shelf) (id : Nat) : List Call :=
  match s.blocks[id]? with
  | none => []
  | some b =>
    if b.holders ≠ 1 then []
    else
      match b.backing with
      | .pooled => [.giveBack id b.capacity]
      | .foreign => []
      | .view parent _ =>
        if parent < id then (s.withHolders id b (b.holders - 1)).givenUp parent else []
termination_by id

lemma letGo_eq (hb : s.blocks[id]? = some b) : s.letGo id =
    let rest := s.withHolders id b (b.holders - 1)
    if b.holders ≠ 1 then rest
    else
      match b.backing with
      | .pooled => { rest with pool := s.pool.free b.capacity }
      | .foreign => rest
      | .view parent _ => if parent < id then rest.letGo parent else rest := by
  rw [letGo]
  simp only [hb]
  rfl

lemma givenUp_eq (hb : s.blocks[id]? = some b) : s.givenUp id =
    if b.holders ≠ 1 then []
    else
      match b.backing with
      | .pooled => [.giveBack id b.capacity]
      | .foreign => []
      | .view parent _ =>
        if parent < id then (s.withHolders id b (b.holders - 1)).givenUp parent else [] := by
  rw [givenUp]
  simp only [hb]

/-- Letting go of a block gives back the region of the root that has no holder left, if any. -/
lemma Counted.letGo (h : s.Counted (some id)) :
    (s.letGo id).Counted none ∧ Effect s (s.letGo id) (s.givenUp id) := by
  induction id using Nat.strong_induction_on generalizing s with
  | _ id ih =>
    have lt := h.inside id rfl
    have hb : s.blocks[id]? = some s.blocks[id] := Array.getElem?_eq_getElem lt
    generalize s.blocks[id] = b at hb
    have own := h.holders_eq hb
    rw [if_pos rfl] at own
    have counted := h.release hb
    have regions := region?_withHolders hb (b.holders - 1)
    have charged := charged_withHolders hb (by omega) (b.holders - 1)
    rw [letGo_eq hb, givenUp_eq hb]
    by_cases last : b.holders = 1
    · rw [if_neg (Decidable.not_not.2 last), if_neg (Decidable.not_not.2 last)]
      rw [if_pos last] at counted
      rw [if_pos (by omega)] at charged
      have region : s.region? id = b.region? := by rw [region?, hb]; rfl
      have held : id ∈ s.charged ↔ b.region?.isSome = true :=
        (mem_charged_iff hb).trans (and_iff_left (by omega))
      cases backing : b.backing with
      | pooled =>
        have yields : b.region? = some b.capacity := if_pos backing
        have root : b.parent? = none := by rw [Block.parent?, backing]
        rw [root] at counted
        exact ⟨counted.withPool _,
          .givesBack (held.2 (yields ▸ rfl)) (region.trans yields) regions charged rfl⟩
      | foreign =>
        have yields : b.region? = none := by simp [Block.region?, backing]
        have root : b.parent? = none := by rw [Block.parent?, backing]
        rw [root] at counted
        rw [Finset.erase_eq_of_notMem (by simp [held, yields])] at charged
        exact ⟨counted, .nothing regions charged rfl⟩
      | view p offset =>
        have yields : b.region? = none := by simp [Block.region?, backing]
        have looks : b.parent? = some p := by rw [Block.parent?, backing]
        have older := h.older id p (by rw [parent?_eq, hb]; exact looks)
        rw [looks] at counted
        rw [Finset.erase_eq_of_notMem (by simp [held, yields])] at charged
        obtain ⟨counted, effect⟩ := ih p older counted
        -- The view itself gives nothing back, so what its parent gives back is all.
        simp only [if_pos older]
        exact ⟨counted, effect.after regions charged Array.size_setIfInBounds rfl⟩
    · rw [if_pos last, if_pos last]
      rw [if_neg last] at counted
      rw [if_neg (by omega)] at charged
      exact ⟨counted, .nothing regions charged rfl⟩

end Dropping

section Actions

/-- The shelf over a pool with another policy. -/
def deciding (s : Shelf) (policy : Policy) : Shelf := { s with pool := s.pool.deciding policy }

/-- What can be done with a shelf. A demand comes with the policy that decides on it. -/
inductive Action where
  | allocate (demand : Demand) (policy : Policy)
  | adopt (bytes : Bytes)
  | slice (id : Nat) (offset length : Int)
  | drop (register : Nat)

namespace Action

/-- The shelf as an action finds it. -/
def opening (s : Shelf) : Action → Shelf
  | allocate _ policy => s.deciding policy
  | _ => s

/-- The shelf after an action. Dropping a register that is not there changes nothing. -/
def perform (s : Shelf) : Action → Shelf
  | allocate demand policy => ((s.deciding policy).allocate demand.fresh).2
  | adopt bytes => s.putForeign bytes
  | slice id offset length => s.slice id offset length
  | drop register => ((s.drop register).toOption).getD s

/-- A block that is sliced is one that a register reaches. -/
def Allowed (s : Shelf) : Action → Prop
  | slice id _ _ => s.Live id
  | _ => True

/-- The calls of the pool that an action makes. -/
def calls (s : Shelf) : Action → List Call
  | allocate demand policy =>
    match ((s.deciding policy).allocate demand.fresh).1 with
    | .ok b => [.grant s.blocks.size b.capacity]
    | .error _ => []
  | drop register =>
    match s.registers[register]? with
    | some (some id) => (s.emptied register).givenUp id
    | _ => []
  | _ => []

end Action

/-- A demand makes a block whose capacity the pool is charged for, or a register that holds
nothing. -/
lemma allocate_cases (s : Shelf) (demand : Demand) :
    (∃ b, s.allocate demand.fresh = (.ok b, { s with pool := s.pool.granted b.capacity }.put
      ⟨.pooled, b, b.size, b.capacity, 1⟩)) ∨
    ∃ e, s.allocate demand.fresh = (.error e, s.putNothing) := by
  have charges := demand.charges s.pool
  unfold allocate
  cases run : demand.fresh.run s.pool with
  | mk r pool =>
    rw [run] at charges
    cases r with
    | ok b =>
      obtain rfl : pool = s.pool.granted b.capacity := charges
      exact .inl ⟨b, rfl⟩
    | error e =>
      obtain rfl : pool = s.pool := charges
      exact .inr ⟨e, rfl⟩

/-- A demand that fails changes nothing of the pool. -/
lemma pool_allocate_of_error {demand : Demand} {e : Fault}
    (failed : (s.allocate demand.fresh).1 = .error e) :
    (s.allocate demand.fresh).2.pool = s.pool := by
  rcases s.allocate_cases demand with ⟨b, made⟩ | ⟨e, made⟩
  · rw [made] at failed
    cases failed
  · rw [made]
    rfl

/-- Each action keeps the count of holders right, and changes the pool by its calls. -/
lemma Counted.perform (h : s.Counted none) {a : Action} (allowed : a.Allowed s) :
    (a.perform s).Counted none ∧ Effect (a.opening s) (a.perform s) (a.calls s) := by
  cases a with
  | allocate demand policy =>
    rw [Action.opening, Action.perform, Action.calls]
    rcases (s.deciding policy).allocate_cases demand with ⟨b, made⟩ | ⟨e, made⟩
    · rw [made]
      exact ⟨(h.withPool _).put rfl, .grants region?_put (charged_put rfl) rfl⟩
    · rw [made]
      exact ⟨(h.withPool _).putNothing, .nothing (fun _ => rfl) rfl rfl⟩
  | adopt bytes =>
    exact ⟨h.put rfl, .nothing (region?_put_of_none rfl) (charged_put rfl) rfl⟩
  | slice id offset length =>
    have held := h.live_iff.1 allowed
    have lt := lt_of_holders held
    have hb : s.blocks[id]? = some s.blocks[id] := Array.getElem?_eq_getElem lt
    generalize s.blocks[id] = b at hb
    rw [holders, hb] at held
    refine ⟨(h.retain hb held).put rfl, .nothing (fun j => ?_) ?_ rfl⟩
    · apply (region?_put_of_none rfl j).trans
      rw [retain_eq hb]
      exact region?_withHolders hb _ j
    · apply (charged_put rfl).trans
      change (s.retain id).charged = s.charged
      rw [retain_eq hb, charged_withHolders hb held]
      exact if_neg (Nat.succ_ne_zero _)
  | drop register =>
    simp only [Action.perform, Action.calls, drop_eq]
    cases hr : s.registers[register]? with
    | none => exact ⟨h, .nothing (fun _ => rfl) rfl rfl⟩
    | some held =>
      cases held with
      | none => exact ⟨h, .nothing (fun _ => rfl) rfl rfl⟩
      | some id =>
        obtain ⟨counted, effect⟩ := (h.emptied hr).letGo
        have same (j : Nat) : (s.emptied register).region? j = s.region? j := rfl
        exact ⟨counted, effect.after same rfl rfl rfl⟩

end Actions

section Runs

/-- The shelf after some actions. -/
def after (s : Shelf) : List Action → Shelf
  | [] => s
  | a :: rest => (a.perform s).after rest

/-- Whether each of some actions is allowed when its turn comes. -/
def Allows (s : Shelf) : List Action → Prop
  | [] => True
  | a :: rest => a.Allowed s ∧ (a.perform s).Allows rest

/-- The calls of the pool that some actions make. -/
def calls (s : Shelf) : List Action → List Call
  | [] => []
  | a :: rest => a.calls s ++ (a.perform s).calls rest

/-- What holds of a shelf on a pool that was `pool` before the calls in `log`. -/
structure Balanced (pool : Pool) (log : List Call) (s : Shelf) : Prop where
  counted : s.Counted none
  replayed : s.pool.deciding pool.policy = log.foldl Call.answer pool
  bytes : s.pool.bytes = pool.bytes + s.chargedBytes
  history : ∀ id, (log.filter fun c => c.block = id) = s.history id

variable {pool : Pool} {log : List Call}

lemma balanced_empty (pool : Pool) : Balanced pool [] { pool } := by
  have nothing (id : Nat) : region? { pool } id = none := by
    rw [region?, Array.getElem?_empty]
    rfl
  have none : charged { pool } = ∅ := rfl
  refine ⟨⟨fun id mem => ?_, fun id p looks => ?_, fun id owed => ?_, fun id lt => ?_⟩, rfl, ?_,
    fun id => ?_⟩
  · exact absurd mem (Array.not_mem_empty _)
  · rw [parent?_eq, Array.getElem?_empty] at looks
    cases looks
  · cases owed
  · exact absurd lt (Nat.not_lt_zero id)
  · rw [chargedBytes, none, Finset.sum_empty, Int.add_zero]
  · rw [history, nothing]
    rfl

/-- Another policy changes nothing of what holds. -/
lemma Balanced.opening (h : Balanced pool log s) (a : Action) :
    Balanced pool log (a.opening s) := by
  cases a with
  | allocate demand policy => exact ⟨h.counted.withPool _, h.replayed, h.bytes, h.history⟩
  | adopt | slice | drop => exact h

lemma Balanced.perform (h : Balanced pool log s) {a : Action} (allowed : a.Allowed s) :
    Balanced pool (log ++ a.calls s) (a.perform s) := by
  obtain ⟨counted, effect⟩ := h.counted.perform allowed
  have opened := h.opening a
  refine ⟨counted, ?_, ?_, fun id => ?_⟩
  · rw [List.foldl_append, ← opened.replayed, Call.foldl_answer_deciding, ← effect.pool_eq]
  · have bytes := effect.bytes_eq
    have before := opened.bytes
    omega
  · rw [List.filter_append, opened.history, effect.history_eq]

lemma Balanced.after (h : Balanced pool log s) {actions : List Action}
    (allowed : s.Allows actions) : Balanced pool (log ++ s.calls actions) (s.after actions) := by
  induction actions generalizing s log with
  | nil =>
    rw [calls, List.append_nil]
    exact h
  | cons a rest ih =>
    rw [calls, ← List.append_assoc]
    exact ih (h.perform allowed.1) allowed.2

/-- How the pool stands to what registers reach, after the calls in `log` of a pool that was
`pool`. -/
structure Accounts (pool : Pool) (log : List Call) (s : Shelf) : Prop where
  /-- The outstanding bytes are the capacities of the regions that registers reach. -/
  outstanding : ∃ ids : Finset Nat, (∀ id, id ∈ ids ↔ s.Live id ∧ (s.region? id).isSome) ∧
    s.pool.bytes = pool.bytes + ∑ id ∈ ids, (s.region? id).getD 0
  /-- The pool, but for the policy that decided last, is what the calls make of it. -/
  replayed : s.pool.deciding pool.policy = log.foldl Call.answer pool
  reached : ∀ id size, s.region? id = some size → s.Live id →
    (log.filter fun c => c.block = id) = [.grant id size]
  /-- A region that nothing reaches any more was given back once, with its size. -/
  lost : ∀ id size, s.region? id = some size → ¬ s.Live id →
    (log.filter fun c => c.block = id) = [.grant id size, .giveBack id size]
  others : ∀ id, s.region? id = none → (log.filter fun c => c.block = id) = []
  emptied : (∀ id, some id ∉ s.registers) → s.pool.bytes = pool.bytes

/-- Without registers that hold a block nothing is reached. -/
lemma not_live_of_empty (empty : ∀ id, some id ∉ s.registers) (id : Nat) : ¬ s.Live id :=
  fun ⟨held, mem, _⟩ => empty held mem

lemma Balanced.accounts (h : Balanced pool log s) : Accounts pool log s := by
  have charged (id : Nat) : id ∈ s.charged ↔ s.Live id ∧ (s.region? id).isSome := by
    rw [mem_charged, h.counted.live_iff, and_comm]
  refine ⟨⟨s.charged, charged, h.bytes⟩, h.replayed, fun id size region live => ?_,
    fun id size region gone => ?_, fun id foreign => ?_, fun empty => ?_⟩
  · have mem := (charged id).2 ⟨live, region ▸ rfl⟩
    rw [h.history id, Shelf.history, region]
    exact if_pos mem
  · have notMem : id ∉ s.charged := fun mem => gone ((charged id).1 mem).1
    rw [h.history id, Shelf.history, region]
    exact if_neg notMem
  · rw [h.history id, Shelf.history, foreign]
  · have none : s.charged = ∅ := Finset.eq_empty_of_forall_notMem fun id mem =>
      not_live_of_empty empty id ((charged id).1 mem).1
    rw [h.bytes, chargedBytes, none, Finset.sum_empty, Int.add_zero]

/-- After any run of actions the pool is charged for the regions that registers reach, each of the
others was given back once, and a demand that fails changes nothing of the pool, whatever policy
decides on it. -/
theorem accounts_after {pool : Pool} {actions : List Action}
    (allowed : Allows { pool } actions) :
    Accounts pool (calls { pool } actions) (after { pool } actions) ∧
      ∀ demand policy e,
        (((after { pool } actions).deciding policy).allocate (Demand.fresh demand)).1 = .error e →
        (((after { pool } actions).deciding policy).allocate (Demand.fresh demand)).2.pool =
          (after { pool } actions).pool.deciding policy :=
  ⟨((balanced_empty pool).after allowed).accounts,
    fun _ _ _ failed => pool_allocate_of_error failed⟩

/-- A buffer, a view of it and a view of the view, which alone is kept after the same demand found
no memory. -/
def lastView : List Action :=
  [.allocate (.buffer 100) Pool.system.policy, .slice 0 10 50, .slice 1 5 20,
    .allocate (.buffer 100) (.system fun _ => false), .drop 0, .drop 1]

theorem accounts_after_lastView :
    Allows { pool := .system } lastView ∧
      Accounts .system (calls { pool := .system } lastView) (after { pool := .system } lastView) ∧
      (after { pool := .system } lastView).Live 0 ∧
      (after { pool := .system } lastView).pool.bytes = 128 ∧
      (after { pool := .system } (lastView ++ [.drop 2])).pool.bytes = 0 := by
  have first : Live (after { pool := .system } (lastView.take 1)) 0 :=
    ⟨0, by decide +kernel, .refl⟩
  have second : Live (after { pool := .system } (lastView.take 2)) 1 :=
    ⟨1, by decide +kernel, .refl⟩
  have allowed : Allows { pool := .system } lastView :=
    ⟨trivial, first, second, trivial, trivial, trivial, trivial⟩
  have outer : (after { pool := .system } lastView).parent? 2 = some 1 := by decide +kernel
  have inner : (after { pool := .system } lastView).parent? 1 = some 0 := by decide +kernel
  have kept : (after { pool := .system } lastView).Live 0 :=
    ⟨2, by decide +kernel, .tail (.tail .refl outer) inner⟩
  exact ⟨allowed, (accounts_after allowed).1, kept, by decide +kernel, by decide +kernel⟩

end Runs

end Shelf

end Columnar
