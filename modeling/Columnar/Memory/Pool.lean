import Columnar.Bytes

/-!
# Memory pools

A pool hands out regions of memory and keeps count of the bytes that are outstanding. Its policy
sees the outstanding bytes and the size of a request, and either grants it or says why not. Fresh
memory holds unspecified bytes, so a pool also says what they are; no answer depends on them.
-/

namespace Columnar

/-- The bytes handed out less those given back, and the most that a counter of them showed. -/
structure Usage where
  balance : Int := 0
  peak : Int := 0
deriving DecidableEq, Repr, Inhabited

namespace Usage

/-- The balance as a counter of 64 bits shows it. -/
def bytes (u : Usage) : Int := (IntKind.int .w64).wrap u.balance

/-- The usage after `size` more bytes were handed out. Only this can raise the peak. -/
def allocated (u : Usage) (size : Int) : Usage :=
  let now : Usage := ⟨u.balance + size, u.peak⟩
  if now.bytes > u.peak then { now with peak := now.bytes } else now

/-- The usage after `size` bytes were given back. -/
def freed (u : Usage) (size : Int) : Usage := ⟨u.balance - size, u.peak⟩

end Usage

/-- Decides on a request by the bytes outstanding and the size asked for. -/
abbrev Policy := Int → Int → Option AllocationError

namespace Policy

/-- The policy of the system: a request that is not negative is granted if it is empty or if the
memory is there. -/
def system (available : Int → Bool) : Policy := fun _ size =>
  if size < 0 then some (.negativeRequest size)
  else if size = 0 ∨ available size then none
  else some (.exhausted size)

/-- A policy that lets at most `limit` bytes be outstanding and leaves the rest to another one. -/
def capped (limit : Int) (inner : Policy) : Policy := fun outstanding size =>
  if outstanding + size > limit then some (.overLimit size) else inner outstanding size

def generous : Policy := fun _ _ => none

end Policy

structure Pool where
  name : Text
  policy : Policy
  /-- Whether the pool can tell the peak of its usage. -/
  tracksPeak : Bool
  usage : Usage := {}
  /-- The byte at each position of memory that was not written yet. -/
  scratch : Nat → UInt8 := fun _ => 0

namespace Pool

def provides (size : Int) : Bool := size < 2 ^ 50

def system : Pool := ⟨Text.ascii "system", .system provides, true, {}, fun _ => 0⟩

/-- A pool over the system's that lets at most `limit` bytes be outstanding. -/
def capped (limit : Int) : Pool :=
  ⟨Text.ascii "capped", .capped limit (.system provides), false, {}, fun _ => 0⟩

def bytes (p : Pool) : Int := p.usage.balance

/-- The most bytes that were ever outstanding, or -1 from a pool that does not track it. -/
def peak (p : Pool) : Int := if p.tracksPeak then p.usage.peak else -1

/-- The pool after `size` bytes were given back. The empty region is never counted. -/
def free (p : Pool) (size : Int) : Pool :=
  if size = 0 then p else { p with usage := p.usage.freed size }

end Pool

/-- A computation that may ask a pool for memory. What it holds when it fails is in the pool. -/
abbrev Pooled := ExceptT Fault (StateM Pool)

namespace Pooled

def ofChecked {α : Type} (c : Checked α) : Pooled α := ExceptT.mk (pure c)

instance : MonadLift Checked Pooled := ⟨ofChecked⟩

/-- A region of `size` bytes, uninitialized. The empty region is never counted. -/
def allocate (size : Int) : Pooled Bytes := do
  let pool ← get
  match pool.policy pool.bytes size with
  | some e => throw (.allocation e)
  | none =>
    if size ≠ 0 then set { pool with usage := pool.usage.allocated size }
    return Array.ofFn fun i : Fin size.toNat => pool.scratch i

def free (size : Int) : Pooled Unit := modify (·.free size)

end Pooled

end Columnar
