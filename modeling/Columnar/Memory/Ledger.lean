import Columnar.Memory.Pool

/-!
# Ledgers of regions

A ledger records the regions that a pool handed out, so that each can be given back with the size
that it was asked for.
-/

namespace Columnar

/-- A pool together with the sizes of the regions that it handed out, in order. -/
structure Ledger where
  pool : Pool
  regions : List Int := []

namespace Ledger

/-- The ledger after a request, and its failure if it was refused. -/
def allocate (l : Ledger) (size : Int) : Checked Unit × Ledger :=
  match Pooled.allocate size |>.run l.pool with
  | (.ok _, pool) => (.ok (), ⟨pool, l.regions ++ [size]⟩)
  | (.error e, pool) => (.error e, ⟨pool, l.regions⟩)

/-- The ledger after region number `k` was given back. -/
def free (l : Ledger) (k : Nat) : Ledger :=
  { l with pool := l.pool.free (l.regions.getD k 0) }

end Ledger

end Columnar
