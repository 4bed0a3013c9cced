import Columnar.Memory.Buffer

/-!
# Shelves of shared buffers

A shelf keeps blocks of memory that several holders share: registers hold blocks, and a view holds
the block that it looks into. Each block counts its holders. When the last holder lets go the block
is given up: memory taken from the pool is returned, and a view lets go of its own parent.
-/

namespace Columnar

/-- What stands behind a block. -/
inductive Backing where
  /-- Memory from the pool, which is writable. -/
  | pooled
  /-- Memory that belongs to someone else. -/
  | foreign
  /-- The memory of another block, from a position on. -/
  | view (parent : Nat) (offset : Int)
deriving DecidableEq, Repr

/-- A block of memory and the number of its holders. The contents of a view are those of its root,
so only a root keeps bytes. -/
structure Block where
  backing : Backing
  buffer : Buffer
  size : Int
  capacity : Int
  holders : Nat := 1
deriving DecidableEq, Repr

/-- Blocks by number, the blocks that registers hold, and the pool. -/
structure Shelf where
  pool : Pool
  blocks : Array Block := #[]
  registers : Array (Option Nat) := #[]

namespace Shelf

def held (s : Shelf) (register : Nat) : Checked (Option Nat) :=
  match s.registers[register]? with
  | some held => .ok held
  | none => .error .unknownRegister

def blockIn (s : Shelf) (register : Nat) : Checked Nat := do
  match ← s.held register with
  | some id => return id
  | none => throw .emptyRegister

/-- The root of a block and the position of the block in it. A parent is older than its views. -/
def root (s : Shelf) (id : Nat) : Nat × Int :=
  match (s.blocks[id]?).map Block.backing with
  | some (.view parent offset) =>
    if parent < id then
      let (root, start) := s.root parent
      (root, start + offset)
    else (id, 0)
  | _ => (id, 0)
termination_by id

/-- Where a block begins: the root of its memory and the position in it. The empty regions that a
pool hands out are all in one place. -/
def place (s : Shelf) (id : Nat) : Option Nat × Int :=
  let (root, start) := s.root id
  let isEmpty := (s.blocks[root]?).any fun b => b.backing = .pooled ∧ b.capacity = 0
  (if isEmpty then none else some root, start)

/-- The memory of a block's root, padding included. -/
def memory (s : Shelf) (id : Nat) : Bytes :=
  (s.blocks[(s.root id).1]?).elim #[] fun b => b.buffer.memory

def contents (s : Shelf) (id : Nat) : Checked Bytes := do
  let some block := s.blocks[id]? | throw .stray
  (s.memory id).span (s.root id).2 block.size

/-- The shelf with a new block in a new register. -/
def put (s : Shelf) (block : Block) : Shelf :=
  { s with
    blocks := s.blocks.push block
    registers := s.registers.push (some s.blocks.size) }

/-- The shelf with a new register that holds nothing. -/
def putNothing (s : Shelf) : Shelf := { s with registers := s.registers.push none }

/-- The shelf with one more holder of a block. -/
def retain (s : Shelf) (id : Nat) : Shelf :=
  { s with blocks := s.blocks.modify id fun b => { b with holders := b.holders + 1 } }

/-- The shelf after a holder let go of a block. -/
def letGo (s : Shelf) (id : Nat) : Shelf :=
  match s.blocks[id]? with
  | none => s
  | some b =>
    let s' := { s with blocks := s.blocks.setIfInBounds id { b with holders := b.holders - 1 } }
    if b.holders ≠ 1 then s'
    else
      match b.backing with
      | .pooled => { s' with pool := s'.pool.free b.capacity }
      | .foreign => s'
      | .view parent _ => if parent < id then s'.letGo parent else s'
termination_by id

/-- Puts what an allocation yields in a new register, which holds nothing if it failed. -/
def allocate (s : Shelf) (fresh : Pooled Buffer) : Checked Buffer × Shelf :=
  match fresh.run s.pool with
  | (.ok b, pool) => (.ok b, { s with pool }.put ⟨.pooled, b, b.size, b.capacity, 1⟩)
  | (.error e, pool) => (.error e, { s with pool }.putNothing)

def putForeign (s : Shelf) (bytes : Bytes) : Shelf :=
  s.put ⟨.foreign, .ofBytes bytes, bytes.size, bytes.size, 1⟩

/-- A view of `length` bytes of a block from position `offset`, which nothing checks. -/
def slice (s : Shelf) (parent : Nat) (offset length : Int) : Shelf :=
  (s.retain parent).put ⟨.view parent offset, .ofBytes #[], length, length, 1⟩

/-- The shelf after a register let go of its block. A register that holds nothing stays empty. -/
def drop (s : Shelf) (register : Nat) : Checked Shelf := do
  match ← s.held register with
  | none => return s
  | some id => return { s with registers := s.registers.setIfInBounds register none }.letGo id

def writable (s : Shelf) (id : Nat) : Bool :=
  (s.blocks[id]?).any fun b => b.backing = .pooled

def parent? (s : Shelf) (id : Nat) : Option Nat :=
  match (s.blocks[id]?).map Block.backing with
  | some (.view parent _) => some parent
  | _ => none

/-- Whether a block's parent is what a register holds. A block without a parent fits a register that
holds nothing. -/
def isViewOf (s : Shelf) (id register : Nat) : Checked Bool := do
  return s.parent? id == (← s.held register)

/-- The shelf with bytes of a writable block replaced, which may lie in its padding. Every view of
them changes too. -/
def write (s : Shelf) (id : Nat) (position : Int) (new : Bytes) : Checked Shelf := do
  let some block := s.blocks[id]? | throw .stray
  if ¬ s.writable id then throw .stray
  let memory ← block.buffer.memory.overwrite position new
  let block := { block with buffer := block.buffer.withMemory memory }
  return { s with blocks := s.blocks.setIfInBounds id block }

/-- Whether the first `n` bytes of both blocks exist and are equal. -/
def equalsUpTo (s : Shelf) (a b : Nat) (n : Int) : Checked Bool := do
  let some left := s.blocks[a]? | throw .stray
  let some right := s.blocks[b]? | throw .stray
  if left.size < n ∨ right.size < n then return false
  if s.place a = s.place b ∨ n = 0 then return true
  let x ← (← s.contents a).span 0 n
  let y ← (← s.contents b).span 0 n
  return x == y

/-- Whether both blocks have the same size and bytes. -/
def equals (s : Shelf) (a b : Nat) : Checked Bool := do
  let some left := s.blocks[a]? | throw .stray
  let some right := s.blocks[b]? | throw .stray
  if left.size ≠ right.size then return false
  s.equalsUpTo a b left.size

end Shelf

end Columnar
