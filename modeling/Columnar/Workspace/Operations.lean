import Columnar.Workspace.Counting
import Columnar.Gather.Recording

/-!
# Operations on registers

Every operation that makes a column puts it in a new register, which stays empty if the operation
fails. The others answer about the columns in registers.
-/

namespace Columnar.Session

/-- Runs a computation that asks the workspace's pool for memory. -/
def pooled {α : Type} (p : Pooled α) : Session α := do
  let w ← get
  let (result, pool) := p.run w.pool
  set { w with pool }
  ofExcept result

/-- A new register for a column of which nothing is shared. -/
def addInput (c : Column) : Session Nat := produce do openRecord (← addColumn c)

/-- A new register that holds nothing. -/
def addNothing : Session Nat := produce (throw .emptyRegister)

/-- A view of a window of a record, whose parts other than the window stay shared. -/
def openWindow (id : Nat) (window : Column) : Session Nat := do
  let r := (← get).record id
  openRecord
    (← addRecord
      { r with length := window.length, offset := window.offset, nullCount := window.nullCount })

def slice (register : Nat) (offset length : Int) : Session Nat := produce do
  let c ← columnIn register
  openWindow (← recordIn register) (← c.slice offset length)

/-- The column in a register from a slot on. -/
def dropSlots (register : Nat) (offset : Int) : Session Nat := produce do
  let c ← columnIn register
  openWindow (← recordIn register) (← c.drop offset)

/-- A slice of the column in a register, which has to lie inside it. -/
def slice? (register : Nat) (offset length : Int) : Session Nat := produce do
  let c ← columnIn register
  openWindow (← recordIn register) (← c.slice? offset length)

/-- The column that a gather made, with the dictionary of its values. -/
def openGathered (values : Nat) (gathered : Column) : Session Nat := do
  let r := (← get).record values
  let shared := if gathered.dictionary.isSome then r.dictionary else none
  openRecord (← addWithDictionary gathered shared)

/-- A view of what a kernel gathers. -/
def gathered (kernel : Column → Column → Pooled Column) (values indices : Nat) : Session Nat := do
  let v ← columnIn values
  let i ← columnIn indices
  openGathered (← recordIn values) (← pooled (kernel v i))

def gatherWith (kernel : Column → Column → Pooled Column) (values indices : Nat) : Session Nat :=
  produce (gathered kernel values indices)

/-- Gathers the slots of one register that another one names. -/
def take (values indices : Nat) : Session Nat := gatherWith Gather.take values indices

/-- Gathers where a column may be missing altogether, which is a breach of contract. The registers
that are named have to hold columns first. -/
def takeShared (values indices : Option Nat) : Session Nat := produce do
  match values, indices with
  | some v, some i => gathered Gather.take v i
  | some r, none | none, some r =>
    let _ ← viewIn r
    throw (.breach .missingColumn)
  | none, none => throw (.breach .missingColumn)

/-- A dictionary column made of keys and values, if `assemble` agrees. -/
def encodeWith (assemble : Column → Column → Checked Column) (keys values : Nat) : Session Nat :=
  produce do
    let k ← columnIn keys
    let v ← columnIn values
    let made ← assemble k v
    let r := (← get).record (← recordIn keys)
    openRecord (← addRecord { r with type := made.type, dictionary := some (← recordIn values) })

/-- A dictionary column of a type, or of the type that follows from its parts. Making the type may
already have been a breach of contract. -/
def encode? (type : Option (Checked DataType)) (keys values : Nat) : Session Nat :=
  encodeWith
    (fun k v => do
      match type with
      | some t => Column.encode? (← t) k v
      | none => Column.encodeUntyped? k v)
    keys values

/-- A dictionary column of a type, with keys that the caller vouches for. -/
def encodeUnchecked (type : Checked DataType) (keys values : Nat) : Session Nat :=
  encodeWith (fun k v => do Column.encodeUnchecked (← type) k v) keys values

def keys (register : Nat) : Session Nat := produce do
  match ((← get).view (← viewIn register)).keys with
  | some k => return k
  | none => throw (.breach .encodingMismatch)

/-- The values of the dictionary column in a register. -/
def dictionary (register : Nat) : Session Nat := produce do openDictionary (← viewIn register)

def addNulls (length : Int) : Session Nat := produce do
  openRecord (← addColumn (Column.nulls length))

/-- A copy of the column in a register, which shares buffers and dictionary. -/
def copy (register : Nat) : Session Nat := produce do
  let r := (← get).record (← recordIn register)
  openRecord (← addRecord r)

/-- Another view of the column in a register. -/
def rewrap (register : Nat) : Session Nat := produce do openRecord (← recordIn register)

/-- The number of null slots of the column in a register. -/
def nullCount (register : Nat) : Session Int := do
  let c ← columnIn register
  countRecord (← recordIn register)
  c.countNulls

def validities (register : Nat) : Session (List Bool) := do (← columnIn register).validities

def validate (register : Nat) : Session Unit := do
  let c ← columnIn register
  countForValidation (← recordIn register)
  c.validate

def print (options : PrintOptions) (register : Nat) : Session Text := do
  let v ← viewIn register
  let c := (← get).columnOf v
  countForPrinting options c v
  c.print options

/-- Whether the columns in two registers are equal. No column equals a missing one. -/
def equals (l : Nat) (r : Option Nat) : Session Bool := do
  let a ← viewIn l
  match r with
  | none => return false
  | some r =>
    let b ← viewIn r
    let c := (← get).columnOf a
    countForEquality c a b
    c.equals (a == b) ((← get).columnOf b)

/-- Whether slots of the columns in two registers are equal. -/
def rangeEquals (l r : Nat) (start stop other : Int) : Session Bool := do
  let a ← viewIn l
  let b ← viewIn r
  countForRange a b start stop other
  let w ← get
  (w.slotsOf a).rangeEquals (a == b) (w.slotsOf b) start stop other

/-- Whether the columns in two registers have the very same dictionary. -/
def sameDictionary (l r : Nat) : Session Bool := do
  let a ← recordIn l
  let b ← recordIn r
  let w ← get
  return (w.record a).dictionary == (w.record b).dictionary

/-- Whether buffer `i` of the columns in two registers is the very same one. -/
def sameBuffer (l r : Nat) (i : Nat) : Session Bool := do
  let a ← recordIn l
  let b ← recordIn r
  let w ← get
  return ((w.record a).buffers[i]?).join == ((w.record b).buffers[i]?).join

/-- The values of the column in a register, if each of them can be written. -/
def values (register : Nat) : Session (List Value) := do
  let c ← columnIn register
  let read ← c.values
  unless read.isEmpty do Print.checkScale c.type
  return read

/-- The numbers of valid slots of the boolean column in a register that are true and false. -/
def truthCounts (register : Nat) : Session (Int × Int) := do
  let c ← columnIn register
  let t ← c.trueCount
  countRecord (← recordIn register)
  return (t, ← c.falseCount)

/-- The bitmap that a gather would begin with. No register reaches it, so it is given back when
memory is next reclaimed. -/
def validityOfGather (values indices : Nat) : Session (Option Bytes) := do
  let v ← columnIn values
  let i ← columnIn indices
  let bitmap ← pooled (Gather.allocateValidity v i)
  return bitmap.map Buffer.bytes

/-- The visits of a walk over indices read as integers of kind `k`, and how the walk ended. -/
def visits (values indices : Nat) (k : IntKind) (failAt : Option Nat) :
    Session (Checked Unit × List Visit) := do
  let v ← columnIn values
  let i ← columnIn indices
  return Gather.record v i k failAt

def reclaim : Session Unit := modify Workspace.reclaim

/-- Empties a register, and gives back the memory that only this register reached. A register that
holds nothing stays empty. -/
def drop (register : Nat) : Session Unit := do
  let _ ← held register
  modify fun w => { w with registers := w.registers.setIfInBounds register none }
  reclaim

end Columnar.Session
