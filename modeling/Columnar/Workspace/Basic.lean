import Columnar.Gather.Take
import Columnar.Column.Slice
import Columnar.Column.Validate

/-!
# Workspaces of shared columns

In a workspace columns have an identity. Records keep the parts of a column and refer to their
buffers and dictionaries by number, so that several columns share them; a stored null count belongs
to its record and is seen by all who share it. A view is a column in use. The view of a dictionary
column has a record of its own for its keys, and opens a view of its dictionary when first asked.
Registers hold views.
-/

namespace Columnar

/-- The parts of a column, with buffers and dictionary by number. -/
structure Record where
  type : DataType
  length : Int
  offset : Int
  nullCount : Int
  buffers : List (Option Nat)
  dictionary : Option Nat
deriving DecidableEq, Repr, Inhabited

/-- A column in use: its record and, for a dictionary column, the views of its parts. -/
structure View where
  record : Nat
  keys : Option Nat := none
  dictionary : Option Nat := none
deriving DecidableEq, Repr, Inhabited

/-- Everything that the registers reach. -/
structure Workspace where
  pool : Pool
  buffers : Array Buffer := #[]
  records : Array Record := #[]
  views : Array View := #[]
  registers : Array (Option Nat) := #[]

namespace Workspace

def record (w : Workspace) (id : Nat) : Record := w.records.getD id default

def view (w : Workspace) (id : Nat) : View := w.views.getD id default

/-- The column of a record. A dictionary is always older than the columns that use it. -/
def column (w : Workspace) (id : Nat) : Column :=
  let r := w.record id
  let dictionary :=
    match r.dictionary with
    | some d => if _ : d < id then some (w.column d) else none
    | none => none
  ⟨r.type, r.length, r.offset, r.nullCount, r.buffers.map (·.bind fun b => w.buffers[b]?),
    dictionary⟩
termination_by id

def columnOf (w : Workspace) (view : Nat) : Column := w.column (w.view view).record

/-- The column of a view with the null count that its slots go by. The slots of a dictionary column
are its keys, which store a null count of their own. -/
def slotsOf (w : Workspace) (view : Nat) : Column :=
  match (w.view view).keys with
  | some keys => (w.columnOf view).withNullCount (w.columnOf keys).nullCount
  | none => w.columnOf view

/-- The numbers of the buffers that a record and its dictionaries use. -/
def buffersOf (w : Workspace) (id : Nat) : List Nat :=
  let r := w.record id
  let own := r.buffers.filterMap fun b => b
  match r.dictionary with
  | some d => if _ : d < id then own ++ w.buffersOf d else own
  | none => own
termination_by id

/-- The bytes of pool memory in the buffers that live registers reach, each counted once. -/
def reachedBytes (w : Workspace) : Int :=
  let views := w.registers.toList.filterMap fun v => v
  let ids := (views.flatMap fun v => w.buffersOf (w.view v).record).eraseDups
  (ids.map fun b => ((w.buffers[b]?).map Buffer.charge).getD 0).foldl (· + ·) 0

def reclaim (w : Workspace) : Workspace :=
  { w with pool := w.pool.free (w.pool.bytes - w.reachedBytes) }

end Workspace

/-- A computation on a workspace. What it changed before it fails stays. -/
abbrev Session := ExceptT Fault (StateM Workspace)

namespace Session

instance : MonadLift Checked Session := ⟨fun c => ExceptT.mk (pure c)⟩

def addRecord (r : Record) : Session Nat := do
  modifyGet fun w => (w.records.size, { w with records := w.records.push r })

def addView (v : View) : Session Nat := do
  modifyGet fun w => (w.views.size, { w with views := w.views.push v })

def addBuffer (b : Buffer) : Session Nat := do
  modifyGet fun w => (w.buffers.size, { w with buffers := w.buffers.push b })

def addBuffers : List (Option Buffer) → Session (List (Option Nat))
  | [] => return []
  | none :: bs => return none :: (← addBuffers bs)
  | some b :: bs => do
    let id ← addBuffer b
    return some id :: (← addBuffers bs)

/-- A record for a column with new buffers and a dictionary that already has one. -/
def addWithDictionary (c : Column) (dictionary : Option Nat) : Session Nat := do
  let buffers ← addBuffers c.buffers
  addRecord ⟨c.type, c.length, c.offset, c.nullCount, buffers, dictionary⟩

/-- A record for a column of which nothing is shared. -/
def addColumn : Column → Session Nat
  | ⟨t, n, o, k, bs, none⟩ => addWithDictionary ⟨t, n, o, k, bs, none⟩ none
  | ⟨t, n, o, k, bs, some d⟩ => do
    let dictionary ← addColumn d
    addWithDictionary ⟨t, n, o, k, bs, some d⟩ (some dictionary)

def setNullCount (record : Nat) (count : Int) : Session Unit :=
  modify fun w =>
    { w with records := w.records.modify record fun r => { r with nullCount := count } }

def openRecord (id : Nat) : Session Nat := do
  let c := (← get).column id
  let c ← c.opened
  setNullCount id c.nullCount
  match c.type with
  | .dictionary k _ _ =>
    -- The keys get a record of their own: a null count found there is not stored in this one.
    let keys ← addRecord { (← get).record id with type := .int k, dictionary := none }
    let keysView ← addView ⟨keys, none, none⟩
    addView ⟨id, some keysView, none⟩
  | _ => addView ⟨id, none, none⟩

/-- The view of a dictionary column's dictionary, opened when first asked for. -/
def openDictionary (id : Nat) : Session Nat := do
  let v := (← get).view id
  match v.dictionary, ((← get).record v.record).dictionary with
  | some d, _ => return d
  | none, none => throw (.breach .missingDictionary)
  | none, some d =>
    let opened ← openRecord d
    modify fun w =>
      { w with views := w.views.modify id fun v => { v with dictionary := some opened } }
    return opened

def held (register : Nat) : Session (Option Nat) := do
  match (← get).registers[register]? with
  | some held => return held
  | none => throw .unknownRegister

def viewIn (register : Nat) : Session Nat := do
  match ← held register with
  | some v => return v
  | none => throw .emptyRegister

def columnIn (register : Nat) : Session Column := do
  let v ← viewIn register
  return (← get).columnOf v

def recordIn (register : Nat) : Session Nat := do
  let v ← viewIn register
  return ((← get).view v).record

/-- The number of a new register, which holds the view that `body` makes, or nothing if it
fails. What a failed `body` made is reached by no register, so its memory is given back. -/
def produce (body : Session Nat) : Session Nat := do
  let result : Checked Nat ← tryCatch (Except.ok <$> body) fun e => do
    modify Workspace.reclaim
    return .error e
  modify fun w => { w with registers := w.registers.push result.toOption }
  let _ ← ofExcept result
  return (← get).registers.size - 1

end Session

end Columnar
