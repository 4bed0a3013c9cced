import Mathlib.Tactic.Common
import Columnar.Proofs.Column.Slice
import Columnar.Proofs.Gather.WellFormed
import Columnar.Proofs.Workspace.Opening

/-!
# Runs keep columns well-formed

An operation loads a column, slices one, counts its nulls, gathers, puts a dictionary column
together or takes one apart. `Operation.keeps` shows that each keeps a workspace well-formed,
whether it fails or not, and so every column that a run of operations reaches is well-formed
(`run_wellFormed`). Well-formed columns have windows that end at a 64-bit word. A null-typed column
passes validation without that, and a slice of it need not (`run_wellFormed_unbounded`).
-/

namespace Columnar
open Workspace Session

/-- What can be done with the columns in registers. -/
inductive Operation where
  | load (c : Column)
  | slice (register : Nat) (offset length : Int)
  | slice? (register : Nat) (offset length : Int)
  | nullCount (register : Nat)
  | take (values indices : Nat)
  | encode? (type : Option (Checked DataType)) (keys values : Nat)
  | keys (register : Nat)
  | dictionary (register : Nat)

namespace Operation

/-- The session of an operation, whose answer is dropped. -/
def session : Operation → Session Unit
  | load c => do let _ ← addInput c
  | slice r offset length => do let _ ← Session.slice r offset length
  | slice? r offset length => do let _ ← Session.slice? r offset length
  | nullCount r => do let _ ← Session.nullCount r
  | take values indices => do let _ ← Session.take values indices
  | encode? type k v => do let _ ← Session.encode? type k v
  | keys r => do let _ ← Session.keys r
  | dictionary r => do let _ ← Session.dictionary r

/-- What an operation may be asked for: a column that is loaded is well-formed, a slice does not
reach back, and a dictionary is that of a dictionary column. -/
def Allowed (w : Workspace) : Operation → Prop
  | load c => c.WellFormed
  | slice _ offset length => 0 ≤ offset ∧ 0 ≤ length
  | dictionary r =>
    ∀ v, w.registers[r]? = some (some v) → (w.columnOf v).type.isDictionary = true
  | _ => True

end Operation

variable {w : Workspace} {r : Nat}

lemma view_unique {v v' : Nat} (h : w.registers[r]? = some (some v))
    (h' : w.registers[r]? = some (some v')) : v = v' :=
  Option.some.inj (Option.some.inj (h.symm.trans h'))

/-- What makes a view keeps a workspace well-formed. -/
lemma keeps_produce {body : Session Nat}
    (h : Keeps WellFormed body w fun v w' => v < w'.views.size) :
    Keeps WellFormed (produce body) w fun _ _ => True := by
  refine (h.produce ?_ ?_ ?_).weaken fun _ _ _ _ => trivial
  · intro w h
    exact h.withPool _
  · intro v w h inside
    apply h.withRegister
    rintro _ ⟨⟩
    exact inside
  · intro w h
    apply h.withRegister
    intro v none
    cases none

section Windows

lemma keeps_openWindow {id : Nat} {window : Column} (h : w.WellFormed) (hid : id < w.records.size)
    (column : window.WellFormed)
    (same : window = { w.column id with
      length := window.length, offset := window.offset, nullCount := window.nullCount }) :
    Keeps WellFormed (openWindow id window) w fun v w' => v < w'.views.size := by
  obtain ⟨refers, made⟩ := column_window h.furnished hid same
  rw [← made, column_withRecord h.furnished refers] at column
  exact .look (keeps_openNew h refers column)

lemma keeps_slice {offset length : Int} (h : w.WellFormed) (lo : 0 ≤ offset) (nonneg : 0 ≤ length) :
    Keeps WellFormed (Session.slice r offset length) w fun _ _ => True := by
  refine keeps_produce (.columnIn h fun v hv => .recordIn h fun v' hv' =>
    .check h fun out made => ?_)
  obtain rfl := view_unique hv hv'
  have inside := h.registers r v hv
  exact keeps_openWindow h (h.record v inside) ((h.column v inside).slice lo nonneg made)
    (Column.eq_of_slice made)

lemma keeps_slice? {offset length : Int} (h : w.WellFormed) :
    Keeps WellFormed (Session.slice? r offset length) w fun _ _ => True := by
  refine keeps_produce (.columnIn h fun v hv => .recordIn h fun v' hv' =>
    .check h fun out made => ?_)
  obtain rfl := view_unique hv hv'
  have inside := h.registers r v hv
  obtain ⟨-, -, sliced⟩ := Column.slice_of_slice? made
  exact keeps_openWindow h (h.record v inside) ((h.column v inside).slice? made)
    (Column.eq_of_slice sliced)

lemma keeps_nullCount (h : w.WellFormed) :
    Keeps WellFormed (Session.nullCount r) w fun _ _ => True := by
  refine .columnIn h fun v hv => .recordIn h fun v' hv' => ?_
  have inside := h.registers r v' hv'
  have counted : Keeps WellFormed (countRecord (w.view v').record) w fun _ _ => True := by
    refine .look (.check h fun n count => ?_)
    exact (keeps_setNullCount h (h.record v' inside)
      ((h.column v' inside).sound.admits_of_countNulls count)).weaken fun _ _ _ _ => trivial
  exact counted.bind fun _ w' h' _ => ⟨h', fun _ _ => trivial⟩

end Windows

section Assembling

/-- A gathered column shares the record of a dictionary if it has one. -/
lemma dictionary_of_shared {c : Column} {d : Option Nat}
    (shares : c.dictionary = none ∨ c.dictionary = d.map w.column) :
    c.dictionary = (if c.dictionary.isSome then d else none).map w.column := by
  rcases shares with none | same
  · rw [none]
    rfl
  · rw [same]
    cases d with
    | none => rfl
    | some d => rfl

lemma keeps_take {values indices : Nat} (h : w.WellFormed) :
    Keeps WellFormed (Session.take values indices) w fun _ _ => True := by
  refine keeps_produce (.columnIn h fun v hv => .columnIn h fun i hi => .recordIn h fun v' hv' =>
    .pooled h.withPool fun out pool made => ?_)
  obtain rfl := view_unique hv hv'
  have values := h.column v (h.registers _ v hv)
  have indices := h.column i (h.registers _ i hi)
  have inside := h.record v (h.registers _ v hv)
  have older := (h.furnished _ inside).older
  have shares := Gather.dictionary_of_take values.sound indices.sound made
  rw [columnOf, column_of_furnished h.furnished inside] at shares
  -- The gather has changed the pool and nothing else, so the dictionary is still the same column.
  have ext : Workspace.Extends { w with pool } w := extends_of_eq rfl rfl
  refine .look ((keeps_addWithDictionary (h.withPool pool) (fun d hd => ?_) ?_).bind
    fun id w' h' => ?_)
  · split at hd
    · exact Nat.lt_trans (older d hd) inside
    · cases hd
  · refine (dictionary_of_shared shares).trans (Option.map_congr fun d hd => ?_)
    split at hd
    · exact (ext.column h.furnished (Nat.lt_trans (older d hd) inside)).symm
    · cases hd
  · rintro ⟨lt, found⟩
    exact keeps_openRecord h' lt (found ▸ Gather.wellFormed_of_take values indices.sound made)

lemma keeps_encodeWith {assemble : Column → Column → Checked Column} {k v : Nat} (h : w.WellFormed)
    (encodes : ∀ keys values out, keys.WellFormed → values.WellFormed →
      assemble keys values = .ok out → out.WellFormed ∧ out = .encoded out.type keys values) :
    Keeps WellFormed (encodeWith assemble k v) w fun _ _ => True := by
  refine keeps_produce (.columnIn h fun a ha => .columnIn h fun b hb => .check h fun out made =>
    .look (.recordIn h fun a' ha' => .recordIn h fun b' hb' => ?_))
  obtain rfl := view_unique ha ha'
  obtain rfl := view_unique hb hb'
  have insideKeys := h.record a (h.registers _ a ha)
  have insideValues := h.record b (h.registers _ b hb)
  obtain ⟨wf, encoded⟩ := encodes _ _ _ (h.column a (h.registers _ a ha))
    (h.column b (h.registers _ b hb)) made
  refine keeps_openNew h ⟨(h.furnished _ insideKeys).buffers, ?_⟩ ?_
  · rintro _ ⟨⟩
    exact insideValues
  · rw [columnOf, column_of_furnished h.furnished insideKeys] at encoded
    rw [encoded] at wf
    exact wf

lemma keeps_encode? {type : Option (Checked DataType)} {k v : Nat} (h : w.WellFormed) :
    Keeps WellFormed (Session.encode? type k v) w fun _ _ => True := by
  refine keeps_encodeWith h fun keys values out hk hv made => ?_
  cases type with
  | none =>
    obtain ⟨t, -, encoded⟩ := Checked.bind_eq_ok.1 made
    exact ⟨hk.encode? hv encoded, Column.eq_of_encode? encoded⟩
  | some t =>
    obtain ⟨t, -, encoded⟩ := Checked.bind_eq_ok.1 made
    exact ⟨hk.encode? hv encoded, Column.eq_of_encode? encoded⟩

lemma keeps_keys (h : w.WellFormed) : Keeps WellFormed (Session.keys r) w fun _ _ => True := by
  refine keeps_produce (.look (.viewIn h fun v hv => ?_))
  cases keys : (w.view v).keys with
  | none => exact .fail h
  | some k => exact .answer h (h.keys v (h.registers r v hv) k keys)

lemma keeps_dictionary (h : w.WellFormed) (encoded : ∀ v, w.registers[r]? = some (some v) →
    (w.columnOf v).type.isDictionary = true) :
    Keeps WellFormed (Session.dictionary r) w fun _ _ => True :=
  keeps_produce (.viewIn h fun v hv => keeps_openDictionary h (h.registers r v hv) (encoded v hv))

lemma keeps_addInput {c : Column} (h : w.WellFormed) (wf : c.WellFormed) :
    Keeps WellFormed (addInput c) w fun _ _ => True := by
  refine keeps_produce ((keeps_addColumn c h).bind fun id w' h' => ?_)
  rintro ⟨lt, found⟩
  exact keeps_openRecord h' lt (found ▸ wf)

end Assembling

/-- An operation keeps a workspace well-formed, whether it fails or not. -/
theorem Operation.keeps {op : Operation} (h : w.WellFormed) (allowed : op.Allowed w) :
    Keeps WellFormed op.session w fun _ _ => True := by
  cases op with
  | load c => exact (keeps_addInput h allowed).bind fun _ _ h _ => .answer h trivial
  | slice r offset length =>
    exact (keeps_slice h allowed.1 allowed.2).bind fun _ _ h _ => .answer h trivial
  | slice? r offset length => exact (keeps_slice? h).bind fun _ _ h _ => .answer h trivial
  | nullCount r => exact (keeps_nullCount h).bind fun _ _ h _ => .answer h trivial
  | take values indices => exact (keeps_take h).bind fun _ _ h _ => .answer h trivial
  | encode? type k v => exact (keeps_encode? h).bind fun _ _ h _ => .answer h trivial
  | keys r => exact (keeps_keys h).bind fun _ _ h _ => .answer h trivial
  | dictionary r => exact (keeps_dictionary h allowed).bind fun _ _ h _ => .answer h trivial

section Runs
variable {ops : List Operation}

/-- The workspace after a run of operations, which goes on after failures. -/
def Workspace.after (w : Workspace) : List Operation → Workspace
  | [] => w
  | op :: ops => after (op.session.run w).2 ops

/-- Whether each operation of a run may be asked for when it comes to it. -/
def Workspace.Allows (w : Workspace) : List Operation → Prop
  | [] => True
  | op :: ops => op.Allowed w ∧ Allows (op.session.run w).2 ops

lemma Workspace.WellFormed.after (h : w.WellFormed) (allowed : w.Allows ops) :
    (w.after ops).WellFormed := by
  induction ops generalizing w with
  | nil => exact h
  | cons op ops ih => exact ih (Operation.keeps h allowed.1).1 allowed.2

/-- Every column that a run reaches from well-formed columns is well-formed. The sizes that follow
from the windows of the columns that the run starts from are words. -/
theorem run_wellFormed {v : Nat} (start : w.WellFormed) (allowed : w.Allows ops)
    (held : (w.after ops).registers[r]? = some (some v)) : ((w.after ops).columnOf v).WellFormed :=
  have h := start.after allowed
  h.column v (h.registers r v held)

/-- Keys and values are put together, gathered, sliced and counted. -/
theorem run_wellFormed_encoded :
    Column.WellFormed (.ofInts (.int .w16) [some 7, none]) ∧
    Column.WellFormed (.ofInts (.int .w8) [some 1, some 0]) ∧
    ∃ v, (Workspace.after { pool := .system } [.load (.ofInts (.int .w16) [some 7, none]),
        .load (.ofInts (.int .w8) [some 1, some 0]), .encode? none 1 0, .take 2 1, .slice 3 1 1,
        .nullCount 4]).registers[4]? = some (some v) ∧
      ((Workspace.after { pool := .system } [.load (.ofInts (.int .w16) [some 7, none]),
        .load (.ofInts (.int .w8) [some 1, some 0]), .encode? none 1 0, .take 2 1, .slice 3 1 1,
        .nullCount 4]).columnOf v).WellFormed := by
  have values : Column.WellFormed (.ofInts (.int .w16) [some 7, none]) :=
    .plain (by decide +kernel) rfl
  have keys : Column.WellFormed (.ofInts (.int .w8) [some 1, some 0]) :=
    .plain (by decide +kernel) rfl
  have held : (Workspace.after { pool := .system } [.load (.ofInts (.int .w16) [some 7, none]),
      .load (.ofInts (.int .w8) [some 1, some 0]), .encode? none 1 0, .take 2 1, .slice 3 1 1,
      .nullCount 4]).registers[4]? = some (some 7) := by decide +kernel
  refine ⟨values, keys, 7, held, ?_⟩
  exact run_wellFormed (wellFormed_empty .system)
    ⟨values, keys, trivial, trivial, ⟨by decide, by decide⟩, trivial, trivial⟩ held

/-- A null-typed column that passes validation and whose window ends past the last 64-bit word. The
sum of its offset and that of a slice wraps, and the slice does not pass validation. -/
theorem run_wellFormed_unbounded :
    let c : Column := ⟨.null, 2 ^ 62 + 5, 2 ^ 62, 2 ^ 62 + 5, [none], none⟩
    c.validate = .ok () ∧ c.Counted ∧ c.Ordered ∧ c.type.isDictionary = false ∧
      ∃ s, c.slice (2 ^ 62) 0 = .ok s ∧ s.validate = .error (.defect .negativeOffset) := by
  intro c
  have counted : c.Counted := Column.counted_of_null rfl (by decide)
  have ordered : c.Ordered := Column.ordered_of_no_strings nofun
  exact ⟨by decide +kernel, counted, ordered, rfl, _, rfl, by decide +kernel⟩

end Runs

end Columnar
