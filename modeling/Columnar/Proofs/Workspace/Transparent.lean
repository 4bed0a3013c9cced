import Mathlib.Tactic.Common
import Columnar.Proofs.Workspace.TwinOperations

/-!
# Stored null counts cannot be seen

A null count may be counted and stored at any moment, of any record and as often as one likes. Twins
that are asked the same give the same replies and remain twins, at whatever moments null counts are
stored in each (`serve_transparent`). So what a run answers does not depend on which null counts
were known before it or became known meanwhile, and what it makes differs in such counts at most,
which are unknown or right.
-/

namespace Columnar
open Workspace Session

/-- What can be asked of the columns in registers. -/
inductive Request where
  | load (c : Column)
  | slice (register : Nat) (offset length : Int)
  | dropSlots (register : Nat) (offset : Int)
  | slice? (register : Nat) (offset length : Int)
  | take (values indices : Nat)
  | encode? (type : Option (Checked DataType)) (keys values : Nat)
  | keys (register : Nat)
  | dictionary (register : Nat)
  | drop (register : Nat)
  | nullCount (register : Nat)
  | validities (register : Nat)
  | validate (register : Nat)
  | print (options : PrintOptions) (register : Nat)
  | equals (left : Nat) (right : Option Nat)
  | rangeEquals (left right : Nat) (start stop other : Int)
  | truthCounts (register : Nat)

/-- What a request is answered with. -/
inductive Reply where
  | done
  | register (number : Nat)
  | count (nulls : Int)
  | truth (counts : Int × Int)
  | flag (value : Bool)
  | flags (values : List Bool)
  | text (value : Text)
deriving DecidableEq

namespace Request

/-- The session that answers a request. -/
def session : Request → Session Reply
  | load c => return .register (← addInput c)
  | slice r offset length => return .register (← Session.slice r offset length)
  | dropSlots r offset => return .register (← Session.dropSlots r offset)
  | slice? r offset length => return .register (← Session.slice? r offset length)
  | take values indices => return .register (← Session.take values indices)
  | encode? type k v => return .register (← Session.encode? type k v)
  | keys r => return .register (← Session.keys r)
  | dictionary r => return .register (← Session.dictionary r)
  | drop r => do
    Session.drop r
    return .done
  | nullCount r => return .count (← Session.nullCount r)
  | validities r => return .flags (← Session.validities r)
  | validate r => do
    Session.validate r
    return .done
  | print options r => return .text (← Session.print options r)
  | equals l r => return .flag (← Session.equals l r)
  | rangeEquals l r start stop other => return .flag (← Session.rangeEquals l r start stop other)
  | truthCounts r => return .truth (← Session.truthCounts r)

/-- What may be asked for: a column that is loaded is sound with all its dictionaries, a slice does
not reach back, and a range of slots is not compared in columns without slots. -/
def Allowed (w : Workspace) : Request → Prop
  | load c => c.SoundThroughout
  | slice _ offset length => 0 ≤ offset ∧ 0 ≤ length
  | dropSlots _ offset => 0 ≤ offset
  | rangeEquals l r start stop _ =>
    stop ≤ start ∨ ∀ q ∈ [l, r], ∀ v ∈ w.registers[q]?.join, (w.columnOf v).length ≠ 0
  | _ => True

variable {w w' : Workspace}

/-- Twins answer a request alike and remain twins. -/
theorem tandem {q : Request} (h : w.Twins w') (allowed : q.Allowed w) :
    Tandem q.session q.session w w' fun _ _ _ => True := by
  cases q with
  | load c => exact (tandem_addInput h allowed).map
  | slice r offset length => exact (tandem_slice h allowed.1 allowed.2).map
  | dropSlots r offset => exact (tandem_dropSlots h allowed).map
  | slice? r offset length => exact (tandem_slice? h).map
  | take values indices => exact (tandem_take h).map
  | encode? type k v => exact (tandem_encode? h).map
  | keys r => exact (tandem_keys h).map
  | dictionary r => exact (tandem_dictionary h).map
  | drop r => exact (tandem_drop h).map
  | nullCount r => exact (tandem_nullCount h).map
  | validities r => exact (tandem_validities h).map
  | validate r => exact (tandem_validate h).map
  | print options r => exact (tandem_print h).map
  | equals l r => exact (tandem_equals h).map
  | rangeEquals l r start stop other => exact (tandem_rangeEquals h allowed).map
  | truthCounts r => exact (tandem_truthCounts h).map

end Request

/-- What happens in a run: the null count of a record is stored, or something is asked. -/
inductive Event where
  | fill (record : Nat)
  | ask (request : Request)

namespace Event

/-- What is asked in a run. -/
def asked : List Event → List Request
  | [] => []
  | fill _ :: es => asked es
  | ask q :: es => q :: asked es

end Event

namespace Workspace
variable {w w' : Workspace}

/-- The workspace once the null count of a record is stored, if the nulls can be counted. -/
def filled (w : Workspace) (id : Nat) : Workspace := ((countRecord id).run w).2

/-- The replies of a run and the workspace that it ends in. A run goes on after failures. -/
def serve (w : Workspace) : List Event → List (Checked Reply) × Workspace
  | [] => ([], w)
  | .fill id :: es => (w.filled id).serve es
  | .ask q :: es =>
    let served := serve (q.session.run w).2 es
    ((q.session.run w).1 :: served.1, served.2)

/-- Whether each request of a run may be asked when it comes to it. -/
def Permits (w : Workspace) : List Event → Prop
  | [] => True
  | .fill id :: es => (w.filled id).Permits es
  | .ask q :: es => q.Allowed w ∧ Permits (q.session.run w).2 es

lemma filled_eq (w : Workspace) (id : Nat) : w.filled id =
    match (w.column id).countNulls with
    | .ok n => w.withCount id n
    | .error _ => w := by
  have run : (countRecord id).run w =
      ExceptT.bindCont (setNullCount id) (w.column id).countNulls w := rfl
  rw [filled, run]
  cases (w.column id).countNulls with
  | ok n => rfl
  | error e => rfl

lemma withCount_of_ge {id : Nat} {n : Int} (ge : w.records.size ≤ id) : w.withCount id n = w := by
  have same : (w.withCount id n).records = w.records := by
    refine Array.ext_getElem? fun j => ?_
    rw [withCount, Array.getElem?_modify]
    split
    · next here => rw [← here, Array.getElem?_eq_none ge]; rfl
    · rfl
  rw [withCount] at same ⊢
  simp only at same
  rw [same]

namespace Twins

lemma filled_right (h : w.Twins w') (id : Nat) : w.Twins (w'.filled id) := by
  rw [filled_eq]
  cases counted : (w'.column id).countNulls with
  | error e => exact h
  | ok n =>
    by_cases hid : id < w.records.size
    · exact h.withCount_right hid ((h.sound_column hid).2.admits_of_countNulls counted)
    · have same : w'.withCount id n = w' := withCount_of_ge (by rw [h.size]; omega)
      show w.Twins (w'.withCount id n)
      rw [same]
      exact h

lemma filled_left (h : w.Twins w') (id : Nat) : (w.filled id).Twins w' :=
  (h.symm.filled_right id).symm

/-- Twins that are asked the same reply the same. -/
lemma serve {es es' : List Event} (h : w.Twins w') (permitted : w.Permits es)
    (same : Event.asked es' = Event.asked es) :
    (w'.serve es').1 = (w.serve es).1 ∧ (w.serve es).2.Twins (w'.serve es').2 := by
  -- Whatever is stored in one of them between two requests leaves them twins.
  induction es generalizing w w' es' with
  | nil =>
    induction es' generalizing w' with
    | nil => exact ⟨rfl, h⟩
    | cons e es' ih =>
      cases e with
      | fill id => exact ih (h.filled_right id) same
      | ask q => cases same
  | cons e es ih =>
    cases e with
    | fill id => exact ih (h.filled_left id) permitted same
    | ask q =>
      induction es' generalizing w' with
      | nil => cases same
      | cons e' es' ih' =>
        cases e' with
        | fill id => exact ih' (h.filled_right id) same
        | ask q' =>
          obtain ⟨rfl, rest⟩ := List.cons.inj same
          obtain ⟨reply, twins⟩ := (Request.tandem h permitted.1).run_eq
          obtain ⟨replies, last⟩ := ih twins permitted.2 rest
          refine ⟨?_, last⟩
          show (q'.session.run w').1 :: _ = (q'.session.run w).1 :: _
          rw [reply, replies]

end Twins

/-- Stored null counts cannot be seen. Two workspaces of sound columns that differ in which null
counts they know, and that learn null counts at any moments of a run, answer the same requests with
the same replies. Columns that registers hold in the end differ in stored null counts at most, and
are sound with all their dictionaries in both, so a stored count is unknown or right. Left out are
requests that have no meaning (`Request.Allowed`): slices with a negative offset or length, and
comparisons of a range that is not empty in columns that are. -/
theorem serve_transparent {es es' : List Event} (twins : w.Twins w') (permitted : w.Permits es)
    (same : Event.asked es' = Event.asked es) :
    (w'.serve es').1 = (w.serve es).1 ∧
    (w'.serve es').2.registers = (w.serve es).2.registers ∧
    ∀ r v : Nat, (w.serve es).2.registers[r]? = some (some v) →
      ((w.serve es).2.columnOf v).Recounted ((w'.serve es').2.columnOf v) ∧
      ((w.serve es).2.columnOf v).DeeplySound ∧ ((w'.serve es').2.columnOf v).DeeplySound := by
  obtain ⟨replies, last⟩ := twins.serve permitted same
  refine ⟨replies, last.registers, fun r v held => ?_⟩
  have inside := last.left.registers r v held
  exact ⟨last.columnOf inside, last.sound_columnOf inside⟩

/-- A window of which one run never learns the null count, and the other one does before it is cut
out, printed, compared and gathered from. -/
theorem serve_transparent_filled :
    let values := Column.ofInts (.int .w16) [some 7, none]
    let keys : Column := { Column.ofInts (.int .w8) [some 1, none, some 0] with nullCount := -1 }
    let asked := [Request.load values, .load keys, .encode? none 1 0, .slice 2 1 2, .validities 3,
      .print {} 3, .rangeEquals 3 2 0 2 1, .take 3 1]
    let w : Workspace := { pool := .system }
    let es := asked.map .ask
    let es' := Event.fill 0 :: asked.flatMap fun q => [.ask q, .fill 1, .fill 2, .fill 3]
    w.Permits es ∧ Event.asked es' = Event.asked es ∧ (w.serve es').1 = (w.serve es).1 ∧
      (w.serve es).2.records ≠ (w.serve es').2.records := by
  intro values keys asked w es es'
  have hv : values.SoundThroughout := .intro (by decide +kernel) nofun
  have hk : keys.SoundThroughout := .intro (by decide +kernel) nofun
  have permitted : w.Permits es := by
    refine ⟨hv, hk, trivial, ⟨by decide, by decide⟩, trivial, trivial, .inr ?_, trivial, trivial⟩
    decide +kernel
  have same : Event.asked es' = Event.asked es := rfl
  obtain ⟨replies, -⟩ := serve_transparent (.refl (accounted_empty .system)) permitted same
  exact ⟨permitted, same, replies, by decide +kernel⟩

end Workspace

end Columnar
