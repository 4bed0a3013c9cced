import Mathlib.Tactic.Common
import Columnar.Workspace.Operations
import Columnar.Proofs.Checked

/-!
# What sessions keep

`Session.Keeps inv x w post` says of a session `x` on a workspace `w` that it ends in a workspace
with the invariant `inv`, whether it fails or not, and with `post` of its answer if it does not.
There is one rule for each way of building a session. What only looks at the workspace has rules
that say how the session goes on. Where a session cannot fail, its run is rewritten step by step.
-/

namespace Columnar.Session
variable {α β : Type} {inv : Workspace → Prop} {x : Session α} {f : α → Session β} {w : Workspace}
  {post : α → Workspace → Prop} {last : β → Workspace → Prop}

/-- What follows a failure goes on in the workspace that the failure left. -/
lemma run_tryCatch (x : Session α) (handle : Fault → Session α) (w : Workspace) :
    (tryCatch x handle).run w = match x.run w with
      | (.ok a, w') => (.ok a, w')
      | (.error e, w') => (handle e).run w' := by
  cases e : x.run w with
  | mk r w' =>
    change x w = (r, w') at e
    simp only [tryCatch, tryCatchThe, MonadExceptOf.tryCatch, ExceptT.tryCatch, ExceptT.run_mk,
      Bind.bind, StateT.bind, e]
    cases r <;> rfl

/-- Whether a session keeps an invariant, and answers with a postcondition unless it fails. -/
def Keeps (inv : Workspace → Prop) (x : Session α) (w : Workspace)
    (post : α → Workspace → Prop) : Prop :=
  inv (x.run w).2 ∧ ∀ a, (x.run w).1 = .ok a → post a (x.run w).2

namespace Keeps

lemma answer {a : α} (h : inv w) (holds : post a w) : Keeps inv (pure a) w post := by
  refine ⟨h, fun b e => ?_⟩
  cases e
  exact holds

lemma fail {e : Fault} (h : inv w) : Keeps inv (throw e : Session α) w post :=
  ⟨h, nofun⟩

lemma bind (first : Keeps inv x w post)
    (next : ∀ a w', inv w' → post a w' → Keeps inv (f a) w' last) : Keeps inv (x >>= f) w last := by
  obtain ⟨keeps, answers⟩ := first
  have run : (x >>= f).run w = ExceptT.bindCont f (x.run w).1 (x.run w).2 := rfl
  rw [Keeps, run]
  cases e : (x.run w).1 with
  | ok a => exact next a _ keeps (answers a e)
  | error e => exact ⟨keeps, nofun⟩

lemma weaken {post' : α → Workspace → Prop} (h : Keeps inv x w post)
    (implies : ∀ a w', inv w' → post a w' → post' a w') : Keeps inv x w post' :=
  ⟨h.1, fun a e => implies a _ h.1 (h.2 a e)⟩

lemma both {inv' : Workspace → Prop} {post' : α → Workspace → Prop} (h : Keeps inv x w post)
    (h' : Keeps inv' x w post') :
    Keeps (fun w => inv w ∧ inv' w) x w fun a w => post a w ∧ post' a w :=
  ⟨⟨h.1, h'.1⟩, fun a e => ⟨h.2 a e, h'.2 a e⟩⟩

lemma look {f : Workspace → Session β} (next : Keeps inv (f w) w last) :
    Keeps inv (get >>= f) w last :=
  next

lemma check {c : Checked α} (h : inv w) (next : ∀ a, c = .ok a → Keeps inv (f a) w last) :
    Keeps inv (liftM c >>= f) w last := by
  cases c with
  | ok a => exact next a rfl
  | error e => exact ⟨h, nofun⟩

/-- Asking the pool for memory changes nothing but the pool. -/
lemma pooled {p : Pooled α} (h : ∀ pool, inv { w with pool })
    (next : ∀ a pool, (p.run w.pool).1 = .ok a → Keeps inv (f a) { w with pool } last) :
    Keeps inv (Session.pooled p >>= f) w last := by
  rw [Session.pooled, bind_assoc]
  refine .look ?_
  cases e : p.run w.pool with
  | mk result pool =>
    rw [e] at next
    cases result with
    | ok a => exact next a pool rfl
    | error e => exact ⟨h pool, nofun⟩

lemma change {g : Workspace → Workspace} (h : inv (g w)) :
    Keeps inv (modify g : Session Unit) w fun _ w' => w' = g w :=
  ⟨h, fun _ _ => rfl⟩

lemma attempt {handle : Fault → Session α} (h : Keeps inv x w post)
    (handled : ∀ e w', inv w' → Keeps inv (handle e) w' post) :
    Keeps inv (tryCatch x handle) w post := by
  obtain ⟨keeps, answers⟩ := h
  cases same : x.run w with
  | mk r w' =>
    rw [Keeps, run_tryCatch, same]
    rw [same] at keeps answers
    cases r with
    | ok a => exact ⟨keeps, answers⟩
    | error e => exact handled e w' keeps

/-- A session that makes a view puts it in a new register and answers with that register, or puts
nothing in it. -/
lemma produce {body : Session Nat} {made : Nat → Workspace → Prop} (keeps : Keeps inv body w made)
    (reclaimed : ∀ w, inv w → inv w.reclaim)
    (filled : ∀ v w, inv w → made v w → inv { w with registers := w.registers.push (some v) })
    (empty : ∀ w, inv w → inv { w with registers := w.registers.push none }) :
    Keeps inv (Session.produce body) w fun r w' => ∃ v w'', made v w'' ∧
      w' = { w'' with registers := w''.registers.push (some v) } ∧ r = w''.registers.size := by
  have tried : Keeps inv (tryCatch (Except.ok <$> body) fun e => do
      modify Workspace.reclaim
      return .error e : Session (Checked Nat)) w fun r w' => ∀ v, r = .ok v → made v w' := by
    refine .attempt ?_ fun e w' h => ?_
    · refine keeps.bind fun v w' h made => .answer h fun v' e => ?_
      cases e
      exact made
    · exact (Keeps.change (reclaimed w' h)).bind fun _ _ h _ => .answer h nofun
  refine tried.bind fun r w' h made => ?_
  have pushed : inv { w' with registers := w'.registers.push r.toOption } := by
    cases r with
    | ok v => exact filled v w' h (made v rfl)
    | error e => exact empty w' h
  refine (Keeps.change pushed).bind fun _ w'' h' changed => ?_
  cases r with
  | ok v =>
    change Keeps inv (do return (← get).registers.size - 1 : Session Nat) w'' _
    refine .look (.answer h' ⟨v, w', made v rfl, changed, ?_⟩)
    rw [changed, Array.size_push]
    exact Nat.add_sub_cancel ..
  | error e => exact ⟨h', nofun⟩

end Keeps

section Registers
variable {r : Nat}

lemma Keeps.viewIn {f : Nat → Session β} (h : inv w)
    (next : ∀ v, w.registers[r]? = some (some v) → Keeps inv (f v) w last) :
    Keeps inv (Session.viewIn r >>= f) w last := by
  rw [Session.viewIn, held, bind_assoc, bind_assoc]
  refine .look ?_
  cases found : w.registers[r]? with
  | none => exact ⟨h, nofun⟩
  | some holds =>
    cases holds with
    | none => exact ⟨h, nofun⟩
    | some v => exact next v found

lemma Keeps.columnIn {f : Column → Session β} (h : inv w)
    (next : ∀ v, w.registers[r]? = some (some v) → Keeps inv (f (w.columnOf v)) w last) :
    Keeps inv (Session.columnIn r >>= f) w last := by
  rw [Session.columnIn, bind_assoc]
  exact .viewIn h fun v found => .look (next v found)

lemma Keeps.recordIn {f : Nat → Session β} (h : inv w)
    (next : ∀ v, w.registers[r]? = some (some v) → Keeps inv (f (w.view v).record) w last) :
    Keeps inv (Session.recordIn r >>= f) w last := by
  rw [Session.recordIn, bind_assoc]
  exact .viewIn h fun v found => .look (next v found)

end Registers

section Running
variable {a : α} {w' : Workspace} {v r id : Nat} {c : Column}

/-- What follows an answer goes on in the workspace that it was given in. -/
lemma run_bind (h : x.run w = (.ok a, w')) : (x >>= f).run w = (f a).run w' := by
  change ExceptT.bindCont f (x.run w).1 (x.run w).2 = _
  rw [h]
  rfl

/-- Nothing follows a failure. -/
lemma run_bind_error {e : Fault} (h : x.run w = (.error e, w')) :
    (x >>= f).run w = (.error e, w') := by
  change ExceptT.bindCont f (x.run w).1 (x.run w).2 = _
  rw [h]
  rfl

lemma run_look {f : Workspace → Session β} : (get >>= f).run w = (f w).run w := rfl

lemma run_check {checked : Checked α} {f : α → Session β} (h : checked = .ok a) :
    (liftM checked >>= f).run w = (f a).run w := by
  rw [h]
  rfl

lemma Keeps.of_run {inv : Workspace → Prop} {post : α → Workspace → Prop} (h : Keeps inv x w post)
    (run : x.run w = (.ok a, w')) : inv w' ∧ post a w' := by
  obtain ⟨keeps, answers⟩ := h
  rw [run] at keeps answers
  exact ⟨keeps, answers a rfl⟩

lemma run_viewIn (held : w.registers[r]? = some (some v)) : (viewIn r).run w = (.ok v, w) := by
  have found : (Session.held r).run w = (.ok (some v), w) := by
    rw [Session.held, run_look, held]
    rfl
  rw [viewIn, run_bind found]
  rfl

lemma run_columnIn (held : w.registers[r]? = some (some v)) :
    (columnIn r).run w = (.ok (w.columnOf v), w) := by
  rw [columnIn, run_bind (run_viewIn held)]
  rfl

lemma run_recordIn (held : w.registers[r]? = some (some v)) :
    (recordIn r).run w = (.ok (w.view v).record, w) := by
  rw [recordIn, run_bind (run_viewIn held)]
  rfl

lemma exists_run_openRecord (opened : (w.column id).opened = .ok c) :
    ∃ v w', (openRecord id).run w = (.ok v, w') := by
  rw [openRecord, run_look, run_check opened]
  cases type : c.type with
  | dictionary k value ordered => exact ⟨_, _, rfl⟩
  | _ => exact ⟨_, _, rfl⟩

/-- A view that is made is put in a new register. -/
lemma run_produce {body : Session Nat} (h : body.run w = (.ok v, w')) :
    (produce body).run w =
      (.ok w'.registers.size, { w' with registers := w'.registers.push (some v) }) := by
  have made : (Except.ok <$> body : Session (Checked Nat)).run w = (.ok (.ok v), w') := by
    rw [map_eq_pure_bind, run_bind h]
    rfl
  have tried : (tryCatch (Except.ok <$> body) fun e => do
      modify Workspace.reclaim
      return .error e : Session (Checked Nat)).run w = (.ok (.ok v), w') := by
    rw [run_tryCatch, made]
  rw [produce, run_bind tried]
  change (Except.ok ((w'.registers.push (some v)).size - 1), _) = _
  rw [Array.size_push, Nat.add_sub_cancel]
  rfl

/-- Where no view could be made, a new register holds nothing. -/
lemma run_produce_error {body : Session Nat} {e : Fault} (h : body.run w = (.error e, w')) :
    (produce body).run w =
      (.error e, { w'.reclaim with registers := w'.registers.push none }) := by
  have failed : (Except.ok <$> body : Session (Checked Nat)).run w = (.error e, w') := by
    rw [map_eq_pure_bind, run_bind_error h]
  have tried : (tryCatch (Except.ok <$> body) fun e => do
      modify Workspace.reclaim
      return .error e : Session (Checked Nat)).run w = (.ok (.error e), w'.reclaim) := by
    rw [run_tryCatch, failed]
    rfl
  rw [produce, run_bind tried]
  rfl

end Running

end Columnar.Session
