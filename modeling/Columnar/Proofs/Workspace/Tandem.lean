import Mathlib.Tactic.Common
import Columnar.Proofs.Matching
import Columnar.Proofs.Workspace.Session
import Columnar.Proofs.Workspace.Twins

/-!
# Sessions on twins

`Session.Tandem x x' w w' post` says of two sessions, one on each of two twins, that they fail alike
or give the same answer, leave twins, and if they answer, leave them with `post`. There is one rule
for each way of building a session, as there is for what one session keeps.
-/

namespace Columnar.Session
open Workspace
variable {α β γ γ' : Type} {x x' : Session α} {f f' : α → Session β} {w w' : Workspace}
  {post : α → Workspace → Workspace → Prop} {last : β → Workspace → Workspace → Prop}

/-- How two sessions may end: with the same answer and a postcondition, or with the same failure,
and in twins either way. -/
inductive Agree (post : α → Workspace → Workspace → Prop) :
    Checked α × Workspace → Checked α × Workspace → Prop
  | ok {a : α} {w w' : Workspace} (twins : w.Twins w') (holds : post a w w') :
    Agree post (.ok a, w) (.ok a, w')
  | error {w w' : Workspace} (e : Fault) (twins : w.Twins w') :
    Agree post (.error e, w) (.error e, w')

/-- Whether two sessions, one on each workspace, fail alike or answer alike, and leave twins. -/
def Tandem (x x' : Session α) (w w' : Workspace) (post : α → Workspace → Workspace → Prop) : Prop :=
  Agree post (x.run w) (x'.run w')

namespace Tandem

lemma answer {a : α} (h : w.Twins w') (holds : post a w w') : Tandem (pure a) (pure a) w w' post :=
  .ok h holds

lemma fail {e : Fault} (h : w.Twins w') : Tandem (throw e : Session α) (throw e) w w' post :=
  .error e h

lemma bind (first : Tandem x x' w w' post)
    (next : ∀ a v v', v.Twins v' → post a v v' → Tandem (f a) (f' a) v v' last) :
    Tandem (x >>= f) (x' >>= f') w w' last := by
  have run : (x >>= f).run w = ExceptT.bindCont f (x.run w).1 (x.run w).2 := rfl
  have run' : (x' >>= f').run w' = ExceptT.bindCont f' (x'.run w').1 (x'.run w').2 := rfl
  unfold Tandem at first ⊢
  rw [run, run']
  generalize x.run w = ended at first ⊢
  generalize x'.run w' = ended' at first ⊢
  cases first with
  | ok twins holds => exact next _ _ _ twins holds
  | error e twins => exact .error e twins

lemma weaken {post' : α → Workspace → Workspace → Prop} (h : Tandem x x' w w' post)
    (implies : ∀ a v v', v.Twins v' → post a v v' → post' a v v') : Tandem x x' w w' post' := by
  unfold Tandem at h ⊢
  generalize x.run w = ended at h ⊢
  generalize x'.run w' = ended' at h ⊢
  cases h with
  | ok twins holds => exact .ok twins (implies _ _ _ twins holds)
  | error e twins => exact .error e twins

/-- Whatever is made of the answers, it is made of the same ones. -/
lemma map {g : α → β} (h : Tandem x x' w w' post) :
    Tandem (do return g (← x)) (do return g (← x')) w w' fun _ _ _ => True :=
  h.bind fun _ _ _ twins _ => .answer twins trivial

lemma run_eq (h : Tandem x x' w w' post) :
    (x'.run w').1 = (x.run w).1 ∧ (x.run w).2.Twins (x'.run w').2 := by
  unfold Tandem at h
  generalize x.run w = ended at h ⊢
  generalize x'.run w' = ended' at h ⊢
  cases h with
  | ok twins _ => exact ⟨rfl, twins⟩
  | error _ twins => exact ⟨rfl, twins⟩

/-- What each of two sessions keeps by itself can be added to what they have in common. -/
lemma along {inv inv' : Workspace → Prop} {made made' : α → Workspace → Prop}
    (h : Tandem x x' w w' post) (left : Keeps inv x w made) (right : Keeps inv' x' w' made') :
    Tandem x x' w w' fun a v v' => post a v v' ∧ made a v ∧ made' a v' := by
  unfold Tandem at h ⊢
  obtain ⟨-, left⟩ := left
  obtain ⟨-, right⟩ := right
  generalize x.run w = ended at *
  generalize x'.run w' = ended' at *
  cases h with
  | ok twins holds => exact .ok twins ⟨holds, left _ rfl, right _ rfl⟩
  | error e twins => exact .error e twins

lemma look {f f' : Workspace → Session β} (next : Tandem (f w) (f' w') w w' last) :
    Tandem (get >>= f) (get >>= f') w w' last := next

lemma check {R : γ → γ' → Prop} {c : Checked γ} {c' : Checked γ'} {f : γ → Session β}
    {f' : γ' → Session β} (h : w.Twins w') (same : c.Matches R c')
    (next : ∀ a a', c = .ok a → c' = .ok a' → R a a' → Tandem (f a) (f' a') w w' last) :
    Tandem (liftM c >>= f) (liftM c' >>= f') w w' last := by
  cases same with
  | ok related => exact next _ _ rfl rfl related
  | error e => exact .error e h

/-- What both look up and find the same is answered alike. -/
lemma checked {c c' : Checked α} (h : w.Twins w') (same : c' = c) :
    Tandem (liftM c) (liftM c') w w' fun _ v v' => v = w ∧ v' = w' := by
  subst same
  cases c' with
  | ok a => exact .ok h ⟨rfl, rfl⟩
  | error e => exact .error e h

/-- Asking both pools for memory in the same way leaves them alike. -/
lemma pooled {R : γ → γ' → Prop} {p : Pooled γ} {p' : Pooled γ'} {f : γ → Session β}
    {f' : γ' → Session β} (h : w.Twins w') (same : p.Matches R p')
    (next : ∀ a a' pool, (p.run w.pool).1 = .ok a → (p'.run w'.pool).1 = .ok a' → R a a' →
      Tandem (f a) (f' a') { w with pool } { w' with pool } last) :
    Tandem (Session.pooled p >>= f) (Session.pooled p' >>= f') w w' last := by
  rw [Session.pooled, Session.pooled, bind_assoc, bind_assoc]
  refine .look ?_
  obtain ⟨answers, pools⟩ := same w.pool
  rw [h.pool] at next ⊢
  generalize p.run w.pool = ended at *
  generalize p'.run w.pool = ended' at *
  obtain ⟨result, pool⟩ := ended
  obtain ⟨result', pool'⟩ := ended'
  obtain rfl : pool' = pool := pools
  cases answers with
  | ok related => exact next _ _ _ rfl rfl related
  | error e => exact .error e (h.withPool pool')

lemma change {g g' : Workspace → Workspace} (h : (g w).Twins (g' w')) :
    Tandem (modify g : Session Unit) (modify g') w w' fun _ v v' => v = g w ∧ v' = g' w' :=
  .ok h ⟨rfl, rfl⟩

lemma attempt {handle handle' : Fault → Session α} (h : Tandem x x' w w' post)
    (handled : ∀ e v v', v.Twins v' → Tandem (handle e) (handle' e) v v' post) :
    Tandem (tryCatch x handle) (tryCatch x' handle') w w' post := by
  unfold Tandem at h ⊢
  rw [run_tryCatch, run_tryCatch]
  generalize x.run w = ended at h ⊢
  generalize x'.run w' = ended' at h ⊢
  cases h with
  | ok twins holds => exact .ok twins holds
  | error e twins => exact handled e _ _ twins

/-- Sessions that make a view put it in the same new register, or put nothing in it. -/
lemma produce {body body' : Session Nat}
    (h : Tandem body body' w w' fun v u _ => v < u.views.size) :
    Tandem (Session.produce body) (Session.produce body') w w' fun _ _ _ => True := by
  have tried : Tandem
      (tryCatch (Except.ok <$> body) fun e => do
        modify Workspace.reclaim
        return .error e : Session (Checked Nat))
      (tryCatch (Except.ok <$> body') fun e => do
        modify Workspace.reclaim
        return .error e : Session (Checked Nat)) w w'
      fun r u _ => ∀ v, r.toOption = some v → v < u.views.size := by
    refine .attempt (h.bind fun v u u' twins inside => .answer twins ?_) fun e u u' twins => ?_
    · rintro _ ⟨⟩
      exact inside
    · exact (change twins.reclaim).bind fun _ _ _ twins _ => .answer twins nofun
  refine tried.bind fun r u u' twins inside => ?_
  refine (change (twins.withRegister inside)).bind fun _ v v' twins' _ => ?_
  cases r with
  | ok a =>
    change Tandem (do return (← get).registers.size - 1) (do return (← get).registers.size - 1)
      v v' _
    refine .look ?_
    rw [twins'.registers]
    exact .answer twins' trivial
  | error e => exact .error e twins'

section Registers
variable {r : Nat}

lemma viewIn {f f' : Nat → Session β} (h : w.Twins w')
    (next : ∀ v, w.registers[r]? = some (some v) → Tandem (f v) (f' v) w w' last) :
    Tandem (Session.viewIn r >>= f) (Session.viewIn r >>= f') w w' last := by
  rw [Session.viewIn, held, bind_assoc, bind_assoc, bind_assoc, bind_assoc]
  refine .look ?_
  rw [h.registers]
  cases found : w.registers[r]? with
  | none => exact .error _ h
  | some holds =>
    cases holds with
    | none => exact .error _ h
    | some v => exact next v found

lemma columnIn {f f' : Column → Session β} (h : w.Twins w')
    (next : ∀ v, w.registers[r]? = some (some v) →
      Tandem (f (w.columnOf v)) (f' (w'.columnOf v)) w w' last) :
    Tandem (Session.columnIn r >>= f) (Session.columnIn r >>= f') w w' last := by
  rw [Session.columnIn, bind_assoc, bind_assoc]
  exact .viewIn h fun v found => .look (next v found)

lemma recordIn {f f' : Nat → Session β} (h : w.Twins w')
    (next : ∀ v, w.registers[r]? = some (some v) →
      Tandem (f (w.view v).record) (f' (w.view v).record) w w' last) :
    Tandem (Session.recordIn r >>= f) (Session.recordIn r >>= f') w w' last := by
  rw [Session.recordIn, bind_assoc, bind_assoc]
  refine .viewIn h fun v found => .look ?_
  rw [h.view]
  exact next v found

end Registers

end Tandem

end Columnar.Session
