import Mathlib.Tactic.Common
import Columnar.Memory.Pool
import Columnar.Proofs.Checked

/-!
# Computations that go alike

Two computations match if they fail alike or give related answers. Computations that ask a pool for
memory match if they also leave every pool alike. There is one rule for each way of building a
computation.
-/

namespace Columnar
variable {α α' β β' : Type} {R : α → α' → Prop} {S : β → β' → Prop}

namespace Checked

/-- Whether both computations fail alike or answer with related values. -/
inductive Matches (R : α → α' → Prop) : Checked α → Checked α' → Prop
  | ok {a : α} {a' : α'} (related : R a a') : Matches R (.ok a) (.ok a')
  | error (e : Fault) : Matches R (.error e) (.error e)

namespace Matches

lemma refl {R : α → α → Prop} (same : ∀ a, R a a) (x : Checked α) : Matches R x x := by
  cases x with
  | ok a => exact .ok (same a)
  | error e => exact .error e

lemma guard {c : Prop} [Decidable c] {e : Fault} {x : Checked α} {x' : Checked α'}
    (rest : ¬ c → Matches R x x') :
    Matches R (if c then .error e else x) (if c then .error e else x') := by
  split
  · exact .error e
  · next h => exact rest h

end Matches

end Checked

namespace Pooled

/-- Whether both computations leave every pool alike, and fail alike or answer with related
values. -/
def Matches (R : α → α' → Prop) (p : Pooled α) (p' : Pooled α') : Prop :=
  ∀ pool, Checked.Matches R (p.run pool).1 (p'.run pool).1 ∧ (p'.run pool).2 = (p.run pool).2

namespace Matches

lemma refl {R : α → α → Prop} (same : ∀ a, R a a) (p : Pooled α) : Matches R p p :=
  fun _ => ⟨.refl same _, rfl⟩

lemma checked {x : Checked α} {x' : Checked α'} (h : Checked.Matches R x x') :
    Matches R (ofExcept x) (ofExcept x') := by
  intro pool
  cases h with
  | ok related => exact ⟨.ok related, rfl⟩
  | error e => exact ⟨.error e, rfl⟩

lemma bind {p : Pooled α} {p' : Pooled α'} {f : α → Pooled β} {f' : α' → Pooled β'}
    (first : Matches R p p') (next : ∀ a a', R a a' → Matches S (f a) (f' a')) :
    Matches S (p >>= f) (p' >>= f') := by
  intro pool
  obtain ⟨answers, pools⟩ := first pool
  have run : (p >>= f).run pool = ExceptT.bindCont f (p.run pool).1 (p.run pool).2 := rfl
  have run' : (p' >>= f').run pool = ExceptT.bindCont f' (p'.run pool).1 (p'.run pool).2 := rfl
  rw [run, run', pools]
  generalize (p.run pool).1 = answer at answers ⊢
  generalize (p'.run pool).1 = answer' at answers ⊢
  cases answers with
  | ok related => exact next _ _ related _
  | error e => exact ⟨.error e, rfl⟩

end Matches

end Pooled

end Columnar
