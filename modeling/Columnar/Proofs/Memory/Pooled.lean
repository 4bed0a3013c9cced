import Mathlib.Tactic.Common
import Columnar.Memory.Buffer
import Columnar.Proofs.Checked

/-!
# Computations that ask for memory

`Pooled.Settles x r` says that `x` ends in `r` whatever its pool holds, unless the pool refuses a
request on the way. Everything that a kernel does between its requests is checked and reads no pool,
so its result settles; what the result is when every request is satisfied, and what it can be when
it is fine, both follow (`Settles.result`, `Settles.eq_ok`).
-/

namespace Columnar

/-- Whether the pool satisfies every request. -/
def Pool.Grants (p : Pool) : Prop := ∀ outstanding size, p.policy outstanding size = none

namespace Pooled
variable {α β : Type} {x : Pooled α} {f : α → Pooled β} {p q : Pool}

/-- Whether the computation ends in `r`, or its pool refused a request. -/
def Settles (x : Pooled α) (r : Checked α) : Prop :=
  ∀ p : Pool, ∃ q : Pool, q.policy = p.policy ∧
    (x.run p = (r, q) ∨
      ∃ e outstanding size, p.policy outstanding size = some e ∧
        x.run p = (.error (.allocation e), q))

lemma run_bind_ok {a : α} (h : x.run p = (.ok a, q)) : (x >>= f).run p = (f a).run q := by
  change ExceptT.bindCont f (x.run p).1 (x.run p).2 = _
  rw [h]
  rfl

lemma run_bind_error {e : Fault} (h : x.run p = (.error e, q)) :
    (x >>= f).run p = (.error e, q) := by
  change ExceptT.bindCont f (x.run p).1 (x.run p).2 = _
  rw [h]
  rfl

/-- A sequence that ends well has first parts that do. -/
lemma exists_of_bind {b : β} (h : ((x >>= f).run p).1 = .ok b) :
    ∃ a q, x.run p = (.ok a, q) ∧ ((f a).run q).1 = .ok b := by
  cases run : x.run p with
  | mk r q =>
    cases r with
    | ok a =>
      rw [run_bind_ok run] at h
      exact ⟨a, q, rfl, h⟩
    | error e =>
      rw [run_bind_error run] at h
      cases h

lemma run_tryCatch_ok {a : α} {handle : Fault → Pooled α} (h : x.run p = (.ok a, q)) :
    (tryCatch x handle).run p = (.ok a, q) := by
  change x p = (.ok a, q) at h
  simp only [tryCatch, tryCatchThe, MonadExceptOf.tryCatch, ExceptT.tryCatch, ExceptT.run_mk, bind,
    StateT.bind, h]
  rfl

lemma run_tryCatch_error {e : Fault} {handle : Fault → Pooled α} (h : x.run p = (.error e, q)) :
    (tryCatch x handle).run p = (handle e).run q := by
  change x p = (.error e, q) at h
  simp only [tryCatch, tryCatchThe, MonadExceptOf.tryCatch, ExceptT.tryCatch, ExceptT.run_mk, bind,
    StateT.bind, h]
  rfl

/-- What ends well although failures are thrown again has not failed. -/
lemma of_tryCatch {a : α} {u : Fault → Pooled Unit}
    (h : ((tryCatch x fun e => do u e; throw e).run p).1 = .ok a) : (x.run p).1 = .ok a := by
  cases run : x.run p with
  | mk r q =>
    cases r with
    | ok b =>
      rw [run_tryCatch_ok run] at h
      exact h
    | error e =>
      rw [run_tryCatch_error run] at h
      obtain ⟨_, q', -, thrown⟩ := exists_of_bind h
      cases thrown

namespace Settles

/-- What settles is the result where every request is satisfied. -/
lemma result {r : Checked α} (h : x.Settles r) (grants : p.Grants) : (x.run p).1 = r := by
  obtain ⟨q, -, run | ⟨e, outstanding, size, refused, -⟩⟩ := h p
  · rw [run]
  · rw [grants outstanding size] at refused
    cases refused

/-- A fine result is what settles, whatever the pool does. -/
lemma eq_ok {r : Checked α} {a : α} (h : x.Settles r) (run : (x.run p).1 = .ok a) : r = .ok a := by
  obtain ⟨q, -, run' | ⟨e, outstanding, size, -, run'⟩⟩ := h p
  · rw [run'] at run
    exact run
  · rw [run'] at run
    cases run

end Settles

end Pooled

end Columnar
