import Mathlib.Tactic.Common
import Columnar.Positions
import Columnar.Fault.Basic

/-!
# Checked computations

How a checked computation is taken apart, and what a walk over positions keeps. A walk is described
by what holds before each position: `foldPositions_inv` for a walk on which nothing fails, and
`inv_of_foldPositions` for one that is known to have come to its end.
-/

namespace Columnar

namespace Checked
variable {α β : Type}

@[simp] lemma pure_eq_ok (a : α) : (pure a : Checked α) = .ok a := rfl

@[simp] lemma throw_eq_error (e : Fault) : (throw e : Checked α) = .error e := rfl

@[simp] lemma ok_bind (a : α) (f : α → Checked β) : ((.ok a : Checked α) >>= f) = f a := rfl

@[simp] lemma error_bind (e : Fault) (f : α → Checked β) :
    ((.error e : Checked α) >>= f) = .error e := rfl

/-- A sequence answers exactly when both of its parts do. -/
lemma bind_eq_ok {x : Checked α} {f : α → Checked β} {b : β} :
    (x >>= f) = .ok b ↔ ∃ a, x = .ok a ∧ f a = .ok b := by
  cases x with
  | ok a => simp
  | error e => simp

/-- A sequence fails where its first failing part does. -/
lemma bind_eq_error {x : Checked α} {f : α → Checked β} {e : Fault} :
    (x >>= f) = .error e ↔ x = .error e ∨ ∃ a, x = .ok a ∧ f a = .error e := by
  cases x with
  | ok a => simp
  | error e => simp

lemma check_bind_eq_ok {x : Checked Unit} {y : Checked β} {b : β} :
    (x >>= fun _ => y) = .ok b ↔ x = .ok () ∧ y = .ok b := by
  cases x with
  | ok a => simp
  | error e => simp

lemma guard_eq_ok {c : Prop} [Decidable c] {e : Fault} {x : Checked α} {a : α} :
    (if c then .error e else x) = .ok a ↔ ¬ c ∧ x = .ok a := by
  by_cases h : c <;> simp [h]

end Checked

section Walks
variable {σ : Type} {f : σ → Nat → Checked σ} (Inv : Nat → σ → Prop) {n i : Nat} {s t : σ}

/-- What every visit keeps and no visit fails on holds at the end of the walk. -/
lemma foldPositions_inv (start : Inv i s)
    (step : ∀ p s, i ≤ p → p < i + n → Inv p s → ∃ t, f s p = .ok t ∧ Inv (p + 1) t) :
    ∃ t, foldPositions f n i s = .ok t ∧ Inv (i + n) t := by
  induction n generalizing i s with
  | zero => exact ⟨s, rfl, start⟩
  | succ n ih =>
    obtain ⟨t, e, inv⟩ := step i s (by omega) (by omega) start
    obtain ⟨u, e', inv'⟩ := ih inv fun p s lo hi => step p s (by omega) (by omega)
    refine ⟨u, ?_, ?_⟩
    · rw [foldPositions, e]
      exact e'
    · rw [show i + (n + 1) = i + 1 + n by omega]
      exact inv'

/-- What every visit keeps that does not fail holds where a walk has come to its end. -/
lemma inv_of_foldPositions (run : foldPositions f n i s = .ok t) (start : Inv i s)
    (step : ∀ p s t, f s p = .ok t → Inv p s → Inv (p + 1) t) : Inv (i + n) t := by
  induction n generalizing i s with
  | zero =>
    cases run
    exact start
  | succ n ih =>
    rw [foldPositions, Checked.bind_eq_ok] at run
    obtain ⟨u, first, rest⟩ := run
    rw [show i + (n + 1) = i + 1 + n by omega]
    exact ih rest (step i s u first start)

/-- A walk that carries nothing along comes to its end if no position fails, and fails where the
first position does that fails. -/
lemma foldPositions_cases (check : Unit → Nat → Checked Unit) (n i : Nat) :
    (foldPositions check n i () = .ok () ∧ ∀ p, i ≤ p → p < i + n → check () p = .ok ()) ∨
    ∃ p e, i ≤ p ∧ p < i + n ∧ check () p = .error e ∧
      (∀ q, i ≤ q → q < p → check () q = .ok ()) ∧ foldPositions check n i () = .error e := by
  induction n generalizing i with
  | zero => exact .inl ⟨rfl, fun p lo hi => by omega⟩
  | succ n ih =>
    cases first : check () i with
    | error e =>
      refine .inr ⟨i, e, Nat.le_refl i, by omega, first, fun q lo hi => by omega, ?_⟩
      rw [foldPositions, first]
      rfl
    | ok u =>
      have here (q : Nat) (lo : i ≤ q) (rest : i + 1 ≤ q → check () q = .ok ()) :
          check () q = .ok () := by
        rcases Nat.eq_or_lt_of_le lo with rfl | later
        · exact first
        · exact rest later
      have go : foldPositions check (n + 1) i () = foldPositions check n (i + 1) () := by
        rw [foldPositions, first]
        rfl
      rw [go]
      rcases ih (i + 1) with ⟨run, fine⟩ | ⟨p, e, lo, hi, failed, before, run⟩
      · exact .inl ⟨run, fun q lo hi => here q lo fun later => fine q later (by omega)⟩
      · exact .inr ⟨p, e, by omega, by omega, failed,
          fun q lo hi => here q lo fun later => before q later hi, run⟩

end Walks

section Lists
variable {α σ : Type} {f : σ → α → Checked σ} {xs : List α} {s t : σ}

/-- What comes to its end has failed at no element. -/
lemma exists_step_of_foldlM (run : xs.foldlM f s = .ok t) {x : α} (hx : x ∈ xs) :
    ∃ s t, f s x = .ok t := by
  induction xs generalizing s with
  | nil => cases hx
  | cons y ys ih =>
    rw [List.foldlM_cons, Checked.bind_eq_ok] at run
    obtain ⟨u, step, rest⟩ := run
    cases hx with
    | head => exact ⟨s, u, step⟩
    | tail _ hx => exact ih rest hx

lemma exists_failure_of_foldlM {e : Fault} (run : xs.foldlM f s = .error e) :
    ∃ s x, f s x = .error e := by
  induction xs generalizing s with
  | nil => cases run
  | cons y ys ih =>
    rw [List.foldlM_cons, Checked.bind_eq_error] at run
    rcases run with step | ⟨u, -, rest⟩
    · exact ⟨s, y, step⟩
    · exact ih rest

/-- What exists at each position can be put in a list. -/
lemma exists_list {P : Nat → α → Prop} {n : Nat} (h : ∀ p < n, ∃ a, P p a) :
    ∃ xs : List α, xs.length = n ∧ ∀ p a, xs[p]? = some a → P p a := by
  induction n with
  | zero => exact ⟨[], rfl, fun p a here => by cases here⟩
  | succ n ih =>
    obtain ⟨xs, length, holds⟩ := ih fun p hp => h p (Nat.lt_succ_of_lt hp)
    obtain ⟨a, last⟩ := h n (Nat.lt_succ_self n)
    refine ⟨xs ++ [a], by rw [List.length_append, length, List.length_singleton],
      fun p b here => ?_⟩
    rcases Nat.lt_or_ge p n with lt | ge
    · rw [List.getElem?_append_left (length ▸ lt)] at here
      exact holds p b here
    · obtain ⟨hp, rfl⟩ := List.getElem?_eq_some_iff.1 here
      rw [List.length_append, length, List.length_singleton] at hp
      obtain rfl : p = n := by omega
      simpa [length] using last

end Lists

end Columnar
