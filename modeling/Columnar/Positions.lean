/-!
# Going through positions

Slots, bits and words are looked at by position, in order, with a state carried along. A failure
ends the walk at once, so a walk costs what the positions cost that it came to, however many more
there are. Main statement: the walk is the fold over the list of its positions.
-/

namespace Columnar

/-- Visits the `n` positions from `i` on in order, carrying a state along. -/
@[specialize]
def foldPositions {m : Type → Type} [Monad m] {σ : Type} (visit : σ → Nat → m σ) :
    (n i : Nat) → (start : σ) → m σ
  | 0, _, s => pure s
  | n + 1, i, s => do foldPositions visit n (i + 1) (← visit s i)

/-- Going through positions folds over their list. -/
theorem foldPositions_eq_foldlM {m : Type → Type} [Monad m] {σ : Type} (visit : σ → Nat → m σ)
    (n i : Nat) (start : σ) :
    foldPositions visit n i start = (List.range' i n).foldlM visit start := by
  induction n generalizing i start with
  | zero => rfl
  | succ n ih =>
    rw [List.range'_succ, List.foldlM_cons, foldPositions]
    exact bind_congr fun s => ih (i + 1) s

end Columnar
