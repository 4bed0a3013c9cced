import Mathlib.Tactic.Common
import Columnar.Print.Lines

/-!
# Which lines are printed

The walk over the lines of a column steps from slot to slot and leaps over the middle. It comes to
its end with the lines that `Print.elided` lists: all slots, or as many at each end as the window
says with one line of dots between (`lines_eq`). A negative window shows no slot, like a window of
none.
-/

namespace Columnar.Print
variable {length window i : Int} {n start k : Nat}

/-- A line for each of the `k` slots from `start` on. -/
def slotLines (start k : Nat) : List Line := (List.range' start k).map fun i : Nat => .slot i

/-- The lines of a column of `n` slots of which `m` are shown at each end, with one line of dots for
the slots between unless there are none. -/
def elided (n m : Nat) : List Line :=
  if n ≤ 2 * m then slotLines 0 n else slotLines 0 m ++ .dots :: slotLines (n - m) m

section Walk

lemma linesFrom_of_le (past : length ≤ i) : linesFrom length window i = [] := by
  rw [linesFrom, dif_neg (Int.not_lt.2 past)]

/-- Where the middle begins, the walk leaps behind it. -/
lemma linesFrom_middle (inside : i < length) (middle : window ≤ i ∧ i < length - window) :
    linesFrom length window i = .dots :: linesFrom length window (length - window) := by
  rw [linesFrom, dif_pos inside, dif_pos middle]

/-- Outside of the middle, the walk steps to the next slot. -/
lemma linesFrom_slot (inside : i < length) (outside : ¬ (window ≤ i ∧ i < length - window)) :
    linesFrom length window i = .slot i :: linesFrom length window (i + 1) := by
  rw [linesFrom, dif_pos inside, dif_neg outside]

/-- Slots outside of the middle are walked over one by one. -/
lemma linesFrom_slots (window : Int) (start k : Nat) (inside : start + k ≤ n)
    (outside : ∀ p : Nat, start ≤ p → p < start + k → ¬ (window ≤ p ∧ (p : Int) < n - window)) :
    linesFrom n window start = slotLines start k ++ linesFrom n window (start + k : Nat) := by
  induction k generalizing start with
  | zero => rfl
  | succ k ih =>
    have rest := ih (start + 1) (by omega) fun p lo hi => outside p (by omega) (by omega)
    rw [Int.natCast_succ] at rest
    rw [linesFrom_slot (by omega) (outside start (Nat.le_refl start) (by omega)), rest, slotLines,
      slotLines, List.range'_succ, List.map_cons, List.cons_append]
    congr 3
    omega

end Walk

/-- The walk comes to its end with all slots if both ends together are enough for them, and else
with the slots of both ends and one line of dots between. -/
lemma lines_eq (n : Nat) (window : Int) : lines n window = elided n window.toNat := by
  rw [lines, elided]
  split
  · next enough =>
    have whole := linesFrom_slots (n := n) window 0 n (by omega) fun p _ hp => by omega
    rw [Nat.zero_add, linesFrom_of_le (Int.le_refl n), List.append_nil] at whole
    exact whole
  · next middle =>
    have first := linesFrom_slots (n := n) window 0 window.toNat (by omega)
      fun p _ hp => by omega
    have leap : linesFrom n window (0 + window.toNat : Nat) =
        .dots :: linesFrom n window (n - window) := linesFrom_middle (by omega) (by omega)
    refine (first.trans ?_)
    rw [leap]
    -- The leap of a negative window ends behind the last slot.
    rcases Int.lt_or_le window 0 with negative | nonneg
    · have none : window.toNat = 0 := by omega
      rw [linesFrom_of_le (by omega), none]
      rfl
    · obtain ⟨m, rfl⟩ := Int.eq_ofNat_of_zero_le nonneg
      rw [Int.toNat_natCast] at middle ⊢
      have last := linesFrom_slots (n := n) m (n - m) m (by omega) fun p lo _ => by omega
      have behind : n - m + m = n := by omega
      have place : ((n - m : Nat) : Int) = n - m := by omega
      rw [behind, linesFrom_of_le (Int.le_refl n), List.append_nil, place] at last
      rw [last]

end Columnar.Print
