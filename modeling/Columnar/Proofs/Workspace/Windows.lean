import Mathlib.Tactic.Common
import Columnar.Proofs.Workspace.Slicing

/-!
# Windows inside a column

`Column.slice?` cuts out exactly the windows that lie inside the column, whatever two words name
them. Its test is also looked at in words (`Column.outside`), where the sum of offset and length
could overflow and the difference that is formed instead cannot.

Main statement: `Column.slice?_of_words`. A window inside is cut out as it is by `Column.slice`,
with no breach of contract and at its full length; any other is an index error, and in a workspace
it leaves every record as it was.
-/

namespace Columnar

namespace Column
variable {c : Column} {offset length : Int}

/-- Whether a window lies inside the column. -/
def Inside (c : Column) (offset length : Int) : Prop :=
  0 ≤ offset ∧ 0 ≤ length ∧ offset + length ≤ c.length

instance : Decidable (c.Inside offset length) := inferInstanceAs (Decidable (_ ∧ _))

/-- The test of `slice?` in words, for a column of `n` slots. The difference is formed only for a
length that is not negative. -/
def outside (n offset length : Int64) : Bool :=
  (offset < 0 || length < 0) || offset > n - length

/-- The difference stays in the word where it is formed. -/
lemma toInt_sub_length {n length : Int64} (lo : 0 ≤ n.toInt) (nonneg : 0 ≤ length.toInt) :
    (n - length).toInt = n.toInt - length.toInt := by
  have hi := n.toInt_lt
  have hi' := length.toInt_lt
  rw [Int64.toInt_sub, Int.bmod_eq_of_le (by omega) (by omega)]

lemma outside_eq_false {n offset length : Int64} (known : c.length = n.toInt)
    (lo : 0 ≤ c.length) :
    outside n offset length = false ↔ c.Inside offset.toInt length.toInt := by
  unfold outside Inside
  rw [Bool.or_eq_false_iff, Bool.or_eq_false_iff, decide_eq_false_iff_not,
    decide_eq_false_iff_not, decide_eq_false_iff_not, gt_iff_lt, Int64.lt_iff_toInt_lt,
    Int64.lt_iff_toInt_lt, Int64.lt_iff_toInt_lt, Int64.toInt_zero]
  by_cases nonneg : 0 ≤ length.toInt
  · rw [toInt_sub_length (known ▸ lo) nonneg]
    omega
  · exact iff_of_false (by omega) (by omega)

/-- A window inside is cut out at its full length, as it is without the test. -/
lemma slice?_of_inside (inside : c.Inside offset length) :
    c.slice? offset length = c.slice offset length ∧
      ∃ s, c.slice offset length = .ok s ∧ s.length = length := by
  obtain ⟨lo, nonneg, fits⟩ := inside
  obtain ⟨s, sliced⟩ := exists_slice c offset length (by omega)
  have width := length_of_slice sliced
  refine ⟨?_, s, sliced, by omega⟩
  rw [slice?, if_neg (by omega), if_neg (by omega)]

/-- A window that does not lie inside is an index error. -/
lemma slice?_of_not_inside (outside : ¬ c.Inside offset length) :
    ∃ e, e.report.code = .indexError ∧ c.slice? offset length = .error (.window e) := by
  unfold Inside at outside
  unfold slice?
  by_cases negative : offset < 0 ∨ length < 0
  · rw [if_pos negative]
    exact ⟨_, rfl, rfl⟩
  · rw [if_neg negative, if_pos (by omega)]
    exact ⟨_, rfl, rfl⟩

end Column

namespace Session
open Workspace
variable {w : Workspace} {r v : Nat} {s : Column} {offset length : Int} {e : Fault}

/-- A window that passes the test is sliced as without it. -/
lemma run_slice?_of_ok (linked : w.Linked) (held : w.registers[r]? = some (some v))
    (same : (w.columnOf v).slice? offset length = (w.columnOf v).slice offset length)
    (sliced : (w.columnOf v).slice offset length = .ok s)
    (encoded : (w.columnOf v).type.isDictionary = true → (w.columnOf v).dictionary.isSome = true) :
    ∃ x w', (Session.slice? r offset length).run w = (.ok x, w') ∧
      (Session.slice r offset length).run w = (.ok x, w') := by
  have shape := Column.eq_of_slice sliced
  obtain ⟨u, w', run⟩ := exists_run_openWindow linked
    (linked.record v (linked.registers r v held)) shape (by rw [shape]; exact encoded)
  have tested := run_cut (·.slice? offset length) held (same.trans sliced)
  have untested := run_cut (·.slice offset length) held sliced
  exact ⟨_, _, run_produce (tested.trans run), run_produce (untested.trans run)⟩

/-- A window that does not pass the test adds an empty register and changes no column. -/
lemma run_slice?_of_error (held : w.registers[r]? = some (some v))
    (failed : (w.columnOf v).slice? offset length = .error e) :
    (Session.slice? r offset length).run w =
      (.error e, { w.reclaim with registers := w.registers.push none }) :=
  run_produce_error (run_cut_error (·.slice? offset length) held failed)

end Session

namespace Column
variable {c : Column}

/-- A window that two words name passes the test in words exactly if it lies inside the column as
integers say, and the test does not overflow. It is then cut out as without the test, at its full
length. Any other window is an index error. A register that holds the column is sliced with the test
as without it, or nothing is changed but that there is a new empty register. -/
theorem slice?_of_words (n offset length : Int64) (known : c.length = n.toInt)
    (lo : 0 ≤ c.length) :
    (outside n offset length = false ↔ c.Inside offset.toInt length.toInt) ∧
    (0 ≤ length.toInt → (n - length).toInt = n.toInt - length.toInt) ∧
    (c.Inside offset.toInt length.toInt →
      c.slice? offset.toInt length.toInt = c.slice offset.toInt length.toInt ∧
        ∃ s, c.slice offset.toInt length.toInt = .ok s ∧ s.length = length.toInt) ∧
    (¬ c.Inside offset.toInt length.toInt →
      ∃ e, e.report.code = .indexError ∧
        c.slice? offset.toInt length.toInt = .error (.window e)) ∧
    ∀ (w : Workspace) (r v : Nat), w.Linked → w.registers[r]? = some (some v) →
      w.columnOf v = c → (c.type.isDictionary = true → c.dictionary.isSome = true) →
      (c.Inside offset.toInt length.toInt →
        ∃ x w', (Session.slice? r offset.toInt length.toInt).run w = (.ok x, w') ∧
          (Session.slice r offset.toInt length.toInt).run w = (.ok x, w')) ∧
      (¬ c.Inside offset.toInt length.toInt →
        ∃ e w', e.report.code = .indexError ∧
          (Session.slice? r offset.toInt length.toInt).run w = (.error (.window e), w') ∧
          w'.records = w.records ∧ w'.buffers = w.buffers ∧ w'.views = w.views ∧
          w'.registers = w.registers.push none) := by
  refine ⟨outside_eq_false known lo, toInt_sub_length (known ▸ lo), slice?_of_inside,
    slice?_of_not_inside, ?_⟩
  rintro w r v linked held rfl encoded
  constructor
  · intro inside
    obtain ⟨same, s, sliced, -⟩ := slice?_of_inside inside
    exact Session.run_slice?_of_ok linked held same sliced encoded
  · intro outside
    obtain ⟨e, code, failed⟩ := slice?_of_not_inside outside
    exact ⟨e, _, code, Session.run_slice?_of_error held failed, rfl, rfl, rfl, rfl⟩

/-- The last three of four slots, and the window that the largest words name, whose sum does not fit
a word; in a register, the three slots and one slot too many. -/
theorem slice?_of_last_words :
    let c : Column := ⟨.int (.int .w8), 4, 1, -1,
      [some (.ofBytes #[0b11010]), some (.ofBytes #[9, 0, 1, 2, 3])], none⟩
    let w := ((Session.addInput c).run { pool := ⟨[], .generous, true, {}, fun _ => 0⟩ }).2
    let last := Int64.ofInt (2 ^ 63 - 1)
    w.Linked ∧ outside 4 1 3 = false ∧ outside 4 last last = true ∧
      (∃ s, c.slice? 1 3 = .ok s ∧ s.length = 3) ∧
      (∃ e, e.report.code = .indexError ∧
        c.slice? last.toInt last.toInt = .error (.window e)) ∧
      (∃ x w', (Session.slice? 0 1 3).run w = (.ok x, w') ∧
        (Session.slice 0 1 3).run w = (.ok x, w')) ∧
      ∃ e w', e.report.code = .indexError ∧
        (Session.slice? 0 1 4).run w = (.error (.window e), w') ∧ w'.records = w.records := by
  intro c w last
  have sound : c.Sound := by decide +kernel
  have linked : w.Linked :=
    (keeps_addInput (Workspace.wellFormed_empty _) (.plain sound rfl)).1.linked
  have held : w.registers[0]? = some (some 0) := by decide +kernel
  have column : w.columnOf 0 = c := by decide +kernel
  have known : c.length = (4 : Int64).toInt := by decide
  have lo : 0 ≤ c.length := by decide
  have plain : c.type.isDictionary = true → c.dictionary.isSome = true :=
    fun encoded => absurd encoded (by decide)
  have three : c.Inside (1 : Int64).toInt (3 : Int64).toInt := by decide
  have four : ¬ c.Inside (1 : Int64).toInt (4 : Int64).toInt := by decide
  have beyond : ¬ c.Inside last.toInt last.toInt := by decide
  obtain ⟨test, -, accepts, -, slices⟩ := slice?_of_words 4 1 3 known lo
  obtain ⟨test', -, -, refuses, -⟩ := slice?_of_words 4 last last known lo
  obtain ⟨-, -, -, -, fails⟩ := slice?_of_words 4 1 4 known lo
  obtain ⟨same, s, sliced, length⟩ := accepts three
  obtain ⟨e, w', code, run, records, -⟩ := (fails w 0 0 linked held column plain).2 four
  exact ⟨linked, test.2 three, Bool.eq_true_of_not_eq_false (mt test'.1 beyond),
    ⟨s, same.trans sliced, length⟩, refuses beyond,
    (slices w 0 0 linked held column plain).1 three, e, w', code, run, records⟩

end Column

end Columnar
