import Mathlib.Tactic.Common
import Columnar.Gather.Strings
import Columnar.Proofs.Checked

/-!
# Transfers of the copying pass

The copying pass of a gather of strings moves bytes from the data of the values to the gathered data
and touches no other memory (`visitCopy_eq`). Transfers that write one after the other write every
byte between where they start and where they stop exactly once (`Tiles.countP_writes`).
-/

namespace Columnar.Gather

/-- One copy: `count` bytes from position `source` of the data of the values to position `target` of
the gathered data. -/
structure Transfer where
  source : Int
  target : Int
  count : Int

namespace Transfer

/-- Carries a transfer out. -/
def perform (t : Transfer) (values : Column) (data : Bytes) : Checked Bytes := do
  data.overwrite t.target (← values.stringData t.source t.count)

/-- Whether a transfer writes the byte at position `q`. -/
def Writes (t : Transfer) (q : Int) : Prop := t.target ≤ q ∧ q < t.target + t.count

instance (t : Transfer) (q : Int) : Decidable (t.Writes q) := inferInstanceAs (Decidable (_ ∧ _))

end Transfer

/-- The transfer that a visit of the copying pass calls for, by the offsets that were written. -/
def transferAt (values : Column) (w : Width) (offsets : Bytes) : Visit → Checked (Option Transfer)
  | .valid p index => do
    let start ← offsets.integer (.int w) p
    let stop ← offsets.integer (.int w) (p + 1)
    let length := (IntKind.int w).wrap (stop - start)
    if length > 0 then return some ⟨← values.stringOffset w index, start, length⟩
    else return none
  | .null _ => return none

/-- The copying pass carries out the transfers that its visits call for, and nothing else. -/
lemma visitCopy_eq (values : Column) (w : Width) (offsets data : Bytes) (v : Visit) :
    visitCopy values w offsets data v = do
      match ← transferAt values w offsets v with
      | some t => t.perform values data
      | none => return data := by
  cases v with
  | null p => rfl
  | valid p j =>
    simp only [visitCopy, transferAt, bind_assoc]
    refine bind_congr fun start => bind_congr fun stop => ?_
    split
    · cases values.stringOffset w j with
      | error e => rfl
      | ok a => rfl
    · rfl

/-- Transfers that write one after the other, from position `a` up to position `b`. -/
inductive Tiles : (a b : Int) → List Transfer → Prop
  | nil {a} : Tiles a a []
  | cons {b ts} {t : Transfer} (pos : 0 < t.count) (rest : Tiles (t.target + t.count) b ts) :
    Tiles t.target b (t :: ts)

namespace Tiles
variable {a b : Int} {ts : List Transfer}

lemma le (h : Tiles a b ts) : a ≤ b := by
  induction h with
  | nil => exact Int.le_refl _
  | cons pos _ ih => omega

/-- Each byte between start and stop is written exactly once, and no other byte is written. -/
lemma countP_writes (h : Tiles a b ts) (q : Int) :
    ts.countP (fun t => t.Writes q) = if a ≤ q ∧ q < b then 1 else 0 := by
  induction h with
  | nil => rw [List.countP_nil, if_neg (by omega)]
  | @cons b ts t pos rest ih =>
    have le := rest.le
    rw [List.countP_cons, ih]
    simp only [decide_eq_true_eq]
    by_cases here : t.Writes q
    · have behind := here.2
      have before := here.1
      rw [if_pos here, if_neg (by omega), if_pos (by omega)]
    · rw [if_neg here, Nat.add_zero]
      unfold Transfer.Writes at here
      exact if_congr (by omega) rfl rfl

end Tiles

end Columnar.Gather
