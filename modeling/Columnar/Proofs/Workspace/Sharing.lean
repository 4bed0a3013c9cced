import Mathlib.Tactic.Common
import Columnar.Proofs.Workspace.Gathering
import Columnar.Proofs.Workspace.Runs

/-!
# Gathered columns share dictionaries

A gathered column has the very dictionary of its values, not one that is like it: the records of
both refer to the same one (`Session.keeps_shares_take`).
-/

namespace Columnar

namespace Workspace
variable {w w' : Workspace} {a c r : Nat} {record : Record}

/-- The record of the view in a register. -/
def recordAt? (w : Workspace) (r : Nat) : Option Record :=
  (w.registers[r]?).join.map fun v => w.record (w.view v).record

/-- Whether register `c` has a column of the type of that in register `a`, with the same dictionary
if the type calls for one. -/
def Shares (w : Workspace) (a c : Nat) : Prop :=
  ∃ r s, w.recordAt? a = some r ∧ w.recordAt? c = some s ∧ s.type = r.type ∧
    s.dictionary = if r.type.isDictionary then r.dictionary else none

lemma recordAt?_eq {v : Nat} (h : w.registers[r]? = some (some v)) :
    w.recordAt? r = some (w.record (w.view v).record) := by
  rw [recordAt?, h]
  rfl

/-- A register that holds something still does when a workspace grows. -/
lemma Grows.recordAt? (h : w'.Grows w) (wellFormed : w.WellFormed)
    (found : w.recordAt? r = some record) : w'.recordAt? r = some record := by
  unfold Workspace.recordAt? at found
  obtain ⟨v, held, rfl⟩ := Option.map_eq_some_iff.1 found
  rw [Option.join_eq_some_iff] at held
  have inside := wellFormed.registers r v held
  have there := (Array.getElem?_eq_some_iff.1 held).1
  rw [recordAt?_eq ((h.register r there).trans held), h.view v inside,
    h.record _ (wellFormed.record v inside)]

lemma Shares.grow (shares : w.Shares a c) (h : w'.Grows w) (wellFormed : w.WellFormed) :
    w'.Shares a c := by
  obtain ⟨r, s, first, second, same⟩ := shares
  exact ⟨r, s, h.recordAt? wellFormed first, h.recordAt? wellFormed second, same⟩

/-- What shares with what shares, shares. -/
lemma Shares.trans {b : Nat} (h : w.Shares a b) (h' : w.Shares b c) : w.Shares a c := by
  obtain ⟨r, s, first, second, type, dictionary⟩ := h
  obtain ⟨s', t, second', third, type', dictionary'⟩ := h'
  cases second.symm.trans second'
  refine ⟨r, t, first, third, type'.trans type, ?_⟩
  rw [dictionary', dictionary, type]
  split
  · rfl
  · rfl

lemma type_columnOf (w : Workspace) (v : Nat) :
    (w.columnOf v).type = (w.record (w.view v).record).type := by
  rw [columnOf, column_eq]

end Workspace

namespace Session
open Workspace
variable {w base : Workspace} {values indices : Nat}

/-- A gather makes a column that shares the dictionary of its values. -/
lemma keeps_shares_take (h : w.WellFormed) (grown : w.Grows base) :
    Keeps (fun w' => w'.WellFormed ∧ w'.Grows base) (Session.take values indices) w
      fun c w' => w'.Grows w ∧ w'.Shares values c := by
  obtain ⟨⟨kept, grows⟩, answers⟩ := (keeps_take h).both (keeps_grown_take w values indices)
  refine ⟨⟨kept, grows.trans grown⟩, fun c e => ⟨grows, ?_⟩⟩
  obtain ⟨-, a, b, v, out, ha, hb, hc, made, type, dictionary⟩ := answers c e
  have sound := (h.column a (h.registers _ a ha)).sound
  obtain ⟨same, shared⟩ :=
    Gather.type_of_take sound (h.column b (h.registers _ b hb)).sound made
  rw [type_columnOf] at same shared
  refine ⟨_, _, grows.recordAt? h (recordAt?_eq ha), recordAt?_eq hc, type.trans same, ?_⟩
  rw [dictionary, shared]

/-- Dictionaries are the same where the records of two columns refer to the same one. -/
lemma keeps_sameDictionary {inv : Workspace → Prop} {b c : Nat} (h : inv w) :
    Keeps inv (sameDictionary b c) w fun same _ => ∀ r s, w.recordAt? b = some r →
      w.recordAt? c = some s → same = (r.dictionary == s.dictionary) := by
  refine .recordIn h fun u hu => .recordIn h fun v hv => .look (.answer h ?_)
  rintro r s first second
  rw [recordAt?_eq hu] at first
  rw [recordAt?_eq hv] at second
  cases first
  cases second
  rfl

/-- What is gathered from a dictionary column has the very same dictionary. -/
lemma keeps_sameDictionary_gathered {a b v : Nat} (h : w.WellFormed)
    (held : w.registers[a]? = some (some v)) (encoded : (w.columnOf v).type.isDictionary = true) :
    Keeps (fun w' => w'.WellFormed ∧ w'.Grows w)
      (do
        let c ← Session.take a b
        sameDictionary a c) w fun same _ => same = true := by
  refine (keeps_shares_take h (.refl w)).bind fun c w₁ h₁ made => ?_
  obtain ⟨grown, r, s, ha, hc, -, shared⟩ := made
  have here := grown.recordAt? h (recordAt?_eq held)
  cases ha.symm.trans here
  rw [type_columnOf] at encoded
  rw [if_pos encoded] at shared
  refine (keeps_sameDictionary h₁).weaken fun same _ _ answer => ?_
  rw [answer _ s ha hc, shared, beq_self_eq_true]

/-- Gathering twice and gathering by gathered indices share the very same dictionary. -/
lemma keeps_sameDictionary_take {v i j : Nat} (h : w.WellFormed) :
    Keeps (fun w' => w'.WellFormed ∧ w'.Grows w)
      (do
        let a ← Session.take v i
        let b ← Session.take a j
        let x ← Session.take i j
        let c ← Session.take v x
        sameDictionary b c) w fun same _ => same = true := by
  refine (keeps_shares_take h (.refl w)).bind fun a w₁ h₁ first => ?_
  refine (keeps_shares_take h₁.1 h₁.2).bind fun b w₂ h₂ second => ?_
  refine (keeps_shares_take h₂.1 h₂.2).bind fun x w₃ h₃ third => ?_
  refine (keeps_shares_take h₃.1 h₃.2).bind fun c w₄ h₄ fourth => ?_
  have twice : w₄.Shares v b :=
    (((first.2.grow second.1 h₁.1).trans second.2).grow third.1 h₂.1).grow fourth.1 h₃.1
  obtain ⟨r, s, found, hb, -, shared⟩ := twice
  obtain ⟨r', t, found', hc, -, shared'⟩ := fourth.2
  cases found.symm.trans found'
  refine (keeps_sameDictionary h₄).weaken fun same _ _ answer => ?_
  rw [answer s t hb hc, shared, shared', beq_self_eq_true]

end Session

end Columnar
