import Mathlib.Tactic.Common
import Mathlib.Data.List.Induction
import Mathlib.Logic.Function.Basic
import Columnar.Outcome
import Columnar.Proofs.Checked

/-!
# Outcomes that change hands

Outcomes are made, copied, moved, converted and asked for their values in any order, and those that
were moved from stay in use. A conversion copies the status, but a move leaves a fine one behind:
what is left of a failure is fine and has no value. Main statement: an outcome that is not fine has
a failure and no value after every step, and each fine one has its value after every step exactly
when no failure is moved from (`Outcomes.values_iff`).
-/

namespace Columnar

/-- Outcomes with values of several types, in the order in which they were made. -/
abbrev Outcomes {ι : Type} (V : ι → Type) := (i : ι) → List (Outcome (V i))

namespace Outcomes
variable {ι : Type} {V : ι → Type}

/-- What is done to outcomes. Each is named by the type of its value and its number. -/
inductive Step (V : ι → Type) where
  | unassigned (i : ι)
  | ofValue (i : ι) (a : V i)
  | ofStatus (i : ι) (status : Status)
  | copy (i : ι) (k : Nat)
  | move (i : ι) (k : Nat)
  | copyAssign (i : ι) (target k : Nat)
  | moveAssign (i : ι) (target k : Nat)
  | convert (i j : ι) (f : V i → V j) (k : Nat)
  | convertMove (i j : ι) (f : V i → V j) (k : Nat)
  /-- The value is asked for, or it or an alternative. Either moves a value that is there. -/
  | value (i : ι) (k : Nat)

section Kinds

def find (q : Outcomes V) (i : ι) (k : Nat) : Checked (Outcome (V i)) :=
  match (q i)[k]? with
  | some o => pure o
  | none => throw .unknownRegister

/-- The outcome whose status a step moves elsewhere. -/
def Step.moves? : Step V → Option (ι × Nat)
  | .move i k => some (i, k)
  | .moveAssign i target k => if target = k then none else some (i, k)
  | _ => none

/-- Whether a step moves from an outcome that is not fine. -/
def MovesFailure (q : Outcomes V) (s : Step V) : Prop :=
  ∃ i k o, s.moves? = some (i, k) ∧ q.find i k = .ok o ∧ o.isOk = false

/-- Whether something holds of each outcome. -/
def All (P : (i : ι) → Outcome (V i) → Prop) (q : Outcomes V) : Prop := ∀ i, ∀ o ∈ q i, P i o

/-- Whether something holds of whatever is constructed and is kept by conversions. -/
structure Closed (P : (i : ι) → Outcome (V i) → Prop) : Prop where
  ofValue : ∀ i a, P i (.ofValue a)
  failed : ∀ i r, P i ⟨.failed r, none⟩
  convert : ∀ i j (f : V i → V j) o, P i o → P j (o.convert f)

/-- An outcome that is not fine has a failure and no value. -/
def Explained (i : ι) (o : Outcome (V i)) : Prop := o.isOk = false → ∃ r, o = ⟨.failed r, none⟩

/-- An outcome that is fine has a value. -/
def Valued (i : ι) (o : Outcome (V i)) : Prop := o.isOk = true → ∃ a, o = .ofValue a

variable {P : (i : ι) → Outcome (V i) → Prop} {q : Outcomes V} {i : ι} {k : Nat} {o : Outcome (V i)}

lemma find_eq_ok : q.find i k = .ok o ↔ (q i)[k]? = some o := by
  unfold find
  cases (q i)[k]? with
  | none => exact ⟨nofun, nofun⟩
  | some found => exact (Except.ok.injEq ..).to_iff.trans (Option.some.injEq ..).to_iff.symm

lemma All.find (h : q.All P) (found : q.find i k = .ok o) : P i o :=
  h i o (List.mem_of_getElem? (find_eq_ok.1 found))

lemma closed_explained : Closed (Explained (V := V)) where
  ofValue _ _ := nofun
  failed _ r _ := ⟨r, rfl⟩
  convert i j f o h := by
    intro failing
    obtain ⟨r, rfl⟩ := h failing
    exact ⟨r, rfl⟩

/-- What is left where an outcome was moved from is fine. -/
lemma explained_moved (o : Outcome (V i)) : Explained i o.moved := nofun

lemma closed_valued : Closed (Valued (V := V)) where
  ofValue _ a _ := ⟨a, rfl⟩
  failed _ _ := nofun
  convert i j f o h := by
    intro fine
    obtain ⟨a, rfl⟩ := h fine
    exact ⟨f a, rfl⟩

end Kinds

section Runs
variable [DecidableEq ι]

def add (q : Outcomes V) (i : ι) (o : Outcome (V i)) : Outcomes V :=
  Function.update q i (q i ++ [o])

def put (q : Outcomes V) (i : ι) (k : Nat) (o : Outcome (V i)) : Outcomes V :=
  Function.update q i ((q i).set k o)

/-- The outcomes after a step, where `spent` is what is left of a value that was moved. A program
that constructs an outcome from a fine status stops, and one that takes a value that is not there
reads what is no value. -/
def perform (spent : (i : ι) → V i → V i) (q : Outcomes V) : Step V → Checked (Outcomes V)
  | .unassigned i => pure (q.add i .unassigned)
  | .ofValue i a => pure (q.add i (.ofValue a))
  | .ofStatus i status => do return q.add i (← Outcome.ofStatus status)
  | .copy i k => do return q.add i (← q.find i k)
  | .move i k => do
    let o ← q.find i k
    return (q.put i k (o.convert (spent i)).moved).add i o
  | .copyAssign i target k => do
    let o ← q.find i k
    let _ ← q.find i target
    return q.put i target o
  | .moveAssign i target k => do
    let o ← q.find i k
    let _ ← q.find i target
    -- Assigned to itself, an outcome keeps its status.
    if target = k then return q.put i k (o.convert (spent i))
    return (q.put i k (o.convert (spent i)).moved).put i target o
  | .convert i j f k => do return q.add j ((← q.find i k).convert f)
  | .convertMove i j f k => do
    let o ← q.find i k
    return (q.put i k (o.convert (spent i))).add j (o.convert f)
  | .value i k => do
    let o ← q.find i k
    if o.isOk then
      let _ ← o.get
      return q.put i k (o.convert (spent i))
    return q

/-- The outcomes after steps that begin without any. -/
def run (spent : (i : ι) → V i → V i) (steps : List (Step V)) : Checked (Outcomes V) :=
  steps.foldlM (perform spent) fun _ => []

variable {P : (i : ι) → Outcome (V i) → Prop} {spent : (i : ι) → V i → V i} {q t : Outcomes V}
  {s : Step V} {i : ι} {k : Nat} {o : Outcome (V i)}

lemma All.add (h : q.All P) (new : P i o) : (q.add i o).All P := by
  intro j x mem
  rcases eq_or_ne j i with rfl | other
  · rw [Outcomes.add, Function.update_self, List.mem_append, List.mem_singleton] at mem
    rcases mem with old | rfl
    · exact h j x old
    · exact new
  · rw [Outcomes.add, Function.update_of_ne other] at mem
    exact h j x mem

lemma All.put (h : q.All P) (k : Nat) (new : P i o) : (q.put i k o).All P := by
  intro j x mem
  rcases eq_or_ne j i with rfl | other
  · rw [Outcomes.put, Function.update_self] at mem
    rcases List.mem_or_eq_of_mem_set mem with old | rfl
    · exact h j x old
    · exact new
  · rw [Outcomes.put, Function.update_of_ne other] at mem
    exact h j x mem

/-- What holds of each outcome still does after a step, if it does of what a move leaves behind. -/
lemma All.perform (h : q.All P) (closed : Closed P) (step : perform spent q s = .ok t)
    (left : ∀ i k o, s.moves? = some (i, k) → q.find i k = .ok o → P i o →
      P i (o.convert (spent i)).moved) : t.All P := by
  cases s with
  | unassigned i =>
    cases step
    exact h.add (closed.failed i _)
  | ofValue i a =>
    cases step
    exact h.add (closed.ofValue i a)
  | ofStatus i status =>
    cases status with
    | ok => cases step
    | failed r =>
      cases step
      exact h.add (closed.failed i r)
  | copy i k =>
    obtain ⟨o, found, made⟩ := Checked.bind_eq_ok.1 step
    cases made
    exact h.add (h.find found)
  | move i k =>
    obtain ⟨o, found, made⟩ := Checked.bind_eq_ok.1 step
    cases made
    exact (h.put k (left i k o rfl found (h.find found))).add (h.find found)
  | copyAssign i target k =>
    obtain ⟨o, found, rest⟩ := Checked.bind_eq_ok.1 step
    obtain ⟨-, -, made⟩ := Checked.bind_eq_ok.1 rest
    cases made
    exact h.put target (h.find found)
  | moveAssign i target k =>
    obtain ⟨o, found, rest⟩ := Checked.bind_eq_ok.1 step
    obtain ⟨-, -, made⟩ := Checked.bind_eq_ok.1 rest
    by_cases same : target = k
    · rw [if_pos same] at made
      cases made
      exact h.put k (closed.convert i i (spent i) o (h.find found))
    · rw [if_neg same] at made
      cases made
      exact (h.put k (left i k o (if_neg same) found (h.find found))).put target (h.find found)
  | convert i j f k =>
    obtain ⟨o, found, made⟩ := Checked.bind_eq_ok.1 step
    cases made
    exact h.add (closed.convert i j f o (h.find found))
  | convertMove i j f k =>
    obtain ⟨o, found, made⟩ := Checked.bind_eq_ok.1 step
    cases made
    exact (h.put k (closed.convert i i (spent i) o (h.find found))).add
      (closed.convert i j f o (h.find found))
  | value i k =>
    obtain ⟨o, found, rest⟩ := Checked.bind_eq_ok.1 step
    by_cases fine : o.isOk = true
    · rw [if_pos fine] at rest
      obtain ⟨-, -, made⟩ := Checked.bind_eq_ok.1 rest
      cases made
      exact h.put k (closed.convert i i (spent i) o (h.find found))
    · rw [if_neg fine] at rest
      cases rest
      exact h

/-- The last step of a run is taken from the outcomes that the others lead to. -/
lemma run_append_singleton {steps : List (Step V)} :
    run spent (steps ++ [s]) = .ok t ↔
      ∃ q, run spent steps = .ok q ∧ perform spent q s = .ok t := by
  rw [run, List.foldlM_append, Checked.bind_eq_ok]
  simp only [List.foldlM_cons, List.foldlM_nil, bind_pure]
  rfl

/-- What holds of each outcome after every step, if it does of what moves leave behind. -/
lemma all_of_run (closed : Closed P) {steps : List (Step V)}
    (left : ∀ done s q i k o, done ++ [s] <+: steps → run spent done = .ok q →
      (∃ t, perform spent q s = .ok t) → s.moves? = some (i, k) → q.find i k = .ok o → P i o →
        P i (o.convert (spent i)).moved)
    (done : List (Step V)) (part : done <+: steps) (reached : run spent done = .ok q) :
    q.All P := by
  -- The steps are undone from the last one.
  induction done using List.reverseRecOn generalizing q with
  | nil =>
    cases reached
    exact fun i o mem => absurd mem List.not_mem_nil
  | append_singleton done s ih =>
    obtain ⟨p, before, step⟩ := run_append_singleton.1 reached
    have kept := ih ((List.prefix_append done [s]).trans part) before
    exact kept.perform closed step fun i k o => left done s p i k o part before ⟨q, step⟩

lemma explained_of_run {steps : List (Step V)} (reached : run spent steps = .ok q) :
    q.All Explained :=
  all_of_run closed_explained (fun _ _ _ _ _ _ _ _ _ _ _ _ => explained_moved _) steps
    (List.prefix_refl _) reached

/-- What a move leaves behind stays among the outcomes. -/
lemma mem_of_moves (moves : s.moves? = some (i, k)) (found : q.find i k = .ok o)
    (step : perform spent q s = .ok t) : (o.convert (spent i)).moved ∈ t i := by
  have inside : k < (q i).length := (List.getElem?_eq_some_iff.1 (find_eq_ok.1 found)).1
  cases s with
  | move i' k' =>
    cases moves
    obtain ⟨o, again, made⟩ := Checked.bind_eq_ok.1 step
    cases found.symm.trans again
    cases made
    rw [add, Function.update_self, put, Function.update_self]
    exact List.mem_append_left _ (List.mem_set inside _)
  | moveAssign i' target k' =>
    by_cases same : target = k'
    · rw [Step.moves?, if_pos same] at moves
      cases moves
    · rw [Step.moves?, if_neg same] at moves
      cases moves
      obtain ⟨o, again, rest⟩ := Checked.bind_eq_ok.1 step
      cases found.symm.trans again
      obtain ⟨-, -, made⟩ := Checked.bind_eq_ok.1 rest
      rw [if_neg same] at made
      cases made
      rw [put, Function.update_self, put, Function.update_self]
      refine List.mem_of_getElem? (i := k) ?_
      rw [List.getElem?_set_ne same, List.getElem?_set_self inside]
  | _ => cases moves

/-- A failure that is moved from leaves an outcome that is fine and has no value. -/
lemma MovesFailure.not_valued (h : q.MovesFailure s) (explained : q.All Explained)
    (step : perform spent q s = .ok t) : ¬ t.All Valued := by
  obtain ⟨i, k, o, moves, found, failing⟩ := h
  obtain ⟨r, rfl⟩ := explained.find found failing
  intro valued
  obtain ⟨a, eq⟩ := valued i _ (mem_of_moves moves found step) rfl
  cases eq

/-- After every step an outcome that is not fine has a failure and no value. Each fine one has its
value after every step exactly when no step moves from an outcome that is not fine. -/
theorem values_iff (spent : (i : ι) → V i → V i) (steps : List (Step V)) :
    (∀ done q, done <+: steps → run spent done = .ok q → ∀ i, ∀ o ∈ q i,
      o.isOk = false → ∃ r, o = ⟨.failed r, none⟩) ∧
    ((∀ done q, done <+: steps → run spent done = .ok q → ∀ i, ∀ o ∈ q i,
      o.isOk = true → ∃ a, o = .ofValue a) ↔
      ∀ done s q t, done ++ [s] <+: steps → run spent done = .ok q →
        run spent (done ++ [s]) = .ok t → ¬ q.MovesFailure s) := by
  refine ⟨fun done q _ reached => explained_of_run reached, ?_, ?_⟩
  · intro valued done s q t part before reached moved
    obtain ⟨_, again, step⟩ := run_append_singleton.1 reached
    cases before.symm.trans again
    exact moved.not_valued (explained_of_run before) step (valued _ t part reached)
  · intro careful done q part reached
    refine all_of_run closed_valued ?_ done part reached
    intro done s q i k o part before ⟨t, step⟩ moves found valued _
    have fine : o.isOk = true := by
      by_contra failing
      exact careful done s q t part before (run_append_singleton.2 ⟨q, before, step⟩)
        ⟨i, k, o, moves, found, Bool.eq_false_iff.2 failing⟩
    obtain ⟨a, rfl⟩ := valued fine
    exact ⟨spent i a, rfl⟩

/-- A conversion leaves the failure that it was given, and what it made can be assigned a value. -/
example :
    let V : Bool → Type := fun b => if b then Int else Nat
    let r : Report := ⟨.invalid, Text.ascii "bad"⟩
    (run (V := V) (fun _ a => a) [.ofStatus false (.failed r), .convertMove false true Int.ofNat 0,
      .ofValue true (4 : Int), .moveAssign true 0 1, .value true 0]).map
        (fun q => (q false, q true)) =
      .ok ([⟨.failed r, none⟩], [.ofValue (4 : Int), .ofValue (4 : Int)]) := rfl

/-- What is left of a failure that was moved from is fine and has no value to take. -/
theorem valueless_of_move :
    ∃ q : Outcomes fun _ : Unit => Int,
      run (fun _ a => a) [.ofStatus () (.failed ⟨.invalid, Text.ascii "bad"⟩), .move () 0] = .ok q ∧
      (∃ o ∈ q (), o.isOk = true ∧ o.value? = none) ∧
      perform (fun _ a => a) q (.value () 0) = .error .stray :=
  ⟨_, rfl, ⟨_, List.mem_cons_self, rfl, rfl⟩, rfl⟩

end Runs

end Outcomes

end Columnar
