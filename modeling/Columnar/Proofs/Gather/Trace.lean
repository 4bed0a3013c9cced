import Mathlib.Tactic.Common
import Columnar.Proofs.Column.LaidOut
import Columnar.Proofs.Gather.Visit

/-!
# Traces of walks

The visits of a walk do not depend on the visitor. A trace lists them, together with how the walk
ends when no visit fails, and a walk is the fold over its trace (`walk_eq`). `Visit.Selects` relates
the visits of a trace to the slots that they pick, in order.
-/

namespace Columnar

/-- The visits of a walk, and how it ends behind them. -/
structure Trace where
  visits : List Visit
  ending : Checked Unit

namespace Trace

/-- The trace of the `n` positions from `i` on. -/
def ofPositions (find : Nat → Checked Visit) : (n i : Nat) → Trace
  | 0, _ => ⟨[], .ok ()⟩
  | n + 1, i =>
    match find i with
    | .error e => ⟨[], .error e⟩
    | .ok v => ⟨v :: (ofPositions find n (i + 1)).visits, (ofPositions find n (i + 1)).ending⟩

variable {find find' : Nat → Checked Visit} {n i : Nat}

/-- Going through positions folds over the trace, then ends as it does. -/
lemma foldPositions_eq {σ : Type} (visit : σ → Visit → Checked σ) (s : σ) :
    foldPositions (fun s p => do visit s (← ofExcept (find p))) n i s = (do
      let t ← (ofPositions find n i).visits.foldlM visit s
      let _ ← (ofPositions find n i).ending
      return t) := by
  induction n generalizing i s with
  | zero => rfl
  | succ n ih =>
    rw [foldPositions, ofPositions]
    cases find i with
    | error e => rfl
    | ok v =>
      simp only [List.foldlM_cons, bind_assoc]
      exact bind_congr fun t => ih t

/-- Visits number `p` stands for position `p`. -/
lemma find_of_getElem? {p : Nat} {v : Visit} (h : (ofPositions find n i).visits[p]? = some v) :
    p < n ∧ find (i + p) = .ok v := by
  induction n generalizing i p with
  | zero => cases h
  | succ n ih =>
    rw [ofPositions] at h
    cases e : find i with
    | error e' =>
      rw [e] at h
      cases h
    | ok u =>
      rw [e] at h
      cases p with
      | zero =>
        cases h
        exact ⟨Nat.succ_pos n, e⟩
      | succ p =>
        obtain ⟨lt, same⟩ := ih h
        refine ⟨Nat.succ_lt_succ lt, ?_⟩
        rwa [show i + (p + 1) = i + 1 + p by omega]

/-- A walk ends behind its last position, or at the first one that stands for nothing. -/
lemma ending_spec (find : Nat → Checked Visit) (n i : Nat) :
    match (ofPositions find n i).ending with
    | .ok _ => (ofPositions find n i).visits.length = n
    | .error e => (ofPositions find n i).visits.length < n ∧
        find (i + (ofPositions find n i).visits.length) = .error e := by
  induction n generalizing i with
  | zero => rfl
  | succ n ih =>
    rw [ofPositions]
    cases e : find i with
    | error e' => exact ⟨Nat.succ_pos n, e⟩
    | ok v =>
      have rest := ih (i + 1)
      cases h : (ofPositions find n (i + 1)).ending with
      | ok u =>
        rw [h] at rest
        simp only [List.length_cons, rest]
      | error e' =>
        rw [h] at rest
        simp only [List.length_cons]
        refine ⟨Nat.succ_lt_succ rest.1, ?_⟩
        rw [← rest.2]
        congr 1
        omega

lemma ofPositions_congr (same : ∀ p, i ≤ p → p < i + n → find p = find' p) :
    ofPositions find n i = ofPositions find' n i := by
  induction n generalizing i with
  | zero => rfl
  | succ n ih =>
    rw [ofPositions, ofPositions, same i (by omega) (by omega),
      ih fun p lo hi => same p (by omega) (by omega)]

end Trace

namespace Visit

/-- What visits pick from position `p` on, when slot `j` of the values `reads` as something. -/
inductive Picks {α : Type} (reads : Nat → α → Prop) :
    (p : Nat) → List Visit → List (Option α) → Prop
  | nil {p} : Picks reads p [] []
  | valid {p vs xs} {j : Nat} {x : α} (read : reads j x) (rest : Picks reads (p + 1) vs xs) :
    Picks reads p (.valid p j :: vs) (some x :: xs)
  | null {p vs xs} (rest : Picks reads (p + 1) vs xs) :
    Picks reads p (.null p :: vs) (none :: xs)

/-- The slots that visits pick from the values. -/
abbrev Selects (values : Column) : (p : Nat) → List Visit → List (Option Cell) → Prop :=
  Picks fun j x => values.cell j = .ok x

/-- The lengths of the byte strings that visits pick from the values. -/
abbrev Measures (values : Column) (w : Width) :
    (p : Nat) → List Visit → List (Option Nat) → Prop :=
  Picks fun j n => values.stringLength w j = .ok n

namespace Picks
variable {α : Type} {reads : Nat → α → Prop} {p : Nat} {vs : List Visit} {xs : List (Option α)}

lemma length (h : Picks reads p vs xs) : xs.length = vs.length := by
  induction h with
  | nil => rfl
  | valid _ _ ih => rw [List.length_cons, ih, List.length_cons]
  | null _ ih => rw [List.length_cons, ih, List.length_cons]

lemma getElem? {i : Nat} {x : Option α} (h : Picks reads p vs xs) (hx : xs[i]? = some x) :
    (∃ (j : Nat) (c : α), vs[i]? = some (.valid (p + i) j) ∧ reads j c ∧ x = some c) ∨
      (vs[i]? = some (.null (p + i)) ∧ x = none) := by
  induction h generalizing i with
  | nil => cases hx
  | @valid p vs xs j c read rest ih =>
    cases i with
    | zero =>
      cases hx
      exact .inl ⟨j, c, rfl, read, rfl⟩
    | succ i =>
      rw [show p + (i + 1) = p + 1 + i by omega]
      exact ih hx
  | @null p vs xs rest ih =>
    cases i with
    | zero =>
      cases hx
      exact .inr ⟨rfl, rfl⟩
    | succ i =>
      rw [show p + (i + 1) = p + 1 + i by omega]
      exact ih hx

lemma exists_reads {c : α} (h : Picks reads p vs xs) (hc : some c ∈ xs) : ∃ j, reads j c := by
  induction h with
  | nil => cases hc
  | @valid p vs xs j x read rest ih =>
    cases hc with
    | head => exact ⟨j, read⟩
    | tail _ hc => exact ih hc
  | null rest ih =>
    cases hc with
    | tail _ hc => exact ih hc

/-- A visitor that keeps a state in step with what is picked so far comes to the end of all. -/
lemma foldlM {σ : Type} (visit : σ → Visit → Checked σ) (state : List (Option α) → σ)
    {all : List (Option α)} (h : Picks reads 0 vs all)
    (valid : ∀ done (j : Nat) x after, all = done ++ some x :: after → reads j x →
      visit (state done) (.valid done.length j) = .ok (state (done ++ [some x])))
    (null : ∀ done after, all = done ++ none :: after →
      visit (state done) (.null done.length) = .ok (state (done ++ [none]))) :
    vs.foldlM visit (state []) = .ok (state all) := by
  -- The induction goes over what is left, behind what is done.
  suffices run : ∀ p xs done, Picks reads p vs xs → done.length = p → all = done ++ xs →
      vs.foldlM visit (state done) = .ok (state all) from run 0 all [] h rfl rfl
  clear h
  intro p xs done h
  induction h generalizing done with
  | nil =>
    intro _ e
    rw [e, List.append_nil]
    rfl
  | @valid p vs xs j x read rest ih =>
    intro place e
    subst place
    rw [List.foldlM_cons, valid done j x xs e read, Checked.ok_bind]
    exact ih (done ++ [some x]) (by simp) (by simp [e])
  | @null p vs xs rest ih =>
    intro place e
    subst place
    rw [List.foldlM_cons, null done xs e, Checked.ok_bind]
    exact ih (done ++ [none]) (by simp) (by simp [e])

/-- Visits in order pick something if every slot that they name reads as something. -/
lemma exists_of_reads (numbered : ∀ i v, vs[i]? = some v → v.position = p + i)
    (named : ∀ i q j : Nat, vs[i]? = some (.valid q j) → ∃ x, reads j x) :
    ∃ xs, Picks reads p vs xs := by
  induction vs generalizing p with
  | nil => exact ⟨[], .nil⟩
  | cons v vs ih =>
    obtain ⟨xs, rest⟩ := ih (p := p + 1)
      (fun i v h => by rw [numbered (i + 1) v h, show p + (i + 1) = p + 1 + i by omega])
      (fun i q j h => named (i + 1) q j h)
    have place := numbered 0 v rfl
    cases v with
    | valid q j =>
      cases place
      obtain ⟨x, read⟩ := named 0 p j rfl
      exact ⟨some x :: xs, .valid read rest⟩
    | null q =>
      cases place
      exact ⟨none :: xs, .null rest⟩

/-- Where named slots read as the same the same is picked. -/
lemma congr {reads' : Nat → α → Prop} (h : Picks reads p vs xs)
    (same : ∀ (i q j : Nat) x, vs[i]? = some (.valid q j) → reads j x → reads' j x) :
    Picks reads' p vs xs := by
  induction h with
  | nil => exact .nil
  | @valid p vs xs j x read rest ih =>
    exact .valid (same 0 p j x rfl read) (ih fun i q j x h => same (i + 1) q j x h)
  | null rest ih => exact .null (ih fun i q j x h => same (i + 1) q j x h)

end Picks

lemma Selects.fits {values : Column} {p : Nat} {vs : List Visit} {xs : List (Option Cell)}
    (h : Selects values p vs xs) {c : Cell} (hc : some c ∈ xs) : c.Fits values.type.layout := by
  obtain ⟨j, read⟩ := h.exists_reads hc
  exact Column.fits_of_cell read

/-- The lengths of the strings that are picked are those of their bytes. -/
lemma Selects.measures {values : Column} {w : Width} {p : Nat} {vs : List Visit}
    {xs : List (Option Cell)} (layout : values.type.layout = .strings w)
    (h : Selects values p vs xs) : Measures values w p vs (xs.map (Option.map Cell.size)) := by
  induction h with
  | nil => exact .nil
  | @valid p vs xs j x cell rest ih =>
    obtain ⟨a, b, -, length, -, rfl⟩ := Column.string_of_cell layout cell
    exact .valid length ih
  | null rest ih => exact .null ih

end Visit

namespace Gather
variable {values indices : Column} {k : IntKind}

/-- The trace of a walk over index values of kind `k`. -/
def trace (values indices : Column) (k : IntKind) : Trace :=
  .ofPositions (visitAt values indices k) indices.length.toNat 0

lemma walk_eq {σ : Type} (visit : σ → Visit → Checked σ) (s : σ) :
    walk (m := Checked) values indices k visit s = (do
      let t ← (trace values indices k).visits.foldlM visit s
      let _ ← (trace values indices k).ending
      return t) :=
  Trace.foldPositions_eq visit s

/-- A walk over `n` indices ends behind the last one, or at the first that stands for nothing. -/
lemma ending_trace (values : Column) (k : IntKind) {n : Nat} (length : indices.length = n) :
    match (trace values indices k).ending with
    | .ok _ => (trace values indices k).visits.length = n
    | .error e => (trace values indices k).visits.length < n ∧
        visitAt values indices k (trace values indices k).visits.length = .error e := by
  have spec := Trace.ending_spec (visitAt values indices k) indices.length.toNat 0
  rw [← trace, length, Int.toNat_natCast, Nat.zero_add] at spec
  exact spec

/-- A walk that comes to its end visits every position. -/
lemma length_visits (values : Column) (k : IntKind) {n : Nat} (length : indices.length = n) :
    (trace values indices k).visits.length ≤ n ∧
      ((trace values indices k).ending = .ok () → (trace values indices k).visits.length = n) := by
  have spec := ending_trace values k length
  cases h : (trace values indices k).ending with
  | ok u =>
    rw [h] at spec
    exact ⟨Nat.le_of_eq spec, fun _ => spec⟩
  | error e =>
    rw [h] at spec
    exact ⟨Nat.le_of_lt spec.1, nofun⟩

lemma visitAt_of_trace {p : Nat} {v : Visit}
    (h : (trace values indices k).visits[p]? = some v) :
    (p : Int) < indices.length ∧ visitAt values indices k p = .ok v := by
  obtain ⟨lt, find⟩ := Trace.find_of_getElem? h
  rw [Nat.zero_add] at find
  exact ⟨by omega, find⟩

/-- Positions that stand for something, and all before them, are visited. -/
lemma le_length_visits {n p : Nat} (length : indices.length = n) (hp : p ≤ n)
    (find : ∀ q < p, ∃ v, visitAt values indices k q = .ok v) :
    p ≤ (trace values indices k).visits.length := by
  have spec := ending_trace values k length
  by_contra short
  cases ending : (trace values indices k).ending with
  | ok u =>
    rw [ending] at spec
    exact short (by omega)
  | error e =>
    rw [ending] at spec
    obtain ⟨v, visit⟩ := find _ (Nat.lt_of_not_le short)
    rw [spec.2] at visit
    cases visit

/-- A trace picks something if every slot that it names reads as something. -/
lemma exists_picks {α : Type} {reads : Nat → α → Prop}
    (named : ∀ p q j : Nat, (trace values indices k).visits[p]? = some (.valid q j) →
      ∃ x, reads j x) :
    ∃ xs, Visit.Picks reads 0 (trace values indices k).visits xs := by
  refine Visit.Picks.exists_of_reads (fun p v h => ?_) named
  rw [Nat.zero_add]
  exact position_of_visitAt (visitAt_of_trace h).2

end Gather

end Columnar
