import Mathlib.Tactic.Common
import Columnar.Gather.Recording
import Columnar.Proofs.Gather.Noninterference

/-!
# Calls of visitors

A walk calls one of two visitors at each position. They share a state, which they may change, and
each answers whether it failed; a state that is changed stays so where a walk fails. What is called
is told by visitors that write their calls down before they work (`Visitors.logged`). Main
statement: visitors are called for the positions in order, each as its index says, up to the first
one that fails or the first position whose index is refused (`Visitors.drive_calls`).
-/

namespace Columnar.Gather
variable {values indices indices' : Column} {k k' : IntKind} {p : Nat}

/-- What a position of the indices calls for. -/
inductive CallsFor (values indices : Column) (k : IntKind) (p : Nat) : Visit → Prop
  | nullIndex (null : indices.isValid p = .ok false) : CallsFor values indices k p (.null p)
  | nullValue {j : Nat} (valid : indices.isValid p = .ok true)
    (index : indices.integer k p = .ok j) (inside : j < values.length)
    (null : values.isValid j = .ok false) : CallsFor values indices k p (.null p)
  | valid {j : Nat} (valid : indices.isValid p = .ok true)
    (index : indices.integer k p = .ok j) (inside : j < values.length)
    (value : values.isValid j = .ok true) : CallsFor values indices k p (.valid p j)

lemma callsFor_of_visitAt {v : Visit} (h : visitAt values indices k p = .ok v) :
    CallsFor values indices k p v := by
  cases v with
  | valid q j =>
    obtain ⟨rfl, valid, index, inside, value⟩ := index_of_visitAt h
    exact .valid valid index inside value
  | null q =>
    cases position_of_visitAt h
    rcases null_of_visitAt h with null | ⟨j, valid, index, inside, null⟩
    · exact .nullIndex null
    · exact .nullValue valid index inside null

/-- What lies behind a null index makes no difference to a trace. -/
lemma trace_of_indicesAgree (hi : indices.Covered) (index : indices.type = .int k)
    (same : IndicesAgree indices indices' k k') :
    trace values indices k = trace values indices' k' := by
  rw [trace, trace, ← same.length]
  refine Trace.ofPositions_congr fun p _ inside => ?_
  have hp : p < indices.length := by omega
  obtain ⟨b, valid⟩ := hi.exists_isValid hp
  have valid' := (same.valid p hp).symm.trans valid
  cases b with
  | false => rw [visitAt_of_null valid, visitAt_of_null valid']
  | true =>
    obtain ⟨v, integer⟩ := hi.exists_integer (layout_of_int index) hp
    rw [visitAt_of_index valid integer,
      visitAt_of_index valid' ((same.index p hp valid).symm.trans integer)]

/-- Two visitors that share a state, one for positions that stand for a slot and one for the
others. -/
structure Visitors (σ : Type) where
  valid : (position index : Nat) → σ → Checked Unit × σ
  null : (position : Nat) → σ → Checked Unit × σ

namespace Visitors
variable {σ : Type}

def call (w : Visitors σ) : Visit → σ → Checked Unit × σ
  | .valid p j => w.valid p j
  | .null p => w.null p

/-- A call as a step of a walk. -/
def visit (w : Visitors σ) (v : Visit) : ExceptT Fault (StateM σ) Unit :=
  ExceptT.mk fun s => w.call v s

/-- A walk over index values of kind `k` with these visitors: how it ends, and their state then. -/
def drive (w : Visitors σ) (values indices : Column) (k : IntKind) (s : σ) : Checked Unit × σ :=
  (walk (m := ExceptT Fault (StateM σ)) values indices k (fun _ v => w.visit v) ()).run.run s

/-- The same visitors, with their calls written down. -/
def logged (w : Visitors σ) : Visitors (σ × List Visit) where
  valid p j s := ((w.valid p j s.1).1, (w.valid p j s.1).2, s.2 ++ [.valid p j])
  null p s := ((w.null p s.1).1, (w.null p s.1).2, s.2 ++ [.null p])

/-- Calls visitors one after the other until one of them fails. -/
def run (w : Visitors σ) : List Visit → σ → Checked Unit × σ
  | [], s => (.ok (), s)
  | v :: rest, s =>
    match w.call v s with
    | (.ok _, t) => w.run rest t
    | (.error e, t) => (.error e, t)

/-- The calls of a run, of which the last one may have failed. -/
def reached (w : Visitors σ) : List Visit → σ → List Visit
  | [], _ => []
  | v :: rest, s =>
    match w.call v s with
    | (.ok _, t) => v :: w.reached rest t
    | (.error _, _) => [v]

/-- How a walk ends from state `s` after some calls. -/
inductive Ends (w : Visitors σ) (values indices : Column) (k : IntKind) (s : σ)
    (calls : List Visit) : Checked Unit → σ → Prop
  /-- Every position was visited. -/
  | complete {t : σ} (ran : w.run calls s = (.ok (), t)) (all : calls.length = indices.length) :
    Ends w values indices k s calls (.ok ()) t
  /-- The last call failed, and no other one did. -/
  | failed {before : List Visit} {v : Visit} {t u : σ} {e : Fault} (split : calls = before ++ [v])
    (ran : w.run before s = (.ok (), t)) (failed : w.call v t = (.error e, u)) :
    Ends w values indices k s calls (.error e) u
  /-- The index at the next position is valid and is refused. -/
  | refused {t : σ} {i : Int} {e : GatherError} (ran : w.run calls s = (.ok (), t))
    (inside : calls.length < indices.length) (valid : indices.isValid calls.length = .ok true)
    (index : indices.integer k calls.length = .ok i) (refused : refusal values.length i = some e) :
    Ends w values indices k s calls (.error (.gather e)) t

section Runs

lemma call_logged (w : Visitors σ) (v : Visit) (s : σ) (log : List Visit) :
    w.logged.call v (s, log) = ((w.call v s).1, (w.call v s).2, log ++ [v]) := by
  cases v with
  | valid p j => rfl
  | null p => rfl

/-- What is written down are the calls that were reached. -/
lemma run_logged (w : Visitors σ) (visits : List Visit) (s : σ) (log : List Visit) :
    w.logged.run visits (s, log) =
      ((w.run visits s).1, (w.run visits s).2, log ++ w.reached visits s) := by
  induction visits generalizing s log with
  | nil => rw [run, run, reached, List.append_nil]
  | cons v rest ih =>
    rw [run, run, reached, call_logged]
    cases w.call v s with
    | mk r t =>
      cases r with
      | ok u =>
        change w.logged.run rest (t, log ++ [v]) = _
        rw [ih, List.append_assoc]
        rfl
      | error e => rfl

/-- A run comes to its end, or its last call is the first one that failed. -/
lemma run_cases (w : Visitors σ) (visits : List Visit) (s : σ) :
    (∃ t, w.run visits s = (.ok (), t) ∧ w.reached visits s = visits) ∨
    ∃ before v t u e, w.run visits s = (.error e, u) ∧ before ++ [v] <+: visits ∧
      w.reached visits s = before ++ [v] ∧ w.run before s = (.ok (), t) ∧
      w.call v t = (.error e, u) := by
  induction visits generalizing s with
  | nil => exact .inl ⟨s, rfl, rfl⟩
  | cons v rest ih =>
    rw [run, reached]
    cases called : w.call v s with
    | mk r t =>
      cases r with
      | error e =>
        exact .inr ⟨[], v, s, t, e, rfl, List.prefix_append [v] rest, rfl, rfl, called⟩
      | ok _ =>
        rcases ih t with ⟨u, ran, all⟩ | ⟨before, v', t', u, e, ran, part, made, fine, failed⟩
        · exact .inl ⟨u, ran, congrArg (v :: ·) all⟩
        · refine .inr ⟨v :: before, v', t', u, e, ran, ?_, congrArg (v :: ·) made, ?_, failed⟩
          · exact (List.prefix_cons_inj v).2 part
          · rw [run, called]
            exact fine

/-- A sequence goes on from the state that its first part leaves, unless that part failed. -/
lemma run_bind (first : ExceptT Fault (StateM σ) Unit) (next : Unit → ExceptT Fault (StateM σ) Unit)
    (s : σ) :
    (first >>= next).run.run s =
      match first.run.run s with
      | (.ok u, t) => (next u).run.run t
      | (.error e, t) => (.error e, t) := by
  change (match first.run.run s with
    | (r, t) => (ExceptT.bindCont next r).run t) = _
  cases first.run.run s with
  | mk r t => cases r <;> rfl

/-- Going through positions with visitors runs them on the trace, then ends as it does. -/
lemma foldPositions_eq (w : Visitors σ) (find : Nat → Checked Visit) (n i : Nat) (s : σ) :
    (foldPositions (m := ExceptT Fault (StateM σ)) (fun _ p => do
      w.visit (← ofExcept (find p))) n i ()).run.run s =
      match w.run (Trace.ofPositions find n i).visits s with
      | (.ok _, t) => ((Trace.ofPositions find n i).ending, t)
      | (.error e, t) => (.error e, t) := by
  induction n generalizing i s with
  | zero => rfl
  | succ n ih =>
    rw [foldPositions, Trace.ofPositions]
    cases find i with
    | error e => rfl
    | ok v =>
      have called : (w.visit v).run.run s = w.call v s := rfl
      change (w.visit v >>= _).run.run s = _
      rw [run_bind, called, run]
      cases w.call v s with
      | mk r t =>
        cases r with
        | ok u => exact ih (i + 1) t
        | error e => rfl

lemma drive_eq (w : Visitors σ) (values indices : Column) (k : IntKind) (s : σ) :
    w.drive values indices k s =
      match w.run (trace values indices k).visits s with
      | (.ok _, t) => ((trace values indices k).ending, t)
      | (.error e, t) => (.error e, t) :=
  w.foldPositions_eq (visitAt values indices k) indices.length.toNat 0 s

/-- Visitors do the same whether their calls are written down or not. -/
lemma drive_logged (w : Visitors σ) (values indices : Column) (k : IntKind) (s : σ) :
    w.logged.drive values indices k (s, []) =
      ((w.drive values indices k s).1, (w.drive values indices k s).2,
        w.reached (trace values indices k).visits s) := by
  rw [drive_eq, drive_eq, run_logged]
  cases w.run (trace values indices k).visits s with
  | mk r t => cases r <;> rfl

lemma ends_drive (hv : values.Covered) (hi : indices.Covered) (index : indices.type = .int k)
    (w : Visitors σ) (s : σ) :
    w.Ends values indices k s (w.reached (trace values indices k).visits s)
      (w.drive values indices k s).1 (w.drive values indices k s).2 := by
  rw [drive_eq]
  rcases w.run_cases (trace values indices k).visits s with
    ⟨t, ran, all⟩ | ⟨before, v, t, u, e, ran, -, made, fine, failed⟩
  · rw [ran, all]
    obtain ⟨n, length⟩ := Int.eq_ofNat_of_zero_le hi.length_nonneg
    have spec := ending_trace values k length
    cases ending : (trace values indices k).ending with
    | ok u =>
      rw [ending] at spec
      exact .complete ran (by omega)
    | error e =>
      rw [ending] at spec
      obtain ⟨inside, stops⟩ := spec
      have hp : (trace values indices k).visits.length < indices.length := by omega
      rcases visit_or_refusal hv hi index hp with
        ⟨v, found⟩ | ⟨i, e', valid, integer, refused, found⟩
      · cases found.symm.trans stops
      · cases found.symm.trans stops
        exact .refused ran hp valid integer refused
  · rw [ran, made]
    exact .failed rfl fine failed

/-- The calls of a walk are those that its trace begins with. -/
lemma reached_prefix (w : Visitors σ) (visits : List Visit) (s : σ) :
    w.reached visits s <+: visits := by
  rcases w.run_cases visits s with ⟨t, -, all⟩ | ⟨before, v, t, u, e, -, part, made, -, -⟩
  · exact ⟨[], (List.append_nil _).trans all⟩
  · rw [made]
    exact part

lemma run_append_singleton (w : Visitors σ) {before : List Visit} {s t : σ} (v : Visit)
    (ran : w.run before s = (.ok (), t)) : w.run (before ++ [v]) s = w.call v t := by
  induction before generalizing s with
  | nil =>
    obtain rfl : s = t := congrArg Prod.snd ran
    rw [List.nil_append, run]
    cases w.call v s with
    | mk r t => cases r <;> rfl
  | cons first rest ih =>
    rw [run] at ran
    rw [List.cons_append, run]
    cases called : w.call first s with
    | mk r u =>
      rw [called] at ran
      cases r with
      | ok _ => exact ih ran
      | error e => cases ran

/-- A walk is fine where each position was visited and no call failed. -/
lemma Ends.eq_ok_iff {w : Visitors σ} {s t : σ} {calls : List Visit} {r : Checked Unit}
    (h : w.Ends values indices k s calls r t) :
    r = .ok () ↔ calls.length = indices.length ∧ w.run calls s = (.ok (), t) := by
  cases h with
  | complete ran all => exact ⟨fun _ => ⟨all, ran⟩, fun _ => rfl⟩
  | @failed before v _ _ e split ran failed =>
    refine ⟨nofun, fun ⟨_, fine⟩ => ?_⟩
    rw [split, run_append_singleton w v ran, failed] at fine
    cases fine
  | refused ran inside => exact ⟨nofun, fun ⟨all, _⟩ => absurd all (Int.ne_of_lt inside)⟩

/-- A walk calls a visitor for each position in order, as the index there says, and ends as the
calls or the next index say. It is fine exactly when each position was visited and no call failed.
Whatever lies behind null indices makes no difference to any visitors. -/
theorem drive_calls (hv : values.Covered) (hi : indices.Covered) (index : indices.type = .int k) :
    (∀ (σ : Type) (w : Visitors σ) (s : σ), ∃ r t calls,
      w.drive values indices k s = (r, t) ∧
      w.logged.drive values indices k (s, []) = (r, t, calls) ∧
      calls.length ≤ indices.length ∧
      (∀ p v, calls[p]? = some v → CallsFor values indices k p v) ∧
      w.Ends values indices k s calls r t ∧
      (r = .ok () ↔ calls.length = indices.length ∧ w.run calls s = (.ok (), t))) ∧
    ∀ (σ : Type) (w : Visitors σ) (s : σ) (indices' : Column) (k' : IntKind),
      IndicesAgree indices indices' k k' →
        w.drive values indices' k' s = w.drive values indices k s := by
  refine ⟨fun σ w s => ?_, fun σ w s indices' k' same => ?_⟩
  · obtain ⟨n, length⟩ := Int.eq_ofNat_of_zero_le hi.length_nonneg
    obtain ⟨rest, whole⟩ := w.reached_prefix (trace values indices k).visits s
    have ends := ends_drive hv hi index w s
    refine ⟨_, _, _, rfl, w.drive_logged values indices k s, ?_, fun p v called => ?_, ends,
      ends.eq_ok_iff⟩
    · have short := (length_visits values k length).1
      rw [← whole, List.length_append] at short
      omega
    · refine callsFor_of_visitAt (visitAt_of_trace ?_).2
      have inside := (List.getElem?_eq_some_iff.1 called).1
      rw [← whole, List.getElem?_append_left inside]
      exact called
  · rw [drive_eq, drive_eq, trace_of_indicesAgree hi index same]

/-- Visitors that write down what they are called for, and fail at a call of the caller's choice. -/
def recorder (failAt : Option Nat) : Visitors (List Visit) where
  valid p j := (recordVisit failAt (.valid p j)).run.run
  null p := (recordVisit failAt (.null p)).run.run

/-- A recorded walk is one with visitors that record. -/
lemma record_eq_drive (values indices : Column) (k : IntKind) (failAt : Option Nat) :
    record values indices k failAt = (recorder failAt).drive values indices k [] := by
  have visits : (recorder failAt).visit = recordVisit failAt := by
    funext v
    cases v <;> rfl
  rw [record, drive, visits]

/-- A slot, a null index and the index of a null slot are visited, the last index is refused. A
visitor that fails at the second call keeps it from being looked at. -/
theorem drive_calls_upTo :
    Column.Sound (.ofInts (.int .w16) [some 10, none, some 30]) ∧
    Column.Sound (.ofInts (.uint .w8) [some 2, none, some 1, some 3]) ∧
    (recorder none).Ends (.ofInts (.int .w16) [some 10, none, some 30])
      (.ofInts (.uint .w8) [some 2, none, some 1, some 3]) (.uint .w8) []
      [.valid 0 2, .null 1, .null 2] (.error (.gather (.outOfBounds 3 3)))
      [.valid 0 2, .null 1, .null 2] ∧
    (recorder (some 1)).Ends (.ofInts (.int .w16) [some 10, none, some 30])
      (.ofInts (.uint .w8) [some 2, none, some 1, some 3]) (.uint .w8) []
      [.valid 0 2, .null 1] (.error (stopAt 1)) [.valid 0 2, .null 1] := by
  have hv : Column.Sound (.ofInts (.int .w16) [some 10, none, some 30]) := by decide +kernel
  have hi : Column.Sound (.ofInts (.uint .w8) [some 2, none, some 1, some 3]) := by decide +kernel
  have drives := (drive_calls hv.covered hi.covered (k := .uint .w8) rfl).1 (List Visit)
  refine ⟨hv, hi, ?_, ?_⟩
  · obtain ⟨r, t, calls, -, logged, -, -, ends, -⟩ := drives (recorder none) []
    have ran : (recorder none).logged.drive (.ofInts (.int .w16) [some 10, none, some 30])
        (.ofInts (.uint .w8) [some 2, none, some 1, some 3]) (.uint .w8) ([], []) =
          (.error (.gather (.outOfBounds 3 3)), [.valid 0 2, .null 1, .null 2],
            [.valid 0 2, .null 1, .null 2]) := by decide +kernel
    cases logged.symm.trans ran
    exact ends
  · obtain ⟨r, t, calls, -, logged, -, -, ends, -⟩ := drives (recorder (some 1)) []
    have ran : (recorder (some 1)).logged.drive (.ofInts (.int .w16) [some 10, none, some 30])
        (.ofInts (.uint .w8) [some 2, none, some 1, some 3]) (.uint .w8) ([], []) =
          (.error (stopAt 1), [.valid 0 2, .null 1], [.valid 0 2, .null 1]) := by decide +kernel
    cases logged.symm.trans ran
    exact ends

end Runs

end Visitors

end Columnar.Gather
