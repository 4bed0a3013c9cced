import Mathlib.Tactic.Common
import Columnar.Proofs.Memory.Pooled

/-!
# Plans of requests

A plan lists what a computation asks of its pool, and says how it ends behind the last request or at
a check between two of them. What was granted is given back when the rest fails, so a plan that
fails leaves as many bytes outstanding as there were before (`Plan.run_error`), and one that ends
well leaves all that it asked for (`Plan.run_ok`). `Pooled.Follows x plan` says that `x` does as
planned on every pool.
-/

namespace Columnar

/-- What is asked of a pool, one request after the other, and how it ends. -/
inductive Plan (α : Type) where
  | ends (r : Checked α)
  | asks (size : Int) (rest : Plan α)

namespace Plan
variable {α β : Type} {policy : Policy} {u size : Int} {plan rest : Plan α}

/-- How a plan ends when every request is granted. -/
def result : Plan α → Checked α
  | ends r => r
  | asks _ rest => rest.result

/-- The bytes that a plan asks for in all. -/
def total : Plan α → Int
  | ends _ => 0
  | asks size rest => size + rest.total

/-- An outcome and the bytes outstanding behind it, less those that are given back if it is a
failure. -/
def returning (size : Int) : Checked α × Int → Checked α × Int
  | (.ok a, v) => (.ok a, v)
  | (.error e, v) => (.error e, v - size)

lemma returning_zero (outcome : Checked α × Int) : returning 0 outcome = outcome := by
  obtain ⟨r, v⟩ := outcome
  cases r with
  | ok a => rfl
  | error e => rw [returning, Int.sub_zero]

/-- How a plan ends under a policy when `u` bytes are outstanding, and the bytes outstanding
then. -/
def run (policy : Policy) : Plan α → (u : Int) → Checked α × Int
  | ends r, u => (r, u)
  | asks size rest, u =>
    match policy u size with
    | some e => (.error (.allocation e), u)
    | none => returning size (rest.run policy (u + size))

/-- Goes on with a plan once a check is passed. -/
def check (c : Checked Unit) (plan : Plan α) : Plan α :=
  match c with
  | .ok _ => plan
  | .error e => ends (.error e)

/-- Asks first, if there is something to ask for. -/
def asksIf (needed : Bool) (size : Int) (plan : Plan α) : Plan α :=
  if needed then asks size plan else plan

def map (f : α → β) : Plan α → Plan β
  | ends r => ends (do return f (← r))
  | asks size rest => asks size (rest.map f)

@[simp] lemma result_check (c : Checked Unit) (plan : Plan α) :
    (check c plan).result = (do
      let _ ← c
      plan.result) := by
  cases c <;> rfl

@[simp] lemma result_asksIf (needed : Bool) (size : Int) (plan : Plan α) :
    (asksIf needed size plan).result = plan.result := by
  cases needed <;> rfl

lemma map_check (c : Checked Unit) (f : α → β) : (check c plan).map f = check c (plan.map f) := by
  cases c <;> rfl

lemma map_asksIf (needed : Bool) (f : α → β) :
    (asksIf needed size plan).map f = asksIf needed size (plan.map f) := by
  cases needed <;> rfl

lemma map_id (plan : Plan α) : (plan.map fun a => a) = plan := by
  induction plan with
  | ends r => rw [map, bind_pure]
  | asks size rest ih => rw [map, ih]

lemma run_asks_of_refused {e : AllocationError} (refused : policy u size = some e) :
    (asks size rest).run policy u = (.error (.allocation e), u) := by
  rw [run, refused]

lemma run_asks_of_granted (granted : policy u size = none) :
    (asks size rest).run policy u = returning size (rest.run policy (u + size)) := by
  rw [run, granted]

lemma run_map (f : α → β) (u : Int) :
    (plan.map f).run policy u = (do return f (← (plan.run policy u).1), (plan.run policy u).2) := by
  induction plan generalizing u with
  | ends r => rfl
  | asks size rest ih =>
    rw [map]
    cases answer : policy u size with
    | some e =>
      rw [run_asks_of_refused answer, run_asks_of_refused answer]
      rfl
    | none =>
      rw [run_asks_of_granted answer, run_asks_of_granted answer, ih]
      obtain ⟨r, v⟩ := rest.run policy (u + size)
      cases r <;> rfl

/-- A plan that fails gives everything back. -/
lemma run_error {e : Fault} (failed : (plan.run policy u).1 = .error e) :
    (plan.run policy u).2 = u := by
  induction plan generalizing u with
  | ends r => rfl
  | asks size rest ih =>
    cases answer : policy u size with
    | some e => rw [run_asks_of_refused answer]
    | none =>
      rw [run_asks_of_granted answer] at failed ⊢
      cases h : rest.run policy (u + size) with
      | mk r v =>
        rw [h] at failed
        cases r with
        | ok a => cases failed
        | error e' =>
          have back : v = u + size := by
            have kept := ih (u := u + size) (by rw [h]; exact failed)
            rwa [h] at kept
          rw [returning, back, Int.add_sub_cancel]

/-- A plan that ends well keeps everything that it asked for. -/
lemma run_ok {a : α} (fine : (plan.run policy u).1 = .ok a) :
    (plan.run policy u).2 = u + plan.total := by
  induction plan generalizing u with
  | ends r => exact (Int.add_zero u).symm
  | asks size rest ih =>
    cases answer : policy u size with
    | some e =>
      rw [run_asks_of_refused answer] at fine
      cases fine
    | none =>
      rw [run_asks_of_granted answer] at fine ⊢
      cases h : rest.run policy (u + size) with
      | mk r v =>
        rw [h] at fine
        cases r with
        | error e => cases fine
        | ok b =>
          have kept := ih (u := u + size) (by rw [h]; exact fine)
          rw [h] at kept
          rw [returning, total, ← Int.add_assoc]
          exact kept

/-- A plan ends as if every request was granted, or with a refusal. -/
lemma run_cases (plan : Plan α) (policy : Policy) (u : Int) :
    (plan.run policy u).1 = plan.result ∨
      ∃ e outstanding size, policy outstanding size = some e ∧
        (plan.run policy u).1 = .error (.allocation e) := by
  induction plan generalizing u with
  | ends r => exact .inl rfl
  | asks size rest ih =>
    cases answer : policy u size with
    | some e => exact .inr ⟨e, u, size, answer, by rw [run_asks_of_refused answer]⟩
    | none =>
      have same : ((asks size rest).run policy u).1 = (rest.run policy (u + size)).1 := by
        rw [run_asks_of_granted answer]
        obtain ⟨r, v⟩ := rest.run policy (u + size)
        cases r <;> rfl
      rw [same]
      exact ih (u + size)

end Plan

lemma Pool.bytes_free (p : Pool) (size : Int) : (p.free size).bytes = p.bytes - size := by
  unfold Pool.free
  split
  · next zero => rw [zero, Int.sub_zero]
  · rfl

namespace Pooled
variable {α β : Type} {x : Pooled α} {plan rest : Plan α} {size : Int}

/-- Whether a computation does as planned on every pool. -/
def Follows (x : Pooled α) (plan : Plan α) : Prop :=
  ∀ p : Pool, ∃ q : Pool, q.policy = p.policy ∧ q.bytes = (plan.run p.policy p.bytes).2 ∧
    x.run p = ((plan.run p.policy p.bytes).1, q)

/-- Whether a computation does as planned and gives bytes back behind a failure. -/
def Unwinds (x : Pooled α) (size : Int) (plan : Plan α) : Prop :=
  ∀ p : Pool, ∃ q : Pool, q.policy = p.policy ∧
    q.bytes = (Plan.returning size (plan.run p.policy p.bytes)).2 ∧
    x.run p = ((Plan.returning size (plan.run p.policy p.bytes)).1, q)

/-- Whether a computation makes one request of a size, and yields something with a property if it is
granted. -/
def Fetches (fresh : Pooled α) (size : Int) (property : α → Prop) : Prop :=
  ∀ p : Pool,
    match p.policy p.bytes size with
    | some e => fresh.run p = (.error (.allocation e), p)
    | none => ∃ a q, property a ∧ q.policy = p.policy ∧ q.bytes = p.bytes + size ∧
        fresh.run p = (.ok a, q)

/-- Whether a computation gives bytes back and does nothing else. -/
def GivesBack (release : Pooled Unit) (size : Int) : Prop :=
  ∀ p : Pool, ∃ q : Pool, q.policy = p.policy ∧ q.bytes = p.bytes - size ∧
    release.run p = (.ok (), q)

lemma Fetches.map {f : α → β} {P : α → Prop} {Q : β → Prop} (h : x.Fetches size P)
    (made : ∀ a, P a → Q (f a)) : (do return f (← x) : Pooled β).Fetches size Q := by
  intro p
  have run := h p
  cases answer : p.policy p.bytes size with
  | some e =>
    rw [answer] at run
    exact run_bind_error run
  | none =>
    rw [answer] at run
    obtain ⟨a, q, holds, same, bytes, run⟩ := run
    exact ⟨f a, q, made a holds, same, bytes, by rw [run_bind_ok run]; rfl⟩

lemma givesBack_free (size : Int) : (free size).GivesBack size := by
  intro p
  refine ⟨p.free size, ?_, p.bytes_free size, rfl⟩
  unfold Pool.free
  split <;> rfl

lemma givesBack_nothing : (pure () : Pooled Unit).GivesBack 0 :=
  fun p => ⟨p, rfl, (Int.sub_zero _).symm, rfl⟩

namespace Follows

lemma of_checked (c : Checked α) : (ofChecked c).Follows (.ends c) := fun p => ⟨p, rfl, rfl, rfl⟩

/-- A plan tells how a computation ends if no request is refused. -/
lemma settles (h : x.Follows plan) : x.Settles plan.result := by
  intro p
  obtain ⟨q, same, -, run⟩ := h p
  refine ⟨q, same, ?_⟩
  rw [run]
  rcases plan.run_cases p.policy p.bytes with e | ⟨e, outstanding, size, refused, failed⟩
  · rw [e]
    exact .inl rfl
  · rw [failed]
    exact .inr ⟨e, outstanding, size, refused, rfl⟩

/-- What a plan fails with, with nothing outstanding that was not before. -/
lemma fails {p : Pool} {e : Fault} (h : x.Follows plan)
    (failed : (plan.run p.policy p.bytes).1 = .error e) :
    (x.run p).1 = .error e ∧ (x.run p).2.bytes = p.bytes := by
  obtain ⟨q, -, bytes, run⟩ := h p
  rw [run, bytes]
  exact ⟨failed, Plan.run_error failed⟩

/-- What a plan makes, with all outstanding that it asked for. -/
lemma makes {p : Pool} {a : α} (h : x.Follows plan)
    (fine : (plan.run p.policy p.bytes).1 = .ok a) :
    (x.run p).1 = .ok a ∧ (x.run p).2.bytes = p.bytes + plan.total := by
  obtain ⟨q, -, bytes, run⟩ := h p
  rw [run, bytes]
  exact ⟨fine, Plan.run_ok fine⟩

lemma ok_bind {b : β} {f : β → Pooled α} (h : (f b).Follows plan) :
    (ofChecked (.ok b) >>= f).Follows plan := h

lemma error_bind {e : Fault} (f : α → Pooled β) :
    (ofChecked (.error e) >>= f).Follows (.ends (.error e)) := fun p => ⟨p, rfl, rfl, rfl⟩

/-- A computation that is followed by what only changes its answer. -/
lemma bind_map {f : α → Pooled β} {g : α → β} (h : x.Follows plan)
    (then_ : ∀ a, plan.result = .ok a → f a = pure (g a)) : (x >>= f).Follows (plan.map g) := by
  intro p
  obtain ⟨q, same, bytes, run⟩ := h p
  refine ⟨q, same, ?_, ?_⟩
  · rw [bytes, Plan.run_map]
  · rw [Plan.run_map]
    rcases plan.run_cases p.policy p.bytes with e | ⟨e, -, -, -, failed⟩
    · rw [e] at run ⊢
      cases result : plan.result with
      | ok a =>
        rw [result] at run
        rw [run_bind_ok run, then_ a result]
        rfl
      | error e =>
        rw [result] at run
        exact run_bind_error run
    · rw [failed] at run ⊢
      exact run_bind_error run

/-- Giving something back after a failure changes nothing but the bytes outstanding. -/
lemma giveBack {release : Pooled Unit} (h : x.Follows plan) (released : release.GivesBack size) :
    (tryCatch x fun e => do release; throw e).Unwinds size plan := by
  intro p
  obtain ⟨q, same, bytes, run⟩ := h p
  cases outcome : plan.run p.policy p.bytes with
  | mk r v =>
    rw [outcome] at bytes run
    cases r with
    | ok a => exact ⟨q, same, bytes, run_tryCatch_ok run⟩
    | error e =>
      obtain ⟨q', same', bytes', run'⟩ := released q
      refine ⟨q', same'.trans same, by rw [bytes', bytes]; rfl, ?_⟩
      rw [run_tryCatch_error run, run_bind_ok run']
      rfl

lemma of_unwinds (h : x.Unwinds 0 plan) : x.Follows plan := by
  intro p
  obtain ⟨q, same, bytes, run⟩ := h p
  rw [Plan.returning_zero] at bytes run
  exact ⟨q, same, bytes, run⟩

/-- A body over something fresh that is given back if the body fails. -/
lemma bind_fetches {fresh : Pooled β} {body : β → Pooled α} {property : β → Prop}
    (fetches : fresh.Fetches size property)
    (unwinds : ∀ b, property b → (body b).Unwinds size rest) :
    (fresh >>= body).Follows (.asks size rest) := by
  intro p
  have run := fetches p
  cases answer : p.policy p.bytes size with
  | some e =>
    rw [answer] at run
    rw [Plan.run_asks_of_refused answer]
    exact ⟨p, rfl, rfl, run_bind_error run⟩
  | none =>
    rw [answer] at run
    obtain ⟨b, q, holds, same, bytes, run⟩ := run
    obtain ⟨q', same', bytes', run'⟩ := unwinds b holds q
    rw [same, bytes] at bytes' run'
    rw [Plan.run_asks_of_granted answer]
    exact ⟨q', same'.trans same, bytes', (run_bind_ok run).trans run'⟩

end Follows

end Pooled

end Columnar
