import Mathlib.Tactic.Common
import Columnar.Proofs.Gather.Failure
import Columnar.Proofs.Workspace.Gathering

/-!
# What a gather costs

A gather asks its pool for a validity bitmap if it needs one, then for the values or offsets, and
for the data of strings once all indices were looked at. Under a policy that refuses exactly what
exceeds a limit, what is outstanding and what the three buffers take decide together with the
indices how a gather ends, and what is outstanding then (`take_accounts`).
-/

namespace Columnar

/-- Whether a policy refuses exactly the requests that exceed a limit, for want of memory. -/
structure Policy.Limits (policy : Policy) (limit : Int) : Prop where
  refuses : ∀ outstanding size, limit < outstanding + size →
    ∃ e, policy outstanding size = some e ∧ e.report.code = .outOfMemory
  grants : ∀ outstanding size, outstanding + size ≤ limit → policy outstanding size = none

lemma Policy.limits_capped (limit : Int) : (capped limit generous).Limits limit where
  refuses _ size beyond := ⟨.overLimit size, if_pos beyond, rfl⟩
  grants _ _ within := if_neg (Int.not_lt.2 within)

namespace Plan
variable {α : Type} {policy : Policy} {limit u size : Int} {plan rest : Plan α} {r : Checked α}

lemma fst_returning (size : Int) (outcome : Checked α × Int) :
    (returning size outcome).1 = outcome.1 := by
  obtain ⟨r, v⟩ := outcome
  cases r <;> rfl

/-- A request that exceeds the limit is the end of a plan. -/
lemma hasCode_run_asks (limits : policy.Limits limit) (beyond : limit < u + size) :
    Checked.HasCode ((asks size rest).run policy u).1 .outOfMemory := by
  obtain ⟨e, refused, code⟩ := limits.refuses u size beyond
  rw [run_asks_of_refused refused]
  exact ⟨.allocation e, rfl, code⟩

lemma fst_run_asks (limits : policy.Limits limit) (within : u + size ≤ limit) :
    ((asks size rest).run policy u).1 = (rest.run policy (u + size)).1 := by
  rw [run_asks_of_granted (limits.grants u size within), fst_returning]

/-- What is asked for, if there is something to ask for. -/
def charge (needed : Bool) (size : Int) : Int := if needed then size else 0

lemma hasCode_run_asksIf {needed : Bool} (limits : policy.Limits limit) (below : u ≤ limit)
    (beyond : limit < u + charge needed size) :
    Checked.HasCode ((asksIf needed size rest).run policy u).1 .outOfMemory := by
  cases needed with
  | false =>
    rw [charge, if_neg nofun, Int.add_zero] at beyond
    omega
  | true => exact hasCode_run_asks limits beyond

lemma fst_run_asksIf {needed : Bool} (limits : policy.Limits limit)
    (within : u + charge needed size ≤ limit) :
    ((asksIf needed size rest).run policy u).1 =
      (rest.run policy (u + charge needed size)).1 := by
  cases needed with
  | false =>
    rw [charge, if_neg nofun, Int.add_zero]
    rfl
  | true => exact fst_run_asks limits within

lemma total_asksIf (needed : Bool) : (asksIf needed size rest).total =
    charge needed size + rest.total := by
  cases needed with
  | false => exact (Int.zero_add _).symm
  | true => rfl

lemma check_check (a b : Checked Unit) (plan : Plan α) :
    check a (check b plan) = check (do a; b) plan := by
  cases a <;> rfl

end Plan

namespace Column

/-- The bytes that a pool was charged for the buffers of a column. -/
def charge (c : Column) : Int := (c.buffers.map fun b => (b.map Buffer.charge).getD 0).sum

/-- The pool after the buffers of a column were given back. -/
def released (c : Column) (p : Pool) : Pool :=
  c.buffers.foldl (fun p b => p.free ((b.map Buffer.charge).getD 0)) p

lemma bytes_released (c : Column) (p : Pool) : (c.released p).bytes = p.bytes - c.charge := by
  unfold released charge
  induction c.buffers generalizing p with
  | nil => exact (Int.sub_zero _).symm
  | cons b bs ih =>
    rw [List.foldl_cons, ih, Pool.bytes_free, List.map_cons, List.sum_cons]
    omega

end Column

namespace Gather
variable {values indices : Column} {k : IntKind} {n : Nat} {xs : List (Option Cell)}

/-- The padded size of the validity bitmap of a gather of `n` slots, zero if it needs none. -/
def validityCharge (values indices : Column) (n : Nat) : Int :=
  Plan.charge (needsValidity values indices) (Buffer.footprint ((n + 7) / 8))

/-- The padded size of the values or offsets of `n` slots. -/
def slotsCharge (t : DataType) (n : Nat) : Int :=
  match t.layout with
  | .empty => 0
  | .bits => Buffer.footprint ((n + 7) / 8)
  | .fixed w => Buffer.footprint (n * w)
  | .strings w => Buffer.footprint ((n + 1) * w.bytes)

/-- The padded size of the data of strings, zero if the type has none. -/
def dataCharge (t : DataType) (total : Width → Int) : Int :=
  match t.layout with
  | .strings w => Buffer.footprint (total w).toNat
  | _ => 0

section Stages
variable {total : Nat} {result : Checked Column} {policy : Policy} {limit u : Int}

/-- What a gather asks for behind its checks. -/
def dataPlan (t : DataType) (total : Nat) (result : Checked Column) : Plan Column :=
  match t.layout with
  | .strings _ => .asks (Buffer.footprint total) (.ends result)
  | _ => .ends result

/-- A short gather asks for its bitmap and its slots, goes through its checks and then asks for
data. -/
lemma plan_of_short (stored : values.type.layout ≠ .empty) (short : n < 2 ^ 58) :
    plan values indices k n total result =
      .asksIf (needsValidity values indices) (Buffer.footprint ((n + 7) / 8))
        (.asks (slotsCharge values.type n)
          (.check (checks values.type n total (trace values indices k).ending)
            (dataPlan values.type total result))) := by
  unfold plan slotsCharge checks dataPlan
  cases layout : values.type.layout with
  | empty => exact absurd layout stored
  | bits => rfl
  | fixed w =>
    simp only [(room_of_short short (DataType.width_le layout)).1]
    rfl
  | strings w =>
    simp only [stringsPlan, (room_of_short (b := w.bytes) short (by cases w <;> decide)).2,
      Plan.check_check]
    rfl

lemma hasCode_run_dataPlan {t : DataType} (result : Checked Column)
    (limits : policy.Limits limit) (below : u ≤ limit)
    (beyond : limit < u + dataCharge t fun _ => total) :
    Checked.HasCode ((dataPlan t total result).run policy u).1 .outOfMemory := by
  unfold dataCharge at beyond
  unfold dataPlan
  cases layout : t.layout with
  | strings w =>
    rw [layout] at beyond
    exact Plan.hasCode_run_asks limits beyond
  | _ =>
    rw [layout] at beyond
    simp only [Int.add_zero] at beyond
    omega

lemma fst_run_dataPlan {t : DataType} (limits : policy.Limits limit)
    (within : u + (dataCharge t fun _ => total) ≤ limit) :
    ((dataPlan t total result).run policy u).1 = result := by
  unfold dataCharge at within
  unfold dataPlan
  cases layout : t.layout with
  | strings w =>
    rw [layout] at within
    exact Plan.fst_run_asks limits within
  | _ => rfl

lemma total_dataPlan {t : DataType} :
    (dataPlan t total result).total = dataCharge t fun _ => total := by
  unfold dataPlan dataCharge
  cases t.layout with
  | strings w => exact Int.add_zero _
  | _ => rfl

end Stages

/-- The buffers of a gathered column were charged by their padded sizes. -/
lemma charge_gathered (holds : Column.Holds values.type xs (needsValidity values indices)) :
    (gathered values indices xs).charge = validityCharge values indices xs.length +
      slotsCharge values.type xs.length +
        dataCharge values.type fun _ => (Column.contents values.type xs).length := by
  have bitmap : ((if needsValidity values indices then
      some (Buffer.packed (.ofBits (xs.map Option.isSome))) else none).map Buffer.charge).getD 0 =
        validityCharge values indices xs.length := by
    unfold validityCharge Plan.charge
    split
    · rw [Option.map_some, Buffer.charge_packed, Bytes.size_ofBits, List.length_map]
      rfl
    · rfl
  unfold Column.charge gathered Column.laidOut slotsCharge dataCharge
  rw [List.map_cons, List.sum_cons, bitmap, Int.add_assoc]
  congr 1
  cases layout : values.type.layout with
  | empty => exact absurd layout holds.stored
  | bits => simp [Layout.buffers, Buffer.charge_packed, Column.physical]
  | fixed w =>
    have size := Column.length_contents layout holds.cells
    unfold Column.contents at size
    simp [Layout.buffers, Buffer.charge_packed, size]
  | strings w =>
    simp only [Layout.buffers, List.map_cons, List.map_nil, Option.map_some, Option.getD_some,
      Buffer.charge_packed, List.size_toArray, Layout.length_offsets, List.length_map,
      Column.physical, List.sum_cons, List.sum_nil, Int.add_zero, Int.toNat_natCast]
    rfl

/-- How a gather of `n` slots ends on a pool that lets at most `limit` bytes be outstanding, and
what is outstanding then. -/
structure Accounts (values indices : Column) (k : IntKind) (n : Nat) (limit : Int) (pool : Pool) :
    Prop where
  /-- Without memory for bitmap and slots the indices do not matter. -/
  exhausted :
    limit < pool.bytes + validityCharge values indices n + slotsCharge values.type n →
    Checked.HasCode ((take values indices).run pool).1 .outOfMemory ∧
      ((take values indices).run pool).2.bytes = pool.bytes
  /-- The earliest position that refuses comes next. -/
  refused :
    pool.bytes + validityCharge values indices n + slotsCharge values.type n ≤ limit →
    ∀ p < n, ∀ e, (∀ q < p, ∀ e, ¬ Refuses values indices k q e) → Refuses values indices k p e →
      (e.report.code = .indexError ∨ e.report.code = .capacityError) ∧
      ((take values indices).run pool).1 = .error (.gather e) ∧
      ((take values indices).run pool).2.bytes = pool.bytes
  /-- Without memory for the data nothing is made. -/
  starved : (∀ p < n, ∀ e, ¬ Refuses values indices k p e) →
    pool.bytes + validityCharge values indices n + slotsCharge values.type n ≤ limit →
    limit < pool.bytes + validityCharge values indices n + slotsCharge values.type n +
      (dataCharge values.type fun w => selectedTotal values indices k w n) →
    Checked.HasCode ((take values indices).run pool).1 .outOfMemory ∧
      ((take values indices).run pool).2.bytes = pool.bytes
  /-- What is made is outstanding until it is given back. -/
  made : (∀ p < n, ∀ e, ¬ Refuses values indices k p e) →
    pool.bytes + validityCharge values indices n + slotsCharge values.type n +
      (dataCharge values.type fun w => selectedTotal values indices k w n) ≤ limit →
    ∃ out, ((take values indices).run pool).1 = .ok out ∧
      ((take values indices).run pool).2.bytes =
        pool.bytes + validityCharge values indices n + slotsCharge values.type n +
          (dataCharge values.type fun w => selectedTotal values indices k w n) ∧
      (out.released ((take values indices).run pool).2).bytes = pool.bytes

section Runs
variable {total : Nat} {result : Checked Column} {limit : Int} {pool : Pool}

/-- Without memory for its bitmap and its slots a gather gets no further. -/
lemma exhausted_of_follows
    (follows : (take values indices).Follows (plan values indices k n total result))
    (stored : values.type.layout ≠ .empty) (short : n < 2 ^ 58) (limits : pool.policy.Limits limit)
    (below : pool.bytes ≤ limit)
    (beyond : limit < pool.bytes + validityCharge values indices n + slotsCharge values.type n) :
    Checked.HasCode ((take values indices).run pool).1 .outOfMemory ∧
      ((take values indices).run pool).2.bytes = pool.bytes := by
  rw [plan_of_short stored short] at follows
  have failed : Checked.HasCode ((Plan.asksIf (needsValidity values indices)
      (Buffer.footprint ((n + 7) / 8)) (.asks (slotsCharge values.type n)
        (.check (checks values.type n total (trace values indices k).ending)
          (dataPlan values.type total result)))).run pool.policy pool.bytes).1 .outOfMemory := by
    by_cases bitmap : limit < pool.bytes + validityCharge values indices n
    · exact Plan.hasCode_run_asksIf limits below bitmap
    · rw [Plan.fst_run_asksIf limits (Int.not_lt.1 bitmap)]
      exact Plan.hasCode_run_asks limits beyond
  obtain ⟨f, failed, code⟩ := failed
  obtain ⟨run, bytes⟩ := follows.fails failed
  exact ⟨⟨f, run, code⟩, bytes⟩

/-- With memory for its bitmap and its slots a gather comes to its checks. -/
lemma fst_run_plan (stored : values.type.layout ≠ .empty) (short : n < 2 ^ 58)
    (limits : pool.policy.Limits limit)
    (within : pool.bytes + validityCharge values indices n + slotsCharge values.type n ≤ limit)
    (charged : 0 ≤ slotsCharge values.type n) :
    ((plan values indices k n total result).run pool.policy pool.bytes).1 =
      ((Plan.check (checks values.type n total (trace values indices k).ending)
        (dataPlan values.type total result)).run pool.policy
          (pool.bytes + validityCharge values indices n + slotsCharge values.type n)).1 := by
  rw [plan_of_short stored short]
  have bitmap : pool.bytes + validityCharge values indices n ≤ limit := by omega
  exact (Plan.fst_run_asksIf limits bitmap).trans (Plan.fst_run_asks limits within)

/-- A gather that passes its checks asks for three buffers. -/
lemma total_plan (stored : values.type.layout ≠ .empty) (short : n < 2 ^ 58)
    (passed : checks values.type n total (trace values indices k).ending = .ok ()) :
    (plan values indices k n total result).total = validityCharge values indices n +
      slotsCharge values.type n + dataCharge values.type fun _ => total := by
  rw [plan_of_short stored short, Plan.total_asksIf, Plan.total, passed, ← total_dataPlan,
    Int.add_assoc]
  rfl

/-- Without a position that refuses a gather of strings that are not too long passes its checks. -/
lemma passed_of_not_refuses (hv : values.Covered) (hi : indices.Covered)
    (index : indices.type = .int k) (totals : Totals values indices k total)
    (length : indices.length = n) (short : n < 2 ^ 58)
    (none : ∀ p < n, ∀ e, ¬ Refuses values indices k p e)
    (selected : ∀ w, values.type.layout = .strings w →
      selectedTotal values indices k w n < 2 ^ 58) :
    checks values.type n total (trace values indices k).ending = .ok () ∧
      (dataCharge values.type fun w => selectedTotal values indices k w n) =
        dataCharge values.type fun _ => total := by
  obtain ⟨passed, same⟩ := checks_of_not_refuses hv hi index totals length short none
  rw [passed]
  unfold roomForStrings dataCharge
  cases layout : values.type.layout with
  | strings w =>
    have fits : selectedTotal values indices k w n ≤ Buffer.maxSize := by
      have lt := selected w layout
      unfold Buffer.maxSize
      omega
    rw [same w layout]
    exact ⟨Buffer.room_eq_ok.2 fits, rfl⟩
  | _ => exact ⟨rfl, rfl⟩

end Runs

lemma slotsCharge_nonneg (t : DataType) (n : Nat) : 0 ≤ slotsCharge t n := by
  unfold slotsCharge
  cases t.layout with
  | empty => exact Int.le_refl 0
  | _ => exact Int.natCast_nonneg _

lemma dataCharge_nonneg (t : DataType) (total : Width → Int) : 0 ≤ dataCharge t total := by
  unfold dataCharge
  cases t.layout with
  | strings w => exact Int.natCast_nonneg _
  | _ => exact Int.le_refl 0

/-- How a short gather of sound columns ends, and what is outstanding then, on a pool that lets at
most `limit` bytes be outstanding. Nothing that is in a workspace is changed by any gather. -/
theorem take_accounts {pool : Pool} {limit : Int} (limits : pool.policy.Limits limit)
    (below : pool.bytes ≤ limit) (hv : values.Sound) (hi : indices.Sound)
    (index : indices.type = .int k) (gatherable : values.type.Gatherable)
    (length : indices.length = n) (short : n < 2 ^ 58)
    (selected : (∀ p < n, ∀ e, ¬ Refuses values indices k p e) →
      ∀ w, values.type.layout = .strings w → selectedTotal values indices k w n < 2 ^ 58) :
    Accounts values indices k n limit pool ∧
      ∀ (w : Workspace) (a b : Nat), ((Session.take a b).run w).2.Grows w := by
  have stored := stored_of_gatherable gatherable
  obtain ⟨xs, selects⟩ := exists_selects indices k fun j hj =>
    hv.exists_cell stored hj
  have follows := follows_take index length (by omega) gatherable hv.encoded selects
  have totals := totals_of_selects hv.covered (selectedFit_of_shaped hv.shaped) selects
  have charged := slotsCharge_nonneg values.type n
  refine ⟨⟨exhausted_of_follows follows stored short limits below, ?_, ?_, ?_⟩,
    Session.grows_take⟩
  · intro within p hp e before refuses
    refine ⟨code_of_refuses refuses, follows.fails ?_⟩
    rw [fst_run_plan stored short limits within charged,
      checks_of_refuses hv.covered hi.covered index totals length short hp before refuses]
    rfl
  · intro none within beyond
    obtain ⟨passed, data⟩ := passed_of_not_refuses hv.covered hi.covered index totals length short
      none (selected none)
    rw [data] at beyond
    obtain ⟨f, failed, code⟩ := hasCode_run_dataPlan (.ok (gathered values indices xs))
      limits within beyond
    obtain ⟨run, bytes⟩ := follows.fails (by
      rw [fst_run_plan stored short limits within charged, passed]
      exact failed)
    exact ⟨⟨f, run, code⟩, bytes⟩
  · intro none within
    obtain ⟨passed, data⟩ := passed_of_not_refuses hv.covered hi.covered index totals length short
      none (selected none)
    obtain ⟨ending, fits⟩ := of_checks passed
    have nonneg := dataCharge_nonneg values.type fun w => selectedTotal values indices k w n
    obtain ⟨run, bytes⟩ := follows.makes (by
      rw [fst_run_plan stored short limits (by omega) charged, passed]
      exact fst_run_dataPlan limits (data ▸ within))
    rw [total_plan stored short passed, ← data, ← Int.add_assoc, ← Int.add_assoc] at bytes
    have whole : xs.length = n := selects.length.trans ((length_visits values k length).2 ending)
    have charge := charge_gathered (holds_of_selects stored selects fits)
    rw [whole, ← data] at charge
    refine ⟨_, run, bytes, ?_⟩
    rw [Column.bytes_released, bytes, charge]
    omega

/-- A bitmap that is there is given back when the values exceed the limit, and an index that names
no slot is never looked at. -/
theorem take_accounts_exhausted :
    Policy.Limits (.capped 100 .generous) 100 ∧
    Column.Sound (.ofInts (.uint .w16) [some 5, none]) ∧
    Column.Sound (.ofInts (.int .w8) [some 2, some (-1)]) ∧
    Checked.HasCode ((take (.ofInts (.uint .w16) [some 5, none])
      (.ofInts (.int .w8) [some 2, some (-1)])).run
        ⟨[], .capped 100 .generous, false, ⟨10, 10⟩, fun _ => 0⟩).1 .outOfMemory ∧
    ((take (.ofInts (.uint .w16) [some 5, none]) (.ofInts (.int .w8) [some 2, some (-1)])).run
      ⟨[], .capped 100 .generous, false, ⟨10, 10⟩, fun _ => 0⟩).2.bytes = 10 := by
  have limits : Policy.Limits
      (Pool.policy ⟨[], .capped 100 .generous, false, ⟨10, 10⟩, fun _ => 0⟩) 100 :=
    Policy.limits_capped 100
  have hv : Column.Sound (.ofInts (.uint .w16) [some 5, none]) := by decide +kernel
  have hi : Column.Sound (.ofInts (.int .w8) [some 2, some (-1)]) := by decide +kernel
  obtain ⟨accounts, -⟩ := take_accounts (n := 2) (k := .int .w8) limits (by decide) hv hi rfl
    (by decide) rfl (by decide) (fun _ w layout => by cases layout)
  obtain ⟨failed, bytes⟩ := accounts.exhausted (by decide +kernel)
  exact ⟨limits, hv, hi, failed, bytes⟩

end Gather

end Columnar
