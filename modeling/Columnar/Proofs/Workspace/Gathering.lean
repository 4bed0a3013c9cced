import Mathlib.Tactic.Common
import Columnar.Proofs.Workspace.Session
import Columnar.Proofs.Workspace.WellFormed

/-!
# Gathers change nothing that is there

A gather adds buffers, records, views and a register. The only record that it writes to is the one
that it has just made, so every column that was there keeps its parts and its stored null count,
whether the gather fails or not (`Session.grows_take`). Opening a gathered column makes a view of a
new record, which has the dictionary of the record of the values (`Session.keeps_gathered`).
-/

namespace Columnar

namespace Workspace

/-- Whether all that was in a workspace is in another one as it was. -/
structure Grows (w' w : Workspace) : Prop extends w'.Extends w where
  views : w.views.size ≤ w'.views.size
  view : ∀ v < w.views.size, w'.view v = w.view v
  registers : w.registers.size ≤ w'.registers.size
  register : ∀ r < w.registers.size, w'.registers[r]? = w.registers[r]?

variable {w w' base : Workspace} {id : Nat}

lemma record_of_records (h : w'.records = w.records) (id : Nat) : w'.record id = w.record id := by
  rw [record, record, h]

lemma Grows.refl (w : Workspace) : w.Grows w where
  toExtends := extends_of_eq rfl rfl
  views := Nat.le_refl _
  view _ _ := rfl
  registers := Nat.le_refl _
  register _ _ := rfl

namespace Grows

lemma trans (h : w'.Grows w) (h' : w.Grows base) : w'.Grows base where
  toExtends := h.toExtends.trans h'.toExtends
  views := Nat.le_trans h'.views h.views
  view v hv := (h.view v (Nat.lt_of_lt_of_le hv h'.views)).trans (h'.view v hv)
  registers := Nat.le_trans h'.registers h.registers
  register r hr := (h.register r (Nat.lt_of_lt_of_le hr h'.registers)).trans (h'.register r hr)

lemma withPool (h : w.Grows base) (pool : Pool) : Grows { w with pool } base where
  toExtends := (extends_of_eq rfl rfl : Extends { w with pool } w).trans h.toExtends
  views := h.views
  view := h.view
  registers := h.registers
  register := h.register

lemma withBuffer (h : w.Grows base) (b : Buffer) : (w.withBuffer b).Grows base where
  toExtends := (extends_withBuffer w b).trans h.toExtends
  views := h.views
  view := h.view
  registers := h.registers
  register := h.register

lemma withRecord (h : w.Grows base) (r : Record) : (w.withRecord r).Grows base where
  toExtends := (extends_withRecord w r).trans h.toExtends
  views := h.views
  view := h.view
  registers := h.registers
  register := h.register

lemma withView (h : w.Grows base) (v : View) : (w.withView v).Grows base where
  toExtends := (extends_withView w v).trans h.toExtends
  views := by
    rw [size_withView]
    exact Nat.le_succ_of_le h.views
  view j hj := by
    rw [view_withView, if_neg (Nat.ne_of_lt (Nat.lt_of_lt_of_le hj h.views))]
    exact h.view j hj
  registers := h.registers
  register := h.register

lemma withRegister (h : w.Grows base) (held : Option Nat) :
    Grows { w with registers := w.registers.push held } base where
  toExtends := by
    have same : Extends { w with registers := w.registers.push held } w := extends_of_eq rfl rfl
    exact same.trans h.toExtends
  views := h.views
  view := h.view
  registers := by
    rw [Array.size_push]
    exact Nat.le_succ_of_le h.registers
  register r hr := by
    rw [Array.getElem?_push, if_neg (Nat.ne_of_lt (Nat.lt_of_lt_of_le hr h.registers))]
    exact h.register r hr

/-- A null count may be stored in a record that is new. -/
lemma withCount {n : Int} (h : w.Grows base) (hid : id < w.records.size)
    (new : base.records.size ≤ id) : (w.withCount id n).Grows base where
  records := by
    rw [size_withCount]
    exact h.records
  record j hj := by
    rw [record_withCount hid, if_neg (Nat.ne_of_lt (Nat.lt_of_lt_of_le hj new))]
    exact h.record j hj
  buffers := h.buffers
  buffer := h.buffer
  views := h.views
  view := h.view
  registers := h.registers
  register := h.register

end Grows

end Workspace

namespace Session
open Workspace
variable {w base : Workspace} {id : Nat}

section Parts

lemma keeps_grown_addBuffers (bs : List (Option Buffer)) (h : w.Grows base) :
    Keeps (·.Grows base) (addBuffers bs) w fun _ w' => w'.records = w.records := by
  induction bs generalizing w with
  | nil => exact .answer h rfl
  | cons b bs ih =>
    cases b with
    | none => exact (ih h).bind fun ids w' h' same => .answer h' same
    | some b =>
      have first : Keeps (·.Grows base) (addBuffer b) w fun _ w' => w' = w.withBuffer b :=
        ⟨h.withBuffer b, fun _ _ => rfl⟩
      refine first.bind fun _ w₁ h₁ made => (ih h₁).bind fun ids w' h' same => .answer h' ?_
      rw [same, made]
      rfl

lemma keeps_grown_addRecord (r : Record) (h : w.Grows base) :
    Keeps (·.Grows base) (addRecord r) w fun id w' =>
      id = w.records.size ∧ w' = w.withRecord r := by
  refine ⟨h.withRecord r, fun a e => ?_⟩
  cases e
  exact ⟨rfl, rfl⟩

lemma keeps_grown_addView (v : View) (h : w.Grows base) :
    Keeps (·.Grows base) (addView v) w fun id w' =>
      id < w'.views.size ∧ w'.view id = v ∧ w'.records = w.records := by
  refine ⟨h.withView v, fun a e => ?_⟩
  cases e
  refine ⟨?_, ?_, rfl⟩
  · change _ < (w.withView v).views.size
    rw [size_withView]
    exact Nat.lt_succ_self _
  · change (w.withView v).view w.views.size = v
    rw [view_withView, if_pos rfl]

lemma keeps_grown_addWithDictionary (c : Column) (d : Option Nat) (h : w.Grows base) :
    Keeps (·.Grows base) (addWithDictionary c d) w fun id w' =>
      base.records.size ≤ id ∧ id < w'.records.size ∧ (w'.record id).type = c.type ∧
        (w'.record id).dictionary = d := by
  refine (keeps_grown_addBuffers c.buffers h).bind fun ids w₁ h₁ _ => ?_
  refine (keeps_grown_addRecord _ h₁).weaken fun id w' _ => ?_
  rintro ⟨rfl, rfl⟩
  refine ⟨h₁.records, ?_, ?_, ?_⟩
  · rw [size_withRecord]
    exact Nat.lt_succ_self _
  · rw [record_withRecord, if_pos rfl]
  · rw [record_withRecord, if_pos rfl]

/-- Opening a record that is new writes to no other one. -/
lemma keeps_grown_openRecord (h : w.Grows base) (new : base.records.size ≤ id)
    (hid : id < w.records.size) :
    Keeps (·.Grows base) (openRecord id) w fun v w' => v < w'.views.size ∧ (w'.view v).record = id ∧
      ∃ n, w'.record id = { w.record id with nullCount := n } := by
  refine .look (.check h fun c _ => ?_)
  have counted := h.withCount (n := c.nullCount) hid new
  refine (Keeps.change counted).bind fun _ w₁ h₁ changed => ?_
  obtain rfl : w₁ = w.withCount id c.nullCount := changed
  have same : (w.withCount id c.nullCount).record id =
      { w.record id with nullCount := c.nullCount } := by
    rw [record_withCount hid, if_pos rfl]
  cases c.type with
  | dictionary k value ordered =>
    refine .look ((keeps_grown_addRecord _ h₁).bind fun _ w₂ h₂ => ?_)
    rintro ⟨rfl, rfl⟩
    refine (keeps_grown_addView _ h₂).bind fun _ w₃ h₃ => ?_
    rintro ⟨-, -, records⟩
    refine (keeps_grown_addView _ h₃).weaken fun v w' _ => ?_
    rintro ⟨inside, view, records'⟩
    refine ⟨inside, by rw [view], c.nullCount, ?_⟩
    -- The record of the keys comes behind the one that is opened.
    rw [record_of_records (records'.trans records), record_withRecord,
      if_neg (by rw [size_withCount]; exact Nat.ne_of_lt hid), same]
  | _ =>
    refine (keeps_grown_addView _ h₁).weaken fun v w' _ => ?_
    rintro ⟨inside, view, records⟩
    exact ⟨inside, by rw [view], c.nullCount, by rw [record_of_records records, same]⟩

end Parts

/-- What opening a gathered column adds: a view of a new record of its type, with the dictionary of
the record of the values if the column has one at all. -/
lemma keeps_gathered {kernel : Column → Column → Pooled Column} {values indices : Nat} :
    Keeps (·.Grows w) (gathered kernel values indices) w fun v w' => v < w'.views.size ∧
      ∃ a b out, w.registers[values]? = some (some a) ∧ w.registers[indices]? = some (some b) ∧
        ((kernel (w.columnOf a) (w.columnOf b)).run w.pool).1 = .ok out ∧
        (w'.record (w'.view v).record).type = out.type ∧
        (w'.record (w'.view v).record).dictionary =
          if out.dictionary.isSome then (w.record (w.view a).record).dictionary else none := by
  have start := Grows.refl w
  refine .columnIn start fun a ha => .columnIn start fun b hb => .recordIn start fun a' ha' =>
    .pooled (fun pool => start.withPool pool) fun out pool made => .look ?_
  cases Option.some.inj (Option.some.inj (ha.symm.trans ha'))
  refine (keeps_grown_addWithDictionary out _ (start.withPool pool)).bind fun id w₁ h₁ => ?_
  rintro ⟨new, hid, type, dictionary⟩
  refine (keeps_grown_openRecord h₁ new hid).weaken fun v w' _ => ?_
  rintro ⟨inside, record, n, same⟩
  rw [record, same]
  exact ⟨inside, a, b, out, ha, hb, made, type, dictionary⟩

/-- A gather puts the view of what is gathered in a new register. -/
lemma keeps_grown_take (w : Workspace) (values indices : Nat) :
    Keeps (·.Grows w) (Session.take values indices) w fun r w' => ∃ a b v out,
      w.registers[values]? = some (some a) ∧ w.registers[indices]? = some (some b) ∧
      w'.registers[r]? = some (some v) ∧
      ((Gather.take (w.columnOf a) (w.columnOf b)).run w.pool).1 = .ok out ∧
      (w'.record (w'.view v).record).type = out.type ∧
      (w'.record (w'.view v).record).dictionary =
        if out.dictionary.isSome then (w.record (w.view a).record).dictionary else none := by
  refine (Keeps.produce keeps_gathered ?_ ?_ ?_).weaken fun r w' _ => ?_
  · exact fun w' h => h.withPool _
  · exact fun v w' h _ => h.withRegister _
  · exact fun w' h => h.withRegister _
  · rintro ⟨v, w'', ⟨-, a, b, out, ha, hb, made, type, dictionary⟩, rfl, rfl⟩
    exact ⟨a, b, v, out, ha, hb, Array.getElem?_push_size, made, type, dictionary⟩

/-- A gather leaves all buffers, records, views and registers as they were. -/
lemma grows_take (w : Workspace) (values indices : Nat) :
    ((Session.take values indices).run w).2.Grows w := (keeps_grown_take w values indices).1

end Session

end Columnar
