import Mathlib.Tactic.Common
import Mathlib.Data.Finset.Range
import Mathlib.Logic.Relation
import Columnar.Memory.Shelf

/-!
# Holders of blocks

A block has a holder for each register that holds it and for each view of it that has holders itself
(`Shelf.Counted`). So the blocks with holders are those that a register reaches through the parents
of views (`Shelf.Counted.live_iff`), and letting go of a block gives back at most one region: the
root that nothing reaches any more (`Shelf.Counted.letGo`).
-/

namespace Columnar

/-- The block that a view looks into. -/
def Block.parent? (b : Block) : Option Nat :=
  match b.backing with
  | .view parent _ => some parent
  | _ => none

/-- The size of the region that a pool handed out for a block, if it is one from a pool. -/
def Block.region? (b : Block) : Option Int :=
  if b.backing = .pooled then some b.capacity else none

/-- Whether a block holds another one, which a view does that has holders itself. -/
def Block.holds (b : Block) (id : Nat) : Bool := b.holders != 0 && b.parent? == some id

lemma Block.holds_iff {b : Block} {id : Nat} :
    b.holds id = true ↔ b.holders ≠ 0 ∧ b.parent? = some id := by
  rw [holds, Bool.and_eq_true, bne_iff_ne, beq_iff_eq]

namespace Shelf
variable {s t : Shelf} {id j : Nat} {b : Block}

/-- The number of holders of a block. -/
def holders (s : Shelf) (id : Nat) : Nat := (s.blocks[id]?).elim 0 Block.holders

/-- The size of the region that the pool handed out for a block, if it is one from the pool. -/
def region? (s : Shelf) (id : Nat) : Option Int := (s.blocks[id]?).bind Block.region?

/-- The number of views that hold a block. -/
def views (s : Shelf) (id : Nat) : Nat := s.blocks.countP (·.holds id)

/-- Whether a register reaches a block, which it holds itself or through views of it. -/
def Live (s : Shelf) (id : Nat) : Prop :=
  ∃ held, some held ∈ s.registers ∧ Relation.ReflTransGen (fun v p => s.parent? v = some p) held id

/-- Whether the holders of all blocks are counted right, but for a block that is owed one. -/
structure Counted (s : Shelf) (owed : Option Nat) : Prop where
  held : ∀ id, some id ∈ s.registers → id < s.blocks.size
  older : ∀ id p, s.parent? id = some p → p < id
  inside : ∀ id, owed = some id → id < s.blocks.size
  count : ∀ id < s.blocks.size,
    s.holders id = s.registers.count (some id) + s.views id + if owed = some id then 1 else 0

lemma parent?_eq (s : Shelf) (id : Nat) : s.parent? id = (s.blocks[id]?).bind Block.parent? := by
  unfold parent? Block.parent?
  cases s.blocks[id]? with
  | none => rfl
  | some b =>
    obtain ⟨backing, -⟩ := b
    cases backing <;> rfl

lemma lt_of_holders (h : s.holders id ≠ 0) : id < s.blocks.size := by
  by_contra outside
  rw [holders, Array.getElem?_eq_none (by omega)] at h
  exact h rfl

section Changing

/-- The shelf with another number of holders of a block. -/
def withHolders (s : Shelf) (id : Nat) (b : Block) (n : Nat) : Shelf :=
  { s with blocks := s.blocks.setIfInBounds id { b with holders := n } }

variable (hb : s.blocks[id]? = some b) (n : Nat)
include hb

lemma getElem?_withHolders (j : Nat) : (s.withHolders id b n).blocks[j]? =
    if j = id then some { b with holders := n } else s.blocks[j]? := by
  obtain ⟨lt, -⟩ := Array.getElem?_eq_some_iff.1 hb
  rw [withHolders, Array.getElem?_setIfInBounds]
  by_cases here : id = j
  · rw [if_pos here, if_pos lt, if_pos here.symm]
  · rw [if_neg here, if_neg (Ne.symm here)]

lemma holders_withHolders (j : Nat) :
    (s.withHolders id b n).holders j = if j = id then n else s.holders j := by
  rw [holders, getElem?_withHolders hb]
  split
  · rfl
  · rfl

lemma parent?_withHolders (j : Nat) : (s.withHolders id b n).parent? j = s.parent? j := by
  rw [parent?_eq, parent?_eq, getElem?_withHolders hb]
  split
  · next here => rw [here, hb]; rfl
  · rfl

lemma region?_withHolders (j : Nat) : (s.withHolders id b n).region? j = s.region? j := by
  rw [region?, region?, getElem?_withHolders hb]
  split
  · next here => rw [here, hb]; rfl
  · rfl

lemma views_withHolders (j : Nat) :
    (s.withHolders id b n).views j + (if b.holders ≠ 0 ∧ b.parent? = some j then 1 else 0) =
      s.views j + if n ≠ 0 ∧ b.parent? = some j then 1 else 0 := by
  obtain ⟨lt, rfl⟩ := Array.getElem?_eq_some_iff.1 hb
  have le := Array.boole_getElem_le_countP (p := (·.holds j)) lt
  have set := Array.countP_set (p := (·.holds j)) (a := { s.blocks[id] with holders := n }) lt
  simp only [Block.holds_iff] at le set
  rw [views, views, withHolders, Array.setIfInBounds_def, dif_pos lt, set]
  change _ + (if n ≠ 0 ∧ s.blocks[id].parent? = some j then 1 else 0) + _ = _
  omega

end Changing

section Counting
variable {owed : Option Nat}

lemma Counted.holders_eq (h : s.Counted owed) (hb : s.blocks[id]? = some b) :
    b.holders = s.registers.count (some id) + s.views id + if owed = some id then 1 else 0 := by
  obtain ⟨lt, -⟩ := Array.getElem?_eq_some_iff.1 hb
  rw [← h.count id lt, holders, hb]
  rfl

/-- No view looks into itself. -/
lemma Counted.parent?_ne (h : s.Counted owed) (hb : s.blocks[id]? = some b) :
    b.parent? ≠ some id := by
  intro itself
  have older := h.older id id (by rw [parent?_eq, hb]; exact itself)
  omega

/-- Blocks are counted as before, but for the holders that a block gains or loses. -/
lemma Counted.withHolders (h : s.Counted owed) (hb : s.blocks[id]? = some b) {n : Nat}
    {owed' : Option Nat} (inside : ∀ p, owed' = some p → p < s.blocks.size)
    (count : ∀ j < s.blocks.size, (if j = id then n else s.holders j) =
      s.registers.count (some j) + (s.withHolders id b n).views j +
        if owed' = some j then 1 else 0) : (s.withHolders id b n).Counted owed' := by
  have size : (s.withHolders id b n).blocks.size = s.blocks.size := Array.size_setIfInBounds
  refine ⟨fun j mem => size ▸ h.held j mem, fun j p => ?_, fun p e => size ▸ inside p e,
    fun j lt => ?_⟩
  · rw [parent?_withHolders hb]
    exact h.older j p
  · rw [holders_withHolders hb]
    exact count j (size ▸ lt)

/-- A block that is let go of once is counted right, and a view without holders lets go of its own
parent. -/
lemma Counted.release (h : s.Counted (some id)) (hb : s.blocks[id]? = some b) :
    (s.withHolders id b (b.holders - 1)).Counted (if b.holders = 1 then b.parent? else none) := by
  have own := h.holders_eq hb
  have apart := h.parent?_ne hb
  rw [if_pos rfl] at own
  refine h.withHolders hb (fun p owed => ?_) fun j lt => ?_
  · split at owed
    · have older := h.older id p (by rw [parent?_eq, hb]; exact owed)
      have inside := h.inside id rfl
      omega
    · cases owed
  · have count := h.count j lt
    have views := views_withHolders hb (b.holders - 1) j
    by_cases looks : b.parent? = some j
    -- The view holds its parent no more if it has lost its last holder, and its parent is owed one.
    · have other : ¬ j = id := fun e => apart (e ▸ looks)
      rw [if_neg fun e => other (Option.some.inj e).symm] at count
      rw [if_pos ⟨by omega, looks⟩] at views
      rw [if_neg other]
      by_cases last : b.holders = 1
      · rw [if_neg fun keeps => keeps.1 (by omega)] at views
        rw [if_pos last, if_pos looks]
        omega
      · rw [if_pos ⟨by omega, looks⟩] at views
        rw [if_neg last, if_neg (Option.some_ne_none j).symm]
        omega
    · rw [if_neg fun keeps => looks keeps.2, if_neg fun keeps => looks keeps.2] at views
      have owes : ¬ (if b.holders = 1 then b.parent? else none) = some j := by
        split
        · exact looks
        · exact (Option.some_ne_none j).symm
      rw [if_neg owes]
      by_cases here : j = id
      · subst here
        rw [if_pos rfl]
        omega
      · rw [if_neg fun e => here (Option.some.inj e).symm] at count
        rw [if_neg here]
        omega

lemma retain_eq (hb : s.blocks[id]? = some b) :
    s.retain id = s.withHolders id b (b.holders + 1) := by
  unfold retain Shelf.withHolders
  congr 1
  apply Array.ext_getElem?
  intro j
  obtain ⟨lt, -⟩ := Array.getElem?_eq_some_iff.1 hb
  rw [Array.getElem?_modify, Array.getElem?_setIfInBounds]
  split
  · next here => rw [← here, hb]; rfl
  · rfl

/-- One more holder of a block that has some is owed until it is there. -/
lemma Counted.retain (h : s.Counted none) (hb : s.blocks[id]? = some b) (held : b.holders ≠ 0) :
    (s.retain id).Counted (some id) := by
  obtain ⟨lt, -⟩ := Array.getElem?_eq_some_iff.1 hb
  rw [retain_eq hb]
  refine h.withHolders hb (fun p e => Option.some.inj e ▸ lt) fun j lt => ?_
  have own := h.holders_eq hb
  have count := h.count j lt
  have views := views_withHolders hb (b.holders + 1) j
  simp only [held, Nat.succ_ne_zero, not_false_eq_true, ne_eq, true_and] at views
  rw [if_neg (Option.some_ne_none _).symm] at own count
  by_cases here : j = id
  · subst here
    rw [if_pos rfl, if_pos rfl]
    omega
  · rw [if_neg here, if_neg fun e => here (Option.some.inj e).symm]
    omega

end Counting

section Putting
variable {block : Block} {owed : Option Nat}

lemma getElem?_put (s : Shelf) (block : Block) (j : Nat) :
    (s.put block).blocks[j]? = if j = s.blocks.size then some block else s.blocks[j]? :=
  Array.getElem?_push

lemma holders_put (j : Nat) :
    (s.put block).holders j = if j = s.blocks.size then block.holders else s.holders j := by
  rw [holders, getElem?_put]
  split
  · rfl
  · rfl

lemma parent?_put (j : Nat) :
    (s.put block).parent? j = if j = s.blocks.size then block.parent? else s.parent? j := by
  rw [parent?_eq, parent?_eq, getElem?_put]
  split
  · rfl
  · rfl

lemma region?_put (j : Nat) :
    (s.put block).region? j = if j = s.blocks.size then block.region? else s.region? j := by
  rw [region?, region?, getElem?_put]
  split
  · rfl
  · rfl

lemma views_put (j : Nat) :
    (s.put block).views j =
      s.views j + if block.holders ≠ 0 ∧ block.parent? = some j then 1 else 0 := by
  have push : (s.blocks.push block).countP (·.holds j) = _ := Array.countP_push
  simp only [Block.holds_iff] at push
  exact push

/-- Nothing holds a block that is not there yet. -/
lemma Counted.unheld (h : s.Counted owed) :
    s.registers.count (some s.blocks.size) = 0 ∧ s.views s.blocks.size = 0 := by
  constructor
  · rw [Array.count_eq_zero]
    intro mem
    have inside := h.held _ mem
    omega
  · rw [views, Array.countP_eq_zero]
    intro b mem holds
    obtain ⟨j, hb⟩ := Array.mem_iff_getElem?.1 mem
    obtain ⟨lt, -⟩ := Array.getElem?_eq_some_iff.1 hb
    have older := h.older j s.blocks.size (by
      rw [parent?_eq, hb]
      exact (Block.holds_iff.1 holds).2)
    omega

/-- A new block is held by its register, and holds the block that was owed to it. -/
lemma Counted.put (h : s.Counted block.parent?) (one : block.holders = 1) :
    (s.put block).Counted none := by
  have size : (s.put block).blocks.size = s.blocks.size + 1 := Array.size_push ..
  refine ⟨fun j mem => ?_, fun j p => ?_, fun _ owed => (by cases owed), fun j lt => ?_⟩
  · rcases Array.mem_push.1 mem with old | new
    · exact size ▸ Nat.lt_succ_of_lt (h.held j old)
    · rw [size, Option.some.inj new]
      exact Nat.lt_succ_self _
  · rw [parent?_put]
    split
    · next new => exact new ▸ h.inside p
    · exact h.older j p
  · have registers : (s.put block).registers.count (some j) =
        s.registers.count (some j) + if s.blocks.size = j then 1 else 0 := by
      change (s.registers.push (some s.blocks.size)).count (some j) = _
      rw [Array.count_push]
      simp
    rw [holders_put, views_put, registers, if_neg (Option.some_ne_none j).symm]
    by_cases new : j = s.blocks.size
    · obtain ⟨noRegister, noView⟩ := h.unheld
      have apart : ¬ block.parent? = some s.blocks.size := fun e => by
        have inside := h.inside _ e
        omega
      rw [new, if_pos rfl, if_pos rfl, if_neg fun holds => apart holds.2, one, noRegister, noView]
    · have count := h.count j (by omega)
      rw [if_neg new, if_neg (Ne.symm new), count]
      simp only [one, ne_eq, Nat.succ_ne_zero, not_false_eq_true, true_and]
      omega

lemma Counted.putNothing (h : s.Counted none) : s.putNothing.Counted none := by
  refine ⟨fun j mem => ?_, h.older, h.inside, fun j lt => ?_⟩
  · rcases Array.mem_push.1 mem with old | new
    · exact h.held j old
    · cases new
  · have registers : s.putNothing.registers.count (some j) = s.registers.count (some j) := by
      change (s.registers.push none).count (some j) = _
      rw [Array.count_push]
      simp
    rw [registers]
    exact h.count j lt

lemma Counted.withPool (h : s.Counted owed) (pool : Pool) : Counted { s with pool } owed :=
  ⟨h.held, h.older, h.inside, h.count⟩

/-- The shelf with a register that holds nothing any more. -/
def emptied (s : Shelf) (register : Nat) : Shelf :=
  { s with registers := s.registers.setIfInBounds register none }

/-- A register that is emptied owes a holder to the block that it held. -/
lemma Counted.emptied {register : Nat} (h : s.Counted none)
    (hr : s.registers[register]? = some (some id)) :
    (s.emptied register).Counted (some id) := by
  obtain ⟨lt, here⟩ := Array.getElem?_eq_some_iff.1 hr
  have inside := h.held id (here ▸ Array.getElem_mem lt)
  refine ⟨fun j mem => ?_, h.older, fun j e => Option.some.inj e ▸ inside, fun j lt' => ?_⟩
  · rcases Array.mem_or_eq_of_mem_setIfInBounds mem with old | new
    · exact h.held j old
    · cases new
  · have count := h.count j lt'
    have le := Array.boole_getElem_le_count (a := some j) lt
    have registers : (s.registers.setIfInBounds register none).count (some j) =
        s.registers.count (some j) - if id = j then 1 else 0 := by
      rw [Array.setIfInBounds_def, dif_pos lt, Array.count_set, here]
      simp
    change s.holders j = (s.registers.setIfInBounds register none).count (some j) + s.views j + _
    rw [here] at le
    rw [if_neg (Option.some_ne_none j).symm] at count
    rw [registers, count]
    by_cases same : id = j
    · simp only [same, BEq.rfl, if_true] at le ⊢
      omega
    · rw [if_neg same, if_neg fun e => same (Option.some.inj e)]
      omega

lemma drop_eq (s : Shelf) (register : Nat) : s.drop register =
    match s.registers[register]? with
    | none => .error .unknownRegister
    | some none => .ok s
    | some (some id) => .ok ((s.emptied register).letGo id) := by
  unfold drop Shelf.held
  cases s.registers[register]? with
  | none => rfl
  | some held =>
    cases held with
    | none => rfl
    | some id => rfl

end Putting

section Reaching

/-- The blocks with holders are those that a register reaches. -/
lemma Counted.live_iff (h : s.Counted none) : s.Live id ↔ s.holders id ≠ 0 := by
  constructor
  · rintro ⟨held, mem, path⟩
    induction path with
    | refl =>
      have count := h.count held (h.held held mem)
      have pos := Array.count_pos_iff.2 mem
      omega
    | @tail v p path step ih =>
      -- A view that has holders is one of its parent's.
      have lt := lt_of_holders ih
      have older := h.older v p step
      have count := h.count p (by omega)
      have pos : 0 < s.views p := by
        rw [views, Array.countP_pos_iff]
        refine ⟨s.blocks[v], Array.getElem_mem lt, Block.holds_iff.2 ⟨?_, ?_⟩⟩
        · rw [holders, Array.getElem?_eq_getElem lt] at ih
          exact ih
        · rw [parent?_eq, Array.getElem?_eq_getElem lt] at step
          exact step
      omega
  · intro held
    -- Views are younger than what they look into, so the youngest block is held by a register.
    induction hn : s.blocks.size - id using Nat.strong_induction_on generalizing id with
    | _ n ih =>
      have lt := lt_of_holders held
      have count := h.count id lt
      rw [if_neg (Option.some_ne_none id).symm] at count
      by_cases register : some id ∈ s.registers
      · exact ⟨id, register, .refl⟩
      · have none := Array.count_eq_zero.2 register
        have some : 0 < s.views id := by omega
        obtain ⟨b, mem, holds⟩ := Array.countP_pos_iff.1 some
        obtain ⟨v, hv⟩ := Array.mem_iff_getElem?.1 mem
        obtain ⟨ltv, -⟩ := Array.getElem?_eq_some_iff.1 hv
        obtain ⟨alive, looks⟩ := Block.holds_iff.1 holds
        have step : s.parent? v = Option.some id := by rw [parent?_eq, hv]; exact looks
        have older := h.older v id step
        have heldv : s.holders v ≠ 0 := by rw [holders, hv]; exact alive
        obtain ⟨first, mem, path⟩ := ih (s.blocks.size - v) (by omega) heldv rfl
        exact ⟨first, mem, path.tail step⟩

end Reaching

end Shelf

end Columnar
