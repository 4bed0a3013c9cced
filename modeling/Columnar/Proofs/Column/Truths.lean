import Mathlib.Tactic.Common
import Columnar.Column.Value
import Columnar.Proofs.Column.Equal

/-!
# Counting truth values

The slots of a boolean column are set, clear or null. The number of set slots is counted bit by bit
where there is a bitmap and word by word where there is none, and that of clear slots is what is
left of the length. All of them come to the numbers of such slots (`Column.truths_partition`).
-/

namespace Columnar.Column
variable {c d : Column} {i : Nat} {same : Bool}

/-- Whether slot `i` is valid and its bit is `b`. -/
def isTruth (c : Column) (b : Bool) (i : Nat) : Bool :=
  c.isValid i = .ok true ∧ c.cell i = .ok (.bit b)

/-- The number of valid slots whose bit is `b`. -/
def truthSlots (c : Column) (b : Bool) : Nat := c.positions.countP (c.isTruth b)

section Slots

/-- Validity and bit of a slot of a boolean column. -/
lemma Sound.exists_truth (h : c.Sound) (type : c.type = .bool) (hi : i < c.length) :
    ∃ v u : Bool, c.isValid i = .ok v ∧ (c.memory 1).getBit (c.offset + i) = .ok u ∧
      c.cell i = .ok (.bit u) := by
  have layout : c.type.layout = .bits := by rw [type]; rfl
  obtain ⟨v, valid⟩ := h.covered.exists_isValid hi
  obtain ⟨u, read⟩ := h.covered.exists_bit layout hi
  exact ⟨v, u, valid, read, by rw [cell_of_bits layout, read]; rfl⟩

lemma isTruth_eq {v u : Bool} (valid : c.isValid i = .ok v) (cell : c.cell i = .ok (.bit u))
    (b : Bool) : c.isTruth b i = (v && u == b) := by
  rw [isTruth, valid, cell]
  cases v <;> cases u <;> cases b <;> rfl

/-- What is of exactly one of three kinds is counted once. -/
lemma countP_three {α : Type} {p q r : α → Bool} {l : List α}
    (one : ∀ a ∈ l, (p a).toNat + (q a).toNat + (r a).toNat = 1) :
    l.countP p + l.countP q + l.countP r = l.length := by
  induction l with
  | nil => rfl
  | cons a l ih =>
    have here := one a List.mem_cons_self
    have rest := ih fun b mem => one b (List.mem_cons_of_mem a mem)
    have count (s : α → Bool) : (a :: l).countP s = l.countP s + (s a).toNat := by
      rw [List.countP_cons]
      cases s a <;> rfl
    rw [count, count, count, List.length_cons]
    omega

/-- Every slot is set, clear or null. -/
lemma Sound.truthSlots_add (h : c.Sound) (type : c.type = .bool) :
    (c.truthSlots true + c.truthSlots false + c.nullSlots : Int) = c.length := by
  obtain ⟨-, n, -, length, -⟩ := h.exists_window
  have total : c.truthSlots true + c.truthSlots false + c.nullSlots = c.positions.length := by
    refine countP_three fun i mem => ?_
    rw [positions, List.mem_range] at mem
    obtain ⟨v, u, valid, -, cell⟩ := h.exists_truth type (i := i) (by omega)
    rw [isTruth_eq valid cell, isTruth_eq valid cell, valid]
    cases v <;> cases u <;> decide
  rw [positions, List.length_range] at total
  omega

/-- Columns with the same slots have the same numbers of set, clear and null slots. -/
lemma SameSlots.truthSlots (h : c.SameSlots d) (b : Bool) : c.truthSlots b = d.truthSlots b := by
  rw [Column.truthSlots, Column.truthSlots, positions, positions, ← h.length]
  refine List.countP_congr fun i mem => ?_
  rw [List.mem_range] at mem
  have valid := h.valid i (by omega)
  rw [isTruth, isTruth, decide_eq_true_iff, decide_eq_true_iff, ← valid]
  exact and_congr_right fun read => by rw [h.cell i (by omega) read]

lemma SameSlots.nullSlots (h : c.SameSlots d) : c.nullSlots = d.nullSlots := by
  rw [Column.nullSlots, Column.nullSlots, positions, positions, ← h.length]
  refine List.countP_congr fun i mem => ?_
  rw [List.mem_range] at mem
  rw [h.valid i (by omega)]

end Slots

section Counting

/-- One slot more is counted if it is set. -/
lemma countP_isTruth_succ (c : Column) (b : Bool) (p : Nat) :
    (List.range (p + 1)).countP (c.isTruth b) =
      (List.range p).countP (c.isTruth b) + (c.isTruth b p).toNat := by
  rw [List.range_succ, List.countP_append, List.countP_singleton]
  cases c.isTruth b p <;> rfl

/-- Over a bitmap slots are counted one by one, and the count is that of the slots passed. -/
lemma Sound.trueCount_of_bitmap {b : Buffer} (h : c.Sound) (type : c.type = .bool)
    (bitmap : c.bitmap? = some b) : c.trueCount = .ok (c.truthSlots true) := by
  obtain ⟨-, n, -, length, -⟩ := h.exists_window
  obtain ⟨count, run, inv⟩ := foldPositions_inv
    (fun p (count : Int) => count = (List.range p).countP (c.isTruth true))
    (f := fun (count : Int) i => do
      if ← c.isValid i then
        let bit ← (c.memory 1).getBit (c.offset + i)
        return count + (if bit then 1 else 0)
      else return count)
    (n := n) (i := 0) (s := 0) rfl (by
      intro p count _ hp inv
      obtain ⟨v, u, valid, read, cell⟩ := h.exists_truth type (i := p) (by omega)
      refine ⟨_, ?_, rfl⟩
      rw [countP_isTruth_succ, isTruth_eq valid cell, Int.natCast_add, ← inv, valid]
      cases v with
      | false => exact congrArg _ (Int.add_zero count).symm
      | true =>
        rw [Checked.ok_bind, read]
        cases u <;> rfl)
  rw [trueCount, bitmap]
  change c.foldSlots _ 0 = _
  rw [foldSlots, length, Int.toNat_natCast, run, inv, Nat.zero_add, truthSlots, positions, length,
    Int.toNat_natCast]

/-- Without a bitmap every slot is valid, and the bits of the window are counted. -/
lemma Sound.trueCount_of_no_bitmap (h : c.Sound) (type : c.type = .bool)
    (fits : c.stop + 64 ≤ 2 ^ 63) (none : c.bitmap? = none) :
    c.trueCount = .ok (c.truthSlots true) := by
  obtain ⟨offset, n, first, length, -⟩ := h.exists_window
  have reach (pos : 0 < n) : offset + n ≤ 8 * (c.memory 1).size := by
    have values := h.shaped.values (by omega)
    simp only [type, DataType.layout, Layout.reach, stop] at values
    omega
  have counted : (c.memory 1).countSetBits offset n = .ok ((c.memory 1).ones offset n) := by
    unfold stop at fits
    rcases Nat.eq_zero_or_pos n with rfl | pos
    · exact Bytes.countSetBits_zero (by omega)
    · exact Bytes.countSetBits_eq (reach pos) (by omega)
  have ones : (c.memory 1).ones offset n = c.truthSlots true := by
    rw [Bytes.ones, truthSlots, positions, length, Int.toNat_natCast, List.range'_eq_map_range,
      List.countP_map]
    refine List.countP_congr fun i mem => ?_
    rw [List.mem_range] at mem
    have inside := reach (by omega)
    obtain ⟨v, u, valid, read, cell⟩ := h.exists_truth type (i := i) (by omega)
    have present : c.type ≠ .null := by
      rw [type]
      exact DataType.noConfusion
    cases valid.symm.trans (h.valid_of_no_bitmap present none (by omega))
    rw [first, ← Int.natCast_add, Bytes.getBit_eq (by omega)] at read
    cases read
    rw [isTruth_eq valid cell, Bool.true_and, beq_true, Function.comp_apply]
  rw [trueCount, none]
  simp only [first, length, counted, ones]
  rfl

/-- Both ways of counting come to the number of set slots. -/
lemma Sound.trueCount_eq (h : c.Sound) (type : c.type = .bool)
    (bare : c.hasBuffer = false → c.stop + 64 ≤ 2 ^ 63) :
    c.trueCount = .ok (c.truthSlots true) := by
  cases bitmap : c.bitmap? with
  | some b => exact h.trueCount_of_bitmap type bitmap
  | none =>
    refine h.trueCount_of_no_bitmap type ?_ bitmap
    cases buffers : c.hasBuffer with
    | true => exact h.fits.aligned buffers
    | false => exact bare buffers

/-- What is left of the length behind null slots and set slots are the clear slots. -/
lemma Sound.falseCount_eq (h : c.Sound) (type : c.type = .bool)
    (bare : c.hasBuffer = false → c.stop + 64 ≤ 2 ^ 63) :
    c.falseCount = .ok (c.truthSlots false) := by
  have total := h.truthSlots_add type
  have left : c.length - c.nullSlots - c.truthSlots true = (c.truthSlots false : Int) := by omega
  rw [falseCount, h.countNulls_eq, h.trueCount_eq type bare]
  simp only [Checked.ok_bind, left]
  rfl

end Counting

section Partition

/-- The counts of a boolean column are the numbers of its set, clear and null slots. None is more
than the length, and together they are the length. Columns that are equal have the same counts,
whether they have a bitmap and whatever the bits behind null slots are. The end of a window over no
buffers at all, which is empty, has to be a 64-bit number once it is rounded up to a whole word, as
soundness says of a window over buffers: `truths_not_counted` is a window where it is not. -/
theorem truths_partition (h : c.Sound) (type : c.type = .bool)
    (bare : c.hasBuffer = false → c.stop + 64 ≤ 2 ^ 63) :
    c.trueCount = .ok (c.truthSlots true) ∧ c.falseCount = .ok (c.truthSlots false) ∧
    c.countNulls = .ok c.nullSlots ∧
    (c.truthSlots true ≤ c.length ∧ c.truthSlots false ≤ c.length ∧ c.nullSlots ≤ c.length) ∧
    (c.truthSlots true + c.truthSlots false + c.nullSlots : Int) = c.length ∧
    ∀ (d : Column) (same : Bool), d.Sound → (d.hasBuffer = false → d.stop + 64 ≤ 2 ^ 63) →
      (same = true → c = d) → equals same c d = .ok true →
      d.trueCount = c.trueCount ∧ d.falseCount = c.falseCount ∧ d.countNulls = c.countNulls := by
  have total := h.truthSlots_add type
  refine ⟨h.trueCount_eq type bare, h.falseCount_eq type bare, h.countNulls_eq, by omega, total,
    fun d same hd bare' one equal => ?_⟩
  have plain : c.type.isDictionary = false := by rw [type]; rfl
  obtain ⟨type', slots⟩ := (h.equals_iff_sameSlots hd plain one).1 equal
  have bool := type'.symm.trans type
  rw [h.trueCount_eq type bare, h.falseCount_eq type bare, h.countNulls_eq,
    hd.trueCount_eq bool bare', hd.falseCount_eq bool bare', hd.countNulls_eq,
    slots.truthSlots, slots.truthSlots, slots.nullSlots]
  exact ⟨rfl, rfl, rfl⟩

/-- A window that has no nulls by its bitmap, against a column without a bitmap. -/
theorem truths_partition_window :
    let c : Column := ⟨.bool, 4, 3, -1, [some (.ofBytes #[0x78]), some (.ofBytes #[0x2f])], none⟩
    let d : Column := ⟨.bool, 4, 0, 0, [none, some (.ofBytes #[0x05])], none⟩
    c.Sound ∧ d.Sound ∧ equals false c d = .ok true ∧
      (c.truthSlots true + c.truthSlots false + c.nullSlots : Int) = 4 ∧ c.trueCount = .ok 2 ∧
      d.trueCount = c.trueCount ∧ d.falseCount = c.falseCount ∧ d.countNulls = c.countNulls := by
  intro c d
  have hc : c.Sound := by decide +kernel
  have hd : d.Sound := by decide +kernel
  have equal : equals false c d = .ok true := by decide +kernel
  obtain ⟨-, -, -, -, total, alike⟩ := truths_partition hc rfl fun bare => absurd bare (by decide)
  have counts := alike d false hd (fun bare => absurd bare (by decide))
    (fun one => absurd one Bool.false_ne_true) equal
  exact ⟨hc, hd, equal, total, by decide +kernel, counts⟩

/-- An empty window without buffers, close to the last 64-bit number, is sound and its set slots
cannot be counted: the first whole word behind its start has no 64-bit position. -/
theorem truths_not_counted :
    let c : Column := ⟨.bool, 0, 2 ^ 63 - 10, 0, [none, none], none⟩
    c.validate = .ok () ∧ c.Sound ∧ c.truthSlots true = 0 ∧ c.trueCount = .error .stray := by
  decide +kernel

end Partition

end Columnar.Column
