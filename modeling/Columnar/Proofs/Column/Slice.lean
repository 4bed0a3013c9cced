import Mathlib.Tactic.Common
import Columnar.Column.Value
import Columnar.Proofs.Column.Equality

/-!
# What a slice reads

A slice is cut out of a column (`Column.Cut`): it has the type, the buffers and the dictionary of
the column, and a null count that follows from the stored one or is left unknown. If the stored null
count is unknown or right (`Column.Counted`) a window reads the slots of the column from its place
on, and its own null count is unknown or right again. The column need not pass validation for that:
what cannot be read in one of them cannot be read in the other. A slice of a sound column is a
window, as the sum of the offsets fits a word.
-/

namespace Columnar.Column
variable {c c' s : Column} {place i : Nat} {xs : List (Option Cell)}

/-- Whether the stored null count of a column is unknown or right. -/
def Counted (c : Column) : Prop := c.storedCount = unknownCount ∨ c.storedCount = c.nullSlots

instance : Decidable c.Counted := inferInstanceAs (Decidable (_ ∨ _))

/-- Whether the nulls of a column can be counted. A bitmap, where there is one, has to reach over
the window, whose end is a 64-bit number also when it is rounded up to a whole word of the
bitmap. -/
def Countable (c : Column) : Prop :=
  ∀ b, c.bitmap? = some b →
    0 ≤ c.offset ∧ c.stop ≤ 8 * b.memory.size ∧ c.stop + 64 ≤ 2 ^ 63

/-- What becomes of a column whose null count may have been counted and stored meanwhile. -/
inductive Fills (c : Column) : Column → Prop
  | kept : Fills c c
  | filled {n : Int} (counted : c.countNulls = .ok n) : Fills c (c.withNullCount n)

/-- Whether a column is cut out of another one, beginning at its slot `place`. -/
structure PartOf (s c : Column) (place : Nat) : Prop extends s.Within c place where
  type : s.type = c.type
  dictionary : s.dictionary = c.dictionary

/-- Whether a column has the valid slots of another one, beginning at its slot `place`, and no wrong
null count. -/
structure Shows (s c : Column) (place : Nat) : Prop where
  length_nonneg : 0 ≤ s.length
  inside : place + s.length ≤ c.length
  counted : s.Counted
  isValid : ∀ i : Nat, i < s.length → s.isValid i = c.isValid (place + i)

/-- Whether a column reads as another one does, beginning at its slot `place`. -/
structure WindowOf (s c : Column) (place : Nat) : Prop extends s.PartOf c place, s.Shows c place

section Nulls

lemma isValid_of_null (null : c.type = .null) (i : Int) : c.isValid i = .ok false :=
  isValid_of_slot (slot_of_null null i)

/-- There are as many nulls as slots where every slot is null. -/
lemma nullSlots_eq_length (nonneg : 0 ≤ c.length) : (c.nullSlots : Int) = c.length ↔
    ∀ i : Nat, i < c.length → c.isValid i = .ok false := by
  have all : c.nullSlots = c.length.toNat ↔ ∀ i ∈ c.positions, c.isValid i = .ok false := by
    have slots : c.positions.length = c.length.toNat := List.length_range
    rw [← slots, nullSlots, List.countP_eq_length]
    simp only [decide_eq_true_iff]
  rw [show (c.nullSlots : Int) = c.length ↔ c.nullSlots = c.length.toNat by omega, all]
  simp only [positions, List.mem_range]
  exact forall_congr' fun i => imp_congr_left (by omega)

/-- There are no nulls where no slot is null. -/
lemma nullSlots_eq_zero : c.nullSlots = 0 ↔
    ∀ i : Nat, i < c.length → c.isValid i ≠ .ok false := by
  rw [nullSlots, List.countP_eq_zero]
  simp only [positions, List.mem_range, decide_eq_true_iff]
  exact forall_congr' fun i => imp_congr_left (by omega)

/-- Columns with the same null slots have as many nulls. -/
lemma nullSlots_congr (length : c'.length = c.length)
    (null : ∀ i : Nat, i < c.length → (c'.isValid i = .ok false ↔ c.isValid i = .ok false)) :
    c'.nullSlots = c.nullSlots := by
  rw [nullSlots, nullSlots, positions, positions, length]
  refine List.countP_congr fun i mem => ?_
  rw [List.mem_range] at mem
  rw [decide_eq_true_iff, decide_eq_true_iff]
  exact null i (by omega)

end Nulls

section Counting

lemma Sound.countable (h : c.Sound) : c.Countable := by
  intro b found
  exact ⟨h.shaped.offset_nonneg, h.covered.bitmap b found,
    h.fits.aligned (hasBuffer_of_bitmap (buffer?_of_bitmap? found))⟩

lemma counted_of_null (null : c.type = .null) (nonneg : 0 ≤ c.length) : c.Counted := by
  right
  rw [storedCount, null, (nullSlots_eq_length nonneg).2 fun i _ => isValid_of_null null i]

/-- Without a bitmap, and not all null by its null count, a column has no nulls. -/
lemma nullSlots_of_no_bitmap (none : c.bitmap? = none) (some : c.storedCount ≠ c.length) :
    c.nullSlots = 0 := by
  refine nullSlots_eq_zero.2 fun i _ => ?_
  rw [isValid_of_no_bitmap none, bne_iff_ne.2 some]
  decide

/-- Counting comes to the number of null slots. -/
lemma Counted.countNulls_eq (counted : c.Counted) (countable : c.Countable)
    (nonneg : 0 ≤ c.length) : c.countNulls = .ok c.nullSlots := by
  unfold countNulls
  by_cases unknown : c.storedCount = unknownCount
  · have some : c.storedCount ≠ c.length := by
      rw [unknown, unknownCount]
      omega
    have stored : c.type ≠ .null := by
      intro null
      rw [storedCount, null] at some
      exact some rfl
    rw [if_neg (not_not.2 unknown), ← bitmap?_eq c stored]
    cases found : c.bitmap? with
    | none =>
      rw [nullSlots_of_no_bitmap found some]
      rfl
    | some b =>
      obtain ⟨start, reach, aligned⟩ := countable b found
      obtain ⟨o, offset⟩ := Int.eq_ofNat_of_zero_le start
      obtain ⟨n, length⟩ := Int.eq_ofNat_of_zero_le nonneg
      rw [stop, offset, length] at reach aligned
      have sum := nullSlots_add_ones found offset length (by omega)
      simp only [offset, length]
      rw [Bytes.countSetBits_eq (by omega) (by omega)]
      exact congrArg Except.ok (by omega)
  · rw [if_pos unknown, counted.resolve_left unknown]
    rfl

end Counting

/-- Of two columns, one within the other, the same slots are valid if their null counts agree on
whether everything is null. The null counts decide where there is no bitmap. -/
lemma Within.isValid_of_counts (h : c'.Within c place)
    (agree : c.bitmap? = none → c.type ≠ .null →
      (c'.storedCount = c'.length ↔ c.storedCount = c.length)) (i : Int) :
    c'.isValid i = c.isValid (place + i) := by
  cases found : c.bitmap? with
  | some b => rw [Column.isValid, Column.isValid, h.bitmap?, found, h.offset, Int.add_assoc]
  | none =>
    by_cases null : c.type = .null
    · rw [isValid_of_null null, isValid_of_null (h.null_iff.2 null)]
    · rw [isValid_of_no_bitmap found, isValid_of_no_bitmap (h.bitmap?.trans found)]
      exact congrArg Except.ok (Bool.eq_iff_iff.2 (by
        rw [bne_iff_ne, bne_iff_ne, ne_eq, ne_eq, agree found null]))

section Windows
variable {offset length : Int}

/-- What stands in a window of a list stands in the list, from the place of the window on. -/
lemma getElem?_window {α : Type} {as : List α} {a : α} {n p : Nat}
    (here : ((as.drop place).take n)[p]? = some a) : p < n ∧ as[place + p]? = some a := by
  rw [List.getElem?_take] at here
  split at here
  · next lt =>
    rw [List.getElem?_drop] at here
    exact ⟨lt, here⟩
  · cases here

lemma Fills.partOf (h : c.Fills c') (nonneg : 0 ≤ c.length) :
    c'.PartOf c 0 ∧ c'.length = c.length := by
  cases h with
  | kept => exact ⟨⟨within_of_window rfl rfl rfl rfl nonneg, rfl, rfl⟩, rfl⟩
  | filled => exact ⟨⟨within_of_window rfl rfl rfl rfl nonneg, rfl, rfl⟩, rfl⟩

/-- Storing the null count changes no slot. -/
lemma Fills.windowOf (h : c.Fills c') (counted : c.Counted) (countable : c.Countable)
    (nonneg : 0 ≤ c.length) : c'.WindowOf c 0 := by
  obtain ⟨part, length⟩ := h.partOf nonneg
  cases h with
  | kept =>
    refine ⟨part, counted, fun i _ => ?_⟩
    rw [Int.natCast_zero, Int.zero_add]
  | @filled n count =>
    cases (counted.countNulls_eq countable nonneg).symm.trans count
    have valid (i : Nat) (hi : i < c.length) :
        (c.withNullCount c.nullSlots).isValid i = c.isValid ((0 : Nat) + i) := by
      refine part.isValid_of_counts (fun none stored => ?_) i
      rw [storedCount_eq (c.withNullCount c.nullSlots) stored]
      change (c.nullSlots : Int) = c.length ↔ c.storedCount = c.length
      by_cases all : c.storedCount = c.length
      · rw [counted.resolve_left (by rw [all, unknownCount]; omega)]
      · rw [nullSlots_of_no_bitmap none all]
        exact iff_of_false (by omega) all
    refine ⟨part, ?_, valid⟩
    by_cases null : c.type = .null
    · exact counted_of_null (c := c.withNullCount c.nullSlots) null nonneg
    · right
      have same : (c.withNullCount c.nullSlots).nullSlots = c.nullSlots :=
        nullSlots_congr rfl fun i hi => by rw [valid i hi, Int.natCast_zero, Int.zero_add]
      rw [storedCount_eq (c.withNullCount c.nullSlots) null, same]
      rfl

/-- A slice has the valid slots of the column from its place on. -/
lemma Within.isValid_of_slice (h : s.Within c place) (counted : c.Counted)
    (count : s.nullCount = c.countOfWindow place s.length) (i : Nat) (hi : i < s.length) :
    s.isValid i = c.isValid (place + i) := by
  refine h.isValid_of_counts (fun none stored => ?_) i
  rw [storedCount_eq s (mt h.null_iff.1 stored), count, countOfWindow]
  by_cases all : c.storedCount = c.length
  · rw [if_pos all]
    exact iff_of_true rfl all
  · have zero := nullSlots_of_no_bitmap none all
    have left : c.storedCount = -1 ∨ c.storedCount = 0 := counted.imp_right fun right => by
      rw [right, zero]
      rfl
    rw [if_neg all]
    refine iff_of_false ?_ all
    split
    · omega
    · split
      · omega
      · rw [unknownCount]
        omega

/-- A slice has a null count that is unknown or right. -/
lemma Within.counted_of_slice (h : s.Within c place) (counted : c.Counted)
    (count : s.nullCount = c.countOfWindow place s.length) : s.Counted := by
  have inside := h.inside
  have nonneg := h.length_nonneg
  have valid (i : Nat) (hi : i < s.length) : s.isValid i = c.isValid (place + i : Nat) :=
    h.isValid_of_slice counted count i hi
  by_cases null : s.type = .null
  · exact counted_of_null null nonneg
  rw [Counted, storedCount_eq s null, count, countOfWindow]
  -- Nulls only, the whole column, no nulls, and any other window.
  split
  · next all =>
    right
    have nulls : (c.nullSlots : Int) = c.length := by
      rcases counted with unknown | right
      · rw [unknown, unknownCount] at all
        omega
      · rw [← right, all]
    refine ((nullSlots_eq_length nonneg).2 fun i hi => ?_).symm
    rw [valid i hi]
    exact (nullSlots_eq_length (by omega)).1 nulls _ (by omega)
  · split
    · next whole =>
      obtain ⟨start, whole⟩ := whole
      obtain rfl : place = 0 := by omega
      rw [nullSlots_congr (c := c) whole fun i hi => by rw [valid i (whole ▸ hi), Nat.zero_add]]
      exact counted
    · split
      · next none =>
        right
        have zero : c.nullSlots = 0 := by
          rcases counted with unknown | right
          · cases none.symm.trans unknown
          · omega
        rw [nullSlots_eq_zero.2 fun i hi => ?_]
        · rfl
        · rw [valid i hi]
          exact nullSlots_eq_zero.1 zero _ (by omega)
      · exact .inl rfl

lemma exists_slice (c : Column) (offset length : Int) (hi : offset ≤ c.length) :
    ∃ s, c.slice offset length = .ok s :=
  ⟨_, if_neg (Int.not_lt.2 hi)⟩

section Fields
variable (run : c.slice offset length = .ok s)
include run

lemma length_of_slice : s.length = min length (c.length - offset) := by
  rw [(slice_eq_ok.1 run).2]
  rfl

lemma offset_of_slice : s.offset = (IntKind.int .w64).wrap (c.offset + offset) := by
  rw [(slice_eq_ok.1 run).2]

lemma type_of_slice : s.type = c.type := by
  rw [(slice_eq_ok.1 run).2]
  rfl

lemma buffers_of_slice : s.buffers = c.buffers := by
  rw [(slice_eq_ok.1 run).2]
  rfl

lemma dictionary_of_slice : s.dictionary = c.dictionary := by
  rw [(slice_eq_ok.1 run).2]
  rfl

end Fields

lemma partOf_window (c : Column) (lo : 0 ≤ offset) (hi : offset ≤ c.length) (nonneg : 0 ≤ length) :
    (c.window offset length).PartOf c offset.toNat :=
  ⟨within_window c lo hi nonneg, rfl, rfl⟩

lemma windowOf_window (counted : c.Counted) (lo : 0 ≤ offset) (hi : offset ≤ c.length)
    (nonneg : 0 ≤ length) : (c.window offset length).WindowOf c offset.toNat := by
  have part := partOf_window c lo hi nonneg
  have count : (c.window offset length).nullCount =
      c.countOfWindow offset.toNat (c.window offset length).length := by
    rw [Int.toNat_of_nonneg lo]
    rfl
  exact ⟨part, part.counted_of_slice counted count, part.isValid_of_slice counted count⟩

/-- A slice of a sound column is a window of it. -/
lemma Sound.windowOf_of_slice (h : c.Sound) (lo : 0 ≤ offset) (nonneg : 0 ≤ length)
    (run : c.slice offset length = .ok s) : s.WindowOf c offset.toNat := by
  have hi := (slice_eq_ok.1 run).1
  rw [eq_window_of_slice (h.shaped.word_of_offset lo hi) run]
  exact windowOf_window h.counted lo hi nonneg

/-- A slice of a column that is sound with all its dictionaries is sound with all of them too. -/
lemma DeeplySound.slice (h : c.DeeplySound)
    (lo : 0 ≤ offset) (nonneg : 0 ≤ length) (run : c.slice offset length = .ok s) :
    s.DeeplySound := by
  have part := (h.sound.windowOf_of_slice lo nonneg run).toPartOf
  refine .intro (h.sound.slice lo nonneg run) fun encoded d found => ?_
  exact h.dictionary (part.type ▸ encoded) (part.dictionary.symm.trans found)

namespace PartOf

lemma value (h : s.PartOf c place) (i : Int) : s.value i = c.value (place + i) := by
  simp only [Column.value, Column.key, h.type, h.cell, h.integer]

lemma countable (h : s.PartOf c place) (countable : c.Countable) : s.Countable := by
  intro b found
  rw [h.bitmap?] at found
  obtain ⟨start, reach, aligned⟩ := countable b found
  have stop := h.stop_le
  have offset := h.offset
  omega

end PartOf

namespace Shows
variable {t : Column} {place' : Nat}

lemma trans (h : t.Shows s place') (h' : s.Shows c place) : t.Shows c (place + place') := by
  have inside := h.inside
  have inside' := h'.inside
  refine ⟨h.length_nonneg, by omega, h.counted, fun i hi => ?_⟩
  rw [h.isValid i hi, ← Int.natCast_add, h'.isValid _ (by omega), Int.natCast_add,
    Int.natCast_add, Int.add_assoc]

/-- Columns that show the same slots have as many nulls. -/
lemma nullSlots_eq (h : s.Shows c place) (h' : t.Shows c place) (same : s.length = t.length) :
    s.nullSlots = t.nullSlots :=
  nullSlots_congr same fun i hi => by rw [h.isValid i (same ▸ hi), h'.isValid i hi]

end Shows

namespace WindowOf

lemma slot (h : s.WindowOf c place) (hi : i < s.length) : s.slot i = c.slot (place + i) := by
  rw [Column.slot, Column.slot, h.isValid i hi, h.cell]

/-- A window reads a part of what the column reads. -/
lemma reads (h : s.WindowOf c place) (reads : c.Reads xs) :
    s.Reads ((xs.drop place).take s.length.toNat) := by
  have inside := h.inside
  have nonneg := h.length_nonneg
  have whole := reads.length
  refine ⟨by rw [List.length_take, List.length_drop]; omega, fun p x here => ?_⟩
  obtain ⟨hp, there⟩ := getElem?_window here
  rw [h.slot (by omega), ← Int.natCast_add]
  exact reads.slot _ x there

end WindowOf

end Windows

end Columnar.Column
