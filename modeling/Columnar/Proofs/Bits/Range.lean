import Mathlib.Tactic.Common
import Mathlib.Data.List.Basic
import Columnar.Bits.Range
import Columnar.Proofs.Bits.Bitmap

/-!
# Setting a range of bits is exact

A range is set by a few edits of whole bytes (`Bytes.edits`), which together cover its bits and no
others and touch no byte that holds none of them. Main statement: setting a range comes to the same
as setting its bits one at a time (`Bytes.setBits_exact`).
-/

namespace Columnar.Bytes
variable {b : Bytes} {v : Bool}

section Masks

lemma testBit_lowMask {k : Nat} (hk : k < 8) (m : Nat) :
    (lowMask k).toNat.testBit m = decide (m < k) := by
  have small : 2 ^ k < 2 ^ 8 := Nat.pow_lt_pow_right (by decide) hk
  rw [lowMask, Nat.mod_eq_of_lt hk, UInt8.toNat_ofNat', Nat.mod_eq_of_lt (by omega),
    Nat.testBit_two_pow_sub_one]

lemma testBit_uniform (v : Bool) {m : Nat} (hm : m < 8) :
    (uniform v).toNat.testBit m = v := by
  cases v with
  | false => exact Nat.zero_testBit m
  | true =>
    have ones : (uniform true).toNat = 2 ^ 8 - 1 := rfl
    rw [ones, Nat.testBit_two_pow_sub_one, decide_eq_true hm]

lemma testBit_not (byte : UInt8) {m : Nat} (hm : m < 8) :
    (~~~byte).toNat.testBit m = !byte.toNat.testBit m := by
  have flipped : (~~~byte).toNat = 2 ^ 8 - (byte.toNat + 1) := by
    have size : UInt8.size = 2 ^ 8 := rfl
    rw [UInt8.toNat_not, size]
    omega
  rw [flipped, Nat.testBit_two_pow_sub_succ byte.toNat_lt, decide_eq_true hm, Bool.true_and]

end Masks

lemma bit_toArray (bytes : List UInt8) (j : Nat) :
    bit bytes.toArray j = (bytes[j / 8]?.getD 0).toNat.testBit (j % 8) := by
  rw [bit, Array.getD_eq_getD_getElem?, List.getElem?_toArray]

section Painting

/-- Whether a computation makes the bits that are covered equal to `v`, and leaves all others and
the size of the bitmap as they are. -/
def Paints (x : Checked Bytes) (b : Bytes) (v : Bool) (covered : Nat → Prop) : Prop :=
  ∃ c, x = .ok c ∧ c.size = b.size ∧
    ∀ j, (covered j → c.bit j = v) ∧ (¬ covered j → c.bit j = b.bit j)

namespace Paints
variable {x y : Checked Bytes} {covered : Nat → Prop}

/-- What is painted is determined by what is covered. -/
lemma unique (h : Paints x b v covered) (h' : Paints y b v covered) : x = y := by
  obtain ⟨c, rfl, size, bits⟩ := h
  obtain ⟨c', rfl, size', bits'⟩ := h'
  have same : c = c' := by
    refine eq_of_bits (size.trans size'.symm) fun j => ?_
    by_cases hj : covered j
    · rw [(bits j).1 hj, (bits' j).1 hj]
    · rw [(bits j).2 hj, (bits' j).2 hj]
  rw [same]

lemma congr {other : Nat → Prop} (h : Paints x b v covered) (same : ∀ j, covered j ↔ other j) :
    Paints x b v other := by
  obtain ⟨c, run, size, bits⟩ := h
  refine ⟨c, run, size, fun j => ?_⟩
  rw [← same j]
  exact bits j

/-- Computations that paint one after the other cover what one of them covers. -/
lemma foldlM {α : Type} {f : Bytes → α → Checked Bytes} {covers : α → Nat → Prop} {xs : List α}
    (step : ∀ x ∈ xs, ∀ a : Bytes, a.size = b.size → Paints (f a x) a v (covers x)) :
    Paints (xs.foldlM f b) b v fun j => ∃ x ∈ xs, covers x j := by
  induction xs generalizing b with
  | nil =>
    refine ⟨b, rfl, rfl, fun j => ⟨?_, fun _ => rfl⟩⟩
    rintro ⟨x, mem, -⟩
    cases mem
  | cons x xs ih =>
    obtain ⟨c, run, size, bits⟩ := step x (List.mem_cons_self ..) b rfl
    obtain ⟨d, run', size', bits'⟩ := ih (b := c) fun y mem a eq =>
      step y (List.mem_cons_of_mem _ mem) a (eq.trans size)
    refine ⟨d, ?_, size'.trans size, fun j => ⟨?_, ?_⟩⟩
    · rw [List.foldlM_cons, run]
      exact run'
    · rintro ⟨y, mem, hj⟩
      by_cases later : ∃ z ∈ xs, covers z j
      · exact (bits' j).1 later
      · cases mem with
        | head => rw [(bits' j).2 later, (bits j).1 hj]
        | tail _ mem => exact absurd ⟨y, mem, hj⟩ later
    · intro none
      have first : ¬ covers x j := fun hj => none ⟨x, List.mem_cons_self .., hj⟩
      have later : ¬ ∃ z ∈ xs, covers z j := fun ⟨z, mem, hj⟩ =>
        none ⟨z, List.mem_cons_of_mem _ mem, hj⟩
      rw [(bits' j).2 later, (bits j).2 first]

end Paints

/-- Making one bit equal to another paints it. -/
lemma paints_setBitTo {i : Nat} (h : i < 8 * b.size) : Paints (b.setBitTo i v) b v (· = i) := by
  have byte : (i : Int) / 8 = (i / 8 : Nat) := by omega
  have place : ((i : Int) % 8).toNat = i % 8 := by omega
  obtain ⟨c, run, size, bits⟩ := modify_bits (b := b) (i := i / 8) (by omega)
    fun byte => byte ^^^ ((uniform v ^^^ byte) &&& bitMask (i % 8))
  refine ⟨c, ?_, size, fun j => ?_⟩
  · rw [setBitTo, byte, place]
    exact run
  · have low := Nat.mod_lt j (by decide : 8 > 0)
    have mask := testBit_bitMask (m := j % 8) (Nat.mod_lt i (by decide : 8 > 0))
    rw [bits j]
    by_cases same : j / 8 = i / 8
    · rw [if_pos same, UInt8.toNat_xor, UInt8.toNat_and, UInt8.toNat_xor, Nat.testBit_xor,
        Nat.testBit_and, Nat.testBit_xor, testBit_uniform v low, mask]
      have position : j % 8 = i % 8 ↔ j = i := by omega
      rw [bit_eq (by omega)]
      simp only [position, same]
      by_cases here : j = i
      · simp [here, Bool.xor_comm v]
      · simp [here]
    · rw [if_neg same]
      exact ⟨fun here => absurd (congrArg (· / 8) here) same, fun _ => rfl⟩

end Painting

/-- One access of setting a range: a byte of which some bits are kept, or bytes in a row that are
overwritten. -/
inductive Edit where
  | blend (i : Int) (kept : UInt8)
  | fill (i : Int) (n : Nat)

namespace Edit

/-- Carries an edit out. -/
def perform (v : Bool) : Edit → Bytes → Checked Bytes
  | blend i kept, b => b.blend i kept (uniform v)
  | fill i n, b => b.overwrite i (Bytes.fill n (uniform v))

/-- Whether an edit reads or writes byte `q`. -/
def Touches : Edit → Int → Prop
  | blend i _, q => q = i
  | fill i n, q => i ≤ q ∧ q < i + n

/-- Whether an edit sets bit `j`. -/
def Covers : Edit → Nat → Prop
  | blend i kept, j => (j / 8 : Nat) = i ∧ kept.toNat.testBit (j % 8) = false
  | fill i n, j => i ≤ (j / 8 : Nat) ∧ (j / 8 : Nat) < i + n

lemma paints_blend {i : Nat} (h : i < b.size) (kept : UInt8) :
    Paints (b.blend i kept (uniform v)) b v (blend i kept).Covers := by
  obtain ⟨c, run, size, bits⟩ := modify_bits h fun byte =>
    (byte &&& kept) ||| (uniform v &&& ~~~kept)
  refine ⟨c, run, size, fun j => ?_⟩
  have low := Nat.mod_lt j (by decide : 8 > 0)
  rw [bits j]
  by_cases same : j / 8 = i
  · rw [if_pos same, UInt8.toNat_or, UInt8.toNat_and, UInt8.toNat_and, Nat.testBit_or,
      Nat.testBit_and, Nat.testBit_and, testBit_uniform v low, testBit_not kept low,
      bit_eq (by omega)]
    simp only [Covers, same, true_and]
    cases kept.toNat.testBit (j % 8) <;> simp
  · rw [if_neg same]
    exact ⟨fun covered => absurd (Int.ofNat_inj.1 covered.1) same, fun _ => rfl⟩

lemma paints_fill {i n : Nat} (h : i + n ≤ b.size) :
    Paints (b.overwrite i (Bytes.fill n (uniform v))) b v (fill i n).Covers := by
  obtain ⟨before, part, after, split, rfl, rfl⟩ : ∃ before part after : List UInt8,
      b.toList = before ++ part ++ after ∧ before.length = i ∧ part.length = n := by
    refine ⟨b.toList.take i, (b.toList.drop i).take n, b.toList.drop (i + n), ?_, ?_, ?_⟩
    · rw [List.append_assoc, ← List.drop_drop, List.take_append_drop, List.take_append_drop]
    · rw [List.length_take, Array.length_toList]
      omega
    · rw [List.length_take, List.length_drop, Array.length_toList]
      omega
  have filled : part.length = (Bytes.fill part.length (uniform v)).size := Array.size_replicate.symm
  have run := overwrite_append split filled
  have entries : (Bytes.fill part.length (uniform v)).toList =
      List.replicate part.length (uniform v) := rfl
  rw [entries] at run
  refine ⟨_, run, ?_, fun j => ?_⟩
  · rw [size_of_toList split, List.size_toArray, List.length_append, List.length_append,
      List.length_replicate]
  · have low := Nat.mod_lt j (by decide : 8 > 0)
    have whole : b = (before ++ part ++ after).toArray := Array.toList_inj.1 split
    rw [whole, bit_toArray, bit_toArray]
    simp only [Covers, List.getElem?_append, List.length_append, List.length_replicate]
    constructor
    · rintro ⟨lo, hi⟩
      rw [if_pos (by omega), if_neg (by omega), List.getElem?_replicate, if_pos (by omega)]
      exact testBit_uniform v low
    · intro outside
      by_cases first : j / 8 < before.length
      · simp only [first, Nat.lt_add_right, if_true]
      · rw [if_neg (by omega), if_neg (by omega)]

/-- An edit that touches existing bytes only sets what it covers. -/
lemma paints_perform {e : Edit} (inside : ∀ q, e.Touches q → 0 ≤ q ∧ q < b.size) :
    Paints (e.perform v b) b v e.Covers := by
  cases e with
  | blend i kept =>
    obtain ⟨lo, hi⟩ := inside i rfl
    obtain ⟨i, rfl⟩ := Int.eq_ofNat_of_zero_le lo
    exact paints_blend (Int.ofNat_lt.1 hi) kept
  | fill i n =>
    cases n with
    | zero => exact ⟨b, rfl, rfl, fun j => ⟨fun ⟨lo, hi⟩ => by omega, fun _ => rfl⟩⟩
    | succ n =>
      obtain ⟨lo, -⟩ := inside i ⟨Int.le_refl i, by omega⟩
      obtain ⟨-, hi⟩ := inside (i + n) ⟨by omega, by omega⟩
      obtain ⟨i, rfl⟩ := Int.eq_ofNat_of_zero_le lo
      exact paints_fill (by omega)

/-- An edit goes astray exactly if it touches a byte that does not exist. -/
lemma exists_perform_iff {e : Edit} :
    (∃ c, e.perform v b = .ok c) ↔ ∀ q, e.Touches q → 0 ≤ q ∧ q < b.size := by
  constructor
  · rintro ⟨c, run⟩ q touches
    cases e with
    | blend i kept =>
      obtain ⟨byte, found, -⟩ := Checked.bind_eq_ok.1 run
      obtain rfl : q = i := touches
      unfold read at found
      split at found
      · next inside => exact inside
      · cases found
    | fill i n =>
      obtain ⟨lo, hi⟩ := touches
      have size : (Bytes.fill n (uniform v)).size = n := Array.size_replicate
      change overwrite b i (Bytes.fill n (uniform v)) = .ok c at run
      unfold overwrite at run
      rw [size, if_neg (by omega)] at run
      split at run
      · omega
      · cases run
  · intro inside
    obtain ⟨c, run, -⟩ := paints_perform (v := v) inside
    exact ⟨c, run⟩

end Edit

/-- The edits that set a range, in the order in which they are made. -/
def edits (start length : Int) : List Edit :=
  if length = 0 then []
  else
    let stop := start + length
    let first := start / 8
    let last := stop / 8
    let before := lowMask (start % 8).toNat
    let after := ~~~lowMask (stop % 8).toNat
    if last = first then [.blend first (if stop % 8 = 0 then before else before ||| after)]
    else
      .blend first before :: .fill (first + 1) (last - first - 1).toNat ::
        if stop % 8 = 0 then [] else [.blend last after]

/-- A range is set by its edits and by nothing else. -/
lemma setBits_eq_edits (b : Bytes) (start length : Int) (v : Bool) :
    b.setBits start length v = (edits start length).foldlM (fun a e => e.perform v a) b := by
  unfold setBits edits
  split
  · rfl
  · simp only
    split
    · simp only [List.foldlM_cons, List.foldlM_nil, Edit.perform, bind_pure]
    · split
      · simp only [List.foldlM_cons, List.foldlM_nil, Edit.perform]
      · simp only [List.foldlM_cons, List.foldlM_nil, Edit.perform, bind_pure]

section Range
variable {start length : Nat}

/-- The edits touch the bytes that hold a bit of the range, and no other byte. -/
lemma touches_edits {e : Edit} (mem : e ∈ edits start length) {q : Int} (touches : e.Touches q) :
    (start / 8 : Nat) ≤ q ∧ q < ((start + length + 7) / 8 : Nat) := by
  unfold edits at mem
  split at mem
  · cases mem
  · next some =>
    simp only at mem
    split at mem
    · obtain rfl := List.mem_singleton.1 mem
      obtain rfl : q = _ := touches
      omega
    · next apart =>
      rcases List.mem_cons.1 mem with rfl | mem
      · obtain rfl : q = _ := touches
        omega
      rcases List.mem_cons.1 mem with rfl | mem
      · obtain ⟨lo, hi⟩ := touches
        omega
      · split at mem
        · cases mem
        · obtain rfl := List.mem_singleton.1 mem
          obtain rfl : q = _ := touches
          omega

/-- The edits set the bits of the range and no others. -/
lemma covers_edits (j : Nat) :
    (∃ e ∈ edits start length, e.Covers j) ↔ start ≤ j ∧ j < start + length := by
  have low := Nat.mod_lt j (by decide : 8 > 0)
  have before : (lowMask ((start : Int) % 8).toNat).toNat.testBit (j % 8) =
      decide (j % 8 < start % 8) := by
    have place : ((start : Int) % 8).toNat = start % 8 := by omega
    rw [place, testBit_lowMask (Nat.mod_lt _ (by decide))]
  have after : (~~~lowMask (((start : Int) + length) % 8).toNat).toNat.testBit (j % 8) =
      !decide (j % 8 < (start + length) % 8) := by
    have place : (((start : Int) + length) % 8).toNat = (start + length) % 8 := by omega
    rw [place, testBit_not _ low, testBit_lowMask (Nat.mod_lt _ (by decide))]
  unfold edits
  split
  · next none =>
    simp only [List.not_mem_nil, false_and, exists_false, false_iff]
    omega
  · next some =>
    simp only
    split
    · next one =>
      simp only [List.mem_singleton, exists_eq_left, Edit.Covers]
      split
      · omega
      · rw [UInt8.toNat_or, Nat.testBit_or, before, after, Bool.or_eq_false_iff,
          Bool.not_eq_false', decide_eq_false_iff_not, decide_eq_true_iff]
        omega
    · next apart =>
      rw [List.exists_mem_cons_iff, List.exists_mem_cons_iff]
      simp only [Edit.Covers, before, decide_eq_false_iff_not]
      split
      · simp only [List.not_mem_nil, false_and, exists_false, or_false]
        omega
      · simp only [List.mem_singleton, exists_eq_left, after, Bool.not_eq_false',
          decide_eq_true_iff]
        omega

/-- Setting a range comes to the same as setting its bits one at a time: the bits of the range are
as asked for and all others as before. It is done by edits that touch only bytes with a bit of the
range, where touching a byte means to go astray without it. -/
theorem setBits_exact (v : Bool) (inside : start + length ≤ 8 * b.size) :
    ∃ c, b.setBits start length v = .ok c ∧
      (List.range' start length).foldlM (fun a (p : Nat) => a.setBitTo p v) b = .ok c ∧
      c.size = b.size ∧
      (∀ p : Nat, p < 8 * b.size →
        c.getBit p = if start ≤ p ∧ p < start + length then .ok v else b.getBit p) ∧
      (∀ a : Bytes, a.setBits start length v =
        (edits start length).foldlM (fun a e => e.perform v a) a) ∧
      (∀ (e : Edit) (a : Bytes),
        (∃ c, e.perform v a = .ok c) ↔ ∀ q, e.Touches q → 0 ≤ q ∧ q < a.size) ∧
      ∀ e ∈ edits start length, ∀ q, e.Touches q →
        (start / 8 : Nat) ≤ q ∧ q < ((start + length + 7) / 8 : Nat) := by
  have range : Paints (b.setBits start length v) b v fun j => start ≤ j ∧ j < start + length := by
    rw [setBits_eq_edits]
    refine Paints.congr (Paints.foldlM fun e mem a size =>
      Edit.paints_perform fun q touches => ?_) covers_edits
    have reach := touches_edits mem touches
    omega
  have bits : Paints ((List.range' start length).foldlM (fun a (p : Nat) => a.setBitTo p v) b) b v
      fun j => start ≤ j ∧ j < start + length := by
    have each : ∀ p ∈ List.range' start length, ∀ a : Bytes, a.size = b.size →
        Paints (a.setBitTo p v) a v (· = p) := by
      intro p mem a size
      have reach := List.mem_range'_1.1 mem
      exact paints_setBitTo (by omega)
    refine (Paints.foldlM each).congr fun j => ?_
    simp only [exists_eq_right', List.mem_range'_1]
  obtain ⟨c, run, size, painted⟩ := range
  refine ⟨c, run, ?_, size, fun p hp => ?_, fun a => setBits_eq_edits a ..,
    fun e a => Edit.exists_perform_iff, fun e mem q => touches_edits mem⟩
  · rw [← run]
    exact bits.unique ⟨c, run, size, painted⟩
  · rw [getBit_eq (by omega), getBit_eq hp]
    by_cases here : start ≤ p ∧ p < start + length
    · rw [if_pos here, (painted p).1 here]
    · rw [if_neg here, (painted p).2 here]

/-- A range that ends with a byte does not touch the next one, which need not exist. -/
theorem setBits_exact_boundary : 3 + 13 ≤ 8 * (Array.size #[0xFF, 0x0F] : Nat) ∧
    ∃ c, setBits #[0xFF, 0x0F] 3 13 false = .ok c ∧ c = #[0x07, 0x00] ∧
      (List.range' 3 13).foldlM (fun a (p : Nat) => setBitTo a p false) #[0xFF, 0x0F] = .ok c ∧
      ∀ e ∈ edits 3 13, ∀ q, e.Touches q → 0 ≤ q ∧ q < 2 := by
  have inside : 3 + 13 ≤ 8 * (Array.size (#[0xFF, 0x0F] : Bytes) : Nat) := by decide
  obtain ⟨c, run, bits, -, -, -, -, touches⟩ := setBits_exact false inside
  have made : setBits #[0xFF, 0x0F] 3 13 false = .ok #[0x07, 0x00] := by decide +kernel
  have same : c = #[0x07, 0x00] := Except.ok.inj (run.symm.trans made)
  exact ⟨inside, c, run, same, bits, touches⟩

end Range

end Columnar.Bytes
