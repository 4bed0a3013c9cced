import Mathlib.Tactic.Common
import Columnar.Proofs.Column.Alike
import Columnar.Proofs.Column.Sound

/-!
# Slots of a column in a row

`Column.Reads` says what all slots of a column are. Sound columns have slots, which account for the
null count and, in a column of strings, for no more bytes than the data has
(`Reads.length_contents_le`).
-/

namespace Columnar

namespace Column

/-- Whether the slots of a column are these. -/
structure Reads (c : Column) (xs : List (Option Cell)) : Prop where
  length : c.length = xs.length
  slot : ∀ (p : Nat) s, xs[p]? = some s → c.slot p = .ok s

variable {c l r : Column} {i : Int} {xs ys : List (Option Cell)} {s : Option Cell}

lemma isValid_of_slot (h : c.slot i = .ok s) : c.isValid i = .ok s.isSome := by
  rcases slot_eq_ok.1 h with ⟨null, rfl⟩ | ⟨x, valid, -, rfl⟩
  · exact null
  · exact valid

lemma Alike.slot (h : l.Alike r) (i : Int) : l.slot i = r.slot i := by
  rw [Column.slot, Column.slot, h.isValid, h.cell]

/-- All slots of a null-typed column are null. -/
lemma slot_of_null (null : c.type = .null) (i : Int) : c.slot i = .ok none := by
  have none : c.bitmap? = none := by rw [bitmap?, null]
  have count := storedCount_of_null null
  refine slot_eq_ok.2 (.inl ⟨?_, rfl⟩)
  rw [isValid_of_no_bitmap none, count, bne_self_eq_false]

lemma Shaped.exists_slot {p : Nat} (h : c.Shaped) (hp : p < c.length) : ∃ s, c.slot p = .ok s := by
  by_cases null : c.type = .null
  · exact ⟨none, slot_of_null null p⟩
  · obtain ⟨v, valid⟩ := h.covered.exists_isValid hp
    obtain ⟨x, cell⟩ := h.exists_cell (mt layout_eq_empty.1 null) hp
    cases v with
    | false => exact ⟨none, slot_eq_ok.2 (.inl ⟨valid, rfl⟩)⟩
    | true => exact ⟨some x, slot_eq_ok.2 (.inr ⟨x, valid, cell, rfl⟩)⟩

lemma Shaped.exists_reads (h : c.Shaped) : ∃ xs, c.Reads xs := by
  obtain ⟨-, n, -, length, -⟩ := h.exists_window
  obtain ⟨xs, whole, slot⟩ := exists_list (n := n) (P := fun p s => c.slot p = .ok s)
    fun p hp => h.exists_slot (by omega)
  exact ⟨xs, by rw [length, whole], slot⟩

lemma Sound.exists_reads (h : c.Sound) : ∃ xs, c.Reads xs := h.shaped.exists_reads

namespace Reads

lemma unique (h : c.Reads xs) (h' : c.Reads ys) : xs = ys := by
  have length : xs.length = ys.length := Int.ofNat_inj.1 (h.length.symm.trans h'.length)
  refine List.ext_getElem length fun p hx hy => ?_
  have here := h.slot p _ (List.getElem?_eq_getElem hx)
  have here' := h'.slot p _ (List.getElem?_eq_getElem hy)
  exact Except.ok.inj (here.symm.trans here')

lemma nullSlots (h : c.Reads xs) : c.nullSlots = xs.countP Option.isNone := by
  have marks := nullSlots_eq (c := c) (xs.map Option.isSome) (by rw [h.length, List.length_map])
    fun p v here => by
      rw [List.getElem?_map] at here
      obtain ⟨s, found, rfl⟩ := Option.map_eq_some_iff.1 here
      exact isValid_of_slot (h.slot p s found)
  rw [marks, List.countP_map]
  exact List.countP_congr fun s _ => by cases s <;> simp

lemma of_null (h : c.Reads xs) (null : c.type = .null) : xs = List.replicate xs.length none := by
  refine List.eq_replicate_iff.2 ⟨rfl, fun s mem => ?_⟩
  obtain ⟨p, here⟩ := List.mem_iff_getElem?.1 mem
  exact Except.ok.inj ((h.slot p s here).symm.trans (slot_of_null null p))

lemma of_alike (h : c.Reads xs) (alike : l.Alike c) : l.Reads xs where
  length := alike.length.trans h.length
  slot p s here := (alike.slot p).trans (h.slot p s here)

/-- The cells of a column fit its layout. -/
lemma fits {x : Cell} (h : c.Reads xs) (mem : some x ∈ xs) : x.Fits c.type.layout := by
  obtain ⟨p, here⟩ := List.mem_iff_getElem?.1 mem
  rcases slot_eq_ok.1 (h.slot p _ here) with ⟨-, none⟩ | ⟨y, -, cell, some⟩
  · cases none
  · cases some
    exact fits_of_cell cell

/-- The strings before a slot are not longer than the offsets before it are apart. -/
lemma sum_sizes_le {w : Width} {first : Int} {m : Nat} (h : c.Reads xs) (shaped : c.Shaped)
    (layout : c.type.layout = .strings w) (start : c.stringOffset w 0 = .ok first)
    (hm : m ≤ xs.length) (some : xs ≠ []) : ∃ b, c.stringOffset w m = .ok b ∧
      first + (((sizes c.type xs).take m).sum : Nat) ≤ b := by
  have pos : 0 < c.length := by
    have := List.length_pos_iff.2 some
    rw [h.length]
    omega
  induction m with
  | zero => exact ⟨first, start, Int.le_of_eq (Int.add_zero _)⟩
  | succ m ih =>
    obtain ⟨a, read, le⟩ := ih (by omega)
    have hi : m < c.length := by
      rw [h.length]
      omega
    obtain ⟨a', n, read', next, length⟩ := shaped.covered.exists_stringLength layout hi
      (shaped.lengthFits layout hi)
    cases read.symm.trans read'
    refine ⟨a + n, next, ?_⟩
    have here := List.getElem?_eq_getElem (l := xs) hm
    rw [sum_take_sizes here]
    rcases slot_eq_ok.1 (h.slot m _ here) with ⟨-, null⟩ | ⟨x, -, cell, valid⟩
    · -- A null slot takes no bytes, but the offsets behind it may lie further on.
      have none : (Option.getD Option.none (Cell.cleared c.type.layout)).size = 0 := by
        rw [layout]
        rfl
      rw [null, none]
      omega
    · obtain ⟨-, bytes, -, length', -, rfl⟩ := string_of_cell layout cell
      have apart : (n : Int) = bytes.size := Except.ok.inj (length.symm.trans length')
      have whole : (Option.getD (Option.some (Cell.bytes bytes))
          (Cell.cleared c.type.layout)).size = bytes.size := Array.length_toList
      rw [valid, whole]
      omega

/-- The strings of a column are not longer than its data in all, and an offset can tell their total
length. -/
lemma length_contents_le {w : Width} (h : c.Reads xs) (sound : c.Sound)
    (layout : c.type.layout = .strings w) :
    ((contents c.type xs).length : Int) ≤ (IntKind.int w).max ∧
      (contents c.type xs).length ≤ ((c.buffer? 2).map Buffer.size).getD 0 := by
  rw [← sum_sizes]
  by_cases empty : xs = []
  · subst empty
    refine ⟨?_, Nat.zero_le _⟩
    change (0 : Int) ≤ _
    cases w <;> decide
  · have pos : 0 < c.length := by
      have some := List.length_pos_iff.2 empty
      rw [h.length]
      omega
    obtain ⟨-, reach⟩ := (passesLayout_strings layout).1 sound.shaped.layout
    obtain ⟨-, -, -, first, last, start, stop, lo, -, inside⟩ := reach.exists_buffer pos
    obtain ⟨b, read, le⟩ := h.sum_sizes_le sound.shaped layout start (Nat.le_refl _) empty
    rw [List.take_of_length_le (by rw [length_sizes])] at le
    rw [h.length] at stop
    cases read.symm.trans stop
    have holds := IntKind.holds_iff.1 (holds_of_integer (k := .int w) stop)
    omega

end Reads

end Column

end Columnar

