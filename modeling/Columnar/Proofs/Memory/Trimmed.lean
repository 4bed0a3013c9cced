import Mathlib.Tactic.Common
import Columnar.Bits.Count
import Columnar.Memory.Buffer
import Columnar.Proofs.Bytes

/-!
# Reads of less memory

A read of the first bytes of a memory goes astray or comes to the same as a read of all of it
(`Checked.Shadows`), and so does all that is put together from such reads. `Buffer.trimmed` is a
buffer without its padding.
-/

namespace Columnar

namespace Checked
variable {α β : Type}

/-- Whether a computation goes astray or comes to the same as another one. -/
def Shadows (x y : Checked α) : Prop := x = y ∨ x = .error .stray

namespace Shadows
variable {x y : Checked α}

lemma refl (x : Checked α) : x.Shadows x := .inl rfl

/-- What does not go astray is the same. -/
lemma eq (h : x.Shadows y) (found : x ≠ .error .stray) : x = y := h.resolve_right found

lemma eq_ok {a : α} (h : x.Shadows y) (found : x = .ok a) : y = .ok a := by
  rw [← h.eq (by rw [found]; nofun), found]

lemma bind {f g : α → Checked β} (h : x.Shadows y) (rest : ∀ a, (f a).Shadows (g a)) :
    (x >>= f).Shadows (y >>= g) := by
  rcases h with rfl | rfl
  · cases x with
    | error e => exact refl _
    | ok a => exact rest a
  · exact .inr rfl

lemma ite {c : Prop} [Decidable c] {x' y' : Checked α} (first : x.Shadows y)
    (second : x'.Shadows y') : (if c then x else x').Shadows (if c then y else y') := by
  split
  · exact first
  · exact second

lemma foldPositions {σ : Type} {f g : σ → Nat → Checked σ}
    (step : ∀ s i, (f s i).Shadows (g s i)) (n i : Nat) (s : σ) :
    (foldPositions f n i s).Shadows (Columnar.foldPositions g n i s) := by
  induction n generalizing i s with
  | zero => exact refl _
  | succ n ih => exact (step s i).bind fun t => ih (i + 1) t

end Shadows

end Checked

namespace Bytes
variable {a b : Bytes}

/-- Whether a memory is the beginning of another one. -/
def Begins (a b : Bytes) : Prop := ∃ rest, b = a ++ rest

namespace Begins

lemma read (h : a.Begins b) (i : Int) : (a.read i).Shadows (b.read i) := by
  obtain ⟨rest, rfl⟩ := h
  by_cases inside : 0 ≤ i ∧ i < a.size
  · obtain ⟨j, rfl⟩ := Int.eq_ofNat_of_zero_le inside.1
    have lt : j < a.size := Int.ofNat_lt.1 inside.2
    refine .inl ?_
    rw [read_eq lt, read_eq (by rw [Array.size_append]; omega), Array.getElem_append_left lt]
  · exact .inr (dif_neg inside)

lemma span (h : a.Begins b) (start n : Int) : (a.span start n).Shadows (b.span start n) := by
  obtain ⟨rest, rfl⟩ := h
  unfold Bytes.span
  split
  · exact .refl _
  · by_cases inside : 0 ≤ start ∧ 0 ≤ n ∧ start + n ≤ a.size
    · refine .inl ?_
      have none : rest.extract (start.toNat - a.size) ((start + n).toNat - a.size) = #[] :=
        Array.eq_empty_of_size_eq_zero (by rw [Array.size_extract]; omega)
      rw [if_pos inside, if_pos (by rw [Array.size_append]; omega), Array.extract_append, none,
        Array.append_empty]
    · exact .inr (if_neg inside)

lemma getBit (h : a.Begins b) (i : Int) : (a.getBit i).Shadows (b.getBit i) :=
  (h.read _).bind fun _ => .refl _

lemma word (h : a.Begins b) (start : Int) (width : Nat) :
    (a.word start width).Shadows (b.word start width) :=
  (h.span _ _).bind fun _ => .refl _

lemma integer (h : a.Begins b) (k : IntKind) (i : Int) :
    (a.integer k i).Shadows (b.integer k i) :=
  (h.word _ _).bind fun _ => .refl _

lemma countBits (h : a.Begins b) (start : Int) (n : Nat) :
    (a.countBits start n).Shadows (b.countBits start n) :=
  .foldPositions (fun _ _ => (h.getBit _).bind fun _ => .refl _) ..

lemma countWords (h : a.Begins b) (start : Int) (n : Nat) :
    (a.countWords start n).Shadows (b.countWords start n) :=
  .foldPositions (fun _ _ => (h.word _ _).bind fun _ => .refl _) ..

lemma countSetBits (h : a.Begins b) (offset length : Int) :
    (a.countSetBits offset length).Shadows (b.countSetBits offset length) :=
  (h.countBits _ _).bind fun _ => (h.countWords _ _).bind fun _ =>
    (h.countBits _ _).bind fun _ => .refl _

end Begins

end Bytes

namespace Buffer

/-- The buffer without its padding. -/
def trimmed (b : Buffer) : Buffer := .ofBytes b.bytes

lemma size_trimmed (b : Buffer) : b.trimmed.size = b.size := by
  change (b.memory.extract 0 b.size).size = b.size
  rw [Array.size_extract]
  have le := b.size_le
  omega

/-- The meaningful bytes are where the memory begins. -/
lemma begins_trimmed (b : Buffer) : b.trimmed.memory.Begins b.memory := by
  refine ⟨b.memory.extract b.size b.memory.size, ?_⟩
  change b.memory = b.memory.extract 0 b.size ++ b.memory.extract b.size b.memory.size
  rw [Array.extract_append_extract, Nat.min_eq_left (Nat.zero_le _),
    Nat.max_eq_right b.size_le, Array.extract_size]

end Buffer

end Columnar
