import Mathlib.Tactic.Common
import Columnar.Bytes
import Columnar.Proofs.Checked
import Columnar.Proofs.IntKind

/-!
# Reads, writes and encodings of bytes

Spans and overwritten ranges are described through the list of bytes: a span is a part of it, and
overwriting replaces a middle part by one of the same length. An integer that its kind holds is read
back from the bytes that spell it.
-/

namespace Columnar

namespace Bytes
variable {b : Bytes} {i start n : Nat}

lemma read_eq (h : i < b.size) : b.read i = .ok b[i] := by
  have inside : (0 : Int) ≤ i ∧ (i : Int) < b.size := by omega
  rw [read, dif_pos inside]
  rfl

lemma modify_eq {f : UInt8 → UInt8} (h : i < b.size) : b.modify i f = .ok (b.set i (f b[i])) := by
  have inside : (0 : Int) ≤ i ∧ (i : Int) < b.size := by omega
  rw [modify, read_eq h, Checked.ok_bind, write, dif_pos inside]
  rfl

/-- A span inside is a part of the bytes. -/
lemma span_eq (h : start + n ≤ b.size) : b.span start n = .ok (b.extract start (start + n)) := by
  unfold span
  by_cases zero : n = 0
  · subst zero
    have none : b.extract start start = #[] := Array.eq_empty_of_size_eq_zero (by
      rw [Array.size_extract]
      omega)
    rw [if_pos (by rfl), Nat.add_zero, none]
    rfl
  · rw [if_neg (by omega), if_pos (by omega)]
    rfl

lemma size_of_span {s m : Int} {c : Bytes} (h : b.span s m = .ok c) : (c.size : Int) = m := by
  unfold span at h
  split at h
  · next zero =>
    cases h
    simp [zero]
  · split at h
    · cases h
      simp only [Array.size_extract]
      omega
    · cases h

/-- Nothing can be read from no bytes. -/
lemma span_empty (s : Int) (h : 0 < n) : span #[] s n = .error .stray := by
  have size : (#[] : Bytes).size = 0 := rfl
  unfold span
  rw [if_neg (by omega), if_neg (by rw [size]; omega)]
  rfl

lemma eq_stray_of_span {s m : Int} {e : Fault} (h : b.span s m = .error e) : e = .stray := by
  unfold span at h
  split at h
  · cases h
  · split at h
    · cases h
    · cases h
      rfl

lemma eq_stray_of_overwrite {s : Int} {new : Bytes} {e : Fault}
    (h : b.overwrite s new = .error e) : e = .stray := by
  unfold overwrite at h
  split at h
  · cases h
  · split at h
    · cases h
    · cases h
      rfl

lemma eq_stray_of_integer {k : IntKind} {s : Int} {e : Fault} (h : b.integer k s = .error e) :
    e = .stray := by
  unfold integer word at h
  simp only [Checked.bind_eq_error, Checked.pure_eq_ok, reduceCtorEq, and_false, exists_false,
    or_false] at h
  exact eq_stray_of_span h

lemma size_of_toList {before part after : List UInt8} (e : b.toList = before ++ part ++ after) :
    b.size = before.length + part.length + after.length := by
  rw [← Array.length_toList, e, List.length_append, List.length_append]

/-- What follows other bytes is read at their number. -/
lemma span_append {before part after : List UInt8} (e : b.toList = before ++ part ++ after) :
    b.span before.length part.length = .ok part.toArray := by
  rw [span_eq (by have := size_of_toList e; omega)]
  congr 1
  apply Array.toList_inj.1
  rw [Array.toList_extract, e]
  simp [List.extract_eq_take_drop]

lemma toList_putAll (xs : List UInt8) {before part after : List UInt8}
    (e : b.toList = before ++ part ++ after) (len : part.length = xs.length) :
    (b.putAll before.length xs).toList = before ++ xs ++ after := by
  induction xs generalizing b before part with
  | nil =>
    rw [List.length_nil, List.length_eq_zero_iff] at len
    rw [putAll, e, len]
  | cons x xs ih =>
    cases part with
    | nil => cases len
    | cons y part =>
      have step : (b.setIfInBounds before.length x).toList = (before ++ [x]) ++ part ++ after := by
        rw [Array.toList_setIfInBounds, e]
        simp
      have rest := ih step (Nat.succ.inj len)
      rw [List.length_append, List.length_singleton] at rest
      rw [putAll, rest]
      simp

/-- Overwriting replaces a part by one of the same length. -/
lemma overwrite_append {new : Bytes} {before part after : List UInt8}
    (e : b.toList = before ++ part ++ after) (len : part.length = new.size) :
    b.overwrite before.length new = .ok (before ++ new.toList ++ after).toArray := by
  have size := size_of_toList e
  unfold overwrite
  by_cases zero : new.size = 0
  · have nothing : part = [] := List.eq_nil_of_length_eq_zero (by omega)
    have empty : new.toList = [] := List.eq_nil_of_length_eq_zero (by simpa using zero)
    rw [if_pos zero, empty, ← nothing, ← e]
    rfl
  · rw [if_neg zero, if_pos (by omega), Int.toNat_natCast]
    congr 1
    apply Array.toList_inj.1
    exact toList_putAll _ e (by simpa using len)

/-- New bytes behind what is done take the place of old ones, whose rest stays. -/
lemma overwrite_drop (done old : List UInt8) (new : Bytes)
    (room : done.length + new.size ≤ old.length) :
    overwrite (done ++ old.drop done.length).toArray done.length new =
      .ok ((done ++ new.toList) ++ old.drop (done ++ new.toList).length).toArray := by
  have split : (done ++ old.drop done.length) =
      done ++ (old.drop done.length).take new.size ++ old.drop (done.length + new.size) := by
    rw [List.append_assoc, ← List.drop_drop, List.take_append_drop]
  have length : ((old.drop done.length).take new.size).length = new.size := by
    rw [List.length_take, List.length_drop]
    omega
  have size : new.toList.length = new.size := Array.length_toList
  rw [overwrite_append split length, List.length_append, size]

section Blocks
variable {α : Type} {f : α → List UInt8} {w : Nat} {xs : List α}

/-- Blocks of one length in a row. -/
lemma length_flatMap_of_uniform (uniform : ∀ x ∈ xs, (f x).length = w) :
    (xs.flatMap f).length = xs.length * w := by
  induction xs with
  | nil => simp
  | cons x xs ih =>
    rw [List.flatMap_cons, List.length_append, uniform x (by simp),
      ih fun y hy => uniform y (by simp [hy]), List.length_cons, Nat.succ_mul, Nat.add_comm]

/-- A block among blocks in a row stands behind those before it. -/
lemma exists_flatMap_eq {i : Nat} {x : α} (hx : xs[i]? = some x) :
    ∃ before after, xs.flatMap f = before ++ f x ++ after ∧ before = (xs.take i).flatMap f := by
  obtain ⟨hi, rfl⟩ := List.getElem?_eq_some_iff.1 hx
  refine ⟨_, (xs.drop (i + 1)).flatMap f, ?_, rfl⟩
  rw [List.append_assoc, ← List.flatMap_cons, ← List.drop_eq_getElem_cons hi, ← List.flatMap_append,
    List.take_append_drop]

/-- A block is read at its number if all have one length. -/
lemma span_flatMap {i : Nat} {x : α} {tail : List UInt8} (hx : xs[i]? = some x)
    (uniform : ∀ x ∈ xs, (f x).length = w) (e : b.toList = xs.flatMap f ++ tail) :
    b.span (i * w) w = .ok (f x).toArray := by
  obtain ⟨hi, rfl⟩ := List.getElem?_eq_some_iff.1 hx
  obtain ⟨before, after, split, first⟩ := exists_flatMap_eq (f := f) hx
  have len : before.length = i * w := by
    rw [first, length_flatMap_of_uniform fun y hy => uniform y (List.mem_of_mem_take hy),
      List.length_take, Nat.min_eq_left (Nat.le_of_lt hi)]
  have whole : b.toList = before ++ f xs[i] ++ (after ++ tail) := by
    rw [e, split, List.append_assoc _ after]
  have read := span_append whole
  rw [len, uniform _ (List.getElem_mem hi), Int.natCast_mul] at read
  exact read

end Blocks

section Integers
variable {k : IntKind} {v : Int}

@[simp] lemma length_ofNat (w m : Nat) : (ofNat w m).length = w := by
  induction w generalizing m with
  | zero => rfl
  | succ w ih => rw [ofNat, List.length_cons, ih]

@[simp] lemma size_ofInt (w : Nat) (v : Int) : (ofInt w v).size = w := by
  simp [ofInt]

/-- The bytes of a number spell it, as far as they reach. -/
lemma toNat_ofNat (w m : Nat) : toNat (ofNat w m) = m % 256 ^ w := by
  induction w generalizing m with
  | zero => simp [ofNat, toNat, Nat.mod_one]
  | succ w ih =>
    have low : (UInt8.ofNat (m % 256)).toNat = m % 256 := by
      rw [UInt8.toNat_ofNat']
      omega
    have spelled : toNat (ofNat (w + 1) m) = m % 256 + 256 * toNat (ofNat w (m / 256)) := by
      rw [ofNat, toNat, List.foldr_cons, low]
      rfl
    rw [spelled, ih, Nat.pow_succ', Nat.mod_mul]

/-- The bytes of an integer spell it in two's complement. -/
lemma toNat_ofInt (w : Nat) (v : Int) : (toNat (ofInt w v).toList : Int) = v % (256 ^ w : Nat) := by
  have pos : 0 < 256 ^ w := Nat.pow_pos (by decide)
  have cast : (256 : Int) ^ w = (256 ^ w : Nat) := (Int.natCast_pow 256 w).symm
  have lo := Int.emod_nonneg v (by omega : ((256 ^ w : Nat) : Int) ≠ 0)
  have hi := Int.emod_lt_of_pos v (by omega : (0 : Int) < (256 ^ w : Nat))
  rw [ofInt, List.toList_toArray, toNat_ofNat, cast, Nat.mod_eq_of_lt (by omega)]
  exact Int.toNat_of_nonneg lo

/-- The bytes of an integer that the kind holds stand for it. -/
lemma decode_ofInt (h : k.holds v = true) :
    k.decode (toNat (ofInt k.width.bytes v).toList) = v := by
  rw [IntKind.decode, toNat_ofInt, ← IntKind.card_eq, IntKind.wrap_emod, IntKind.wrap_of_holds h]

/-- An integer is read from the bytes at its place. -/
lemma integer_of_span {i : Int} {bytes : Bytes}
    (h : b.span (i * k.width.bytes) k.width.bytes = .ok bytes) :
    b.integer k i = .ok (k.decode (toNat bytes.toList)) := by
  rw [integer, word, h]
  rfl

lemma holds_of_integer {i : Int} (h : b.integer k i = .ok v) : k.holds v = true := by
  unfold integer at h
  obtain ⟨w, -, e⟩ := Checked.bind_eq_ok.1 h
  cases e
  exact IntKind.holds_wrap k w

lemma toNat_cons (x : UInt8) (xs : List UInt8) : toNat (x :: xs) = x.toNat + 256 * toNat xs := rfl

lemma toNat_lt (xs : List UInt8) : toNat xs < 256 ^ xs.length := by
  induction xs with
  | nil => decide
  | cons x xs ih =>
    have byte := x.toNat_lt
    rw [toNat_cons, List.length_cons, Nat.pow_succ]
    omega

/-- Bytes are those that spell the number that they spell. -/
lemma ofNat_toNat (xs : List UInt8) : ofNat xs.length (toNat xs) = xs := by
  induction xs with
  | nil => rfl
  | cons x xs ih =>
    have byte := x.toNat_lt
    have low : (x.toNat + 256 * toNat xs) % 256 = x.toNat := by omega
    have high : (x.toNat + 256 * toNat xs) / 256 = toNat xs := by omega
    rw [List.length_cons, toNat_cons, ofNat, low, high, ih, UInt8.ofNat_toNat]

/-- Bytes stand in two's complement for any integer that is the number they spell, modulo as many
numbers as they can spell. -/
lemma ofInt_of_emod (h : v % (256 ^ b.size : Nat) = toNat b.toList) : ofInt b.size v = b := by
  have cast : (256 : Int) ^ b.size = (256 ^ b.size : Nat) := (Int.natCast_pow 256 b.size).symm
  have spelled := ofNat_toNat b.toList
  rw [Array.length_toList] at spelled
  rw [ofInt, cast, h, Int.toNat_natCast, spelled]

/-- Bytes as wide as a kind stand for the integer that they are decoded to. -/
lemma ofInt_decode (size : b.size = k.width.bytes) :
    ofInt k.width.bytes (k.decode (toNat b.toList)) = b := by
  have small := toNat_lt b.toList
  rw [Array.length_toList] at small
  rw [← size]
  refine ofInt_of_emod ?_
  rw [size, ← IntKind.card_eq, IntKind.decode, IntKind.emod_wrap, IntKind.card_eq, ← size]
  exact Int.emod_eq_of_lt (by omega) (by omega)

end Integers

end Bytes

end Columnar
