import Mathlib.Tactic.Common
import Columnar.Proofs.Column.Slice
import Columnar.Proofs.Gather.Congruence
import Columnar.Proofs.Gather.Failure
import Columnar.Proofs.Gather.Gathers

/-!
# Gathers are local

What a position of the indices names depends on that position only, so a window of the indices
gathers the same window of what they gather (`Gathers.window`). What it names in a window of the
values is what a moved index names in the values (`Gathers.shift`). Columns and their windows are
related by `Column.WindowOf`, indices that are moved by `Gather.Shifts`.
-/

namespace Columnar.Gather
open Column
variable {values values' indices indices' part : Column} {k k' : IntKind} {n p place : Nat}
  {s : Option Cell} {xs : List (Option Cell)} {pool : Pool}

/-- Whether indices name the slots that other ones name, moved by `a`, each in its own kind. -/
structure Shifts (indices indices' : Column) (k k' : IntKind) (a : Int) : Prop where
  length : indices'.length = indices.length
  bitmap : indices'.bitmap?.isSome = indices.bitmap?.isSome
  valid : ∀ p : Nat, p < indices.length → indices'.isValid p = indices.isValid p
  index : ∀ (p : Nat) v, p < indices.length → indices.isValid p = .ok true →
    indices.integer k p = .ok v → indices'.integer k' p = .ok (a + v)

section Checking

lemma room_mono {size size' : Int} (room : Buffer.room size = .ok ()) (le : size' ≤ size) :
    Buffer.room size' = .ok () :=
  Buffer.room_eq_ok.2 (Int.le_trans le (Buffer.room_eq_ok.1 room))

/-- What there is room for leaves room for less. -/
lemma checks_mono {t : DataType} {n' total total' : Nat}
    (passed : checks t n total (.ok ()) = .ok ()) (fewer : n' ≤ n) (less : total' ≤ total) :
    checks t n' total' (.ok ()) = .ok () := by
  unfold checks at passed ⊢
  cases layout : t.layout with
  | empty => rfl
  | bits => rfl
  | fixed w =>
    rw [layout] at passed
    obtain ⟨room, -⟩ := Checked.check_bind_eq_ok.1 passed
    have le : (n' : Int) * w ≤ n * w :=
      Int.mul_le_mul_of_nonneg_right (Int.ofNat_le.2 fewer) (Int.natCast_nonneg w)
    simp only [room_mono room le]
    rfl
  | strings w =>
    rw [layout] at passed
    obtain ⟨room, passed⟩ := Checked.check_bind_eq_ok.1 passed
    obtain ⟨fit, passed⟩ := Checked.check_bind_eq_ok.1 passed
    obtain ⟨-, data⟩ := Checked.check_bind_eq_ok.1 passed
    have le : ((n' : Int) + 1) * w.bytes ≤ (n + 1) * w.bytes :=
      Int.mul_le_mul_of_nonneg_right (by omega) (Int.natCast_nonneg _)
    have fit' : sizesFit t w total' = .ok () := by
      have max := le_of_sizesFit fit
      exact if_neg (by omega)
    simp only [room_mono room le, fit', room_mono data (Int.ofNat_le.2 less)]
    rfl

/-- Without a refusal a gather can want for room only. -/
lemma checks_cases (t : DataType) (n total : Nat) : checks t n total (.ok ()) = .ok () ∨
    ∃ f : Failure, f.report.code = .capacityError ∧
      checks t n total (.ok ()) = .error (.failure f) := by
  have room (size : Int) : Buffer.room size = .ok () ∨
      Buffer.room size = .error (.allocation (.bufferTooLarge size)) := by
    unfold Buffer.room
    split
    · exact .inr rfl
    · exact .inl rfl
  unfold checks
  cases t.layout with
  | empty => exact .inl rfl
  | bits => exact .inl rfl
  | fixed w =>
    rcases room (n * w) with room | room
    · simp only [room]
      exact .inl rfl
    · simp only [room]
      exact .inr ⟨_, rfl, rfl⟩
  | strings w =>
    rcases room ((n + 1) * w.bytes) with offsets | offsets
    · simp only [offsets, Checked.ok_bind]
      by_cases fit : (IntKind.int w).max < total
      · simp only [sizesFit, if_pos fit]
        exact .inr ⟨_, rfl, rfl⟩
      · simp only [sizesFit, if_neg fit, Checked.ok_bind]
        rcases room total with data | data
        · exact .inl data
        · exact .inr ⟨_, rfl, data⟩
    · simp only [offsets]
      exact .inr ⟨_, rfl, rfl⟩

lemma length_contents_window (t : DataType) (xs : List (Option Cell)) (o l : Nat) :
    (contents t ((xs.drop o).take l)).length ≤ (contents t xs).length := by
  have whole : xs = xs.take o ++ ((xs.drop o).take l ++ (xs.drop o).drop l) := by
    rw [List.take_append_drop, List.take_append_drop]
  conv_rhs => rw [whole]
  rw [contents_append, contents_append, List.length_append, List.length_append]
  omega

end Checking

section Slicing

/-- What a window of the indices names is what the indices name there. -/
lemma Names.window (h : Names values indices k (place + p) s) (window : part.WindowOf indices place)
    (hp : p < part.length) : Names values part k p s := by
  have valid := window.isValid p hp
  have integer := window.integer k p
  rw [← Int.natCast_add] at valid integer
  cases h with
  | null null => exact .null (valid.trans null)
  | slot valid' index named slot =>
    exact .slot (valid.trans valid') (integer.trans index) named slot

/-- A window of the indices gathers a window of what they gather. -/
lemma Gathers.window (h : Gathers values indices k xs) (window : part.WindowOf indices place) :
    Gathers values part k ((xs.drop place).take part.length.toNat) := by
  have inside := window.inside
  have nonneg := window.length_nonneg
  have total := h.length
  refine ⟨by rw [List.length_take, List.length_drop]; omega, fun p s here => ?_⟩
  obtain ⟨hp, there⟩ := getElem?_window here
  exact (h.names _ s there).window window (by omega)

/-- What is gathered is sound and has the slots that the indices name, if there is room for it. -/
lemma Gathers.reads (h : Gathers values indices k xs) (hv : values.Sound) (hi : indices.Sound)
    (index : indices.type = .int k) (gatherable : values.type.Gatherable)
    (length : indices.length = n)
    (passed : checks values.type n (contents values.type xs).length (.ok ()) = .ok ()) :
    (gathered values indices xs).Sound ∧ (gathered values indices xs).Reads xs := by
  obtain ⟨ending, selects⟩ := h.trace
  exact gathered_of_checks hv hi index gatherable length selects (by rw [ending]; exact passed)

/-- A window of the indices gathers a column that equals the same window of what they gather. -/
lemma take_slice {pool₁ : Pool} {out : Column} {o l : Int} (grants : pool.Grants)
    (hv : values.DeeplySound) (hi : indices.Sound)
    (run : ((take values indices).run pool₁).1 = .ok out) (lo : 0 ≤ o) (nonneg : 0 ≤ l)
    (inside : o + l ≤ indices.length) :
    ∃ i' s out', indices.slice o l = .ok i' ∧ out.slice o l = .ok s ∧
      ((take values i').run pool).1 = .ok out' ∧ ∀ same, Column.equals same out' s = .ok true := by
  obtain ⟨_, n, -, length, fits⟩ := hi.exists_window
  obtain ⟨k, xs, index, gatherable, gathers, passed, -, rfl⟩ :=
    gathers_of_run hv.sound.shaped.readable length (by omega) run
  obtain ⟨sound, reads⟩ := gathers.reads hv.sound hi index gatherable length passed
  obtain ⟨i', sliced⟩ := exists_slice indices o l (by omega)
  obtain ⟨s, cut⟩ := exists_slice (gathered values indices xs) o l (by
    rw [reads.length, ← gathers.length]
    omega)
  have width := length_of_slice sliced
  have width' := length_of_slice cut
  have window := hi.windowOf_of_slice lo nonneg sliced
  have shows := sound.windowOf_of_slice lo nonneg cut
  have picked := gathers.window window
  have fewer : ((xs.drop o.toNat).take i'.length.toNat).length ≤ n := by
    rw [← Int.ofNat_le, ← picked.length]
    omega
  have passed' := checks_mono passed fewer
    (length_contents_window values.type xs o.toNat i'.length.toNat)
  have run' := picked.run_eq_ok grants (window.type.trans index) gatherable hv.sound.encoded
    (by omega) passed'
  refine ⟨i', s, _, sliced, cut, run', fun same => ?_⟩
  -- Both columns have the slots of the window.
  obtain ⟨sound', left⟩ := picked.reads hv.sound (hi.slice lo nonneg sliced)
    (window.type.trans index) gatherable picked.length passed'
  have right := shows.reads reads
  rw [width', reads.length, ← gathers.length, ← width] at right
  exact equals_of_reads sound' ((deeplySound_gathered hv sound).slice lo nonneg cut)
    shows.type.symm left right fun _ => shows.dictionary.symm

end Slicing

section Shifting

/-- What indices name in a window is what the column has at their places in it. -/
lemma Names.shift (h : Names part indices k p s) (window : part.WindowOf values place)
    (shifts : Shifts indices indices' k k' place) (fits : values.length < 2 ^ 63)
    (hp : p < indices.length) : Names values indices' k' p s := by
  cases h with
  | null null => exact .null ((shifts.valid p hp).trans null)
  | @slot j s valid index named slot =>
    obtain ⟨-, hj⟩ := refusal_eq_none named
    have inside := window.inside
    refine .slot (j := place + j) ((shifts.valid p hp).trans valid)
      (shifts.index p j hp valid index) (refusal_of_inside (by omega) (by omega) fits) ?_
    rw [Int.natCast_add, ← window.slot hj]
    exact slot

lemma Gathers.shift (h : Gathers part indices k xs) (window : part.WindowOf values place)
    (shifts : Shifts indices indices' k k' place) (fits : values.length < 2 ^ 63) :
    Gathers values indices' k' xs := by
  refine ⟨shifts.length.trans h.length, fun p s here => ?_⟩
  have hp := (List.getElem?_eq_some_iff.1 here).1
  exact (h.names p s here).shift window shifts fits (by rw [h.length]; omega)

lemma gathered_shift (window : part.WindowOf values place)
    (shifts : Shifts indices indices' k k' place) :
    gathered part indices xs = gathered values indices' xs := by
  have bitmap : needsValidity part indices = needsValidity values indices' := by
    rw [needsValidity, needsValidity, window.bitmap?, shifts.bitmap]
  have shared : sharedDictionary part = sharedDictionary values := by
    rw [sharedDictionary, sharedDictionary, window.type, window.dictionary]
  rw [gathered, gathered, bitmap, shared, window.type]

/-- Indices that stay inside name something everywhere. -/
lemma exists_gathers (hv : values.Sound) (hi : indices.Sound) (index : indices.type = .int k)
    (inside : indices.KeysBelow k values.length) :
    ∃ xs, Gathers values indices k xs := by
  obtain ⟨_, n, -, length, -⟩ := hi.exists_window
  obtain ⟨_, m, -, many, fits⟩ := hv.exists_window
  obtain ⟨xs, whole, names⟩ := exists_list (n := n) (P := fun p s => Names values indices k p s)
    fun p hp => by
      obtain ⟨b, valid⟩ := hi.covered.exists_isValid (i := p) (by omega)
      cases b with
      | false => exact ⟨none, .null valid⟩
      | true =>
        obtain ⟨v, integer⟩ := hi.covered.exists_integer (layout_of_int index) (i := p) (by omega)
        obtain ⟨lo, lt⟩ := inside p v (by omega) valid integer
        obtain ⟨j, rfl⟩ := Int.eq_ofNat_of_zero_le lo
        obtain ⟨s, slot⟩ := hv.shaped.exists_slot lt
        exact ⟨s, .slot valid integer (refusal_of_inside lo lt (by omega)) slot⟩
  exact ⟨xs, by rw [length, whole], names⟩

/-- Gathering from a window is gathering from the column by indices that are moved as far as the
window. -/
lemma take_shift {pool' : Pool} (grants : pool.Grants) (grants' : pool'.Grants)
    (hv : values.Sound) (hp : part.Sound) (hi : indices.Sound) (index : indices.type = .int k)
    (index' : indices'.type = .int k') (window : part.WindowOf values place)
    (inside : indices.KeysBelow k part.length) (shifts : Shifts indices indices' k k' place) :
    ((take part indices).run pool).1 = ((take values indices').run pool').1 ∧
      (values.type.Gatherable → (∃ out, ((take part indices).run pool).1 = .ok out) ∨
        Checked.HasCode ((take part indices).run pool).1 .capacityError) := by
  by_cases gatherable : values.type.Gatherable
  · obtain ⟨_, n, -, length, fits⟩ := hi.exists_window
    obtain ⟨_, m, -, many, fits'⟩ := hv.exists_window
    obtain ⟨xs, gathers⟩ := exists_gathers hp hi index inside
    have total := gathers.length
    have run := gathers.result grants index (window.type ▸ gatherable) hp.encoded (by omega)
    have run' := (gathers.shift window shifts (by omega)).result grants' index' gatherable
      hv.encoded (by omega)
    rw [run, run', window.type, gathered_shift window shifts]
    refine ⟨rfl, fun _ => ?_⟩
    rcases checks_cases values.type xs.length (contents values.type xs).length with
      passed | ⟨f, code, failed⟩
    · rw [passed]
      exact .inl ⟨_, rfl⟩
    · rw [failed]
      exact .inr ⟨f, rfl, code⟩
  · rw [run_take_of_not_gatherable index (window.type ▸ gatherable),
      run_take_of_not_gatherable index' gatherable, window.type]
    exact ⟨rfl, fun supported => absurd supported gatherable⟩

end Shifting

/-- Gathers are local. A window of the indices gathers a column that equals the same window of what
all of them gather, and what is gathered from a window of the values is gathered, byte for byte,
from the values by indices that are moved as far as the window, or fails alike for want of room. -/
theorem take_local {pool' : Pool} (grants : pool.Grants) (grants' : pool'.Grants)
    (hv : values.DeeplySound) (hi : indices.Sound) :
    (∀ out (o l : Int), ((take values indices).run pool).1 = .ok out → 0 ≤ o → 0 ≤ l →
      o + l ≤ indices.length →
      ∃ i' s out', indices.slice o l = .ok i' ∧ out.slice o l = .ok s ∧
        ((take values i').run pool').1 = .ok out' ∧
        ∀ same, Column.equals same out' s = .ok true) ∧
    ∀ (a b : Int) k k' indices', 0 ≤ a → 0 ≤ b → a + b ≤ values.length →
      indices.type = .int k → indices'.type = .int k' → indices.KeysBelow k b →
      Shifts indices indices' k k' a →
      ∃ part, values.slice a b = .ok part ∧
        ((take part indices).run pool).1 = ((take values indices').run pool').1 ∧
        (values.type.Gatherable → (∃ out, ((take part indices).run pool).1 = .ok out) ∨
          Checked.HasCode ((take part indices).run pool).1 .capacityError) := by
  refine ⟨fun out o l run lo nonneg inside => take_slice grants' hv hi run lo nonneg inside,
    fun a b k k' indices' lo nonneg reach index index' inside shifts => ?_⟩
  obtain ⟨part, sliced⟩ := exists_slice values a b (by omega)
  have width := length_of_slice sliced
  have window := hv.sound.windowOf_of_slice lo nonneg sliced
  have whole : part.length = b := by omega
  rw [← Int.toNat_of_nonneg lo] at shifts
  exact ⟨part, sliced, take_shift grants grants' hv.sound (hv.sound.slice lo nonneg sliced) hi index
    index' window (whole ▸ inside) shifts⟩

/-- Strings behind a bitmap, gathered with a null of the indices. The last three indices are a
window of them, and the last three slots are a window of the values. -/
theorem take_local_window :
    let v := { Column.laidOut .string [some (.bytes #[97]), some (.bytes #[98, 99]), none,
      some (.bytes #[100])] true none with offset := 1, length := 3, nullCount := -1 }
    let i := Column.ofInts (.int .w8) [some 2, none, some 0, some 1]
    let j := Column.ofInts (.int .w8) [some 1, none, some 0]
    let j' := Column.ofInts (.uint .w16) [some 2, none, some 1]
    let out := Column.laidOut .string [some (.bytes #[100]), none, some (.bytes #[98, 99]), none]
      true none
    let pool : Pool := ⟨[], .generous, true, {}, fun _ => 0⟩
    pool.Grants ∧ v.DeeplySound ∧ i.Sound ∧ j.Sound ∧ ((take v i).run pool).1 = .ok out ∧
      (∃ i' s out', i.slice 1 3 = .ok i' ∧ out.slice 1 3 = .ok s ∧
        ((take v i').run pool).1 = .ok out' ∧ Column.equals false out' s = .ok true) ∧
      j.KeysBelow (.int .w8) 2 ∧ Shifts j j' (.int .w8) (.uint .w16) 1 ∧
      ∃ part, v.slice 1 2 = .ok part ∧
        ((take part j).run pool).1 = ((take v j').run pool).1 ∧
        ((take v j').run pool).1 =
          .ok (.laidOut .string [some (.bytes #[100]), none, none] true none) := by
  intro v i j j' out pool
  have hv : v.DeeplySound := .intro (by decide +kernel) nofun
  have grants : pool.Grants := fun _ _ => rfl
  have hi : i.Sound := by decide +kernel
  have hj : j.Sound := by decide +kernel
  have run : ((take v i).run pool).1 = .ok out := by decide +kernel
  have below : j.KeysBelow (.int .w8) 2 := Column.keysBelow_of_checkKeys (by decide +kernel)
  have valid : ∀ p < 3, j'.isValid (p : Nat) = j.isValid (p : Nat) := by decide +kernel
  have index : ∀ p < 3, j.isValid (p : Nat) = .ok true → j'.integer (.uint .w16) (p : Nat) =
      (j.integer (.int .w8) (p : Nat)).map (1 + ·) := by decide +kernel
  have shifts : Shifts j j' (.int .w8) (.uint .w16) 1 := by
    refine ⟨rfl, by decide +kernel, fun p hp => valid p (Int.ofNat_lt.1 hp),
      fun p v hp named integer => ?_⟩
    rw [index p (Int.ofNat_lt.1 hp) named, integer]
    rfl
  obtain ⟨i', s, out', sliced, cut, run', equal⟩ :=
    (take_local grants grants hv hi).1 out 1 3 run (by decide) (by decide) (by decide)
  obtain ⟨part, window, same, -⟩ := (take_local grants grants hv hj).2 1 2 (.int .w8) (.uint .w16)
    j' (by decide) (by decide) (by decide) rfl rfl below shifts
  exact ⟨grants, hv, hi, hj, run, ⟨i', s, out', sliced, cut, run', equal false⟩, below, shifts,
    part, window, same, by decide +kernel⟩

end Columnar.Gather
