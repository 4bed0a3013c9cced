import Mathlib.Tactic.Common
import Columnar.Proofs.Column.WellFormed
import Columnar.Proofs.Gather.Picked

/-!
# What a gather makes is well-formed

A gather that ends well has laid out a sound column. The keys of a dictionary column that it picks
are keys of its values, so they still name values of the dictionary that is shared.
-/

namespace Columnar.Gather
variable {values indices out : Column} {k kind : IntKind} {xs : List (Option Cell)}

/-- The dictionary of dictionary-encoded values is shared. -/
lemma dictionary_gathered (encoded : values.type.isDictionary = true) :
    (gathered values indices xs).dictionary = values.dictionary := if_pos encoded

lemma validateDictionary_gathered (sound : values.Sound) :
    (gathered values indices xs).validateDictionary = .ok () := by
  have validated := sound.shaped.validateDictionary
  unfold Column.validateDictionary at validated ⊢
  have typed : (gathered values indices xs).type = values.type := rfl
  have shared : (gathered values indices xs).dictionary = sharedDictionary values := rfl
  rw [typed, shared]
  cases e : values.type with
  | dictionary kind value ordered =>
    rw [e] at validated
    have same : sharedDictionary values = values.dictionary := if_pos (by rw [e]; rfl)
    rw [same]
    exact validated
  | _ => rfl

/-- Keys that are picked name values of the dictionary. -/
lemma keysBelow_gathered {value : DataType} {ordered : Bool} {n : Int}
    (type : values.type = .dictionary kind value ordered) (keys : values.KeysBelow kind n)
    (selects : Visit.Selects values 0 (trace values indices k).visits xs)
    (holds : Column.Holds values.type xs (needsValidity values indices)) :
    (gathered values indices xs).KeysBelow kind n := by
  have layout : values.type.layout = .fixed kind.width.bytes := by
    rw [type]
    rfl
  intro p v hp valid integer
  have here := List.getElem?_eq_getElem (l := xs) (Int.ofNat_lt.1 hp)
  rw [gathered, Column.isValid_laidOut holds here] at valid
  have cell := Column.cell_laidOut (d := sharedDictionary values) holds here
  rcases selects.getElem? here with ⟨j, x, visited, read, picked⟩ | ⟨-, null⟩
  · rw [picked] at cell
    obtain ⟨-, visit⟩ := visitAt_of_trace visited
    obtain ⟨-, -, -, hj, named⟩ := index_of_visitAt visit
    have fits := Column.fits_of_cell read
    rw [layout] at fits
    rw [(Cell.eq_bytes fits).1] at cell read
    -- The key that is read back is that of the slot it was copied from.
    have key := (Column.integer_eq_ok (c := gathered values indices xs) layout).2 ⟨_, cell, rfl⟩
    rw [integer] at key
    exact keys j v hj named (((Column.integer_eq_ok layout).2 ⟨_, read, rfl⟩).trans key.symm)
  · rw [null] at valid
    cases valid

/-- A gather shares the dictionary of its values or has none. -/
lemma dictionary_of_take {pool : Pool} (hv : values.Sound) (hi : indices.Sound)
    (run : ((take values indices).run pool).1 = .ok out) :
    out.dictionary = none ∨ out.dictionary = values.dictionary := by
  obtain ⟨k, xs, -, -, -, -, -, -, rfl⟩ := gathered_of_run hv hi run
  change sharedDictionary values = none ∨ sharedDictionary values = values.dictionary
  unfold sharedDictionary
  split
  · exact .inr rfl
  · exact .inl rfl

/-- A gather makes a column of the type of its values, with a dictionary if the type calls for
one. -/
lemma type_of_take {pool : Pool} (hv : values.Sound) (hi : indices.Sound)
    (run : ((take values indices).run pool).1 = .ok out) :
    out.type = values.type ∧ out.dictionary.isSome = values.type.isDictionary := by
  obtain ⟨k, xs, -, -, -, -, -, -, rfl⟩ := gathered_of_run hv hi run
  exact ⟨rfl, isSome_sharedDictionary hv.encoded⟩

/-- There are not more indices than a memory has room for. -/
lemma length_le_of_sound {n : Nat} (hi : indices.Sound) (index : indices.type = .int k)
    (length : indices.length = n) : n + 64 ≤ 2 ^ 63 := by
  by_cases none : n = 0
  · omega
  · have reach := hi.covered.values (by omega)
    have lo := hi.covered.offset_nonneg
    rw [layout_of_int index, Layout.reach] at reach
    have last : 1 * (k.width.bytes : Int) ≤ indices.stop * k.width.bytes :=
      Int.mul_le_mul_of_nonneg_right (by rw [Column.stop]; omega) (Int.natCast_nonneg _)
    have pos := k.width.bytes_pos
    obtain ⟨b, found, -⟩ := Column.exists_buffer (c := indices) (n := 1) (by omega)
    have aligned := hi.fits.aligned (Column.hasBuffer_of_values found)
    rw [Column.stop] at aligned
    omega

/-- Nothing null is picked from sound columns without bitmaps. -/
lemma full_of_sound (hv : values.Sound) (hi : indices.Sound) (index : indices.type = .int k)
    (gatherable : values.type.Gatherable)
    (selects : Visit.Selects values 0 (trace values indices k).visits xs)
    (needs : needsValidity values indices = false) : none ∉ xs := by
  rw [needsValidity, Bool.or_eq_false_iff, Option.isSome_eq_false_iff,
    Option.isSome_eq_false_iff, Option.isNone_iff_eq_none, Option.isNone_iff_eq_none] at needs
  have typed : indices.type ≠ .null := by
    rw [index]
    exact DataType.noConfusion
  exact full_of_selects selects (fun p => hi.valid_of_no_bitmap typed needs.2) fun j =>
    hv.valid_of_no_bitmap gatherable.1 needs.1

/-- A gather of sound columns that ends well has laid out a sound column. -/
lemma sound_gathered (hv : values.Sound) (hi : indices.Sound) (index : indices.type = .int k)
    (gatherable : values.type.Gatherable)
    (reach : values.type.layout.reach indices.length < 2 ^ 63)
    (ending : (trace values indices k).ending = .ok ())
    (selects : Visit.Selects values 0 (trace values indices k).visits xs)
    (holds : Column.Holds values.type xs (needsValidity values indices)) :
    (gathered values indices xs).Sound := by
  obtain ⟨-, n, -, length, -⟩ := hi.exists_window
  have total := selects.length.trans ((length_visits values k length).2 ending)
  have room : n + 64 ≤ 2 ^ 63 := length_le_of_sound hi index length
  rw [length, ← total] at reach
  exact Column.sound_laidOut holds (by omega) reach
    (full_of_sound hv hi index gatherable selects) (validateDictionary_gathered hv)

/-- A gather of sound columns that ends well makes a sound column. -/
lemma sound_of_take {pool : Pool} (hv : values.Sound) (hi : indices.Sound)
    (run : ((take values indices).run pool).1 = .ok out) : out.Sound := by
  obtain ⟨k, xs, index, gatherable, reach, ending, selects, holds, rfl⟩ :=
    gathered_of_run hv hi run
  exact sound_gathered hv hi index gatherable reach ending selects holds

/-- A gather of a well-formed column that ends well makes a well-formed column. -/
lemma wellFormed_of_take {pool : Pool} (hv : values.WellFormed) (hi : indices.Sound)
    (run : ((take values indices).run pool).1 = .ok out) : out.WellFormed := by
  obtain ⟨k, xs, index, gatherable, reach, ending, selects, holds, rfl⟩ :=
    gathered_of_run hv.sound hi run
  have sound := sound_gathered hv.sound hi index gatherable reach ending selects holds
  cases hv with
  | plain _ plain => exact .plain sound plain
  | encoded _ type dictionary values' keys =>
    have shared : (gathered values indices xs).dictionary = values.dictionary :=
      dictionary_gathered (by rw [type]; rfl)
    exact .encoded sound type (shared.trans dictionary) values'
      (keysBelow_gathered type keys selects holds)

end Columnar.Gather
