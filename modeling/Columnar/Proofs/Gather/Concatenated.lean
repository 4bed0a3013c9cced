import Mathlib.Tactic.Common
import Mathlib.Data.List.ReduceOption
import Columnar.Proofs.Gather.Failure
import Columnar.Proofs.Gather.Reference

/-!
# Gathered strings lie in a row

The data of gathered strings is what the positions of the indices select, one string behind the
other and nothing else, and the offsets are the borders between them. The copying pass never fails
once the sizing pass is through: it writes every byte once and reads inside the data of the values
(`take_concatenates`).
-/

namespace Columnar.Gather
variable {values indices out : Column} {k : IntKind} {w : Width} {n : Nat}
  {xs : List (Option Cell)}

/-- The bytes of the string that position `p` selects, none if it selects none. -/
def selectedBytes (values indices : Column) (k : IntKind) (p : Nat) : List UInt8 :=
  match reference values indices k p with
  | .ok (some c) => c.contents
  | _ => []

/-- Whether a column of `n` strings holds what positions select, one string behind the other,
`total` bytes in all. -/
structure Concatenates (values indices out : Column) (k : IntKind) (w : Width) (n total : Nat) :
    Prop where
  /-- There are as many offsets as slots and one more. -/
  offsets : ∃ b, out.buffer? 1 = some b ∧ b.size = (n + 1) * w.bytes
  first : out.stringOffset w 0 = .ok 0
  last : out.stringOffset w n = .ok total
  ordered : out.Ordered
  /-- Neighbouring offsets are apart by the length of what the position selects. -/
  apart : ∀ p < n, ∃ (s : Option Cell) (a : Int), reference values indices k p = .ok s ∧
    out.slot p = .ok s ∧ out.stringOffset w p = .ok a ∧
    out.stringOffset w (p + 1) = .ok (a + ((s.map Cell.size).getD 0 : Nat))
  selected : selectedTotal values indices k w n = total
  data : ∃ b, out.buffer? 2 = some b ∧ b.size = total ∧
    b.bytes.toList = (List.range n).flatMap (selectedBytes values indices k)

/-- Whether the copying pass that made a column writes all of its `total` bytes once, and reads data
of the values only. -/
structure Copies (values indices out : Column) (k : IntKind) (w : Width) (total : Nat) : Prop where
  /-- The pass ends well over fresh memory of any contents. -/
  runs : ∀ fresh : Bytes, fresh.size = total →
    walk (m := Checked) values indices k (visitCopy values w (out.memory 1))
      (Buffer.packed fresh).memory = .ok (out.memory 2)
  transfers : ∃ moves, List.Forall₂ (fun v m => transferAt values w (out.memory 1) v = .ok m)
      (trace values indices k).visits moves ∧
    (∀ q : Int, moves.reduceOption.countP (fun t => t.Writes q) =
      if 0 ≤ q ∧ q < total then 1 else 0) ∧
    ∀ t ∈ moves.reduceOption, 0 ≤ t.source ∧
      t.source + t.count ≤ ((values.buffer? 2).map Buffer.size).getD 0

/-- The visits of the copying pass call for transfers that write one after the other and read data
of the values only. -/
lemma exists_transfers {offsets : Bytes} {tail : List UInt8} {p : Nat} {vs : List Visit}
    (done : List (Option Cell)) (hv : values.Shaped) (layout : values.type.layout = .strings w)
    (picks : Visit.Picks (fun j x => values.cell j = .ok x ∧ j < values.length) p vs xs)
    (place : done.length = p)
    (written : offsets.toList = Layout.offsets w (Column.sizes values.type (done ++ xs)) ++ tail)
    (fits : ((Column.contents values.type (done ++ xs)).length : Int) ≤ (IntKind.int w).max) :
    ∃ moves, List.Forall₂ (fun v m => transferAt values w offsets v = .ok m) vs moves ∧
      Tiles (Column.contents values.type done).length
        (Column.contents values.type (done ++ xs)).length moves.reduceOption ∧
      ∀ t ∈ moves.reduceOption, 0 ≤ t.source ∧
        t.source + t.count ≤ ((values.buffer? 2).map Buffer.size).getD 0 := by
  induction picks generalizing done with
  | nil =>
    rw [List.append_nil]
    exact ⟨[], .nil, .nil, nofun⟩
  | @valid p vs xs j x read rest ih =>
    subst place
    obtain ⟨cell, hj⟩ := read
    obtain ⟨a, b, first, length, -, rfl⟩ := Column.string_of_cell layout cell
    obtain ⟨start, m, first', length', inside⟩ := hv.exists_stringPlace layout hj
    cases first.symm.trans first'
    cases length.symm.trans length'
    have transfer := transferAt_valid written fits first
    obtain ⟨moves, called, tiles, reads⟩ := ih (done ++ [some (.bytes b)]) (by simp)
      (by rw [← List.append_cons]; exact written) (by rw [← List.append_cons]; exact fits)
    rw [← List.append_cons, length_contents_concat] at tiles
    by_cases empty : b.size = 0
    · rw [if_pos empty] at transfer
      rw [empty] at tiles
      exact ⟨none :: moves, .cons transfer called, tiles, reads⟩
    · rw [if_neg empty] at transfer
      refine ⟨_ :: moves, .cons transfer called, ?_, ?_⟩
      · exact .cons (t := ⟨start, _, b.size⟩) (by simp; omega) tiles
      · intro t mem
        rcases List.mem_cons.1 mem with rfl | mem
        · refine ⟨Int.natCast_nonneg _, ?_⟩
          change (start : Int) + b.size ≤ _
          omega
        · exact reads t mem
  | @null p vs xs rest ih =>
    subst place
    obtain ⟨moves, called, tiles, reads⟩ := ih (done ++ [none]) (by simp)
      (by rw [← List.append_cons]; exact written) (by rw [← List.append_cons]; exact fits)
    rw [← List.append_cons, contents_concat_null layout] at tiles
    exact ⟨none :: moves, .cons rfl called, tiles, reads⟩

section LaidOut

/-- The bytes of slots that positions select are what the positions select. -/
lemma contents_eq_flatMap (layout : values.type.layout = .strings w)
    (gathers : Gathers values indices k xs) : Column.contents values.type xs =
      (List.range xs.length).flatMap (selectedBytes values indices k) := by
  rw [Column.contents, Column.physical, List.flatMap_def, List.flatMap_def, List.map_map]
  congr 1
  apply List.ext_getElem?
  intro p
  rw [List.getElem?_map, List.getElem?_map]
  by_cases hp : p < xs.length
  · obtain ⟨s, here, names⟩ := gathers.exists_names hp
    rw [here, List.getElem?_range hp, Option.map_some, Option.map_some, selectedBytes,
      names.reference]
    cases s with
    | some c => rfl
    | none =>
      rw [Function.comp_apply, layout]
      rfl
  · rw [List.getElem?_eq_none (by omega), List.getElem?_eq_none (by simpa using hp)]
    rfl

lemma concatenates_gathered (hv : values.Shaped) (layout : values.type.layout = .strings w)
    (gathers : Gathers values indices k xs)
    (holds : Column.Holds values.type xs (needsValidity values indices)) :
    Concatenates values indices (gathered values indices xs) k w xs.length
      (Column.contents values.type xs).length where
  offsets := by
    refine ⟨_, Column.buffer?_laidOut_strings layout, ?_⟩
    rw [Buffer.size_packed, List.size_toArray, Layout.length_offsets, Column.length_sizes]
  first := Column.stringOffset_laidOut holds layout (Nat.zero_le _)
  last := by
    have last := Column.stringOffset_laidOut (d := sharedDictionary values) holds layout
      (Nat.le_refl xs.length)
    rw [List.take_of_length_le (by rw [Column.length_sizes]), Column.sum_sizes] at last
    exact last
  ordered := Column.ordered_laidOut holds
  apart p hp := by
    obtain ⟨s, here, names⟩ := gathers.exists_names hp
    refine ⟨s, _, names.reference, Column.slot_laidOut holds here,
      Column.stringOffset_laidOut holds layout (Nat.le_of_lt hp), ?_⟩
    have next := Column.stringOffset_laidOut (d := sharedDictionary values) holds layout
      (i := p + 1) hp
    rw [Column.sum_take_sizes here, Int.natCast_succ] at next
    refine next.trans (congrArg Except.ok ?_)
    cases s with
    | some c => rfl
    | none =>
      rw [layout]
      rfl
  selected := by
    obtain ⟨ending, selects⟩ := gathers.trace
    rw [(totals_of_selects hv.covered (selectedFit_of_shaped hv) selects w layout).1,
      (length_visits values k gathers.length).2 ending]
  data := by
    refine ⟨_, Column.buffer?_laidOut_data layout, List.size_toArray .., ?_⟩
    rw [Buffer.bytes_packed, ← contents_eq_flatMap layout gathers]

lemma copies_gathered (hv : values.Shaped) (layout : values.type.layout = .strings w)
    (gathers : Gathers values indices k xs)
    (holds : Column.Holds values.type xs (needsValidity values indices)) :
    Copies values indices (gathered values indices xs) k w
      (Column.contents values.type xs).length := by
  obtain ⟨ending, selects⟩ := gathers.trace
  have fits := holds.strings w layout
  have offsets : (gathered values indices xs).memory 1 =
      (Buffer.packed (Layout.offsets w (Column.sizes values.type xs)).toArray).memory := by
    rw [Column.memory, gathered, Column.buffer?_laidOut_strings layout]
    rfl
  have data : (gathered values indices xs).memory 2 =
      (Buffer.packed (Column.contents values.type xs).toArray).memory :=
    Column.memory_laidOut_strings layout
  have inside : Visit.Picks (fun j x => values.cell j = .ok x ∧ j < values.length) 0
      (trace values indices k).visits xs := selects.congr fun i q j x visited cell => by
    obtain ⟨-, -, -, hj, -⟩ := index_of_visitAt (visitAt_of_trace visited).2
    exact ⟨cell, hj⟩
  obtain ⟨moves, called, tiles, reads⟩ := exists_transfers [] hv layout inside rfl
    (Buffer.toList_packed _) fits
  refine ⟨fun fresh size => ?_, moves, ?_, tiles.countP_writes, reads⟩
  · rw [offsets, data]
    exact walk_copyAll layout selects ending fits size
  · rw [offsets]
    exact called

end LaidOut

section Length
variable {pool : Pool} {α : Type}

/-- What holds a validity bitmap and ends well has a body that does. -/
lemma exists_of_holdingValidity {body : Option Buffer → Pooled α} {a : α}
    (h : ((holdingValidity values indices body).run pool).1 = .ok a) :
    ∃ validity q, ((body validity).run q).1 = .ok a := by
  obtain ⟨validity, q, -, rest⟩ := Pooled.exists_of_bind h
  refine ⟨validity, q, ?_⟩
  cases validity with
  | none => exact Pooled.of_tryCatch (u := fun _ => pure ()) rest
  | some b => exact Pooled.of_tryCatch (u := fun _ => b.release) rest

/-- A gather of strings that ends well had indices of a length that memory has room for. -/
lemma length_of_run (layout : values.type.layout = .strings w)
    (run : ((take values indices).run pool).1 = .ok out) :
    ∃ n : Nat, indices.length = n ∧ n < 2 ^ 63 := by
  obtain ⟨⟨k, index⟩, gatherable⟩ := of_run run
  rw [take_eq index] at run
  obtain ⟨made, q, gathers, -⟩ := Pooled.exists_of_bind run
  rw [byLayout_eq gatherable (gatherable_of_strings layout).2, layout] at gathers
  change (strings values indices w).run pool = _ at gathers
  rw [strings, withIndexKind_eq index] at gathers
  obtain ⟨validity, q₁, held⟩ := exists_of_holdingValidity (congrArg Prod.fst gathers)
  obtain ⟨b, q₂, allocated, rest⟩ := Buffer.exists_of_holding held
  obtain ⟨m, c, size, room, whole, rfl⟩ := Buffer.exists_of_allocate allocated
  obtain ⟨first, q₃, put, -⟩ := Pooled.exists_of_bind rest
  have bytes := w.bytes_pos
  -- The first offset was written, so there is room for one.
  have some : 0 < m := by
    by_contra none
    have empty : c = #[] := Array.eq_empty_of_size_eq_zero (by omega)
    have stray : (Buffer.packed c).memory.putInteger (.int w) 0 0 = .error .stray := by
      rw [Bytes.putInteger, Bytes.overwrite, Bytes.size_ofInt, empty]
      cases w <;> rfl
    rw [stray] at put
    cases put
  unfold Buffer.maxSize at room
  rw [size] at room
  cases w <;> simp only [Width.bytes] at size <;> exact ⟨indices.length.toNat, by omega, by omega⟩

end Length

/-- A gather of strings that ends well has laid out what its indices select in a row, and its
copying pass has written each byte once. -/
theorem take_concatenates {pool : Pool} (hv : values.Validated)
    (layout : values.type.layout = .strings w)
    (run : ((take values indices).run pool).1 = .ok out) :
    ∃ k n total, indices.type = .int k ∧ indices.length = (n : Nat) ∧
      Concatenates values indices out k w n total ∧ Copies values indices out k w total := by
  obtain ⟨n, length, fits⟩ := length_of_run layout run
  obtain ⟨k, xs, index, -, gathers, -, holds, rfl⟩ :=
    gathers_of_run hv.shaped.readable length fits run
  obtain rfl : n = xs.length := Int.ofNat_inj.1 (length.symm.trans gathers.length)
  exact ⟨k, _, _, index, length, concatenates_gathered hv.shaped layout gathers holds,
    copies_gathered hv.shaped layout gathers holds⟩

/-- A window over strings is gathered with a null of the values and one of the indices. -/
theorem take_concatenates_window :
    let v := { Column.laidOut .string [some (.bytes #[97]), some (.bytes #[98, 99]), none,
      some (.bytes #[100])] true none with offset := 1, length := 3, nullCount := -1 }
    let i := Column.ofInts (.int .w8) [some 2, none, some 0, some 1, some 0]
    let out := Column.laidOut .string [some (.bytes #[100]), none, some (.bytes #[98, 99]), none,
      some (.bytes #[98, 99])] true none
    let pool : Pool := ⟨[], .generous, true, {}, fun _ => 0⟩
    v.Validated ∧ v.type.layout = .strings .w32 ∧ ((take v i).run pool).1 = .ok out ∧
      ∃ k n total, i.type = .int k ∧ i.length = (n : Nat) ∧
        Concatenates v i out k .w32 n total ∧ Copies v i out k .w32 total := by
  intro v i out pool
  have hv : v.Validated := Column.Sound.validated (by decide +kernel)
  have layout : v.type.layout = .strings .w32 := rfl
  have run : ((take v i).run pool).1 = .ok out := by decide +kernel
  exact ⟨hv, layout, run, take_concatenates hv layout run⟩

end Columnar.Gather
