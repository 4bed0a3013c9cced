import Mathlib.Tactic.Common
import Columnar.Proofs.Gather.Draft
import Columnar.Proofs.Gather.Transfers

/-!
# Gathering byte strings lays them out

The sizing pass writes offsets front to back, each the sum of the lengths before it, and fails
exactly when the sum of all lengths is above the largest offset. The copying pass reads those
offsets and puts each string where the one before it ends.
-/

namespace Columnar.Gather
variable {values indices : Column} {k : IntKind} {w : Width} {n : Nat} {bitmap : Bool}
  {old : List UInt8}

/-- The lengths of strings, zero for those that are null. -/
def lengths (sizes : List (Option Nat)) : List Nat := sizes.map fun s => s.getD 0

lemma lengths_append (a b : List (Option Nat)) : lengths (a ++ b) = lengths a ++ lengths b :=
  List.map_append

section Sizing
variable {done ns : List (Option Nat)}

/-- The draft of `n` offsets over the memory `old`, behind strings of lengths `done`. -/
def SizeDraft.sketch (w : Width) (bitmap : Bool) (n : Nat) (old : List UInt8)
    (done : List (Option Nat)) : SizeDraft where
  toDraft := .sketch bitmap done (n - done.length)
  offsets := (Layout.offsets w (lengths done) ++ old.drop ((done.length + 1) * w.bytes)).toArray
  total := (lengths done).sum

lemma putInteger_sketch (bitmap : Bool) (s : Option Nat) (hn : done.length < n)
    (room : (n + 1) * w.bytes ≤ old.length) :
    (SizeDraft.sketch w bitmap n old done).offsets.putInteger (.int w) (done.length + 1)
      ((lengths done).sum + (s.getD 0 : Nat)) =
        .ok (SizeDraft.sketch w bitmap n old (done ++ [s])).offsets := by
  have before : (Layout.offsets w (lengths done)).length = (done.length + 1) * w.bytes := by
    rw [Layout.length_offsets, lengths, List.length_map]
  have le : (done.length + 1 + 1) * w.bytes ≤ (n + 1) * w.bytes :=
    Nat.mul_le_mul_right _ (by omega)
  rw [Nat.succ_mul] at le
  have replaced := Bytes.overwrite_drop (Layout.offsets w (lengths done)) old
    (Bytes.ofInt w.bytes ((lengths done).sum + (s.getD 0 : Nat)))
    (by rw [before, Bytes.size_ofInt]; omega)
  rw [← Layout.offsets_concat, before, Layout.length_offsets, Int.natCast_mul] at replaced
  rw [Bytes.putInteger]
  refine Eq.trans replaced (congrArg Except.ok ?_)
  simp [SizeDraft.sketch, lengths]

lemma overflow_iff (total m : Nat) : ((IntKind.int w).add total m).overflow = true ↔
    (IntKind.int w).max < (total + m : Nat) := by
  have lo : (IntKind.int w).min ≤ 0 := by cases w <;> decide
  rw [IntKind.add, IntKind.overflow_fit, IntKind.holds_iff]
  omega

lemma visitSize_valid {j m : Nat} (size : values.stringLength w j = .ok m) (hn : done.length < n)
    (room : (n + 1) * w.bytes ≤ old.length)
    (fits : ((lengths done).sum + m : Nat) ≤ (IntKind.int w).max) :
    visitSize values w (.sketch w bitmap n old done) (.valid done.length j) =
      .ok (.sketch w bitmap n old (done ++ [some m])) := by
  have lo : (IntKind.int w).min ≤ 0 := by cases w <;> decide
  have held : (IntKind.int w).wrap ((lengths done).sum + m) = (lengths done).sum + m :=
    IntKind.wrap_of_holds (IntKind.holds_iff.2 (by omega))
  have inRange : ¬ ((IntKind.int w).add (lengths done).sum m).overflow = true := by
    rw [overflow_iff]
    omega
  have mark := Draft.markValid_sketch bitmap done (n - (done ++ [some m]).length) m
  have put := putInteger_sketch bitmap (some m) hn room
  unfold visitSize
  change (do
    let length ← values.stringLength w j
    let sum := (IntKind.int w).add (lengths done).sum length
    if sum.overflow then throw _
    return SizeDraft.mk (← (Draft.sketch bitmap done (n - done.length)).markValid done.length)
      (← (SizeDraft.sketch w bitmap n old done).offsets.putInteger _ _ sum.value) sum.value) = _
  rw [Draft.left_of_lt (some m) hn, size, Checked.ok_bind]
  simp only [if_neg inRange, mark, Checked.ok_bind]
  change (do
    return SizeDraft.mk (.sketch bitmap (done ++ [some m]) (n - (done ++ [some m]).length))
      (← (SizeDraft.sketch w bitmap n old done).offsets.putInteger _ _
        ((IntKind.int w).wrap ((lengths done).sum + m)))
          ((IntKind.int w).wrap ((lengths done).sum + m))) = _
  rw [held, ← Option.getD_some (a := m) (b := 0), put, Checked.ok_bind]
  simp [SizeDraft.sketch, lengths]

lemma visitSize_overflow {j m : Nat} (size : values.stringLength w j = .ok m)
    (large : (IntKind.int w).max < ((lengths done).sum + m : Nat)) :
    visitSize values w (.sketch w bitmap n old done) (.valid done.length j) =
      .error (.gather (.offsetsExhausted values.type (IntKind.int w).max)) := by
  have exceeds := (overflow_iff (w := w) (lengths done).sum m).2 large
  unfold visitSize
  change (do
    let length ← values.stringLength w j
    let sum := (IntKind.int w).add (lengths done).sum length
    if sum.overflow then throw _
    _) = _
  rw [size, Checked.ok_bind]
  simp only [if_pos exceeds]
  rfl

lemma visitSize_null (hn : done.length < n) (room : (n + 1) * w.bytes ≤ old.length) :
    visitSize values w (.sketch w bitmap n old done) (.null done.length) =
      .ok (.sketch w bitmap n old (done ++ [none])) := by
  have put := putInteger_sketch bitmap none hn room
  rw [Option.getD_none, Int.natCast_zero, Int.add_zero] at put
  unfold visitSize
  change (do
    return SizeDraft.mk (Draft.sketch bitmap done (n - done.length)).markNull
      (← (SizeDraft.sketch w bitmap n old done).offsets.putInteger _ _ (lengths done).sum)
      (lengths done).sum) = _
  rw [Draft.left_of_lt none hn, Draft.markNull_sketch, put]
  simp [SizeDraft.sketch, lengths]

/-- The sizing pass fails exactly when the lengths add up to more than the largest offset. -/
lemma foldlM_visitSize (bitmap : Bool) (done : List (Option Nat)) {p : Nat} {vs : List Visit}
    (measures : Visit.Measures values w p vs ns) (place : done.length = p)
    (hn : done.length + ns.length ≤ n) (room : (n + 1) * w.bytes ≤ old.length)
    (fits : ((lengths done).sum : Nat) ≤ (IntKind.int w).max) :
    vs.foldlM (visitSize values w) (.sketch w bitmap n old done) =
      if (IntKind.int w).max < ((lengths (done ++ ns)).sum : Nat) then
        .error (.gather (.offsetsExhausted values.type (IntKind.int w).max))
      else .ok (.sketch w bitmap n old (done ++ ns)) := by
  induction measures generalizing done with
  | nil =>
    rw [List.append_nil, if_neg (by omega)]
    rfl
  | @valid p vs ns j m size rest ih =>
    subst place
    rw [List.length_cons] at hn
    have sum : (lengths (done ++ [some m])).sum = (lengths done).sum + m := by
      simp [lengths]
    -- Lengths are not negative, so a sum that is too large once stays too large.
    by_cases large : (IntKind.int w).max < ((lengths done).sum + m : Nat)
    · have total : (IntKind.int w).max < ((lengths (done ++ some m :: ns)).sum : Nat) := by
        rw [List.append_cons, lengths_append, List.sum_append, sum]
        omega
      rw [if_pos total, List.foldlM_cons, visitSize_overflow size large]
      rfl
    · have next := ih (done ++ [some m]) (by simp) (by simp; omega) (by rw [sum]; omega)
      rw [← List.append_cons] at next
      rw [← next, List.foldlM_cons, visitSize_valid size (by omega) room (by omega)]
      rfl
  | @null p vs ns rest ih =>
    subst place
    rw [List.length_cons] at hn
    have sum : (lengths (done ++ [none])).sum = (lengths done).sum := by
      simp [lengths]
    have next := ih (done ++ [none]) (by simp) (by simp; omega) (by rw [sum]; omega)
    rw [← List.append_cons] at next
    rw [← next, List.foldlM_cons, visitSize_null (by omega) room]
    rfl

end Sizing

section Copying
variable {xs : List (Option Cell)}

/-- The memory of string data over `old`, behind the slots `done`. -/
def copied (t : DataType) (old : List UInt8) (done : List (Option Cell)) : Bytes :=
  (Column.contents t done ++ old.drop (Column.contents t done).length).toArray

lemma contents_concat {t : DataType} {done : List (Option Cell)} (source : Bytes) :
    Column.contents t (done ++ [some (.bytes source)]) =
      Column.contents t done ++ source.toList := by
  rw [Column.contents_append, Column.contents_singleton]
  rfl

lemma contents_concat_null {t : DataType} {done : List (Option Cell)}
    (layout : t.layout = .strings w) :
    Column.contents t (done ++ [none]) = Column.contents t done := by
  rw [Column.contents_append, Column.contents_singleton, layout]
  exact List.append_nil _

/-- Where the next string is copied to, by offsets that were written for all of them. -/
lemma integer_done {t : DataType} {offsets : Bytes} {tail : List UInt8}
    {done after : List (Option Cell)}
    (written : offsets.toList = Layout.offsets w (Column.sizes t (done ++ after)) ++ tail)
    (fits : ((Column.contents t (done ++ after)).length : Int) ≤ (IntKind.int w).max) :
    offsets.integer (.int w) done.length = .ok (Column.contents t done).length := by
  rw [← Column.sum_sizes] at fits
  rw [Layout.integer_offsets written (by simp) fits, Column.sizes_append,
    List.take_left' (Column.length_sizes t done), Column.sum_sizes]

lemma overwrite_copied {t : DataType} {done : List (Option Cell)} {source : Bytes}
    (room : (Column.contents t done).length + source.size ≤ old.length) :
    (copied t old done).overwrite (Column.contents t done).length source =
      .ok (copied t old (done ++ [some (.bytes source)])) := by
  rw [copied, copied, contents_concat]
  exact Bytes.overwrite_drop _ _ _ room

lemma length_contents_concat {t : DataType} {done : List (Option Cell)} (source : Bytes) :
    (Column.contents t (done ++ [some (.bytes source)])).length =
      (Column.contents t done).length + source.size := by
  have size : source.toList.length = source.size := Array.length_toList
  rw [contents_concat, List.length_append, size]

/-- The next string goes behind those that are done. An empty string is not copied at all, so its
bytes may be anywhere. -/
lemma transferAt_valid {t : DataType} {offsets source : Bytes} {tail : List UInt8}
    {done after : List (Option Cell)} {j : Nat} {a : Int}
    (written : offsets.toList =
      Layout.offsets w (Column.sizes t (done ++ some (.bytes source) :: after)) ++ tail)
    (fits : ((Column.contents t (done ++ some (.bytes source) :: after)).length : Int) ≤
      (IntKind.int w).max)
    (first : values.stringOffset w j = .ok a) :
    transferAt values w offsets (.valid done.length j) =
      .ok (if source.size = 0 then none
        else some ⟨a, (Column.contents t done).length, source.size⟩) := by
  have start := integer_done written fits
  rw [List.append_cons] at written fits
  have stop := integer_done written fits
  rw [length_contents_concat, List.length_append, List.length_singleton] at stop
  rw [Column.contents_append, List.length_append, length_contents_concat] at fits
  have least := (IntKind.int w).min_nonpos
  have difference : (IntKind.int w).wrap (((Column.contents t done).length + source.size : Nat) -
      ((Column.contents t done).length : Int)) = source.size := by
    rw [IntKind.wrap_int (by omega) (by omega)]
    omega
  unfold transferAt
  simp only [start, Checked.ok_bind]
  -- The string ends where the offset behind it says.
  change (do
    let stop ← offsets.integer (.int w) (done.length + 1 : Nat)
    let length := (IntKind.int w).wrap (stop - (Column.contents t done).length)
    if length > 0 then _ else _) = _
  simp only [stop, Checked.ok_bind, difference, first]
  by_cases empty : source.size = 0
  · rw [if_neg (by omega), if_pos empty]
    rfl
  · rw [if_pos (by omega), if_neg empty]
    rfl

lemma visitCopy_valid {offsets : Bytes} {tail : List UInt8} {done after : List (Option Cell)}
    {j : Nat} {x : Cell} (layout : values.type.layout = .strings w)
    (written : offsets.toList =
      Layout.offsets w (Column.sizes values.type (done ++ some x :: after)) ++ tail)
    (fits : ((Column.contents values.type (done ++ some x :: after)).length : Int) ≤
      (IntKind.int w).max)
    (room : (Column.contents values.type (done ++ some x :: after)).length ≤ old.length)
    (cell : values.cell j = .ok x) :
    visitCopy values w offsets (copied values.type old done) (.valid done.length j) =
      .ok (copied values.type old (done ++ [some x])) := by
  obtain ⟨a, b, first, -, read, rfl⟩ := Column.string_of_cell layout cell
  rw [visitCopy_eq, transferAt_valid written fits first, Checked.ok_bind]
  by_cases empty : b.size = 0
  · have nothing : b = #[] := Array.eq_empty_of_size_eq_zero empty
    rw [if_pos empty, nothing, copied, copied, contents_concat, Array.toList_empty, List.append_nil]
    rfl
  · rw [List.append_cons, Column.contents_append, List.length_append,
      length_contents_concat] at room
    rw [if_neg empty]
    simp only [Transfer.perform, read, Checked.ok_bind]
    exact overwrite_copied (by omega)

lemma visitCopy_null {offsets : Bytes} {done : List (Option Cell)}
    (layout : values.type.layout = .strings w) :
    visitCopy values w offsets (copied values.type old done) (.null done.length) =
      .ok (copied values.type old (done ++ [none])) := by
  rw [copied, copied, contents_concat_null layout]
  rfl

/-- A walk over byte strings picks the bytes of the slots, over offsets that are right. -/
lemma walk_visitCopy {offsets : Bytes} {tail : List UInt8}
    (layout : values.type.layout = .strings w)
    (selects : Visit.Selects values 0 (trace values indices k).visits xs)
    (written : offsets.toList = Layout.offsets w (Column.sizes values.type xs) ++ tail)
    (fits : ((Column.contents values.type xs).length : Int) ≤ (IntKind.int w).max)
    (room : (Column.contents values.type xs).length ≤ old.length) :
    walk (m := Checked) values indices k (visitCopy values w offsets)
      (copied values.type old []) = (do
        let _ ← (trace values indices k).ending
        return copied values.type old xs) := by
  have run := selects.foldlM (visitCopy values w offsets) (copied values.type old)
    (fun done j x after e cell => by
      subst e
      exact visitCopy_valid layout written fits room cell)
    (fun done after e => visitCopy_null layout)
  rw [walk_eq, run]
  rfl

end Copying

/-- Whether the lengths of strings add up to at most the largest offset. -/
def sizesFit (t : DataType) (w : Width) (total : Nat) : Checked Unit :=
  if (IntKind.int w).max < total then .error (.gather (.offsetsExhausted t (IntKind.int w).max))
  else .ok ()

/-- The sizing pass comes to the end of all lengths, or finds that they do not fit. -/
lemma walk_visitSize {ns : List (Option Nat)}
    (measures : Visit.Measures values w 0 (trace values indices k).visits ns) (hn : ns.length ≤ n)
    (room : (n + 1) * w.bytes ≤ old.length) :
    walk (m := Checked) values indices k (visitSize values w) (.sketch w bitmap n old []) = (do
      let _ ← sizesFit values.type w (lengths ns).sum
      let _ ← (trace values indices k).ending
      return .sketch w bitmap n old ns) := by
  have lo : (0 : Int) ≤ (IntKind.int w).max := by cases w <;> decide
  have run := foldlM_visitSize bitmap [] measures rfl
    (by rw [List.length_nil, Nat.zero_add]; exact hn) room lo
  rw [List.nil_append] at run
  rw [walk_eq, run, sizesFit]
  split
  · rfl
  · rfl

lemma putInteger_first (bitmap : Bool) {old : Bytes} (size : old.size = (n + 1) * w.bytes) :
    (Buffer.packed old).memory.putInteger (.int w) 0 0 =
      .ok (SizeDraft.sketch w bitmap n (Buffer.packed old).memory.toList []).offsets := by
  have whole := Buffer.le_length_packed old
  rw [size, Nat.succ_mul] at whole
  have room : w.bytes ≤ (Buffer.packed old).memory.toList.length := by omega
  have replaced := Bytes.overwrite_drop [] (Buffer.packed old).memory.toList
    (Bytes.ofInt w.bytes 0) (by rw [Bytes.size_ofInt]; simpa using room)
  rw [Bytes.putInteger, Int.zero_mul]
  apply Eq.trans replaced
  simp [SizeDraft.sketch, lengths, Layout.offsets]

lemma walk_copyAll {xs : List (Option Cell)} {u : Unit} {fresh : Bytes}
    (layout : values.type.layout = .strings w)
    (selects : Visit.Selects values 0 (trace values indices k).visits xs)
    (ending : (trace values indices k).ending = .ok u)
    (fits : ((Column.contents values.type xs).length : Int) ≤ (IntKind.int w).max)
    (size : fresh.size = (Column.contents values.type xs).length) :
    walk (m := Checked) values indices k (visitCopy values w
      (Buffer.packed (Layout.offsets w (Column.sizes values.type xs)).toArray).memory)
        (Buffer.packed fresh).memory =
      .ok (Buffer.packed (Column.contents values.type xs).toArray).memory := by
  have start : (Buffer.packed fresh).memory =
      copied values.type (Buffer.packed fresh).memory.toList [] := by
    simp [copied, Column.contents, Column.physical]
  have room := Buffer.le_length_packed fresh
  rw [size] at room
  conv_lhs => rw [start]
  rw [walk_visitCopy layout selects (Buffer.toList_packed _) fits room, ending,
    ← Buffer.append_drop_packed size.symm]
  rfl

lemma lengths_eq_sizes {t : DataType} (layout : t.layout = .strings w) (xs : List (Option Cell)) :
    lengths (xs.map (Option.map Cell.size)) = Column.sizes t xs := by
  rw [lengths, Column.sizes, Column.physical, List.map_map, List.map_map]
  apply List.map_congr_left
  intro s _
  cases s with
  | some c => rfl
  | none =>
    rw [Function.comp_apply, Function.comp_apply, layout]
    rfl

/-- The copying pass fails only where bytes do not exist. -/
lemma eq_stray_of_visitCopy {offsets data : Bytes} {v : Visit} {e : Fault}
    (h : visitCopy values w offsets data v = .error e) : e = .stray := by
  cases v with
  | null p => cases h
  | valid p j =>
    unfold visitCopy at h
    rcases Checked.bind_eq_error.1 h with h | ⟨start, -, h⟩
    · exact Bytes.eq_stray_of_integer h
    rcases Checked.bind_eq_error.1 h with h | ⟨stop, -, h⟩
    · exact Bytes.eq_stray_of_integer h
    dsimp only at h
    split at h
    · rcases Checked.bind_eq_error.1 h with h | ⟨a, -, h⟩
      · unfold Column.stringOffset at h
        split at h
        · exact Bytes.eq_stray_of_integer h
        · cases h
          rfl
      rcases Checked.bind_eq_error.1 h with h | ⟨source, -, h⟩
      · exact Bytes.eq_stray_of_span h
      exact Bytes.eq_stray_of_overwrite h
    · cases h

/-- A string that the copying pass gets past can be read. -/
lemma exists_cell_of_visitCopy {offsets data copy : Bytes} {start : Int} {p j m : Nat}
    (layout : values.type.layout = .strings w) (length : values.stringLength w j = .ok m)
    (first : offsets.integer (.int w) p = .ok start)
    (second : offsets.integer (.int w) (p + 1) = .ok (start + m))
    (h : visitCopy values w offsets data (.valid p j) = .ok copy) :
    ∃ x, values.cell j = .ok x := by
  obtain ⟨a, offset, rest⟩ := Checked.bind_eq_ok.1 length
  obtain ⟨b, -, wrapped⟩ := Checked.bind_eq_ok.1 rest
  rw [Column.cell_of_strings layout offset length]
  have difference : (IntKind.int w).wrap (start + m - start) = m := by
    rw [Int.add_comm, Int.add_sub_cancel, ← Except.ok.inj wrapped]
    exact IntKind.wrap_of_holds (IntKind.holds_wrap _ _)
  unfold visitCopy at h
  simp only [first, second, offset, Checked.ok_bind, difference] at h
  split at h
  · obtain ⟨source, read, -⟩ := Checked.bind_eq_ok.1 h
    rw [read]
    exact ⟨_, rfl⟩
  · have zero : m = 0 := by omega
    subst zero
    exact ⟨.bytes #[], rfl⟩

/-- The copying pass goes astray if a string that is picked does not exist. -/
lemma walk_visitCopy_stray {offsets data : Bytes} {tail : List UInt8} {ns : List (Option Nat)}
    (layout : values.type.layout = .strings w)
    (measures : Visit.Measures values w 0 (trace values indices k).visits ns)
    (written : offsets.toList = Layout.offsets w (lengths ns) ++ tail)
    (fits : ((lengths ns).sum : Int) ≤ (IntKind.int w).max)
    (missing : ¬ ∃ xs, Visit.Selects values 0 (trace values indices k).visits xs) :
    walk (m := Checked) values indices k (visitCopy values w offsets) data = .error .stray := by
  rw [walk_eq]
  cases run : (trace values indices k).visits.foldlM (visitCopy values w offsets) data with
  | error e =>
    obtain ⟨s, v, failed⟩ := exists_failure_of_foldlM run
    rw [eq_stray_of_visitCopy failed]
    rfl
  | ok copy =>
    -- Every visit was got past, so every string that is picked can be read.
    refine absurd (exists_picks fun p q j h => ?_) missing
    have hp : p < ns.length := by
      rw [measures.length]
      exact (List.getElem?_eq_some_iff.1 h).1
    obtain ⟨s, t, step⟩ := exists_step_of_foldlM run (List.mem_of_getElem? h)
    rcases measures.getElem? (List.getElem?_eq_getElem hp) with
      ⟨j', m, visited, length, size⟩ | ⟨visited, -⟩
    · rw [h] at visited
      cases visited
      rw [Nat.zero_add] at step
      have here : (lengths ns)[p]? = some m := by
        rw [lengths, List.getElem?_map, List.getElem?_eq_getElem hp, size]
        rfl
      have hp' : p < (lengths ns).length := (List.getElem?_eq_some_iff.1 here).1
      have first := Layout.integer_offsets written (Nat.le_of_lt hp') fits
      have second := Layout.integer_offsets (i := p + 1) written hp' fits
      rw [List.take_add_one, here, List.sum_append, Option.toList_some, List.sum_singleton,
        Int.natCast_add, Int.natCast_succ] at second
      exact exists_cell_of_visitCopy layout length first second step
    · rw [h] at visited
      cases visited

/-- Offsets that were all written take the place of the fresh bytes. -/
lemma offsets_sketch (bitmap : Bool) {old : Bytes} {ns : List (Option Nat)}
    (size : old.size = (ns.length + 1) * w.bytes) :
    (SizeDraft.sketch w bitmap ns.length (Buffer.packed old).memory.toList ns).offsets =
      (Buffer.packed (Layout.offsets w (lengths ns)).toArray).memory ∧
    (Buffer.packed old).withMemory
      (Buffer.packed (Layout.offsets w (lengths ns)).toArray).memory =
        .packed (Layout.offsets w (lengths ns)).toArray := by
  have length : (Layout.offsets w (lengths ns)).length = (ns.length + 1) * w.bytes := by
    rw [Layout.length_offsets, lengths, List.length_map]
  have written := Buffer.append_drop_packed (length.trans size.symm)
  rw [length] at written
  exact ⟨written, Buffer.withMemory_packed (length.trans size.symm)⟩

/-- What a gather of byte strings asks for, given the total of their lengths and how its copying
pass ends. -/
def stringsPlan (values indices : Column) (w : Width) (k : IntKind) (n total : Nat)
    (result : Checked Column) : Plan Column :=
  .asksIf (needsValidity values indices) (Buffer.footprint ((n + 7) / 8))
    (.check (Buffer.room ((n + 1) * w.bytes))
      (.asks (Buffer.footprint ((n + 1) * w.bytes))
        (.check (sizesFit values.type w total)
          (.check (trace values indices k).ending
            (.check (Buffer.room total)
              (.asks (Buffer.footprint total) (.ends result)))))))

/-- Gathering byte strings ends as its copying pass does, once the lengths fit and there is room. -/
lemma follows_sized (result : Checked Column) {ns : List (Option Nat)}
    (length : indices.length = n) (fits : n < 2 ^ 63)
    (measures : Visit.Measures values w 0 (trace values indices k).visits ns)
    (copying : sizesFit values.type w (lengths ns).sum = .ok () →
      (trace values indices k).ending = .ok () → ns.length = n →
      ∀ fresh : Bytes, fresh.size = (lengths ns).sum → (do
        let copy ← walk (m := Checked) values indices k (visitCopy values w
          (Buffer.packed (Layout.offsets w (lengths ns)).toArray).memory)
            (Buffer.packed fresh).memory
        return finish values.type n (cleanValidity (needsValidity values indices) n)
          (.sketch (needsValidity values indices) ns 0)
          [.packed (Layout.offsets w (lengths ns)).toArray,
            (Buffer.packed fresh).withMemory copy]) = result) :
    (stringsOf values indices w k).Follows
      (stringsPlan values indices w k n (lengths ns).sum result) := by
  obtain ⟨le, whole⟩ := length_visits values k length
  rw [← measures.length] at le whole
  apply follows_holdingValidity length fits
  rw [length, ← Int.natCast_succ, ← Int.natCast_mul]
  refine Buffer.follows_holding_allocate fun _ old size => ?_
  have start : SizeDraft.mk
      ⟨(cleanValidity (needsValidity values indices) n).map Buffer.memory, 0⟩
        (SizeDraft.sketch w (needsValidity values indices) n (Buffer.packed old).memory.toList
          []).offsets 0 =
      .sketch w (needsValidity values indices) n (Buffer.packed old).memory.toList [] := by
    rw [sketch_nil (α := Nat)]
    rfl
  have room := Buffer.le_length_packed old
  rw [size] at room
  simp only [putInteger_first (needsValidity values indices) size]
  refine .ok_bind ?_
  simp only [start, walk_visitSize measures le room]
  cases fit : sizesFit values.type w (lengths ns).sum with
  | error e => exact .error_bind _
  | ok u =>
    cases ending : (trace values indices k).ending with
    | error e => exact .error_bind _
    | ok u =>
      have full := whole ending
      subst full
      obtain ⟨memory, buffer⟩ := offsets_sketch (needsValidity values indices) size
      refine .ok_bind (Buffer.follows_holding_allocate fun _ fresh total => ?_)
      -- What is left is the copying pass, which runs over offsets that are already right.
      rw [← copying fit ending rfl fresh total]
      simp only [memory, buffer]
      cases walk (m := Checked) values indices k (visitCopy values w
          (Buffer.packed (Layout.offsets w (lengths ns)).toArray).memory)
          (Buffer.packed fresh).memory with
      | error e => exact .error_bind _
      | ok copy =>
        refine .ok_bind ?_
        have draft : (SizeDraft.sketch w (needsValidity values indices) ns.length
            (Buffer.packed old).memory.toList ns).toDraft =
            .sketch (needsValidity values indices) ns 0 := by
          rw [SizeDraft.sketch, Nat.sub_self]
        rw [draft]
        exact .of_checked (.ok _)

lemma le_of_sizesFit {t : DataType} {total : Nat} (fit : sizesFit t w total = .ok ()) :
    (total : Int) ≤ (IntKind.int w).max := by
  rw [sizesFit, Checked.guard_eq_ok] at fit
  omega

/-- Gathering byte strings lays out the slots that are picked, if their lengths fit and there is
room. -/
lemma follows_stringsOf {xs : List (Option Cell)} (layout : values.type.layout = .strings w)
    (length : indices.length = n) (fits : n < 2 ^ 63)
    (selects : Visit.Selects values 0 (trace values indices k).visits xs) :
    (stringsOf values indices w k).Follows
      (stringsPlan values indices w k n (Column.contents values.type xs).length
        (.ok (.laidOut values.type xs (needsValidity values indices) none))) := by
  have sizes := lengths_eq_sizes layout xs
  have follows := follows_sized
    (.ok (.laidOut values.type xs (needsValidity values indices) none)) length fits
    (selects.measures layout) (by
      intro fit ending full fresh total
      rw [List.length_map] at full
      subst full
      rw [sizes, Column.sum_sizes] at fit total
      have buffer : (Buffer.packed fresh).withMemory
          (Buffer.packed (Column.contents values.type xs).toArray).memory =
          .packed (Column.contents values.type xs).toArray :=
        Buffer.withMemory_packed total.symm
      rw [sizes, walk_copyAll layout selects ending (le_of_sizesFit fit) total, Checked.ok_bind,
        buffer, Draft.sketch_map]
      exact congrArg Except.ok (finish_eq _ _ _ _ (by rw [layout]; exact Layout.noConfusion)
        (by rw [layout]; rfl)))
  rw [sizes, Column.sum_sizes] at follows
  exact follows

/-- Gathering byte strings of which one that is picked does not exist goes astray, after all
checks. -/
lemma follows_stringsOf_stray {ns : List (Option Nat)} (layout : values.type.layout = .strings w)
    (length : indices.length = n) (fits : n < 2 ^ 63)
    (measures : Visit.Measures values w 0 (trace values indices k).visits ns)
    (missing : ¬ ∃ xs, Visit.Selects values 0 (trace values indices k).visits xs) :
    (stringsOf values indices w k).Follows
      (stringsPlan values indices w k n (lengths ns).sum (.error .stray)) :=
  follows_sized _ length fits measures fun fit _ _ fresh _ => by
    rw [walk_visitCopy_stray layout measures (Buffer.toList_packed _) (le_of_sizesFit fit) missing]
    rfl

end Columnar.Gather
