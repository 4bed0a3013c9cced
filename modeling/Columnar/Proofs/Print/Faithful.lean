import Mathlib.Data.List.Basic
import Mathlib.Tactic.Common
import Columnar.Proofs.Column.Equal
import Columnar.Proofs.Print.Legible
import Columnar.Proofs.Print.Page

/-!
# Printing is faithful

Equal columns are printed alike, whatever their windows, their bitmaps and the bytes behind their
null slots are. The other way round, a page that shows every slot of a legible type is read back
line by line: its lines say how many slots there are and what each of them is shown as
(`page_injective`), and this says what the slot is. So such columns are equal if they are printed
alike (`Print.print_faithful`).
-/

namespace Columnar.Print
variable {options : PrintOptions} {n n' : Nat} {shown shown' : Int → Text}

section Pages

/-- The line of slot `i` without its end. -/
def slotLine (inner : Text) (n : Nat) (shown : Int → Text) (i : Nat) : Text :=
  inner ++ shown i ++ if i + 1 < n then Text.ascii "," else []

/-- The lines of a page that shows all of its slots, without their ends. -/
def pageLines (options : PrintOptions) (n : Nat) (shown : Int → Text) : List Text :=
  let outer := Text.blanks options.indent.toNat
  let inner := Text.blanks (options.indent + 2).toNat
  if n = 0 then [outer ++ Text.ascii "[]"]
  else (outer ++ Text.ascii "[") ::
    ((List.range n).map (slotLine inner n shown) ++ [outer ++ Text.ascii "]"])

lemma length_pageLines (options : PrintOptions) (n : Nat) (shown : Int → Text) :
    (pageLines options n shown).length = if n = 0 then 1 else n + 2 := by
  rw [pageLines]
  split
  · rfl
  · rw [List.length_cons, List.length_append, List.length_map, List.length_range,
      List.length_singleton]

lemma pageLines_ne_nil (options : PrintOptions) (n : Nat) (shown : Int → Text) :
    pageLines options n shown ≠ [] := by
  refine List.ne_nil_of_length_pos ?_
  rw [length_pageLines]
  split
  · decide
  · exact Nat.succ_pos _

lemma intercalate_append_singleton (ls : List Text) (last : Text) :
    [10].intercalate (ls ++ [last]) = (ls.flatMap fun l => l ++ [10]) ++ last := by
  induction ls with
  | nil => exact List.intercalate_singleton
  | cons l ls ih =>
    rw [List.cons_append, List.intercalate_cons_of_ne_nil (List.append_ne_nil_of_right_ne_nil ls
      (List.cons_ne_nil last [])), ih, List.flatMap_cons, List.append_assoc _ _ last]

/-- The line of a slot ends behind its text or behind the comma after it. -/
lemma bodyText_slots (inner : Text) (n : Nat) (shown : Int → Text) :
    bodyText n shown inner (slotLines 0 n) =
      ((List.range n).map (slotLine inner n shown)).flatMap fun l => l ++ [10] := by
  rw [bodyText, slotLines, List.flatMap_map, List.flatMap_map, List.range_eq_range']
  refine List.flatMap_congr fun i _ => ?_
  rw [lineText, slotLine]
  by_cases last : i + 1 < n
  · have last' : (i : Int) + 1 < n := by omega
    rw [if_pos last, if_pos last', ← List.append_assoc, List.append_assoc _ _ [10]]
    rfl
  · have last' : ¬ (i : Int) + 1 < n := by omega
    rw [if_neg last, if_neg last', List.append_nil, ← List.append_assoc]
    rfl

lemma page_eq_intercalate (all : n ≤ 2 * options.window.toNat) :
    page options n shown = [10].intercalate (pageLines options n shown) := by
  rw [page, pageLines]
  by_cases empty : n = 0
  · subst empty
    exact List.intercalate_singleton.symm
  · rw [if_neg empty, if_neg empty, elided, if_pos all, bodyText_slots, ← List.cons_append,
      intercalate_append_singleton, List.flatMap_cons]
    simp only [List.append_assoc]
    rfl

/-- No line goes on behind its end, if no text of a slot does. -/
lemma mem_pageLines (options : PrintOptions) (inner : ∀ i : Nat, i < n → 10 ∉ shown i) :
    ∀ l ∈ pageLines options n shown, 10 ∉ l := by
  have blanks {k : Nat} : (10 : UInt8) ∉ Text.blanks k := fun mem =>
    absurd (List.eq_of_mem_replicate mem) (by decide)
  have behind {k : Nat} {t : Text} (inside : 10 ∉ t) : 10 ∉ Text.blanks k ++ t := fun mem =>
    (List.mem_append.1 mem).elim blanks inside
  intro l mem
  rw [pageLines] at mem
  split at mem
  · rw [List.mem_singleton.1 mem]
    exact behind (by decide)
  · rcases List.mem_cons.1 mem with rfl | mem
    · exact behind (by decide)
    rcases List.mem_append.1 mem with slot | last
    · obtain ⟨i, hi, rfl⟩ := List.mem_map.1 slot
      have comma : 10 ∉ (if i + 1 < n then Text.ascii "," else [] : Text) := by
        split
        · decide
        · decide
      rw [slotLine, List.append_assoc]
      refine behind fun mem => ?_
      exact (List.mem_append.1 mem).elim (inner i (List.mem_range.1 hi)) comma
    · rw [List.mem_singleton.1 last]
      exact behind (by decide)

/-- A page that shows all of its slots says how many there are and what each of them is shown as. -/
lemma page_injective (all : n ≤ 2 * options.window.toNat) (all' : n' ≤ 2 * options.window.toNat)
    (inner : ∀ i : Nat, i < n → 10 ∉ shown i) (inner' : ∀ i : Nat, i < n' → 10 ∉ shown' i)
    (h : page options n shown = page options n' shown') :
    n = n' ∧ ∀ i : Nat, i < n → shown i = shown' i := by
  have lines : pageLines options n shown = pageLines options n' shown' := by
    have read := List.splitOn_intercalate 10 (mem_pageLines options inner)
      (pageLines_ne_nil _ _ _)
    rw [← page_eq_intercalate all, h, page_eq_intercalate all',
      List.splitOn_intercalate 10 (mem_pageLines options inner') (pageLines_ne_nil _ _ _)] at read
    exact read.symm
  have count := congrArg List.length lines
  rw [length_pageLines, length_pageLines] at count
  obtain rfl : n = n' := by
    split at count <;> split at count <;> omega
  refine ⟨rfl, fun i hi => ?_⟩
  have pos : n ≠ 0 := by omega
  rw [pageLines, pageLines, if_neg pos, if_neg pos] at lines
  have slots := List.append_cancel_right (List.tail_eq_of_cons_eq lines)
  have line := List.map_inj_left.1 slots i (List.mem_range.2 hi)
  rw [slotLine, slotLine, List.append_left_inj, List.append_right_inj] at line
  exact line

end Pages

section Columns
variable {a b : Column} {t : DataType} {same : Bool} {xs ys : List (Option Cell)}

/-- What a column of a plain type is printed as depends on its slots only. -/
lemma exists_print (t : DataType) (options : PrintOptions) (xs : List (Option Cell))
    (plain : t.isDictionary = false) (scale : t.scaleFits = true) (indents : options.Indents) :
    ∃ text, ∀ c : Column, c.type = t → c.validate = .ok () → c.Reads xs →
      c.print options = .ok text := by
  by_cases null : t = .null
  · refine ⟨Text.ofInt xs.length ++ Text.ascii " nulls", fun c type _ reads => ?_⟩
    obtain ⟨_, _, _, _, _, _⟩ := c
    cases type.trans null
    cases reads.length
    rfl
  · refine ⟨page options xs.length (shownAs options t xs), fun c type valid reads => ?_⟩
    subst type
    exact print_of_reads reads valid null plain scale indents

/-- No text of a slot of a legible type breaks its line. -/
lemma shownAs_inner (legible : Legible t) (null : options.nullText = Text.ascii "null")
    (fits : ∀ x, some x ∈ xs → x.Fits t.layout) (i : Nat) (hi : i < xs.length) :
    10 ∉ shownAs options t xs i := by
  rw [shownAs_eq (List.getElem?_eq_getElem hi)]
  cases slot : xs[i] with
  | none =>
    rw [slotText, null]
    decide
  | some x =>
    intro ends
    cases legible.inner x (fits x (slot ▸ List.getElem_mem hi)) 10 ends

/-- The slots of a legible type are told apart by the page that shows all of them. -/
lemma slots_of_page (legible : Legible t) (null : options.nullText = Text.ascii "null")
    (fits : ∀ x, some x ∈ xs → x.Fits t.layout) (fits' : ∀ x, some x ∈ ys → x.Fits t.layout)
    (all : xs.length ≤ 2 * options.window.toNat) (all' : ys.length ≤ 2 * options.window.toNat)
    (h : page options xs.length (shownAs options t xs) =
      page options ys.length (shownAs options t ys)) : xs = ys := by
  obtain ⟨length, shown⟩ := page_injective all all' (shownAs_inner legible null fits)
    (shownAs_inner legible null fits') h
  refine List.ext_getElem length fun i hi hi' => ?_
  have text := shown i hi
  rw [shownAs_eq (List.getElem?_eq_getElem hi), shownAs_eq (List.getElem?_eq_getElem hi')] at text
  exact slotText_injective legible null (fun x slot => fits x (slot ▸ List.getElem_mem hi))
    (fun x slot => fits' x (slot ▸ List.getElem_mem hi')) text

/-- Printing is faithful. Columns of one type that are equal are printed as the same text, whatever
the window. The other way round, if the type is legible, null slots are printed as usual and all
slots are shown, columns that are printed as the same text are of the same length and equal. Both
hold whether or not the two are known to be one column. The numbers of blanks and of appended zeros
have to be 32-bit ones: `print_faithful_not_counted` has printings for which they are not. -/
theorem print_faithful (options : PrintOptions) (ha : a.Sound) (hb : b.Sound)
    (type : a.type = b.type) (plain : a.type.isDictionary = false)
    (scale : a.type.scaleFits = true) (indents : options.Indents) (one : same = true → a = b) :
    (Column.equals same a b = .ok true →
      ∃ text, a.print options = .ok text ∧ b.print options = .ok text) ∧
    (a.type.isLegible = true → options.nullText = Text.ascii "null" →
      a.length ≤ 2 * options.window → b.length ≤ 2 * options.window →
      a.print options = b.print options →
      a.length = b.length ∧ Column.equals same a b = .ok true) := by
  obtain ⟨xs, left⟩ := ha.exists_reads
  obtain ⟨ys, right⟩ := hb.exists_reads
  have decides : Column.equals same a b = .ok true ↔ xs = ys := by
    rw [ha.equals_iff_sameSlots hb plain one, Column.sameSlots_iff left right]
    exact and_iff_right type
  refine ⟨fun equal => ?_, fun legible null all all' alike => ?_⟩
  · obtain rfl := decides.1 equal
    obtain ⟨text, printed⟩ := exists_print a.type options xs plain scale indents
    exact ⟨text, printed a rfl ha.validates left, printed b type.symm hb.validates right⟩
  · have stored : a.type ≠ .null := by
      intro none
      rw [none] at legible
      cases legible
    rw [print_of_reads left ha.validates stored plain scale indents,
      print_of_reads right hb.validates (type ▸ stored) (type ▸ plain) (type ▸ scale)
        indents] at alike
    rw [left.length] at all
    rw [right.length] at all'
    rw [← type] at alike
    obtain rfl := slots_of_page (legible_of_isLegible legible scale) null (fun x => left.fits)
      (fun x mem => type ▸ right.fits mem) (by omega) (by omega) (Except.ok.inj alike)
    exact ⟨left.length.trans right.length.symm, decides.2 rfl⟩

/-- A window with bytes behind its null slot against a column that has none there. -/
theorem print_faithful_window :
    let a : Column := ⟨.binary, 2, 1, -1, [some (.ofBytes #[3]),
      some (.ofBytes #[0, 0, 0, 0, 1, 0, 0, 0, 2, 0, 0, 0, 4, 0, 0, 0]),
      some (.ofBytes #[0x01, 0xab, 0xcd, 0xef])], none⟩
    let b : Column := ⟨.binary, 2, 0, 1, [some (.ofBytes #[1]),
      some (.ofBytes #[0, 0, 0, 0, 1, 0, 0, 0, 1, 0, 0, 0]), some (.ofBytes #[0xab])], none⟩
    let text := Text.ascii "[\n  AB,\n  null\n]"
    a.Sound ∧ b.Sound ∧ a.print {} = .ok text ∧ b.print {} = .ok text ∧ a.length = b.length ∧
      Column.equals false a b = .ok true := by
  intro a b text
  have ha : a.Sound := by decide +kernel
  have hb : b.Sound := by decide +kernel
  have one : false = true → a = b := fun one => absurd one Bool.false_ne_true
  obtain ⟨alike, equal⟩ := print_faithful {} ha hb rfl rfl rfl ⟨by decide, by decide⟩ one
  have printed : a.print {} = .ok text := by decide +kernel
  obtain ⟨shared, left, right⟩ := alike (by decide +kernel)
  cases left.symm.trans printed
  obtain ⟨length, same⟩ := equal rfl rfl (by decide) (by decide) (left.trans right.symm)
  exact ⟨ha, hb, printed, right, length, same⟩

/-- Columns that equal themselves and are printed as no text at all. Two blanks more than the
indentation of the first, and the zeros behind the value of the second, are a negative number of 32
bits. -/
theorem print_faithful_not_counted :
    let c : Column := ⟨.int (.int .w8), 0, 0, 0, [none, none], none⟩
    let d : Column := ⟨.decimal128 38 (-2 ^ 31), 1, 0, 0,
      [none, some (.ofBytes #[1, 0, 0, 0, 0, 0, 0, 0, 0, 0, 0, 0, 0, 0, 0, 0])], none⟩
    let options : PrintOptions := { indent := 2 ^ 31 - 2 }
    c.Sound ∧ c.type.isDictionary = false ∧ 0 ≤ options.indent ∧
      (∀ same, Column.equals same c c = .ok true) ∧ c.print options = .error .negativeLength ∧
      d.Sound ∧ d.type.isDictionary = false ∧ (∀ same, Column.equals same d d = .ok true) ∧
      d.print {} = .error .negativeLength := by
  decide +kernel

end Columns

end Columnar.Print
