import Mathlib.Tactic.Common
import Columnar.Proofs.Column.Reads
import Columnar.Proofs.Print.Cell
import Columnar.Proofs.Print.Lines

/-!
# The page that a column is printed as

`Print.page` is the whole printout of a column in terms of the texts of its slots. What is printed
line by line is this page as long as no slot cuts it (`Print.print_eq`), which asks nothing of the
slots that are not shown. A column that passes validation is printed as its page if the valid slots
that are shown can be formatted (`Print.print_elides`); validation alone is not enough
(`Print.print_elides_unordered`). Indentations have to leave room for two more blanks in 32 bits
(`PrintOptions.Indents`).
-/

namespace Columnar

/-- Whether the blanks before the lines of slots can be counted in 32 bits. -/
structure PrintOptions.Indents (options : PrintOptions) : Prop where
  nonneg : 0 ≤ options.indent
  word : options.indent + 2 < 2 ^ 31

namespace Print
variable {c : Column} {options : PrintOptions} {n m : Nat} {shown : Int → Text} {i : Int}

section Texts

/-- A line of a column of `n` slots, where `shown` is what each slot is shown as. Every slot but the
last is followed by a comma. -/
def lineText (n : Nat) (shown : Int → Text) : Line → Text
  | .slot i => shown i ++ Text.ascii (if i + 1 < n then ",\n" else "\n")
  | .dots => Text.ascii "...\n"

/-- Lines one behind the other, each behind the same blanks. -/
def bodyText (n : Nat) (shown : Int → Text) (blanks : Text) (ls : List Line) : Text :=
  ls.flatMap fun l => blanks ++ lineText n shown l

/-- A column of `n` slots between brackets. -/
def page (options : PrintOptions) (n : Nat) (shown : Int → Text) : Text :=
  let outer := Text.blanks options.indent.toNat
  let inner := Text.blanks (options.indent + 2).toNat
  if n = 0 then outer ++ Text.ascii "[]"
  else outer ++ Text.ascii "[\n" ++ bodyText n shown inner (elided n options.window.toNat) ++
    (outer ++ Text.ascii "]")

end Texts

section Positions

lemma mem_slotLines {start k : Nat} (h : .slot i ∈ slotLines start k) :
    ∃ p : Nat, i = p ∧ p < start + k := by
  obtain ⟨p, mem, here⟩ := List.mem_map.1 h
  obtain ⟨j, hj, rfl⟩ := List.mem_range'.1 mem
  exact ⟨_, (Line.slot.inj here).symm, by omega⟩

/-- The slots that are shown are slots of the column. -/
lemma mem_elided (h : .slot i ∈ elided n m) : ∃ p : Nat, i = p ∧ p < n := by
  unfold elided at h
  split at h
  · obtain ⟨p, rfl, lt⟩ := mem_slotLines h
    exact ⟨p, rfl, by omega⟩
  · rcases List.mem_append.1 h with first | last
    · obtain ⟨p, rfl, lt⟩ := mem_slotLines first
      exact ⟨p, rfl, by omega⟩
    · cases last with
      | tail _ last =>
        obtain ⟨p, rfl, lt⟩ := mem_slotLines last
        exact ⟨p, rfl, by omega⟩

end Positions

section Run

lemma pad_eq {width : Int} (h : 0 ≤ width) : pad width = .ok (Text.blanks width.toNat) := by
  rw [pad, if_neg (Int.not_lt.2 h)]
  rfl

lemma deeper_eq (indents : options.Indents) : deeper options.indent = options.indent + 2 := by
  have nonneg := indents.nonneg
  exact IntKind.wrap_w32 (by omega) indents.word

/-- A line is not cut if its slot is not. -/
lemma line_eq (length : c.length = n) : ∀ l : Line,
    (∀ i, l = .slot i → slot options c i = .ok (.ofText (shown i))) →
      line options c l = .ok (.ofText (lineText n shown l))
  | .slot i, h => by
    rw [line, h i rfl, length]
    rfl
  | .dots, _ => rfl

/-- Lines are printed one after the other to the end, if none of them is cut. -/
lemma body_eq {blanks : Text} {ls : List Line}
    (h : ∀ l ∈ ls, line options c l = .ok (.ofText (lineText n shown l))) :
    body options c blanks ls = .ok (.ofText (bodyText n shown blanks ls)) := by
  induction ls with
  | nil => rfl
  | cons l ls ih =>
    have first := h l List.mem_cons_self
    have rest := ih fun l' mem => h l' (List.mem_cons_of_mem l mem)
    rw [body, first, rest]
    rfl

/-- A column that passes validation is printed as its page, if no slot that is shown is cut. -/
lemma slots_eq (valid : c.validate = .ok ()) (indents : options.Indents) (length : c.length = n)
    (h : ∀ i, .slot i ∈ elided n options.window.toNat →
      slot options c i = .ok (.ofText (shown i))) :
    slots options c = .ok (.ofText (page options n shown)) := by
  have whole : ∀ l ∈ elided n options.window.toNat,
      line options c l = .ok (.ofText (lineText n shown l)) :=
    fun l mem => line_eq length l fun i is => h i (is ▸ mem)
  have nonneg := indents.nonneg
  rw [slots, valid, deeper_eq indents, pad_eq nonneg, pad_eq (by omega), length, page]
  simp only [Checked.ok_bind, lines_eq, body_eq whole]
  by_cases empty : n = 0
  · subst empty
    rfl
  · rw [if_neg empty, if_neg (Int.natCast_ne_zero.2 empty)]
    rfl

/-- Columns of most types are printed slot by slot. -/
lemma printout_eq (stored : c.type ≠ .null) (plain : c.type.isDictionary = false) :
    c.printout options = slots options c := by
  obtain ⟨t, length, offset, nulls, buffers, dictionary⟩ := c
  cases t with
  | null => exact absurd rfl stored
  | dictionary => cases plain
  | _ => rfl

lemma print_eq (stored : c.type ≠ .null) (plain : c.type.isDictionary = false)
    (valid : c.validate = .ok ()) (indents : options.Indents) (length : c.length = n)
    (h : ∀ i, .slot i ∈ elided n options.window.toNat →
      slot options c i = .ok (.ofText (shown i))) :
    c.print options = .ok (page options n shown) := by
  rw [Column.print, printout_eq stored plain, slots_eq valid indents length h]
  rfl

end Run

section Slots
variable {xs : List (Option Cell)}

/-- What slot `i` is shown as in a column with these slots. -/
def shownAs (options : PrintOptions) (t : DataType) (xs : List (Option Cell)) (i : Int) : Text :=
  slotText options t (xs.getD i.toNat none)

lemma shownAs_eq {p : Nat} {t : DataType} {s : Option Cell} (here : xs[p]? = some s) :
    shownAs options t xs p = slotText options t s := by
  rw [shownAs, Int.toNat_natCast, List.getD_eq_getElem?_getD, here, Option.getD_some]

/-- The slots that are shown are shown as what they are. -/
lemma slot_eq_shownAs (reads : c.Reads xs) (plain : c.type.isDictionary = false)
    (scale : c.type.scaleFits = true) (shown : .slot i ∈ elided xs.length m) :
    slot options c i = .ok (.ofText (shownAs options c.type xs i)) := by
  obtain ⟨p, rfl, lt⟩ := mem_elided shown
  have here := List.getElem?_eq_getElem lt
  rw [shownAs_eq here]
  exact slot_eq plain scale (reads.slot p _ here)

/-- A column whose slots can be read is printed as the page that shows them. -/
lemma print_of_reads (reads : c.Reads xs) (valid : c.validate = .ok ()) (stored : c.type ≠ .null)
    (plain : c.type.isDictionary = false) (scale : c.type.scaleFits = true)
    (indents : options.Indents) :
    c.print options = .ok (page options xs.length (shownAs options c.type xs)) :=
  print_eq stored plain valid indents reads.length fun _ shown =>
    slot_eq_shownAs reads plain scale shown

end Slots

section Elision

/-- Slots of the same validity are printed alike if they are null, and otherwise if their cells
are. -/
lemma slot_congr {d : Column} (valid : d.isValid i = c.isValid i)
    (printed : c.isValid i = .ok true → cell d i = cell c i) :
    slot options d i = slot options c i := by
  unfold slot
  rw [valid]
  cases read : c.isValid i with
  | error e => rfl
  | ok v =>
    cases v with
    | false => rfl
    | true => exact printed read

/-- Whether the value of slot `i` can be formatted: the zeros that its type appends can be counted,
and a byte string, if it has any bytes, lies in its data. -/
structure Formats (c : Column) (i : Int) : Prop where
  scale : c.type.scaleFits = true
  string : ∀ w, c.type.layout = .strings w → ∃ (start : Int) (size : Nat),
    c.stringOffset w i = .ok start ∧ c.stringOffset w (i + 1) = .ok (start + size) ∧
      (size = 0 ∨ 0 ≤ start ∧ start + size ≤ ((c.buffer? 2).map Buffer.size).getD 0)

/-- A byte string that can be formatted can be read: its length is what its offsets say, as the
second one is an offset and the first one is not negative unless there are no bytes. -/
lemma Formats.exists_string {w : Width} (h : Formats c i) (layout : c.type.layout = .strings w) :
    ∃ x, c.cell i = .ok x := by
  obtain ⟨start, size, first, second, inside⟩ := h.string w layout
  have data := c.size_le_memory 2
  have last := IntKind.holds_iff.1 (Column.holds_of_integer (k := .int w) second)
  have most : (0 : Int) ≤ (IntKind.int w).max := by cases w <;> decide
  have length := Column.stringLength_eq first second (by omega) (by omega)
  have apart : start + size - start = size := by omega
  rw [apart] at length
  rw [Column.cell_of_strings layout first length]
  rcases inside with rfl | ⟨lo, inside⟩
  · exact ⟨.bytes #[], rfl⟩
  · obtain ⟨a, rfl⟩ := Int.eq_ofNat_of_zero_le lo
    exact ⟨_, by rw [Column.stringData, Bytes.span_eq (by omega)]; rfl⟩

/-- The cell of a slot that can be formatted can be read, if the column passes validation. -/
lemma Formats.exists_cell {p : Nat} (h : Formats c p) (valid : c.validate = .ok ()) (fits : c.Fits)
    (stored : c.type ≠ .null) (hp : p < c.length) : ∃ x, c.cell p = .ok x := by
  by_cases strings : ∃ w, c.type.layout = .strings w
  · obtain ⟨w, layout⟩ := strings
    exact h.exists_string layout
  · have plain (w : Width) (layout : c.type.layout = .strings w) : False := strings ⟨w, layout⟩
    have validated : c.Validated := ⟨valid, Column.ordered_of_no_strings plain, fits⟩
    exact validated.shaped.exists_cell (mt Column.layout_eq_empty.1 stored) hp

/-- What slot `i` is printed as, if it can be printed. -/
def slotShown (options : PrintOptions) (c : Column) (i : Int) : Text :=
  ((slot options c i).toOption.map Printout.text).getD []

/-- A slot is shown as the text for null if it is null, and as its cell is printed if it is valid
and can be formatted. -/
lemma slotShown_cases {p : Nat} (valid : c.validate = .ok ()) (fits : c.Fits)
    (stored : c.type ≠ .null) (plain : c.type.isDictionary = false) (hp : p < c.length)
    (formats : c.isValid p = .ok true → Formats c p) :
    c.isValid p = .ok false ∧ slotShown options c p = options.nullText ∨
      c.isValid p = .ok true ∧ cell c p = .ok (.ofText (slotShown options c p)) := by
  obtain ⟨v, read⟩ := ((Column.validate_iff fits).1 valid).exists_isValid fits hp
  cases v with
  | false =>
    refine .inl ⟨read, ?_⟩
    rw [slotShown, slot, read]
    rfl
  | true =>
    obtain ⟨x, stored⟩ := (formats read).exists_cell valid fits stored hp
    have printed := cell_eq plain (formats read).scale stored
    have text : slotShown options c p = value c.type (c.type.valueOf x) := by
      rw [slotShown, slot, read, Checked.ok_bind, if_pos rfl, printed]
      rfl
    exact .inr ⟨read, text ▸ printed⟩

/-- How a column is printed that passes validation, is printed slot by slot and can be formatted
where it is shown, and whose sizes are words if it has slots. The printout is complete. The walk
over the lines comes to its end with all slots in order if there are no more than twice as many as
the window says, where a negative window counts as none, and else with the slots of both ends and
one line of dots between. A null slot that is shown is shown as the text for null and a valid one as
its cell is printed. Columns that agree in the slots that are shown, and in the cells of the valid
ones among these, have the same printout: no other cell is looked at. -/
theorem print_elides (options : PrintOptions) (valid : c.validate = .ok ())
    (fits : 0 < c.length → c.Fits) (stored : c.type ≠ .null) (plain : c.type.isDictionary = false)
    (indents : options.Indents)
    (formats : ∀ i, .slot i ∈ elided c.length.toNat options.window.toNat →
      c.isValid i = .ok true → Formats c i) :
    ∃ (n : Nat) (shown : Int → Text), c.length = n ∧
      lines n options.window = elided n options.window.toNat ∧
      c.print options = .ok (page options n shown) ∧
      (∀ i, .slot i ∈ elided n options.window.toNat →
        c.isValid i = .ok false ∧ shown i = options.nullText ∨
          c.isValid i = .ok true ∧ cell c i = .ok (.ofText (shown i))) ∧
      ∀ d : Column, d.validate = .ok () → d.type = c.type → d.length = c.length →
        (∀ i, .slot i ∈ elided n options.window.toNat → d.isValid i = c.isValid i ∧
          (c.isValid i = .ok true → cell d i = cell c i)) →
        d.print options = c.print options := by
  have nonneg := (Column.validateWindow_iff.1 (Column.validate_eq_ok.1 valid).1).1
  obtain ⟨n, length⟩ := Int.eq_ofNat_of_zero_le nonneg
  rw [length, Int.toNat_natCast] at formats
  have shows (i : Int) (shown : .slot i ∈ elided n options.window.toNat) :
      c.isValid i = .ok false ∧ slotShown options c i = options.nullText ∨
        c.isValid i = .ok true ∧ cell c i = .ok (.ofText (slotShown options c i)) := by
    obtain ⟨p, rfl, lt⟩ := mem_elided shown
    exact slotShown_cases valid (fits (by omega)) stored plain (by omega) (formats p shown)
  have printed (i : Int) (shown : .slot i ∈ elided n options.window.toNat) :
      slot options c i = .ok (.ofText (slotShown options c i)) := by
    rcases shows i shown with ⟨null, text⟩ | ⟨read, text⟩
    · rw [slot, null, text]
      rfl
    · rw [slot, read, Checked.ok_bind, if_pos rfl]
      exact text
  have whole := print_eq stored plain valid indents length printed
  refine ⟨n, slotShown options c, length, lines_eq _ _, whole, shows,
    fun d valid type length' agree => ?_⟩
  rw [whole]
  refine print_eq (type ▸ stored) (type ▸ plain) valid indents (length'.trans length)
    fun i shown => ?_
  obtain ⟨validity, cells⟩ := agree i shown
  rw [slot_congr validity cells]
  exact printed i shown

/-- Five texts of which the first and the last are shown, the last one null. In the middle their
offsets are out of order and lead out of the data, and they are printed as texts are whose offsets
do not. -/
theorem print_elides_middle :
    let texts (offsets : Bytes) : Column := ⟨.string, 5, 0, 1, [some (.ofBytes #[0x0f]),
      some (.ofBytes offsets), some (.ofBytes #[97, 98, 99, 100, 101])], none⟩
    let c := texts #[0, 0, 0, 0, 1, 0, 0, 0, 200, 0, 0, 0, 3, 0, 0, 0, 4, 0, 0, 0, 5, 0, 0, 0]
    let d := texts #[0, 0, 0, 0, 1, 0, 0, 0, 2, 0, 0, 0, 3, 0, 0, 0, 4, 0, 0, 0, 5, 0, 0, 0]
    let options : PrintOptions := { window := 1 }
    c.validate = .ok () ∧ c.Fits ∧ options.Indents ∧ Formats c 0 ∧ c.isValid 4 = .ok false ∧
      c.cell 1 = .error .stray ∧ c.cell 2 = .error .negativeLength ∧
      (∃ shown, c.print options = .ok (page options 5 shown)) ∧
      c.print options = .ok (Text.ascii "[\n  \"a\",\n  ...\n  null\n]") ∧
      d.print options = c.print options := by
  intro texts c d options
  have valid : c.validate = .ok () := by decide +kernel
  have fits : c.Fits := by decide +kernel
  have indents : options.Indents := ⟨by decide, by decide⟩
  have first : Formats c 0 := ⟨rfl, fun w layout => ⟨0, 1, by
    cases layout
    decide +kernel⟩⟩
  have last : c.isValid 4 = .ok false := by decide +kernel
  have ends {i : Int} (mem : .slot i ∈ elided 5 1) : i = 0 ∨ i = 4 := by
    rcases List.mem_cons.1 mem with first | rest
    · exact .inl (Line.slot.inj first)
    · cases rest with
      | tail _ last => exact .inr (Line.slot.inj (List.mem_singleton.1 last))
  obtain ⟨n, shown, length, -, printed, -, alike⟩ := print_elides options valid (fun _ => fits)
    (by decide) rfl indents fun i mem read => by
      rcases ends mem with rfl | rfl
      · exact first
      · cases last.symm.trans read
  cases Int.ofNat_inj.1 length
  refine ⟨valid, fits, indents, first, last, by decide +kernel, by decide +kernel, ⟨shown, printed⟩,
    by decide +kernel, alike d (by decide +kernel) rfl rfl fun i mem => ?_⟩
  rcases ends mem with rfl | rfl
  · decide +kernel
  · decide +kernel

/-- Offsets that decrease in the middle pass validation, and the printout ends where they do: it is
no page, whatever the slots are shown as. -/
theorem print_elides_unordered :
    let c : Column := ⟨.string, 3, 0, 0, [none,
      some (.ofBytes #[0, 0, 0, 0, 2, 0, 0, 0, 1, 0, 0, 0, 3, 0, 0, 0]),
      some (.ofBytes #[97, 98, 99])], none⟩
    c.validate = .ok () ∧ c.print {} = .ok (Text.ascii "[\n  \"ab\",\n  \" ") ∧
      ∀ shown, c.print {} ≠ .ok (page {} 3 shown) := by
  intro c
  have cut : c.print {} = .ok (Text.ascii "[\n  \"ab\",\n  \" ") := by decide +kernel
  refine ⟨by decide +kernel, cut, fun shown whole => ?_⟩
  have same : Text.ascii "[\n  \"ab\",\n  \" " = page {} 3 shown :=
    Except.ok.inj (cut.symm.trans whole)
  have bracket : (page {} 3 shown).getLast? = some 93 := List.getLast?_append
  rw [← same] at bracket
  cases bracket

end Elision

end Print

end Columnar
