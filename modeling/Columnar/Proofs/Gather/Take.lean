import Mathlib.Tactic.Common
import Columnar.Gather.Take
import Columnar.Proofs.Column.Alike
import Columnar.Proofs.Gather.Boolean
import Columnar.Proofs.Gather.FixedWidth
import Columnar.Proofs.Gather.Strings

/-!
# Gathering lays out what is picked

Whatever the layout, a gather ends as its checks do: those for room, for the total length of strings
and the ending of its trace (`Gather.checks`). When they are passed it has laid out the slots that
the trace picks. What it asks its pool for, and between which checks, is its plan (`Gather.plan`).
-/

namespace Columnar

/-- Whether a gather supports values of the type. -/
def DataType.Gatherable (t : DataType) : Prop :=
  t ≠ .null ∧ t ≠ .float16 ∧ t ≠ .dayTimeInterval

instance (t : DataType) : Decidable t.Gatherable := inferInstanceAs (Decidable (_ ∧ _ ∧ _))

lemma DataType.isInteger_iff {t : DataType} : t.isInteger = true ↔ ∃ k, t = .int k := by
  constructor
  · intro h
    cases t with
    | int k => exact ⟨k, rfl⟩
    | _ => cases h
  · rintro ⟨k, rfl⟩
    rfl

namespace Gather
variable {values indices : Column} {k : IntKind} {n : Nat} {xs : List (Option Cell)}

/-- The checks of a gather of `n` slots in their order, with the total length of the strings that
are picked and the ending of the trace. -/
def checks (t : DataType) (n total : Nat) (ending : Checked Unit) : Checked Unit :=
  match t.layout with
  | .fixed w => do
    Buffer.room (n * w)
    ending
  | .strings w => do
    Buffer.room ((n + 1) * w.bytes)
    sizesFit t w total
    ending
    Buffer.room total
  | _ => ending

lemma checks_strings {t : DataType} {w : Width} {total : Nat} {ending : Checked Unit}
    (layout : t.layout = .strings w) : checks t n total ending = (do
      Buffer.room ((n + 1) * w.bytes)
      sizesFit t w total
      ending
      Buffer.room total) := by
  rw [checks, layout]

/-- What a gather of `n` slots asks for, given the total length of the strings that are picked and
how it ends behind all checks. -/
def plan (values indices : Column) (k : IntKind) (n total : Nat) (result : Checked Column) :
    Plan Column :=
  match values.type.layout with
  | .empty => .check (trace values indices k).ending (.ends result)
  | .bits =>
    .asksIf (needsValidity values indices) (Buffer.footprint ((n + 7) / 8))
      (.asks (Buffer.footprint ((n + 7) / 8))
        (.check (trace values indices k).ending (.ends result)))
  | .fixed w =>
    .asksIf (needsValidity values indices) (Buffer.footprint ((n + 7) / 8))
      (.check (Buffer.room (n * w))
        (.asks (Buffer.footprint (n * w))
          (.check (trace values indices k).ending (.ends result))))
  | .strings w => stringsPlan values indices w k n total result

/-- A plan ends as the checks do if every request is granted. -/
lemma result_plan {total : Nat} {result : Checked Column} :
    (plan values indices k n total result).result = (do
      checks values.type n total (trace values indices k).ending
      result) := by
  unfold plan checks
  cases values.type.layout with
  | empty | bits | fixed w =>
    simp only [Plan.result_asksIf, Plan.result_check, Plan.result, bind_assoc]
  | strings w =>
    simp only [stringsPlan, Plan.result_asksIf, Plan.result_check, Plan.result, bind_assoc]

/-- The dictionary that a gathered column shares with its values. -/
def sharedDictionary (values : Column) : Option Column :=
  if values.type.isDictionary then values.dictionary else none

/-- The column that a gather makes of the slots that it picks. -/
def gathered (values indices : Column) (xs : List (Option Cell)) : Column :=
  .laidOut values.type xs (needsValidity values indices) (sharedDictionary values)

lemma withIndexKind_eq {α : Type} {go : IntKind → Pooled α} (index : indices.type = .int k) :
    withIndexKind indices go = go k := by
  rw [withIndexKind, index]

lemma bytes_mem_gatherableWidths (w : Width) : (w.bytes : Int) ∈ gatherableWidths := by
  cases w <;> decide

lemma mem_gatherableWidths {t : DataType} {w : Nat} (layout : t.layout = .fixed w) :
    (w : Int) ∈ gatherableWidths := by
  cases t with
  | int kind =>
    cases layout
    exact bytes_mem_gatherableWidths _
  | dictionary kind value ordered =>
    cases layout
    exact bytes_mem_gatherableWidths _
  | _ => cases layout <;> decide

lemma fixedWidth_eq {w : Nat} (layout : values.type.layout = .fixed w)
    (index : indices.type = .int k) :
    fixedWidth values indices w = fixedWidthOf values indices w k := by
  rw [fixedWidth, if_pos (mem_gatherableWidths layout), withIndexKind_eq index]
  rfl

section Plain

/-- Columns that are not dictionary-encoded are gathered as their layout says. -/
lemma byLayout_eq (gatherable : values.type.Gatherable)
    (plain : values.type.isDictionary = false) :
    byLayout values indices =
      match values.type.layout with
      | .bits => boolean values indices
      | .fixed w => fixedWidth values indices w
      | .strings w => strings values indices w
      | .empty => throw (.gather (.unsupportedType values.type)) := by
  unfold byLayout
  split
  · next e => exact absurd e gatherable.1
  · next e => exact absurd e gatherable.2.1
  · next e => exact absurd e gatherable.2.2
  · next e =>
    rw [e] at plain
    cases plain
  · rfl

lemma follows_plain (index : indices.type = .int k) (length : indices.length = n)
    (fits : n < 2 ^ 63) (gatherable : values.type.Gatherable)
    (plain : values.type.isDictionary = false)
    (selects : Visit.Selects values 0 (trace values indices k).visits xs) :
    (byLayout values indices).Follows
      (plan values indices k n (Column.contents values.type xs).length
        (.ok (.laidOut values.type xs (needsValidity values indices) none))) := by
  rw [byLayout_eq gatherable plain]
  unfold plan
  cases layout : values.type.layout with
  | empty => exact absurd (Column.layout_eq_empty.1 layout) gatherable.1
  | bits =>
    change (boolean values indices).Follows _
    rw [boolean, withIndexKind_eq index]
    exact follows_booleanOf layout length fits selects
  | fixed w =>
    change (fixedWidth values indices w).Follows _
    rw [fixedWidth_eq layout index]
    exact follows_fixedWidthOf layout length fits selects
  | strings w =>
    change (strings values indices w).Follows _
    rw [strings, withIndexKind_eq index]
    exact follows_stringsOf layout length fits selects

end Plain

section Encoded

lemma trace_keys : trace values.keys indices k = trace values indices k := by
  have alike := values.alike_keys
  have same : visitAt values.keys indices k = visitAt values indices k := by
    funext p
    simp only [visitAt, alike.isValid, alike.length]
  rw [trace, trace, same]

lemma needsValidity_keys : needsValidity values.keys indices = needsValidity values indices := by
  rw [needsValidity, needsValidity, values.alike_keys.bitmap?]

lemma follows_encoded {kind : IntKind} {value : DataType} {ordered : Bool}
    (encoded : values.type = .dictionary kind value ordered) (index : indices.type = .int k)
    (length : indices.length = n) (fits : n < 2 ^ 63)
    (selects : Visit.Selects values 0 (trace values indices k).visits xs) :
    (byLayout values indices).Follows
      (plan values indices k n (Column.contents values.type xs).length
        (.ok (.laidOut values.type xs (needsValidity values indices) values.dictionary))) := by
  have keys : values.keys.type = .int kind := by rw [Column.keys, encoded]
  have layout : values.keys.type.layout = .fixed kind.width.bytes := by rw [keys]; rfl
  have width : values.keys.type.byteWidth?.getD 0 = kind.width.bytes := by
    rw [keys]
    change 8 * kind.width.bytes / 8 = kind.width.bytes
    omega
  have dispatch : byLayout values indices = dictionary values indices := by
    unfold byLayout
    rw [encoded]
  have picked : Visit.Selects values.keys 0 (trace values.keys indices k).visits xs := by
    rw [trace_keys]
    exact selects.congr fun i q j x _ cell => (values.alike_keys.cell j).trans cell
  have follows := (follows_fixedWidthOf layout length fits picked).bind_map
    (f := fun c => pure { c with type := values.type, dictionary := values.dictionary })
    (g := fun c => { c with type := values.type, dictionary := values.dictionary })
    fun _ _ => rfl
  rw [trace_keys, needsValidity_keys, keys] at follows
  simp only [Plan.map_asksIf, Plan.map_check, Plan.map] at follows
  rw [dispatch, dictionary, width, fixedWidth_eq layout index]
  unfold plan
  rw [encoded] at follows ⊢
  exact follows

end Encoded

/-- A dictionary is shared by columns of the types that call for one. -/
lemma isSome_sharedDictionary
    (encoded : values.type.isDictionary = true → values.dictionary.isSome = true) :
    (sharedDictionary values).isSome = values.type.isDictionary := by
  unfold sharedDictionary
  cases dictionary : values.type.isDictionary with
  | false => rfl
  | true => exact encoded dictionary

/-- A gathered column that shares a dictionary if it needs one is opened as it is. -/
lemma opened_gathered (stored : values.type.layout ≠ .empty)
    (encoded : values.type.isDictionary = true → values.dictionary.isSome = true) :
    (gathered values indices xs).opened = .ok (gathered values indices xs) := by
  have count := Column.storedCount_eq (gathered values indices xs)
    (Column.type_ne_null (t := values.type) stored)
  rw [Column.opened_eq (isSome_sharedDictionary encoded).trans, count]
  rfl

lemma take_eq (index : indices.type = .int k) :
    take values indices = (do
      let out ← byLayout values indices
      ofExcept out.opened) := by
  have integer := DataType.isInteger_iff.2 ⟨k, index⟩
  rw [take, if_neg (not_not.2 integer)]

/-- A gather whose visits can all be read does as planned, and makes the column of the slots that it
picks. -/
lemma follows_take (index : indices.type = .int k) (length : indices.length = n)
    (fits : n < 2 ^ 63) (gatherable : values.type.Gatherable)
    (encoded : values.type.isDictionary = true → values.dictionary.isSome = true)
    (selects : Visit.Selects values 0 (trace values indices k).visits xs) :
    (take values indices).Follows
      (plan values indices k n (Column.contents values.type xs).length
        (.ok (gathered values indices xs))) := by
  have stored : values.type.layout ≠ .empty := fun e =>
    gatherable.1 (Column.layout_eq_empty.1 e)
  have follows : (byLayout values indices).Follows
      (plan values indices k n (Column.contents values.type xs).length
        (.ok (gathered values indices xs))) := by
    unfold gathered sharedDictionary
    cases dictionary : values.type.isDictionary with
    | false => exact follows_plain index length fits gatherable dictionary selects
    | true =>
      obtain ⟨kind, value, ordered, e⟩ : ∃ kind value ordered,
          values.type = .dictionary kind value ordered := by
        cases e : values.type with
        | dictionary kind value ordered => exact ⟨kind, value, ordered, rfl⟩
        | _ =>
          rw [e] at dictionary
          cases dictionary
      exact follows_encoded e index length fits selects
  rw [take_eq index, ← Plan.map_id (plan _ _ _ _ _ _)]
  refine follows.bind_map fun out made => ?_
  rw [result_plan] at made
  obtain ⟨-, made⟩ := Checked.check_bind_eq_ok.1 made
  cases made
  rw [opened_gathered stored encoded]
  rfl

/-- A gather whose visits can all be read makes the column of the slots that it picks, once its
checks are passed. -/
lemma settles_take (index : indices.type = .int k) (length : indices.length = n)
    (fits : n < 2 ^ 63) (gatherable : values.type.Gatherable)
    (encoded : values.type.isDictionary = true → values.dictionary.isSome = true)
    (selects : Visit.Selects values 0 (trace values indices k).visits xs) :
    (take values indices).Settles (do
      checks values.type n (Column.contents values.type xs).length (trace values indices k).ending
      return gathered values indices xs) := by
  have settles := (follows_take index length fits gatherable encoded selects).settles
  rw [result_plan] at settles
  exact settles

/-- Indices that are not integers are refused first, whatever the values are. -/
lemma run_take_of_not_integer (h : indices.type.isInteger = false) (pool : Pool) :
    (take values indices).run pool =
      (.error (.gather (.indicesNotInteger indices.type)), pool) := by
  unfold take
  rw [h, if_pos (by decide)]
  rfl

/-- Values that are not supported are refused next. -/
lemma run_take_of_not_gatherable (index : indices.type = .int k) (h : ¬ values.type.Gatherable)
    (pool : Pool) :
    (take values indices).run pool = (.error (.gather (.unsupportedType values.type)), pool) := by
  have refused : byLayout values indices =
      throw (.gather (.unsupportedType values.type)) := by
    rw [DataType.Gatherable, not_and_or, not_and_or, not_not, not_not, not_not] at h
    unfold byLayout
    rcases h with e | e | e
    · rw [e]
    · rw [e]
    · rw [e]
  rw [take_eq index, refused]
  rfl

lemma gatherable_of_strings {t : DataType} {w : Width} (layout : t.layout = .strings w) :
    t.Gatherable ∧ t.isDictionary = false := by
  cases t with
  | string | binary | largeString | largeBinary => exact ⟨by decide, rfl⟩
  | _ => cases layout

/-- A gather of strings of which one that is picked does not exist goes astray, once its checks are
passed. -/
lemma settles_take_stray {w : Width} {ns : List (Option Nat)} (index : indices.type = .int k)
    (length : indices.length = n) (fits : n < 2 ^ 63) (layout : values.type.layout = .strings w)
    (measures : Visit.Measures values w 0 (trace values indices k).visits ns)
    (missing : ¬ ∃ xs, Visit.Selects values 0 (trace values indices k).visits xs) :
    (take values indices).Settles (do
      checks values.type n (lengths ns).sum (trace values indices k).ending
      .error .stray) := by
  obtain ⟨gatherable, plain⟩ := gatherable_of_strings layout
  have follows := follows_stringsOf_stray layout length fits measures missing
  have same : stringsPlan values indices w k n (lengths ns).sum (.error .stray) =
      plan values indices k n (lengths ns).sum (.error .stray) := by
    rw [plan, layout]
  rw [same] at follows
  rw [take_eq index, byLayout_eq gatherable plain, layout, ← result_plan, ← Plan.map_id (plan ..)]
  change (strings values indices w >>= _).Settles _
  rw [strings, withIndexKind_eq index]
  -- Nothing is made, so it does not matter how a column would be opened.
  refine (follows.bind_map fun out made => ?_).settles
  rw [result_plan] at made
  cases (Checked.check_bind_eq_ok.1 made).2

end Gather

end Columnar
