import Mathlib.Data.List.Basic
import Mathlib.Tactic.Common
import Columnar.DataType.Text
import Columnar.Proofs.Text

/-!
# The text of a type says what it is

Two types with the same text are the same type (`DataType.text_injective`), whatever their time
zones hold. The text of a type begins with the name of its kind, and that of a dictionary type is
read from the end, where all but the value type stands.
-/

namespace Columnar

/-- No unit is written like the beginning of another one. -/
lemma TimeUnit.eq_of_suffix_append {u v : TimeUnit} {x y : Text}
    (h : u.suffix ++ x = v.suffix ++ y) : u = v := by
  have first : ∀ (u : TimeUnit) (x : Text), (u.suffix ++ x).head? = u.suffix.head? := by
    intro u x
    cases u <;> rfl
  have heads := congrArg List.head? h
  rw [first, first] at heads
  cases u <;> cases v <;> first | rfl | exact absurd heads (by decide)

namespace DataType

section Kinds

/-- Whether a byte opens the parameters of a type. -/
def isBracket (b : UInt8) : Bool := b == 91 || b == 40 || b == 60

/-- The name that the text of a type begins with. -/
def head (t : DataType) : Text := t.text.takeWhile fun b => !isBracket b

/-- The type with all parameters replaced by fixed ones. -/
def bare : DataType → DataType
  | timestamp .. => timestamp .second []
  | time32 _ => time32 .second
  | time64 _ => time64 .second
  | duration _ => duration .second
  | decimal128 .. => decimal128 0 0
  | dictionary .. => dictionary (.int .w8) null false
  | t => t

/-- One type of each kind. -/
def kinds : List DataType :=
  [null, bool, float16, float32, float64, string, binary, largeString, largeBinary, date32, date64,
    timestamp .second [], time32 .second, time64 .second, monthInterval, dayTimeInterval,
    duration .second, decimal128 0 0, dictionary (.int .w8) null false] ++ IntKind.all.map int

lemma bare_mem_kinds (t : DataType) : t.bare ∈ kinds := by
  cases t with
  | int k =>
    obtain ⟨signed, width⟩ := k
    cases signed <;> cases width <;> decide
  | _ => exact List.mem_of_elem_eq_true rfl

lemma head_bare (t : DataType) : t.bare.head = t.head := by
  cases t with
  | timestamp u z => cases z <;> cases u <;> rfl
  | _ => rfl

/-- Types whose texts begin alike are of one kind. -/
lemma bare_eq_of_text {s t : DataType} (h : s.text = t.text) : s.bare = t.bare := by
  have apart : ∀ s ∈ kinds, ∀ t ∈ kinds, s.head = t.head → s = t := by decide +kernel
  refine apart _ (bare_mem_kinds s) _ (bare_mem_kinds t) ?_
  rw [head_bare, head_bare, head, h]
  rfl

end Kinds

section Parameters

lemma unit_of_withUnit {name : Text} {u v : TimeUnit} (h : withUnit name u = withUnit name v) :
    u = v := by
  rw [withUnit, withUnit, List.append_assoc, List.append_assoc _ v.suffix,
    List.append_right_inj] at h
  exact TimeUnit.eq_of_suffix_append h

/-- What stands behind the unit of a timestamp type. -/
def zoneText : Text → Text
  | [] => Text.ascii "]"
  | z :: zs => Text.ascii ", tz=" ++ (z :: zs) ++ Text.ascii "]"

lemma text_timestamp (u : TimeUnit) (z : Text) :
    (timestamp u z).text = Text.ascii "timestamp[" ++ (u.suffix ++ zoneText z) := by
  cases z with
  | nil =>
    have name : Text.ascii "timestamp" ++ Text.ascii "[" = Text.ascii "timestamp[" := rfl
    rw [text, withUnit, name, List.append_assoc]
    rfl
  | cons z zs =>
    rw [text, zoneText]
    simp only [List.append_assoc]

/-- A time zone is shown behind the unit, and is not shown if it is empty. -/
lemma text_timestamp_injective {u v : TimeUnit} {y z : Text}
    (h : (timestamp u y).text = (timestamp v z).text) : u = v ∧ y = z := by
  rw [text_timestamp, text_timestamp, List.append_right_inj] at h
  obtain rfl := TimeUnit.eq_of_suffix_append h
  rw [List.append_right_inj] at h
  refine ⟨rfl, ?_⟩
  cases y with
  | nil =>
    cases z with
    | nil => rfl
    | cons b z => cases h
  | cons a y =>
    cases z with
    | nil => cases h
    | cons b z =>
      rw [zoneText, zoneText, List.append_left_inj, List.append_right_inj] at h
      exact h

/-- No comma stands in a number, so the one between precision and scale tells them apart. -/
lemma text_decimal_injective {p q r s : Int}
    (h : (decimal128 p r).text = (decimal128 q s).text) : p = q ∧ r = s := by
  have split : ∀ p r, (decimal128 p r).text =
      Text.ascii "decimal(" ++ (Text.ofInt p ++ 44 :: 32 :: (Text.ofInt r ++ [41])) := by
    intro p r
    rw [text]
    simp only [List.append_assoc]
    rfl
  have comma : ∀ v : Int, (44 : UInt8) ∉ Text.ofInt v := fun v mem =>
    absurd (Text.isNumeric_of_mem_ofInt mem) (by decide)
  have behind : (44 : UInt8) ∉ 32 :: (Text.ofInt r ++ [41]) := by
    simp [comma]
  rw [split, split, List.append_right_inj,
    List.append_cons_inj_of_notMem (comma p) behind] at h
  obtain ⟨precision, -, rest⟩ := h
  have scale := List.append_cancel_right (List.cons.inj rest).2
  exact ⟨Text.ofInt_injective precision, Text.ofInt_injective scale⟩

/-- What the text of a dictionary type ends with, behind the value type. -/
def tail (index : IntKind) (ordered : Bool) : Text :=
  Text.ascii ", indices=" ++ index.name ++ Text.ascii ", ordered=" ++ Text.ofBool ordered ++
    Text.ascii ">"

lemma tail_suffix {j k : IntKind} {a b : Bool} (h : tail j a <:+ tail k b) : j = k ∧ a = b := by
  have apart : ∀ j ∈ IntKind.all, ∀ k ∈ IntKind.all, ∀ a b, tail j a <:+ tail k b →
      j = k ∧ a = b := by decide +kernel
  have mem : ∀ k : IntKind, k ∈ IntKind.all := by
    rintro ⟨signed, width⟩
    cases signed <;> cases width <;> decide
  exact apart j (mem j) k (mem k) a b h

lemma text_dictionary (index : IntKind) (value : DataType) (ordered : Bool) :
    (dictionary index value ordered).text =
      Text.ascii "dictionary<values=" ++ (value.text ++ tail index ordered) := by
  rw [text, tail]
  simp only [List.append_assoc]

/-- The text of a dictionary type is read from the end: no ending is the ending of another, so what
the value type's text holds makes no difference. -/
lemma text_dictionary_injective {j k : IntKind} {s t : DataType} {a b : Bool}
    (h : (dictionary j s a).text = (dictionary k t b).text) :
    j = k ∧ a = b ∧ s.text = t.text := by
  rw [text_dictionary, text_dictionary, List.append_right_inj] at h
  have first : tail j a <:+ s.text ++ tail j a := List.suffix_append ..
  have second : tail k b <:+ s.text ++ tail j a := h ▸ List.suffix_append ..
  have same : j = k ∧ a = b := by
    rcases List.suffix_or_suffix_of_suffix first second with le | le
    · exact tail_suffix le
    · obtain ⟨index, ordered⟩ := tail_suffix le
      exact ⟨index.symm, ordered.symm⟩
  obtain ⟨rfl, rfl⟩ := same
  exact ⟨rfl, rfl, List.append_cancel_right h⟩

end Parameters

section Separating

/-- Whether a relation tells kinds of types apart, and types of one kind by all of their
parameters. -/
structure Separates (r : DataType → DataType → Prop) : Prop where
  bare {s t : DataType} : r s t → s.bare = t.bare
  timestamp {u v : TimeUnit} {y z : Text} : r (timestamp u y) (timestamp v z) → u = v ∧ y = z
  time32 {u v : TimeUnit} : r (time32 u) (time32 v) → u = v
  time64 {u v : TimeUnit} : r (time64 u) (time64 v) → u = v
  duration {u v : TimeUnit} : r (duration u) (duration v) → u = v
  decimal128 {p q x y : Int} : r (decimal128 p x) (decimal128 q y) → p = q ∧ x = y
  dictionary {j k : IntKind} {s t : DataType} {a b : Bool} :
    r (dictionary j s a) (dictionary k t b) → j = k ∧ a = b ∧ r s t

/-- What separates types relates only equal ones. -/
lemma Separates.eq {r : DataType → DataType → Prop} (apart : Separates r) {s t : DataType}
    (h : r s t) : s = t := by
  have bare := apart.bare h
  induction s generalizing t with
  | timestamp u y =>
    cases t with
    | timestamp v z =>
      obtain ⟨rfl, rfl⟩ := apart.timestamp h
      rfl
    | _ => cases bare
  | time32 u =>
    cases t with
    | time32 v => rw [apart.time32 h]
    | _ => cases bare
  | time64 u =>
    cases t with
    | time64 v => rw [apart.time64 h]
    | _ => cases bare
  | duration u =>
    cases t with
    | duration v => rw [apart.duration h]
    | _ => cases bare
  | decimal128 p x =>
    cases t with
    | decimal128 q y =>
      obtain ⟨rfl, rfl⟩ := apart.decimal128 h
      rfl
    | _ => cases bare
  | dictionary j s a ih =>
    cases t with
    | dictionary k t b =>
      obtain ⟨rfl, rfl, values⟩ := apart.dictionary h
      rw [ih values (apart.bare values)]
    | _ => cases bare
  -- A type without parameters is the only one of its kind.
  | _ => cases t <;> first | exact bare | cases bare

end Separating

/-- Types with the same text are the same. -/
theorem text_injective {s t : DataType} (h : s.text = t.text) : s = t := by
  have apart : Separates fun s t => s.text = t.text :=
    { bare := bare_eq_of_text
      timestamp := text_timestamp_injective
      time32 := unit_of_withUnit
      time64 := unit_of_withUnit
      duration := unit_of_withUnit
      decimal128 := text_decimal_injective
      dictionary := text_dictionary_injective }
  exact apart.eq h

/-- Types are equal by identity and text exactly when they are the same. -/
theorem equals_iff {s t : DataType} : s.equals t = true ↔ s = t := by
  rw [equals, Bool.and_eq_true, beq_iff_eq, beq_iff_eq]
  constructor
  · rintro ⟨-, text⟩
    exact text_injective text
  · rintro rfl
    exact ⟨rfl, rfl⟩

end DataType

end Columnar
