import Mathlib.Data.List.Basic
import Mathlib.Tactic.Common
import Columnar.Proofs.Print.Cell

/-!
# Types whose cells are told apart by their text

The text of a cell of most types says what the cell is, and is neither the text for null nor breaks
a line (`Print.Legible`). Left out are floating-point numbers, which are rounded, and quoted text,
which is printed as it is, whatever quotes and line ends it holds. A decimal type is one of the
others only if the zeros that it appends can be counted.
-/

namespace Columnar

namespace DataType

/-- The types whose printed cells can be told apart. -/
def isLegible : DataType → Bool
  | null | float32 | float64 | string | largeString | dictionary .. => false
  | _ => true

variable {t : DataType} {k : IntKind}

lemma layout_of_integerKind (h : t.integerKind? = some k) : t.layout = .fixed k.width.bytes := by
  cases t <;> cases h <;> rfl

lemma valueOfBytes_of_integerKind (h : t.integerKind? = some k) (b : Bytes) :
    t.valueOfBytes b = .int (k.decode (Bytes.toNat b.toList)) := by
  cases t <;> cases h <;> rfl

end DataType

namespace Print
variable {t : DataType} {k : IntKind} {options : PrintOptions} {b : UInt8}

/-- Whether a byte may stand in the text of a cell: it ends no line, and is not in the text for
null. -/
def isInner (b : UInt8) : Bool := b != 10 && b != 110

/-- A type whose cells are told apart by what they are printed as, line ends and the text for null
included. -/
structure Legible (t : DataType) : Prop where
  injective : ∀ x y : Cell, x.Fits t.layout → y.Fits t.layout →
    value t (t.valueOf x) = value t (t.valueOf y) → x = y
  inner : ∀ x : Cell, x.Fits t.layout → ∀ b ∈ value t (t.valueOf x), isInner b = true

section Alphabet

lemma isInner_of_isNumeric (h : Text.isNumeric b = true) : isInner b = true := by
  rw [isInner, Bool.and_eq_true, bne_iff_ne, bne_iff_ne]
  refine ⟨?_, ?_⟩
  · rintro rfl
    cases h
  · rintro rfl
    cases h

lemma isInner_of_mem_ofInt {v : Int} (h : b ∈ Text.ofInt v) : isInner b = true :=
  isInner_of_isNumeric (Text.isNumeric_of_mem_ofInt h)

lemma isInner_of_mem_scaled {unscaled scale : Int} (h : b ∈ Decimal.scaled unscaled scale) :
    isInner b = true := by
  rw [← Decimal.text_numeral] at h
  rcases Decimal.Numeral.byte_of_mem_text (Decimal.proper_numeral unscaled scale) h with
    rfl | rfl | digit
  · rfl
  · rfl
  · exact isInner_of_isNumeric (Bool.or_eq_true_iff.2 (.inr digit))

lemma isInner_of_mem_upperHex {bytes : List UInt8} (h : b ∈ Text.upperHex bytes) :
    isInner b = true := by
  obtain ⟨d, small, rfl⟩ := Text.exists_digit_of_mem_upperHex h
  have digits : ∀ d < 16, isInner (Text.upperHexDigit d) = true := by decide
  exact digits d small

end Alphabet

section Kinds

/-- A cell of fixed width is bytes. -/
lemma exists_bytes {w : Nat} {x : Cell} (h : x.Fits (.fixed w)) :
    ∃ bytes : Bytes, x = .bytes bytes ∧ bytes.size = w := by
  cases x with
  | bit b => cases h
  | bytes bytes => exact ⟨bytes, rfl, h⟩

lemma legible_bool : Legible .bool where
  injective x y hx hy h := by
    obtain ⟨u, rfl⟩ : ∃ u, x = .bit u := ⟨_, Cell.eq_bit hx⟩
    obtain ⟨v, rfl⟩ : ∃ v, y = .bit v := ⟨_, Cell.eq_bit hy⟩
    have apart : ∀ u v, value .bool (.bool u) = value .bool (.bool v) → u = v := by decide
    rw [apart u v h]
  inner x hx := by
    obtain ⟨u, rfl⟩ : ∃ u, x = .bit u := ⟨_, Cell.eq_bit hx⟩
    have letters : ∀ u, (value .bool (.bool u)).all isInner = true := by decide
    exact List.all_eq_true.1 (letters u)

/-- The bytes of an integer are its two's complement, so they are what the integer is. -/
lemma legible_of_integerKind (kind : t.integerKind? = some k) : Legible t := by
  have text (bytes : Bytes) : value t (t.valueOf (.bytes bytes)) =
      Text.ofInt (k.decode (Bytes.toNat bytes.toList)) := by
    rw [DataType.valueOf, DataType.valueOfBytes_of_integerKind kind]
    rfl
  have layout := DataType.layout_of_integerKind kind
  refine ⟨fun x y hx hy h => ?_, fun x hx b mem => ?_⟩
  · rw [layout] at hx hy
    obtain ⟨bytes, rfl, size⟩ := exists_bytes hx
    obtain ⟨bytes', rfl, size'⟩ := exists_bytes hy
    rw [text, text] at h
    rw [← Bytes.ofInt_decode size, Text.ofInt_injective h, Bytes.ofInt_decode size']
  · rw [layout] at hx
    obtain ⟨bytes, rfl, -⟩ := exists_bytes hx
    rw [text] at mem
    exact isInner_of_mem_ofInt mem

/-- The text of days and milliseconds, with what stands between them. -/
lemma value_dayTime (days ms : Int) : value .dayTimeInterval (.dayTime days ms) =
    Text.ofInt days ++ 100 :: (Text.ofInt ms ++ [109, 115]) := by
  rw [value]
  simp only [List.append_assoc]
  rfl

/-- The letter between days and milliseconds stands in neither, so it tells them apart. -/
lemma value_dayTime_injective {d d' m m' : Int} (h : value .dayTimeInterval (.dayTime d m) =
    value .dayTimeInterval (.dayTime d' m')) : d = d' ∧ m = m' := by
  have number {v : Int} : (100 : UInt8) ∉ Text.ofInt v := fun mem => by
    cases Text.isNumeric_of_mem_ofInt mem
  have behind {v : Int} : (100 : UInt8) ∉ Text.ofInt v ++ [109, 115] := fun mem => by
    rcases List.mem_append.1 mem with digit | unit
    · exact number digit
    · exact absurd unit (by decide)
  rw [value_dayTime, value_dayTime, List.append_cons_inj_of_notMem number behind] at h
  obtain ⟨days, -, ms⟩ := h
  exact ⟨Text.ofInt_injective days, Text.ofInt_injective (List.append_cancel_right ms)⟩

/-- Four of the eight bytes are the days, and four the milliseconds. -/
lemma legible_dayTimeInterval : Legible .dayTimeInterval where
  injective x y hx hy h := by
    obtain ⟨bytes, rfl, size⟩ := exists_bytes hx
    obtain ⟨bytes', rfl, size'⟩ := exists_bytes hy
    obtain ⟨days, ms⟩ := value_dayTime_injective h
    have spelled (part : Bytes) (size : part.size = 4) :
        Bytes.ofInt 4 ((IntKind.int .w32).decode (Bytes.toNat part.toList)) = part :=
      Bytes.ofInt_decode (k := .int .w32) size
    have split {bytes : Bytes} (size : bytes.size = 8) :
        bytes.extract 0 4 ++ bytes.extract 4 8 = bytes := by
      rw [Array.extract_append_extract]
      exact Array.extract_eq_self_of_le (by omega)
    have first : bytes.extract 0 4 = bytes'.extract 0 4 := by
      rw [← spelled (bytes.extract 0 4) (by simp [size]), days, spelled _ (by simp [size'])]
    have second : bytes.extract 4 8 = bytes'.extract 4 8 := by
      rw [← spelled (bytes.extract 4 8) (by simp [size]), ms, spelled _ (by simp [size'])]
    rw [← split size, first, second, split size']
  inner x hx b mem := by
    obtain ⟨bytes, rfl, -⟩ := exists_bytes hx
    rw [DataType.valueOf, DataType.valueOfBytes, value_dayTime] at mem
    rcases List.mem_append.1 mem with days | behind
    · exact isInner_of_mem_ofInt days
    rcases List.mem_cons.1 behind with rfl | behind
    · rfl
    rcases List.mem_append.1 behind with ms | unit
    · exact isInner_of_mem_ofInt ms
    · have letters : [109, 115].all isInner = true := by decide
      exact List.all_eq_true.1 letters b unit

lemma legible_decimal {precision scale : Int} (word : -2 ^ 31 < scale) :
    Legible (.decimal128 precision scale) where
  injective x y hx hy h := by
    obtain ⟨bytes, rfl, size⟩ := exists_bytes hx
    obtain ⟨bytes', rfl, size'⟩ := exists_bytes hy
    obtain ⟨raw, -, -, spelled, value⟩ := exists_unscaled precision scale size
    obtain ⟨raw', -, -, spelled', value'⟩ := exists_unscaled precision scale size'
    rw [DataType.valueOf, DataType.valueOf, value, value'] at h
    rw [spelled, spelled', Decimal.scaled_injective word h]
  inner x hx b mem := by
    obtain ⟨bytes, rfl, size⟩ := exists_bytes hx
    exact isInner_of_mem_scaled mem

/-- Byte strings that are no text are printed digit by digit. -/
lemma legible_of_binary {w : Width} (layout : t.layout = .strings w) (binary : t.isText = false) :
    Legible t := by
  have text (bytes : Bytes) : value t (t.valueOf (.bytes bytes)) = Text.upperHex bytes.toList := by
    cases t with
    | binary | largeBinary => rfl
    | string | largeString => cases binary
    | _ => cases layout
  refine ⟨fun x y hx hy h => ?_, fun x hx b mem => ?_⟩
  · rw [layout] at hx hy
    rw [Cell.eq_string hx, Cell.eq_string hy] at h ⊢
    rw [text, text] at h
    have same : x.contents = y.contents := Text.upperHex_injective h
    rw [same]
  · rw [layout] at hx
    rw [Cell.eq_string hx, text] at mem
    exact isInner_of_mem_upperHex mem

end Kinds

/-- The cells of all legible types are told apart by what they are printed as. -/
lemma legible_of_isLegible (h : t.isLegible = true) (scale : t.scaleFits = true) : Legible t := by
  cases t with
  | null | float32 | float64 | string | largeString | dictionary => cases h
  | bool => exact legible_bool
  | binary | largeBinary => exact legible_of_binary rfl rfl
  | dayTimeInterval => exact legible_dayTimeInterval
  | decimal128 => exact legible_decimal (of_decide_eq_true scale)
  | int | float16 | date32 | date64 | timestamp | time32 | time64 | monthInterval | duration =>
    exact legible_of_integerKind rfl

/-- Slots of a legible type are told apart by what they are shown as. -/
lemma slotText_injective (legible : Legible t) (null : options.nullText = Text.ascii "null")
    {s s' : Option Cell} (fits : ∀ x, s = some x → x.Fits t.layout)
    (fits' : ∀ x, s' = some x → x.Fits t.layout)
    (h : slotText options t s = slotText options t s') : s = s' := by
  -- The text for null begins with a letter that stands in no text of a cell.
  have apart {x : Cell} (fits : x.Fits t.layout) : value t (t.valueOf x) ≠ options.nullText := by
    intro same
    have letter : (110 : UInt8) ∈ value t (t.valueOf x) := by
      rw [same, null]
      decide
    cases legible.inner x fits 110 letter
  cases s with
  | none =>
    cases s' with
    | none => rfl
    | some y => exact absurd h.symm (apart (fits' y rfl))
  | some x =>
    cases s' with
    | none => exact absurd h (apart (fits x rfl))
    | some y => rw [legible.injective x y (fits x rfl) (fits' y rfl) h]

end Print

end Columnar
