import Columnar.Print.Lines
import Columnar.Print.Printout
import Columnar.Column.Validate
import Columnar.Column.Value
import Columnar.Decimal.Scaled
import Columnar.Decimal.Rounded

/-!
# Printing columns

A column prints the lines of its slots between brackets. A column that does not validate prints its
first defect instead, and is not read. A dictionary column prints its values and its keys.
Validation looks at the outer offsets of byte strings only, so a column that passes may still hold
text of negative length; there the printout is cut. Numbers of blanks are 32-bit words, and printing
fails where one of them is negative.
-/

namespace Columnar

/-- How a column is printed: blanks before each line, slots shown at each end, and the text of a
null slot. -/
structure PrintOptions where
  indent : Int := 0
  window : Int := 10
  nullText : Text := Text.ascii "null"
deriving DecidableEq, Repr, Inhabited

namespace Print

/-- Blanks before a line, whose number may not be negative. -/
def pad (n : Int) : Checked Text :=
  if n < 0 then throw .negativeLength else pure (Text.blanks n.toNat)

/-- The text of a value of a type. -/
def value (t : DataType) : Value → Text
  | .bool b => Text.ascii (if b then "true" else "false")
  | .int v => Text.ofInt v
  | .float32 bits => Decimal.FloatFormat.single.text bits.toNat
  | .float64 bits => Decimal.FloatFormat.double.text bits.toNat
  | .dayTime days ms => Text.ofInt days ++ Text.ascii "d" ++ Text.ofInt ms ++ Text.ascii "ms"
  | .decimal unscaled =>
    match t with
    | .decimal128 _ scale => Decimal.scaled unscaled scale
    | _ => Text.ofInt unscaled
  | .bytes bytes =>
    if t.isText then Text.ascii "\"" ++ bytes.toList ++ Text.ascii "\""
    else Text.upperHex bytes.toList

/-- Checks that the zeros that a decimal type appends to its values can be counted. -/
def checkScale : DataType → Checked Unit
  | .decimal128 _ scale => if Decimal.zeros scale < 0 then throw .negativeLength else pure ()
  | _ => pure ()

/-- The value in slot `i`. Text of negative length falls short behind its opening quote. -/
def cell (c : Column) (i : Int) : Checked Printout := do
  if let .strings w := c.type.layout then
    let length ← c.stringLength w i
    if c.type.isText ∧ length < 0 then
      return .ofText (Text.ascii "\"") ++ .shortfall length.natAbs
  let read ← c.value i
  checkScale c.type
  return .ofText (value c.type read)

/-- Slot `i`. The value of a null slot is not looked at. -/
def slot (options : PrintOptions) (c : Column) (i : Int) : Checked Printout := do
  if ← c.isValid i then cell c i else return .ofText options.nullText

/-- A line. Every slot but the last is followed by a comma. -/
def line (options : PrintOptions) (c : Column) : Line → Checked Printout
  | .slot i => do
    let shown ← slot options c i
    return shown ++ .ofText (Text.ascii (if i + 1 < c.length then ",\n" else "\n"))
  | .dots => return .ofText (Text.ascii "...\n")

/-- Lines one behind the other, each behind the same blanks. No slot behind a cut is looked at. -/
def body (options : PrintOptions) (c : Column) (blanks : Text) : List Line → Checked Printout
  | [] => return {}
  | l :: ls => do
    let first := .ofText blanks ++ (← line options c l)
    if first.cut then return first
    return first ++ (← body options c blanks ls)

/-- The indentation of what stands between brackets or under a heading. -/
def deeper (indent : Int) : Int := (IntKind.int .w32).wrap (indent + 2)

/-- The slots of a column between brackets. -/
def slots (options : PrintOptions) (c : Column) : Checked Printout :=
  match c.validate with
  | .error (.failure cause) =>
    return .ofText (Text.ascii "<Invalid array: " ++ cause.report.message ++ Text.ascii ">")
  | .error fault => throw fault
  | .ok _ => do
    -- Where blanks are asked for in vain, it is before any are made.
    let inner ← pad (deeper options.indent)
    let outer ← pad options.indent
    if c.length = 0 then return .ofText (outer ++ Text.ascii "[]")
    let shown ← body options c inner (lines c.length options.window)
    return .ofText (outer ++ Text.ascii "[\n") ++ shown ++ .ofText (outer ++ Text.ascii "]")

/-- The options for the parts of a dictionary column. -/
def indented (options : PrintOptions) : PrintOptions :=
  { options with indent := deeper options.indent }

/-- The heading of a part of a dictionary column. -/
def heading (options : PrintOptions) (title : String) : Checked Printout := do
  let blanks ← pad options.indent
  return .ofText
    (Text.ascii "\n" ++ blanks ++ Text.ascii "-- " ++ Text.ascii title ++ Text.ascii ":\n")

end Print

namespace Column

/-- The printout of a column. -/
def printout (options : PrintOptions) : Column → Checked Printout
  | ⟨.null, length, _, _, _, _⟩ => return .ofText (Text.ofInt length ++ Text.ascii " nulls")
  | ⟨.dictionary k v ordered, n, o, nulls, bs, dictionary⟩ => do
    let top ← Print.heading options "dictionary"
    let values ←
      match dictionary with
      | none => throw (.breach .missingDictionary)
      | some d => do
        let _ ← d.opened
        printout (Print.indented options) d
    let middle ← Print.heading options "indices"
    let keys ← Print.slots (Print.indented options)
      (Column.keys ⟨.dictionary k v ordered, n, o, nulls, bs, dictionary⟩)
    return top ++ values ++ middle ++ keys
  | c => Print.slots options c

/-- The text of a column. -/
def print (options : PrintOptions) (c : Column) : Checked Text :=
  return (← c.printout options).text

/-- The text of a column with the usual options. -/
def text (c : Column) : Checked Text := c.print {}

end Column

end Columnar
