/-!
# Byte text

Messages, type names and printed columns are sequences of bytes: a time zone or a string slot may
hold any bytes, so nothing here assumes that text decodes to characters. Numbers are written in
decimal with no padding and no leading zeros.
-/

namespace Columnar

/-- Text as the bytes that are written. -/
abbrev Text := List UInt8

namespace Text

/-- The bytes of a literal of ASCII characters. -/
def ascii (s : String) : Text := s.toList.map fun c => c.val.toUInt8

def digit (d : Nat) : UInt8 := UInt8.ofNat (48 + d)

/-- The decimal digits of a number, most significant first. -/
def digits (n : Nat) : List Nat := (Nat.toDigits 10 n).map fun c => c.toNat - 48

def ofNat (n : Nat) : Text := (digits n).map digit

/-- An integer in decimal, with a minus sign when it is negative. -/
def ofInt : Int → Text
  | .ofNat n => ofNat n
  | .negSucc n => ascii "-" ++ ofNat (n + 1)

/-- A truth value, written as one or zero. -/
def ofBool (b : Bool) : Text := ofNat b.toNat

def blanks (n : Nat) : Text := List.replicate n 32

/-- The upper-case hexadecimal digit of a number below sixteen. -/
def upperHexDigit (d : Nat) : UInt8 :=
  if d < 10 then UInt8.ofNat (48 + d) else UInt8.ofNat (55 + d)

/-- A byte as two upper-case hexadecimal digits. -/
def upperHexByte (b : UInt8) : Text :=
  [upperHexDigit (b.toNat / 16), upperHexDigit (b.toNat % 16)]

/-- Bytes as upper-case hexadecimal digits, two for each byte. -/
def upperHex (bytes : List UInt8) : Text := bytes.flatMap upperHexByte

end Text

end Columnar
