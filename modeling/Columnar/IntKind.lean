import Columnar.Powers
import Columnar.Text

/-!
# Integer kinds

The eight fixed-width integer kinds that columns, keys and indices use. A kind says which integers
it holds, how it wraps an integer that it does not hold, and how it reads a little-endian word.
Arithmetic of a kind reports whether the exact result is out of range beside the wrapped result.
-/

namespace Columnar

inductive Width where
  | w8 | w16 | w32 | w64
deriving DecidableEq, Repr, Inhabited

namespace Width

def bytes : Width → Nat
  | w8 => 1
  | w16 => 2
  | w32 => 4
  | w64 => 8

def bits (w : Width) : Nat := 8 * w.bytes

end Width

/-- A fixed-width integer kind: its signedness and its width. -/
structure IntKind where
  signed : Bool
  width : Width
deriving DecidableEq, Repr, Inhabited

namespace IntKind

def int (w : Width) : IntKind := ⟨true, w⟩

def uint (w : Width) : IntKind := ⟨false, w⟩

def card (k : IntKind) : Nat := 2 ^ k.width.bits

def min (k : IntKind) : Int := if k.signed then -(2 ^ (k.width.bits - 1) : Nat) else 0

def max (k : IntKind) : Int :=
  if k.signed then (2 ^ (k.width.bits - 1) : Nat) - 1 else (k.card : Int) - 1

def holds (k : IntKind) (v : Int) : Bool := k.min ≤ v && v ≤ k.max

/-- The value of the kind that agrees with `v` modulo the number of values. -/
def wrap (k : IntKind) (v : Int) : Int := if k.signed then v.bmod k.card else v % k.card

/-- The value of the kind whose bits are those of `word`. -/
def decode (k : IntKind) (word : Nat) : Int := k.wrap word

/-- The kind's name, such as `uint16`. -/
def name (k : IntKind) : Text :=
  Text.ascii (if k.signed then "int" else "uint") ++ Text.ofNat k.width.bits

def all : List IntKind :=
  [int .w8, uint .w8, int .w16, uint .w16, int .w32, uint .w32, int .w64, uint .w64]

end IntKind

/-- An integer of some kind together with a flag that says whether it had to be wrapped. -/
structure Wrapped where
  overflow : Bool
  value : Int
deriving DecidableEq, Repr

namespace IntKind

/-- An exact result brought into the kind. -/
def fit (k : IntKind) (exact : Int) : Wrapped := ⟨k.wrap exact != exact, k.wrap exact⟩

def add (k : IntKind) (u v : Int) : Wrapped := k.fit (u + v)

def sub (k : IntKind) (u v : Int) : Wrapped := k.fit (u - v)

def mul (k : IntKind) (u v : Int) : Wrapped := k.fit (u * v)

end IntKind

end Columnar
