/-!
# UTF-16

Characters from units of sixteen bits. A unit of the high half of a pair goes with the one after it,
and U+FFFD stands for both if that is none of the low half. A unit of the low half on its own is no
character; U+FFFF, which is none either, stands for it.
-/

namespace BusContract.Utf16

/-- Units of two bytes each, the byte of more weight first or last. A single byte at the end is left
out. -/
def units (weightFirst : Bool) : List UInt8 → List Nat
  | a :: b :: rest =>
    (if weightFirst then a.toNat * 0x100 + b.toNat else b.toNat * 0x100 + a.toNat)
      :: units weightFirst rest
  | _ => []

/-- Is the unit the high half of a pair? -/
def isHigh (unit : Nat) : Bool := 0xd800 ≤ unit && unit < 0xdc00

/-- Is the unit the low half of a pair? -/
def isLow (unit : Nat) : Bool := 0xdc00 ≤ unit && unit < 0xe000

/-- The character of a pair. -/
def joinPair (high low : Nat) : Char :=
  Char.ofNat (0x10000 + (high - 0xd800) * 0x400 + (low - 0xdc00))

/-- The characters of units. A high half at the end is left out. -/
def decode : List Nat → List Char
  | [] => []
  | unit :: rest =>
    if isHigh unit then
      match rest with
      | [] => []
      | next :: rest => (if isLow next then joinPair unit next else '\uFFFD') :: decode rest
    else (if isLow unit then '\uFFFF' else Char.ofNat unit) :: decode rest

end BusContract.Utf16
