import BusContract.Text.Ranges

/-!
# Digits of all scripts

Many scripts have decimal digits of their own, and Unicode keeps the ten of each in a row. Numbers can
be written with any of them, also mixed, and with the blanks of any script around them. Reading a
number therefore begins by writing its digits and blanks as those of ASCII.
-/

namespace BusContract

/-- The zeros of Unicode 14, each of which its nine other digits follow. -/
def zeroDigits : List Nat := [
  0x30, 0x660, 0x6f0, 0x7c0, 0x966, 0x9e6, 0xa66, 0xae6, 0xb66, 0xbe6, 0xc66, 0xce6, 0xd66, 0xde6,
  0xe50, 0xed0, 0xf20, 0x1040, 0x1090, 0x17e0, 0x1810, 0x1946, 0x19d0, 0x1a80, 0x1a90, 0x1b50,
  0x1bb0, 0x1c40, 0x1c50, 0xa620, 0xa8d0, 0xa900, 0xa9d0, 0xa9f0, 0xaa50, 0xabf0, 0xff10, 0x104a0,
  0x10d30, 0x11066, 0x110f0, 0x11136, 0x111d0, 0x112f0, 0x11450, 0x114d0, 0x11650, 0x116c0,
  0x11730, 0x118e0, 0x11950, 0x11c50, 0x11d50, 0x11da0, 0x16a60, 0x16ac0, 0x16b50, 0x1d7ce,
  0x1d7d8, 0x1d7e2, 0x1d7ec, 0x1d7f6, 0x1e140, 0x1e2f0, 0x1e950, 0x1fbf0]

/-- The value of a decimal digit of any script. -/
def decimalValue? (c : Char) : Option Nat :=
  (zeroDigits.find? fun low => low ≤ c.toNat && c.toNat ≤ low + 9).map (c.toNat - ·)

/-- Is this a decimal digit of any script? -/
def isDecimalDigit (c : Char) : Bool := (decimalValue? c).isSome

/-- The blanks beyond ASCII. -/
def wideBlanks : CharRanges := ⟨#[
  (0x85, 0x85), (0xa0, 0xa0), (0x1680, 0x1680), (0x2000, 0x200a), (0x2028, 0x2029),
  (0x202f, 0x202f), (0x205f, 0x205f), (0x3000, 0x3000)]⟩

/-- The character of ASCII that a character counts as in a number. One that is neither a digit nor a
blank stays what it is. -/
def plainNumeral (c : Char) : Char :=
  if wideBlanks.contains c then ' '
  else
    match decimalValue? c with
    | some value => Char.ofNat ('0'.toNat + value)
    | none => c

end BusContract
