/-!
# Base 64

Bytes written as letters of six bits each. Characters that are no letters are passed over. Equals
signs end the text once they complete a group of four; a group that is not complete at the end makes
the whole text unreadable.
-/

namespace BusContract.Base64

/-- The six bits that a letter stands for. -/
def letter? (c : Char) : Option Nat :=
  if 'A' ≤ c ∧ c ≤ 'Z' then some (c.toNat - 'A'.toNat)
  else if 'a' ≤ c ∧ c ≤ 'z' then some (c.toNat - 'a'.toNat + 26)
  else if '0' ≤ c ∧ c ≤ '9' then some (c.toNat - '0'.toNat + 52)
  else if c = '+' then some 62
  else if c = '/' then some 63
  else none

/-- The bytes of a group of letters, as far as they are complete. -/
def groupBytes : List Nat → List UInt8
  | [a, b] => [UInt8.ofNat (a * 4 + b / 16)]
  | [a, b, c] => [UInt8.ofNat (a * 4 + b / 16), UInt8.ofNat (b % 16 * 16 + c / 4)]
  | [a, b, c, d] =>
    [UInt8.ofNat (a * 4 + b / 16), UInt8.ofNat (b % 16 * 16 + c / 4), UInt8.ofNat (c % 4 * 64 + d)]
  | _ => []

/-- Reads a text. `group` holds the letters of the group that has begun, and `pads` is the number of
equals signs right before. -/
def decodeFrom (group : List Nat) (pads : Nat) : List Char → Option (List UInt8)
  | [] => if group.isEmpty then some [] else none
  | c :: rest =>
    if c = '=' then
      if group.length ≥ 2 ∧ group.length + pads + 1 ≥ 4 then some (groupBytes group)
      else decodeFrom group (if group.length ≥ 2 then pads + 1 else pads) rest
    else
      match letter? c with
      | none => decodeFrom group pads rest
      | some bits =>
        if group.length = 3 then
          (decodeFrom [] 0 rest).map (groupBytes (group ++ [bits]) ++ ·)
        else decodeFrom (group ++ [bits]) 0 rest

/-- The bytes that a text stands for. -/
def decode (text : List Char) : Option (List UInt8) := decodeFrom [] 0 text

end BusContract.Base64
