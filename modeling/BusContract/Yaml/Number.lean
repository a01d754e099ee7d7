import BusContract.Data.Basic
import BusContract.Text.Digits
import BusContract.Yaml.Tag

/-!
# Numbers

The numbers that scalars stand for. Digits may be divided by underscores. A scalar that is marked as
a number need not have the form of one: its digits may be those of any script, with blanks around
them, and if it cannot be read its text is reported.
-/

namespace BusContract.Yaml

/-- A number with a point. -/
inductive Real where
  | finite (d : Decimal)
  | infinite (isNegative : Bool)
  | notANumber
  deriving Repr, DecidableEq

/-- Blanks around a number do not count. -/
def isNumberBlank (c : Char) : Bool := c == ' ' || ('\t' ≤ c && c ≤ '\r')

/-- A text without blanks around it. -/
def trimBlanks (text : List Char) : List Char :=
  ((text.dropWhile isNumberBlank).reverse.dropWhile isNumberBlank).reverse

/-- A text as a number is read from it. -/
def numeral (text : List Char) : List Char := trimBlanks (text.map plainNumeral)

/-- The sign in front of a number. -/
def hasMinus (text : List Char) : Bool := text.head? == some '-'

/-- Applies a sign. -/
def signed (isNegative : Bool) (n : Int) : Int := if isNegative then -n else n

/-! ## Whole numbers -/

/-- The value of a digit in a base. -/
def digitIn? (base : Nat) (c : Char) : Option Nat := (hexValue? c).filter (· < base)

/-- The value of digits in a base. -/
def digitsValue? (base : Nat) (digits : List Char) : Option Nat :=
  if digits.isEmpty then none
  else digits.foldlM (fun n c => (digitIn? base c).map (n * base + ·)) 0

/-- The mark that may stand in front of digits of a base. -/
def baseMark (base : Nat) : List Char :=
  if base = 16 then ['x'] else if base = 8 then ['o'] else if base = 2 then ['b'] else []

/-- Drops a zero with the mark of the base. -/
def dropBaseMark (base : Nat) (text : List Char) : List Char :=
  match text with
  | '0' :: c :: rest => if baseMark base == [c.toLower] then rest else text
  | _ => text

/-- Reads a whole number in a base. Its digits are counted before it is seen what follows them. -/
def readInt (base : Nat) (text : List Char) : Except Fault Int :=
  let unsigned := dropBaseMark base (dropSign (numeral text))
  let count := (unsigned.takeWhile fun c => (digitIn? base c).isSome).length
  if base = 10 ∧ count > mostDigits then .error (.tooManyDigits count)
  else
    match digitsValue? base unsigned with
    | some n => .ok (signed (hasMinus (numeral text)) n)
    | none => .error (.notNumber base (String.ofList text))

/-- The parts of a text between colons. -/
def colonParts : List Char → List (List Char)
  | [] => [[]]
  | c :: rest =>
    if c = ':' then [] :: colonParts rest
    else
      match colonParts rest with
      | [] => [[c]]
      | part :: parts => (c :: part) :: parts

/-- The whole number that a scalar stands for. -/
def intOf (text : List Char) : Except Fault Int := do
  let text := text.filter (· != '_')
  let isNegative := hasMinus text
  let unsigned := dropSign text
  let n ← match unsigned with
    | [] => .error .noDigits
    | ['0'] => .ok 0
    | '0' :: 'b' :: rest => readInt 2 rest
    | '0' :: 'x' :: rest => readInt 16 rest
    | '0' :: _ => readInt 8 unsigned
    | _ =>
      if unsigned.contains ':' then
        return signed isNegative
          ((← (colonParts unsigned).mapM (readInt 10)).foldl (fun n d => n * 60 + d) 0)
      else readInt 10 unsigned
  return signed isNegative n

/-! ## Numbers with a point -/

namespace Real

/-- A number too large to be kept is infinite. -/
def largestExponent : Int := 308

/-- A number too small to be kept is zero. -/
def smallestExponent : Int := -324

/-- Ten to a power. -/
def powerOfTen (k : Nat) : Nat := Nat.pow 10 k

/-- The number with the given digits, the last of which stands for ten to the given power. -/
def ofDigits (isNegative : Bool) (digits : List Char) (exponent : Int) : Real :=
  let digits := digits.dropWhile (· == '0')
  let n := digits.foldl (fun n c => n * 10 + (c.toNat - '0'.toNat)) 0
  let size : Int := digits.length - 1 + exponent
  if n = 0 ∨ size < smallestExponent then finite ⟨0, 0⟩
  else if size > largestExponent then infinite isNegative
  else if exponent < 0 then finite ⟨signed isNegative n, exponent.natAbs⟩
  else finite ⟨signed isNegative (n * powerOfTen exponent.natAbs : Nat), 0⟩

/-- The exponent at the end of a number, if it has the form of one. -/
def exponent? : List Char → Option Int
  | [] => some 0
  | e :: rest =>
    if e == 'e' || e == 'E' then
      (digitsValue? 10 (dropSign rest)).map fun n => signed (hasMinus rest) n
    else none

/-- Reads digits with a point and an exponent, all of which may be missing but one digit. -/
def digits? (isNegative : Bool) (text : List Char) : Option Real :=
  let whole := text.takeWhile Char.isDigit
  let rest := text.dropWhile Char.isDigit
  let fraction := match rest with
    | '.' :: rest => rest.takeWhile Char.isDigit
    | _ => []
  let rest := match rest with
    | '.' :: rest => rest.dropWhile Char.isDigit
    | rest => rest
  if whole.isEmpty && fraction.isEmpty then none
  else (exponent? rest).map fun e => ofDigits isNegative (whole ++ fraction) (e - fraction.length)

/-- Reads a number. -/
def read (text : List Char) : Except Fault Real :=
  let isNegative := hasMinus (numeral text)
  let unsigned := (dropSign (numeral text)).map Char.toLower
  let word := String.ofList unsigned
  if word = "inf" ∨ word = "infinity" then .ok (infinite isNegative)
  else if word = "nan" then .ok notANumber
  else
    match digits? isNegative unsigned with
    | some r => .ok r
    | none => .error (.notDecimal (String.ofList text))

/-- The opposite number. -/
def negate : Real → Real
  | finite d => finite ⟨-d.mantissa, d.places⟩
  | infinite isNegative => infinite (!isNegative)
  | notANumber => notANumber

/-- A number sixty times as large and another one more. -/
def sixtyTimes : Real → Real → Real
  | finite a, finite b =>
    let places := max a.places b.places
    let scale (d : Decimal) : Int := d.mantissa * powerOfTen (places - d.places)
    finite ⟨scale a * 60 + scale b, places⟩
  | notANumber, _ => notANumber
  | _, notANumber => notANumber
  | infinite s, finite _ => infinite s
  | finite _, infinite s => infinite s
  | infinite s, infinite t => if s = t then infinite s else notANumber

/-- The number as messages show it. -/
def render : Real → String
  | finite d => d.render
  | infinite isNegative => if isNegative then "-inf" else "inf"
  | notANumber => "nan"

end Real

/-- The most parts of a number in base sixty with a point. What the first of more parts counts for is
too large. -/
def mostSixties : Nat := 174

/-- The number with a point that a scalar stands for. -/
def realOf (text : List Char) : Except Fault Real := do
  let text := (text.filter (· != '_')).map Char.toLower
  let isNegative := hasMinus text
  let unsigned := dropSign text
  let apply (r : Real) := if isNegative then r.negate else r
  if text.isEmpty then .error .noDigits
  else if unsigned == ".inf".toList then return .infinite isNegative
  else if unsigned == ".nan".toList then return .notANumber
  else if unsigned.contains ':' then
    let parts ← (colonParts unsigned).mapM Real.read
    if parts.length > mostSixties then .error .tooLarge
    else return apply (parts.foldl Real.sixtyTimes (.finite ⟨0, 0⟩))
  else return apply (← Real.read unsigned)

end BusContract.Yaml
