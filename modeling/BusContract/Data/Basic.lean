import BusContract.Text.Quoted

/-!
# Plain data

Values without behaviour: what a data file or a literal can hold. Records keep the order of their
fields. Numbers with a fraction are kept in decimal, as a whole number with a count of decimal
places, so that nothing is rounded.
-/

namespace BusContract

/-- A number `mantissa` / 10 ^ `places` that was written with a fraction. -/
structure Decimal where
  mantissa : Int
  places : Nat
  deriving Repr, DecidableEq

/-- A plain value. -/
inductive PlainData where
  | null
  | bool (b : Bool)
  | int (n : Int)
  | decimal (d : Decimal)
  | text (s : String)
  | list (items : List PlainData)
  | record (fields : List (String × PlainData))
  deriving Repr, Inhabited

namespace Decimal

/-- Drops decimal places that are zero. -/
def reduce (mantissa : Nat) : (places : Nat) → Nat × Nat
  | 0 => (mantissa, 0)
  | places + 1 =>
    if mantissa % 10 = 0 then reduce (mantissa / 10) places else (mantissa, places + 1)

/-- Digits with an exponent: one digit before the point, at least two in the exponent. -/
def exponentForm (digits : List Char) (exponent : Int) : String :=
  let head := digits.take 1
  let fraction := (digits.drop 1).reverse.dropWhile (· == '0') |>.reverse
  let point := if fraction.isEmpty then [] else '.' :: fraction
  let sign := if exponent < 0 then "-" else "+"
  let size := exponent.natAbs
  let zero := if size < 10 then "0" else ""
  String.ofList (head ++ point) ++ "e" ++ sign ++ zero ++ toString size

/-- A number shows at least one digit on either side of the point. Numbers from 10^16 on and below
10^-4 are written with an exponent. -/
def render (d : Decimal) : String :=
  let sign := if d.mantissa < 0 then "-" else ""
  let (mantissa, places) := reduce d.mantissa.natAbs d.places
  let digits := Nat.toDigits 10 mantissa
  let exponent : Int := digits.length - 1 - places
  sign ++
    if mantissa = 0 then "0.0"
    else if exponent < -4 || exponent ≥ 16 then exponentForm digits exponent
    else
      let padded := List.replicate (places + 1 - digits.length) '0' ++ digits
      let whole := padded.take (padded.length - places)
      let fraction := padded.drop (padded.length - places)
      String.ofList whole ++ "." ++ (if places = 0 then "0" else String.ofList fraction)

end Decimal

namespace PlainData

mutual

/-- A value as messages show it: texts quoted, lists in brackets, records in braces. -/
def render : PlainData → String
  | null => "None"
  | bool b => if b then "True" else "False"
  | int n => toString n
  | decimal d => d.render
  | text s => quoted s
  | list items => "[" ++ ", ".intercalate (renderItems items) ++ "]"
  | record fields => "\x7b" ++ ", ".intercalate (renderFields fields) ++ "\x7d"

/-- The values of a list as messages show them. -/
def renderItems : List PlainData → List String
  | [] => []
  | item :: rest => render item :: renderItems rest

/-- The fields of a record as messages show them. -/
def renderFields : List (String × PlainData) → List String
  | [] => []
  | (name, value) :: rest => (quoted name ++ ": " ++ render value) :: renderFields rest

end

/-- The value of a field of a record. -/
def field? (fields : List (String × PlainData)) (name : String) : Option PlainData :=
  fields.lookup name

end PlainData

end BusContract
