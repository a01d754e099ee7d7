import BusContract.Text.Graphic

/-!
# Quoted text

Messages quote text in single quotes, or in double quotes when the text holds a single quote and no
double one. A backslash and the chosen quote are escaped by a backslash, newline, tab and carriage
return have letters of their own, and every other character that is not graphic is written by its
code point in the shortest of three hexadecimal forms.
-/

namespace BusContract.Quoted

/-- The lower-case hexadecimal digits of `n`, at least `width` of them. -/
def hex (width n : Nat) : List Char :=
  let digits := Nat.toDigits 16 n
  List.replicate (width - digits.length) '0' ++ digits

/-- The quote that encloses `text`: the single one unless only the double one avoids escapes. -/
def quoteFor (text : List Char) : Char :=
  if text.contains '\'' && !text.contains '"' then '"' else '\''

/-- How one character is written between quotes `quote`. -/
def escape (quote c : Char) : List Char :=
  if c = quote ∨ c = '\\' then ['\\', c]
  else if c = '\n' then ['\\', 'n']
  else if c = '\t' then ['\\', 't']
  else if c = '\r' then ['\\', 'r']
  else if CharRanges.graphic.contains c then [c]
  else if c.toNat < 0x100 then '\\' :: 'x' :: hex 2 c.toNat
  else if c.toNat < 0x10000 then '\\' :: 'u' :: hex 4 c.toNat
  else '\\' :: 'U' :: hex 8 c.toNat

/-- The text between quotes, escaped. -/
def encode (text : List Char) : List Char :=
  let quote := quoteFor text
  quote :: text.flatMap (escape quote) ++ [quote]

/-- How one byte is written between quotes `quote`: only printable ASCII is written plainly. -/
def escapeByte (quote : Char) (b : UInt8) : List Char :=
  let c := Char.ofNat b.toNat
  if c = quote ∨ c = '\\' then ['\\', c]
  else if c = '\n' then ['\\', 'n']
  else if c = '\t' then ['\\', 't']
  else if c = '\r' then ['\\', 'r']
  else if 0x20 ≤ b.toNat && b.toNat < 0x7f then [c]
  else '\\' :: 'x' :: hex 2 b.toNat

/-- Bytes between quotes, with the mark `b` in front. -/
def encodeBytes (bytes : List UInt8) : List Char :=
  let quote := quoteFor (bytes.map fun b => Char.ofNat b.toNat)
  'b' :: quote :: bytes.flatMap (escapeByte quote) ++ [quote]

end BusContract.Quoted

namespace BusContract

/-- A text as messages show it, between quotes. -/
def quoted (text : String) : String :=
  String.ofList (Quoted.encode text.toList)

/-- Bytes as messages show them. -/
def quotedBytes (bytes : List UInt8) : String :=
  String.ofList (Quoted.encodeBytes bytes)

end BusContract
