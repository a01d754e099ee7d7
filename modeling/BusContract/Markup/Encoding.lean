import BusContract.Text.Utf16
import BusContract.Text.Utf8

/-!
# How documents are encoded

A document is handed over as text and read from the bytes of that text in UTF-8. These hold a zero
byte only for a null character, which no document may hold. So a zero among the first two bytes means
that the document is made of units of two bytes, in which the zero is the byte of more weight. What a
document says of its own encoding is of no account.
-/

namespace BusContract.Markup

/-- The characters of a document, and whether a part of a character is left at its end. -/
structure DocumentText where
  characters : List Char
  isCut : Bool
  deriving Repr, DecidableEq

/-- Text in units of two bytes. -/
def DocumentText.ofUnits (weightFirst : Bool) (bytes : List UInt8) : DocumentText :=
  ⟨Utf16.decode (Utf16.units weightFirst bytes), bytes.length % 2 == 1⟩

/-- The characters that a text stands for as a document. -/
def DocumentText.ofText (text : String) : DocumentText :=
  let bytes := Utf8.encode text.toList
  match bytes.take 2 with
  | 0 :: _ => .ofUnits true bytes
  | [_, 0] => .ofUnits false bytes
  | _ => ⟨text.toList, false⟩

end BusContract.Markup
