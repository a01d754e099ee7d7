import BusContract.Text.Quoted
import BusContract.Text.Utf8

/-!
# Texts with halves of surrogate pairs

A text may hold halves of surrogate pairs, which are no characters. An escape can put one there, and a
byte from the system that is not UTF-8 is kept as one: given back to the system that half is the byte
again. The other halves mean nothing to the system, and a text with one of them cannot be given to it.
-/

namespace BusContract

/-- One position of a text. -/
inductive TextPoint where
  | char (c : Char)
  /-- Half of a surrogate pair, counted from the first one. -/
  | half (n : Fin 0x800)
  deriving Repr, DecidableEq

namespace TextPoint

/-- The code point. -/
def number : TextPoint → Nat
  | char c => c.toNat
  | half n => 0xd800 + n

/-- The character, if it is one. -/
def char? : TextPoint → Option Char
  | char c => some c
  | half _ => none

/-- A character for the position. What is no character counts as the one for what cannot be shown. -/
def standIn : TextPoint → Char
  | char c => c
  | half _ => '\ufffd'

/-- The byte that a half stands for, if it does for one. -/
def escapedByte? : TextPoint → Option UInt8
  | char _ => none
  | half n => if 0x480 ≤ n.val ∧ n.val < 0x500 then some (UInt8.ofNat (n - 0x400)) else none

/-- What the system is given for the position. -/
def bytes? : TextPoint → Option (List UInt8)
  | char c => some (String.utf8EncodeChar c)
  | half n => (half n).escapedByte?.map fun b => [b]

/-- How a half is written where only characters can be. -/
def escape (p : TextPoint) : List Char := '\\' :: 'u' :: Quoted.hex 4 p.number

/-- What is shown for the position. -/
def shown : TextPoint → List Char
  | char c => [c]
  | half n => (half n).escape

end TextPoint

/-- A text that may hold halves of surrogate pairs. -/
structure WideText where
  points : List TextPoint
  deriving Repr, DecidableEq, Inhabited

namespace WideText

/-- A text of characters alone. -/
def ofChars (text : List Char) : WideText := ⟨text.map .char⟩

/-- A text of characters alone. -/
def ofText (text : String) : WideText := ofChars text.toList

instance : Coe String WideText := ⟨ofText⟩

/-- The text, if it is one of characters alone. -/
def text? (t : WideText) : Option String := (t.points.mapM TextPoint.char?).map String.ofList

/-- The text with a character at each position. -/
def standIns (t : WideText) : List Char := t.points.map TextPoint.standIn

/-- What the system is given for the text, if it can be. -/
def bytes? (t : WideText) : Option (List UInt8) :=
  (t.points.mapM TextPoint.bytes?).map List.flatten

/-- The text as the system has it: characters whose bytes were kept as halves are themselves again. -/
def spelled? (t : WideText) : Option String :=
  match t.text? with
  | some s => some s
  | none => do
    match Utf8.decode (← t.bytes?) with
    | .ok chars => some (String.ofList chars)
    | .error _ => none

/-- The name that the system takes the text for. Where no name is spelled it is one that no file has, of
as many bytes, and one that the system refuses where it cannot be given the text. -/
def systemName (t : WideText) : String :=
  match t.spelled?, t.bytes? with
  | some name, _ => name
  | none, some _ => String.ofList (t.points.map fun p => p.char?.getD '/')
  | none, none => "\x00"

/-- The text where only characters can be shown. -/
def shown (t : WideText) : String := String.ofList (t.points.flatMap TextPoint.shown)

/-- Where the text cannot be given to the system: the first half that is no byte, and the last position
of the halves that stand together there. -/
def flaw? (t : WideText) : Option (Nat × Nat) :=
  let start := (t.points.takeWhile fun p => p.bytes?.isSome).length
  let run := (t.points.drop start).takeWhile fun p => p.char?.isNone
  if run.isEmpty then none else some (start, start + run.length - 1)

end WideText

/-- A text as messages show it, between quotes. -/
def quotedWide (t : WideText) : String :=
  let quote := Quoted.quoteFor t.standIns
  let shown : TextPoint → List Char
    | .char c => Quoted.escape quote c
    | .half n => (TextPoint.half n).escape
  String.ofList (quote :: t.points.flatMap shown ++ [quote])

/-- What is said about a text that cannot be given to the system. -/
def WideText.complaint (t : WideText) : String :=
  match t.flaw? with
  | none => ""
  | some (first, last) =>
    let half := String.ofList (((t.points.drop first).take 1).flatMap TextPoint.escape)
    let what :=
      if first = last then s!"character '{half}' in position {first}"
      else s!"characters in position {first}-{last}"
    s!"'utf-8' codec can't encode {what}: surrogates not allowed"

end BusContract
