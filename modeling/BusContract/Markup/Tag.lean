import BusContract.Markup.Scan

/-!
# Tags

Start tags with their attributes as written, and end tags. Attribute values are kept unexpanded;
their references have been checked for form only.
-/

namespace BusContract.Markup

/-- An attribute as written, with the places of its name and of its value. -/
structure RawAttribute where
  name : List Char
  /-- Characters that remain from the name on. -/
  nameAt : Nat
  /-- The value between the quotes. -/
  value : List Char
  /-- Characters that remain from the value on. -/
  valueAt : Nat
  deriving Repr, DecidableEq

/-- A start tag as written. -/
structure StartTag where
  name : List Char
  attributes : List RawAttribute
  /-- Does the tag also end the element? -/
  closed : Bool
  deriving Repr, DecidableEq

/-- Reads an attribute value up to its quote, checking the form of references. -/
def scanValue (quote : Char) : List Char → Except Stop (List Char × List Char)
  | [] => .error .unfinished
  | c :: rest =>
    if c = quote then .ok ([], rest)
    else if c = '<' || !isText c then .error (.invalid (c :: rest))
    else do
      if c = '&' then
        let _ ← scanReference rest
      let (value, after) ← scanValue quote rest
      return (c :: value, after)

/-- Reads the end of a start tag. -/
def scanTagEnd : List Char → Except Stop (Bool × List Char)
  | '>' :: rest => .ok (false, rest)
  | '/' :: rest => do return (true, ← expect '>' rest)
  | s => .error (stopAt s)

/-- Does the input go on with the end of a start tag? -/
def atTagEnd : List Char → Bool
  | '>' :: _ => true
  | '/' :: _ => true
  | _ => false

/-- Reads attributes up to the end of the tag. The first of `s` is no blank. `fuel` bounds the
number of attributes. -/
def scanAttributes (fuel : Nat) (read : List RawAttribute) (s : List Char) :
    Except Stop ((List RawAttribute × Bool) × List Char) :=
  match fuel with
  | 0 => .error .unfinished
  | fuel + 1 => do
    let (name, rest) ← scanQualifiedName s
    let rest := skipBlanks (← expect '=' (skipBlanks rest))
    match rest with
    | [] => throw .unfinished
    | quote :: after =>
      if quote != '"' && quote != '\'' then throw (.invalid rest)
      let (value, rest) ← scanValue quote after
      let read := ⟨name, s.length, value, after.length⟩ :: read
      let next := skipBlanks rest
      if atTagEnd next then
        let (closed, rest) ← scanTagEnd next
        return ((read.reverse, closed), rest)
      else if next.length < rest.length then scanAttributes fuel read next
      else throw (stopAt rest)

/-- Reads a start tag, the `<` being read already. -/
def scanStartTag (s : List Char) : Except Stop (StartTag × List Char) := do
  let (name, rest) ← scanQualifiedName s
  let next := skipBlanks rest
  if atTagEnd next then
    let (closed, rest) ← scanTagEnd next
    return (⟨name, [], closed⟩, rest)
  else if next.length < rest.length then
    match next with
    | [] => throw .unfinished
    | _ =>
      let ((attributes, closed), rest) ← scanAttributes next.length [] next
      return (⟨name, attributes, closed⟩, rest)
  else throw (stopAt rest)

/-- Reads an end tag, the `</` being read already. The name may hold any number of colons: it can
only be that of the start tag. -/
def scanEndTag (s : List Char) : Except Stop (List Char × List Char) := do
  let (head, rest) ← scanName s
  let isPart := fun c => isNamePart c || c == ':'
  let name := head ++ rest.takeWhile isPart
  return (name, ← expect '>' (skipBlanks (rest.dropWhile isPart)))

end BusContract.Markup
