import BusContract.Text.Utf8
import BusContract.Yaml.Scalar

/-!
# Tokens

The words of a YAML text, without blanks and comments. Names of anchors, tags and directives are
read here; how the words of a text follow from its layout is said in `Layout`.
-/

namespace BusContract.Yaml

/-- A line that tells something about the document that follows. -/
inductive Directive where
  | version (major : Nat)
  /-- What a handle stands for at the front of tags. -/
  | handle (name expansion : String)
  | other
  deriving Repr, DecidableEq

/-- A tag as it is written: the rest of it behind a handle. -/
structure WrittenTag where
  handle : Option String
  rest : String
  deriving Repr, DecidableEq

/-- A word of a text. -/
inductive Token where
  | directive (d : Directive)
  | documentStart
  | documentEnd
  | blockSequenceStart
  | blockMappingStart
  | blockEnd
  | flowSequenceStart
  | flowSequenceEnd
  | flowMappingStart
  | flowMappingEnd
  | blockEntry
  | flowEntry
  | key
  | value
  | reference (name : String)
  | anchor (name : String)
  | tag (t : WrittenTag)
  | scalar (text : WideText) (isPlain : Bool)
  | streamEnd
  deriving Repr, DecidableEq

/-! ## Names -/

/-- The name behind the sign of an anchor or alias. -/
def anchorName (c : Cursor) : Except Fault (String × Cursor) :=
  let name := c.next.span isWordChar
  let after := c.next.skip name.length
  let ends := isBlankOrEnd after.peek || "?:,]\x7d%@\x60".toList.contains after.peek
  if name.isEmpty || !ends then .error .malformed else .ok (String.ofList name, after)

/-! ## Tags -/

/-- Characters that can stand in a tag. -/
def isTagChar (c : Char) : Bool := c.isAlphanum || "-;/?:@&=+$,_.!~*'()[]%".toList.contains c

/-- Bytes that are written as percent signs with two digits. -/
def percentBytes : (fuel : Nat) → Cursor → List UInt8 → Except Fault (List UInt8 × Cursor)
  | 0, c, bytes => .ok (bytes.reverse, c)
  | fuel + 1, c, bytes =>
    if c.peek != '%' then .ok (bytes.reverse, c)
    else
      match hexValue? (c.peekAt 1), hexValue? (c.peekAt 2) with
      | some a, some b => percentBytes fuel (c.skip 3) (UInt8.ofNat (a * 16 + b) :: bytes)
      | _, _ => .error .malformed

/-- The characters of a tag, those that are written as bytes in their own form. -/
def tagChars : (fuel : Nat) → Cursor → List Char → Except Fault (List Char × Cursor)
  | 0, c, chars => .ok (chars.reverse, c)
  | fuel + 1, c, chars =>
    if !isTagChar c.peek then .ok (chars.reverse, c)
    else if c.peek != '%' then tagChars fuel c.next (c.peek :: chars)
    else
      match percentBytes c.rest.length c [] with
      | .error fault => .error fault
      | .ok (bytes, after) =>
        match Utf8.decode bytes with
        | .error _ => .error .malformed
        | .ok text => tagChars fuel after (text.reverse ++ chars)

/-- The text of a tag, which must not be empty. -/
def tagText (c : Cursor) : Except Fault (String × Cursor) :=
  if !isTagChar c.peek then .error .malformed
  else (tagChars c.rest.length c []).map fun (chars, c) => (String.ofList chars, c)

/-- A handle: an exclamation mark, or a word between two of them. -/
def tagHandle (c : Cursor) : Except Fault (String × Cursor) :=
  if c.peek != '!' then .error .malformed
  else if c.peekAt 1 == ' ' then .ok ("!", c.next)
  else
    let word := c.next.span isWordChar
    let after := c.next.skip word.length
    if after.peek != '!' then .error .malformed
    else .ok (String.ofList ('!' :: word ++ ['!']), after.next)

/-- Does an exclamation mark come before the next blank or line end? -/
def hasHandle (c : Cursor) : Bool := (c.next.span (!isSpaceOrEnd ·)).contains '!'

/-- A tag and what is behind it. -/
def writtenTag (c : Cursor) : Except Fault (WrittenTag × Cursor) := do
  let (tag, after) ←
    if c.peekAt 1 == '<' then
      let (text, after) ← tagText (c.skip 2)
      if after.peek == '>' then .ok (WrittenTag.mk none text, after.next) else .error .malformed
    else if isBlankOrEnd (c.peekAt 1) then .ok (WrittenTag.mk none "!", c.next)
    else
      let (handle, after) ← if hasHandle c then tagHandle c else .ok ("!", c.next)
      let (text, after) ← tagText after
      .ok (WrittenTag.mk (some handle) text, after)
  if isSpaceOrEnd after.peek then return (tag, after) else .error .malformed

/-! ## Directives -/

/-- Digits and what is behind them. -/
def directiveNumber (c : Cursor) : Except Fault (Nat × Cursor) :=
  let digits := c.span Char.isDigit
  if digits.isEmpty then .error .malformed
  else if digits.length > mostDigits then .error (.tooManyDigits digits.length)
  else .ok (digits.foldl (fun n d => n * 10 + (d.toNat - '0'.toNat)) 0, c.skip digits.length)

/-- The version that a document is written for. -/
def versionDirective (c : Cursor) : Except Fault (Directive × Cursor) := do
  let (major, c) ← directiveNumber c.skipSpaces
  if c.peek != '.' then .error .malformed
  else
    let (_, c) ← directiveNumber c.next
    if isSpaceOrEnd c.peek then return (.version major, c) else .error .malformed

/-- What a handle stands for. -/
def handleDirective (c : Cursor) : Except Fault (Directive × Cursor) := do
  let (name, c) ← tagHandle c.skipSpaces
  if c.peek != ' ' then .error .malformed
  else
    let (expansion, c) ← tagText c.skipSpaces
    if isSpaceOrEnd c.peek then return (.handle name expansion, c) else .error .malformed

/-- A directive and what is behind its line. -/
def directive (c : Cursor) : Except Fault (Directive × Cursor) := do
  let name := c.next.span isWordChar
  let after := c.next.skip name.length
  if name.isEmpty || !isSpaceOrEnd after.peek then .error .malformed
  else
    let (d, after) ←
      if name == "YAML".toList then versionDirective after
      else if name == "TAG".toList then handleDirective after
      else .ok (.other, after.skipWhile (!isBreak ·))
    return (d, ← after.endLine)

end BusContract.Yaml
