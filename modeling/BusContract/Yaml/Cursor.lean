import BusContract.Text.Quoted

/-!
# Walking through a YAML text

A cursor is what is left of a text, together with how far it is from the beginning of the text, of
the line, and how many lines there were. Behind the end of the text there seem to be null
characters, which a text itself cannot hold.
-/

namespace BusContract.Yaml

/-- Why a YAML text cannot be read. -/
inductive Fault where
  /-- The text breaks the rules of the language. -/
  | malformed
  /-- An escape names a number that is too large for a character. -/
  | noCharacter (code : Nat)
  | notNumber (base : Nat) (text : String)
  | notDecimal (text : String)
  | tooManyDigits (count : Nat)
  /-- A number in base sixty has too many parts. -/
  | tooLarge
  /-- A number or timestamp has no characters at all. -/
  | noDigits
  | notTruth (text : String)
  | notTimestamp
  | badDate (reason : String)
  /-- A mapping is marked as a timestamp. -/
  | notText
  /-- A mapping stands for itself. -/
  | endless
  deriving Repr, DecidableEq

/-- What is said about the fault. About a text that breaks the rules no more is said than that. -/
def Fault.message : Fault → String
  | malformed => "malformed"
  | noCharacter code =>
    if code < 0x80000000 then "chr() arg not in range(0x110000)"
    else "Python int too large to convert to C int"
  | notNumber base text =>
    let shown := String.ofList ((quoted text).toList.take 200)
    s!"invalid literal for int() with base {base}: {shown}"
  | notDecimal text => s!"could not convert string to float: {quoted text}"
  | tooManyDigits count =>
    "Exceeds the limit (4300 digits) for integer string conversion: " ++
      s!"value has {count} digits; use sys.set_int_max_str_digits() to increase the limit"
  | tooLarge => "int too large to convert to float"
  | noDigits => "string index out of range"
  | notTruth text => quoted text
  | notTimestamp => "'NoneType' object has no attribute 'groupdict'"
  | badDate reason => reason
  | notText => "expected string or bytes-like object, got 'list'"
  | endless => "maximum recursion depth exceeded"

/-- The most decimal digits that a number is read from. -/
def mostDigits : Nat := 4300

/-! ## Characters -/

/-- Does the character end a line? -/
def isBreak (c : Char) : Bool :=
  c == '\r' || c == '\n' || c == '\x85' || c == '\u2028' || c == '\u2029'

/-- Is this the end of the line or of the text? -/
def isLineEnd (c : Char) : Bool := c == '\x00' || isBreak c

/-- Is this a blank or the end of the line? -/
def isSpaceOrEnd (c : Char) : Bool := c == ' ' || isLineEnd c

/-- Is this a blank, a tab or the end of the line? -/
def isBlankOrEnd (c : Char) : Bool := c == '\t' || isSpaceOrEnd c

/-- Can the character stand in a text? -/
def isPrintable (c : Char) : Bool :=
  c == '\t' || c == '\n' || c == '\r' || ('\x20' ≤ c && c ≤ '\x7e') || c == '\x85'
    || ('\xa0' ≤ c && c ≤ '\ud7ff') || ('\ue000' ≤ c && c ≤ '\ufffd') || c.toNat ≥ 0x10000

/-- Can the character stand in the name of an anchor? -/
def isWordChar (c : Char) : Bool := c.isAlphanum || c == '-' || c == '_'

/-- The value of a hexadecimal digit. -/
def hexValue? (c : Char) : Option Nat :=
  if c.isDigit then some (c.toNat - '0'.toNat)
  else if 'a' ≤ c ∧ c ≤ 'f' then some (c.toNat - 'a'.toNat + 10)
  else if 'A' ≤ c ∧ c ≤ 'F' then some (c.toNat - 'A'.toNat + 10)
  else none

/-- The number that hexadecimal digits stand for. -/
def hexNumber? (digits : List Char) : Option Nat :=
  digits.foldlM (fun n c => (hexValue? c).map (n * 16 + ·)) 0

/-! ## Cursors -/

/-- A place in a text. -/
structure Cursor where
  rest : List Char
  index : Nat
  line : Nat
  column : Nat
  deriving Repr, Inhabited

namespace Cursor

/-- The beginning of a text. -/
def start (text : List Char) : Cursor := ⟨text, 0, 0, 0⟩

/-- The next character. -/
def peek (c : Cursor) : Char := c.rest.headD '\x00'

/-- The character `n` places further on. -/
def peekAt (c : Cursor) (n : Nat) : Char := c.rest.getD n '\x00'

/-- Is this the end of the text? -/
def atEnd (c : Cursor) : Bool := c.rest.isEmpty

/-- One character further on. A line ends with the last character of its line end, and a byte order
mark takes no column. -/
def next (c : Cursor) : Cursor :=
  match c.rest with
  | [] => c
  | ch :: rest =>
    if isBreak ch && !(ch == '\r' && rest.head? == some '\n') then
      ⟨rest, c.index + 1, c.line + 1, 0⟩
    else
      ⟨rest, c.index + 1, c.line, if ch == '\ufeff' then c.column else c.column + 1⟩

/-- Several characters further on. -/
def skip (c : Cursor) : Nat → Cursor
  | 0 => c
  | n + 1 => c.next.skip n

/-- The characters in front that pass the test. -/
def span (c : Cursor) (accept : Char → Bool) : List Char := c.rest.takeWhile accept

/-- Behind the characters in front that pass the test. -/
def skipWhile (c : Cursor) (accept : Char → Bool) : Cursor := c.skip (c.span accept).length

/-- Behind the blanks in front. -/
def skipSpaces (c : Cursor) : Cursor := c.skipWhile (· == ' ')

/-- The line end in front, as it counts in a text, and the cursor behind it. -/
def lineBreak? (c : Cursor) : Option (Char × Cursor) :=
  match c.rest with
  | '\r' :: '\n' :: _ => some ('\n', c.skip 2)
  | ch :: _ =>
    if ch == '\r' || ch == '\n' || ch == '\x85' then some ('\n', c.next)
    else if ch == '\u2028' || ch == '\u2029' then some (ch, c.next)
    else none
  | [] => none

/-- Behind the line end in front, if there is one. -/
def skipBreak (c : Cursor) : Cursor := ((c.lineBreak?).map Prod.snd).getD c

/-- Do three of a character stand here, with nothing but a blank or the line end behind? -/
def isTriple (c : Cursor) (mark : Char) : Bool :=
  c.peek == mark && c.peekAt 1 == mark && c.peekAt 2 == mark && isBlankOrEnd (c.peekAt 3)

/-- Does something stand here that divides documents? -/
def isDivider (c : Cursor) : Bool := c.isTriple '-' || c.isTriple '.'

/-- Behind the blanks and the comment at the end of a line, and behind the line end. Nothing else
may stand there. -/
def endLine (c : Cursor) : Except Fault Cursor :=
  let c := c.skipSpaces
  let c := if c.peek == '#' then c.skipWhile (!isBreak ·) else c
  if isLineEnd c.peek then .ok c.skipBreak else .error .malformed

end Cursor

end BusContract.Yaml
