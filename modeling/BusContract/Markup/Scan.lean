import BusContract.Markup.Char

/-!
# Reading the pieces that tokens are made of

Every scanner takes the characters that are still to come and gives back a value with what follows
it. A scanner stops short in one of two ways: at a character that cannot continue the token, or at
the end of the input inside the token.
-/

namespace BusContract.Markup

/-- Why a scanner stopped short. -/
inductive Stop where
  /-- The first of `rest` cannot continue the token. -/
  | invalid (rest : List Char)
  /-- The input ends inside the token. -/
  | unfinished
  deriving Repr, DecidableEq

/-- The stop at a place where some character was wanted and none of those possible is there. -/
def stopAt : List Char → Stop
  | [] => .unfinished
  | rest => .invalid rest

/-- The blanks at the front are passed over. -/
def skipBlanks (s : List Char) : List Char := s.dropWhile isBlank

/-- Reads exactly the character `c`. -/
def expect (c : Char) : List Char → Except Stop (List Char)
  | d :: rest => if c = d then .ok rest else .error (.invalid (d :: rest))
  | [] => .error .unfinished

/-- Reads a name without a colon. What may follow it is for the caller to say. -/
def scanName : List Char → Except Stop (List Char × List Char)
  | c :: rest =>
    if isNameStart c then .ok (c :: rest.takeWhile isNamePart, rest.dropWhile isNamePart)
    else .error (.invalid (c :: rest))
  | [] => .error .unfinished

/-- Reads a name with at most one colon inside it. -/
def scanQualifiedName (s : List Char) : Except Stop (List Char × List Char) := do
  let (name, rest) ← scanName s
  match rest with
  | ':' :: rest =>
    let (stem, rest) ← scanName rest
    return (name ++ ':' :: stem, rest)
  | rest => return (name, rest)

/-! ## References -/

/-- A reference: to an entity by name, or to a character by number. A number that denotes no
character of a document is kept as `none`. -/
inductive Reference where
  | entity (name : List Char)
  | character (c : Option Char)
  deriving Repr, DecidableEq

/-- The character of a number, if a document may contain it. -/
def characterOfNumber (n : Nat) : Option Char :=
  if h : n.isValidChar then
    let c := Char.ofNatAux n h
    if isText c then some c else none
  else none

/-- The value of a digit in bases up to sixteen. -/
def digitValue (c : Char) : Nat :=
  if c.isDigit then c.toNat - '0'.toNat
  else if 'a' ≤ c && c ≤ 'f' then c.toNat - 'a'.toNat + 10
  else c.toNat - 'A'.toNat + 10

/-- The number that digits denote. -/
def numberOf (base : Nat) (digits : List Char) : Nat :=
  digits.foldl (fun n c => n * base + digitValue c) 0

/-- Is the character a hexadecimal digit? -/
def isHexDigit (c : Char) : Bool :=
  c.isDigit || ('a' ≤ c && c ≤ 'f') || ('A' ≤ c && c ≤ 'F')

/-- Reads at least one digit and the semicolon after the digits. -/
def scanDigits (isDigit : Char → Bool) (base : Nat) (s : List Char) :
    Except Stop (Reference × List Char) := do
  let digits := s.takeWhile isDigit
  let rest := s.dropWhile isDigit
  if digits.isEmpty then throw (stopAt rest)
  let after ← expect ';' rest
  return (.character (characterOfNumber (numberOf base digits)), after)

/-- Reads a reference, the ampersand being read already. -/
def scanReference : List Char → Except Stop (Reference × List Char)
  | '#' :: 'x' :: rest => scanDigits isHexDigit 16 rest
  | '#' :: rest => scanDigits Char.isDigit 10 rest
  | s => do
    let (name, rest) ← scanName s
    let after ← expect ';' rest
    return (.entity name, after)

/-! ## Comments, processing instructions, marked sections -/

/-- Passes over a comment, the two hyphens that open it being read already. -/
def skipComment : List Char → Except Stop (List Char)
  | [] => .error .unfinished
  | '-' :: '-' :: '>' :: rest => .ok rest
  | ['-'] => .error .unfinished
  | ['-', '-'] => .error .unfinished
  | '-' :: '-' :: rest => .error (.invalid rest)
  | c :: rest => if isText c then skipComment rest else .error (.invalid (c :: rest))

/-- The comment whose opening `<!-` is read already. -/
def scanComment (s : List Char) : Except Stop (List Char) := do
  skipComment (← expect '-' s)

/-- A processing instruction, or the XML declaration with the text between its target and its end.
-/
inductive Instruction where
  | processing
  | xmlDeclaration
  deriving Repr, DecidableEq

/-- Passes over the text of an instruction up to its end. -/
def skipInstruction : List Char → Except Stop (List Char)
  | [] => .error .unfinished
  | '?' :: '>' :: rest => .ok rest
  | ['?'] => .error .unfinished
  | c :: rest => if isText c then skipInstruction rest else .error (.invalid (c :: rest))

/-- The target `xml` is reserved for the XML declaration, in any other spelling it is refused. -/
def instructionOfTarget (target : List Char) : Option Instruction :=
  if target == ['x', 'm', 'l'] then some .xmlDeclaration
  else if target.map Char.toLower == ['x', 'm', 'l'] then none
  else some .processing

/-- Reads an instruction, the opening `<?` being read already. -/
def scanInstruction (s : List Char) : Except Stop (Instruction × List Char) := do
  let (target, rest) ← scanName s
  match rest with
  | [] => throw .unfinished
  | c :: after =>
    if isBlank c then
      match instructionOfTarget target with
      | none => throw (.invalid rest)
      | some kind => return (kind, ← skipInstruction after)
    else if c = '?' then
      match instructionOfTarget target with
      | none => throw (.invalid rest)
      | some kind => return (kind, ← expect '>' after)
    else throw (.invalid rest)

/-- The word that opens a marked section after `<![`. -/
def cdataWord : List Char := ['C', 'D', 'A', 'T', 'A', '[']

/-- The number of bytes that a text takes in UTF-8. -/
def byteCount (s : List Char) : Nat := s.foldl (fun n c => n + c.utf8Size) 0

/-- Reads `CDATA[`. The input counts as ended inside the word as long as fewer bytes than the word
has are left, whatever they are. -/
def scanCDataWord (s : List Char) : Except Stop (List Char) :=
  if byteCount (s.take cdataWord.length) < cdataWord.length then .error .unfinished
  else cdataWord.foldlM (fun rest c => expect c rest) s

end BusContract.Markup
