import BusContract.Markup.Scan

/-!
# Tokens outside of the root element

Before and after the root element, and inside the document type declaration, a document is a row of
tokens. Which of them may stand where is the business of `Markup.Prolog`.
-/

namespace BusContract.Markup

/-- The kinds of word, by how its letters are arranged. -/
inductive WordKind where
  /-- A name without a colon. -/
  | simple
  /-- A name with one colon inside. -/
  | qualified
  /-- Any other row of name characters and colons. -/
  | other
  deriving Repr, DecidableEq

inductive Token where
  | blank
  | comment
  | instruction
  | xmlDeclaration
  /-- `<!` and a keyword. -/
  | declaration (keyword : List Char)
  | openSection
  | closeSection
  | word (kind : WordKind) (text : List Char)
  /-- A name followed by a sign of repetition. -/
  | repeated
  /-- `#` and a name. -/
  | pound (text : List Char)
  /-- A quoted text, without its quotes. -/
  | literal (text : List Char)
  | percent
  | parameterReference
  | openBracket
  | closeBracket
  | openParen
  /-- A closing parenthesis, with a sign of repetition if there is one. -/
  | closeParen (sign : Option Char)
  | bar
  | comma
  | close
  /-- The start of the root element. Nothing of it is read. -/
  | root
  deriving Repr, DecidableEq

/-! ## Scanners for single kinds -/

/-- May a quoted text be followed by the character? -/
def mayFollowLiteral (c : Char) : Bool :=
  isBlank c || c == '>' || c == '%' || c == '['

/-- Reads a quoted text, the opening quote being read already. -/
def scanLiteral (quote : Char) : List Char → Except Stop (List Char × List Char)
  | [] => .error .unfinished
  | c :: rest =>
    if c = quote then
      match rest with
      | [] => .ok ([], [])
      | d :: _ => if mayFollowLiteral d then .ok ([], rest) else .error (.invalid rest)
    else if isText c then do
      let (text, after) ← scanLiteral quote rest
      return (c :: text, after)
    else .error (.invalid (c :: rest))

/-- The letters of declaration keywords. -/
def isKeywordPart (c : Char) : Bool := c.isAlpha || c == '_'

/-- Reads what follows `<!`. -/
def scanMarkup (s : List Char) : Except Stop (Token × List Char) :=
  match s with
  | [] => .error .unfinished
  | '-' :: rest => do return (.comment, ← scanComment rest)
  | '[' :: rest => .ok (.openSection, rest)
  | c :: _ =>
    if isKeywordPart c then
      let keyword := s.takeWhile isKeywordPart
      let rest := s.dropWhile isKeywordPart
      match rest with
      | [] => .error .unfinished
      | ['%'] => .error .unfinished
      | '%' :: d :: _ =>
        if isBlank d || d == '%' then .error (.invalid rest) else .ok (.declaration keyword, rest)
      | d :: _ => if isBlank d then .ok (.declaration keyword, rest) else .error (.invalid rest)
    else .error (.invalid s)

/-- Reads what follows a percent sign. -/
def scanPercent (s : List Char) : Except Stop (Token × List Char) :=
  match s with
  | [] => .error .unfinished
  | c :: _ =>
    if isBlank c || c == '%' then .ok (.percent, s)
    else do
      let (_, rest) ← scanName s
      return (.parameterReference, ← expect ';' rest)

/-- May a name after `#` be followed by the character? -/
def mayFollowPound (c : Char) : Bool :=
  isBlank c || c == ')' || c == '>' || c == '%' || c == '|'

/-- Reads what follows a number sign. -/
def scanPound (s : List Char) : Except Stop (Token × List Char) := do
  let (name, rest) ← scanName s
  match rest with
  | [] => return (.pound name, [])
  | c :: _ => if mayFollowPound c then return (.pound name, rest) else throw (.invalid rest)

/-- May a closing parenthesis without a sign be followed by the character? -/
def mayFollowParen (c : Char) : Bool :=
  isBlank c || c == '>' || c == ',' || c == '|' || c == ')'

/-- Reads what follows a closing parenthesis. -/
def scanCloseParen (s : List Char) : Except Stop (Token × List Char) :=
  match s with
  | [] => .ok (.closeParen none, [])
  | c :: rest =>
    if c == '*' || c == '?' || c == '+' then .ok (.closeParen (some c), rest)
    else if mayFollowParen c then .ok (.closeParen none, s)
    else .error (.invalid s)

/-- May a word be followed by the character? -/
def mayFollowWord (c : Char) : Bool :=
  isBlank c || c == '>' || c == ')' || c == ',' || c == '|' || c == '[' || c == '%'

/-- The kind of a word after a colon that `next?` follows: one colon between two names leaves a
qualified name, any other is no name. The input may not end after the colon of a name. -/
def WordKind.afterColon (kind : WordKind) (next? : Option Char) : Option WordKind :=
  match kind, next? with
  | .simple, none => none
  | .simple, some c => if isNamePart c then some .qualified else some .other
  | _, _ => some .other

/-- Reads the rest of a word of the given kind so far, whose letters so far are reversed. -/
def scanWordFrom (kind : WordKind) (read : List Char) : List Char →
    Except Stop (Token × List Char)
  | [] => .ok (.word kind read.reverse, [])
  | c :: rest =>
    if isNamePart c then scanWordFrom kind (c :: read) rest
    else if c = ':' then
      match kind.afterColon rest.head? with
      | none => .error .unfinished
      | some kind => scanWordFrom kind (c :: read) rest
    else if c == '+' || c == '*' || c == '?' then
      if kind = .other then .error (.invalid (c :: rest)) else .ok (.repeated, rest)
    else if mayFollowWord c then .ok (.word kind read.reverse, c :: rest)
    else .error (.invalid (c :: rest))

/-! ## All tokens -/

/-- Reads the token at the front of `s`. At the end of the input there is none, which is for the
caller to see first. -/
def scanToken (s : List Char) : Except Stop (Token × List Char) :=
  match s with
  | [] => .error .unfinished
  | '"' :: rest => do
    let (text, rest) ← scanLiteral '"' rest
    return (.literal text, rest)
  | '\'' :: rest => do
    let (text, rest) ← scanLiteral '\'' rest
    return (.literal text, rest)
  | '<' :: rest =>
    match rest with
    | [] => .error .unfinished
    | '!' :: rest => scanMarkup rest
    | '?' :: rest => do
      let (kind, rest) ← scanInstruction rest
      match kind with
      | .processing => return (.instruction, rest)
      | .xmlDeclaration => return (.xmlDeclaration, rest)
    | c :: _ =>
      if c.toNat ≥ 0x80 || c.isAlpha || c == '_' then .ok (.root, s) else .error (.invalid rest)
  | '%' :: rest => scanPercent rest
  | ',' :: rest => .ok (.comma, rest)
  | '[' :: rest => .ok (.openBracket, rest)
  | ']' :: rest =>
    match rest with
    | [']'] => .error .unfinished
    | ']' :: '>' :: rest => .ok (.closeSection, rest)
    | rest => .ok (.closeBracket, rest)
  | '(' :: rest => .ok (.openParen, rest)
  | ')' :: rest => scanCloseParen rest
  | '|' :: rest => .ok (.bar, rest)
  | '>' :: rest => .ok (.close, rest)
  | '#' :: rest => scanPound rest
  | c :: rest =>
    if isBlank c then .ok (.blank, skipBlanks rest)
    else if isNameStart c then scanWordFrom .simple [c] rest
    else if isNamePart c || c == ':' then scanWordFrom .other [c] rest
    else .error (.invalid s)

end BusContract.Markup
