import BusContract.Yaml.Token

/-!
# From layout to tokens

Blocks are marked by indentation alone. Reading a text from the left keeps the columns at which
blocks are open; when a line begins further left, the blocks to the right of it end. In brackets and
braces indentation counts for nothing.

Whether something is a key is known only at the colon behind it. So a place where a key may begin
is noted, for every depth of brackets, and when the colon is found the token for a key, and with
it that for the beginning of a mapping, is put there afterwards. A note is void on the next line
or 1024 characters later; a key that nothing else can be then is missing its colon.

No more is read than it takes to know what the next token is, so that of two things that are wrong
with a text the first one counts. A token at which a key may have begun is known only when its note
is gone.
-/

namespace BusContract.Yaml

/-- A place where a key may have begun. -/
structure KeyNote where
  /-- The number of tokens in front of it, those included that have been taken. -/
  tokens : Nat
  /-- Can there be nothing but a key? -/
  isRequired : Bool
  cursor : Cursor

/-- What is kept of the text that has been read. -/
structure Layout where
  cursor : Cursor
  /-- The column of the innermost block, or -1. -/
  indent : Int
  /-- The columns of the blocks around it. -/
  outer : List Int
  /-- The number of open brackets and braces. -/
  depth : Nat
  /-- May a key begin here? -/
  keyAllowed : Bool
  /-- By depth. -/
  notes : List (Nat × KeyNote)
  /-- The tokens that have been read and not been taken. -/
  tokens : List Token
  /-- The number of tokens that have been taken. -/
  taken : Nat
  /-- Has the end of the text been read? -/
  isDone : Bool

/-- A step of reading. -/
abbrev LayoutStep := Layout → Except Fault Layout

namespace Layout

/-- Nothing has been read, or nothing but a byte order mark in front. -/
def start (text : List Char) : Layout :=
  let c := Cursor.start text
  ⟨if c.peek == '\ufeff' then c.next else c, -1, [], 0, true, [], [], 0, false⟩

/-- Adds a token. -/
def emit (l : Layout) (t : Token) : Layout := { l with tokens := l.tokens ++ [t] }

/-- Puts tokens in behind the given number of tokens. -/
def insert (l : Layout) (index : Nat) (tokens : List Token) : Layout :=
  { l with tokens := l.tokens.take (index - l.taken) ++ tokens ++ l.tokens.drop (index - l.taken) }

/-- Takes a token. -/
def take (l : Layout) : Layout := { l with tokens := l.tokens.drop 1, taken := l.taken + 1 }

/-- Moves on. -/
def moveTo (l : Layout) (c : Cursor) : Layout := { l with cursor := c }

/-- Says whether a key may begin next. -/
def allowKey (l : Layout) (allowed : Bool) : Layout := { l with keyAllowed := allowed }

/-! ## Blocks -/

/-- Ends blocks to the right of a column. -/
def unwindFrom (column : Int) : List Int → Int → List Token → List Int × Int × List Token
  | [], indent, tokens => ([], indent, tokens)
  | enclosing :: outer, indent, tokens =>
    if column < indent then unwindFrom column outer enclosing (tokens ++ [.blockEnd])
    else (enclosing :: outer, indent, tokens)

/-- Ends the blocks to the right of a column, outside brackets. -/
def unwind (l : Layout) (column : Int) : Layout :=
  if l.depth ≠ 0 then l
  else
    let (outer, indent, tokens) := unwindFrom column l.outer l.indent l.tokens
    { l with outer := outer, indent := indent, tokens := tokens }

/-- Opens a block at a column, if it is to the right of the innermost one. -/
def indentTo (l : Layout) (column : Int) : Option Layout :=
  if l.indent < column then some { l with outer := l.indent :: l.outer, indent := column } else none

/-! ## Notes of keys -/

/-- Drops the note at this depth. -/
def dropNote (l : Layout) : Except Fault Layout :=
  match l.notes.lookup l.depth with
  | some note =>
    if note.isRequired then .error .malformed
    else .ok { l with notes := l.notes.filter (·.1 != l.depth) }
  | none => .ok l

/-- Is the note void at a place? -/
def KeyNote.isStale (note : KeyNote) (c : Cursor) : Bool :=
  note.cursor.line != c.line || c.index - note.cursor.index > 1024

/-- Drops notes that are void. -/
def dropStale (l : Layout) : Except Fault Layout :=
  let (stale, fresh) := l.notes.partition fun (_, note) => KeyNote.isStale note l.cursor
  if stale.any (·.2.isRequired) then .error .malformed else .ok { l with notes := fresh }

/-- Notes that a key may begin here. -/
def note (l : Layout) : Except Fault Layout :=
  if l.keyAllowed then do
    let isRequired := l.depth == 0 && l.indent == (l.cursor.column : Int)
    let l ← l.dropNote
    let index := l.taken + l.tokens.length
    return { l with notes := (l.depth, ⟨index, isRequired, l.cursor⟩) :: l.notes }
  else .ok l

/-! ## Tokens -/

/-- A single sign. -/
def sign (l : Layout) (t : Token) : Layout := (l.emit t).moveTo l.cursor.next

/-- A bracket or brace that opens. -/
def openFlow (t : Token) : LayoutStep := fun l => do
  let l ← l.note
  return ({ l with depth := l.depth + 1 }.allowKey true).sign t

/-- A bracket or brace that closes. -/
def closeFlow (t : Token) : LayoutStep := fun l => do
  let l ← l.dropNote
  if l.depth = 0 then .error .malformed
  else return ({ l with depth := l.depth - 1 }.allowKey false).sign t

/-- A comma in brackets. -/
def flowEntry : LayoutStep := fun l => do
  return ((← (l.allowKey true).dropNote).sign .flowEntry)

/-- Begins a block at the current column if needed. Outside brackets this is only allowed where a
key may begin. -/
def beginBlock (l : Layout) (t : Token) : Except Fault Layout :=
  if l.depth ≠ 0 then .ok l
  else if !l.keyAllowed then .error .malformed
  else
    match l.indentTo l.cursor.column with
    | some l => .ok (l.emit t)
    | none => .ok l

/-- The hyphen of an entry. -/
def blockEntry : LayoutStep := fun l => do
  let l ← l.beginBlock .blockSequenceStart
  return (← (l.allowKey true).dropNote).sign .blockEntry

/-- The question mark of a key. -/
def explicitKey : LayoutStep := fun l => do
  let l ← l.beginBlock .blockMappingStart
  return (← (l.allowKey (l.depth == 0)).dropNote).sign .key

/-- The colon before a value. -/
def value : LayoutStep := fun l =>
  match l.notes.lookup l.depth with
  | some note =>
    let l := { l with notes := l.notes.filter (·.1 != l.depth) }
    let (l, tokens) :=
      match if l.depth == 0 then l.indentTo note.cursor.column else none with
      | some l => (l, [Token.blockMappingStart, .key])
      | none => (l, [.key])
    .ok (((l.insert note.tokens tokens).allowKey false).sign .value)
  | none => do
    let l ← l.beginBlock .blockMappingStart
    return (← (l.allowKey (l.depth == 0)).dropNote).sign .value

/-- A token at which a key may begin and after which none may. -/
def keyed (read : Cursor → Except Fault (Token × Cursor)) : LayoutStep := fun l => do
  let l ← l.note
  let (t, c) ← read l.cursor
  return ((l.allowKey false).emit t).moveTo c

/-- A plain scalar. A key may begin behind it if it is followed by a line end. -/
def plain : LayoutStep := fun l => do
  let l ← l.note
  let c := l.cursor
  let (text, hasBreak, after) :=
    plainFrom (l.depth != 0) (l.indent + 1) (c.rest.length + 1) c [] [] false
  return ((l.allowKey hasBreak).emit (.scalar (.ofChars text.reverse) true)).moveTo after

/-- A block of lines. -/
def block (isFolded : Bool) : LayoutStep := fun l => do
  let l ← (l.allowKey true).dropNote
  let (text, c) ← blockScalar isFolded l.indent l.cursor.next
  return (l.emit (.scalar text false)).moveTo c

/-- What stands at the beginning of a line and ends all blocks. -/
def atMargin (read : Cursor → Except Fault (Token × Cursor)) : LayoutStep := fun l => do
  let l ← (l.unwind (-1)).dropNote
  let (t, c) ← read l.cursor
  return ((l.allowKey false).emit t).moveTo c

/-! ## Steps -/

/-- Moves over blanks, comments and line ends. Behind a line end outside brackets a key may begin.
-/
def skipGap : (fuel : Nat) → Layout → Layout
  | 0, l => l
  | fuel + 1, l =>
    let c := l.cursor.skipSpaces
    let c := if c.peek == '#' then c.skipWhile (!isBreak ·) else c
    match c.lineBreak? with
    | some (_, c) => skipGap fuel ((l.moveTo c).allowKey (l.keyAllowed || l.depth == 0))
    | none => l.moveTo c

/-- Can a plain scalar begin here? -/
def beginsPlain (inFlow : Bool) (c : Cursor) : Bool :=
  let first := c.peek
  if first == '-' then !isBlankOrEnd (c.peekAt 1)
  else if first == '?' || first == ':' then !inFlow && !isBlankOrEnd (c.peekAt 1)
  else !isBlankOrEnd first && !",[]\x7b\x7d#&*!|>'\"%@\x60".toList.contains first

/-- What the characters at the cursor begin. -/
def dispatch (l : Layout) : LayoutStep :=
  let c := l.cursor
  let inFlow := l.depth != 0
  let stands := inFlow || isBlankOrEnd (c.peekAt 1)
  if c.column == 0 && c.peek == '%' then
    atMargin fun c => (directive c).map fun (d, c) => (.directive d, c)
  else if c.column == 0 && c.isTriple '-' then atMargin fun c => .ok (.documentStart, c.skip 3)
  else if c.column == 0 && c.isTriple '.' then atMargin fun c => .ok (.documentEnd, c.skip 3)
  else if c.peek == '[' then openFlow .flowSequenceStart
  else if c.peek == '\x7b' then openFlow .flowMappingStart
  else if c.peek == ']' then closeFlow .flowSequenceEnd
  else if c.peek == '\x7d' then closeFlow .flowMappingEnd
  else if c.peek == ',' then flowEntry
  else if c.peek == '-' && isBlankOrEnd (c.peekAt 1) then blockEntry
  else if c.peek == '?' && stands then explicitKey
  else if c.peek == ':' && stands then value
  else if c.peek == '*' then
    keyed fun c => (anchorName c).map fun (name, c) => (.reference name, c)
  else if c.peek == '&' then keyed fun c => (anchorName c).map fun (name, c) => (.anchor name, c)
  else if c.peek == '!' then keyed fun c => (writtenTag c).map fun (t, c) => (.tag t, c)
  else if c.peek == '|' && !inFlow then block false
  else if c.peek == '>' && !inFlow then block true
  else if c.peek == '\'' || c.peek == '"' then
    keyed fun c => (quotedScalar c).map fun (text, c) => (.scalar text false, c)
  else if beginsPlain inFlow c then plain
  else fun _ => .error .malformed

/-- The end of the text. -/
def finish (l : Layout) : Except Fault Layout := do
  return { (← (l.unwind (-1)).dropNote).emit .streamEnd with isDone := true }

/-- Reads on by a word. -/
def step : LayoutStep := fun l => do
  let l ← (skipGap (l.cursor.rest.length + 1) l).dropStale
  let l := l.unwind l.cursor.column
  if l.cursor.atEnd then l.finish else dispatch l l

/-- Can nothing be put in front of the next token any more? -/
def isSettled (l : Layout) : Bool := l.notes.all fun (_, note) => note.tokens != l.taken

/-- Reads on until it is known what the next token is. Behind the end of the text there is none. -/
def settle : (fuel : Nat) → LayoutStep
  | 0, _ => .error .malformed
  | fuel + 1, l =>
    if l.isDone then .ok l
    else if l.tokens.isEmpty then l.step >>= settle fuel
    else do
      let l ← l.dropStale
      if l.isSettled then return l else l.step >>= settle fuel

end Layout

end BusContract.Yaml
