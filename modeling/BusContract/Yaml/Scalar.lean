import BusContract.Text.Wide
import BusContract.Yaml.Cursor

/-!
# Scalar texts

A scalar is written plainly, in quotes or as a block of lines. Line ends inside plain and quoted
scalars are folded: one of them counts as a blank, and of several the first does not count. A
block is taken line by line, with or without folding.
-/

namespace BusContract.Yaml

/-- What a row of line ends counts for between other text. -/
def foldBreaks (first : Char) (more : List Char) : List Char :=
  if first != '\n' then first :: more else if more.isEmpty then [' '] else more

/-! ## Plain scalars -/

/-- Does a plain scalar end at this character, given the one after it? -/
def endsPlain (inFlow : Bool) (c following : Char) : Bool :=
  isBlankOrEnd c
    || (c == ':' && (isBlankOrEnd following || (inFlow && ",[]\x7b\x7d".toList.contains following)))
    || (inFlow && ",?[]\x7b\x7d".toList.contains c)

/-- The characters up to where a plain scalar ends. -/
def plainRun (inFlow : Bool) : List Char → List Char
  | [] => []
  | c :: rest => if endsPlain inFlow c (rest.headD '\x00') then [] else c :: plainRun inFlow rest

/-- The gap between two runs of a plain scalar. -/
structure PlainGap where
  /-- What the gap counts for, in reverse. The scalar ends if it counts for nothing. -/
  chars : List Char
  /-- Is there a line end in the gap? -/
  hasBreak : Bool
  after : Cursor

/-- Line ends and blanks after the first line end of a gap. `none` if documents are divided here. -/
def plainBreaks : (fuel : Nat) → Cursor → List Char → Option (List Char) × Cursor
  | 0, c, breaks => (some breaks, c)
  | fuel + 1, c, breaks =>
    if c.peek == ' ' then plainBreaks fuel c.next breaks
    else
      match c.lineBreak? with
      | some (b, c) =>
        if c.isDivider then (none, c) else plainBreaks fuel c (b :: breaks)
      | none => (some breaks, c)

/-- The gap that begins here. -/
def plainGap (c : Cursor) : PlainGap :=
  let blanks := c.span (· == ' ')
  let c := c.skipSpaces
  match c.lineBreak? with
  | none => ⟨blanks, false, c⟩
  | some (b, c) =>
    if c.isDivider then ⟨[], true, c⟩
    else
      match plainBreaks c.rest.length c [] with
      | (none, c) => ⟨[], true, c⟩
      | (some breaks, c) => ⟨(foldBreaks b breaks.reverse).reverse, true, c⟩

/-- A plain scalar: its text in reverse, whether a line end follows it, and what is behind it. Lines
after the first have to be indented by `indent`. -/
def plainFrom (inFlow : Bool) (indent : Int) :
    (fuel : Nat) → Cursor → (gap text : List Char) → (hasBreak : Bool) → List Char × Bool × Cursor
  | 0, c, _, text, hasBreak => (text, hasBreak, c)
  | fuel + 1, c, gap, text, hasBreak =>
    let run := plainRun inFlow c.rest
    if c.peek == '#' || run.isEmpty then (text, hasBreak, c)
    else
      let text := run.reverse ++ gap ++ text
      let next := plainGap (c.skip run.length)
      let isOut := !inFlow && (next.after.column : Int) < indent
      if next.chars.isEmpty || next.after.peek == '#' || isOut then
        (text, next.hasBreak, next.after)
      else plainFrom inFlow indent fuel next.after next.chars text next.hasBreak

/-! ## Quoted scalars -/

/-- The character that a short escape stands for. -/
def shortEscape? : Char → Option Char
  | '0' => some '\x00'
  | 'a' => some '\x07'
  | 'b' => some '\x08'
  | 't' => some '\t'
  | '\t' => some '\t'
  | 'n' => some '\n'
  | 'v' => some '\x0b'
  | 'f' => some '\x0c'
  | 'r' => some '\r'
  | 'e' => some '\x1b'
  | ' ' => some ' '
  | '"' => some '"'
  | '\\' => some '\\'
  | '/' => some '/'
  | 'N' => some '\x85'
  | '_' => some '\xa0'
  | 'L' => some '\u2028'
  | 'P' => some '\u2029'
  | _ => none

/-- The number of digits of a long escape. -/
def escapeWidth? : Char → Option Nat
  | 'x' => some 2
  | 'u' => some 4
  | 'U' => some 8
  | _ => none

/-- Line ends and blanks inside quotes. Documents must not be divided here. -/
def quotedBreaks : (fuel : Nat) → Cursor → List Char → Except Fault (List Char × Cursor)
  | 0, c, breaks => .ok (breaks, c)
  | fuel + 1, c, breaks =>
    if c.isDivider then .error .malformed
    else
      let c := c.skipWhile fun ch => ch == ' ' || ch == '\t'
      match c.lineBreak? with
      | some (b, c) => quotedBreaks fuel c (b :: breaks)
      | none => .ok (breaks, c)

/-- What a long escape stands for, which may be half of a surrogate pair. -/
def longEscape (c : Cursor) (width : Nat) : Except Fault TextPoint :=
  match hexNumber? (c.rest.take width) with
  | none => .error .malformed
  | some code =>
    if (c.rest.take width).length < width then .error .malformed
    else if code ≥ 0x110000 then .error (.noCharacter code)
    else if 0xd800 ≤ code ∧ code ≤ 0xdfff then .ok (.half (Fin.ofNat 0x800 (code - 0xd800)))
    else .ok (.char (Char.ofNat code))

/-- A quoted scalar behind its first quote: its text in reverse, and what is behind it. -/
def quotedFrom (isDouble : Bool) :
    (fuel : Nat) → Cursor → List TextPoint → Except Fault (List TextPoint × Cursor)
  | 0, _, _ => .error .malformed
  | fuel + 1, c, text =>
    match c.rest with
    | [] => .error .malformed
    | ch :: rest =>
      if ch == ' ' || ch == '\t' || isBreak ch then
        let blanks := c.span fun ch => ch == ' ' || ch == '\t'
        let c := c.skip blanks.length
        if c.atEnd then .error .malformed
        else
          match c.lineBreak? with
          | none => quotedFrom isDouble fuel c (blanks.reverse.map .char ++ text)
          | some (b, c) =>
            match quotedBreaks (c.rest.length + 1) c [] with
            | .error fault => .error fault
            | .ok (breaks, c) =>
              let folded := foldBreaks b breaks.reverse
              quotedFrom isDouble fuel c (folded.reverse.map .char ++ text)
      else if !isDouble && ch == '\'' then
        if rest.head? == some '\'' then quotedFrom isDouble fuel (c.skip 2) (.char '\'' :: text)
        else .ok (text, c.next)
      else if isDouble && ch == '"' then .ok (text, c.next)
      else if isDouble && ch == '\\' then
        let c := c.next
        match shortEscape? c.peek, escapeWidth? c.peek, c.lineBreak? with
        | some e, _, _ => quotedFrom isDouble fuel c.next (.char e :: text)
        | none, some width, _ =>
          match longEscape c.next width with
          | .error fault => .error fault
          | .ok e => quotedFrom isDouble fuel (c.next.skip width) (e :: text)
        | none, none, some (_, c) =>
          match quotedBreaks (c.rest.length + 1) c [] with
          | .error fault => .error fault
          | .ok (breaks, c) => quotedFrom isDouble fuel c (breaks.map .char ++ text)
        | none, none, none => .error .malformed
      else quotedFrom isDouble fuel c.next (.char ch :: text)

/-- A quoted scalar and what is behind it. -/
def quotedScalar (c : Cursor) : Except Fault (WideText × Cursor) :=
  match quotedFrom (c.peek == '"') (c.rest.length + 1) c.next [] with
  | .error fault => .error fault
  | .ok (text, c) => .ok (⟨text.reverse⟩, c)

/-! ## Blocks -/

/-- What becomes of the line ends at the end of a block. -/
inductive Chomping where
  | strip
  | clip
  | keep
  deriving Repr, DecidableEq

/-- The head of a block: what becomes of its end, and how far it is indented if that is said. -/
structure BlockHead where
  chomping : Chomping
  increment : Option Nat

/-- The sign that says what becomes of the end. -/
def chompingOf? : Char → Option Chomping
  | '+' => some .keep
  | '-' => some .strip
  | _ => none

/-- The digit that says how far a block is indented. -/
def blockIncrement (c : Cursor) : Except Fault (Option Nat × Cursor) :=
  if c.peek == '0' then .error .malformed
  else if c.peek.isDigit then .ok (some (c.peek.toNat - '0'.toNat), c.next)
  else .ok (none, c)

/-- Reads the head of a block. The sign and the digit may come in either order. -/
def blockHead (c : Cursor) : Except Fault (BlockHead × Cursor) := do
  match chompingOf? c.peek with
  | some chomping =>
    let (increment, c) ← blockIncrement c.next
    if isSpaceOrEnd c.peek then return (⟨chomping, increment⟩, c) else .error .malformed
  | none =>
    let (increment, c) ← blockIncrement c
    let (chomping, c) := match increment, chompingOf? c.peek with
      | some _, some chomping => (chomping, c.next)
      | _, _ => (.clip, c)
    if isSpaceOrEnd c.peek then return (⟨chomping, increment⟩, c) else .error .malformed

/-- The empty lines at the beginning of a block, in reverse, and the deepest column that blanks
reach in them. -/
def blockIndentation : (fuel : Nat) → Cursor → List Char → Nat → List Char × Nat × Cursor
  | 0, c, breaks, deepest => (breaks, deepest, c)
  | fuel + 1, c, breaks, deepest =>
    if c.peek == ' ' then blockIndentation fuel c.next breaks (max deepest c.next.column)
    else
      match c.lineBreak? with
      | some (b, c) => blockIndentation fuel c (b :: breaks) deepest
      | none => (breaks, deepest, c)

/-- Behind the blanks in front, but not beyond the column. -/
def skipIndent (indent : Nat) (c : Cursor) : Cursor :=
  c.skip (min (indent - c.column) (c.span (· == ' ')).length)

/-- Empty lines inside a block, in reverse. -/
def blockBreaks (indent : Nat) : (fuel : Nat) → Cursor → List Char → List Char × Cursor
  | 0, c, breaks => (breaks, c)
  | fuel + 1, c, breaks =>
    let c := skipIndent indent c
    match c.lineBreak? with
    | some (b, c) => blockBreaks indent fuel c (b :: breaks)
    | none => (breaks, c)

/-- The lines of a block, in reverse. `breaks` are the line ends before the first of them. -/
def blockLines (isFolded : Bool) (indent : Nat) (chomping : Chomping) :
    (fuel : Nat) → Cursor → (breaks text : List Char) → (lastBreak : List Char) →
      List Char × Cursor
  | 0, c, _, text, _ => (text, c)
  | fuel + 1, c, breaks, text, lastBreak =>
    if c.column == indent && !c.atEnd then
      let isFlush := c.peek != ' ' && c.peek != '\t'
      let line := c.span (!isBreak ·)
      let text := line.reverse ++ breaks ++ text
      let c := c.skip line.length
      let lineEnd := (c.lineBreak?.map Prod.fst).toList
      let (breaks, c) := blockBreaks indent (c.rest.length + 1) c.skipBreak []
      if c.column == indent && !c.atEnd then
        let folds := isFolded && lineEnd == ['\n'] && isFlush && c.peek != ' ' && c.peek != '\t'
        let between := if folds then (if breaks.isEmpty then [' '] else []) else lineEnd
        blockLines isFolded indent chomping fuel c breaks (between ++ text) lineEnd
      else
        match chomping with
        | .strip => (text, c)
        | .clip => (lineEnd ++ text, c)
        | .keep => (breaks ++ lineEnd ++ text, c)
    else
      match chomping with
      | .keep => (breaks ++ lastBreak ++ text, c)
      | .clip => (lastBreak ++ text, c)
      | .strip => (text, c)

/-- A block behind its sign, in a context that is indented by `indent`. -/
def blockScalar (isFolded : Bool) (indent : Int) (c : Cursor) :
    Except Fault (WideText × Cursor) := do
  let (head, c) ← blockHead c
  let c ← c.endLine
  let least := (max (indent + 1) 1).toNat
  let (breaks, indent, c) :=
    match head.increment with
    | none =>
      let (breaks, deepest, c) := blockIndentation c.rest.length c [] 0
      (breaks, max least deepest, c)
    | some increment =>
      let indent := least + increment - 1
      let (breaks, c) := blockBreaks indent (c.rest.length + 1) c []
      (breaks, indent, c)
  let (text, c) := blockLines isFolded indent head.chomping (c.rest.length + 1) c breaks [] []
  return (.ofChars text.reverse, c)

end BusContract.Yaml
