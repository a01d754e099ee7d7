import BusContract.Text.Wide

/-!
# Name patterns

A pattern says which names are meant: a star stands for any characters, a question mark for one, and
brackets for one of a class of characters. A class lists characters and ranges, and an exclamation
mark in front turns it round. A bracket that is not closed stands for itself.

A hyphen makes a range of its neighbours if there are two, and another hyphen is not looked for
right after it. A range that runs backwards is taken out together with its ends.

A pattern is a text like any other, so it may hold halves of surrogate pairs, which no name fits but by
a class of all the positions around them.
-/

namespace BusContract

/-- One or more positions in a row. -/
inductive CharRange where
  | one (p : TextPoint)
  | range (low high : TextPoint)
  deriving Repr, DecidableEq

/-- Is the character in the range? -/
def CharRange.contains : CharRange → Char → Bool
  | one p, c => p == .char c
  | range low high, c => low.number ≤ c.toNat && c.toNat ≤ high.number

/-- A class of characters. -/
structure CharClass where
  isNegated : Bool
  ranges : List CharRange
  deriving Repr, DecidableEq

/-- Is the character in the class? -/
def CharClass.contains (cls : CharClass) (c : Char) : Bool :=
  cls.isNegated != cls.ranges.any (·.contains c)

/-- What a part of a pattern stands for. -/
inductive PatternItem where
  | anything
  | anyChar
  | point (p : TextPoint)
  | oneOf (cls : CharClass)
  deriving Repr, DecidableEq

/-- A pattern for names. -/
abbrev NamePattern := List PatternItem

/-! ## Matching -/

/-- Does the pattern fit the whole name? -/
def NamePattern.fits : NamePattern → List Char → Bool
  | [], [] => true
  | [], _ :: _ => false
  | .anything :: items, [] => fits items []
  | .anything :: items, c :: name => fits items (c :: name) || fits (.anything :: items) name
  | .anyChar :: items, _ :: name => fits items name
  | .point p :: items, c :: name => p == .char c && fits items name
  | .oneOf cls :: items, c :: name => cls.contains c && fits items name
  | _ :: _, [] => false
termination_by items name => (items.length, name.length)

/-! ## Reading classes -/

namespace CharClass

/-- The rows of positions between the hyphens that make ranges. Within a row, the first `skip` of them
are not looked at for hyphens. -/
def rows : (skip : Nat) → List TextPoint → List (List TextPoint)
  | _, [] => [[]]
  | 0, p :: rest => if p = .char '-' then [] :: rows 2 rest else consHead p (rows 0 rest)
  | skip + 1, p :: rest => consHead p (rows skip rest)
where
  /-- Puts a position in front of the first row. -/
  consHead (p : TextPoint) : List (List TextPoint) → List (List TextPoint)
    | [] => [[p]]
    | row :: rows => (p :: row) :: rows

/-- A hyphen at the end stands for itself: the empty row after it becomes a hyphen of the row
before. -/
def closeRows : List (List TextPoint) → List (List TextPoint)
  | [] => []
  | [row, []] => [row ++ [.char '-']]
  | row :: rows => row :: closeRows rows

/-- Takes out ranges that run backwards, from the right. -/
def dropBackward : List (List TextPoint) → List (List TextPoint)
  | [] => []
  | row :: rows =>
    match dropBackward rows with
    | [] => [row]
    | next :: more =>
      match row.getLast?, next with
      | some low, high :: tail =>
        if low.number > high.number then (row.dropLast ++ tail) :: more else row :: next :: more
      | _, _ => row :: next :: more

/-- A row of positions that do not make ranges. -/
def ofRow (row : List TextPoint) : List CharRange := row.map .one

/-- The ranges that a row and those after it make, the last position of each with the first of the
next. A hyphen without a neighbour stands for itself. -/
def ofRows (row : List TextPoint) : List (List TextPoint) → List CharRange
  | [] => ofRow row
  | next :: more =>
    match row.getLast?, next with
    | some low, high :: tail => ofRow row.dropLast ++ .range low high :: ofRows tail more
    | _, _ => ofRow row ++ .one (.char '-') :: ofRows next more

/-- The class with the given text between its brackets. -/
def ofPoints (text : List TextPoint) : CharClass :=
  let rows :=
    if text.contains (.char '-') then
      dropBackward (closeRows (rows (if text.head? = some (.char '!') then 2 else 1) text))
    else [text]
  match rows with
  | (.char '!' :: row) :: more => ⟨true, ofRows row more⟩
  | row :: more => ⟨false, ofRows row more⟩
  | [] => ⟨false, []⟩

end CharClass

/-! ## Reading patterns -/

namespace NamePattern

/-- The text of a class that has begun and what follows its closing bracket. A bracket right at the
beginning, or after the exclamation mark, belongs to the text. -/
def classText? (text : List TextPoint) : Option (List TextPoint × List TextPoint) :=
  let mark := if text.head? = some (.char '!') then [TextPoint.char '!'] else []
  let text := text.drop mark.length
  let first := if text.head? = some (.char ']') then [TextPoint.char ']'] else []
  let text := text.drop first.length
  let body := text.takeWhile (· != .char ']')
  match text.dropWhile (· != .char ']') with
  | [] => none
  | _ :: rest => some (mark ++ first ++ body, rest)

/-- Reads a pattern. At most as many items are read as are asked for. -/
def read : Nat → List TextPoint → NamePattern
  | 0, _ => []
  | _, [] => []
  | n + 1, .char '*' :: rest => .anything :: read n rest
  | n + 1, .char '?' :: rest => .anyChar :: read n rest
  | n + 1, .char '[' :: rest =>
    match classText? rest with
    | some (body, rest) => .oneOf (.ofPoints body) :: read n rest
    | none => .point (.char '[') :: read n rest
  | n + 1, p :: rest => .point p :: read n rest

/-- Reads a pattern. -/
def ofWide (text : WideText) : NamePattern := read text.points.length text.points

/-- Reads a pattern of characters alone. -/
def ofText (text : String) : NamePattern := ofWide text

/-- Does the text need to be read as a pattern, rather than to be taken as a name? -/
def isPattern (text : String) : Bool := text.toList.any fun c => c == '*' || c == '?' || c == '['

end NamePattern

end BusContract
