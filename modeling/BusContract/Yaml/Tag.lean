import BusContract.Text.Lines
import BusContract.Yaml.Scalar

/-!
# Tags

A tag says what kind of value a node is. A plain scalar without a tag gets the one that its form
suggests: numbers, truth values, dates and nothing have forms of their own, and all else is text.
-/

namespace BusContract.Yaml

/-- What every standard tag begins with. -/
def standardPrefix : String := "tag:yaml.org,2002:"

/-- The kinds of values that there are standard tags for. -/
inductive Kind where
  | null
  | bool
  | int
  | float
  | binary
  | timestamp
  | omap
  | pairs
  | set
  | str
  | seq
  | map
  | merge
  | default
  /-- A tag of which nothing is known. -/
  | unknown
  deriving Repr, DecidableEq

/-- The kind that a tag means. -/
def Kind.ofTag (tag : String) : Kind :=
  if tag = standardPrefix ++ "null" then .null
  else if tag = standardPrefix ++ "bool" then .bool
  else if tag = standardPrefix ++ "int" then .int
  else if tag = standardPrefix ++ "float" then .float
  else if tag = standardPrefix ++ "binary" then .binary
  else if tag = standardPrefix ++ "timestamp" then .timestamp
  else if tag = standardPrefix ++ "omap" then .omap
  else if tag = standardPrefix ++ "pairs" then .pairs
  else if tag = standardPrefix ++ "set" then .set
  else if tag = standardPrefix ++ "str" then .str
  else if tag = standardPrefix ++ "seq" then .seq
  else if tag = standardPrefix ++ "map" then .map
  else if tag = standardPrefix ++ "merge" then .merge
  else if tag = standardPrefix ++ "value" then .default
  else .unknown

/-! ## Forms of numbers -/

/-- Is this a digit or an underscore? -/
def isDigitOrLine (c : Char) : Bool := c.isDigit || c == '_'

/-- Drops a sign. -/
def dropSign : List Char → List Char
  | '+' :: rest => rest
  | '-' :: rest => rest
  | text => text

/-- Are these colons with one or two digits each, of which the first of two is below six? At least
one is wanted. -/
def areSixties : List Char → Bool
  | [':', a] => a.isDigit
  | [':', a, b] => '0' ≤ a && a ≤ '5' && b.isDigit
  | ':' :: a :: ':' :: rest => a.isDigit && areSixties (':' :: rest)
  | ':' :: a :: b :: ':' :: rest => '0' ≤ a && a ≤ '5' && b.isDigit && areSixties (':' :: rest)
  | _ => false

/-- A whole number without its sign: binary, octal, decimal, hexadecimal or in base sixty. -/
def isIntForm (text : List Char) : Bool :=
  match text with
  | '0' :: 'b' :: rest => !rest.isEmpty && rest.all fun c => c == '0' || c == '1' || c == '_'
  | '0' :: 'x' :: rest => !rest.isEmpty && rest.all fun c => (hexValue? c).isSome || c == '_'
  | ['0'] => true
  | '0' :: rest => rest.all fun c => ('0' ≤ c && c ≤ '7') || c == '_'
  | c :: rest =>
    c.isDigit &&
      (rest.all isDigitOrLine ||
        (let tail := rest.dropWhile isDigitOrLine
         areSixties tail))
  | [] => false

/-- An exponent, which has a sign. -/
def isExponent : List Char → Bool
  | e :: sign :: digits =>
    (e == 'e' || e == 'E') && (sign == '+' || sign == '-') && !digits.isEmpty
      && digits.all Char.isDigit
  | _ => false

/-- Is there nothing here but an exponent, if even that? -/
def isOptionalExponent (text : List Char) : Bool := text.isEmpty || isExponent text

/-- The names of infinity. -/
def infinityNames : List String := [".inf", ".Inf", ".INF"]

/-- The names of what is no number. -/
def notANumberNames : List String := [".nan", ".NaN", ".NAN"]

/-- A number with a point. Where the digits begin with a point there is no sign. -/
def isFloatForm (text : List Char) : Bool :=
  let unsigned := dropSign text
  let whole := unsigned.takeWhile isDigitOrLine
  let tail := unsigned.dropWhile isDigitOrLine
  let isSixty :=
    let sixties := tail.takeWhile (· != '.')
    let fraction := tail.dropWhile (· != '.')
    areSixties sixties && !fraction.isEmpty && (fraction.drop 1).all isDigitOrLine
  let hasWhole := (whole.head?.map Char.isDigit).getD false
  (hasWhole &&
    (isSixty ||
      match tail with
      | '.' :: rest => isOptionalExponent (rest.dropWhile isDigitOrLine)
      | _ => false))
    || (match text with
      | '.' :: d :: rest => d.isDigit && isOptionalExponent (rest.dropWhile isDigitOrLine)
      | _ => false)
    || infinityNames.contains (String.ofList unsigned)
    || notANumberNames.contains (String.ofList text)

/-! ## Timestamps -/

/-- The parts of a timestamp as they are written. -/
structure WrittenTime where
  year : List Char
  month : List Char
  day : List Char
  /-- Hour, minute and second. -/
  clock : Option (List Char × List Char × List Char)
  fraction : List Char
  /-- The sign, hours and minutes that it is off from universal time. -/
  offset : Option (Char × List Char × List Char)
  isUniversal : Bool
  deriving Repr, DecidableEq

/-- Takes up to `most` digits, but no fewer than `least`. -/
def takeDigits? (least most : Nat) (text : List Char) : Option (List Char × List Char) :=
  let digits := (text.take most).takeWhile Char.isDigit
  if digits.length < least then none else some (digits, text.drop digits.length)

/-- Takes a character. -/
def takeChar? (c : Char) : List Char → Option (List Char)
  | d :: rest => if c == d then some rest else none
  | [] => none

/-- The offset at the end of a timestamp. -/
def takeOffset? (time : WrittenTime) (text : List Char) : Option WrittenTime := do
  match text.dropWhile fun c => c == ' ' || c == '\t' with
  | [] => if text.isEmpty then some time else none
  | ['Z'] => some { time with isUniversal := true }
  | sign :: rest =>
    if sign != '+' && sign != '-' then none
    else
      let (hours, rest) ← takeDigits? 1 2 rest
      if rest.isEmpty then some { time with offset := some (sign, hours, []) }
      else
        let (minutes, rest) ← takeDigits? 2 2 (← takeChar? ':' rest)
        if rest.isEmpty then some { time with offset := some (sign, hours, minutes) } else none

/-- Reads the parts of a timestamp. -/
def WrittenTime.read? (text : List Char) : Option WrittenTime := do
  let (year, rest) ← takeDigits? 4 4 text
  let (month, rest) ← takeDigits? 1 2 (← takeChar? '-' rest)
  let (day, rest) ← takeDigits? 1 2 (← takeChar? '-' rest)
  let date : WrittenTime := ⟨year, month, day, none, [], none, false⟩
  if rest.isEmpty then some date
  else
    let gap := rest.takeWhile fun c => c == ' ' || c == '\t'
    let rest := rest.drop gap.length
    let rest ←
      if gap.isEmpty then (takeChar? 'T' rest).or (takeChar? 't' rest) else some rest
    let (hour, rest) ← takeDigits? 1 2 rest
    let (minute, rest) ← takeDigits? 2 2 (← takeChar? ':' rest)
    let (second, rest) ← takeDigits? 2 2 (← takeChar? ':' rest)
    let fraction := match rest with
      | '.' :: rest => rest.takeWhile Char.isDigit
      | _ => []
    let rest := match rest with
      | '.' :: rest => rest.dropWhile Char.isDigit
      | rest => rest
    takeOffset? { date with clock := some (hour, minute, second), fraction := fraction } rest

/-- Is the form that of a timestamp? A date alone needs two digits for month and day. -/
def isTimestampForm (text : List Char) : Bool :=
  match WrittenTime.read? text with
  | some time => time.clock.isSome || (time.month.length == 2 && time.day.length == 2)
  | none => false

/-! ## The kind of a plain scalar -/

/-- The words for truth values, in small letters. -/
def truthWords : List (String × Bool) :=
  [("yes", true), ("no", false), ("true", true), ("false", false), ("on", true), ("off", false)]

/-- A word in small letters, with a capital, and in capitals. -/
def spellings (word : String) : List String := [word, word.capitalize, word.map Char.toUpper]

/-- The words for nothing. -/
def nullWords : List String := "" :: "~" :: spellings "null"

/-- The kind that the form of a text suggests. -/
def Kind.ofForm (text : List Char) : Kind :=
  let form := chomp text
  let word := String.ofList form
  if truthWords.any fun (w, _) => (spellings w).contains word then .bool
  else if isFloatForm form then .float
  else if isIntForm (dropSign form) then .int
  else if word = "<<" then .merge
  else if nullWords.contains word ∧ (word ≠ "" ∨ text.isEmpty) then .null
  else if isTimestampForm form then .timestamp
  else if word = "=" then .default
  else if word = "!" ∨ word = "&" ∨ word = "*" then .unknown
  else .str

end BusContract.Yaml
