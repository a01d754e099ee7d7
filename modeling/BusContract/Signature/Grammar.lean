/-!
# The grammar of signatures

A well-formed signature is a row of complete types. A complete type is a letter for a basic value, a
variant, an array of one complete type, an array of entries that each have a basic key, or a struct
of one complete type or more. Types are kept as trees here, and `CompleteType.letters` writes them.

The writing of a row is that of its types one after the other (`lettersOfAll_append`). A row that
is a single struct and the row of the struct's fields are the same layout to a tolerant reader;
`CompleteType.layout` gives both the same form.
-/

namespace BusContract

/-- A value that is not made of others. Only these can be keys of entries. -/
inductive BasicType where
  | byte
  | boolean
  | int16
  | uint16
  | int32
  | uint32
  | int64
  | uint64
  | double
  | fileHandle
  | string
  | objectPath
  | signature
  deriving Repr, DecidableEq

/-- The letter of a basic type. -/
def BasicType.letter : BasicType → Char
  | byte => 'y'
  | boolean => 'b'
  | int16 => 'n'
  | uint16 => 'q'
  | int32 => 'i'
  | uint32 => 'u'
  | int64 => 'x'
  | uint64 => 't'
  | double => 'd'
  | fileHandle => 'h'
  | string => 's'
  | objectPath => 'o'
  | signature => 'g'

/-- One complete type. A struct has a first field, so it is never empty. -/
inductive CompleteType where
  | basic (b : BasicType)
  | variant
  | array (element : CompleteType)
  | mapping (key : BasicType) (value : CompleteType)
  | struct (first : CompleteType) (rest : List CompleteType)
  deriving Repr

namespace CompleteType

mutual

/-- The written form of a type. -/
def letters : CompleteType → List Char
  | basic b => [b.letter]
  | variant => ['v']
  | array element => 'a' :: letters element
  | mapping key value => 'a' :: '\x7b' :: key.letter :: (letters value ++ ['\x7d'])
  | struct first rest => '(' :: (letters first ++ (lettersOfAll rest ++ [')']))

/-- The written forms of types, one after the other. -/
def lettersOfAll : List CompleteType → List Char
  | [] => []
  | t :: rest => letters t ++ lettersOfAll rest

end

/-- The writing of a row is that of its two parts. -/
theorem lettersOfAll_append (ts us : List CompleteType) :
    lettersOfAll (ts ++ us) = lettersOfAll ts ++ lettersOfAll us := by
  induction ts with
  | nil => rw [List.nil_append, lettersOfAll, List.nil_append]
  | cons t ts ih => rw [List.cons_append, lettersOfAll, lettersOfAll, ih, List.append_assoc]

/-- The signature of a row of types. -/
def signature (ts : List CompleteType) : String := String.ofList (lettersOfAll ts)

/-- The row without the struct around it, if it is a single struct. -/
def layout : List CompleteType → List CompleteType
  | [struct first rest] => first :: rest
  | ts => ts

end CompleteType

/-- Is the text a row of complete types? -/
def IsSignature (s : String) : Prop := ∃ ts : List CompleteType, CompleteType.signature ts = s

/-- Is the text exactly one complete type? -/
def IsSingleSignature (s : String) : Prop := ∃ t : CompleteType, CompleteType.signature [t] = s

end BusContract
