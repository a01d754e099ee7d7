import BusContract.Text.Utf8

/-!
# Signatures and their tolerant comparison

A signature describes the layout of a message body. Marshalling may drop the outer parentheses of a
struct and a reader may add them, so two signatures count as equivalent when they agree after each
has lost at most one pair of outer parentheses. The comparison works on bytes; a signature may be
given as text or as raw bytes.

The pair is outer only if the parentheses between its two ends are balanced. Balance is decided by a
depth counter that a closing parenthesis at depth zero leaves alone.
-/

namespace BusContract

/-! ## Outer parentheses

`unwrap` is stated for any alphabet with two chosen letters, so that it can be run on the bytes and
on the characters of a signature alike. -/

section Unwrap

variable {α : Type} [DecidableEq α]

/-- The depth after one more letter. The depth never goes below zero. -/
def depthStep (opening closing : α) (depth : Nat) (letter : α) : Nat :=
  if letter = opening then depth + 1
  else if letter = closing then depth - 1
  else depth

/-- The depth that is left open at the end of `letters`. -/
def openDepth (opening closing : α) (letters : List α) : Nat :=
  letters.foldl (depthStep opening closing) 0

/-- `letters` without its first and last letter if these are a pair that encloses the whole. -/
def unwrap (opening closing : α) (letters : List α) : List α :=
  match letters with
  | first :: rest =>
    if first = opening ∧ rest.getLast? = some closing ∧
        openDepth opening closing rest.dropLast = 0 then
      rest.dropLast
    else letters
  | [] => []

end Unwrap

/-! ## Signatures -/

/-- A signature as it is handed over: as text or as raw bytes. -/
inductive Signature where
  | text (s : String)
  | bytes (b : List UInt8)
  deriving Repr, DecidableEq

namespace Signature

/-- The bytes that are compared. -/
def toBytes : Signature → List UInt8
  | text s => Utf8.encode s.toList
  | bytes b => b

/-- The form in messages. Bytes that are no UTF-8 show as U+FFFD. -/
def render : Signature → String
  | text s => s
  | bytes b => String.ofList (Utf8.decodeLenient b)

/-- The opening parenthesis as a byte. -/
def openingByte : UInt8 := 0x28

/-- The closing parenthesis as a byte. -/
def closingByte : UInt8 := 0x29

/-- The bytes without their outer parentheses. -/
def core (s : Signature) : List UInt8 :=
  unwrap openingByte closingByte s.toBytes

/-- Two signatures are equivalent if they are at most one marshalling step apart on each side. -/
def equivalent (lhs rhs : Signature) : Bool :=
  lhs.core == rhs.core

end Signature

/-! ## Required outcomes -/

/-- The comparison did not come out as required. -/
structure SignatureMismatch where
  /-- Were the signatures required to be equivalent? -/
  wantedEqual : Bool
  lhs : Signature
  rhs : Signature
  deriving Repr, DecidableEq

/-- The sentence that reports how a comparison came out. -/
def comparisonSentence (equal : Bool) (lhs rhs : String) : String :=
  let verdict := if equal then "equal" else "not equal"
  s!"Signatures are {verdict} (Lhs: {lhs}, Rhs: {rhs})"

/-- The message says what was found, which is the opposite of what was wanted. -/
def SignatureMismatch.message (mismatch : SignatureMismatch) : String :=
  comparisonSentence (!mismatch.wantedEqual) mismatch.lhs.render mismatch.rhs.render

namespace Signature

/-- Succeeds if the signatures are equivalent. -/
def requireEquivalent (lhs rhs : Signature) : Except SignatureMismatch Unit :=
  if equivalent lhs rhs then .ok () else .error ⟨true, lhs, rhs⟩

/-- Succeeds if the signatures are not equivalent. -/
def requireDistinct (lhs rhs : Signature) : Except SignatureMismatch Unit :=
  if equivalent lhs rhs then .error ⟨false, lhs, rhs⟩ else .ok ()

end Signature

end BusContract
