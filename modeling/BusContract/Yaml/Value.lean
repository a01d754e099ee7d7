import BusContract.Text.Base64
import BusContract.Text.Quoted
import BusContract.Text.Utf8
import BusContract.Yaml.Timestamp

/-!
# Values

A scalar is a text that is taken for a value of its kind. It may be marked as one of a kind whose form it
does not have, and then it need not be a value at all.
-/

namespace BusContract.Yaml

/-- A value. -/
inductive Value where
  | null
  | bool (b : Bool)
  | int (n : Int)
  | real (r : Real)
  | text (s : WideText)
  | bytes (b : List UInt8)
  | timestamp (t : Timestamp)
  /-- A sequence, mapping or set. -/
  | collection
  deriving Repr, DecidableEq

/-! ## Scalars -/

/-- The truth value that a word stands for. -/
def truthOf (text : List Char) : Except Fault Value :=
  let word := String.ofList (text.map Char.toLower)
  match truthWords.lookup word with
  | some b => .ok (.bool b)
  | none => .error (.notTruth word)

/-- The value of a text of a kind. A timestamp is looked for in the text of the node itself, and so where a
mapping has the text of a part of it there is none. -/
def scalarValue (kind : Kind) (isOwn : Bool) (text : WideText) : Except Fault Value :=
  match kind with
  | .null => .ok .null
  | .bool => truthOf text.standIns
  | .int => (intOf text.standIns).map .int
  | .float => (realOf text.standIns).map .real
  | .binary =>
    if !text.standIns.all (·.toNat < 128) then .error .malformed
    else
      match Base64.decode text.standIns with
      | some bytes => .ok (.bytes bytes)
      | none => .error .malformed
  | .timestamp =>
    if isOwn then (timestampOf text.standIns).map .timestamp else .error .notText
  | .str => .ok (.text text)
  | _ => .error .malformed

/-! ## Keys -/

/-- The number that a value counts as when it is a key. -/
def Value.number? : Value → Option (Bool × Nat × Nat)
  | bool b => some (false, if b then 1 else 0, 0)
  | int n => some (n < 0, n.natAbs, 0)
  | real (.finite d) => some (d.mantissa < 0, Decimal.reduce d.mantissa.natAbs d.places)
  | _ => none

/-- Do two keys count as the same? Numbers do if they are equal, of whatever kind they are. -/
def Value.sameKey (a b : Value) : Bool :=
  a == b || (a.number?.isSome && a.number? == b.number?)

/-- Puts an entry. A key that is there keeps its place. -/
def putEntry (key value : Value) : List (Value × Value) → List (Value × Value)
  | [] => [(key, value)]
  | (k, v) :: rest =>
    if k.sameKey key then (k, value) :: rest else (k, v) :: putEntry key value rest

/-- The entries of a mapping, once they have been put one after the other. -/
def putEntries (values : List (Value × Value)) : List (Value × Value) :=
  values.foldl (fun put (key, value) => putEntry key value put) []

end BusContract.Yaml
