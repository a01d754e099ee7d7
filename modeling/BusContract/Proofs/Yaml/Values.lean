import BusContract.Proofs.Outcomes
import BusContract.Yaml.Value

/-!
# Faults of values

A text that is marked as a value of some kind can be refused for that kind: as a truth value, a number or a
timestamp. Each reading of a kind is gone through, and what it can refuse a text for is a fault of that kind.

* `Yaml.Kind.Rejects`: the faults of each kind.
* `Yaml.failsOnly_scalarValue`: a text is refused for its kind only.
-/

namespace BusContract.Yaml

/-- A fault of a text that is no value of the kind. -/
inductive Kind.Rejects : Kind → Fault → Prop where
  | truth (text : String) : Rejects .bool (.notTruth text)
  | number (base : Nat) (text : String) : Rejects .int (.notNumber base text)
  | digits (count : Nat) : Rejects .int (.tooManyDigits count)
  | empty : Rejects .int .noDigits
  | decimal (text : String) : Rejects .float (.notDecimal text)
  | sixties : Rejects .float .tooLarge
  | emptyDecimal : Rejects .float .noDigits
  | timestamp : Rejects .timestamp .notTimestamp
  | date (reason : String) : Rejects .timestamp (.badDate reason)
  | mapping : Rejects .timestamp .notText

attribute [simp] Kind.Rejects.truth Kind.Rejects.number Kind.Rejects.digits Kind.Rejects.empty
  Kind.Rejects.decimal Kind.Rejects.sixties Kind.Rejects.emptyDecimal Kind.Rejects.timestamp Kind.Rejects.date
  Kind.Rejects.mapping

/-- A text that is refused for its kind keeps to the rules. -/
theorem Kind.Rejects.ne_malformed {kind : Kind} {fault : Fault} (h : kind.Rejects fault) :
    fault ≠ .malformed := by
  cases h <;> nofun

/-- A word that is no truth value. -/
theorem failsOnly_truthOf (text : List Char) : FailsOnly (Kind.Rejects .bool) (truthOf text) := by
  unfold truthOf
  dsimp only
  split <;> simp

/-- Digits that are none in the base, or too many of them. -/
theorem failsOnly_readInt (base : Nat) (text : List Char) :
    FailsOnly (Kind.Rejects .int) (readInt base text) := by
  unfold readInt
  dsimp only
  split
  · simp
  · split <;> simp

/-- The parts of a number in base sixty are refused as the number is. -/
theorem failsOnly_intOf (text : List Char) : FailsOnly (Kind.Rejects .int) (intOf text) := by
  unfold intOf
  dsimp only
  split
  all_goals simp [failsOnly_readInt, failsOnly_mapM]

/-- A word that is no number. -/
theorem Real.failsOnly_read (text : List Char) : FailsOnly (Kind.Rejects .float) (Real.read text) := by
  unfold Real.read
  dsimp only
  split
  · simp
  · split
    · simp
    · split <;> simp

/-- In base sixty a number may also be too large. -/
theorem failsOnly_realOf (text : List Char) : FailsOnly (Kind.Rejects .float) (realOf text) := by
  simp [realOf, Real.failsOnly_read, failsOnly_mapM]

/-- A day, a time of it or an offset may not exist. -/
theorem Timestamp.failsOnly_ofWritten (w : WrittenTime) :
    FailsOnly (Kind.Rejects .timestamp) (Timestamp.ofWritten w) := by
  -- each of the three checks has a reason of its own
  have hday (year month day : Nat) : FailsOnly (Kind.Rejects .timestamp) (checkDay year month day) := by
    simp [checkDay]
  have hclock (hour minute second : Nat) :
      FailsOnly (Kind.Rejects .timestamp) (checkClock hour minute second) := by
    simp [checkClock]
  have hzone : FailsOnly (Kind.Rejects .timestamp) (zoneOf w) := by
    unfold zoneOf
    split <;> simp
  unfold ofWritten
  dsimp only
  split <;> simp [hday, hclock, hzone]

/-- A text that has not the form of a timestamp, or one that does not exist. -/
theorem failsOnly_timestampOf (text : List Char) :
    FailsOnly (Kind.Rejects .timestamp) (timestampOf text) := by
  unfold timestampOf
  split
  · exact Timestamp.failsOnly_ofWritten _
  · simp

/-- Only truth values, numbers and timestamps are refused for their kind. -/
theorem failsOnly_scalarValue (kind : Kind) (isOwn : Bool) (text : WideText) :
    FailsOnly (fun fault => fault = .malformed ∨ kind.Rejects fault) (scalarValue kind isOwn text) := by
  cases kind with
  | bool => exact fun fault h => .inr (failsOnly_truthOf _ fault h)
  | int => exact fun fault h => .inr (failsOnly_intOf _ fault (map_eq_error_iff.mp h))
  | float => exact fun fault h => .inr (failsOnly_realOf _ fault (map_eq_error_iff.mp h))
  | timestamp =>
    -- the text of a mapping is not looked at
    refine failsOnly_ite_iff.mpr ⟨fun _ fault h => .inr ?_, fun _ => failsOnly_error_iff.mpr (.inr .mapping)⟩
    exact failsOnly_timestampOf _ fault (map_eq_error_iff.mp h)
  | binary =>
    -- bytes that are not encoded as they should be break the rules
    simp only [scalarValue, failsOnly_ite_iff, failsOnly_error_iff, true_or, implies_true, true_and]
    intro _
    split <;> simp
  | _ => simp [scalarValue]

end BusContract.Yaml
