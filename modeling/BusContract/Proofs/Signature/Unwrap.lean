import BusContract.Signature.Basic

/-!
# The outer pair

`unwrap` looks at both ends of a word and at the depth counter over what lies between them. Here it
is said once what comes out, for any alphabet: the inside if the word is a pair around an inside over
which the counter ends at zero (`unwrap_wrapped`), and the word itself otherwise
(`unwrap_of_not_wrapped`). Later proofs use these two and do not open `unwrap`.
-/

namespace BusContract

section Unwrap

variable {α : Type} [DecidableEq α] {opening closing : α}

theorem depthStep_of_ne {letter : α} (hopen : letter ≠ opening) (hclose : letter ≠ closing)
    (depth : Nat) : depthStep opening closing depth letter = depth := by
  unfold depthStep
  rw [if_neg hopen, if_neg hclose]

/-- The counter reads a word in two parts, one after the other. -/
theorem openDepth_append (a b : List α) :
    openDepth opening closing (a ++ b)
      = b.foldl (depthStep opening closing) (openDepth opening closing a) := by
  unfold openDepth
  rw [List.foldl_append]

/-- A pair around an inside that leaves nothing open is taken off. -/
theorem unwrap_wrapped {inside : List α} (h : openDepth opening closing inside = 0) :
    unwrap opening closing (opening :: (inside ++ [closing])) = inside := by
  have hlast : (inside ++ [closing]).getLast? = some closing := List.getLast?_concat
  have hinside : (inside ++ [closing]).dropLast = inside := List.dropLast_concat
  unfold unwrap
  simp only [hlast, hinside, h, and_self, if_true]

/-- A word that is no such pair is left alone. -/
theorem unwrap_of_not_wrapped {letters : List α}
    (h : ∀ inside, letters = opening :: (inside ++ [closing]) →
      openDepth opening closing inside ≠ 0) :
    unwrap opening closing letters = letters := by
  cases letters with
  | nil => rfl
  | cons first rest =>
    unfold unwrap
    refine if_neg ?_
    rintro ⟨hfirst, hlast, hdepth⟩
    -- the last letter is the closing one, so the rest splits into an inside and that letter
    obtain ⟨inside, rfl⟩ := List.getLast?_eq_some_iff.mp hlast
    rw [List.dropLast_concat] at hdepth
    exact h inside (by rw [hfirst]) hdepth

end Unwrap

end BusContract
