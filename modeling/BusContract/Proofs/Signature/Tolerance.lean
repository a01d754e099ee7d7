import BusContract.Proofs.CommandLine.Comparison
import BusContract.Proofs.Signature.Layout

/-!
# One pair of parentheses more

Marshalling adds or drops one pair of outer parentheses, and the comparison is there to put up with
that. It does so by taking a pair off each side, and this comes to the same as long as only the outer
one of the two sides has a pair to lose. Where the inner one is a single struct already, it loses its
own pair as well, and two signatures that are one pair apart are told apart.

* **`tolerated_iff`**: which well-formed signatures pass for equivalent, and which of those that are
  one pair apart do not.
* `nestedPair_told_apart`: two that do not.
-/

namespace BusContract

open BusContract.CompleteType (signature lettersOfAll letters layout IsSingleStruct Wraps)

/-! ## Texts and rows -/

namespace CompleteType

/-- A signature tells what types it is of. -/
theorem signature_inj {xs ys : List CompleteType} : signature xs = signature ys ↔ xs = ys := by
  constructor
  · intro h
    rw [signature, signature, String.ofList_inj] at h
    exact lettersOfAll_injective h
  · rintro rfl
    rfl

/-- A signature is another one in parentheses exactly if its row is the other row in one struct. -/
theorem signature_eq_wrapped_iff {xs ys : List CompleteType} :
    signature xs = "(" ++ signature ys ++ ")" ↔ Wraps xs ys := by
  constructor
  · intro h
    have hletters : lettersOfAll xs = '(' :: (lettersOfAll ys ++ [')']) := by
      have htexts := congrArg String.toList h
      simpa [signature] using htexts
    -- what is in the parentheses is balanced, so they are an outer pair
    have hlayout : lettersOfAll (layout xs) = lettersOfAll ys := by
      rw [← unwrap_lettersOfAll, hletters, unwrap_wrapped (openDepth_lettersOfAll ys)]
    by_cases hxs : IsSingleStruct xs
    · obtain ⟨first, rest, rfl⟩ := hxs
      exact ⟨first, rest, rfl, (lettersOfAll_injective hlayout).symm⟩
    · rw [layout_of_not_single hxs, hletters] at hlayout
      have hlength := congrArg List.length hlayout
      simp at hlength
      omega
  · rintro ⟨first, rest, rfl, rfl⟩
    exact signature_struct first rest

/-- No complete type begins with a hyphen. -/
theorem letters_append_ne_hyphen (t : CompleteType) (tail more : List Char) :
    letters t ++ tail ≠ '-' :: more := by
  intro h
  cases t with
  | basic b =>
    have hletter : b.letter = '-' := (List.cons.inj h).1
    cases b <;> exact absurd hletter (by decide)
  | variant => exact absurd (List.cons.inj h).1 (by decide)
  | array element => exact absurd (List.cons.inj h).1 (by decide)
  | mapping key value => exact absurd (List.cons.inj h).1 (by decide)
  | struct first rest => exact absurd (List.cons.inj h).1 (by decide)

/-- No signature looks like an option. -/
theorem signature_startsWith_hyphen (ts : List CompleteType) :
    (signature ts).startsWith "-" = false := by
  rw [Bool.eq_false_iff, Ne, String.startsWith_string_iff]
  rintro ⟨more, h⟩
  have hletters : lettersOfAll ts = '-' :: more := by simpa [signature] using h.symm
  cases ts with
  | nil => cases hletters
  | cons t rest => exact letters_append_ne_hyphen t (lettersOfAll rest) more hletters

end CompleteType

/-! ## The three ways to compare -/

namespace Signature

/-- The three ways to compare two signatures, and when they find them equivalent. -/
structure Compared (l r : String) (passes : Prop) : Prop where
  required : requireEquivalent (text l) (text r) = .ok () ↔ passes
  forbidden : requireDistinct (text l) (text r) = .error ⟨false, text l, text r⟩ ↔ passes
  command : ∀ host : Host, ∃ ending,
    host.run ["compare", l, r] = .ok ending ∧ (ending.code = 0 ↔ passes)

/-- All three ways of asking come to the same. -/
theorem compared_equivalent {l r : String} (hl : l.startsWith "-" = false)
    (hr : r.startsWith "-" = false) :
    Compared l r ((text l).equivalent (text r) = true) := by
  refine ⟨?_, ?_, ?_⟩
  · unfold requireEquivalent
    cases (text l).equivalent (text r) <;> simp
  · unfold requireDistinct
    cases (text l).equivalent (text r) <;> simp
  · intro host
    exact ⟨_, host.run_compare hl hr, compareEnding_code_eq_zero_iff l r⟩

/-- Is one of the texts the other one in parentheses? -/
def OnePairApart (l r : String) : Prop := l = "(" ++ r ++ ")" ∨ r = "(" ++ l ++ ")"

/-- Rows that wrap each other are signatures one pair apart. -/
theorem onePairApart_signature_iff {xs ys : List CompleteType} :
    OnePairApart (signature xs) (signature ys) ↔ Wraps xs ys ∨ Wraps ys xs := by
  unfold OnePairApart
  rw [CompleteType.signature_eq_wrapped_iff, CompleteType.signature_eq_wrapped_iff]

/-- One pair makes no difference, unless it is taken off both sides. -/
theorem equivalent_signature_iff_apart (xs ys : List CompleteType) :
    (text (signature xs)).equivalent (text (signature ys)) = true ↔
      signature xs = signature ys
        ∨ (OnePairApart (signature xs) (signature ys)
          ∧ ¬ (IsSingleStruct xs ∧ IsSingleStruct ys)) := by
  rw [equivalent_signature_iff, CompleteType.layout_eq_iff, CompleteType.signature_inj,
    onePairApart_signature_iff]
  -- the outer one of two rows is always a single struct
  have houter : ∀ {outer inner}, Wraps outer inner → IsSingleStruct outer :=
    fun ⟨first, rest, h, _⟩ => ⟨first, rest, h⟩
  constructor
  · rintro (h | ⟨hwraps, hinner⟩ | ⟨hwraps, hinner⟩)
    · exact .inl h
    · exact .inr ⟨.inl hwraps, fun hboth => hinner hboth.2⟩
    · exact .inr ⟨.inr hwraps, fun hboth => hinner hboth.1⟩
  · rintro (h | ⟨hwraps | hwraps, hnot⟩)
    · exact .inl h
    · exact .inr (.inl ⟨hwraps, fun hinner => hnot ⟨houter hwraps, hinner⟩⟩)
    · exact .inr (.inr ⟨hwraps, fun hinner => hnot ⟨hinner, houter hwraps⟩⟩)

/-- **What the tolerance comes to.** Well-formed signatures pass for equivalent exactly if they are
equal, or one pair of parentheses apart without both being single structs. Where both are, the inner
one has a pair of its own to lose, and they are told apart. -/
theorem tolerated_iff (xs ys : List CompleteType) :
    Compared (signature xs) (signature ys)
      (signature xs = signature ys
        ∨ (OnePairApart (signature xs) (signature ys) ∧ ¬ (IsSingleStruct xs ∧ IsSingleStruct ys)))
      := by
  have hcompared := compared_equivalent (CompleteType.signature_startsWith_hyphen xs)
    (CompleteType.signature_startsWith_hyphen ys)
  rwa [equivalent_signature_iff_apart] at hcompared

/-- A pair, and the pair in one struct more. All three ways to compare tell them apart, although
they are well-formed and one pair of parentheses apart. -/
theorem nestedPair_told_apart :
    IsSignature "(ii)" ∧ IsSignature "((ii))" ∧ OnePairApart "(ii)" "((ii))"
      ∧ requireEquivalent (text "(ii)") (text "((ii))")
          = .error ⟨true, text "(ii)", text "((ii))"⟩
      ∧ requireDistinct (text "(ii)") (text "((ii))") = .ok ()
      ∧ (default : Host).run ["compare", "(ii)", "((ii))"]
          = .ok ⟨1, "", "Signatures are not equal (Lhs: (ii), Rhs: ((ii)))\n"⟩ := by
  let pair := CompleteType.struct (.basic .int32) [.basic .int32]
  refine ⟨⟨[pair], rfl⟩, ⟨[.struct pair []], rfl⟩, .inr rfl, rfl, rfl, ?_⟩
  rw [Host.run_compare _ (by simp) (by simp)]
  rfl

end Signature

end BusContract
