import BusContract.CommandLine.Run

/-!
# The command that compares

A word that does not begin with a hyphen is an operand. So a command line of the word for the command
and two such words is understood as it is meant, and carried out it ends as the comparison does
(`Host.run_compare`). The command line is read twice, once for the command above the others and once
for the one that compares.
-/

namespace BusContract

variable {c : Command} {l r : String}

/-- Words without a hyphen in front are operands. Induction on the command line. -/
theorem words_of_operands {texts : List String} (h : ∀ t ∈ texts, t.startsWith "-" = false) :
    c.words texts = .ok (texts.map (⟨·, .operand⟩)) := by
  induction texts with
  | nil => rfl
  | cons t texts ih =>
    obtain ⟨ht, hrest⟩ := List.forall_mem_cons.mp h
    have hdivider : t ≠ "--" := by
      rintro rfl
      simp at ht
    have hkind : c.kindOf t = .ok .operand := by
      rw [Command.kindOf, ht]
      rfl
    rw [Command.words, if_neg hdivider, hkind, ih hrest]
    rfl

/-- An operand without a hyphen in front keeps its text. -/
theorem operandText_operand (h : l.startsWith "-" = false) : operandText [⟨l, .operand⟩] = l := by
  have hdivider : (l == "--") = false := by
    refine beq_false_of_ne ?_
    rintro rfl
    simp at h
  simp [operandText, hdivider]

/-- The command is read with its two operands. -/
theorem read_topCommand_compare (hl : l.startsWith "-" = false) (hr : r.startsWith "-" = false) :
    topCommand.read ["compare", l, r] = .ok ⟨[], [], some ("compare", [l, r]), [], []⟩ := by
  have hcommand : "compare".startsWith "-" = false := by simp
  have htexts : ∀ t ∈ ["compare", l, r], t.startsWith "-" = false := by
    simp only [List.forall_mem_cons]
    exact ⟨hcommand, hl, hr, nofun⟩
  rw [Command.read, words_of_operands htexts]
  rfl

/-- The operands are what is compared. -/
theorem read_compareCommand (hl : l.startsWith "-" = false) (hr : r.startsWith "-" = false) :
    compareCommand.read [l, r] = .ok ⟨[], [("rhs", r), ("lhs", l)], none, [], []⟩ := by
  have htexts : ∀ t ∈ [l, r], t.startsWith "-" = false := by
    simp only [List.forall_mem_cons]
    exact ⟨hl, hr, nofun⟩
  let nothing : Said := ⟨[], [], none, [], compareCommand.operands⟩
  let words : List Word := [⟨l, .operand⟩, ⟨r, .operand⟩]
  -- both operands are taken at once
  have htaken : takeOperands compareCommand compareCommand.operands nothing words
      = .ok (⟨[], [("rhs", r), ("lhs", l)], none, [], []⟩, []) := by
    show Except.ok (Said.mk [] [("rhs", operandText [⟨r, .operand⟩]),
      ("lhs", operandText [⟨l, .operand⟩])] none [] [], []) = _
    rw [operandText_operand hl, operandText_operand hr]
  rw [Command.read, words_of_operands htexts]
  show (takeWords compareCommand 3 nothing words >>= _) = _
  rw [takeWords]
  simp only [nothing, words] at htaken ⊢
  simp only [htaken]
  rfl

/-- So nothing else is asked for. -/
theorem ofArguments_compare (hl : l.startsWith "-" = false) (hr : r.startsWith "-" = false) :
    Invocation.ofArguments ["compare", l, r] = .ok ⟨false, .compare l r⟩ := by
  have hcommand : commandOf "compare" = compareCommand := rfl
  rw [Invocation.ofArguments, read_topCommand_compare hl hr]
  show (((commandOf "compare").read [l, r]).map _ >>= _) = _
  rw [hcommand, read_compareCommand hl hr]
  rfl

/-- The command line ends as the comparison of its two words does. -/
theorem Host.run_compare (host : Host) (hl : l.startsWith "-" = false)
    (hr : r.startsWith "-" = false) :
    host.run ["compare", l, r] = .ok (compareEnding l r) := by
  rw [Host.run, ofArguments_compare hl hr]
  rfl

/-- The command succeeds exactly if the two are equivalent. -/
theorem compareEnding_code_eq_zero_iff (l r : String) :
    (compareEnding l r).code = 0 ↔ (Signature.text l).equivalent (.text r) = true := by
  unfold compareEnding
  cases (Signature.text l).equivalent (.text r) <;> simp

end BusContract
