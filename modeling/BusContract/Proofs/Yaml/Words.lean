import BusContract.Proofs.Outcomes
import BusContract.Yaml.Layout

/-!
# Faults of words

Words are read one after the other, and each reading can fail in three ways only: a word breaks the rules,
an escape in it names a number that is too large for a character, or the version in a directive has more
digits than a number is read from. This is said of one reading after the other, in the order in which they
use each other.

* `Yaml.Layout.lexes_settle`: no other fault comes out of the words of a text.
-/

namespace BusContract.Yaml

/-- A fault of the words of a text: they break the rules, name a character that there is none of, or a
version that is too long. -/
inductive Fault.OfWords : Fault → Prop where
  | malformed : OfWords .malformed
  | noCharacter (code : Nat) (h : 0x110000 ≤ code) : OfWords (.noCharacter code)
  | tooManyDigits (count : Nat) (h : mostDigits < count) : OfWords (.tooManyDigits count)

attribute [simp] Fault.OfWords.malformed

/-- Does the reading of words fail for nothing but them? -/
abbrev Lexes {α : Type} (x : Except Fault α) : Prop := FailsOnly Fault.OfWords x

/-! ## Names, tags and directives -/

/-- Something behind the end of a line breaks the rules. -/
@[simp] theorem Cursor.lexes_endLine (c : Cursor) : Lexes c.endLine := by
  simp [endLine]

/-- A name has characters of its own. -/
@[simp] theorem lexes_anchorName (c : Cursor) : Lexes (anchorName c) := by
  simp [anchorName]

/-- Escaped bytes of a tag. -/
@[simp] theorem lexes_percentBytes (fuel : Nat) (c : Cursor) (bytes : List UInt8) :
    Lexes (percentBytes fuel c bytes) := by
  fun_induction percentBytes fuel c bytes <;> simp_all

/-- The characters of a tag, some of which are escaped. -/
@[simp] theorem lexes_tagChars (fuel : Nat) (c : Cursor) (chars : List Char) :
    Lexes (tagChars fuel c chars) := by
  fun_induction tagChars fuel c chars with
  | case4 fuel c chars _ _ fault h =>
    have := lexes_percentBytes c.rest.length c []
    simp_all
  | _ => simp_all

@[simp] theorem lexes_tagText (c : Cursor) : Lexes (tagText c) := by
  simp [tagText]

@[simp] theorem lexes_tagHandle (c : Cursor) : Lexes (tagHandle c) := by
  simp [tagHandle]

@[simp] theorem lexes_writtenTag (c : Cursor) : Lexes (writtenTag c) := by
  simp [writtenTag]

/-- A version is the only number that is read here, and it may be too long. -/
@[simp] theorem lexes_directiveNumber (c : Cursor) : Lexes (directiveNumber c) := by
  simp [directiveNumber]
  exact fun _ => .tooManyDigits _

/-- Both parts of a version. -/
@[simp] theorem lexes_versionDirective (c : Cursor) : Lexes (versionDirective c) := by
  simp [versionDirective]

@[simp] theorem lexes_handleDirective (c : Cursor) : Lexes (handleDirective c) := by
  simp [handleDirective]

@[simp] theorem lexes_directive (c : Cursor) : Lexes (directive c) := by
  simp [directive]

/-! ## Scalars -/

/-- Lines that are folded. -/
@[simp] theorem lexes_quotedBreaks (fuel : Nat) (c : Cursor) (breaks : List Char) :
    Lexes (quotedBreaks fuel c breaks) := by
  fun_induction quotedBreaks fuel c breaks <;> simp_all

/-- An escape gives a character or half of a pair, or its number is too large. -/
@[simp] theorem lexes_longEscape (c : Cursor) (width : Nat) : Lexes (longEscape c width) := by
  unfold longEscape
  split
  next => simp
  next code _ =>
    split
    next => exact failsOnly_error_iff.mpr .malformed
    split
    next hlarge => exact failsOnly_error_iff.mpr (.noCharacter code hlarge)
    -- What is left gives a position, half of a pair or a character.
    split
    next => exact failsOnly_ok _
    next => exact failsOnly_ok _

/-- Where lines are folded or an escape is read the fault is the one of that. -/
@[simp] theorem lexes_quotedFrom (isDouble : Bool) (fuel : Nat) (c : Cursor) (text : List TextPoint) :
    Lexes (quotedFrom isDouble fuel c text) := by
  fun_induction quotedFrom isDouble fuel c text with
  | case5 => exact failsOnly_error_iff.mpr (lexes_quotedBreaks _ _ _ _ ‹_›)
  | case11 => exact failsOnly_error_iff.mpr (lexes_longEscape _ _ _ ‹_›)
  | case13 => exact failsOnly_error_iff.mpr (lexes_quotedBreaks _ _ _ _ ‹_›)
  | _ => simp_all

@[simp] theorem lexes_quotedScalar (c : Cursor) : Lexes (quotedScalar c) := by
  unfold quotedScalar
  split
  next fault h => exact failsOnly_error_iff.mpr (lexes_quotedFrom _ _ _ _ fault h)
  next => simp

@[simp] theorem lexes_blockIncrement (c : Cursor) : Lexes (blockIncrement c) := by
  simp [blockIncrement]

/-- What stands behind the mark of a block. -/
@[simp] theorem lexes_blockHead (c : Cursor) : Lexes (blockHead c) := by
  unfold blockHead
  split <;> simp

/-- The lines of a block, which have no faults of their own. -/
@[simp] theorem lexes_blockScalar (isFolded : Bool) (indent : Int) (c : Cursor) :
    Lexes (blockScalar isFolded indent c) := by
  simp [blockScalar]

/-! ## Words -/

namespace Layout

@[simp] theorem lexes_dropNote (l : Layout) : Lexes l.dropNote := by
  unfold dropNote
  split <;> simp

@[simp] theorem lexes_dropStale (l : Layout) : Lexes l.dropStale := by
  simp [dropStale]

/-- A key that has to be one but is on another line breaks the rules. -/
@[simp] theorem lexes_note (l : Layout) : Lexes l.note := by
  simp [note]

@[simp] theorem lexes_openFlow (t : Token) (l : Layout) : Lexes (openFlow t l) := by
  simp [openFlow]

@[simp] theorem lexes_closeFlow (t : Token) (l : Layout) : Lexes (closeFlow t l) := by
  simp [closeFlow]

@[simp] theorem lexes_flowEntry (l : Layout) : Lexes (flowEntry l) := by
  simp [flowEntry]

@[simp] theorem lexes_beginBlock (l : Layout) (t : Token) : Lexes (l.beginBlock t) := by
  unfold beginBlock
  cases l.indentTo l.cursor.column <;> simp

@[simp] theorem lexes_blockEntry (l : Layout) : Lexes (blockEntry l) := by
  simp [blockEntry]

@[simp] theorem lexes_explicitKey (l : Layout) : Lexes (explicitKey l) := by
  simp [explicitKey]

@[simp] theorem lexes_value (l : Layout) : Lexes (value l) := by
  unfold value
  split <;> simp

@[simp] theorem lexes_keyed {read : Cursor → Except Fault (Token × Cursor)} (h : ∀ c, Lexes (read c))
    (l : Layout) : Lexes (keyed read l) := by
  simp [keyed, h]

@[simp] theorem lexes_plain (l : Layout) : Lexes (plain l) := by
  simp [plain]

@[simp] theorem lexes_block (isFolded : Bool) (l : Layout) : Lexes (block isFolded l) := by
  simp [block]

@[simp] theorem lexes_atMargin {read : Cursor → Except Fault (Token × Cursor)} (h : ∀ c, Lexes (read c))
    (l : Layout) : Lexes (atMargin read l) := by
  simp [atMargin, h]

/-- Each kind of word by the characters it begins with. -/
@[simp] theorem lexes_dispatch (l l' : Layout) : Lexes (dispatch l l') := by
  simp [dispatch, ite_apply]

@[simp] theorem lexes_finish (l : Layout) : Lexes l.finish := by
  simp [finish]

/-- One word is read. -/
@[simp] theorem lexes_step (l : Layout) : Lexes l.step := by
  simp [step]

/-- Reading on until the next token is known fails for nothing but words. Induction on the fuel. -/
@[simp] theorem lexes_settle (fuel : Nat) (l : Layout) : Lexes (settle fuel l) := by
  induction fuel generalizing l with
  | zero => simp [settle]
  | succ fuel ih => simp [settle, ih]

end Layout

end BusContract.Yaml
