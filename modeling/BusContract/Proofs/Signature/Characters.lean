import BusContract.Proofs.Signature.Encoding
import BusContract.Proofs.Text.Utf8

/-!
# Comparing characters in place of bytes

It makes no difference that signatures are compared as bytes. A text can be handed over as it is or in
its bytes, and whichever way both sides are handed over, they are compared as if the outer pair had been
taken off their characters. The bytes that are left without the pair are those of the characters that are
left, so no character is ever cut apart.
-/

namespace BusContract

namespace Signature

/-- Does the signature hold the text, as it is or in its bytes? -/
inductive Holds (content : String) : Signature → Prop where
  | text : Holds content (text content)
  | bytes : Holds content (bytes (Utf8.encode content.toList))

variable {content content' : String} {s s' : Signature}

theorem Holds.toBytes_eq (h : Holds content s) : s.toBytes = Utf8.encode content.toList := by
  cases h with
  | text => rfl
  | bytes => rfl

/-- What is compared of a text, however it is handed over. -/
theorem Holds.core_eq (h : Holds content s) :
    s.core = Utf8.encode (unwrap '(' ')' content.toList) := by
  rw [core, h.toBytes_eq, unwrap_encode]

/-- Texts are compared by their characters, however they are handed over. -/
theorem Holds.equivalent_eq (h : Holds content s) (h' : Holds content' s') :
    s.equivalent s' = (unwrap '(' ')' content.toList == unwrap '(' ')' content'.toList) := by
  rw [equivalent, h.core_eq, h'.core_eq, Bool.eq_iff_iff, beq_iff_eq, beq_iff_eq]
  exact ⟨Utf8.encode_injective, congrArg Utf8.encode⟩

/-- Bytes that can be read hold the text that is read. -/
theorem holds_of_decode {b : List UInt8} {chars : List Char} (h : Utf8.decode b = .ok chars) :
    Holds (String.ofList chars) (.bytes b) := by
  have hheld : Holds (String.ofList chars) (.bytes (Utf8.encode (String.ofList chars).toList)) := .bytes
  rwa [String.toList_ofList, ← Utf8.decode_eq_ok_iff.mp h] at hheld

/-- **The comparison of texts is that of their characters**, for all four ways to hand over two of them.
And bytes that can be read can still be read without their outer pair, and give the characters without
theirs. -/
theorem equivalent_as_characters (l r : String) :
    (text l).equivalent (text r) = (unwrap '(' ')' l.toList == unwrap '(' ')' r.toList)
      ∧ (∀ s s', Holds l s → Holds r s' → s.equivalent s' = (text l).equivalent (text r))
      ∧ (∀ s, Holds l s → Utf8.decode s.core = .ok (unwrap '(' ')' l.toList))
      ∧ (∀ b chars, Utf8.decode b = .ok chars →
          Utf8.decode (bytes b).core = .ok (unwrap '(' ')' chars)) := by
  have htexts : (text l).equivalent (text r) = (unwrap '(' ')' l.toList == unwrap '(' ')' r.toList) :=
    Holds.text.equivalent_eq .text
  refine ⟨htexts, ?mixed, ?text, ?bytes⟩
  case mixed =>
    intro s s' hs hs'
    rw [htexts, hs.equivalent_eq hs']
  case text =>
    intro s hs
    exact Utf8.decode_eq_ok_iff.mpr hs.core_eq
  case bytes =>
    intro b chars hb
    have hcore := (holds_of_decode hb).core_eq
    rw [String.toList_ofList] at hcore
    exact Utf8.decode_eq_ok_iff.mpr hcore

/-- A pair around letters of two, three and four bytes, given in bytes, passes for the letters as a
text. -/
theorem equivalent_wide_letters :
    Holds "(é€😀)" (.bytes (Utf8.encode "(é€😀)".toList)) ∧ Holds "é€😀" (.text "é€😀")
      ∧ (bytes (Utf8.encode "(é€😀)".toList)).equivalent (text "é€😀") = true
      ∧ Utf8.decode (bytes (Utf8.encode "(é€😀)".toList)).core = .ok ['é', '€', '😀'] := by
  obtain ⟨hcharacters, hmixed, hread, -⟩ := equivalent_as_characters "(é€😀)" "é€😀"
  have hstripped : unwrap '(' ')' "(é€😀)".toList = ['é', '€', '😀'] := by decide
  refine ⟨.bytes, .text, ?_, ?_⟩
  · rw [hmixed _ _ .bytes .text, hcharacters, hstripped]
    decide
  · rw [hread _ .bytes, hstripped]

end Signature

end BusContract
