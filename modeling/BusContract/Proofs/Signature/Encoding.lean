import BusContract.Proofs.Signature.Unwrap

/-!
# Signatures as characters

Signatures are compared as UTF-8 bytes. A parenthesis is one byte, and no byte of any other character
looks like one, so the bytes lose their outer pair exactly when the characters do
(`unwrap_encode`). Since encoding is injective, two texts are equivalent exactly when their characters
agree after the outer pair is off (`equivalent_text_iff`).
-/

namespace BusContract

namespace Utf8

/-! ## Encoding -/

/-- Different texts have different bytes. -/
theorem encode_injective {a b : List Char} (h : encode a = encode b) : a = b := by
  have hbytes : a.utf8Encode = b.utf8Encode := congrArg List.toByteArray h
  have hread : some a.toArray = some b.toArray := by
    rw [← List.utf8Decode?_utf8Encode, ← List.utf8Decode?_utf8Encode, hbytes]
  exact List.toArray_inj (Option.some.inj hread)

theorem encode_cons (c : Char) (text : List Char) :
    encode (c :: text) = String.utf8EncodeChar c ++ encode text := by
  unfold encode
  rw [List.flatMap_cons]

/-- Two texts are encoded one after the other. -/
theorem encode_append (a b : List Char) : encode (a ++ b) = encode a ++ encode b := by
  unfold encode
  rw [List.flatMap_append]

theorem toNat_ofNat_small {n : Nat} (h : n < 0x80) : (UInt8.ofNat n).toNat = n := by
  refine UInt8.toNat_ofNat_of_lt' ?_
  unfold UInt8.size
  omega

/-- A byte below 0x80 is a character of its own: it is no part of a longer one. -/
theorem utf8EncodeChar_of_mem {c : Char} {b : UInt8} (hmem : b ∈ String.utf8EncodeChar c)
    (hb : b < 0x80) : String.utf8EncodeChar c = [b] ∧ c.toNat = b.toNat := by
  have hlt : b.toNat < 128 := UInt8.lt_iff_toNat_lt.mp hb
  unfold String.utf8EncodeChar at hmem ⊢
  dsimp only at hmem ⊢
  split at hmem
  · next hsmall =>
    obtain rfl := List.mem_singleton.mp hmem
    refine ⟨if_pos hsmall, ?_⟩
    rw [toNat_ofNat_small (by omega)]
    rfl
  · -- the bytes of a longer character all have their highest bit set
    split at hmem
    · simp only [List.mem_cons, List.not_mem_nil, or_false] at hmem
      rcases hmem with rfl | rfl <;> rw [UInt8.toNat_ofNat'] at hlt <;> omega
    · split at hmem
      · simp only [List.mem_cons, List.not_mem_nil, or_false] at hmem
        rcases hmem with rfl | rfl | rfl <;> rw [UInt8.toNat_ofNat'] at hlt <;> omega
      · simp only [List.mem_cons, List.not_mem_nil, or_false] at hmem
        rcases hmem with rfl | rfl | rfl | rfl <;> rw [UInt8.toNat_ofNat'] at hlt <;> omega

/-- A character that has a given small byte is the one of that code, and has no other byte. -/
theorem eq_of_mem_utf8EncodeChar {c d : Char} (hd : d.toNat < 0x80)
    (hmem : UInt8.ofNat d.toNat ∈ String.utf8EncodeChar c) :
    c = d ∧ String.utf8EncodeChar c = [UInt8.ofNat d.toNat] := by
  have hbyte : (UInt8.ofNat d.toNat).toNat = d.toNat := toNat_ofNat_small hd
  have hlt : UInt8.ofNat d.toNat < 0x80 := by
    rw [UInt8.lt_iff_toNat_lt, hbyte]
    exact hd
  obtain ⟨hsingle, hcode⟩ := utf8EncodeChar_of_mem hmem hlt
  rw [hbyte] at hcode
  refine ⟨?_, hsingle⟩
  rw [← Char.ofNat_toNat c, hcode, Char.ofNat_toNat]

/-- A text whose bytes begin with the byte of a small character begins with that character. -/
theorem exists_cons_of_encode_eq {d : Char} (hd : d.toNat < 0x80) {text : List Char}
    {bytes : List UInt8} (h : encode text = UInt8.ofNat d.toNat :: bytes) :
    ∃ rest, text = d :: rest ∧ encode rest = bytes := by
  cases text with
  | nil => exact absurd h (List.cons_ne_nil _ _).symm
  | cons c rest =>
    rw [encode_cons] at h
    obtain ⟨b, bs, hc⟩ := List.exists_cons_of_ne_nil (String.utf8EncodeChar_ne_nil (c := c))
    rw [hc, List.cons_append] at h
    obtain ⟨rfl, hbytes⟩ := List.cons.inj h
    have hmem : UInt8.ofNat d.toNat ∈ String.utf8EncodeChar c := by
      rw [hc]
      exact List.mem_cons_self
    obtain ⟨hcd, hsingle⟩ := eq_of_mem_utf8EncodeChar hd hmem
    obtain rfl : bs = [] := (List.cons.inj (hc.symm.trans hsingle)).2
    exact ⟨rest, by rw [hcd], hbytes⟩

/-- A text whose bytes end in the byte of a small character ends in that character. -/
theorem exists_concat_of_encode_eq {d : Char} (hd : d.toNat < 0x80) {text : List Char}
    {bytes : List UInt8} (h : encode text = bytes ++ [UInt8.ofNat d.toNat]) :
    ∃ front, text = front ++ [d] ∧ encode front = bytes := by
  rcases List.eq_nil_or_concat text with rfl | ⟨front, c, rfl⟩
  · exact absurd h (by simp [encode])
  · rw [List.concat_eq_append] at h ⊢
    rw [encode_append, encode_cons, show encode [] = [] from rfl, List.append_nil] at h
    obtain ⟨bs, b, hc⟩ :=
      (List.eq_nil_or_concat (String.utf8EncodeChar c)).resolve_left String.utf8EncodeChar_ne_nil
    rw [List.concat_eq_append] at hc
    -- a byte below 0x80 is a letter of its own, never the last byte of a longer one
    have hmem : b ∈ String.utf8EncodeChar c := by simp [hc]
    rw [hc, ← List.append_assoc] at h
    obtain ⟨hbytes, hb⟩ := List.append_inj' h rfl
    obtain rfl : b = UInt8.ofNat d.toNat := (List.cons.inj hb).1
    obtain ⟨hcd, hsingle⟩ := eq_of_mem_utf8EncodeChar hd hmem
    obtain rfl : bs = [] := by
      rw [hc] at hsingle
      exact (List.append_inj' (hsingle.trans (List.nil_append _).symm) rfl).1
    exact ⟨front, by rw [hcd], by simpa using hbytes⟩

end Utf8

namespace Signature

/-! ## The depth counter

The counter moves at the two bytes of the parentheses only. -/

/-- The bytes of one character move the counter as the character does. -/
theorem foldl_utf8EncodeChar (depth : Nat) (c : Char) :
    (String.utf8EncodeChar c).foldl (depthStep openingByte closingByte) depth
      = depthStep '(' ')' depth c := by
  by_cases hopen : c = '('
  · subst hopen; rfl
  by_cases hclose : c = ')'
  · subst hclose; rfl
  -- any other character has neither of the two bytes
  have hstill : ∀ b ∈ String.utf8EncodeChar c, ∀ d, depthStep openingByte closingByte d b = d := by
    intro b hb d
    have h1 : b ≠ openingByte := by
      rintro rfl
      exact hopen (Utf8.eq_of_mem_utf8EncodeChar (by decide) hb).1
    have h2 : b ≠ closingByte := by
      rintro rfl
      exact hclose (Utf8.eq_of_mem_utf8EncodeChar (by decide) hb).1
    exact depthStep_of_ne h1 h2 d
  rw [depthStep_of_ne hopen hclose]
  generalize String.utf8EncodeChar c = bytes at hstill
  induction bytes with
  | nil => rfl
  | cons b bytes ih =>
    rw [List.foldl_cons, hstill b List.mem_cons_self]
    exact ih fun b' hb' => hstill b' (List.mem_cons_of_mem b hb')

/-- The bytes of a text move the counter as the text does. Induction on the text. -/
theorem foldl_encode (text : List Char) (depth : Nat) :
    (Utf8.encode text).foldl (depthStep openingByte closingByte) depth
      = text.foldl (depthStep '(' ')') depth := by
  induction text generalizing depth with
  | nil => rfl
  | cons c text ih =>
    rw [Utf8.encode_cons, List.foldl_append, foldl_utf8EncodeChar, ih, List.foldl_cons]

/-- Bytes are as deep as the characters that they encode. -/
theorem openDepth_encode (text : List Char) :
    openDepth openingByte closingByte (Utf8.encode text) = openDepth '(' ')' text :=
  foldl_encode text 0

/-! ## The outer pair -/

/-- A pair around characters is a pair around their bytes. -/
theorem encode_wrapped (inside : List Char) :
    Utf8.encode ('(' :: (inside ++ [')']))
      = openingByte :: (Utf8.encode inside ++ [closingByte]) := by
  rw [Utf8.encode_cons, Utf8.encode_append]
  rfl

/-- Only a text in parentheses has bytes in parentheses. -/
theorem exists_wrapped_of_encode_eq {text : List Char} {bytes : List UInt8}
    (h : Utf8.encode text = openingByte :: (bytes ++ [closingByte])) :
    ∃ inside, text = '(' :: (inside ++ [')']) ∧ Utf8.encode inside = bytes := by
  obtain ⟨rest, rfl, hrest⟩ := Utf8.exists_cons_of_encode_eq (d := '(') (by decide) h
  obtain ⟨inside, rfl, hinside⟩ := Utf8.exists_concat_of_encode_eq (d := ')') (by decide) hrest
  exact ⟨inside, rfl, hinside⟩

/-- The bytes of a text lose their outer pair exactly when its characters do, and what is left are
the bytes of what is left of the characters. -/
theorem unwrap_encode (text : List Char) :
    unwrap openingByte closingByte (Utf8.encode text) = Utf8.encode (unwrap '(' ')' text) := by
  by_cases h : ∃ inside, text = '(' :: (inside ++ [')']) ∧ openDepth '(' ')' inside = 0
  · obtain ⟨inside, rfl, hdepth⟩ := h
    rw [encode_wrapped, unwrap_wrapped (by rw [openDepth_encode, hdepth]), unwrap_wrapped hdepth]
  · have hchars : unwrap '(' ')' text = text :=
      unwrap_of_not_wrapped fun inside htext hdepth => h ⟨inside, htext, hdepth⟩
    rw [hchars]
    refine unwrap_of_not_wrapped fun bytes hbytes hdepth => ?_
    obtain ⟨inside, htext, rfl⟩ := exists_wrapped_of_encode_eq hbytes
    exact h ⟨inside, htext, by rw [← openDepth_encode, hdepth]⟩

/-- What is compared of a text. -/
theorem core_text (s : String) : (text s).core = Utf8.encode (unwrap '(' ')' s.toList) :=
  unwrap_encode s.toList

/-- Texts are compared character by character. -/
theorem equivalent_text_iff (l r : String) :
    (text l).equivalent (text r) = true ↔ unwrap '(' ')' l.toList = unwrap '(' ')' r.toList := by
  unfold equivalent
  rw [beq_iff_eq, core_text, core_text]
  exact ⟨Utf8.encode_injective, congrArg Utf8.encode⟩

end Signature

end BusContract
