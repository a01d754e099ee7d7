import BusContract.Text.Utf8
import Mathlib.Tactic.SplitIfs

/-!
# Strict reading of UTF-8

Bytes are read as a text exactly if they are the bytes of that text (`Utf8.decode_eq_ok_iff`): what
encoding gives is read back, and nothing else is read at all.

Between the two stands the table of characters by their bytes (`Spells`), with one row for each length. A
reader takes a row off the front of the bytes if there is one (`next_of_spells`, `spells_of_next`), and
each character has the row that encoding writes (`spells_encodeChar`, `encodeChar_of_spells`).
-/

namespace BusContract.Utf8

/-! ## Single bytes -/

theorem isContinuation_iff {b : UInt8} :
    isContinuation b = true ↔ 0x80 ≤ b.toNat ∧ b.toNat < 0xc0 := by
  rw [isContinuation, Bool.and_eq_true, decide_eq_true_iff, decide_eq_true_iff, UInt8.le_iff_toNat_le,
    UInt8.le_iff_toNat_le]
  show 0x80 ≤ b.toNat ∧ b.toNat ≤ 0xbf ↔ _
  omega

/-- The second byte of three or four, without overlong forms, surrogates and what is beyond. -/
theorem secondAllowed_iff {lead b : UInt8} :
    secondAllowed lead b = true ↔
      (0x80 ≤ b.toNat ∧ b.toNat < 0xc0) ∧ ¬ (lead.toNat = 0xe0 ∧ b.toNat < 0xa0)
        ∧ ¬ (lead.toNat = 0xed ∧ 0xa0 ≤ b.toNat) ∧ ¬ (lead.toNat = 0xf0 ∧ b.toNat < 0x90)
        ∧ ¬ (lead.toNat = 0xf4 ∧ 0x90 ≤ b.toNat) := by
  have hlead (n : UInt8) : lead = n ↔ lead.toNat = n.toNat := UInt8.toNat_inj.symm
  simp only [secondAllowed, Bool.and_eq_true, isContinuation_iff, Bool.not_eq_true', Bool.and_eq_false_iff,
    beq_eq_false_iff_ne, decide_eq_false_iff_not, ge_iff_le, UInt8.le_iff_toNat_le, UInt8.lt_iff_toNat_lt,
    Ne, hlead]
  show (((_ ∧ (¬ lead.toNat = 0xe0 ∨ ¬ b.toNat < 0xa0)) ∧ (¬ lead.toNat = 0xed ∨ ¬ 0xa0 ≤ b.toNat))
    ∧ (¬ lead.toNat = 0xf0 ∨ ¬ b.toNat < 0x90)) ∧ (¬ lead.toNat = 0xf4 ∨ ¬ 0x90 ≤ b.toNat) ↔ _
  omega

/-! ## The table of characters -/

/-- Do the bytes spell the character of the given code? -/
inductive Spells : List UInt8 → Nat → Prop where
  | one (a : UInt8) (ha : a.toNat < 0x80) : Spells [a] a.toNat
  | two (a b : UInt8) (ha : 0xc2 ≤ a.toNat ∧ a.toNat < 0xe0) (hb : isContinuation b) :
      Spells [a, b] (a.toNat % 0x20 * 0x40 + payload b)
  | three (a b c : UInt8) (ha : 0xe0 ≤ a.toNat ∧ a.toNat < 0xf0) (hb : secondAllowed a b)
      (hc : isContinuation c) :
      Spells [a, b, c] ((a.toNat % 0x10 * 0x40 + payload b) * 0x40 + payload c)
  | four (a b c d : UInt8) (ha : 0xf0 ≤ a.toNat ∧ a.toNat < 0xf5) (hb : secondAllowed a b)
      (hc : isContinuation c) (hd : isContinuation d) :
      Spells [a, b, c, d]
        (((a.toNat % 0x08 * 0x40 + payload b) * 0x40 + payload c) * 0x40 + payload d)

/-- Every code that is spelled is one of a character. -/
theorem Spells.isValidChar {bytes : List UInt8} {code : Nat} (h : Spells bytes code) :
    code.isValidChar := by
  cases h with
  | one a ha => exact .inl (by omega)
  | two a b ha hb =>
    rw [isContinuation_iff] at hb
    refine .inl ?_
    unfold payload
    omega
  -- the allowed second bytes leave out what is overlong and the surrogates
  | three a b c ha hb hc =>
    rw [isContinuation_iff] at hc
    rw [secondAllowed_iff] at hb
    unfold Nat.isValidChar payload
    omega
  | four a b c d ha hb hc hd =>
    rw [isContinuation_iff] at hc hd
    rw [secondAllowed_iff] at hb
    unfold Nat.isValidChar payload
    omega

/-- The bytes that spell a character are those that encoding writes for it. -/
theorem encodeChar_of_spells {bytes : List UInt8} {code : Nat} (h : Spells bytes code) :
    String.utf8EncodeChar (Char.ofNat code) = bytes := by
  have hcode : (Char.ofNat code).val.toNat = code := by
    rw [Char.ofNat, dif_pos h.isValidChar]
    rfl
  have hbyte {n : Nat} {b : UInt8} (hn : n = b.toNat) : UInt8.ofNat n = b := by
    rw [hn, UInt8.ofNat_toNat]
  unfold String.utf8EncodeChar
  dsimp only
  rw [hcode]
  -- the row of the table says in which range the code is, and with it the branch
  cases h with
  | one a ha => rw [if_pos (by omega), UInt8.ofNat_toNat]
  | two a b ha hb =>
    rw [isContinuation_iff] at hb
    unfold payload at hcode ⊢
    rw [if_neg (by omega), if_pos (by omega), hbyte (b := a) (by omega), hbyte (b := b) (by omega)]
  | three a b c ha hb hc =>
    rw [isContinuation_iff] at hc
    rw [secondAllowed_iff] at hb
    unfold payload at hcode ⊢
    rw [if_neg (by omega), if_neg (by omega), if_pos (by omega), hbyte (b := a) (by omega),
      hbyte (b := b) (by omega), hbyte (b := c) (by omega)]
  | four a b c d ha hb hc hd =>
    rw [isContinuation_iff] at hc hd
    rw [secondAllowed_iff] at hb
    unfold payload at hcode ⊢
    rw [if_neg (by omega), if_neg (by omega), if_neg (by omega), hbyte (b := a) (by omega),
      hbyte (b := b) (by omega), hbyte (b := c) (by omega), hbyte (b := d) (by omega)]

/-- Every character is spelled by the bytes that encoding writes for it. -/
theorem spells_encodeChar (c : Char) : Spells (String.utf8EncodeChar c) c.toNat := by
  have hvalid : c.val.toNat < 0xd800 ∨ 0xdfff < c.val.toNat ∧ c.val.toNat < 0x110000 := c.valid
  have hbyte {n : Nat} (hn : n < 0x100) : (UInt8.ofNat n).toNat = n := UInt8.toNat_ofNat_of_lt' hn
  unfold String.utf8EncodeChar
  show Spells _ c.val.toNat
  generalize c.val.toNat = v at hvalid ⊢
  dsimp only
  -- one row of the table for each range; the bytes are named so that `omega` sees numbers only
  split_ifs with h1 h2 h3
  · have ha := hbyte (n := v) (by omega)
    generalize UInt8.ofNat v = a at ha ⊢
    rw [← ha]
    exact .one a (by omega)
  · have ha := hbyte (n := v / 64 % 32 + 192) (by omega)
    have hb := hbyte (n := v % 64 + 128) (by omega)
    generalize UInt8.ofNat (v / 64 % 32 + 192) = a at ha ⊢
    generalize UInt8.ofNat (v % 64 + 128) = b at hb ⊢
    have hrow := Spells.two a b (by omega) (isContinuation_iff.mpr (by omega))
    have hcode : a.toNat % 0x20 * 0x40 + payload b = v := by unfold payload; omega
    rwa [hcode] at hrow
  · have ha := hbyte (n := v / 4096 % 16 + 224) (by omega)
    have hb := hbyte (n := v / 64 % 64 + 128) (by omega)
    have hc := hbyte (n := v % 64 + 128) (by omega)
    generalize UInt8.ofNat (v / 4096 % 16 + 224) = a at ha ⊢
    generalize UInt8.ofNat (v / 64 % 64 + 128) = b at hb ⊢
    generalize UInt8.ofNat (v % 64 + 128) = c at hc ⊢
    have hrow := Spells.three a b c (by omega) (secondAllowed_iff.mpr (by omega))
      (isContinuation_iff.mpr (by omega))
    have hcode : (a.toNat % 0x10 * 0x40 + payload b) * 0x40 + payload c = v := by
      unfold payload; omega
    rwa [hcode] at hrow
  · have ha := hbyte (n := v / 262144 % 8 + 240) (by omega)
    have hb := hbyte (n := v / 4096 % 64 + 128) (by omega)
    have hc := hbyte (n := v / 64 % 64 + 128) (by omega)
    have hd := hbyte (n := v % 64 + 128) (by omega)
    generalize UInt8.ofNat (v / 262144 % 8 + 240) = a at ha ⊢
    generalize UInt8.ofNat (v / 4096 % 64 + 128) = b at hb ⊢
    generalize UInt8.ofNat (v / 64 % 64 + 128) = c at hc ⊢
    generalize UInt8.ofNat (v % 64 + 128) = d at hd ⊢
    have hrow := Spells.four a b c d (by omega) (secondAllowed_iff.mpr (by omega))
      (isContinuation_iff.mpr (by omega)) (isContinuation_iff.mpr (by omega))
    have hcode :
        ((a.toNat % 0x08 * 0x40 + payload b) * 0x40 + payload c) * 0x40 + payload d = v := by
      unfold payload; omega
    rwa [hcode] at hrow

/-! ## The reader -/

/-- A character that stands at the front is read. -/
theorem next_of_spells {lead : UInt8} {more : List UInt8} {code : Nat} (h : Spells (lead :: more) code)
    (rest : List UInt8) : next lead (more ++ rest) = .char (Char.ofNat code) more.length := by
  simp only [next, UInt8.lt_iff_toNat_lt, UInt8.reduceToNat]
  cases h with
  | one a ha => rw [if_pos ha]; rfl
  | two a b ha hb =>
    rw [if_neg (by omega), if_neg (by omega), if_pos (by omega)]
    exact if_pos hb
  | three a b c ha hb hc =>
    rw [if_neg (by omega), if_neg (by omega), if_neg (by omega), if_pos (by omega)]
    exact (if_pos hb).trans (if_pos hc)
  | four a b c d ha hb hc hd =>
    rw [if_neg (by omega), if_neg (by omega), if_neg (by omega), if_neg (by omega), if_pos (by omega)]
    exact (if_pos hb).trans ((if_pos hc).trans (if_pos hd))

/-- A character that is read stands at the front. -/
theorem spells_of_next {lead : UInt8} {rest : List UInt8} {c : Char} {more : Nat}
    (h : next lead rest = .char c more) :
    ∃ code, c = Char.ofNat code ∧ Spells (lead :: rest.take more) code ∧ more ≤ rest.length := by
  simp only [next, UInt8.lt_iff_toNat_lt, UInt8.reduceToNat] at h
  -- by the number of bytes that the lead byte asks for
  split_ifs at h with h1 h2 h3 h4 h5
  · obtain ⟨rfl, rfl⟩ := Piece.char.inj h
    exact ⟨_, rfl, .one lead h1, Nat.zero_le _⟩
  · split at h
    · cases h
    · next b rest =>
      split_ifs at h with hb
      obtain ⟨rfl, rfl⟩ := Piece.char.inj h
      exact ⟨_, rfl, .two lead b (by omega) hb, by simp⟩
  · split at h
    · cases h
    · next b rest =>
      split_ifs at h with hb
      split at h
      · cases h
      · next c rest =>
        split_ifs at h with hc
        obtain ⟨rfl, rfl⟩ := Piece.char.inj h
        exact ⟨_, rfl, .three lead b c (by omega) hb hc, by simp⟩
  · split at h
    · cases h
    · next b rest =>
      split_ifs at h with hb
      split at h
      · cases h
      · next c rest =>
        split_ifs at h with hc
        split at h
        · cases h
        · next d rest =>
          split_ifs at h with hd
          obtain ⟨rfl, rfl⟩ := Piece.char.inj h
          exact ⟨_, rfl, .four lead b c d (by omega) hb hc hd, by simp⟩

/-! ## Whole texts -/

/-- Reading goes through the bytes of a text character by character, whatever was read before. Induction
on the text. -/
theorem decodeFrom_encode (text : List Char) (start : Nat) (read : List Char) :
    decodeFrom start read (encode text) = .ok (read.reverse ++ text) := by
  induction text generalizing start read with
  | nil => rw [encode, List.flatMap_nil, decodeFrom, List.append_nil]
  | cons c text ih =>
    have hrow := spells_encodeChar c
    have hbytes : encode (c :: text) = String.utf8EncodeChar c ++ encode text := List.flatMap_cons
    obtain ⟨lead, more, hc⟩ := List.exists_cons_of_ne_nil (String.utf8EncodeChar_ne_nil (c := c))
    rw [hc] at hrow hbytes
    rw [hbytes, List.cons_append, decodeFrom, next_of_spells hrow, Char.ofNat_toNat]
    dsimp only
    rw [List.drop_left, ih, List.reverse_cons, List.append_assoc, List.singleton_append]

/-- What is read are the bytes of a text. Induction on the bytes, a character at a time. -/
theorem eq_encode_of_decodeFrom {start : Nat} {read text : List Char} {bytes : List UInt8}
    (h : decodeFrom start read bytes = .ok text) :
    ∃ more, text = read.reverse ++ more ∧ bytes = encode more := by
  fun_induction decodeFrom start read bytes with
  | case1 start read =>
    obtain rfl := Except.ok.inj h
    exact ⟨[], (List.append_nil _).symm, rfl⟩
  | case2 start read lead rest c more hnext ih =>
    obtain ⟨others, rfl, hrest⟩ := ih h
    obtain ⟨code, rfl, hrow, -⟩ := spells_of_next hnext
    refine ⟨Char.ofNat code :: others, by simp, ?_⟩
    rw [encode, List.flatMap_cons, encodeChar_of_spells hrow, List.cons_append, ← encode, ← hrest,
      List.take_append_drop]
  | case3 => cases h

/-- **Bytes are read as a text exactly if they are the bytes of that text.** -/
theorem decode_eq_ok_iff {bytes : List UInt8} {text : List Char} :
    decode bytes = .ok text ↔ bytes = encode text := by
  constructor
  · intro h
    obtain ⟨more, rfl, hbytes⟩ := eq_encode_of_decodeFrom h
    exact hbytes
  · rintro rfl
    exact decodeFrom_encode text 0 []

end BusContract.Utf8
