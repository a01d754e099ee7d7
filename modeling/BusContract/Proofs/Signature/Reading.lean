import BusContract.Proofs.Signature.Unwrap
import BusContract.Signature.Grammar

/-!
# Reading written types

Two facts about how complete types are written. The written form of a type leaves the depth counter
where it was (`foldl_letters`), since every parenthesis it opens it also closes. And a type can be read
off the front of a longer word in one way only (`letters_append_inj`), so a row of types is determined
by its letters (`lettersOfAll_injective`).

Both go by induction on the tree, together with the same fact for rows of trees.
-/

namespace BusContract

namespace BasicType

/-- Basic types have letters of their own. -/
theorem letter_injective : ∀ {a b : BasicType}, a.letter = b.letter → a = b := by
  intro a b
  cases a <;> cases b <;> decide

/-- The letter of a basic type begins no other type, and is no bracket. -/
theorem letter_ne (b : BasicType) {c : Char} (hc : c ∈ ['v', 'a', '(', ')', '\x7b', '\x7d']) :
    b.letter ≠ c := by
  rintro rfl
  cases b <;> exact absurd hc (by decide)

end BasicType

namespace CompleteType

/-! ## Balance -/

/-- None of them is a parenthesis. -/
theorem depthStep_letter (b : BasicType) (depth : Nat) :
    depthStep '(' ')' depth b.letter = depth :=
  depthStep_of_ne (b.letter_ne (by decide)) (b.letter_ne (by decide)) depth

mutual

/-- A written type leaves the counter where it was. -/
theorem foldl_letters : ∀ (t : CompleteType) (depth : Nat),
    (letters t).foldl (depthStep '(' ')') depth = depth
  | basic b, depth => by
    rw [letters, List.foldl_cons, List.foldl_nil, depthStep_letter]
  | variant, depth => rfl
  | array element, depth => by
    rw [letters, List.foldl_cons, depthStep_of_ne (by decide) (by decide), foldl_letters element]
  | mapping key value, depth => by
    rw [letters, List.foldl_cons, depthStep_of_ne (by decide) (by decide), List.foldl_cons,
      depthStep_of_ne (by decide) (by decide), List.foldl_cons, depthStep_letter,
      List.foldl_append, foldl_letters value]
    rfl
  | struct first rest, depth => by
    -- the pair of the struct goes one up and, behind its fields, one down
    rw [letters, List.foldl_cons, List.foldl_append, List.foldl_append, foldl_letters first,
      foldl_lettersOfAll rest]
    rfl

/-- A written row leaves the counter where it was. -/
theorem foldl_lettersOfAll : ∀ (ts : List CompleteType) (depth : Nat),
    (lettersOfAll ts).foldl (depthStep '(' ')') depth = depth
  | [], depth => rfl
  | t :: rest, depth => by
    rw [lettersOfAll, List.foldl_append, foldl_letters t, foldl_lettersOfAll rest]

end

/-- Complete types leave nothing open. -/
theorem openDepth_lettersOfAll (ts : List CompleteType) :
    openDepth '(' ')' (lettersOfAll ts) = 0 :=
  foldl_lettersOfAll ts 0

/-- A type that ends in a closing parenthesis has, before it, exactly one more open than at its
start. The parenthesis may be that of a struct inside arrays, so this goes by induction. -/
theorem foldl_of_letters_eq_concat : ∀ {t : CompleteType} {front : List Char} (depth : Nat),
    letters t = front ++ [')'] → front.foldl (depthStep '(' ')') depth = depth + 1
  | basic b, front, depth, h => by
    have h' : [] ++ [b.letter] = front ++ [')'] := h
    obtain ⟨-, hb⟩ := List.append_inj' h' rfl
    exact absurd (List.cons.inj hb).1 (b.letter_ne (by decide))
  | variant, front, depth, h => by
    have h' : [] ++ ['v'] = front ++ [')'] := h
    obtain ⟨-, hv⟩ := List.append_inj' h' rfl
    exact absurd (List.cons.inj hv).1 (by decide)
  | array element, front, depth, h => by
    cases front with
    | nil => exact absurd (List.cons.inj h).1 (by decide)
    | cons c front =>
      obtain ⟨rfl, helement⟩ := List.cons.inj h
      rw [List.foldl_cons, depthStep_of_ne (by decide) (by decide)]
      exact foldl_of_letters_eq_concat depth helement
  | mapping key value, front, depth, h => by
    rw [letters, ← List.cons_append, ← List.cons_append, ← List.cons_append] at h
    obtain ⟨-, hbrace⟩ := List.append_inj' h rfl
    exact absurd (List.cons.inj hbrace).1 (by decide)
  | struct first rest, front, depth, h => by
    -- only a struct ends with the bracket, and what is before it is one opened pair
    rw [letters, ← List.append_assoc, ← List.cons_append] at h
    obtain ⟨rfl, -⟩ := List.append_inj' h rfl
    rw [List.foldl_cons, List.foldl_append, foldl_letters first, foldl_lettersOfAll rest]
    rfl

/-! ## Unique reading -/

/-- A written type begins with a letter that is no closing bracket and opens no entry. -/
theorem letters_eq_cons (t : CompleteType) :
    ∃ c tail, letters t = c :: tail ∧ c ∉ [')', '\x7b', '\x7d'] := by
  cases t with
  | basic b => exact ⟨b.letter, [], rfl, fun h => b.letter_ne (List.mem_append_right ['v', 'a', '('] h) rfl⟩
  | variant => exact ⟨'v', [], rfl, by decide⟩
  | array element => exact ⟨'a', letters element, rfl, by decide⟩
  | mapping key value => exact ⟨'a', _, rfl, by decide⟩
  | struct first rest => exact ⟨'(', _, rfl, by decide⟩

/-- No complete type begins with a mark that closes something. -/
theorem letters_append_ne (t : CompleteType) {c : Char} (hc : c ∈ [')', '\x7b', '\x7d'])
    (tail more : List Char) : letters t ++ tail ≠ c :: more := by
  obtain ⟨d, rest, ht, hd⟩ := letters_eq_cons t
  intro h
  rw [ht, List.cons_append] at h
  obtain ⟨rfl, -⟩ := List.cons.inj h
  exact hd hc

mutual

/-- A written type determines itself and its end in a longer word. -/
theorem letters_append_inj : ∀ (t u : CompleteType) {r r' : List Char},
    letters t ++ r = letters u ++ r' → t = u ∧ r = r'
  | basic a, u, r, r', h => by
    cases u with
    | basic b =>
      obtain ⟨hab, hr⟩ := List.cons.inj h
      exact ⟨congrArg basic (BasicType.letter_injective hab), hr⟩
    | variant => exact absurd (List.cons.inj h).1 (a.letter_ne (by decide))
    | array element => exact absurd (List.cons.inj h).1 (a.letter_ne (by decide))
    | mapping key value => exact absurd (List.cons.inj h).1 (a.letter_ne (by decide))
    | struct first rest => exact absurd (List.cons.inj h).1 (a.letter_ne (by decide))
  | variant, u, r, r', h => by
    cases u with
    | basic b => exact absurd (List.cons.inj h).1.symm (b.letter_ne (by decide))
    | variant => exact ⟨rfl, (List.cons.inj h).2⟩
    | array element => exact absurd (List.cons.inj h).1 (by decide)
    | mapping key value => exact absurd (List.cons.inj h).1 (by decide)
    | struct first rest => exact absurd (List.cons.inj h).1 (by decide)
  | array s, u, r, r', h => by
    cases u with
    | basic b => exact absurd (List.cons.inj h).1.symm (b.letter_ne (by decide))
    | variant => exact absurd (List.cons.inj h).1 (by decide)
    | array element =>
      obtain ⟨hs, hr⟩ := letters_append_inj s element (List.cons.inj h).2
      exact ⟨congrArg array hs, hr⟩
    | mapping key value =>
      -- the element would have to open an entry
      exact absurd (List.cons.inj h).2 (letters_append_ne s (by decide) r _)
    | struct first rest => exact absurd (List.cons.inj h).1 (by decide)
  | mapping k v, u, r, r', h => by
    cases u with
    | basic b => exact absurd (List.cons.inj h).1.symm (b.letter_ne (by decide))
    | variant => exact absurd (List.cons.inj h).1 (by decide)
    | array element =>
      exact absurd (List.cons.inj h).2.symm (letters_append_ne element (by decide) r' _)
    | mapping key value =>
      simp only [letters, List.cons_append, List.append_assoc, List.cons.injEq, true_and] at h
      obtain ⟨hv, hr⟩ := letters_append_inj v value h.2
      rw [BasicType.letter_injective h.1, hv]
      exact ⟨rfl, (List.cons.inj hr).2⟩
    | struct first rest => exact absurd (List.cons.inj h).1 (by decide)
  | struct f fs, u, r, r', h => by
    cases u with
    | basic b => exact absurd (List.cons.inj h).1.symm (b.letter_ne (by decide))
    | variant => exact absurd (List.cons.inj h).1 (by decide)
    | array element => exact absurd (List.cons.inj h).1 (by decide)
    | mapping key value => exact absurd (List.cons.inj h).1 (by decide)
    | struct first rest =>
      simp only [letters, List.cons_append, List.append_assoc, List.cons.injEq, true_and,
        List.nil_append] at h
      obtain ⟨hf, hfs⟩ := letters_append_inj f first h
      obtain ⟨hrest, hr⟩ := lettersOfAll_closed_inj fs rest hfs
      rw [hf, hrest]
      exact ⟨rfl, hr⟩

/-- A written row behind which a parenthesis closes determines itself and its end. -/
theorem lettersOfAll_closed_inj : ∀ (ts us : List CompleteType) {r r' : List Char},
    lettersOfAll ts ++ ')' :: r = lettersOfAll us ++ ')' :: r' → ts = us ∧ r = r'
  | [], [], r, r', h => ⟨rfl, (List.cons.inj h).2⟩
  | [], u :: us, r, r', h => by
    -- the first type of the longer row would begin with the closing parenthesis
    rw [lettersOfAll, lettersOfAll, List.append_assoc] at h
    exact absurd h.symm (letters_append_ne u (by decide) _ _)
  | t :: ts, [], r, r', h => by
    rw [lettersOfAll, lettersOfAll, List.append_assoc] at h
    exact absurd h (letters_append_ne t (by decide) _ _)
  | t :: ts, u :: us, r, r', h => by
    rw [lettersOfAll, lettersOfAll, List.append_assoc, List.append_assoc] at h
    obtain ⟨ht, hts⟩ := letters_append_inj t u h
    obtain ⟨hrest, hr⟩ := lettersOfAll_closed_inj ts us hts
    rw [ht, hrest]
    exact ⟨rfl, hr⟩

end

/-- Different rows are written differently. A closing parenthesis behind both makes this the fact on
closed rows. -/
theorem lettersOfAll_injective {ts us : List CompleteType}
    (h : lettersOfAll ts = lettersOfAll us) : ts = us := by
  have hclosed : lettersOfAll ts ++ [')'] = lettersOfAll us ++ [')'] := by rw [h]
  exact (lettersOfAll_closed_inj ts us hclosed).1

end CompleteType

end BusContract
