import BusContract.Proofs.Signature.Encoding
import BusContract.Proofs.Signature.Reading

/-!
# What the comparison equates

On written rows of complete types the strip of the outer pair has a meaning on trees: it unwraps a row
that is a single struct and leaves every other row alone (`unwrap_lettersOfAll`). Rows such as two
adjacent structs, which also begin and end with parentheses, stay as they are.

* **`equivalent_signature_iff`**: two well-formed signatures are equivalent exactly when their rows
  have the same layout.
* **`layout_eq_iff`**: the layouts of two rows agree exactly when the rows are equal or one of them is
  the other in one struct more, where the inner one is no single struct itself.
-/

namespace BusContract

namespace CompleteType

/-! ## Layouts -/

/-- Is the row a single struct? -/
def IsSingleStruct (ts : List CompleteType) : Prop := ∃ first rest, ts = [struct first rest]

/-- Is the first row the second one put into one struct? -/
def Wraps (outer inner : List CompleteType) : Prop :=
  ∃ first rest, outer = [struct first rest] ∧ inner = first :: rest

/-- The layout of a single struct is the row of its fields. -/
theorem layout_struct (first : CompleteType) (rest : List CompleteType) :
    layout [struct first rest] = first :: rest := rfl

/-- Every other row is its own layout. -/
theorem layout_of_not_single {ts : List CompleteType} (h : ¬ IsSingleStruct ts) :
    layout ts = ts := by
  unfold layout
  split
  · next first rest => exact absurd ⟨first, rest, rfl⟩ h
  · rfl

/-- A row is its own layout exactly if it is no single struct, since a struct is not its own field. -/
theorem layout_eq_self_iff (ts : List CompleteType) : layout ts = ts ↔ ¬ IsSingleStruct ts := by
  constructor
  · rintro h ⟨first, rest, rfl⟩
    rw [layout_struct] at h
    have hsize := congrArg sizeOf (List.cons.inj h).1
    rw [struct.sizeOf_spec] at hsize
    omega
  · exact layout_of_not_single

/-- Two rows have the same layout exactly if they are equal or one of them wraps the other, which is
no single struct then. -/
theorem layout_eq_iff (xs ys : List CompleteType) :
    layout xs = layout ys ↔
      xs = ys ∨ (Wraps xs ys ∧ ¬ IsSingleStruct ys) ∨ (Wraps ys xs ∧ ¬ IsSingleStruct xs) := by
  -- whether each side is a single struct decides how it is laid out, and with it the disjunct
  by_cases hx : IsSingleStruct xs <;> by_cases hy : IsSingleStruct ys
  · obtain ⟨f, fs, rfl⟩ := hx
    obtain ⟨g, gs, rfl⟩ := hy
    constructor
    · intro h
      obtain ⟨rfl, rfl⟩ := List.cons.inj h
      exact .inl rfl
    · rintro (h | ⟨-, h⟩ | ⟨-, h⟩)
      · rw [h]
      · exact absurd ⟨g, gs, rfl⟩ h
      · exact absurd ⟨f, fs, rfl⟩ h
  · obtain ⟨f, fs, rfl⟩ := hx
    rw [layout_of_not_single hy, layout_struct]
    constructor
    · intro h
      exact .inr (.inl ⟨⟨f, fs, rfl, h.symm⟩, hy⟩)
    · rintro (h | ⟨⟨g, gs, hg, hys⟩, -⟩ | ⟨-, h⟩)
      · exact absurd ⟨f, fs, h.symm⟩ hy
      · obtain ⟨rfl, rfl⟩ := struct.inj (List.cons.inj hg).1
        exact hys.symm
      · exact absurd ⟨f, fs, rfl⟩ h
  · obtain ⟨g, gs, rfl⟩ := hy
    rw [layout_of_not_single hx, layout_struct]
    constructor
    · intro h
      exact .inr (.inr ⟨⟨g, gs, rfl, h⟩, hx⟩)
    · rintro (h | ⟨-, h⟩ | ⟨⟨f, fs, hf, hxs⟩, -⟩)
      · exact absurd ⟨g, gs, h⟩ hx
      · exact absurd ⟨g, gs, rfl⟩ h
      · obtain ⟨rfl, rfl⟩ := struct.inj (List.cons.inj hf).1
        exact hxs
  · rw [layout_of_not_single hx, layout_of_not_single hy]
    constructor
    · exact .inl
    · rintro (h | ⟨⟨f, fs, hf, -⟩, -⟩ | ⟨⟨g, gs, hg, -⟩, -⟩)
      · exact h
      · exact absurd ⟨f, fs, hf⟩ hx
      · exact absurd ⟨g, gs, hg⟩ hy

/-! ## Signatures of rows -/

/-- A signature is made of those of its types. -/
theorem join_map_signature (ts : List CompleteType) :
    String.join (ts.map fun t => signature [t]) = signature ts := by
  induction ts with
  | nil => rfl
  | cons t rest ih =>
    rw [List.map_cons, String.join_cons, ih, signature, signature, signature, ← String.ofList_append]
    rw [lettersOfAll, lettersOfAll, List.append_nil, lettersOfAll]

/-! ## The outer pair of a written row -/

/-- A written struct is its fields in parentheses. -/
theorem letters_struct (first : CompleteType) (rest : List CompleteType) :
    letters (struct first rest) = '(' :: (lettersOfAll (first :: rest) ++ [')']) := by
  rw [letters, lettersOfAll, List.append_assoc]

/-- The signature of a struct is that of its fields in parentheses. -/
theorem signature_struct (first : CompleteType) (rest : List CompleteType) :
    signature [struct first rest] = "(" ++ signature (first :: rest) ++ ")" := by
  rw [← String.toList_inj, String.toList_append, String.toList_append, signature, signature,
    String.toList_ofList, String.toList_ofList, lettersOfAll, lettersOfAll, letters_struct]
  simp

/-- A type that begins with a parenthesis is a struct. -/
theorem exists_struct_of_letters_append {t : CompleteType} {tail more : List Char}
    (h : letters t ++ tail = '(' :: more) : ∃ first rest, t = struct first rest := by
  cases t with
  | basic b => exact absurd (List.cons.inj h).1 (b.letter_ne (by decide))
  | variant => exact absurd (List.cons.inj h).1 (by decide)
  | array element => exact absurd (List.cons.inj h).1 (by decide)
  | mapping key value => exact absurd (List.cons.inj h).1 (by decide)
  | struct first rest => exact ⟨first, rest, rfl⟩

/-- A written type is not empty, so its last letter can be split off. -/
theorem letters_eq_concat (t : CompleteType) : ∃ front c, letters t = front ++ [c] := by
  obtain ⟨c, tail, ht, -⟩ := letters_eq_cons t
  refine ⟨(letters t).dropLast, (letters t).getLast (by rw [ht]; exact List.cons_ne_nil c tail), ?_⟩
  exact (List.dropLast_concat_getLast _).symm

/-- Two structs or more, whatever stands between the first and the last type: the letters between the
outer parentheses leave one parenthesis open, that of the last type. -/
theorem openDepth_of_wrapped {t : CompleteType} {middle : List CompleteType} {last : CompleteType}
    {inside : List Char} (h : lettersOfAll (t :: (middle ++ [last])) = '(' :: (inside ++ [')'])) :
    openDepth '(' ')' inside = 1 := by
  obtain ⟨front, c, hlast⟩ := letters_eq_concat last
  rw [lettersOfAll, lettersOfAll_append] at h
  obtain ⟨first, rest, rfl⟩ := exists_struct_of_letters_append h
  have hlastAll : lettersOfAll [last] = front ++ [c] := by
    rw [lettersOfAll, lettersOfAll, List.append_nil, hlast]
  rw [hlastAll, letters_struct, List.cons_append, List.cons.injEq, ← List.append_assoc,
    ← List.append_assoc] at h
  obtain ⟨hinside, hc⟩ := List.append_inj' h.2 rfl
  obtain rfl : c = ')' := (List.cons.inj hc).1
  -- the fields of the first struct, its closing parenthesis at depth zero, the types between, and
  -- the last type up to its closing parenthesis
  rw [← hinside, openDepth_append, openDepth_append, openDepth_append, openDepth_lettersOfAll]
  have hclose : [')'].foldl (depthStep '(' ')') 0 = 0 := rfl
  rw [hclose, foldl_lettersOfAll]
  exact foldl_of_letters_eq_concat 0 hlast

/-- Stripping the outer pair of a written row gives the written layout of the row. -/
theorem unwrap_lettersOfAll (ts : List CompleteType) :
    unwrap '(' ')' (lettersOfAll ts) = lettersOfAll (layout ts) := by
  by_cases h : IsSingleStruct ts
  · obtain ⟨first, rest, rfl⟩ := h
    rw [lettersOfAll, lettersOfAll, List.append_nil, letters_struct,
      unwrap_wrapped (openDepth_lettersOfAll _), layout_struct]
  · rw [layout_of_not_single h]
    refine unwrap_of_not_wrapped fun inside hts hdepth => ?_
    cases ts with
    | nil => exact absurd hts (List.cons_ne_nil _ _).symm
    | cons t rest =>
      rcases List.eq_nil_or_concat rest with rfl | ⟨middle, last, rfl⟩
      · -- a single type that begins with a parenthesis is a single struct
        obtain ⟨first, fields, rfl⟩ := exists_struct_of_letters_append (t := t) hts
        exact h ⟨first, fields, rfl⟩
      · rw [List.concat_eq_append] at hts
        rw [openDepth_of_wrapped hts] at hdepth
        exact absurd hdepth (by decide)

end CompleteType

/-! ## Equivalence -/

namespace Signature

open BusContract.CompleteType

/-- What is compared of a well-formed signature is the written layout of its row. -/
theorem core_signature (ts : List CompleteType) :
    (text (signature ts)).core = (text (signature (layout ts))).toBytes := by
  rw [core_text, signature, String.toList_ofList, unwrap_lettersOfAll]
  show Utf8.encode (lettersOfAll (layout ts)) = Utf8.encode (String.ofList _).toList
  rw [String.toList_ofList]

/-- Two well-formed signatures are equivalent exactly when their rows have the same layout. -/
theorem equivalent_signature_iff (xs ys : List CompleteType) :
    (text (signature xs)).equivalent (text (signature ys)) = true ↔ layout xs = layout ys := by
  rw [equivalent_text_iff, signature, signature, String.toList_ofList, String.toList_ofList,
    unwrap_lettersOfAll, unwrap_lettersOfAll]
  exact ⟨lettersOfAll_injective, congrArg lettersOfAll⟩

/-- The bytes of a well-formed signature determine its row. -/
theorem toBytes_signature_inj {xs ys : List CompleteType}
    (h : (text (signature xs)).toBytes = (text (signature ys)).toBytes) : xs = ys := by
  have hletters := Utf8.encode_injective h
  rw [signature, signature, String.toList_ofList, String.toList_ofList] at hletters
  exact lettersOfAll_injective hletters

/-- A well-formed signature is compared as it stands exactly if its row is no single struct. -/
theorem core_eq_toBytes_iff (ts : List CompleteType) :
    (text (signature ts)).core = (text (signature ts)).toBytes ↔ ¬ IsSingleStruct ts := by
  rw [core_signature, ← layout_eq_self_iff]
  exact ⟨toBytes_signature_inj, fun h => by rw [h]⟩

/-- **The classes of the comparison.** Well-formed signatures are equivalent exactly when their rows
have the same layout. So rows that differ are equated only if one is the other in one struct more, the
inner one being no single struct; and only a single struct ever loses its parentheses. -/
theorem equivalence_classes (xs ys : List CompleteType) :
    ((text (signature xs)).equivalent (text (signature ys)) = true ↔ layout xs = layout ys)
      ∧ ((text (signature xs)).equivalent (text (signature ys)) = true ↔
          xs = ys ∨ (Wraps xs ys ∧ ¬ IsSingleStruct ys) ∨ (Wraps ys xs ∧ ¬ IsSingleStruct xs))
      ∧ ((text (signature xs)).core = (text (signature xs)).toBytes ↔ ¬ IsSingleStruct xs) := by
  refine ⟨equivalent_signature_iff xs ys, ?_, core_eq_toBytes_iff xs⟩
  rw [equivalent_signature_iff, layout_eq_iff]

end Signature

end BusContract
