import BusContract.Proofs.Signature.Reading

/-!
# Entries with any key

Types in which the key of an entry may be any type are written like complete types, but not every
one of them is one: `a\x7bais\x7d` can be written and no signature begins with it. Reading such a
word as a complete type fails exactly at a key that is not basic (`LooseType.exists_letters_eq_iff`).

One direction reads the complete type off the tree. The other is the unique reading of complete types
again (`letters_append_inj`), with a loose type on one side.
-/

namespace BusContract

/-- A type whose entries may have keys of any type. Parts that are complete types already are
not looked into. -/
inductive LooseType where
  | exact (t : CompleteType)
  | array (element : LooseType)
  | mapping (key value : LooseType)
  | struct (first : LooseType) (rest : List LooseType)

namespace LooseType

mutual

/-- The written form of a type. -/
def letters : LooseType → List Char
  | exact t => t.letters
  | array element => 'a' :: letters element
  | mapping key value => 'a' :: '\x7b' :: (letters key ++ (letters value ++ ['\x7d']))
  | struct first rest => '(' :: (letters first ++ (lettersOfAll rest ++ [')']))

/-- The written forms of types, one after the other. -/
def lettersOfAll : List LooseType → List Char
  | [] => []
  | t :: rest => letters t ++ lettersOfAll rest

end

mutual

/-- The keys of all entries, those inside keys included. -/
def keys : LooseType → List LooseType
  | exact _ => []
  | array element => keys element
  | mapping key value => key :: (keys key ++ keys value)
  | struct first rest => keys first ++ keysOfAll rest

/-- The keys of all entries in a row of types. -/
def keysOfAll : List LooseType → List LooseType
  | [] => []
  | t :: rest => keys t ++ keysOfAll rest

end

/-- Is the type written as a basic type is? -/
def IsBasic (t : LooseType) : Prop := ∃ b : BasicType, letters t = [b.letter]

/-! ## Basic keys suffice -/

mutual

/-- A type all of whose keys are basic is written as a complete type is. -/
theorem exists_letters_eq : ∀ t : LooseType, (∀ key ∈ keys t, key.IsBasic) →
    ∃ u : CompleteType, letters t = u.letters
  | exact u, _ => ⟨u, rfl⟩
  | array element, h => by
    obtain ⟨u, hu⟩ := exists_letters_eq element h
    exact ⟨.array u, by rw [letters, hu, CompleteType.letters]⟩
  | mapping key value, h => by
    rw [keys, List.forall_mem_cons, List.forall_mem_append] at h
    obtain ⟨⟨b, hb⟩, -, hvalue⟩ := h
    obtain ⟨u, hu⟩ := exists_letters_eq value hvalue
    exact ⟨.mapping b u, by rw [letters, hb, hu, CompleteType.letters, List.singleton_append]⟩
  | struct first rest, h => by
    rw [keys, List.forall_mem_append] at h
    obtain ⟨u, hu⟩ := exists_letters_eq first h.1
    obtain ⟨us, hus⟩ := exists_lettersOfAll_eq rest h.2
    exact ⟨.struct u us, by rw [letters, hu, hus, CompleteType.letters]⟩

theorem exists_lettersOfAll_eq : ∀ ts : List LooseType, (∀ key ∈ keysOfAll ts, key.IsBasic) →
    ∃ us : List CompleteType, lettersOfAll ts = CompleteType.lettersOfAll us
  | [], _ => ⟨[], rfl⟩
  | t :: rest, h => by
    rw [keysOfAll, List.forall_mem_append] at h
    obtain ⟨u, hu⟩ := exists_letters_eq t h.1
    obtain ⟨us, hus⟩ := exists_lettersOfAll_eq rest h.2
    exact ⟨u :: us, by rw [lettersOfAll, hu, hus, CompleteType.lettersOfAll]⟩

end

/-! ## Only basic keys can be read -/

/-- A written type begins neither with a closing bracket nor with the one that opens an entry. -/
theorem letters_append_ne (t : LooseType) {c : Char} (hc : c ∈ [')', '\x7b', '\x7d'])
    (tail more : List Char) : letters t ++ tail ≠ c :: more := by
  cases t with
  | exact u => exact u.letters_append_ne hc tail more
  | array element =>
    rintro h
    obtain ⟨rfl, -⟩ := List.cons.inj h
    exact absurd hc (by decide)
  | mapping key value =>
    rintro h
    obtain ⟨rfl, -⟩ := List.cons.inj h
    exact absurd hc (by decide)
  | struct first rest =>
    rintro h
    obtain ⟨rfl, -⟩ := List.cons.inj h
    exact absurd hc (by decide)

mutual

/-- Where a complete type can be read off a word that begins with a loose type, the two end at the
same place and all keys are basic. -/
theorem forall_keys_isBasic : ∀ (t : LooseType) (u : CompleteType) {r r' : List Char},
    letters t ++ r = u.letters ++ r' → r = r' ∧ ∀ key ∈ keys t, key.IsBasic
  | exact t, u, r, r', h =>
    ⟨(CompleteType.letters_append_inj t u h).2, fun _ hkey => absurd hkey List.not_mem_nil⟩
  | array element, u, r, r', h => by
    cases u with
    | basic b => exact absurd (List.cons.inj h).1.symm (b.letter_ne (by decide))
    | variant => exact absurd (List.cons.inj h).1 (by decide)
    | array e => exact forall_keys_isBasic element e (List.cons.inj h).2
    | mapping k v => exact absurd (List.cons.inj h).2 (letters_append_ne element (by decide) r _)
    | struct f fs => exact absurd (List.cons.inj h).1 (by decide)
  | mapping key value, u, r, r', h => by
    cases u with
    | basic b => exact absurd (List.cons.inj h).1.symm (b.letter_ne (by decide))
    | variant => exact absurd (List.cons.inj h).1 (by decide)
    | array e =>
      exact absurd (List.cons.inj h).2.symm (e.letters_append_ne (by decide) r' _)
    | mapping b v =>
      simp only [letters, CompleteType.letters, List.cons_append, List.append_assoc,
        List.cons.injEq, true_and] at h
      -- the key is read as the basic type that stands in its place
      have hkey : letters key ++ (letters value ++ '\x7d' :: r)
          = (CompleteType.basic b).letters ++ (v.letters ++ '\x7d' :: r') := h
      obtain ⟨hvalue, hkeys⟩ := forall_keys_isBasic key (.basic b) hkey
      obtain ⟨hr, hvalues⟩ := forall_keys_isBasic value v hvalue
      rw [hvalue] at hkey
      have hbasic : key.IsBasic := ⟨b, List.append_cancel_right hkey⟩
      refine ⟨(List.cons.inj hr).2, ?_⟩
      rw [keys, List.forall_mem_cons, List.forall_mem_append]
      exact ⟨hbasic, hkeys, hvalues⟩
    | struct f fs => exact absurd (List.cons.inj h).1 (by decide)
  | struct first rest, u, r, r', h => by
    cases u with
    | basic b => exact absurd (List.cons.inj h).1.symm (b.letter_ne (by decide))
    | variant => exact absurd (List.cons.inj h).1 (by decide)
    | array e => exact absurd (List.cons.inj h).1 (by decide)
    | mapping k v => exact absurd (List.cons.inj h).1 (by decide)
    | struct f fs =>
      simp only [letters, CompleteType.letters, List.cons_append, List.append_assoc,
        List.cons.injEq, true_and, List.nil_append] at h
      obtain ⟨hrest, hfirst⟩ := forall_keys_isBasic first f h
      obtain ⟨hr, hkeys⟩ := forall_keysOfAll_isBasic rest fs hrest
      exact ⟨hr, List.forall_mem_append.mpr ⟨hfirst, hkeys⟩⟩

/-- The same for a row behind which a parenthesis closes. -/
theorem forall_keysOfAll_isBasic : ∀ (ts : List LooseType) (us : List CompleteType)
    {r r' : List Char}, lettersOfAll ts ++ ')' :: r = CompleteType.lettersOfAll us ++ ')' :: r' →
      r = r' ∧ ∀ key ∈ keysOfAll ts, key.IsBasic
  | [], [], r, r', h => ⟨(List.cons.inj h).2, fun _ hkey => absurd hkey List.not_mem_nil⟩
  | [], u :: us, r, r', h => by
    rw [lettersOfAll, CompleteType.lettersOfAll, List.append_assoc] at h
    exact absurd h.symm (u.letters_append_ne (by decide) _ _)
  | t :: ts, [], r, r', h => by
    rw [lettersOfAll, CompleteType.lettersOfAll, List.append_assoc] at h
    exact absurd h (letters_append_ne t (by decide) _ _)
  | t :: ts, u :: us, r, r', h => by
    rw [lettersOfAll, CompleteType.lettersOfAll, List.append_assoc, List.append_assoc] at h
    obtain ⟨hrest, hfirst⟩ := forall_keys_isBasic t u h
    obtain ⟨hr, hkeys⟩ := forall_keysOfAll_isBasic ts us hrest
    exact ⟨hr, List.forall_mem_append.mpr ⟨hfirst, hkeys⟩⟩

end

/-- A written type is a complete type exactly if all its keys are basic. -/
theorem exists_letters_eq_iff (t : LooseType) :
    (∃ u : CompleteType, letters t = u.letters) ↔ ∀ key ∈ keys t, key.IsBasic := by
  constructor
  · rintro ⟨u, hu⟩
    have happend : letters t ++ [] = u.letters ++ [] := by rw [hu]
    exact (forall_keys_isBasic t u happend).2
  · exact exists_letters_eq t

end LooseType

end BusContract
