import BusContract.Proofs.Signature.Unwrap
import Mathlib.Data.List.Infix

/-!
# What the depth counter counts

The depth counter does not go below zero, so over a word that closes more than it opens it is not
the balance of the word. It is the most that any back part of the word opens more than it closes
(`count_opening_le`, `exists_suffix_count`). Hence it ends at zero exactly if every back part closes
all that it opens (`openDepth_eq_zero_iff`), which is said without a counter and holds of malformed
words as well.

Where the parentheses of a word can be matched by a stack, the pair that is taken off is the one that
joins the first letter and the last (`mem_pairs_of_isEnclosed`, `isEnclosed_of_mem_pairs`).

* **`Signature.core_exact`**: what any bytes are without their outer parentheses, when that is less
  than before, and how far apart two signatures can be that pass for equivalent.
-/

namespace BusContract

section Depth

variable {α : Type} [DecidableEq α] {opening closing : α}

/-! ## Back parts of a word -/

/-- Does every back part of the word close at least as much as it opens? -/
def ClosesAll (opening closing : α) (letters : List α) : Prop :=
  ∀ back, back <:+ letters → back.count opening ≤ back.count closing

instance (letters : List α) : Decidable (ClosesAll opening closing letters) :=
  decidable_of_iff (∀ back ∈ letters.tails, back.count opening ≤ back.count closing) <| by
    simp only [List.mem_tails, ClosesAll]

/-- The last letter is a step from the depth before it. -/
theorem openDepth_concat (front : List α) (letter : α) :
    openDepth opening closing (front ++ [letter])
      = depthStep opening closing (openDepth opening closing front) letter :=
  openDepth_append front [letter]

/-- How one more letter changes the difference of the two counts, next to how it moves the counter. -/
theorem count_concat (hne : opening ≠ closing) (front : List α) (letter : α) (depth : Nat) :
    (letter = opening ∧ (front ++ [letter]).count opening = front.count opening + 1
        ∧ (front ++ [letter]).count closing = front.count closing
        ∧ depthStep opening closing depth letter = depth + 1)
      ∨ (letter = closing ∧ (front ++ [letter]).count opening = front.count opening
        ∧ (front ++ [letter]).count closing = front.count closing + 1
        ∧ depthStep opening closing depth letter = depth - 1)
      ∨ ((front ++ [letter]).count opening = front.count opening
        ∧ (front ++ [letter]).count closing = front.count closing
        ∧ depthStep opening closing depth letter = depth) := by
  by_cases hopen : letter = opening
  · subst hopen
    simp [depthStep, List.count_append, hne]
  · by_cases hclose : letter = closing
    · subst hclose
      simp [depthStep, List.count_append, hopen]
    · simp [depthStep, List.count_append, hopen, hclose]

/-- No back part opens more than it closes by more than the counter says. Induction on the word from
its end, where both the back parts and the counter grow. -/
theorem count_opening_le (hne : opening ≠ closing) {letters back : List α} (h : back <:+ letters) :
    back.count opening ≤ back.count closing + openDepth opening closing letters := by
  induction letters using List.reverseRecOn generalizing back with
  | nil => simp [List.suffix_nil.mp h]
  | append_singleton front letter ih =>
    rcases List.suffix_concat_iff.mp h with rfl | ⟨back, rfl, hback⟩
    · simp
    · have hle := ih hback
      rw [openDepth_concat]
      have hstep := count_concat hne back letter (openDepth opening closing front)
      omega

/-- Some back part opens exactly that much more than it closes. Where the counter stays at zero this
is the empty one. -/
theorem exists_suffix_count (hne : opening ≠ closing) (letters : List α) :
    ∃ back, back <:+ letters
      ∧ back.count opening = back.count closing + openDepth opening closing letters := by
  induction letters using List.reverseRecOn with
  | nil => exact ⟨[], List.suffix_rfl, rfl⟩
  | append_singleton front letter ih =>
    obtain ⟨back, hback, hcount⟩ := ih
    rw [openDepth_concat]
    have hstep := count_concat hne back letter (openDepth opening closing front)
    by_cases hzero : depthStep opening closing (openDepth opening closing front) letter = 0
    · exact ⟨[], List.nil_suffix, by simp [hzero]⟩
    · refine ⟨back ++ [letter], List.suffix_concat_iff.mpr (.inr ⟨back, rfl, hback⟩), ?_⟩
      omega

/-- **The counter ends at zero exactly if every back part closes all that it opens.** -/
theorem openDepth_eq_zero_iff (hne : opening ≠ closing) {letters : List α} :
    openDepth opening closing letters = 0 ↔ ClosesAll opening closing letters := by
  constructor
  · intro hzero back hback
    have hle := count_opening_le hne hback
    omega
  · intro hcloses
    obtain ⟨back, hback, hcount⟩ := exists_suffix_count hne letters
    have hle := hcloses back hback
    omega

/-! ## Words in an outer pair -/

/-- Is the word a pair around an inside that closes all that it opens? -/
def IsEnclosed (opening closing : α) (letters : List α) : Prop :=
  ∃ inside, letters = opening :: (inside ++ [closing]) ∧ ClosesAll opening closing inside

/-- A pair around letters that are closed is taken off. -/
theorem unwrap_of_closesAll (hne : opening ≠ closing) {inside : List α}
    (h : ClosesAll opening closing inside) :
    unwrap opening closing (opening :: (inside ++ [closing])) = inside :=
  unwrap_wrapped ((openDepth_eq_zero_iff hne).mpr h)

/-- Other letters are left as they are. -/
theorem unwrap_of_not_isEnclosed (hne : opening ≠ closing) {letters : List α}
    (h : ¬ IsEnclosed opening closing letters) : unwrap opening closing letters = letters := by
  apply unwrap_of_not_wrapped
  intro inside hletters hzero
  exact h ⟨inside, hletters, (openDepth_eq_zero_iff hne).mp hzero⟩

/-- A word loses something exactly if it is in an outer pair. -/
theorem unwrap_ne_self_iff (hne : opening ≠ closing) {letters : List α} :
    unwrap opening closing letters ≠ letters ↔ IsEnclosed opening closing letters := by
  constructor
  · intro h
    by_contra hnot
    exact h (unwrap_of_not_isEnclosed hne hnot)
  · rintro ⟨inside, rfl, hinside⟩ hsame
    rw [unwrap_of_closesAll hne hinside] at hsame
    have hlength := congrArg List.length hsame
    simp only [List.length_cons, List.length_append, List.length_nil] at hlength
    omega

/-- Words that come to the same are one outer pair apart at most. -/
theorem eq_or_wrapped_of_unwrap_eq (hne : opening ≠ closing) {l r : List α}
    (h : unwrap opening closing l = unwrap opening closing r) :
    l = r ∨ l = opening :: (r ++ [closing]) ∨ r = opening :: (l ++ [closing]) := by
  by_cases hl : IsEnclosed opening closing l <;> by_cases hr : IsEnclosed opening closing r
  · obtain ⟨insideL, rfl, hL⟩ := hl
    obtain ⟨insideR, rfl, hR⟩ := hr
    rw [unwrap_of_closesAll hne hL, unwrap_of_closesAll hne hR] at h
    exact .inl (by rw [h])
  · obtain ⟨insideL, rfl, hL⟩ := hl
    rw [unwrap_of_closesAll hne hL, unwrap_of_not_isEnclosed hne hr] at h
    exact .inr (.inl (by rw [h]))
  · obtain ⟨insideR, rfl, hR⟩ := hr
    rw [unwrap_of_closesAll hne hR, unwrap_of_not_isEnclosed hne hl] at h
    exact .inr (.inr (by rw [h]))
  · rw [unwrap_of_not_isEnclosed hne hl, unwrap_of_not_isEnclosed hne hr] at h
    exact .inl h

/-! ## Matching by a stack -/

/-- How far parentheses have been matched: the place of the next letter, the places of the opening
letters that wait for a partner, the last one first, and the pairs so far. -/
structure Matching where
  place : Nat
  waiting : List Nat
  pairs : List (Nat × Nat)

/-- Matches one more letter. A closing letter takes the opening one that has waited least; where none
waits it has no partner. -/
def matchStep (opening closing : α) (m : Matching) (letter : α) : Option Matching :=
  if letter = opening then some ⟨m.place + 1, m.place :: m.waiting, m.pairs⟩
  else if letter = closing then
    match m.waiting with
    | [] => none
    | partner :: others => some ⟨m.place + 1, others, (partner, m.place) :: m.pairs⟩
  else some ⟨m.place + 1, m.waiting, m.pairs⟩

/-- Matches a word from a given state on. -/
def matchAll (opening closing : α) (m : Matching) (letters : List α) : Option Matching :=
  letters.foldlM (matchStep opening closing) m

/-- The pairs of places that belong together, if the parentheses of the word are balanced. -/
def pairs? (opening closing : α) (letters : List α) : Option (List (Nat × Nat)) :=
  match matchAll opening closing ⟨0, [], []⟩ letters with
  | some ⟨_, [], pairs⟩ => some pairs
  | _ => none

/-- There are pairs if all letters can be matched and none is left open. -/
theorem pairs?_eq_some_iff {letters : List α} {pairs : List (Nat × Nat)} :
    pairs? opening closing letters = some pairs
      ↔ ∃ place, matchAll opening closing ⟨0, [], []⟩ letters = some ⟨place, [], pairs⟩ := by
  unfold pairs?
  constructor
  · intro h
    split at h
    · next place found hall =>
      obtain rfl := Option.some.inj h
      exact ⟨place, hall⟩
    · cases h
  · rintro ⟨place, hall⟩
    rw [hall]

/-- All that one letter can do. -/
theorem matchStep_cases {m m' : Matching} {letter : α}
    (h : matchStep opening closing m letter = some m') :
    (letter = opening ∧ m' = ⟨m.place + 1, m.place :: m.waiting, m.pairs⟩)
      ∨ (letter ≠ opening ∧ letter = closing ∧ ∃ partner others, m.waiting = partner :: others
          ∧ m' = ⟨m.place + 1, others, (partner, m.place) :: m.pairs⟩)
      ∨ (letter ≠ opening ∧ letter ≠ closing ∧ m' = ⟨m.place + 1, m.waiting, m.pairs⟩) := by
  unfold matchStep at h
  split at h
  · next hopen => exact .inl ⟨hopen, (Option.some.inj h).symm⟩
  · next hopen =>
    split at h
    · next hclose =>
      split at h
      · cases h
      · next partner others hwaiting =>
        exact .inr (.inl ⟨hopen, hclose, partner, others, hwaiting, (Option.some.inj h).symm⟩)
    · next hclose => exact .inr (.inr ⟨hopen, hclose, (Option.some.inj h).symm⟩)

/-- Letters are matched one after the other. -/
theorem matchAll_cons {m m' : Matching} {letter : α} {rest : List α} :
    matchAll opening closing m (letter :: rest) = some m'
      ↔ ∃ next, matchStep opening closing m letter = some next
          ∧ matchAll opening closing next rest = some m' := by
  unfold matchAll
  rw [List.foldlM_cons]
  exact Option.bind_eq_some_iff

/-- So are two rows of them. -/
theorem matchAll_append {m m' : Matching} {front back : List α} :
    matchAll opening closing m (front ++ back) = some m'
      ↔ ∃ next, matchAll opening closing m front = some next
          ∧ matchAll opening closing next back = some m' := by
  unfold matchAll
  rw [List.foldlM_append]
  exact Option.bind_eq_some_iff

/-- What matching a word does to the state: places move on by its length, what waits afterwards makes
up the difference of the counts, old places only ever leave, and new pairs close inside the word. -/
structure Matching.Advances (opening closing : α) (m : Matching) (letters : List α) (m' : Matching) :
    Prop where
  place : m'.place = m.place + letters.length
  waiting : m'.waiting.length + letters.count closing = m.waiting.length + letters.count opening
  old : ∀ place ∈ m'.waiting, place < m.place → place ∈ m.waiting
  new : ∀ pair ∈ m'.pairs, pair ∈ m.pairs ∨ pair.2 < m'.place

/-- One letter does so. -/
theorem Matching.Advances.step (hne : opening ≠ closing) {m m' : Matching} {letter : α}
    (h : matchStep opening closing m letter = some m') :
    Matching.Advances opening closing m [letter] m' := by
  obtain ⟨rfl, rfl⟩ | ⟨hopen, rfl, partner, others, hwaiting, rfl⟩ | ⟨hopen, hclose, rfl⟩ :=
    matchStep_cases h
  · exact ⟨rfl, by simp [hne], by grind, by grind⟩
  · exact ⟨rfl, by simp [hwaiting, hopen], by grind, by grind⟩
  · exact ⟨rfl, by simp [hopen, hclose], by grind, by grind⟩

/-- Words one after the other do so if each does. -/
theorem Matching.Advances.trans {m next m' : Matching} {front back : List α}
    (hfront : Matching.Advances opening closing m front next)
    (hback : Matching.Advances opening closing next back m') :
    Matching.Advances opening closing m (front ++ back) m' where
  place := by
    rw [hback.place, hfront.place, List.length_append, Nat.add_assoc]
  waiting := by
    have h1 := hfront.waiting
    have h2 := hback.waiting
    rw [List.count_append, List.count_append]
    omega
  old := by
    intro place hplace hlt
    have hearlier : place < next.place := by rw [hfront.place]; omega
    exact hfront.old place (hback.old place hplace hearlier) hlt
  new := by
    -- a pair of the second part is its own, or was waiting since before the first part
    intro pair hpair
    rcases hback.new pair hpair with hpair | hlt
    · refine (hfront.new pair hpair).imp_right fun hlt => ?_
      rw [hback.place]
      omega
    · exact .inr hlt

/-- Every word does so, letter by letter. -/
theorem Matching.Advances.all (hne : opening ≠ closing) {m m' : Matching} {letters : List α}
    (h : matchAll opening closing m letters = some m') :
    Matching.Advances opening closing m letters m' := by
  induction letters generalizing m with
  | nil =>
    obtain rfl : m = m' := Option.some.inj h
    exact ⟨rfl, rfl, fun _ hplace _ => hplace, fun _ hpair => .inl hpair⟩
  | cons letter rest ih =>
    obtain ⟨next, hstep, hrest⟩ := matchAll_cons.mp h
    exact (Matching.Advances.step hne hstep).trans (ih hrest)

/-- An opening letter below all that wait stays there, or some back part of the word starts with none
waiting and opens all that wait at the end. Induction on the word: the back part begins behind the
letter that takes the lowest one. -/
theorem exists_suffix_of_lowest (hne : opening ≠ closing) {m m' : Matching} {letters : List α}
    {above : List Nat} {lowest : Nat} (hwaiting : m.waiting = above ++ [lowest])
    (h : matchAll opening closing m letters = some m') :
    (∃ above', m'.waiting = above' ++ [lowest])
      ∨ ∃ back, back <:+ letters
          ∧ m'.waiting.length + back.count closing = back.count opening := by
  induction letters generalizing m above with
  | nil =>
    obtain rfl : m = m' := Option.some.inj h
    exact .inl ⟨above, hwaiting⟩
  | cons letter rest ih =>
    obtain ⟨next, hstep, hrest⟩ := matchAll_cons.mp h
    have hlater (h : (∃ above', m'.waiting = above' ++ [lowest]) ∨ ∃ back, back <:+ rest
        ∧ m'.waiting.length + back.count closing = back.count opening) :
        (∃ above', m'.waiting = above' ++ [lowest]) ∨ ∃ back, back <:+ letter :: rest
          ∧ m'.waiting.length + back.count closing = back.count opening :=
      h.imp_right fun ⟨back, hback, hcount⟩ => ⟨back, hback.trans (List.suffix_cons _ _), hcount⟩
    obtain ⟨-, rfl⟩ | ⟨-, -, partner, others, hpartner, rfl⟩ | ⟨-, -, rfl⟩ := matchStep_cases hstep
    · have hwaiting' : m.place :: m.waiting = (m.place :: above) ++ [lowest] :=
        congrArg (m.place :: ·) hwaiting
      exact hlater (ih hwaiting' hrest)
    · rw [hwaiting] at hpartner
      cases above with
      | nil =>
        -- the lowest one is taken, and nothing waits behind this letter
        obtain ⟨-, rfl⟩ := List.cons.inj hpartner
        have hcount := (Matching.Advances.all hne hrest).waiting
        exact .inr ⟨rest, List.suffix_cons _ _, by simpa using hcount⟩
      | cons first above =>
        obtain ⟨-, rfl⟩ := List.cons.inj hpartner
        exact hlater (ih rfl hrest)
    · exact hlater (ih (m := ⟨m.place + 1, m.waiting, m.pairs⟩) hwaiting hrest)

/-- An opening letter that waits before a word and behind it waits all the time, so the word closes all
that it opens if nothing else waits behind it. -/
theorem closesAll_of_waiting (hne : opening ≠ closing) {m m' : Matching} {letters : List α}
    {place : Nat} (hplace : place < m.place) (hwaiting : m'.waiting = [place])
    (h : matchAll opening closing m letters = some m') : ClosesAll opening closing letters := by
  rintro back ⟨front, rfl⟩
  obtain ⟨next, hfront, hback⟩ := matchAll_append.mp h
  have hbehind := Matching.Advances.all hne hback
  have hlt : place < next.place := by
    rw [(Matching.Advances.all hne hfront).place]
    omega
  have hmem : place ∈ next.waiting := hbehind.old place (by rw [hwaiting]; exact List.mem_cons_self) hlt
  have hpos := List.length_pos_of_mem hmem
  have hcount := hbehind.waiting
  rw [hwaiting, List.length_singleton] at hcount
  omega

/-- The last letter has its partner in the first one if what lies between closes all that it opens. -/
theorem mem_pairs_of_isEnclosed (hne : opening ≠ closing) {letters : List α}
    {pairs : List (Nat × Nat)} (h : pairs? opening closing letters = some pairs)
    (henclosed : IsEnclosed opening closing letters) : (0, letters.length - 1) ∈ pairs := by
  obtain ⟨inside, rfl, hcloses⟩ := henclosed
  obtain ⟨place, hall⟩ := pairs?_eq_some_iff.mp h
  obtain ⟨first, hfirst, hrest⟩ := matchAll_cons.mp hall
  obtain rfl : first = ⟨1, [0], []⟩ := by simpa [matchStep] using hfirst.symm
  obtain ⟨m, hinside, hlast⟩ := matchAll_append.mp hrest
  obtain ⟨_, hlast, hend⟩ := matchAll_cons.mp hlast
  obtain rfl := Option.some.inj hend
  obtain ⟨hopen, -⟩ | ⟨-, -, partner, others, hwaiting, hm⟩ | ⟨-, hclose, -⟩ := matchStep_cases hlast
  · exact absurd hopen.symm hne
  · obtain ⟨-, rfl, rfl⟩ := Matching.mk.inj hm
    -- one letter waits for the last one: the first of the word, or one behind it
    have hlowest : [0] = [] ++ [0] := rfl
    obtain ⟨above, habove⟩ | ⟨back, hback, hcount⟩ := exists_suffix_of_lowest hne hlowest hinside
    · rw [hwaiting] at habove
      obtain rfl : partner = 0 := by
        cases above with
        | nil => exact (List.cons.inj habove).1
        | cons _ above => exact absurd (List.cons.inj habove).2 (by simp)
      have hlength : (opening :: (inside ++ [closing])).length - 1 = m.place := by
        simp [(Matching.Advances.all hne hinside).place, Nat.add_comm]
      rw [hlength]
      exact List.mem_cons_self
    · have hle := hcloses back hback
      rw [hwaiting, List.length_singleton] at hcount
      omega
  · exact absurd rfl hclose

/-- A word whose last letter has its partner in the first one is in an outer pair. -/
theorem isEnclosed_of_mem_pairs (hne : opening ≠ closing) {letters : List α}
    {pairs : List (Nat × Nat)} (h : pairs? opening closing letters = some pairs)
    (hmem : (0, letters.length - 1) ∈ pairs) : IsEnclosed opening closing letters := by
  obtain ⟨place, hall⟩ := pairs?_eq_some_iff.mp h
  rcases List.eq_nil_or_concat letters with rfl | ⟨front, last, rfl⟩
  · obtain rfl : [] = pairs := congrArg Matching.pairs (Option.some.inj hall)
    cases hmem
  rw [List.concat_eq_append] at hall hmem ⊢
  rw [List.length_append, List.length_singleton, Nat.add_sub_cancel] at hmem
  obtain ⟨m, hfront, hlast⟩ := matchAll_append.mp hall
  obtain ⟨_, hlast, hend⟩ := matchAll_cons.mp hlast
  obtain rfl := Option.some.inj hend
  have hadvances := Matching.Advances.all hne hfront
  have hplace : m.place = front.length := hadvances.place.trans (Nat.zero_add _)
  have hnew : (0, front.length) ∉ m.pairs := by
    intro hold
    rcases hadvances.new _ hold with hnone | hlt
    · cases hnone
    · exact absurd (hplace ▸ hlt) (Nat.lt_irrefl _)
  -- so the last letter makes that pair
  obtain ⟨-, hm⟩ | ⟨-, rfl, partner, others, hwaiting, hm⟩ | ⟨-, -, hm⟩ := matchStep_cases hlast
  · cases (Matching.mk.inj hm).2.1
  · obtain ⟨-, rfl, rfl⟩ := Matching.mk.inj hm
    obtain rfl : partner = 0 := by
      rcases List.mem_cons.mp hmem with hpair | hold
      · exact (Prod.mk.inj hpair).1.symm
      · exact absurd hold hnew
    have hzero : 0 ∈ m.waiting := by rw [hwaiting]; exact List.mem_cons_self
    cases front with
    | nil =>
      obtain rfl := Option.some.inj hfront
      cases hwaiting
    | cons first inside =>
      obtain ⟨next, hfirst, hinside⟩ := matchAll_cons.mp hfront
      obtain ⟨rfl, rfl⟩ | ⟨-, -, _, _, hnone, -⟩ | ⟨-, -, rfl⟩ := matchStep_cases hfirst
      · exact ⟨inside, rfl, closesAll_of_waiting hne Nat.one_pos hwaiting hinside⟩
      · cases hnone
      · -- nothing ever waits at the place of a letter that opens nothing
        cases (Matching.Advances.all hne hinside).old 0 hzero Nat.one_pos
  · obtain ⟨-, -, rfl⟩ := Matching.mk.inj hm
    exact absurd hmem hnew

end Depth

/-! ## Bytes -/

namespace Signature

theorem openingByte_ne_closingByte : openingByte ≠ closingByte := by decide

/-- **What any bytes are without their outer parentheses.** They are the inside of a pair if every back
part of the inside closes all that it opens, and the bytes themselves otherwise. Where parentheses are
balanced, a pair is lost exactly if the stack matches the first byte and the last. And signatures that
pass for equivalent are the same, or one of them is the other in one pair. -/
theorem core_exact (d l r : List UInt8) :
    (∀ inside, d = openingByte :: (inside ++ [closingByte]) →
        ClosesAll openingByte closingByte inside → (bytes d).core = inside)
      ∧ (¬ IsEnclosed openingByte closingByte d → (bytes d).core = d)
      ∧ (∀ pairs, pairs? openingByte closingByte d = some pairs →
          ((bytes d).core ≠ d ↔ (0, d.length - 1) ∈ pairs))
      ∧ ((bytes l).equivalent (bytes r) = true →
          l = r ∨ l = openingByte :: (r ++ [closingByte]) ∨ r = openingByte :: (l ++ [closingByte])) := by
  have hne := openingByte_ne_closingByte
  refine ⟨?inside, unwrap_of_not_isEnclosed hne, ?matched, ?equivalent⟩
  case inside =>
    rintro inside rfl hcloses
    exact unwrap_of_closesAll hne hcloses
  case matched =>
    intro pairs hpairs
    refine (unwrap_ne_self_iff hne).trans ⟨?_, ?_⟩
    · exact mem_pairs_of_isEnclosed hne hpairs
    · exact isEnclosed_of_mem_pairs hne hpairs
  case equivalent =>
    intro h
    exact eq_or_wrapped_of_unwrap_eq hne (beq_iff_eq.mp h)

/-- Of `(i))` the outer parentheses are lost although they are no pair of each other, so that it passes
for `i)`. Two structs in a row keep theirs. -/
theorem core_malformed :
    (bytes [0x28, 0x69, 0x29, 0x29]).core = [0x69, 0x29]
      ∧ (bytes [0x28, 0x69, 0x29, 0x29]).equivalent (bytes [0x69, 0x29]) = true
      ∧ [0x28, 0x69, 0x29, 0x29] = openingByte :: ([0x69, 0x29] ++ [closingByte])
      ∧ pairs? openingByte closingByte [0x28, 0x69, 0x29, 0x28, 0x69, 0x29] = some [(3, 5), (0, 2)]
      ∧ (bytes [0x28, 0x69, 0x29, 0x28, 0x69, 0x29]).core = [0x28, 0x69, 0x29, 0x28, 0x69, 0x29] := by
  have hequal : (bytes [0x28, 0x69, 0x29, 0x29]).equivalent (bytes [0x69, 0x29]) = true := by decide
  have hpairs : pairs? openingByte closingByte [0x28, 0x69, 0x29, 0x28, 0x69, 0x29]
      = some [(3, 5), (0, 2)] := by decide
  obtain ⟨hinside, -, -, hapart⟩ := core_exact [0x28, 0x69, 0x29, 0x29] [0x28, 0x69, 0x29, 0x29] [0x69, 0x29]
  obtain ⟨-, -, hmatched, -⟩ := core_exact [0x28, 0x69, 0x29, 0x28, 0x69, 0x29] [] []
  refine ⟨hinside [0x69, 0x29] rfl (by decide), hequal, ?_, hpairs, ?_⟩
  · rcases hapart hequal with h | h | h
    · exact absurd h (by decide)
    · exact h
    · exact absurd h (by decide)
  · by_contra hless
    exact absurd ((hmatched _ hpairs).mp hless) (by decide)

end Signature

end BusContract
