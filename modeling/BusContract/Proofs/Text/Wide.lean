import BusContract.Text.Wide

/-!
# Texts of characters alone

A text of characters alone is what it was before any text could hold halves of surrogate pairs: it is taken
for itself wherever only characters can be, and two of them are the same only if their characters are.
-/

namespace BusContract

/-- Where nothing is changed and nothing is missing all items stay what they are. -/
theorem mapM_eq_some_self {α : Type} {f : α → Option α} (h : ∀ a, f a = some a) (items : List α) :
    items.mapM f = some items := by
  induction items with
  | nil => rfl
  | cons a items ih => simp [h, ih]

namespace WideText

/-- A text of characters is one. -/
@[simp]
theorem text?_ofText (text : String) : (ofText text).text? = some text := by
  simp [text?, ofText, ofChars, mapM_eq_some_self (f := TextPoint.char? ∘ TextPoint.char) fun _ => rfl]

/-- It is spelled as it is. -/
@[simp]
theorem spelled?_ofText (text : String) : (ofText text).spelled? = some text := by
  rw [spelled?, text?_ofText]

/-- No two texts are the same when halves of pairs might be in them. -/
theorem ofText_injective : Function.Injective ofText := by
  intro a b h
  simpa using congrArg text? h

end WideText

end BusContract
