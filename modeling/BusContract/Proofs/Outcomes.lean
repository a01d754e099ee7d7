import Mathlib.Data.List.Forall2

/-!
# Outcomes

An outcome is a value or a fault. Naming faults anew changes no value, and keeps the faults apart if
the new names do. Steps that can each fail in some ways only fail in no other way together. What is
done to each element of a row, and stopped at the first that it cannot be done to, comes to a row of
values exactly if it comes to each of them.
-/

namespace BusContract

variable {ε ε' α β : Type}

theorem mapError_ok (a : α) (f : ε → ε') : (Except.ok a : Except ε α).mapError f = .ok a := rfl

theorem mapError_error (e : ε) (f : ε → ε') : (Except.error e : Except ε α).mapError f = .error (f e) := rfl

/-- Naming faults anew changes no value. -/
theorem mapError_eq_ok_iff {x : Except ε α} {f : ε → ε'} {a : α} :
    x.mapError f = .ok a ↔ x = .ok a := by
  cases x with
  | ok b =>
    show Except.ok b = Except.ok a ↔ _
    exact ⟨fun h => congrArg _ (Except.ok.inj h), fun h => congrArg _ (Except.ok.inj h)⟩
  | error e => exact ⟨nofun, nofun⟩

/-- Naming faults anew keeps them apart if the new names do. -/
theorem mapError_eq_error_iff {x : Except ε α} {f : ε → ε'} {e : ε}
    (hf : ∀ {a b}, f a = f b → a = b) : x.mapError f = .error (f e) ↔ x = .error e := by
  cases x with
  | ok b => exact ⟨nofun, nofun⟩
  | error e' =>
    constructor
    · intro h
      rw [hf (Except.error.inj h)]
    · intro h
      rw [h]
      rfl

/-- A value comes of a value. -/
theorem map_eq_ok_iff {x : Except ε α} {f : α → β} {b : β} :
    x.map f = .ok b ↔ ∃ a, x = .ok a ∧ b = f a := by
  cases x with
  | error fault => exact ⟨nofun, nofun⟩
  | ok a =>
    constructor
    · intro h
      exact ⟨a, rfl, (Except.ok.inj h).symm⟩
    · rintro ⟨a', ha, rfl⟩
      cases ha
      rfl

/-- A fault stays what it is. -/
theorem map_eq_error_iff {x : Except ε α} {f : α → β} {e : ε} : x.map f = .error e ↔ x = .error e := by
  cases x with
  | error fault =>
    constructor
    · intro h
      exact congrArg Except.error (Except.error.inj h)
    · intro h
      exact congrArg Except.error (Except.error.inj h)
  | ok a => exact ⟨nofun, nofun⟩

/-- Two steps succeed if both do. -/
theorem bind_eq_ok_iff {x : Except ε α} {f : α → Except ε β} {b : β} :
    (x >>= f) = .ok b ↔ ∃ a, x = .ok a ∧ f a = .ok b := by
  cases x with
  | error fault => simp [bind, Except.bind]
  | ok a => simp [bind, Except.bind]

/-- They fail where the first of them fails that does. -/
theorem bind_eq_error_iff {x : Except ε α} {f : α → Except ε β} {e : ε} :
    (x >>= f) = .error e ↔ x = .error e ∨ ∃ a, x = .ok a ∧ f a = .error e := by
  cases x with
  | error fault => simp [bind, Except.bind]
  | ok a => simp [bind, Except.bind]

/-! ## Outcomes that agree -/

theorem toOption_eq_some_iff {x : Except ε α} {a : α} : x.toOption = some a ↔ x = .ok a := by
  cases x with
  | error fault => exact ⟨nofun, nofun⟩
  | ok b =>
    exact ⟨fun h => congrArg Except.ok (Option.some.inj h), fun h => congrArg some (Except.ok.inj h)⟩

theorem toOption_eq_none_iff {x : Except ε α} : x.toOption = none ↔ ∃ fault, x = .error fault := by
  cases x with
  | error fault => exact ⟨fun _ => ⟨fault, rfl⟩, fun _ => rfl⟩
  | ok b => exact ⟨nofun, nofun⟩

theorem toOption_map (x : Except ε α) (f : α → β) : (x.map f).toOption = x.toOption.map f := by
  cases x <;> rfl

/-- How a fault is told makes no difference to the value. -/
theorem toOption_mapError (x : Except ε α) (f : ε → ε') : (x.mapError f).toOption = x.toOption := by
  cases x <;> rfl

/-- Are the values the same if there are any, unless one of the outcomes is a fault of a kind that is
let pass? -/
def AgreeUnless (excused : ε → Prop) (x y : Except ε α) : Prop :=
  (∃ fault, x = .error fault ∧ excused fault) ∨ (∃ fault, y = .error fault ∧ excused fault)
    ∨ x.toOption = y.toOption

theorem AgreeUnless.refl {excused : ε → Prop} (x : Except ε α) : AgreeUnless excused x x :=
  .inr (.inr rfl)

/-! ## Outcomes that are values -/

/-- Is the outcome a value? -/
def Succeeds (x : Except ε α) : Prop := ∃ a, x = .ok a

/-- What does not succeed fails. -/
theorem not_succeeds_iff {x : Except ε α} : ¬ Succeeds x ↔ ∃ fault, x = .error fault := by
  cases x with
  | error fault => exact ⟨fun _ => ⟨fault, rfl⟩, fun _ ⟨_, h⟩ => nomatch h⟩
  | ok a => exact ⟨fun h => absurd ⟨a, rfl⟩ h, fun ⟨_, h⟩ => nomatch h⟩

theorem succeeds_pure (a : α) : Succeeds (pure a : Except ε α) := ⟨a, rfl⟩

/-- Two steps come to a value if both do, where the second one does or does not whatever the first
one gives. -/
theorem succeeds_bind_iff {x : Except ε α} {f : α → Except ε β} {P Q : Prop} (hx : Succeeds x ↔ P)
    (hf : ∀ a, Succeeds (f a) ↔ Q) : Succeeds (x >>= f) ↔ P ∧ Q := by
  rw [← hx]
  constructor
  · rintro ⟨b, h⟩
    obtain ⟨a, ha, hb⟩ := bind_eq_ok_iff.mp h
    exact ⟨⟨a, ha⟩, (hf a).mp ⟨b, hb⟩⟩
  · rintro ⟨⟨a, ha⟩, hq⟩
    obtain ⟨b, hb⟩ := (hf a).mpr hq
    exact ⟨b, bind_eq_ok_iff.mpr ⟨a, ha, hb⟩⟩

/-- What is made of a value in the end does not count. -/
theorem succeeds_bind_pure_iff {x : Except ε α} {f : α → β} :
    Succeeds (x >>= fun a => pure (f a)) ↔ Succeeds x := by
  rw [succeeds_bind_iff Iff.rfl fun a => iff_true_intro (succeeds_pure (f a)), and_true]

/-! ## Faults of one kind -/

section FailsOnly

variable {P : ε → Prop} {x : Except ε α}

/-- Is the outcome a value, or a fault of the kind? -/
def FailsOnly (P : ε → Prop) (x : Except ε α) : Prop := ∀ e, x = .error e → P e

@[simp] theorem failsOnly_ok (a : α) : FailsOnly P (.ok a) := nofun

@[simp] theorem failsOnly_pure (a : α) : FailsOnly P (pure a : Except ε α) := nofun

/-- A fault is of the kind or not. -/
@[simp] theorem failsOnly_error_iff {e : ε} : FailsOnly P (.error e : Except ε α) ↔ P e := by
  simp [FailsOnly]

/-- Of two steps the second one counts where the first one comes to a value. -/
@[simp] theorem failsOnly_bind_iff {f : α → Except ε β} :
    FailsOnly P (x >>= f) ↔ FailsOnly P x ∧ ∀ a, x = .ok a → FailsOnly P (f a) := by
  cases x with
  | error e => simp [bind, Except.bind]
  | ok a => simp [bind, Except.bind]

@[simp] theorem failsOnly_map_iff {f : α → β} : FailsOnly P (x.map f) ↔ FailsOnly P x := by
  cases x with
  | error e => simp [Except.map]
  | ok a => simp [Except.map]

@[simp] theorem failsOnly_functorMap_iff {f : α → β} : FailsOnly P (f <$> x) ↔ FailsOnly P x :=
  failsOnly_map_iff

/-- Both branches have to fail for nothing else. -/
@[simp] theorem failsOnly_ite_iff {c : Prop} [Decidable c] {y : Except ε α} :
    FailsOnly P (if c then x else y) ↔ (c → FailsOnly P x) ∧ (¬ c → FailsOnly P y) := by
  split <;> simp [*]

end FailsOnly

/-! ## Rows -/

/-- A row of values comes of a row exactly if each value comes of its element. -/
theorem mapM_eq_ok_iff {f : α → Except ε β} {xs : List α} {ys : List β} :
    xs.mapM f = .ok ys ↔ List.Forall₂ (fun x y => f x = .ok y) xs ys := by
  induction xs generalizing ys with
  | nil => cases ys <;> simp [pure, Except.pure]
  | cons x xs ih =>
    rw [List.mapM_cons, bind_eq_ok_iff]
    simp only [bind_eq_ok_iff, ih, pure, Except.pure, Except.ok.injEq]
    constructor
    · rintro ⟨y, hy, ys, hys, rfl⟩
      exact .cons hy hys
    · intro h
      cases h with
      | cons hy hys => exact ⟨_, hy, _, hys, rfl⟩

/-- A row comes to a row of values exactly if each element comes to a value. -/
theorem succeeds_mapM_iff {f : α → Except ε β} {xs : List α} :
    Succeeds (xs.mapM f) ↔ ∀ x ∈ xs, Succeeds (f x) := by
  induction xs with
  | nil => exact iff_of_true ⟨[], rfl⟩ (List.forall_mem_nil _)
  | cons x xs ih =>
    rw [List.mapM_cons, List.forall_mem_cons]
    exact succeeds_bind_iff Iff.rfl fun y => succeeds_bind_pure_iff.trans ih

/-- Only what is done with the elements of a row counts. -/
theorem mapM_congr {f g : α → Except ε β} {xs : List α} (h : ∀ x ∈ xs, f x = g x) :
    xs.mapM f = xs.mapM g := by
  induction xs with
  | nil => rfl
  | cons x xs ih =>
    have hx := h x List.mem_cons_self
    have hxs := ih fun y hy => h y (List.mem_cons_of_mem x hy)
    rw [List.mapM_cons, List.mapM_cons, hx, hxs]

/-- A row fails where its first element does that fails. -/
theorem mapM_eq_error_iff {f : α → Except ε β} {xs : List α} {e : ε} :
    xs.mapM f = .error e ↔
      ∃ before x after, xs = before ++ x :: after ∧ (∀ y ∈ before, Succeeds (f y)) ∧ f x = .error e := by
  induction xs with
  | nil => simp [pure, Except.pure]
  | cons x xs ih =>
    rw [List.mapM_cons, bind_eq_error_iff]
    simp only [bind_eq_error_iff, ih, pure, Except.pure, reduceCtorEq, and_false, exists_false, or_false]
    constructor
    · -- the first step fails, or it succeeds and the rest fails somewhere
      rintro (hx | ⟨y, hy, before, z, after, rfl, hbefore, hz⟩)
      · exact ⟨[], x, xs, rfl, List.forall_mem_nil _, hx⟩
      · exact ⟨x :: before, z, after, rfl, List.forall_mem_cons.mpr ⟨⟨y, hy⟩, hbefore⟩, hz⟩
    · rintro ⟨before, z, after, hxs, hbefore, hz⟩
      cases before with
      | nil =>
        obtain ⟨rfl, rfl⟩ := List.cons.inj hxs
        exact .inl hz
      | cons y before =>
        obtain ⟨rfl, rfl⟩ := List.cons.inj hxs
        obtain ⟨⟨b, hb⟩, hrest⟩ := List.forall_mem_cons.mp hbefore
        exact .inr ⟨b, hb, before, z, after, rfl, hrest, hz⟩

/-- A row fails for one of its elements. -/
theorem exists_mem_of_mapM_error {f : α → Except ε β} {xs : List α} {e : ε}
    (h : xs.mapM f = .error e) : ∃ x ∈ xs, f x = .error e := by
  obtain ⟨before, x, after, rfl, -, hx⟩ := mapM_eq_error_iff.mp h
  exact ⟨x, List.mem_append_right before List.mem_cons_self, hx⟩

/-- So it fails for nothing else than they do. -/
theorem failsOnly_mapM {P : ε → Prop} {f : α → Except ε β} {xs : List α}
    (h : ∀ x ∈ xs, FailsOnly P (f x)) : FailsOnly P (xs.mapM f) := fun fault hfault => by
  obtain ⟨x, hx, hfault⟩ := exists_mem_of_mapM_error hfault
  exact h x hx fault hfault

/-- What is in the result comes of an element, and the other way round. -/
theorem mem_of_mapM {f : α → Except ε β} {xs : List α} {ys : List β} (h : xs.mapM f = .ok ys)
    {y : β} : y ∈ ys ↔ ∃ x ∈ xs, f x = .ok y := by
  have hrows := mapM_eq_ok_iff.mp h
  clear h
  induction hrows with
  | nil => simp
  | @cons x y' xs ys hy _ ih =>
    rw [List.mem_cons, List.exists_mem_cons_iff, hy, Except.ok.injEq, @eq_comm _ y' y]
    exact or_congr_right ih

/-- What single elements come to is gathered from the rows. -/
theorem mem_flatten_of_mapM {f : α → Except ε (List β)} {xs : List α} {rows : List (List β)}
    (h : xs.mapM f = .ok rows) {y : β} : y ∈ rows.flatten ↔ ∃ x ∈ xs, ∃ row, f x = .ok row ∧ y ∈ row := by
  rw [List.mem_flatten]
  constructor
  · rintro ⟨row, hrow, hy⟩
    obtain ⟨x, hx, hf⟩ := (mem_of_mapM h).mp hrow
    exact ⟨x, hx, row, hf, hy⟩
  · rintro ⟨x, hx, row, hf, hy⟩
    exact ⟨row, (mem_of_mapM h).mpr ⟨x, hx, hf⟩, hy⟩

/-! ## Rows side by side -/

section SideBySide

variable {γ : Type} {R : α → β → Prop} {xs : List α} {ys : List β}

theorem map_eq_map_of_forall₂ {f : α → γ} {g : β → γ} (h : List.Forall₂ R xs ys)
    (hfg : ∀ x y, R x y → f x = g y) : xs.map f = ys.map g := by
  induction h with
  | nil => rfl
  | cons hxy _ ih => rw [List.map_cons, List.map_cons, hfg _ _ hxy, ih]

/-- Rows whose elements come to the same come to the same. -/
theorem mapM_eq_mapM_of_forall₂ {f : α → Except ε γ} {g : β → Except ε γ} (h : List.Forall₂ R xs ys)
    (hfg : ∀ x y, R x y → f x = g y) : xs.mapM f = ys.mapM g := by
  induction h with
  | nil => rfl
  | cons hxy _ ih => rw [List.mapM_cons, List.mapM_cons, hfg _ _ hxy, ih]

/-- A relation that can be chained can be for rows. -/
theorem forall₂_trans {R : α → α → Prop} {xs ys zs : List α}
    (htrans : ∀ {x y z}, R x y → R y z → R x z) (h : List.Forall₂ R xs ys)
    (h' : List.Forall₂ R ys zs) : List.Forall₂ R xs zs := by
  induction h generalizing zs with
  | nil => exact h'
  | cons hxy _ ih =>
    cases h' with
    | cons hyz hrest => exact .cons (htrans hxy hyz) (ih hrest)

/-- Each element is related to some other. -/
theorem exists_of_mem_of_forall₂ (h : List.Forall₂ R xs ys) {x : α} (hx : x ∈ xs) :
    ∃ y, R x y := by
  obtain ⟨n, hn, rfl⟩ := List.getElem_of_mem hx
  have hn' : n < ys.length := by rwa [← h.length_eq]
  exact ⟨ys[n], h.get hn hn'⟩

end SideBySide

/-! ## Selections from rows -/

/-- What is selected from rows, one after the other, is selected from each of them. -/
theorem filter_flatMap_eq {γ : Type} {xs : List α} {accept : α → Bool} {f : α → List β}
    {g : α → List γ} {test : β → Bool} {shown : γ → β}
    (h : ∀ x, (f x).filter test = if accept x then (g x).map shown else []) :
    (xs.flatMap f).filter test = ((xs.filter accept).flatMap g).map shown := by
  induction xs with
  | nil => rfl
  | cons x xs ih =>
    rw [List.flatMap_cons, List.filter_append, h, ih, List.filter_cons]
    split <;> simp

/-- To keep some is to leave out the others. -/
theorem flatten_map_ite {xs : List α} {accept : α → Bool} {f : α → β} :
    (xs.map fun x => if accept x then [f x] else []).flatten = (xs.filter accept).map f := by
  induction xs with
  | nil => rfl
  | cons x xs ih =>
    rw [List.map_cons, List.flatten_cons, ih, List.filter_cons]
    split <;> rfl

theorem filterAuxM_cons (f : α → Except ε Bool) (x : α) (xs kept : List α) :
    List.filterAuxM f (x :: xs) kept
      = f x >>= fun b => List.filterAuxM f xs (cond b (x :: kept) kept) := rfl

end BusContract
