import BusContract.CommandLine.Commands
import BusContract.Proofs.Outcomes

/-!
# Operands are given

Words are taken one after the other, and at every moment the operands of a command are divided: those that
came are given, each with a word that it allows, and the others are still to come. Options do not get in
their way, since they go by other names. So when a command line is read in the end, every operand that the
command cannot do without is given.

* `takeOperands_keeps`, `takeOption_keeps`: what one step keeps.
* `Command.Keeps.takeWords`: what all steps keep.
* **`Command.gives_of_read`**: a command line that is read gives every operand.
-/

namespace BusContract

/-! ## What is kept -/

/-- Is the operand given, with a word that it allows? -/
def Said.Gives (said : Said) : Operand → Prop
  | .free name => ∃ text, said.values.lookup name = some text
  | .choice name allowed => ∃ text ∈ allowed, said.values.lookup name = some text
  | .command _ _ => ∃ command, said.command = some command

/-- Do the operands and options of a command go by different names? -/
structure Command.TellsApart (c : Command) : Prop where
  operands : (c.operands.map Operand.name).Nodup
  options : ∀ o ∈ c.options, o.title ∉ c.operands.map Operand.name

instance (c : Command) : Decidable c.TellsApart :=
  decidable_of_iff ((c.operands.map Operand.name).Nodup
      ∧ ∀ o ∈ c.options, o.title ∉ c.operands.map Operand.name)
    ⟨fun ⟨h, h'⟩ => ⟨h, h'⟩, fun ⟨h, h'⟩ => ⟨h, h'⟩⟩

/-- Is a command only taken for one that is allowed? -/
def Command.Allows (c : Command) (said : Said) : Prop :=
  ∀ text rest, said.command = some (text, rest) →
    ∃ name allowed, .command name allowed ∈ c.operands ∧ text ∈ allowed

/-- Are the operands that are not awaited any more all given, and is a command only taken for one that is
allowed? -/
structure Command.Keeps (c : Command) (said : Said) : Prop where
  given : ∃ came, c.operands = came ++ said.awaited ∧ ∀ operand ∈ came, said.Gives operand
  allows : c.Allows said

/-- Is the word, if it is an option, one of the command? -/
def Command.Knows (c : Command) (w : Word) : Prop :=
  ∀ o spelling value, w.kind = .option o spelling value → o ∈ c.options

variable {c : Command} {said said' : Said} {words rest : List Word}

/-- A value under another name does not count. -/
theorem Said.Gives.put {operand : Operand} {name text : String} (h : said.Gives operand)
    (hname : operand.name ≠ name) :
    Said.Gives { said with values := (name, text) :: said.values } operand := by
  have hlookup (other : String) (hother : other ≠ name) :
      ((name, text) :: said.values).lookup other = said.values.lookup other := by
    rw [List.lookup_cons, beq_false_of_ne hother]
  cases operand with
  | free other =>
    obtain ⟨given, hgiven⟩ := h
    exact ⟨given, (hlookup other hname).trans hgiven⟩
  | choice other allowed =>
    obtain ⟨given, hallowed, hgiven⟩ := h
    exact ⟨given, hallowed, (hlookup other hname).trans hgiven⟩
  | command => exact h

/-- What is given stays given when a command is taken. -/
theorem Said.Gives.take {operand : Operand} {command : String × List String} {later : List Operand}
    (h : said.Gives operand) :
    Said.Gives { said with command := some command, awaited := later } operand := by
  cases operand with
  | free => exact h
  | choice => exact h
  | command => exact ⟨command, rfl⟩

/-! ## Operands -/

/-- A choice is accepted if it is one of those that are allowed. -/
theorem checkChoice_eq_ok_iff {operand : Operand} {allowed : List String} {text : String} :
    checkChoice c operand allowed text = .ok () ↔ text ∈ allowed := by
  unfold checkChoice
  split
  next h => simpa using h
  next h => simpa using h

/-- Words that are left are words that were there. -/
theorem mem_of_takeOperand {taken : List Word} {w : Word}
    (h : takeOperand words = some (taken, rest)) (hw : w ∈ rest) : w ∈ words := by
  unfold takeOperand at h
  dsimp only at h
  split at h
  next first others hdrop =>
    split at h
    · obtain ⟨-, rfl⟩ := Prod.mk.inj (Option.some.inj h)
      have hothers : w ∈ first :: others :=
        List.mem_cons_of_mem first ((List.dropWhile_sublist _).subset hw)
      exact (List.dropWhile_sublist _).subset (hdrop ▸ hothers)
    · cases h
  next => cases h

/-- Operands that came stay given when the next one gets its word. -/
theorem gives_of_put (hapart : c.TellsApart) {came later : List Operand} {operand : Operand}
    {text : String} (hoperands : c.operands = came ++ operand :: later)
    (hcame : ∀ other ∈ came, said.Gives other)
    (hnew : Said.Gives { said with values := (operand.name, text) :: said.values } operand) :
    ∀ other ∈ came ++ [operand],
      Said.Gives { said with values := (operand.name, text) :: said.values } other := by
  have hnames := hapart.operands
  rw [hoperands, List.map_append, List.map_cons, List.nodup_append] at hnames
  rw [List.forall_mem_append, List.forall_mem_singleton]
  refine ⟨fun other hother => (hcame other hother).put ?_, hnew⟩
  exact hnames.2.2 other.name (List.mem_map_of_mem hother) operand.name List.mem_cons_self

/-- Operands that were awaited and get a word are given. Induction on those that are awaited. -/
theorem takeOperands_keeps (hapart : c.TellsApart) {operands came : List Operand}
    (hoperands : c.operands = came ++ operands) (hcame : ∀ operand ∈ came, said.Gives operand)
    (hcommand : c.Allows said) (h : takeOperands c operands said words = .ok (said', rest)) :
    c.Keeps said' ∧ ∀ w ∈ rest, w ∈ words := by
  -- `came` are the operands that stand before; all of them have been given by now
  induction operands generalizing came said words with
  | nil =>
    obtain ⟨rfl, rfl⟩ := Prod.mk.inj (Except.ok.inj h)
    refine ⟨⟨⟨came, hoperands, fun operand hoperand => ?_⟩, hcommand⟩, fun _ hw => hw⟩
    exact hcame operand hoperand
  | cons operand later ih =>
    have hnext : c.operands = (came ++ [operand]) ++ later := by
      rw [hoperands, List.append_assoc, List.singleton_append]
    rw [takeOperands] at h
    cases htake : takeOperand words with
    | none =>
      rw [htake] at h
      obtain ⟨rfl, rfl⟩ := Prod.mk.inj (Except.ok.inj h)
      exact ⟨⟨⟨came, hoperands, hcame⟩, hcommand⟩, fun _ hw => hw⟩
    | some taken =>
      obtain ⟨taken, left⟩ := taken
      rw [htake] at h
      cases operand with
      | free name =>
        have hnew : Said.Gives { said with values := (name, operandText taken) :: said.values }
            (.free name) := ⟨operandText taken, List.lookup_cons_self⟩
        obtain ⟨hkeeps, hrest⟩ := ih hnext (gives_of_put hapart hoperands hcame hnew) hcommand h
        exact ⟨hkeeps, fun w hw => mem_of_takeOperand htake (hrest w hw)⟩
      | choice name allowed =>
        obtain ⟨_, hallowed, h⟩ := bind_eq_ok_iff.mp h
        have hnew : Said.Gives { said with values := (name, operandText taken) :: said.values }
            (.choice name allowed) :=
          ⟨operandText taken, checkChoice_eq_ok_iff.mp hallowed, List.lookup_cons_self⟩
        obtain ⟨hkeeps, hrest⟩ := ih hnext (gives_of_put hapart hoperands hcame hnew) hcommand h
        exact ⟨hkeeps, fun w hw => mem_of_takeOperand htake (hrest w hw)⟩
      -- the words behind a command belong to it, so that nothing is left
      | command name allowed =>
        obtain ⟨_, hallowed, h⟩ := bind_eq_ok_iff.mp h
        obtain ⟨rfl, rfl⟩ := Prod.mk.inj (Except.ok.inj h)
        have hmem := checkChoice_eq_ok_iff.mp hallowed
        refine ⟨⟨⟨came ++ [.command name allowed], hnext, ?_⟩, fun text behind htext => ?_⟩, nofun⟩
        · rw [List.forall_mem_append, List.forall_mem_singleton]
          exact ⟨fun other hother => (hcame other hother).take, _, rfl⟩
        · obtain ⟨rfl, -⟩ := Prod.mk.inj (Option.some.inj htext)
          exact ⟨name, allowed, hoperands ▸ List.mem_append_right came List.mem_cons_self, hmem⟩

/-! ## Options -/

/-- What an option does to what was said leaves the operands alone. -/
theorem Command.Keeps.obey (hapart : c.TellsApart) (h : c.Keeps said) {o : CommandOption}
    (ho : o ∈ c.options) {value : String} (hobey : said.obey c o value = .ok said') : c.Keeps said' := by
  obtain ⟨came, hoperands, hcame⟩ := h.given
  unfold Said.obey at hobey
  split at hobey
  · cases hobey
  · obtain rfl := Except.ok.inj hobey
    refine ⟨⟨came, hoperands, fun operand hoperand => ?_⟩, h.allows⟩
    have hgiven := hcame operand hoperand
    cases operand <;> exact hgiven
  · obtain rfl := Except.ok.inj hobey
    refine ⟨⟨came, hoperands, fun operand hoperand => (hcame operand hoperand).put ?_⟩, h.allows⟩
    rintro hname
    refine hapart.options o ho (hname ▸ List.mem_map_of_mem ?_)
    rw [hoperands]
    exact List.mem_append_left _ hoperand

/-- A name of an option belongs to one of the command. -/
theorem Command.mem_of_optionNames {name : String} {o : CommandOption}
    (h : (name, o) ∈ c.optionNames) : o ∈ c.options := by
  obtain ⟨o', ho', hname⟩ := List.mem_flatMap.mp h
  obtain ⟨_, -, heq⟩ := List.mem_map.mp hname
  obtain ⟨-, rfl⟩ := Prod.mk.inj heq
  exact ho'

/-- So does one that is looked up. -/
theorem Command.mem_of_named? {name : String} {o : CommandOption} (h : c.named? name = some o) :
    o ∈ c.options := by
  obtain ⟨before, after, hnames, -⟩ := List.lookup_eq_some_iff.mp h
  exact mem_of_optionNames (hnames ▸ List.mem_append_right before List.mem_cons_self)

/-- Options written together are all options of the command. Induction on the reading. -/
theorem readCluster_options {fuel : Nat} {o last : CommandOption} {spelling : String}
    {value value' : Option String} {before : List CommandOption} (ho : o ∈ c.options)
    (h : readCluster c fuel o spelling value = .ok (before, last, value')) :
    (∀ o ∈ before, o ∈ c.options) ∧ last ∈ c.options := by
  induction fuel generalizing o spelling value before with
  | zero =>
    simp only [readCluster, Except.ok.injEq, Prod.mk.injEq] at h
    obtain ⟨rfl, rfl, -⟩ := h
    exact ⟨nofun, ho⟩
  | succ fuel ih =>
    have hlast {value : Option String}
        (h : (Except.ok ([], o, value) : Except Halt _) = .ok (before, last, value')) :
        (∀ o ∈ before, o ∈ c.options) ∧ last ∈ c.options := by
      simp only [Except.ok.injEq, Prod.mk.injEq] at h
      obtain ⟨rfl, rfl, -⟩ := h
      exact ⟨nofun, ho⟩
    cases value with
    | none => exact hlast h
    | some text =>
      rw [readCluster] at h
      split at h
      · exact hlast h
      -- the value of an option that takes none is more options
      split at h
      next letter rest _ =>
        split at h
        · cases h
        dsimp only at h
        split at h
        · cases h
        next next hnext =>
          obtain ⟨⟨others, _, _⟩, hread, h⟩ := bind_eq_ok_iff.mp h
          obtain ⟨rfl, heq⟩ := Prod.mk.inj (Except.ok.inj h)
          obtain ⟨rfl, rfl⟩ := Prod.mk.inj heq
          obtain ⟨hothers, hend⟩ := ih (Command.mem_of_named? hnext) hread
          exact ⟨List.forall_mem_cons.mpr ⟨ho, hothers⟩, hend⟩
      next => cases h

/-- Carrying out options one after the other leaves the operands alone. Induction on the options. -/
theorem Command.Keeps.obeyAll (hapart : c.TellsApart) (h : c.Keeps said) {options : List CommandOption}
    (hoptions : ∀ o ∈ options, o ∈ c.options)
    (hobey : options.foldlM (fun said o => said.obey c o "") said = .ok said') : c.Keeps said' := by
  induction options generalizing said with
  | nil =>
    obtain rfl := Except.ok.inj hobey
    exact h
  | cons o options ih =>
    obtain ⟨ho, hrest⟩ := List.forall_mem_cons.mp hoptions
    rw [List.foldlM_cons] at hobey
    obtain ⟨next, hnext, hobey⟩ := bind_eq_ok_iff.mp hobey
    exact ih (h.obey hapart ho hnext) hrest hobey

/-- An option takes at most the next word, and leaves the operands alone. -/
theorem takeOption_keeps (hapart : c.TellsApart) (h : c.Keeps said) {o : CommandOption}
    (ho : o ∈ c.options) {spelling : String} {value : Option String}
    (htake : takeOption c said o spelling value words = .ok (said', rest)) :
    c.Keeps said' ∧ ∀ w ∈ rest, w ∈ words := by
  obtain ⟨⟨before, last, value'⟩, hread, htake⟩ := bind_eq_ok_iff.mp htake
  obtain ⟨hbefore, hlast⟩ := readCluster_options ho hread
  -- whatever value the last option gets, it is carried out after those before it
  have hobeyed {text : String} {left : List Word}
      (hall : (do
        let said ← before.foldlM (fun said o => said.obey c o "") said
        let said ← said.obey c last text
        return (said, left)) = Except.ok (said', rest)) :
      c.Keeps said' ∧ rest = left := by
    obtain ⟨_, hobey, hall⟩ := bind_eq_ok_iff.mp hall
    obtain ⟨_, hobey', hall⟩ := bind_eq_ok_iff.mp hall
    obtain ⟨rfl, rfl⟩ := Prod.mk.inj (Except.ok.inj hall)
    exact ⟨(h.obeyAll hapart hbefore hobey).obey hapart hlast hobey', rfl⟩
  dsimp only at htake
  split at htake
  · obtain ⟨hkeeps, rfl⟩ := hobeyed htake
    exact ⟨hkeeps, fun _ hw => hw⟩
  · split at htake
    next w behind =>
      split at htake
      · obtain ⟨hkeeps, rfl⟩ := hobeyed htake
        exact ⟨hkeeps, fun _ hw => List.mem_cons_of_mem _ hw⟩
      · cases htake
    next => cases htake
  · obtain ⟨hkeeps, rfl⟩ := hobeyed htake
    exact ⟨hkeeps, fun _ hw => hw⟩

/-! ## Command lines -/

/-- An option that is written out is one of the command, also if it is cut short. -/
theorem Command.mem_of_longMatches {text name : String} {o : CommandOption} {value : Option String}
    (h : (name, o, value) ∈ c.longMatches text) : o ∈ c.options := by
  obtain ⟨⟨name', o'⟩, hmem, heq⟩ := List.mem_map.mp h
  obtain ⟨-, heq⟩ := Prod.mk.inj heq
  obtain ⟨rfl, -⟩ := Prod.mk.inj heq
  exact mem_of_optionNames (List.mem_of_mem_filter hmem)

/-- So is one of a single letter. -/
theorem Command.mem_of_shortMatches {text name : String} {o : CommandOption} {value : Option String}
    (h : (name, o, value) ∈ c.shortMatches text) : o ∈ c.options := by
  obtain ⟨⟨name', o'⟩, hmem, heq⟩ := List.mem_filterMap.mp h
  -- either way of meaning an option gives the one that goes by the name
  suffices ho : o' = o from ho ▸ mem_of_optionNames hmem
  dsimp only at heq
  split at heq
  · exact congrArg (fun found => found.2.1) (Option.some.inj heq)
  split at heq
  · exact congrArg (fun found => found.2.1) (Option.some.inj heq)
  · cases heq

/-- What a word can mean is an option of the command. -/
theorem Command.mem_of_kindOf {text spelling : String} {o : CommandOption} {value : Option String}
    (h : c.kindOf text = .ok (.option o spelling value)) : o ∈ c.options := by
  unfold kindOf at h
  dsimp only at h
  split at h
  · cases h
  -- the word is a name, a name with a value, or enough of one
  split at h
  next hnamed =>
    obtain ⟨rfl, -, -⟩ := WordKind.option.inj (Except.ok.inj h)
    exact mem_of_named? hnamed
  split at h
  next hexact =>
    obtain rfl := Except.ok.inj h
    split at hexact
    · obtain ⟨o', hnamed, heq⟩ := Option.map_eq_some_iff.mp hexact
      obtain ⟨rfl, -, -⟩ := WordKind.option.inj heq
      exact mem_of_named? hnamed
    · cases hexact
  split at h
  next hfound =>
    obtain ⟨rfl, rfl, rfl⟩ := WordKind.option.inj (Except.ok.inj h)
    split at hfound
    · exact mem_of_longMatches (hfound ▸ List.mem_singleton_self _)
    · exact mem_of_shortMatches (hfound ▸ List.mem_singleton_self _)
  · split at h <;> cases h
  · cases h

/-- The command knows every word of a command line. Induction on the command line. -/
theorem Command.knows_of_words {texts : List String} (h : c.words texts = .ok words) :
    ∀ w ∈ words, c.Knows w := by
  induction texts generalizing words with
  | nil =>
    obtain rfl := Except.ok.inj h
    nofun
  | cons text texts ih =>
    rw [Command.words] at h
    split at h
    · -- behind the mark that ends the options there are none
      obtain rfl := Except.ok.inj h
      refine List.forall_mem_cons.mpr ⟨fun _ _ _ => nofun, fun w hw => ?_⟩
      obtain ⟨_, -, rfl⟩ := List.mem_map.mp hw
      exact fun _ _ _ => nofun
    · obtain ⟨kind, hkind, h⟩ := bind_eq_ok_iff.mp h
      obtain ⟨others, hothers, h⟩ := bind_eq_ok_iff.mp h
      obtain rfl := Except.ok.inj h
      refine List.forall_mem_cons.mpr ⟨fun o spelling value hoption => ?_, ih hothers⟩
      obtain rfl : kind = .option o spelling value := hoption
      exact mem_of_kindOf hkind

/-- Words that are left over do not count. -/
theorem Command.Keeps.leave (h : c.Keeps said) (texts : List String) :
    c.Keeps { said with leftOver := said.leftOver ++ texts } := ⟨h.given, h.allows⟩

/-- Taking all words keeps the operands apart. Induction on the steps. -/
theorem Command.Keeps.takeWords (hapart : c.TellsApart) {fuel : Nat} (h : c.Keeps said)
    (hknows : ∀ w ∈ words, c.Knows w) (htake : takeWords c fuel said words = .ok said') :
    c.Keeps said' := by
  have hoperands {said said' : Said} {words rest : List Word} (h : c.Keeps said)
      (htake : takeOperands c said.awaited said words = .ok (said', rest)) :
      c.Keeps said' ∧ ∀ w ∈ rest, w ∈ words := by
    obtain ⟨came, hsplit, hcame⟩ := h.given
    exact takeOperands_keeps hapart hsplit hcame h.allows htake
  induction fuel generalizing said words with
  | zero =>
    obtain rfl := Except.ok.inj htake
    exact h
  | succ fuel ih =>
    cases words with
    | nil =>
      obtain ⟨⟨_, _⟩, htaken, htake⟩ := bind_eq_ok_iff.mp htake
      obtain rfl := Except.ok.inj htake
      exact (hoperands h htaken).1
    | cons w rest =>
      obtain ⟨hw, hrest⟩ := List.forall_mem_cons.mp hknows
      rw [BusContract.takeWords] at htake
      split at htake
      next o spelling value hkind =>
        obtain ⟨⟨next, left⟩, htaken, htake⟩ := bind_eq_ok_iff.mp htake
        obtain ⟨hkeeps, hleft⟩ := takeOption_keeps hapart h (hw o spelling value hkind) htaken
        exact ih hkeeps (fun w hw => hrest w (hleft w hw)) htake
      next => exact ih (h.leave _) hrest htake
      next =>
        -- a word that no operand takes is left over with those behind it
        obtain ⟨⟨next, left⟩, htaken, htake⟩ := bind_eq_ok_iff.mp htake
        obtain ⟨hkeeps, hleft⟩ := hoperands h htaken
        have hleft' : ∀ w ∈ left, c.Knows w := fun w hw => hknows w (hleft w hw)
        dsimp only at htake
        split at htake
        · exact ih hkeeps hleft' htake
        · exact ih (hkeeps.leave _) (fun w hw => hleft' w (List.mem_of_mem_drop hw)) htake

/-- **What is read is given.** Every operand of a command line that is read is given with a word that it
allows, unless it is a command; and a command is one that is allowed. -/
theorem Command.gives_of_read (hapart : c.TellsApart) {arguments : List String}
    (h : c.read arguments = .ok said) :
    (∀ operand ∈ c.operands, (∀ name allowed, operand ≠ .command name allowed) → said.Gives operand)
      ∧ c.Allows said := by
  obtain ⟨words, hwords, h⟩ := bind_eq_ok_iff.mp h
  obtain ⟨said', htake, h⟩ := bind_eq_ok_iff.mp h
  have hstart : c.Keeps ⟨[], [], none, [], c.operands⟩ := ⟨⟨[], rfl, nofun⟩, nofun⟩
  have hkeeps := hstart.takeWords hapart (knows_of_words hwords) htake
  dsimp only at h
  split at h
  next hnone =>
    obtain rfl := Except.ok.inj h
    refine ⟨fun operand hoperand hfree => ?_, hkeeps.allows⟩
    obtain ⟨came, hsplit, hcame⟩ := hkeeps.given
    rw [hsplit, List.mem_append] at hoperand
    refine hoperand.elim (hcame operand) fun hawaited => ?_
    -- only commands may still be awaited
    have hkept := List.filter_eq_nil_iff.mp (List.isEmpty_iff.mp hnone) operand hawaited
    cases operand with
    | free name => exact absurd rfl hkept
    | choice name allowed => exact absurd rfl hkept
    | command name allowed => exact absurd rfl (hfree name allowed)
  next => cases h

end BusContract
