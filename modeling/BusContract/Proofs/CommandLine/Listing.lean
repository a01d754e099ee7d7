import BusContract.CommandLine.Run
import BusContract.Proofs.Lookup.Occurrences

/-!
# The listing and the look-up

The listing puts the signatures of members together on its own way, interface by interface and kind by
kind. `ListedDocument` is the table that it writes out. A look-up on an interface only sees what the
table has under that name: with one entry it gives the signature that is written there, and with none
or several it fails as the table shows. The one thing that the table does not show is how many
arguments of a method go to the caller, since their signatures are written as one.

* `line_eq_shown`, `print_listed`: what is written out is the table, each member on a line with its name and
  its signatures.
* `entriesFor_eq_occurrences`: the entries in the table are the occurrences, in order.
* **`listing_agrees_with_lookup`**: the table settles what a look-up answers.
-/

namespace BusContract

/-! ## The table -/

/-- An interface as it is listed. -/
structure ListedInterface where
  name : String
  members : List ListedMember

/-- A document as it is listed. -/
structure ListedDocument where
  source : String
  interfaces : List ListedInterface

/-- The table of a document. -/
def InterfaceDocument.listed (d : InterfaceDocument) : ListedDocument :=
  ⟨d.source, d.interfaces.map fun i => ⟨i.name, i.listed⟩⟩

/-- A member written out: the word for its kind, its name, and its signatures between signs that tell
them apart. -/
def ListedMember.shown : ListedMember → String
  | method name ins outs => "    method   " ++ name ++ "(" ++ ins ++ ") -> (" ++ outs ++ ")"
  | signal name body => "    signal   " ++ name ++ "(" ++ body ++ ")"
  | property name signature access => "    property " ++ name ++ ": " ++ signature ++ " [" ++ access ++ "]"

/-- The line of a member is the member written out. One case for each kind. -/
theorem ListedMember.line_eq_shown (member : ListedMember) : member.line = member.shown := by
  cases member <;>
    unfold line shown <;>
    dsimp only [toString]

namespace ListedDocument

/-- The lines of the table: the source, and below it each interface with its members written out. -/
def lines (d : ListedDocument) : List String :=
  d.source :: d.interfaces.flatMap fun i => ("  " ++ i.name) :: i.members.map ListedMember.shown

/-- The table written out. -/
def print (table : List ListedDocument) : String :=
  if table.isEmpty then BusContract.lines ["No introspection documents found."]
  else BusContract.lines (table.flatMap lines)

end ListedDocument

/-- **The listing is the table written out.** -/
theorem print_listed (documents : List InterfaceDocument) :
    listing documents = ListedDocument.print (documents.map InterfaceDocument.listed) := by
  have hinterface (i : Interface) : i.lines = ("  " ++ i.name) :: i.listed.map ListedMember.shown := by
    rw [Interface.lines, List.map_congr_left fun member _ => ListedMember.line_eq_shown member]
  have hlines (d : InterfaceDocument) : d.listed.lines = d.lines := by
    have hinterfaces : d.interfaces.flatMap Interface.lines
        = d.interfaces.flatMap fun i => ("  " ++ i.name) :: i.listed.map ListedMember.shown :=
      List.flatMap_congr fun i _ => hinterface i
    simp only [ListedDocument.lines, InterfaceDocument.listed, InterfaceDocument.lines,
      List.flatMap_map, hinterfaces]
  have hall : (documents.map InterfaceDocument.listed).flatMap ListedDocument.lines
      = documents.flatMap InterfaceDocument.lines := by
    simp only [List.flatMap_map, hlines]
  rw [listing, ListedDocument.print, hall, List.isEmpty_map]

/-! ## Entries -/

namespace ListedMember

/-- The kind of member that a line begins with. -/
def kind : ListedMember → MemberKind
  | method _ _ _ => .method
  | signal _ _ => .signal
  | property _ _ _ => .property

def name : ListedMember → String
  | method name _ _ => name
  | signal name _ => name
  | property name _ _ => name

end ListedMember

/-- A member in the table, with what it stands under. -/
structure ListedEntry where
  source : String
  interface : String
  member : ListedMember

def ListedDocument.entries (d : ListedDocument) : List ListedEntry :=
  d.interfaces.flatMap fun i => i.members.map (ListedEntry.mk d.source i.name)

/-- Does the entry show a member of this kind and name, on the interface? -/
def ListedEntry.fits (interface : String) (kind : MemberKind) (name : String) (e : ListedEntry) :
    Bool :=
  e.interface == interface && decide (e.member.kind = kind) && e.member.name == name

/-- The entries of that name in the table. -/
def entriesFor (table : List ListedDocument) (interface : String) (kind : MemberKind)
    (name : String) : List ListedEntry :=
  (table.flatMap ListedDocument.entries).filter (ListedEntry.fits interface kind name)

/-- A member of any kind as it is listed. -/
def Member.listed : Member → ListedMember
  | method m => m.listed
  | signal s => s.listed
  | property p => p.listed

/-- An occurrence as it is listed. -/
def Resolution.listed (r : Resolution) : ListedEntry :=
  ⟨r.document.source, r.interface.name, r.member.listed⟩

/-! ## Entries are occurrences -/

theorem Member.name_listed (member : Member) : member.listed.name = member.name := by
  cases member <;> rfl

/-- A member is listed under its kind. -/
theorem Interface.kind_of_mem_members {i : Interface} {kind : MemberKind} {member : Member}
    (h : member ∈ i.members kind) : member.listed.kind = kind := by
  cases kind with
  | method => obtain ⟨m, -, rfl⟩ := List.mem_map.mp h; rfl
  | signal => obtain ⟨s, -, rfl⟩ := List.mem_map.mp h; rfl
  | property => obtain ⟨p, -, rfl⟩ := List.mem_map.mp h; rfl

/-- The members of all kinds, in the order in which they are listed. -/
theorem Interface.listed_eq (i : Interface) :
    i.listed = (i.members .method ++ i.members .signal ++ i.members .property).map
      Member.listed := by
  simp only [Interface.listed, Interface.members, List.map_append, List.map_map]
  rfl

/-- Among the listed members those of a kind are the members of that kind. -/
theorem Interface.filter_listed (i : Interface) (kind : MemberKind) (name : String) :
    i.listed.filter (fun m => decide (m.kind = kind) && m.name == name)
      = ((i.members kind).filter fun member => member.name == name).map Member.listed := by
  -- of a row of one kind either all pass by their kind, or none
  have hrow (kind' : MemberKind) :
      (i.members kind').filter
          ((fun m : ListedMember => decide (m.kind = kind) && m.name == name) ∘ Member.listed)
        = if kind' = kind then (i.members kind').filter fun member => member.name == name
          else [] := by
    split
    next hkind =>
      refine List.filter_congr fun member hmember => ?_
      simp [kind_of_mem_members hmember, hkind, Member.name_listed]
    next hkind =>
      refine List.filter_eq_nil_iff.mpr fun member hmember => ?_
      simp [kind_of_mem_members hmember, hkind]
  rw [i.listed_eq, List.filter_map, List.filter_append, List.filter_append, hrow, hrow, hrow]
  cases kind <;> simp

/-- **The entries in the table are the occurrences**, in the same order. -/
theorem entriesFor_eq_occurrences (documents : List InterfaceDocument) (interface : String)
    (kind : MemberKind) (name : String) :
    entriesFor (documents.map InterfaceDocument.listed) interface kind name
      = (occurrences documents ⟨name, kind, some interface⟩).map Resolution.listed := by
  let q : MemberQuery := ⟨name, kind, some interface⟩
  -- one interface first, then one document, then the row
  have hinterface (d : InterfaceDocument) (i : Interface) :
      (i.listed.map (ListedEntry.mk d.source i.name)).filter (ListedEntry.fits interface kind name)
        = if q.accepts i then (i.occurrences d q).map Resolution.listed else [] := by
    have hfits : ListedEntry.fits interface kind name ∘ ListedEntry.mk d.source i.name
        = fun m => q.accepts i && (decide (m.kind = kind) && m.name == name) := by
      funext m
      simp [ListedEntry.fits, q, MemberQuery.accepts, Bool.and_assoc]
    rw [List.filter_map, hfits]
    cases q.accepts i with
    | false => simp
    | true =>
      simp only [Bool.true_and, i.filter_listed, if_true, Interface.occurrences, List.map_map]
      rfl
  have hdocument (d : InterfaceDocument) :
      d.listed.entries.filter (ListedEntry.fits interface kind name)
        = (d.occurrences q).map Resolution.listed := by
    rw [InterfaceDocument.occurrences, ← filter_flatMap_eq (hinterface d), ListedDocument.entries,
      InterfaceDocument.listed, List.flatMap_map]
  rw [entriesFor, List.flatMap_map, List.filter_flatMap, occurrences, List.map_flatMap]
  simp only [hdocument, q]

/-! ## Answers -/

/-- What the entry of a member shows for a role. For what a method returns it also takes how many of
its arguments go to the caller. -/
inductive ShowsAnswer (member : Member) (e : ListedEntry) :
    SignatureRole → Except UnsupportedMember String → Prop where
  | methodArgs (name ins outs : String) (h : e.member = .method name ins outs) :
      ShowsAnswer member e .methodArgs (.ok ins)
  | methodReturn (m : Method) (name ins outs : String) (hm : member = .method m)
      (h : e.member = .method name ins outs) (hone : m.outArgs.length = 1) :
      ShowsAnswer member e .methodReturn (.ok outs)
  | noMethodReturn (m : Method) (name ins outs : String) (hm : member = .method m)
      (h : e.member = .method name ins outs) (hcount : m.outArgs.length ≠ 1) :
      ShowsAnswer member e .methodReturn
        (.error (.outArgCount name e.interface m.outArgs.length))
  | signalBody (name body : String) (h : e.member = .signal name body) :
      ShowsAnswer member e .signalBody (.ok body)
  | property (name signature access : String) (h : e.member = .property name signature access) :
      ShowsAnswer member e .property (.ok signature)

/-- The signature of an occurrence is what its entry shows. One case for each role; a role only meets
members of its kind. -/
theorem showsAnswer_listed {r : Resolution} {role : SignatureRole}
    (hkind : r.member.listed.kind = role.kind) :
    ShowsAnswer r.member r.listed role (role.signature r) := by
  obtain ⟨d, i, member⟩ := r
  cases role with
  | methodArgs =>
    cases member with
    | method m => exact .methodArgs m.name _ _ rfl
    | signal s => cases hkind
    | property p => cases hkind
  | methodReturn =>
    cases member with
    | method m =>
      simp only [SignatureRole.signature, Resolution.methodReturnSignature]
      -- what is written of one argument is its signature alone
      split
      next arg hone =>
        have houts : joinSignatures m.outArgs = arg.signature := by
          simp [joinSignatures, hone]
        rw [← houts]
        exact .methodReturn m m.name _ _ rfl rfl (by rw [hone]; rfl)
      next args hcount =>
        refine .noMethodReturn m m.name _ _ rfl rfl fun hone => ?_
        obtain ⟨arg, harg⟩ := List.length_eq_one_iff.mp hone
        exact hcount arg harg
    | signal s => cases hkind
    | property p => cases hkind
  | signalBody =>
    cases member with
    | method m => cases hkind
    | signal s => exact .signalBody s.name _ rfl
    | property p => cases hkind
  | property =>
    cases member with
    | method m => cases hkind
    | signal s => cases hkind
    | property p => exact .property p.name _ p.access.word rfl

/-- An answer that an entry shows never complains about the kind of the member. -/
theorem ShowsAnswer.ne_wrongKind {member : Member} {e : ListedEntry} {role : SignatureRole}
    {answer : Except UnsupportedMember String} (h : ShowsAnswer member e role answer)
    (name : String) (wanted : MemberKind) : answer ≠ .error (.wrongKind name wanted) := by
  cases h <;> simp

section Lookup

variable {documents : List InterfaceDocument} {role : SignatureRole} {member : String}
  {interface : Option String}

/-- A member that is found is of the kind that was looked for. -/
theorem OccursAt.kind_listed {q : MemberQuery} {place : MemberPlace} {r : Resolution}
    (h : OccursAt documents q place r) : r.member.listed.kind = q.kind :=
  Interface.kind_of_mem_members (List.mem_of_getElem? h.member)

/-- What is found is of the kind that the role is for. -/
theorem resolveSignature_ne_wrongKind (name : String) (wanted : MemberKind) :
    resolveSignature documents role member interface ≠ .error (.unsupported (.wrongKind name wanted))
      := by
  intro h
  obtain ⟨r, hlocate, hsignature⟩ := resolveSignature_eq_unsupported_iff.mp h
  have hfound := ((answersFrom_occurrences documents _).located r).mp hlocate
  obtain ⟨place, hr⟩ := occursAt_of_mem_occurrences (q := role.query member interface)
    (show r ∈ _ by rw [hfound]; exact List.mem_singleton_self r)
  exact (showsAnswer_listed hr.kind_listed).ne_wrongKind name wanted hsignature

end Lookup

/-- What a look-up on an interface answers, read off the table. -/
structure SettledByTable (documents : List InterfaceDocument) (interface member : String)
    (role : SignatureRole) (entries : List ListedEntry) : Prop where
  none : entries = [] →
    resolveSignature documents role member (some interface)
      = .error (.lookup (.notFound (role.query member (some interface))))
  one : ∀ e, entries = [e] → ∃ place r answer,
    OccursAt documents (role.query member (some interface)) place r ∧ e = r.listed
      ∧ ShowsAnswer r.member e role answer
      ∧ resolveSignature documents role member (some interface) = answer.mapError .unsupported
  /-- The one candidate is the interface that was given already. -/
  several : 2 ≤ entries.length →
    resolveSignature documents role member (some interface)
      = .error (.lookup (.ambiguous (role.query member (some interface)) [interface]
          (entries.map ListedEntry.source)))

/-- The rows of the table for a member are where it occurs, so they settle what a look-up gives. -/
theorem settledByTable (documents : List InterfaceDocument) (interface member : String)
    (role : SignatureRole) :
    SettledByTable documents interface member role
      (entriesFor (documents.map InterfaceDocument.listed) interface role.kind member) := by
  have hanswer := answersFrom_occurrences documents (role.query member (some interface))
  have hentries := entriesFor_eq_occurrences documents interface role.kind member
  rw [hentries]
  refine ⟨?_, ?_, ?_⟩
  · intro hnone
    have hlocate := (hanswer.notFound _).mpr ⟨List.map_eq_nil_iff.mp hnone, rfl⟩
    exact resolveSignature_of_locate_error hlocate
  · intro e hone
    obtain ⟨r, hfound, rfl⟩ := List.map_eq_singleton_iff.mp hone
    obtain ⟨place, hr⟩ := occursAt_of_mem_occurrences (q := role.query member (some interface))
      (show r ∈ _ by rw [SignatureRole.query, hfound]; exact List.mem_singleton_self r)
    have hlocate := (hanswer.located r).mpr hfound
    exact ⟨place, r, _, hr, rfl, showsAnswer_listed hr.kind_listed,
      resolveSignature_of_locate hlocate⟩
  · intro hmany
    rw [List.length_map] at hmany
    -- all candidates are the interface that was asked for
    have hsome : occurrences documents (role.query member (some interface)) ≠ [] := by
      intro hnil
      rw [SignatureRole.query] at hnil
      rw [hnil] at hmany
      exact absurd hmany (by decide)
    have hfirst := firstAppearances_of_accepted rfl hsome
    have hlocate := (hanswer.ambiguous _ _ _).mpr ⟨hmany, rfl, hfirst, rfl⟩
    rw [resolveSignature_of_locate_error hlocate, List.map_map]
    rfl

/-- **The listing and the look-up agree.** What is listed is a table, with the name and the signatures of
each member on a line of its own, and for every interface, name and role the table settles what the look-up
answers: one entry answers with the signature that stands on its line. With an interface or without, a
look-up never complains that a member is of another kind. -/
theorem listing_agrees_with_lookup :
    (∀ isVerbose directory documents,
      (membersEnding isVerbose directory documents).output
        = ListedDocument.print (documents.map InterfaceDocument.listed))
      ∧ (∀ documents interface member role, SettledByTable documents interface member role
        (entriesFor (documents.map InterfaceDocument.listed) interface role.kind member))
      ∧ ∀ documents role member interface name wanted,
        resolveSignature documents role member interface
          ≠ .error (.unsupported (.wrongKind name wanted)) := by
  refine ⟨?_, ?_, ?_⟩
  · intro _ _ documents
    exact print_listed documents
  · exact settledByTable
  · intro _ _ _ _ name wanted
    exact resolveSignature_ne_wrongKind name wanted

end BusContract
