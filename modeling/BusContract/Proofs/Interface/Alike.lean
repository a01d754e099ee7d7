import BusContract.Interface.Introspection
import BusContract.Proofs.Outcomes
import Mathlib

/-!
# What a reader of elements sees

Of each element only a few attributes and the children of a few names are looked at, and the children
of each name apart from the others. Two trees that agree on these, level by level, are alike
(`Level.Alike`), and nothing that is read from one of them can differ from what is read from the other:
neither the document nor the fault, nor the index of the argument that has the fault.

Anything else may be written into a tree. `Level.Edit` lists what: attributes and elements that are not
looked at, such as the nodes below the root with all that is in them, and children of different names in
another order. Character data has no part in a tree from the start.
-/

namespace BusContract

open Markup (Element QName)

/-! ## Levels -/

/-- The places of a document where an element is looked at. -/
inductive Level where
  | node | interface | method | signal | property | arg | note
  deriving Repr, DecidableEq

namespace Level

/-- The name of the elements. -/
def word : Level → String
  | node => "node"
  | interface => "interface"
  | method => "method"
  | signal => "signal"
  | property => "property"
  | arg => "arg"
  | note => "annotation"

/-- The attributes that are looked at. -/
def attributes : Level → List String
  | node | interface | method | signal => ["name"]
  | property => ["name", "type", "access"]
  | arg => ["name", "type", "direction"]
  | note => ["name", "value"]

/-- The children that are looked at. -/
def below : Level → List Level
  | node => [interface]
  | interface => [method, signal, property, note]
  | method | signal => [arg, note]
  | property | arg => [note]
  | note => []

/-- How many levels there are below at most. -/
def height : Level → Nat
  | node => 4
  | interface => 3
  | method | signal => 2
  | property | arg => 1
  | note => 0

variable {level inner : Level} {e e' : Element}

theorem height_lt_of_mem_below (h : inner ∈ level.below) : inner.height < level.height := by
  cases level <;> cases inner <;> first | decide | exact absurd h (by decide)

/-- The words for levels are told apart. -/
theorem word_injective : Function.Injective word := by
  intro level level' h
  cases level <;> cases level' <;> first | rfl | exact absurd h (by decide)

/-! ## Trees that agree on what is looked at -/

/-- Do two elements of a level agree on their name, on the attributes that are looked at and, for each
name that is looked at, on the children of that name? -/
def Alike (level : Level) (e e' : Element) : Prop :=
  e.name = e'.name
    ∧ (∀ name ∈ level.attributes, e.attribute? name = e'.attribute? name)
    ∧ ∀ inner, (h : inner ∈ level.below) →
        List.Forall₂ (Alike inner) (e.childrenNamed inner.word) (e'.childrenNamed inner.word)
termination_by level.height
decreasing_by exact height_lt_of_mem_below h

/-- Elements that are alike have the same name. -/
theorem Alike.name (h : level.Alike e e') : e.name = e'.name := by
  rw [Alike] at h
  exact h.1

/-- They say the same in the attributes that are read. -/
theorem Alike.attribute? (h : level.Alike e e') {name : String} (hname : name ∈ level.attributes) :
    e.attribute? name = e'.attribute? name := by
  rw [Alike] at h
  exact h.2.1 name hname

/-- Their children that are read are alike in turn. -/
theorem Alike.children (h : level.Alike e e') (hinner : inner ∈ level.below) :
    List.Forall₂ inner.Alike (e.childrenNamed inner.word) (e'.childrenNamed inner.word) := by
  rw [Alike] at h
  exact h.2.2 inner hinner

/-- An element is like itself. This, as symmetry and transitivity, is by the height of the level. -/
theorem Alike.refl (level : Level) (e : Element) : level.Alike e e := by
  rw [Alike]
  refine ⟨rfl, fun _ _ => rfl, fun inner h => ?_⟩
  exact List.forall₂_same.mpr fun child _ => Alike.refl inner child
termination_by level.height
decreasing_by exact height_lt_of_mem_below h

theorem Alike.symm {level : Level} {e e' : Element} (h : level.Alike e e') : level.Alike e' e := by
  rw [Alike]
  refine ⟨h.name.symm, fun _ hname => (h.attribute? hname).symm, fun inner hinner => ?_⟩
  exact List.Forall₂.flip ((h.children hinner).imp fun _ _ => Alike.symm)
termination_by level.height
decreasing_by exact height_lt_of_mem_below hinner

theorem Alike.trans {level : Level} {e e' e'' : Element} (h : level.Alike e e')
    (h' : level.Alike e' e'') : level.Alike e e'' := by
  rw [Alike]
  refine ⟨h.name.trans h'.name, fun _ hname => (h.attribute? hname).trans (h'.attribute? hname),
    fun inner hinner => ?_⟩
  exact forall₂_trans Alike.trans (h.children hinner) (h'.children hinner)
termination_by level.height
decreasing_by exact height_lt_of_mem_below hinner

end Level

/-! ## Readers of elements that are alike -/

namespace Introspection

variable {level : Level} {e e' : Element} {place : SchemaPlace} {usual : Option Direction}

/-- An attribute that has to be there is read alike, or is missing alike. -/
theorem require_eq_of_alike (h : level.Alike e e') {name : String} (hname : name ∈ level.attributes) :
    require e name place = require e' name place := by
  rw [require, require, h.attribute? hname, h.name]

/-- What is read from each child of a name and stops at the first fault. -/
theorem mapM_children_eq_of_alike {α : Type} {inner : Level} {read : Element → Except SchemaFault α}
    (h : level.Alike e e') (hinner : inner ∈ level.below)
    (hread : ∀ a b, inner.Alike a b → read a = read b) :
    (e.childrenNamed inner.word).mapM read = (e'.childrenNamed inner.word).mapM read :=
  mapM_eq_mapM_of_forall₂ (h.children hinner) hread

/-- Annotations are read alike. -/
theorem readNote_eq_of_alike (h : Level.note.Alike e e') :
    readNote place e = readNote place e' := by
  have hname : require e "name" place = require e' "name" place := require_eq_of_alike h (by decide)
  have hvalue : require e "value" place = require e' "value" place := require_eq_of_alike h (by decide)
  rw [readNote, readNote, hname, hvalue]

/-- All annotations of an element. -/
theorem readAnnotations_eq_of_alike (h : level.Alike e e') (hnotes : .note ∈ level.below) :
    readAnnotations e place = readAnnotations e' place := by
  have hrow : (e.childrenNamed "annotation").mapM (readNote place)
      = (e'.childrenNamed "annotation").mapM (readNote place) :=
    mapM_children_eq_of_alike h hnotes fun _ _ => readNote_eq_of_alike
  rw [readAnnotations, readAnnotations, hrow]

/-- Arguments are read alike. -/
theorem readArg_eq_of_alike (h : Level.arg.Alike e e') :
    readArg place usual e = readArg place usual e' := by
  have hdirection : readDirection e place usual = readDirection e' place usual := by
    rw [readDirection, readDirection, h.attribute? (by decide)]
  have htype : require e "type" place = require e' "type" place := require_eq_of_alike h (by decide)
  have hnotes : readAnnotations e place = readAnnotations e' place :=
    readAnnotations_eq_of_alike h (by decide)
  have hname : e.attribute? "name" = e'.attribute? "name" := h.attribute? (by decide)
  rw [readArg, readArg, hdirection, htype, hnotes, hname]

/-- Arguments have the same indices. Induction on the elements. -/
theorem readArgsFrom_eq_of_alike {es es' : List Element} (h : List.Forall₂ Level.arg.Alike es es')
    (index : Nat) :
    readArgsFrom place usual index es = readArgsFrom place usual index es' := by
  induction h generalizing index with
  | nil => rfl
  | cons harg _ ih => rw [readArgsFrom, readArgsFrom, readArg_eq_of_alike harg, ih (index + 1)]

/-- All arguments of a member. -/
theorem readArgs_eq_of_alike (h : level.Alike e e') (hargs : .arg ∈ level.below) :
    readArgs e place usual = readArgs e' place usual :=
  readArgsFrom_eq_of_alike (h.children hargs) 0

/-- Methods are read alike. -/
theorem readMethod_eq_of_alike (h : Level.method.Alike e e') :
    readMethod place e = readMethod place e' := by
  have hname (place) : require e "name" place = require e' "name" place :=
    require_eq_of_alike h (by decide)
  have hargs (place usual) : readArgs e place usual = readArgs e' place usual :=
    readArgs_eq_of_alike h (by decide)
  have hnotes (place) : readAnnotations e place = readAnnotations e' place :=
    readAnnotations_eq_of_alike h (by decide)
  simp only [readMethod, hname, hargs, hnotes]

/-- Signals are read alike. -/
theorem readSignal_eq_of_alike (h : Level.signal.Alike e e') :
    readSignal place e = readSignal place e' := by
  have hname (place) : require e "name" place = require e' "name" place :=
    require_eq_of_alike h (by decide)
  have hargs (place usual) : readArgs e place usual = readArgs e' place usual :=
    readArgs_eq_of_alike h (by decide)
  have hnotes (place) : readAnnotations e place = readAnnotations e' place :=
    readAnnotations_eq_of_alike h (by decide)
  simp only [readSignal, hname, hargs, hnotes]

/-- Properties are read alike. -/
theorem readProperty_eq_of_alike (h : Level.property.Alike e e') :
    readProperty place e = readProperty place e' := by
  have hname (place) : require e "name" place = require e' "name" place :=
    require_eq_of_alike h (by decide)
  have haccess (place) : readAccess e place = readAccess e' place := by
    rw [readAccess, readAccess, h.attribute? (by decide)]
  have htype (place) : require e "type" place = require e' "type" place :=
    require_eq_of_alike h (by decide)
  have hnotes (place) : readAnnotations e place = readAnnotations e' place :=
    readAnnotations_eq_of_alike h (by decide)
  simp only [readProperty, hname, haccess, htype, hnotes]

/-- Interfaces are read alike, whatever order members of different kinds have. -/
theorem readInterface_eq_of_alike (h : Level.interface.Alike e e') :
    readInterface place e = readInterface place e' := by
  have hname (place) : require e "name" place = require e' "name" place :=
    require_eq_of_alike h (by decide)
  have hmethods (place) : (e.childrenNamed "method").mapM (readMethod place)
      = (e'.childrenNamed "method").mapM (readMethod place) :=
    mapM_children_eq_of_alike h (by decide) fun _ _ => readMethod_eq_of_alike
  have hsignals (place) : (e.childrenNamed "signal").mapM (readSignal place)
      = (e'.childrenNamed "signal").mapM (readSignal place) :=
    mapM_children_eq_of_alike h (by decide) fun _ _ => readSignal_eq_of_alike
  have hproperties (place) : (e.childrenNamed "property").mapM (readProperty place)
      = (e'.childrenNamed "property").mapM (readProperty place) :=
    mapM_children_eq_of_alike h (by decide) fun _ _ => readProperty_eq_of_alike
  have hnotes (place) : readAnnotations e place = readAnnotations e' place :=
    readAnnotations_eq_of_alike h (by decide)
  simp only [readInterface, hname, hmethods, hsignals, hproperties, hnotes]

/-- **Roots that are alike give the same document or the same fault.** -/
theorem ofElement_eq_of_alike {source : String} {root root' : Element}
    (h : Level.node.Alike root root') : ofElement source root = ofElement source root' := by
  have hname : root.attribute? "name" = root'.attribute? "name" := h.attribute? (by decide)
  have hinterfaces (place) : (root.childrenNamed "interface").mapM (readInterface place)
      = (root'.childrenNamed "interface").mapM (readInterface place) :=
    mapM_children_eq_of_alike h (by decide) fun _ _ => readInterface_eq_of_alike
  simp only [ofElement, h.name, hname, hinterfaces]

/-- Texts whose trees are alike are read alike. -/
theorem parse_eq_of_alike {source text text' : String} {root root' : Element}
    (hread : Markup.read text = .ok root) (hread' : Markup.read text' = .ok root')
    (h : Level.node.Alike root root') : parse source text = parse source text' := by
  simp only [parse, hread, hread', ofElement_eq_of_alike h]

end Introspection

/-! ## Edits that leave a tree alike -/

namespace Level

/-- One change of an element of a level, of something that is not looked at: an attribute or a child
that comes in, two neighbours of different names that change places, or such a change further below. -/
inductive Edit : Level → Element → Element → Prop where
  | unseenAttribute (level : Level) (name : QName) (before after : List (QName × String))
      (attr : QName × String) (children : List Element)
      (hunseen : ∀ word ∈ level.attributes, attr.1 ≠ .plain word) :
      Edit level (.mk name (before ++ after) children) (.mk name (before ++ attr :: after) children)
  | unseenChild (level : Level) (name : QName) (attrs : List (QName × String))
      (before after : List Element)
      (e : Element) (hunseen : ∀ inner ∈ level.below, e.name ≠ .plain inner.word) :
      Edit level (.mk name attrs (before ++ after)) (.mk name attrs (before ++ e :: after))
  | swap (level : Level) (name : QName) (attrs : List (QName × String)) (before after : List Element)
      (e e' : Element) (hne : e.name ≠ e'.name) :
      Edit level (.mk name attrs (before ++ e :: e' :: after))
        (.mk name attrs (before ++ e' :: e :: after))
  | inside (level inner : Level) (name : QName) (attrs : List (QName × String))
      (before after : List Element) (e e' : Element) (hinner : inner ∈ level.below)
      (hname : e.name = .plain inner.word) (h : Edit inner e e') :
      Edit level (.mk name attrs (before ++ e :: after)) (.mk name attrs (before ++ e' :: after))

/-- An attribute of another name does not hide one. -/
theorem lookup_append_cons_of_ne {key : QName} {attr : QName × String}
    {before after : List (QName × String)} (h : attr.1 ≠ key) :
    (before ++ attr :: after).lookup key = (before ++ after).lookup key := by
  obtain ⟨name, value⟩ := attr
  have hne : (key == name) = false := beq_false_of_ne (Ne.symm h)
  rw [List.lookup_append, List.lookup_append, List.lookup_cons, hne]

/-- The children of a word, with one of them in the middle. -/
theorem childrenNamed_append_cons {name : QName} {attrs : List (QName × String)}
    {before after : List Element} {e : Element} {word : String} :
    (Element.mk name attrs (before ++ e :: after)).childrenNamed word =
      (Element.mk name attrs before).childrenNamed word
        ++ (if e.name = .plain word then [e] else [])
        ++ (Element.mk name attrs after).childrenNamed word := by
  simp only [Element.childrenNamed, Element.children, List.filter_append, List.filter_cons, beq_iff_eq]
  split <;> simp

variable {level : Level} {e e' : Element}

/-- Elements are alike if their children are, and nothing else differs. -/
theorem alike_of_children {name : QName} {attrs : List (QName × String)} {children children' : List Element}
    (h : ∀ inner ∈ level.below, List.Forall₂ inner.Alike
      ((Element.mk name attrs children).childrenNamed inner.word)
      ((Element.mk name attrs children').childrenNamed inner.word)) :
    level.Alike (.mk name attrs children) (.mk name attrs children') := by
  rw [Alike]
  exact ⟨rfl, fun _ _ => rfl, h⟩

theorem forall₂_alike_refl (level : Level) (es : List Element) : List.Forall₂ level.Alike es es :=
  List.forall₂_same.mpr fun e _ => Alike.refl level e

/-- **An edit leaves a tree alike.** One case for each kind of change. -/
theorem Edit.alike (h : level.Edit e e') : level.Alike e e' := by
  induction h with
  | unseenAttribute level name before after attr children hunseen =>
    rw [Alike]
    refine ⟨rfl, fun word hword => ?_, fun inner _ => forall₂_alike_refl inner _⟩
    exact (lookup_append_cons_of_ne (hunseen word hword)).symm
  | unseenChild level name attrs before after e hunseen =>
    refine alike_of_children fun inner hinner => ?_
    have hsame : (Element.mk name attrs (before ++ e :: after)).childrenNamed inner.word
        = (Element.mk name attrs (before ++ after)).childrenNamed inner.word := by
      rw [childrenNamed_append_cons, if_neg (hunseen inner hinner), List.append_nil]
      exact (List.filter_append _ _).symm
    rw [hsame]
    exact forall₂_alike_refl inner _
  | swap level name attrs before after e e' hne =>
    refine alike_of_children fun inner hinner => ?_
    have hsame : (Element.mk name attrs (before ++ e :: e' :: after)).childrenNamed inner.word
        = (Element.mk name attrs (before ++ e' :: e :: after)).childrenNamed inner.word := by
      -- not both of them have the name
      simp only [Element.childrenNamed, Element.children, List.filter_append, List.filter_cons, beq_iff_eq]
      split_ifs with he he'
      · exact absurd (he.trans he'.symm) hne
      all_goals rfl
    rw [hsame]
    exact forall₂_alike_refl inner _
  | inside level inner name attrs before after e e' hinner hname _ ih =>
    refine alike_of_children fun other hother => ?_
    have hname' : e'.name = .plain inner.word := ih.name ▸ hname
    rw [childrenNamed_append_cons, childrenNamed_append_cons, hname, hname']
    refine List.rel_append (List.rel_append (forall₂_alike_refl other _) ?_) (forall₂_alike_refl other _)
    split
    · next hword =>
      -- the level that the child is looked at is the one it was edited at
      obtain rfl := word_injective (congrArg QName.stem hword)
      exact .cons ih .nil
    · exact .nil

/-- Any number of edits, done or undone, leave a tree alike. -/
theorem alike_of_eqvGen (h : Relation.EqvGen level.Edit e e') : level.Alike e e' := by
  induction h with
  | rel _ _ h => exact h.alike
  | refl e => exact .refl level e
  | symm _ _ _ ih => exact ih.symm
  | trans _ _ _ _ _ ih ih' => exact ih.trans ih'

end Level

/-! ## Character data -/

namespace Markup

/-- Does the character stand for itself, wherever it is in the content of an element? -/
structure IsPlain (c : Char) : Prop where
  text : isText c
  apart : c ∉ ['<', '&', ']', '\r']

section

variable {doc : Doctype} {depth floor fuel : Nat} {opened : List (List Char)} {anchor : Option Nat}
  {stack : OpenElements}

/-- A plain character in the content of an element is passed over. -/
theorem content_cons_of_isPlain {c : Char} (h : IsPlain c) (s : List Char) :
    content doc depth opened anchor floor (fuel + 1) stack (c :: s)
      = content doc depth opened anchor floor fuel stack s := by
  have hapart := h.apart
  simp only [List.mem_cons, not_or, List.not_mem_nil, not_false_eq_true, and_true] at hapart
  rw [content, if_pos h.text]
  -- no construct begins with the character
  all_goals simp_all

/-- **Character data leaves no trace.** Wherever content is read, with whatever elements open, the rest
is read as if the characters in front of it were not there. -/
theorem content_append_of_isPlain {cs : List Char} (h : ∀ c ∈ cs, IsPlain c) (s : List Char) :
    content doc depth opened anchor floor (fuel + cs.length) stack (cs ++ s)
      = content doc depth opened anchor floor fuel stack s := by
  induction cs with
  | nil => rfl
  | cons c cs ih =>
    obtain ⟨hc, hcs⟩ := List.forall_mem_cons.mp h
    have hstep : content doc depth opened anchor floor (fuel + (cs.length + 1)) stack (c :: (cs ++ s))
        = content doc depth opened anchor floor (fuel + cs.length) stack (cs ++ s) :=
      content_cons_of_isPlain hc (cs ++ s)
    exact hstep.trans (ih hcs)

end

end Markup

/-! ## What counts -/

namespace Introspection

/-- **Only what is looked at counts.** Trees that are alike give the same document or the same fault,
and so do texts of such trees. A tree stays alike under edits of what is not looked at, and character
data is not even part of it. -/
theorem sees_only_recognised (source : String) :
    (∀ root root', Level.node.Alike root root' → ofElement source root = ofElement source root')
      ∧ (∀ root root', Relation.EqvGen Level.node.Edit root root' → Level.node.Alike root root')
      ∧ (∀ text text' root root', Markup.read text = .ok root → Markup.read text' = .ok root' →
          Level.node.Alike root root' → parse source text = parse source text')
      ∧ ∀ doc depth opened anchor floor fuel stack cs s, (∀ c ∈ cs, Markup.IsPlain c) →
          Markup.content doc depth opened anchor floor (fuel + cs.length) stack (cs ++ s)
            = Markup.content doc depth opened anchor floor fuel stack s :=
  ⟨fun _ _ => ofElement_eq_of_alike, fun _ _ => Level.alike_of_eqvGen,
    fun _ _ _ _ => parse_eq_of_alike, fun _ _ _ _ _ _ _ _ s h => Markup.content_append_of_isPlain h s⟩

/-- A node with one interface, behind what else is in it. -/
def busTree (others members : List Element) : Element :=
  .mk (.plain "node") [] (others ++ [.mk (.plain "interface") [(.plain "name", "a.B")] members])

/-- A node whose interface has no name. -/
def strayNode : Element := .mk (.plain "node") [] [.mk (.plain "interface") [] []]

/-- A method with an argument that has no type. -/
def untypedMethod : Element :=
  .mk (.plain "method") [(.plain "name", "M")] [.mk (.plain "arg") [] []]

def plainSignal : Element := .mk (.plain "signal") [(.plain "name", "S")] []

theorem read_emptyNode : Markup.read "<node/>" = .ok (.mk (.plain "node") [] []) := by cbv

theorem parse_emptyNode (source : String) : parse source "<node/>" = .ok ⟨source, none, []⟩ := by
  rw [parse, read_emptyNode]
  rfl

/-- An argument without a type stays the fault of a tree, whatever node comes in before it and whatever
signal moves behind it. An empty node is read from a text with a node and characters in it as well. -/
theorem sees_only_recognised_untyped :
    let place : SchemaPlace := ⟨"bus.xml", some "a.B", some (.method, "M"), some 0⟩
    let fault : SchemaFault := .missingAttribute place "arg" "type"
    ofElement "bus.xml" (busTree [] [plainSignal, untypedMethod]) = .error fault
      ∧ ofElement "bus.xml" (busTree [strayNode] [untypedMethod, plainSignal]) = .error fault
      ∧ parse "bus.xml" "<node/>" = .ok ⟨"bus.xml", none, []⟩
      ∧ parse "bus.xml" "<node>x<node/></node>" = .ok ⟨"bus.xml", none, []⟩
      ∧ Markup.content .none 0 [] none 0 1 [] ['x', '<'] = Markup.content .none 0 [] none 0 0 [] ['<'] := by
  intro place fault
  obtain ⟨htrees, hedits, htexts, hplain⟩ := sees_only_recognised "bus.xml"
  -- two edits, one behind the other: a stray node, then the members swapped
  have hstray : Level.node.Edit (busTree [] [plainSignal, untypedMethod])
      (busTree [strayNode] [plainSignal, untypedMethod]) :=
    .unseenChild .node _ [] [] _ strayNode (by decide)
  have hswap : Level.node.Edit (busTree [strayNode] [plainSignal, untypedMethod])
      (busTree [strayNode] [untypedMethod, plainSignal]) :=
    .inside .node .interface _ [] [strayNode] [] _ _ (by decide) rfl
      (.swap .interface _ _ [] [] plainSignal untypedMethod (by decide))
  have htree : ofElement "bus.xml" (busTree [] [plainSignal, untypedMethod]) = .error fault := by rfl
  have halike := hedits _ _ (.trans _ _ _ (.rel _ _ hstray) (.rel _ _ hswap))
  have hread' : Markup.read "<node>x<node/></node>"
      = .ok (.mk (.plain "node") [] [.mk (.plain "node") [] []]) := by cbv
  have hnode : Level.node.Edit (.mk (.plain "node") [] [])
      (.mk (.plain "node") [] [.mk (.plain "node") [] []]) :=
    .unseenChild .node _ [] [] [] _ (by decide)
  have hparse := parse_emptyNode "bus.xml"
  have hsame := htexts _ _ _ _ read_emptyNode hread' (hedits _ _ (.rel _ _ hnode))
  have hx : ∀ c ∈ ['x'], Markup.IsPlain c := by
    intro c hc
    rw [List.mem_singleton.mp hc]
    exact ⟨rfl, by simp⟩
  have hcontent := hplain .none 0 [] none 0 0 [] ['x'] ['<'] hx
  exact ⟨htree, (htrees _ _ halike).symm.trans htree, hparse, hsame.symm.trans hparse, hcontent⟩

end Introspection

end BusContract
