import BusContract.Markup.Element
import BusContract.Markup.Doctype
import BusContract.Markup.Tag

/-!
# Namespaces and the opening of elements

A start tag may bind qualifiers to namespaces for itself and its content. Opening an element expands
its attribute values, takes in the bindings, adds the default attributes of the document type and
then puts every qualified name into its namespace.
-/

namespace BusContract.Markup

/-- The namespace bound to the qualifier `xml` in every document. -/
def xmlNamespace : List Char := "http://www.w3.org/XML/1998/namespace".toList

/-- The namespace of the declarations themselves, to which nothing may be bound. -/
def xmlnsNamespace : List Char := "http://www.w3.org/2000/xmlns/".toList

/-- The bindings in force, innermost first. The empty qualifier stands for names without one; a
binding to the empty text undoes outer ones. -/
structure Scope where
  bindings : List (List Char × List Char)
  deriving Repr

namespace Scope

/-- The scope of the root element. -/
def initial : Scope := ⟨[("xml".toList, xmlNamespace)]⟩

/-- The namespace of a qualifier. -/
def namespace? (scope : Scope) (qualifier : List Char) : Option (List Char) :=
  match scope.bindings.lookup qualifier with
  | some [] => none
  | found => found

/-- Binds a qualifier. A namespace name may not hold the brace that ends it in written names. -/
def bind (scope : Scope) (qualifier uri : List Char) : Except Flaw Scope :=
  if uri.isEmpty && !qualifier.isEmpty then .error .undeclaredQualifier
  else if qualifier == "xmlns".toList then .error .reservedXmlnsQualifier
  else if uri.contains '\x7d' then .error .misplacedToken
  else if qualifier == "xml".toList && uri != xmlNamespace then .error .reservedXmlQualifier
  else if qualifier != "xml".toList && uri == xmlNamespace then .error .reservedNamespace
  else if uri == xmlnsNamespace then .error .reservedNamespace
  else .ok ⟨(qualifier, uri) :: scope.bindings⟩

end Scope

/-- The qualifier and the rest of a name with a colon. -/
def splitName? (name : List Char) : Option (List Char × List Char) :=
  match name.dropWhile (· != ':') with
  | _ :: stem => some (name.takeWhile (· != ':'), stem)
  | [] => none

/-- The qualifier that an attribute of this name binds, if it is a namespace declaration. -/
def boundBy? (name : List Char) : Option (List Char) :=
  if name == "xmlns".toList then some []
  else match splitName? name with
    | some (qualifier, stem) => if qualifier == "xmlns".toList then some stem else none
    | none => none

/-! ## Opening an element -/

/-- An opened element: its name and attributes, and the scope of its content. -/
structure Opening where
  name : QName
  attributes : List (QName × String)
  scope : Scope

/-- What has been gathered from the attributes of a tag. -/
structure Gathered where
  scope : Scope
  /-- Names given in the tag. -/
  given : List (List Char)
  /-- Attributes that bind no qualifier, in reverse. -/
  attributes : List (List Char × List Char)

/-- Takes in one attribute with its expanded value. -/
def Gathered.add (gathered : Gathered) (name value : List Char) : Except Flaw Gathered := do
  match boundBy? name with
  | some qualifier =>
    let scope ← gathered.scope.bind qualifier value
    return ⟨scope, name :: gathered.given, gathered.attributes⟩
  | none => return ⟨gathered.scope, name :: gathered.given, (name, value) :: gathered.attributes⟩

/-- Puts attribute names into their namespaces. No two may come to be equal. -/
def qualifyAttributes (scope : Scope) :
    List (List Char × List Char) → List (QName × String) → Except Flaw (List (QName × String))
  | [], done => .ok done.reverse
  | (name, value) :: rest, done =>
    match splitName? name with
    | none =>
      let entry := (⟨none, String.ofList name⟩, String.ofList value)
      qualifyAttributes scope rest (entry :: done)
    | some (qualifier, stem) =>
      match scope.namespace? qualifier with
      | none => .error .unboundQualifier
      | some uri =>
        let name : QName := ⟨some (String.ofList uri), String.ofList stem⟩
        if done.any fun (other, _) => other == name then .error .duplicateAttribute
        else qualifyAttributes scope rest ((name, String.ofList value) :: done)

/-- Puts the name of an element into its namespace. -/
def qualifyElement (scope : Scope) (name : List Char) : Except Flaw QName :=
  match splitName? name with
  | some (qualifier, stem) =>
    match scope.namespace? qualifier with
    | none => .error .unboundQualifier
    | some uri => .ok ⟨some (String.ofList uri), String.ofList stem⟩
  | none =>
    match scope.namespace? [] with
    | none => .ok ⟨none, String.ofList name⟩
    | some uri => .ok ⟨some (String.ofList uri), String.ofList name⟩

/-- Gathers the attributes of a tag, given inside the entities `opened`, in their order. A flaw of
an attribute itself has a place, a flaw of its binding has none. -/
def gatherGiven (doc : Doctype) (opened : List (List Char)) (element : List Char) :
    List RawAttribute → Gathered → Except ValueFault Gathered
  | [], gathered => .ok gathered
  | attr :: rest, gathered =>
    if gathered.given.contains attr.name then .error ⟨.duplicateAttribute, some attr.nameAt⟩
    else
      match doc.attributeValue (doc.isTokenized element attr.name) opened attr.value with
      | .error fault =>
        let beyond := attr.valueAt - attr.value.length
        .error ⟨fault.flaw, fault.remaining?.map (· + beyond)⟩
      | .ok value =>
        match gathered.add attr.name value with
        | .error flaw => .error ⟨flaw, none⟩
        | .ok gathered => gatherGiven doc opened element rest gathered

/-- Adds the default values of attributes that the tag does not give. -/
def gatherDefaults : List AttributeRule → Gathered → Except Flaw Gathered
  | [], gathered => .ok gathered
  | rule :: rest, gathered =>
    match rule.default? with
    | none => gatherDefaults rest gathered
    | some value =>
      if gathered.given.contains rule.name then gatherDefaults rest gathered
      else do gatherDefaults rest (← gathered.add rule.name value)

/-- Opens the element of a start tag that stands at `place`, in the scope around it. -/
def openElement (doc : Doctype) (opened : List (List Char)) (scope : Scope) (tag : StartTag)
    (place : Nat) : Except Fault Opening :=
  match gatherGiven doc opened tag.name tag.attributes ⟨scope, [], []⟩ with
  | .error fault => .error (fault.place place)
  | .ok gathered =>
    let opening : Except Flaw Opening := do
      let gathered ← gatherDefaults (doc.rulesFor tag.name) gathered
      let attributes ← qualifyAttributes gathered.scope gathered.attributes.reverse []
      let name ← qualifyElement gathered.scope tag.name
      return ⟨name, attributes, gathered.scope⟩
    match opening with
    | .error flaw => .error ⟨flaw, place⟩
    | .ok opening => .ok opening

end BusContract.Markup
