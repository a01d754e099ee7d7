/-!
# Element trees

What is left of a document once its text has been read: elements with qualified names, attributes
and child elements. Character data, comments and processing instructions are not kept.
-/

namespace BusContract.Markup

/-- A name with the namespace it belongs to, if any. -/
structure QName where
  space : Option String
  stem : String
  deriving Repr, DecidableEq, Inhabited

namespace QName

/-- A name in no namespace. -/
def plain (stem : String) : QName := ⟨none, stem⟩

/-- The written form: the namespace stands in braces before the name. -/
def render (name : QName) : String :=
  match name.space with
  | none => name.stem
  | some uri => "\x7b" ++ uri ++ "\x7d" ++ name.stem

end QName

/-- An element with its attributes and its child elements, both in document order. -/
inductive Element where
  | mk (name : QName) (attributes : List (QName × String)) (children : List Element)
  deriving Repr

namespace Element

def name : Element → QName
  | mk name _ _ => name

def attributes : Element → List (QName × String)
  | mk _ attributes _ => attributes

def children : Element → List Element
  | mk _ _ children => children

/-- The value of the attribute of this name in no namespace. -/
def attribute? (e : Element) (stem : String) : Option String :=
  e.attributes.lookup (QName.plain stem)

/-- The child elements of this name in no namespace, in order. -/
def childrenNamed (e : Element) (stem : String) : List Element :=
  e.children.filter fun child => child.name == QName.plain stem

end Element

end BusContract.Markup
