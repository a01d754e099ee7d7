/-!
# Faults of documents

What can be wrong with a document, and where. While a document is being read a place is the number
of characters that are still to come; `position` turns it into a line and a column.
-/

namespace BusContract.Markup

/-- The ways in which a document can fail to be well-formed. -/
inductive Flaw where
  | misplacedToken
  | noElement
  | invalidToken
  | unclosedToken
  | mismatchedTag
  | duplicateAttribute
  | junkAfterRoot
  | parameterReferenceInDeclaration
  | undefinedEntity
  | recursiveEntity
  | unbalancedEntity
  | invalidCharacterNumber
  | unparsedEntity
  | externalEntityInAttribute
  | misplacedXmlDeclaration
  | unclosedCData
  | malformedXmlDeclaration
  | unboundQualifier
  | undeclaredQualifier
  | reservedXmlQualifier
  | reservedXmlnsQualifier
  | reservedNamespace
  | publicIdentifier
  /-- A reference, given as written, to an entity that is declared where it is not read. -/
  | unreadableEntity (reference : String)
  deriving Repr, DecidableEq

/-- The wording of a flaw. -/
def Flaw.text : Flaw → String
  | misplacedToken => "syntax error"
  | noElement => "no element found"
  | invalidToken => "not well-formed (invalid token)"
  | unclosedToken => "unclosed token"
  | mismatchedTag => "mismatched tag"
  | duplicateAttribute => "duplicate attribute"
  | junkAfterRoot => "junk after document element"
  | parameterReferenceInDeclaration => "illegal parameter entity reference"
  | undefinedEntity => "undefined entity"
  | recursiveEntity => "recursive entity reference"
  | unbalancedEntity => "asynchronous entity"
  | invalidCharacterNumber => "reference to invalid character number"
  | unparsedEntity => "reference to binary entity"
  | externalEntityInAttribute => "reference to external entity in attribute"
  | misplacedXmlDeclaration => "XML or text declaration not at start of entity"
  | unclosedCData => "unclosed CDATA section"
  | malformedXmlDeclaration => "XML declaration not well-formed"
  | unboundQualifier => "unbound prefix"
  | undeclaredQualifier => "must not undeclare prefix"
  | reservedXmlQualifier =>
    "reserved prefix (xml) must not be undeclared or bound to another namespace name"
  | reservedXmlnsQualifier => "reserved prefix (xmlns) must not be declared or undeclared"
  | reservedNamespace => "prefix must not be bound to one of the reserved namespace names"
  | publicIdentifier => "illegal character(s) in public id"
  | unreadableEntity reference => s!"undefined entity {reference}"

/-- A flaw at the place where `remaining` characters are still to come. -/
structure Fault where
  flaw : Flaw
  remaining : Nat
  deriving Repr, DecidableEq

/-- A line, counted from one, and a column, counted from zero. -/
structure Position where
  line : Nat
  column : Nat
  deriving Repr, DecidableEq

/-- The position after `text`. Each of line feed, carriage return and the pair of both ends a
line. -/
def Position.after : Position → List Char → Position
  | p, [] => p
  | p, '\r' :: '\n' :: rest => Position.after ⟨p.line + 1, 0⟩ rest
  | p, '\r' :: rest => Position.after ⟨p.line + 1, 0⟩ rest
  | p, '\n' :: rest => Position.after ⟨p.line + 1, 0⟩ rest
  | p, _ :: rest => Position.after ⟨p.line, p.column + 1⟩ rest

/-- Where in `text` a fault lies. -/
def Fault.position (fault : Fault) (text : List Char) : Position :=
  Position.after ⟨1, 0⟩ (text.take (text.length - fault.remaining))

/-- A document that is not well-formed. -/
structure NotWellFormed where
  flaw : Flaw
  position : Position
  deriving Repr, DecidableEq

/-- The message gives the flaw and its position. -/
def NotWellFormed.message (e : NotWellFormed) : String :=
  s!"{e.flaw.text}: line {e.position.line}, column {e.position.column}"

end BusContract.Markup
