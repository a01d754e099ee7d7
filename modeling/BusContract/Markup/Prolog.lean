import BusContract.Markup.Doctype
import BusContract.Markup.Token
import BusContract.Markup.XmlDeclaration

/-!
# The prolog

What stands before the root element: an XML declaration, comments and processing instructions, and
at most one document type declaration. Of all this the declarations of the internal subset that bear
on the element tree are kept, as a `Doctype`.

A token that may not stand where it does is refused at its first character.
-/

namespace BusContract.Markup

/-- Reading moves along the characters of the document and stops at the first fault. -/
abbrev Reader := StateT (List Char) (Except Fault)

namespace Reader

/-- Stops with a flaw at the place where `remaining` characters are still to come. -/
def fail {α : Type} (flaw : Flaw) (remaining : Nat) : Reader α := throw ⟨flaw, remaining⟩

/-- The next token and the place where it begins. -/
def token : Reader (Token × Nat) := do
  let s ← get
  if s.isEmpty then fail .noElement 0
  match scanToken s with
  | .ok (token, rest) =>
    set rest
    return (token, s.length)
  | .error .unfinished => fail .unclosedToken s.length
  | .error (.invalid bad) => fail .invalidToken bad.length

/-- The next token that is not blank. -/
def solid : Reader (Token × Nat) := do
  modify skipBlanks
  token

/-- Refuses a token. -/
def refuse {α : Type} (token : Token) (place : Nat) : Reader α :=
  match token with
  | .parameterReference => fail .parameterReferenceInDeclaration place
  | .xmlDeclaration => fail .misplacedXmlDeclaration place
  | _ => fail .misplacedToken place

/-- The next solid token must be `wanted`. -/
def need (wanted : Token) : Reader Unit := do
  let (token, place) ← solid
  if token != wanted then refuse token place

/-- The next solid token must be a quoted text. Gives the text and the place of its quote. -/
def needLiteral : Reader (List Char × Nat) := do
  match ← solid with
  | (.literal text, place) => return (text, place)
  | (token, place) => refuse token place

/-- The next solid token must be a name without a colon. -/
def needName : Reader (List Char) := do
  match ← solid with
  | (.word .simple name, _) => return name
  | (token, place) => refuse token place

/-! ## Identifiers of external text -/

/-- The characters of public identifiers. -/
def isPublicPart (c : Char) : Bool :=
  c.isAlphanum || c == ' ' || c == '\n' || c == '\r' || "-'()+,./:=?;!*#@$_%".toList.contains c

/-- The next solid token must be a public identifier. -/
def needPublicIdentifier : Reader Unit := do
  let (text, place) ← needLiteral
  let good := text.takeWhile isPublicPart
  if good.length < text.length then fail .publicIdentifier (place - 1 - good.length)

/-- Reads the identifiers that follow the keyword of external text, if the word is such a keyword.
-/
def externalIdentifier (keyword : Token) (place : Nat) : Reader Unit := do
  if keyword == .word .simple "SYSTEM".toList then
    let _ ← needLiteral
  else if keyword == .word .simple "PUBLIC".toList then
    needPublicIdentifier
    let _ ← needLiteral
  else refuse keyword place

/-! ## Element declarations

They are checked for form and otherwise dropped. -/

/-- May the token name an element in a content model? -/
def isElementName : Token → Bool
  | .word .simple _ => true
  | .word .qualified _ => true
  | _ => false

/-- A mixed content model after its first alternative, of at most `fuel` alternatives. -/
def mixedContent (fuel : Nat) : Reader Unit :=
  match fuel with
  | 0 => return
  | fuel + 1 => do
    let (name, place) ← solid
    if !isElementName name then refuse name place
    match ← solid with
    | (.closeParen (some '*'), _) => return
    | (.bar, _) => mixedContent fuel
    | (token, place) => refuse token place

/-- What a content model may go on with: an item, or a connector or the end of a group. -/
inductive ModelPlace where
  | item
  | afterItem
  deriving DecidableEq

/-- The connector of the innermost group becomes `connector`, unless it was the other one. -/
def joinGroup (connector : Token) : List (Option Token) → Option (List (Option Token))
  | none :: outer => some (some connector :: outer)
  | some c :: outer => if c = connector then some (some c :: outer) else none
  | [] => none

/-- A content model of element names inside open groups, of which the connectors are known once
one was seen. At most `fuel` tokens are read. -/
def contentModel (fuel : Nat) (place : ModelPlace) (groups : List (Option Token)) : Reader Unit :=
  match fuel with
  | 0 => return
  | fuel + 1 => do
    let (token, at_) ← solid
    match place, token with
    | .item, .openParen => contentModel fuel .item (none :: groups)
    | .item, token =>
      if isElementName token || token == .repeated then contentModel fuel .afterItem groups
      else refuse token at_
    | .afterItem, .closeParen _ =>
      match groups.tail with
      | [] => return
      | outer => contentModel fuel .afterItem outer
    | .afterItem, token =>
      if token == .comma || token == .bar then
        match joinGroup token groups with
        | some groups => contentModel fuel .item groups
        | none => fail .misplacedToken at_
      else refuse token at_

/-- An element declaration after its keyword. -/
def elementDeclaration : Reader Unit := do
  let (name, place) ← solid
  if !isElementName name then refuse name place
  let (model, place) ← solid
  if model == .openParen then
    let fuel := (← get).length + 1
    let (first, place) ← solid
    if first == .pound "PCDATA".toList then
      match ← solid with
      | (.closeParen none, _) => pure ()
      | (.closeParen (some '*'), _) => pure ()
      | (.bar, _) => mixedContent fuel
      | (token, place) => refuse token place
    else if first == .openParen then contentModel fuel .item [none, none]
    else if isElementName first || first == .repeated then contentModel fuel .afterItem [none]
    else refuse first place
  else if model != .word .simple "EMPTY".toList && model != .word .simple "ANY".toList then
    refuse model place
  need .close

/-! ## Attribute declarations -/

/-- The alternatives of an enumerated type after its opening parenthesis, of at most `fuel`. -/
def alternatives (allowed : Token → Bool) (fuel : Nat) : Reader Unit :=
  match fuel with
  | 0 => return
  | fuel + 1 => do
    let (token, place) ← solid
    if !allowed token then refuse token place
    match ← solid with
    | (.closeParen none, _) => return
    | (.bar, _) => alternatives allowed fuel
    | (token, place) => refuse token place

/-- A type of attribute: is the value a list of tokens, and is it an identifier? -/
structure AttributeType where
  tokenized : Bool
  isIdentifier : Bool

/-- Reads the type of an attribute. -/
def attributeType : Reader AttributeType := do
  let (token, place) ← solid
  let fuel := (← get).length + 1
  match token with
  | .openParen =>
    alternatives (fun | .word _ _ => true | _ => false) fuel
    return ⟨true, false⟩
  | .word .simple name =>
    let name := String.ofList name
    if name == "CDATA" then return ⟨false, false⟩
    else if name == "ID" then return ⟨true, true⟩
    else if ["IDREF", "IDREFS", "ENTITY", "ENTITIES", "NMTOKEN", "NMTOKENS"].contains name then
      return ⟨true, false⟩
    else if name == "NOTATION" then
      need .openParen
      alternatives (fun | .word .simple _ => true | _ => false) fuel
      return ⟨true, false⟩
    else refuse token place
  | token => refuse token place

/-- The value that a quoted default stands for. Nothing is evaluated once declarations are no longer
taken in. -/
def defaultValue (doc : Doctype) (tokenized : Bool) (text : List Char) (place : Nat) :
    Reader (Option (List Char)) := do
  if !doc.attending then return none
  match doc.attributeValue tokenized [] text with
  | .ok value => return some value
  | .error fault =>
    let beyond := place - 1 - text.length
    throw (ValueFault.place ⟨fault.flaw, fault.remaining?.map (· + beyond)⟩ place)

/-- Reads whether and how an attribute is defaulted. -/
def attributeDefault (doc : Doctype) (tokenized : Bool) : Reader (Option (List Char)) := do
  match ← solid with
  | (.literal text, place) => defaultValue doc tokenized text place
  | (.pound word, place) =>
    let word' := String.ofList word
    if word' == "IMPLIED" || word' == "REQUIRED" then return none
    else if word' == "FIXED" then
      let (text, place) ← needLiteral
      defaultValue doc tokenized text place
    else refuse (.pound word) place
  | (token, place) => refuse token place

/-- The attributes of a declaration, of at most `fuel`, for the element of the given name. -/
def attributeRules (fuel : Nat) (element : List Char) (doc : Doctype) : Reader Doctype :=
  match fuel with
  | 0 => return doc
  | fuel + 1 => do
    match ← solid with
    | (.close, _) => return doc
    | (.word kind name, place) =>
      if kind = .other then refuse (.word kind name) place
      let type ← attributeType
      let value? ← attributeDefault doc type.tokenized
      attributeRules fuel element
        (doc.declareAttribute element ⟨name, type.tokenized, value?⟩ type.isIdentifier)
    | (token, place) => refuse token place

/-- An attribute declaration after its keyword. -/
def attributeDeclaration (doc : Doctype) : Reader Doctype := do
  match ← solid with
  | (.word kind name, place) =>
    if kind = .other then refuse (.word kind name) place
    attributeRules ((← get).length + 1) name doc
  | (token, place) => refuse token place

/-! ## Entity declarations -/

/-- Evaluates the quoted text of an entity, unless declarations are no longer taken in. -/
def entityLiteral (doc : Doctype) (text : List Char) (place : Nat) : Reader (List Char) := do
  if !doc.attending then return []
  match entityText text.length [] text with
  | .ok text => return text
  | .error fault =>
    let beyond := place - 1 - text.length
    throw (ValueFault.place ⟨fault.flaw, fault.remaining?.map (· + beyond)⟩ (place - 1))

/-- The declaration of a parameter entity after its percent sign. Such entities are never read. -/
def parameterEntity (doc : Doctype) : Reader Unit := do
  let _ ← needName
  match ← solid with
  | (.literal text, place) =>
    let _ ← entityLiteral doc text place
  | (token, place) => externalIdentifier token place
  need .close

/-- The declaration of a general entity after its name. -/
def generalEntity (doc : Doctype) (name : List Char) : Reader Doctype := do
  let content ← do
    match ← solid with
    | (.literal text, place) =>
      let text ← entityLiteral doc text place
      need .close
      pure (EntityContent.internal text)
    | (token, place) =>
      externalIdentifier token place
      match ← solid with
      | (.close, _) => pure EntityContent.external
      | (token, place) =>
        if token != .word .simple "NDATA".toList then refuse token place
        let _ ← needName
        need .close
        pure EntityContent.unparsed
  if (predefinedEntity? name).isSome then return doc
  return doc.declareEntity name content

/-- An entity declaration after its keyword. -/
def entityDeclaration (doc : Doctype) : Reader Doctype := do
  match ← solid with
  | (.percent, _) =>
    parameterEntity doc
    return doc
  | (.word .simple name, _) => generalEntity doc name
  | (token, place) => refuse token place

/-! ## Declarations of unparsed formats -/

/-- The declaration of a format after its keyword. The system identifier may be left out after a
public one. -/
def formatDeclaration : Reader Unit := do
  let _ ← needName
  let (keyword, place) ← solid
  if keyword == .word .simple "SYSTEM".toList then
    let _ ← needLiteral
    need .close
  else if keyword == .word .simple "PUBLIC".toList then
    needPublicIdentifier
    match ← solid with
    | (.close, _) => return
    | (.literal _, _) => need .close
    | (token, place) => refuse token place
  else refuse keyword place

/-! ## The document type declaration -/

/-- The internal subset up to its closing bracket, of at most `fuel` items. -/
def internalSubset (fuel : Nat) (doc : Doctype) : Reader Doctype :=
  match fuel with
  | 0 => return doc
  | fuel + 1 => do
    let (token, place) ← solid
    match token with
    | .closeBracket => return doc
    | .comment | .instruction => internalSubset fuel doc
    | .parameterReference => internalSubset fuel doc.withParameterReference
    | .declaration keyword =>
      let keyword := String.ofList keyword
      if keyword == "ENTITY" then internalSubset fuel (← entityDeclaration doc)
      else if keyword == "ATTLIST" then internalSubset fuel (← attributeDeclaration doc)
      else if keyword == "ELEMENT" then
        elementDeclaration
        internalSubset fuel doc
      else if keyword == "NOTATION" then
        formatDeclaration
        internalSubset fuel doc
      else refuse token place
    | token => refuse token place

/-- The rest of a document type declaration from the internal subset on. -/
def doctypeBody (doc : Doctype) (token : Token) (place : Nat) : Reader Doctype := do
  match token with
  | .close => return doc
  | .openBracket =>
    let doc ← internalSubset ((← get).length + 1) doc
    need .close
    return doc
  | token => refuse token place

/-- A document type declaration after its keyword. -/
def doctypeDeclaration (doc : Doctype) : Reader Doctype := do
  let (name, place) ← solid
  if !isElementName name then refuse name place
  let (token, place) ← solid
  match token with
  | .word _ _ =>
    externalIdentifier token place
    let (token, place) ← solid
    doctypeBody doc.withOutside token place
  | token => doctypeBody doc token place

/-- The prolog from a place where no XML declaration may stand any more, up to the root element. At
most `fuel` tokens are read. -/
def miscellany (fuel : Nat) (doc : Doctype) (seenDoctype : Bool) : Reader Doctype :=
  match fuel with
  | 0 => return doc
  | fuel + 1 => do
    let (token, place) ← token
    match token with
    | .blank | .comment | .instruction => miscellany fuel doc seenDoctype
    | .root => return doc
    | .declaration keyword =>
      if keyword == "DOCTYPE".toList && !seenDoctype then
        miscellany fuel (← doctypeDeclaration doc) true
      else refuse token place
    | token => refuse token place

/-- The whole prolog. A byte order mark may stand in front. -/
def prolog : Reader Doctype := do
  modify fun s => match s with
    | '\ufeff' :: rest => rest
    | s => s
  let s ← get
  match scanToken s with
  | .ok (.xmlDeclaration, rest) =>
    set rest
    let text := s.drop "<?xml".length
    let text := text.take (text.length - rest.length - "?>".length)
    match readXmlDeclaration text with
    | .ok standalone => miscellany (rest.length + 1) { Doctype.none with standalone } false
    | .error bad => fail .malformedXmlDeclaration (bad.length + "?>".length + rest.length)
  | _ => miscellany (s.length + 1) Doctype.none false

end Reader

end BusContract.Markup
