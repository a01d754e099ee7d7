import BusContract.Markup.Fault
import BusContract.Markup.Scan

/-!
# What a document type declaration contributes

The internal subset of a document type may declare entities and attribute rules. Both bear on the
element tree: entities may stand in attribute values and in content, rules supply default values and
say which values are lists of tokens. Nothing outside the document is ever read. A document that
refers to declarations outside of it may use entities that are unknown here, unless it calls itself
standalone.

The first declaration of an entity counts, and so does the first default value of an attribute.
-/

namespace BusContract.Markup

/-- What a general entity stands for. -/
inductive EntityContent where
  | internal (text : List Char)
  | external
  | unparsed
  deriving Repr, DecidableEq

/-- A rule for one attribute of an element. -/
structure AttributeRule where
  name : List Char
  /-- Is the value a list of tokens, of which surrounding and repeated blanks are dropped? -/
  tokenized : Bool
  /-- The value that the attribute has when the tag does not give one. -/
  default? : Option (List Char)
  deriving Repr, DecidableEq

/-- The declarations that are in force. -/
structure Doctype where
  entities : List (List Char × EntityContent)
  attributes : List (List Char × AttributeRule)
  /-- Does the document refer to declarations outside of it? -/
  hasOutside : Bool
  standalone : Bool
  /-- Declarations after a reference to unread ones are not taken in. -/
  attending : Bool
  deriving Repr, DecidableEq

namespace Doctype

/-- A document without a document type. -/
def none : Doctype := ⟨[], [], false, false, true⟩

/-- Must every entity that is referred to be declared here? -/
def complete (doc : Doctype) : Bool := !doc.hasOutside || doc.standalone

/-- Takes in a reference to declarations outside. -/
def withOutside (doc : Doctype) : Doctype := { doc with hasOutside := true }

/-- Takes in a reference to a parameter entity, which is never read. -/
def withParameterReference (doc : Doctype) : Doctype :=
  { doc with hasOutside := true, attending := doc.standalone }

/-- The content of a declared entity. -/
def entity? (doc : Doctype) (name : List Char) : Option EntityContent :=
  doc.entities.lookup name

/-- Declares an entity unless it is declared already. -/
def declareEntity (doc : Doctype) (name : List Char) (content : EntityContent) : Doctype :=
  if doc.attending && (doc.entity? name).isNone then
    { doc with entities := doc.entities ++ [(name, content)] }
  else doc

/-- The rules for the attributes of an element, in the order of their declaration. -/
def rulesFor (doc : Doctype) (element : List Char) : List AttributeRule :=
  doc.attributes.filterMap fun (name, rule) => if name = element then some rule else Option.none

/-- Adds a rule. One that gives a default, or declares an identifier, is dropped when the attribute
has a rule already. -/
def declareAttribute (doc : Doctype) (element : List Char) (rule : AttributeRule)
    (isIdentifier : Bool) : Doctype :=
  let known := (doc.rulesFor element).any fun r => r.name = rule.name
  if !doc.attending || ((rule.default?.isSome || isIdentifier) && known) then doc
  else { doc with attributes := doc.attributes ++ [(element, rule)] }

/-- Is the value of the attribute a list of tokens? -/
def isTokenized (doc : Doctype) (element name : List Char) : Bool :=
  match (doc.rulesFor element).find? fun r => r.name = name with
  | some rule => rule.tokenized
  | Option.none => false

end Doctype

/-- The five entities that every document has. -/
def predefinedEntity? (name : List Char) : Option Char :=
  if name == "lt".toList then some '<'
  else if name == "gt".toList then some '>'
  else if name == "amp".toList then some '&'
  else if name == "quot".toList then some '"'
  else if name == "apos".toList then some '\''
  else none

/-! ## Attribute values -/

/-- A flaw in an attribute value. Flaws inside the text of an entity have no place of their own. -/
structure ValueFault where
  flaw : Flaw
  remaining? : Option Nat
  deriving Repr, DecidableEq

/-- The flaw placed in the document, at `fallback` if it has no place of its own. -/
def ValueFault.place (fault : ValueFault) (fallback : Nat) : Fault :=
  ⟨fault.flaw, fault.remaining?.getD fallback⟩

/-- The value read so far, reversed, with a blank added. In a list of tokens a blank at the front or
after another blank is dropped. -/
def pushBlank (tokenized : Bool) (read : List Char) : List Char :=
  match read with
  | [] => if tokenized then [] else [' ']
  | ' ' :: _ => if tokenized then read else ' ' :: read
  | _ => ' ' :: read

namespace Doctype

/-- Expands the references of an attribute value and turns line ends and tabs into blanks. The
characters read so far are in `read`, reversed; `opened` names the entities whose text is being
expanded, `depth` bounds how many more may be opened, and `fuel` is at least the length of the
text. -/
def expandFrom (doc : Doctype) (tokenized : Bool) (depth : Nat) (opened : List (List Char))
    (fuel : Nat) (read text : List Char) : Except ValueFault (List Char) :=
  match fuel, text with
  | _, [] => .ok read
  | 0, _ => .ok read
  | fuel + 1, '&' :: rest =>
    let here := some text.length
    match scanReference rest with
    | .error .unfinished => .error ⟨.invalidToken, here⟩
    | .error (.invalid bad) => .error ⟨.invalidToken, some bad.length⟩
    | .ok (.character Option.none, _) => .error ⟨.invalidCharacterNumber, here⟩
    | .ok (.character (some c), rest) =>
      let read := if c = ' ' && tokenized then pushBlank true read else c :: read
      expandFrom doc tokenized depth opened fuel read rest
    | .ok (.entity name, rest) =>
      match predefinedEntity? name with
      | some c => expandFrom doc tokenized depth opened fuel (c :: read) rest
      | Option.none =>
        match doc.entity? name with
        | Option.none =>
          if doc.complete then .error ⟨.undefinedEntity, Option.none⟩
          else expandFrom doc tokenized depth opened fuel read rest
        | some content =>
          if opened.contains name then .error ⟨.recursiveEntity, here⟩
          else match content with
            | .unparsed => .error ⟨.unparsedEntity, here⟩
            | .external => .error ⟨.externalEntityInAttribute, here⟩
            | .internal text =>
              match depth with
              | 0 => .error ⟨.recursiveEntity, here⟩
              | depth + 1 =>
                match expandFrom doc tokenized depth (name :: opened) text.length read text with
                | .error fault => .error ⟨fault.flaw, Option.none⟩
                | .ok read => expandFrom doc tokenized (depth + 1) opened fuel read rest
  | fuel + 1, '\r' :: '\n' :: rest =>
    expandFrom doc tokenized depth opened fuel (pushBlank tokenized read) rest
  | fuel + 1, c :: rest =>
    if c = '<' then .error ⟨.invalidToken, some text.length⟩
    else if isBlank c then
      expandFrom doc tokenized depth opened fuel (pushBlank tokenized read) rest
    else expandFrom doc tokenized depth opened fuel (c :: read) rest
termination_by (depth, fuel)

/-- The value of an attribute that is written as `text`, inside the entities `opened`. A place in a
fault counts the characters of `text` that remain. -/
def attributeValue (doc : Doctype) (tokenized : Bool) (opened : List (List Char))
    (text : List Char) : Except ValueFault (List Char) := do
  let read ← expandFrom doc tokenized doc.entities.length opened text.length [] text
  match tokenized, read with
  | true, ' ' :: read => return read.reverse
  | _, read => return read.reverse

end Doctype

/-! ## Entity values -/

/-- The text of an entity as its declaration writes it: numbers of characters are replaced, line
ends folded, references to general entities kept. -/
def entityText (fuel : Nat) (read text : List Char) : Except ValueFault (List Char) :=
  match fuel, text with
  | _, [] => .ok read.reverse
  | 0, _ => .ok read.reverse
  | fuel + 1, '&' :: rest =>
    match scanReference rest with
    | .error .unfinished => .error ⟨.invalidToken, some text.length⟩
    | .error (.invalid bad) => .error ⟨.invalidToken, some bad.length⟩
    | .ok (.character none, _) => .error ⟨.invalidCharacterNumber, some text.length⟩
    | .ok (.character (some c), rest) => entityText fuel (c :: read) rest
    | .ok (.entity name, rest) =>
      entityText fuel (';' :: name.reverse ++ '&' :: read) rest
  | _ + 1, '%' :: rest =>
    match scanName rest with
    | .error .unfinished => .error ⟨.invalidToken, some text.length⟩
    | .error (.invalid bad) => .error ⟨.invalidToken, some bad.length⟩
    | .ok (_, after) =>
      match expect ';' after with
      | .error .unfinished => .error ⟨.invalidToken, some text.length⟩
      | .error (.invalid bad) => .error ⟨.invalidToken, some bad.length⟩
      | .ok _ => .error ⟨.parameterReferenceInDeclaration, none⟩
  | fuel + 1, '\r' :: '\n' :: rest => entityText fuel ('\n' :: read) rest
  | fuel + 1, '\r' :: rest => entityText fuel ('\n' :: read) rest
  | fuel + 1, c :: rest => entityText fuel (c :: read) rest

end BusContract.Markup
