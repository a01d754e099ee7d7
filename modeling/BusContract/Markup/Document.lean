import BusContract.Markup.Encoding
import BusContract.Markup.Prolog
import BusContract.Markup.Scope
import BusContract.Text.Utf8

/-!
# Documents

Reading of a whole document: the prolog, the root element, and what may follow it. The content of an
element is read left to right with a stack of the elements that are open. A reference to an internal
entity reads the entity's text at the place of the reference; every element that begins in it has to
end in it, and every fault in it counts as lying at the outermost reference.

The main function is `Markup.read`.
-/

namespace BusContract.Markup

/-! ## Open elements -/

/-- An element whose end has not been seen. -/
structure OpenElement where
  /-- The name as written, which the end tag must repeat. -/
  written : List Char
  opening : Opening
  /-- The child elements so far, in reverse. -/
  children : List Element

/-- The element that an open element becomes at its end. -/
def OpenElement.finish (e : OpenElement) : Element :=
  .mk e.opening.name e.opening.attributes e.children.reverse

/-- The open elements, innermost first. -/
abbrev OpenElements := List OpenElement

/-- Where reading of content has come to. -/
inductive Progress where
  /-- The text has ended while elements are open. -/
  | within (stack : OpenElements)
  /-- The root element has ended, and this follows. -/
  | finished (root : Element) (rest : List Char)

/-- The state after an element has ended inside `outer`: it becomes a child of the innermost open
element, or the root. -/
def attach (element : Element) (outer : OpenElements) : Option OpenElements :=
  match outer with
  | [] => none
  | parent :: outer => some ({ parent with children := element :: parent.children } :: outer)

/-! ## Content -/

/-- The scope that an element would be opened in. -/
def scopeOf : OpenElements → Scope
  | [] => .initial
  | e :: _ => e.opening.scope

/-- Passes over the text of a marked section. A fault carries the rest from its place on. -/
def skipCData : List Char → Except (Flaw × List Char) (List Char)
  | [] => .error (.unclosedCData, [])
  | ']' :: ']' :: '>' :: rest => .ok rest
  | [']'] => .error (.unclosedCData, [']'])
  | [']', ']'] => .error (.unclosedCData, [']', ']'])
  | ['\r'] => .error (.unclosedCData, ['\r'])
  | c :: rest => if isText c then skipCData rest else .error (.invalidToken, c :: rest)

/-- One construct of content. -/
inductive Piece where
  | nothing
  | start (tag : StartTag)
  | finish (written : List Char)
  | cdata
  | xmlDeclaration
  deriving Repr

/-- Reads the construct that begins after a `<`. -/
def scanPiece (s : List Char) : Except Stop (Piece × List Char) :=
  match s with
  | '!' :: '-' :: rest => do return (.nothing, ← scanComment rest)
  | '!' :: '[' :: rest => do return (.cdata, ← scanCDataWord rest)
  | '!' :: rest => .error (stopAt rest)
  | '?' :: rest => do
    let (kind, rest) ← scanInstruction rest
    match kind with
    | .processing => return (.nothing, rest)
    | .xmlDeclaration => return (.xmlDeclaration, rest)
  | '/' :: rest => do
    let (written, rest) ← scanEndTag rest
    return (.finish written, rest)
  | s => do
    let (tag, rest) ← scanStartTag s
    return (.start tag, rest)

/-- The part of a reference that fits into a message of limited length. -/
def referenceText (name : List Char) : String :=
  let bytes := Utf8.encode ('&' :: name ++ [';'])
  String.ofList (Utf8.decodeLenient (bytes.take 100))

/-- Reads content with the open elements `stack`. `anchor` is the place of the outermost entity
reference if the text is that of an entity, in which case `floor` elements were open at its start;
`opened` names the entities being read. `depth` bounds the entities that may still be opened and
`fuel` is at least the length of the text. -/
def content (doc : Doctype) (depth : Nat) (opened : List (List Char)) (anchor : Option Nat)
    (floor : Nat) (fuel : Nat) (stack : OpenElements) (s : List Char) : Except Fault Progress :=
  let place (rest : List Char) : Nat := anchor.getD rest.length
  match fuel, s with
  | _, [] => .ok (.within stack)
  | 0, _ => .ok (.within stack)
  | fuel + 1, '<' :: rest =>
    match scanPiece rest with
    | .error .unfinished => .error ⟨.unclosedToken, place s⟩
    | .error (.invalid bad) => .error ⟨.invalidToken, place bad⟩
    | .ok (.nothing, rest) => content doc depth opened anchor floor fuel stack rest
    | .ok (.xmlDeclaration, _) => .error ⟨.misplacedXmlDeclaration, place s⟩
    | .ok (.cdata, rest) =>
      match skipCData rest with
      | .error (flaw, bad) => .error ⟨flaw, place bad⟩
      | .ok rest => content doc depth opened anchor floor fuel stack rest
    | .ok (.start tag, rest) =>
      match openElement doc opened (scopeOf stack) tag s.length with
      | .error fault => .error ⟨fault.flaw, anchor.getD fault.remaining⟩
      | .ok opening =>
        let e : OpenElement := ⟨tag.name, opening, []⟩
        if tag.closed then
          match attach e.finish stack with
          | none => .ok (.finished e.finish rest)
          | some stack => content doc depth opened anchor floor fuel stack rest
        else content doc depth opened anchor floor fuel (e :: stack) rest
    | .ok (.finish written, rest) =>
      match stack with
      | [] => .error ⟨.unbalancedEntity, place s⟩
      | e :: outer =>
        if stack.length = floor then .error ⟨.unbalancedEntity, place s⟩
        else if e.written != written then .error ⟨.mismatchedTag, place (s.drop 2)⟩
        else
          match attach e.finish outer with
          | none => .ok (.finished e.finish rest)
          | some stack => content doc depth opened anchor floor fuel stack rest
  | fuel + 1, '&' :: rest =>
    match scanReference rest with
    | .error .unfinished => .error ⟨.unclosedToken, place s⟩
    | .error (.invalid bad) => .error ⟨.invalidToken, place bad⟩
    | .ok (.character none, _) => .error ⟨.invalidCharacterNumber, place s⟩
    | .ok (.character (some _), rest) => content doc depth opened anchor floor fuel stack rest
    | .ok (.entity name, rest) =>
      if (predefinedEntity? name).isSome then content doc depth opened anchor floor fuel stack rest
      else
        match doc.entity? name with
        | none =>
          if doc.complete then .error ⟨.undefinedEntity, place s⟩
          else .error ⟨.unreadableEntity (referenceText name), place s⟩
        | some declared =>
          if opened.contains name then .error ⟨.recursiveEntity, place s⟩
          else match declared with
            | .unparsed => .error ⟨.unparsedEntity, place s⟩
            | .external => .error ⟨.unreadableEntity (referenceText name), place s⟩
            | .internal text =>
              match depth with
              | 0 => .error ⟨.recursiveEntity, place s⟩
              | depth + 1 =>
                match content doc depth (name :: opened) (some (place s)) stack.length text.length
                    stack text with
                | .error fault => .error fault
                | .ok (.finished root _) => .ok (.finished root rest)
                | .ok (.within inner) =>
                  if inner.length = stack.length then
                    content doc (depth + 1) opened anchor floor fuel inner rest
                  else .error ⟨.unbalancedEntity, place s⟩
  | _ + 1, ']' :: ']' :: '>' :: rest => .error ⟨.invalidToken, place ('>' :: rest)⟩
  | _ + 1, ['\r'] => if anchor.isSome then .ok (.within stack) else .error ⟨.noElement, 1⟩
  | fuel + 1, c :: rest =>
    if isText c then content doc depth opened anchor floor fuel stack rest
    else .error ⟨.invalidToken, place s⟩
termination_by (depth, fuel)

/-! ## The whole document -/

/-- What follows the root element may only be blanks, comments and instructions. -/
def epilog (fuel : Nat) (s : List Char) : Except Fault Unit :=
  match fuel, s with
  | _, [] => .ok ()
  | 0, _ => .ok ()
  | fuel + 1, s =>
    match scanToken s with
    | .ok (.blank, rest) => epilog fuel rest
    | .ok (.comment, rest) => epilog fuel rest
    | .ok (.instruction, rest) => epilog fuel rest
    | .ok _ => .error ⟨.junkAfterRoot, s.length⟩
    | .error .unfinished => .error ⟨.unclosedToken, s.length⟩
    | .error (.invalid bad) => .error ⟨.invalidToken, bad.length⟩

/-- The root element of a document, or its first fault. -/
def readElement (text : List Char) : Except Fault Element := do
  let (doc, s) ← Reader.prolog.run text
  match ← content doc doc.entities.length [] none 0 s.length [] s with
  | .within _ => throw ⟨.noElement, 0⟩
  | .finished root rest =>
    epilog rest.length rest
    return root

/-- A part of a character at the end of a document counts as a construct that is not closed. -/
def refuseCut (isCut : Bool) (outcome : Except Fault Element) : Except Fault Element :=
  if isCut then
    match outcome with
    | .ok _ => .error ⟨.unclosedToken, 0⟩
    | .error ⟨.noElement, 0⟩ => .error ⟨.unclosedToken, 0⟩
    | .error fault => .error fault
  else outcome

/-- The root element of the document that `text` holds, or what keeps it from being well-formed. -/
def read (text : String) : Except NotWellFormed Element :=
  let document := DocumentText.ofText text
  match refuseCut document.isCut (readElement document.characters) with
  | .ok root => .ok root
  | .error fault => .error ⟨fault.flaw, fault.position document.characters⟩

end BusContract.Markup
