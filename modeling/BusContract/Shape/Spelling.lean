import BusContract.Shape.Basic

/-!
# How shapes are spelled

Messages show a shape the way it would be written. Inside brackets a class goes by its name, and
dots stand for themselves; on their own both have a longer form.
-/

namespace BusContract

/-- What kind of thing a class says it is when it is shown on its own. -/
inductive ClassFlavour where
  | plain
  | enumeration
  | flags
  deriving Repr, DecidableEq

/-- A class shown on its own. -/
def ClassName.spell (c : ClassName) (flavour : ClassFlavour) : String :=
  if c = .any then "typing.Any"
  else match flavour with
    | .plain => s!"<class '{c.full}'>"
    | .enumeration => s!"<enum '{c.name}'>"
    | .flags => s!"<flag '{c.name}'>"

/-- A mark as it is written. -/
def Mark.spell : Mark → String
  | wire signature => s!"WireType(signature={quoted signature})"
  | value data => data.render
  | settings => "FieldInfo(annotation=NoneType, required=True)"

namespace Shape

/-- Is the shape the class of the value `None`? -/
def isNoneType : Shape → Bool
  | cls c => c == .noneType
  | _ => false

/-- The class that the shape is, if it is one. -/
def class? : Shape → Option ClassName
  | cls c => some c
  | _ => none

/-- Between brackets, an empty row of arguments is written as an empty tuple. -/
def bracket (args : List String) : String :=
  if args.isEmpty then "[()]" else "[" ++ ", ".intercalate args ++ "]"

/-- An optional type if one of two members is the class of `None`, else a union of all. -/
def spellUnion (members : List Shape) (texts : List String) : String :=
  match members, texts with
  | [a, b], [s, t] =>
    if a.isNoneType then s!"typing.Optional[{t}]"
    else if b.isNoneType then s!"typing.Optional[{s}]"
    else s!"typing.Union[{s}, {t}]"
  | _, texts => "typing.Union" ++ bracket texts

/-- Members joined by bars. The class of `None` is written as the value. -/
def spellBar (members : List Shape) (texts : List String) : String :=
  " | ".intercalate (List.zipWith (fun m t => if isNoneType m then "None" else t) members texts)

mutual

/-- A shape on its own, or inside brackets. The flavour of classes on their own is to be given. -/
def spellWith (flavour : ClassName → ClassFlavour) (inside : Bool) : Shape → String
  | cls c => if inside then c.full else c.spell (flavour c)
  | null => "None"
  | ellipsis => if inside then "..." else "Ellipsis"
  | form name => "typing." ++ name
  | family name _ => "typing." ++ name
  | applied head _ _ args => head ++ bracket (spellAll flavour args)
  | unionOf members => spellUnion members (spellAll flavour members)
  | barOf members => spellBar members (spellAll flavour members)
  | annotated base marks =>
    let parts := spellWith flavour true base :: marks.map Mark.spell
    "typing.Annotated[" ++ ", ".intercalate parts ++ "]"
  | literal values => "typing.Literal[" ++ ", ".intercalate (PlainData.renderItems values) ++ "]"
  | classVar s => "typing.ClassVar[" ++ spellWith flavour true s ++ "]"
  | final s => "typing.Final[" ++ spellWith flavour true s ++ "]"
  | initVar s =>
    let name := match s.class? with
      | some c => c.name
      | none => spellWith flavour false s
    "dataclasses.InitVar[" ++ name ++ "]"
  | typeVar name => "~" ++ name
  | newType name _ => name.full
  | forward name => s!"ForwardRef({quoted name})"
  | value data => data.render

/-- Shapes inside brackets. -/
def spellAll (flavour : ClassName → ClassFlavour) : List Shape → List String
  | [] => []
  | s :: rest => spellWith flavour true s :: spellAll flavour rest

end

/-- A shape in messages about shapes other than bare classes. -/
def spell (s : Shape) : String := spellWith (fun _ => .plain) false s

/-! ## Names -/

/-- Is the shape built from another one by application, so that it has no name of its own? -/
def isDerived : Shape → Bool
  | cls c => c == .generic
  | family _ _ => true
  | applied _ _ _ _ => true
  | unionOf _ => true
  | barOf _ => true
  | annotated _ _ => true
  | literal _ => true
  | classVar _ => true
  | final _ => true
  | _ => false

/-- The name that a shape carries, if it carries one. -/
def name? : Shape → Option String
  | cls c => some c.name
  | form name => some name
  | typeVar name => some name
  | newType name _ => some name.name
  | _ => none

end Shape

end BusContract
