import BusContract.Shape.Basic

/-!
# The words of annotations

Annotations are written in a fixed vocabulary: classes that need no import, the classes of the
standard collections, the words of the typing module, and names for the types that the wire knows
and the language does not. `Shape.word` says what shape each word is.
-/

namespace BusContract

namespace ClassName

/-- The ancestor of all classes. -/
def object : ClassName := builtin "object"

/-- The class of data models. -/
def baseModel : ClassName := of "pydantic.main" "BaseModel"

/-- The mark after which the fields of a record go by keyword only. -/
def keywordOnly : ClassName := of "dataclasses" "KW_ONLY"

/-- The module that holds the types of the wire. -/
def wireModule : String := "busstep.signature.reflect"

/-- Texts that name an object on the bus. -/
def objectPath : ClassName := of wireModule "ObjectPath"

/-- Texts that are signatures themselves. -/
def signatureText : ClassName := of wireModule "SignatureStr"

/-- Values that carry their own signature. -/
def variant : ClassName := of wireModule "Variant"

/-- Marks that pin a wire signature. -/
def wireType : ClassName := of wireModule "WireType"

/-- Enumerations. -/
def enumeration : ClassName := of "enum" "Enum"

/-- Enumerations whose members combine. -/
def flags : ClassName := of "enum" "Flag"

/-- A class of the abstract collections. -/
def collection (name : String) : ClassName := of "collections.abc" name

/-- Enumerations that print as the value they hold. -/
def printedAsValue : ClassName := of "enum" "ReprEnum"

/-- The proper ancestors of the classes that come with the language, nearest first, down to but
without the ancestor of all. -/
def knownAncestors (c : ClassName) : List ClassName :=
  if c = builtin "bool" then [builtin "int"]
  else if c = objectPath ∨ c = signatureText then [builtin "str"]
  else if c = of "enum" "IntEnum" then [builtin "int", printedAsValue, enumeration]
  else if c = of "enum" "StrEnum" then [builtin "str", printedAsValue, enumeration]
  else if c = flags then [enumeration]
  else if c = of "enum" "IntFlag" then [builtin "int", printedAsValue, flags, enumeration]
  else if c = builtin "Exception" then [builtin "BaseException"]
  else if c = of "datetime" "datetime" then [of "datetime" "date"]
  else if c = of "typing" "Protocol" then [generic]
  else if c.module = "collections" ∧ c.name ∈ ["OrderedDict", "defaultdict", "Counter"] then
    [builtin "dict"]
  else []

/-- A class that comes with the language, followed by its ancestors. -/
def knownLineage (c : ClassName) : List ClassName :=
  if c = object then [c] else c :: (knownAncestors c ++ [object])

end ClassName

namespace Shape

/-- A class that needs no import. -/
def builtin (name : String) : Shape := cls (.builtin name)

/-- Whole numbers of which the wire signature is given. -/
def wired (signature : String) : Shape := annotated (builtin "int") [.wire signature]

/-- The classes that need no import. -/
def builtinWords : List String :=
  ["bool", "int", "float", "str", "bytes", "bytearray", "complex", "object", "type", "list",
    "dict", "set", "frozenset", "tuple", "range", "memoryview", "Exception"]

/-- The generics of the typing module that have the name of an abstract collection. -/
def collectionWords : List String :=
  ["Hashable", "Awaitable", "Coroutine", "AsyncIterable", "AsyncIterator", "Iterable", "Iterator",
    "Reversible", "Sized", "Container", "Collection", "Callable", "MutableSet", "Mapping",
    "MutableMapping", "Sequence", "MutableSequence", "ByteString", "MappingView", "KeysView",
    "ItemsView", "ValuesView", "Generator", "AsyncGenerator"]

/-- The words of the typing module that mean a type only when they are applied, or only in some
places. -/
def formWords : List String :=
  ["Optional", "Union", "Literal", "ClassVar", "Final", "NoReturn", "Never", "Self",
    "LiteralString", "Concatenate", "TypeAlias", "TypeGuard", "Required", "NotRequired", "Unpack"]

/-- What a generic of the typing module stands for, where the class has another name. -/
def familyOrigin? : String → Option ClassName
  | "List" => some (.builtin "list")
  | "Dict" => some (.builtin "dict")
  | "Set" => some (.builtin "set")
  | "FrozenSet" => some (.builtin "frozenset")
  | "Tuple" => some (.builtin "tuple")
  | "Type" => some (.builtin "type")
  | "AbstractSet" => some (.collection "Set")
  | "Deque" => some (.of "collections" "deque")
  | "DefaultDict" => some (.of "collections" "defaultdict")
  | "OrderedDict" => some (.of "collections" "OrderedDict")
  | "Counter" => some (.of "collections" "Counter")
  | "ChainMap" => some (.of "collections" "ChainMap")
  | "ContextManager" => some (.of "contextlib" "AbstractContextManager")
  | "AsyncContextManager" => some (.of "contextlib" "AbstractAsyncContextManager")
  | "Pattern" => some (.of "re" "Pattern")
  | "Match" => some (.of "re" "Match")
  | name => if name ∈ collectionWords then some (.collection name) else none

/-- A word of the typing module. -/
def typingWord (name : String) : Shape :=
  match familyOrigin? name with
  | some origin => family name origin
  | none =>
    if name ∈ formWords then form name
    else if name = "Text" then builtin "str"
    else if name = "AnyStr" then typeVar name
    else cls (.of "typing" name)

/-- The words that stand on their own. -/
def plainWord : String → Shape
  | "None" => null
  | "..." => ellipsis
  | "NoneType" => cls .noneType
  | "Any" => cls .any
  | "KW_ONLY" => cls .keywordOnly
  | "datetime" => cls (.of "datetime" "datetime")
  | "Decimal" => cls (.of "decimal" "Decimal")
  | "BaseModel" => cls .baseModel
  | "ObjectPath" => cls .objectPath
  | "SignatureStr" => cls .signatureText
  | "Variant" => cls .variant
  | "WireType" => cls .wireType
  | "Byte" => wired "y"
  | "Int16" => wired "n"
  | "UInt16" => wired "q"
  | "Int32" => wired "i"
  | "UInt32" => wired "u"
  | "Int64" => wired "x"
  | "UInt64" => wired "t"
  | "UnixFd" => wired "h"
  | name => builtin name

/-- What a word means. A dot divides the module from the name. -/
def word (w : String) : Shape :=
  if w = "..." then ellipsis
  else
    let cs := w.toList
    let place := String.ofList (cs.takeWhile (· != '.'))
    let name := String.ofList ((cs.dropWhile (· != '.')).drop 1)
    if name.isEmpty then plainWord w
    else if place = "typing" then typingWord name
    else if place = "abc" then cls (.collection name)
    else cls (.of place name)

/-- What a name means that no class was given. -/
def builtinName? (name : String) : Option Shape :=
  if name = "None" then some null
  else if name ∈ builtinWords then some (builtin name)
  else none

end Shape

end BusContract
