import BusContract.Text.Digits
import BusContract.Text.Lines
import BusContract.Text.Quoted

/-!
# Command lines

A command takes options, which begin with a hyphen, and operands, in any mixture. An option is
given by its name or, if the name begins with two hyphens, by enough of its beginning; its value
follows it or stands behind an equals sign. Options without a value and with a name of one letter
can be written together. Two hyphens on their own end the options.

What begins with a hyphen and is no option of the command is an operand if it is a number or holds a
blank. Otherwise it is left over, and so are operands that the command has no use for.
-/

namespace BusContract

/-- What an option does. -/
inductive OptionEffect where
  | help
  /-- Notes that it was given. -/
  | mark
  /-- Takes a value. -/
  | value
  deriving Repr, DecidableEq

/-- An option of a command. -/
structure CommandOption where
  names : List String
  effect : OptionEffect
  deriving Repr, DecidableEq

/-- The option in messages. -/
def CommandOption.title (o : CommandOption) : String := "/".intercalate o.names

/-- An operand of a command. -/
inductive Operand where
  | free (name : String)
  /-- One of the given words. -/
  | choice (name : String) (words : List String)
  /-- One of the given words, with everything behind it. -/
  | command (name : String) (words : List String)
  deriving Repr, DecidableEq

/-- What a command takes. -/
structure Command where
  /-- How the command is called. -/
  program : String
  help : String
  options : List CommandOption
  operands : List Operand
  deriving Repr, DecidableEq

/-- Why a command line is not carried out. -/
inductive Halt where
  /-- The command was asked what it takes. -/
  | help (c : Command)
  /-- The command was not given what it takes. -/
  | misuse (c : Command) (message : String)
  deriving Repr, DecidableEq

/-! ## Words -/

/-- What a word of a command line is. -/
inductive WordKind where
  | operand
  /-- An option, how it was spelled, and the value behind the equals sign. -/
  | option (o : CommandOption) (spelling : String) (value : Option String)
  /-- Something like an option that the command does not have. -/
  | unknown
  /-- Two hyphens. -/
  | divider
  deriving Repr, DecidableEq

/-- A word of a command line. -/
structure Word where
  text : String
  kind : WordKind
  deriving Repr, DecidableEq

/-- A text up to the first equals sign, and behind it. -/
def splitEquals (text : String) : Option (String × String) :=
  let chars := text.toList
  match chars.dropWhile (· != '=') with
  | [] => none
  | _ :: rest => some (String.ofList (chars.takeWhile (· != '=')), String.ofList rest)

/-- Is the text a number below zero? Its digits may be those of any script, and a line feed behind them
does not count. -/
def isNegativeNumber (text : String) : Bool :=
  match chomp text.toList with
  | '-' :: digits =>
    let whole := digits.takeWhile isDecimalDigit
    match digits.dropWhile isDecimalDigit with
    | [] => !whole.isEmpty
    | '.' :: fraction => !fraction.isEmpty && fraction.all isDecimalDigit
    | _ => false
  | _ => false

namespace Command

/-- The names of all options, with the options. -/
def optionNames (c : Command) : List (String × CommandOption) :=
  c.options.flatMap fun o => o.names.map (·, o)

/-- The option of a name. -/
def named? (c : Command) (name : String) : Option CommandOption := c.optionNames.lookup name

/-- The options that a text with two hyphens can be the beginning of. -/
def longMatches (c : Command) (text : String) : List (String × CommandOption × Option String) :=
  let (start, value) := match splitEquals text with
    | some (start, value) => (start, some value)
    | none => (text, none)
  (c.optionNames.filter fun (name, _) => name.startsWith start).map fun (name, o) =>
    (name, o, value)

/-- The options that a text with one hyphen can mean: one of a single letter with its value, or one
that the text is the beginning of. -/
def shortMatches (c : Command) (text : String) : List (String × CommandOption × Option String) :=
  let letter := String.ofList (text.toList.take 2)
  let value := String.ofList (text.toList.drop 2)
  c.optionNames.filterMap fun (name, o) =>
    if name = letter then some (name, o, some value)
    else if name.startsWith text then some (name, o, none)
    else none

/-- What a word that is no divider is. -/
def kindOf (c : Command) (text : String) : Except Halt WordKind :=
  if !text.startsWith "-" || text.length = 1 then .ok .operand
  else
    match c.named? text with
    | some o => .ok (.option o text none)
    | none =>
      let exact := match splitEquals text with
        | some (name, value) => (c.named? name).map fun o => WordKind.option o name (some value)
        | none => none
      match exact with
      | some kind => .ok kind
      | none =>
        let found := if text.startsWith "--" then c.longMatches text else c.shortMatches text
        match found with
        | [(name, o, value)] => .ok (.option o name value)
        | [] =>
          .ok (if isNegativeNumber text || text.toList.contains ' ' then .operand else .unknown)
        | _ =>
          let names := ", ".intercalate (found.map Prod.fst)
          .error (.misuse c s!"ambiguous option: {text} could match {names}")

/-- The words of a command line. Behind the divider there are only operands. -/
def words (c : Command) : List String → Except Halt (List Word)
  | [] => .ok []
  | text :: rest =>
    if text = "--" then .ok (⟨text, .divider⟩ :: rest.map (⟨·, .operand⟩))
    else do
      let kind ← c.kindOf text
      return ⟨text, kind⟩ :: (← c.words rest)

end Command

/-! ## Taking words -/

/-- What a command line says to a command. -/
structure Said where
  marks : List String
  /-- The values of options and operands by their names, later ones first. -/
  values : List (String × String)
  /-- The command among the operands, and the words behind it. -/
  command : Option (String × List String)
  leftOver : List String
  /-- The operands that are still to come. -/
  awaited : List Operand
  deriving Repr, DecidableEq

/-- The name of an operand. -/
def Operand.name : Operand → String
  | free name => name
  | choice name _ => name
  | command name _ => name

/-- Refuses a word that is none of the words of an operand. -/
def checkChoice (c : Command) (operand : Operand) (words : List String) (text : String) :
    Except Halt Unit :=
  if words.contains text then .ok ()
  else
    let choices := ", ".intercalate (words.map quoted)
    .error (.misuse c
      s!"argument {operand.name}: invalid choice: {quoted text} (choose from {choices})")

/-- Is the word a divider? -/
def Word.isDivider (w : Word) : Bool := w.kind == .divider

/-- The words that an operand takes from the front, and the rest. Dividers go with it. -/
def takeOperand : List Word → Option (List Word × List Word)
  | words =>
    let before := words.takeWhile Word.isDivider
    match words.dropWhile Word.isDivider with
    | w :: rest =>
      if w.kind == .operand then
        some (before ++ w :: rest.takeWhile Word.isDivider, rest.dropWhile Word.isDivider)
      else none
    | [] => none

/-- The text that an operand gets from its words: the first divider is left out. -/
def operandText (words : List Word) : String :=
  match (words.map Word.text).erase "--" with
  | text :: _ => text
  | [] => ""

/-- Gives words from the front to the operands that are awaited, as many as there are words for. -/
def takeOperands (c : Command) : List Operand → Said → List Word → Except Halt (Said × List Word)
  | [], said, words => .ok ({ said with awaited := [] }, words)
  | operand :: later, said, words =>
    match takeOperand words with
    | none => .ok ({ said with awaited := operand :: later }, words)
    | some (taken, rest) =>
      match operand with
      | .free name =>
        takeOperands c later { said with values := (name, operandText taken) :: said.values } rest
      | .choice name allowed => do
        checkChoice c operand allowed (operandText taken)
        takeOperands c later { said with values := (name, operandText taken) :: said.values } rest
      | .command _ allowed => do
        let texts := words.map Word.text
        checkChoice c operand allowed (texts.headD "")
        return ({ said with command := some (texts.headD "", texts.drop 1), awaited := later }, [])

/-- Carries an option out. -/
def Said.obey (said : Said) (c : Command) (o : CommandOption) (value : String) : Except Halt Said :=
  match o.effect with
  | .help => .error (.help c)
  | .mark => .ok { said with marks := o.title :: said.marks }
  | .value => .ok { said with values := (o.title, value) :: said.values }

/-- Complains about a value behind an option that takes none. -/
def ignoredValue {α : Type} (c : Command) (o : CommandOption) (value : String) : Except Halt α :=
  .error (.misuse c s!"argument {o.title}: ignored explicit argument {quoted value}")

/-- Reads an option with a value behind it. If the option takes none, the value is read as more
options of one letter, none of which is carried out unless all of them can be. The option in need of
the next word is given back with those to be carried out before. -/
def readCluster (c : Command) : (fuel : Nat) → CommandOption → (spelling : String) →
    (value : Option String) → Except Halt (List CommandOption × CommandOption × Option String)
  | 0, o, _, value => .ok ([], o, value)
  | fuel + 1, o, spelling, value =>
    match value with
    | none => .ok ([], o, none)
    | some text =>
      if o.effect = .value then .ok ([], o, some text)
      else
        match text.toList with
        | letter :: rest =>
          if spelling.startsWith "--" then ignoredValue c o text
          else
            let name := String.ofList ['-', letter]
            match c.named? name with
            | none => ignoredValue c o text
            | some next => do
              let more := if rest.isEmpty then none else some (String.ofList rest)
              let (before, last, value) ← readCluster c fuel next name more
              return (o :: before, last, value)
        | [] => ignoredValue c o text

/-- Carries an option out, with its value from the words behind it if need be. -/
def takeOption (c : Command) (said : Said) (o : CommandOption) (spelling : String)
    (value : Option String) (words : List Word) : Except Halt (Said × List Word) := do
  let length := spelling.length + (value.getD "").length
  let (before, last, value) ← readCluster c length o spelling value
  let obeyAll (said : Said) := before.foldlM (fun said o => said.obey c o "") said
  match last.effect, value with
  | .value, some text => return (← (← obeyAll said).obey c last text, words)
  | .value, none =>
    match words with
    | w :: rest =>
      if w.kind == .operand then return (← (← obeyAll said).obey c last w.text, rest)
      else .error (.misuse c s!"argument {last.title}: expected one argument")
    | [] => .error (.misuse c s!"argument {last.title}: expected one argument")
  | _, _ => return (← (← obeyAll said).obey c last "", words)

/-- Is the word an option, or like one? -/
def Word.isOption (w : Word) : Bool :=
  match w.kind with
  | .option _ _ _ => true
  | .unknown => true
  | _ => false

/-- Takes all words. -/
def takeWords (c : Command) : (fuel : Nat) → Said → List Word → Except Halt Said
  | 0, said, _ => .ok said
  | fuel + 1, said, words => do
    match words with
    | [] =>
      return (← takeOperands c said.awaited said []).1
    | w :: rest =>
      match w.kind with
      | .option o spelling value =>
        let (said, rest) ← takeOption c said o spelling value rest
        takeWords c fuel said rest
      | .unknown => takeWords c fuel { said with leftOver := said.leftOver ++ [w.text] } rest
      | _ =>
        let (said, rest) ← takeOperands c said.awaited said words
        if rest.length < words.length then takeWords c fuel said rest
        else
          let extra := rest.takeWhile fun w => !w.isOption
          takeWords c fuel { said with leftOver := said.leftOver ++ extra.map Word.text }
            (rest.drop extra.length)

/-- Reads a command line. The operands that are missing are complained about. -/
def Command.read (c : Command) (arguments : List String) : Except Halt Said := do
  let words ← c.words arguments
  let said ← takeWords c (words.length + 1) ⟨[], [], none, [], c.operands⟩ words
  let missing := said.awaited.filter fun operand => !(operand matches .command _ _)
  if missing.isEmpty then return said
  else
    let names := ", ".intercalate (missing.map Operand.name)
    .error (.misuse c s!"the following arguments are required: {names}")

end BusContract
