import BusContract.Markup.Scan

/-!
# The XML declaration

The declaration gives a version, then may give an encoding and whether the document stands alone,
each written like an attribute. Version and encoding are read and not used: the text is already
decoded.
-/

namespace BusContract.Markup

/-- One of the settings of the declaration, with the places of its name and value. -/
structure Setting where
  name : List Char
  /-- The declaration from the name on. -/
  fromName : List Char
  value : List Char
  /-- The declaration from the value on. -/
  fromValue : List Char
  deriving Repr, DecidableEq

/-- May the character stand in the value of a setting? -/
def isSettingPart (c : Char) : Bool := c.isAlphanum || c == '.' || c == '-' || c == '_'

/-- Does the character end the name of a setting? Those beyond ASCII cannot stand in one. -/
def endsSettingName (c : Char) : Bool := c == '=' || isBlank c || c.toNat ≥ 0x80

/-- Reads the next setting: none at the end of the declaration, else the setting and the rest, or
the declaration from the offending character on. -/
def scanSetting (s : List Char) : Except (List Char) (Option (Setting × List Char)) :=
  if s.isEmpty then .ok none
  else
    let fromName := skipBlanks s
    if fromName.length = s.length then .error s
    else if fromName.isEmpty then .ok none
    else
      let name := fromName.takeWhile fun c => !endsSettingName c
      let sign := skipBlanks (fromName.drop name.length)
      match sign with
      | '=' :: rest =>
        if name.isEmpty then .error sign
        else match skipBlanks rest with
          | [] => .error []
          | quote :: fromValue =>
            if quote != '"' && quote != '\'' then .error (quote :: fromValue)
            else
              let value := fromValue.takeWhile isSettingPart
              let rest := fromValue.drop value.length
              match rest with
              | [] => .error []
              | c :: after =>
                if c = quote then .ok (some (⟨name, fromName, value, fromValue⟩, after))
                else .error rest
      | bad => .error bad

/-- Reads the setting that says whether the document stands alone, which has to be the last. -/
def readStandalone (setting : Setting) (rest : List Char) : Except (List Char) Bool :=
  if setting.name != "standalone".toList then .error setting.fromName
  else
    let answer := setting.value
    if answer != "yes".toList && answer != "no".toList then .error setting.fromValue
    else
      let bad := skipBlanks rest
      if bad.isEmpty then .ok (answer == "yes".toList) else .error bad

/-- Reads the declaration, given what stands between `<?xml` and `?>`: does the document say that it
stands alone? An error is the declaration from the offending part on. -/
def readXmlDeclaration (s : List Char) : Except (List Char) Bool := do
  match ← scanSetting s with
  | none => throw s
  | some (version, rest) =>
    if version.name != "version".toList then throw version.fromName
    match ← scanSetting rest with
    | none => return false
    | some (second, rest) =>
      if second.name == "encoding".toList then
        if !(second.value.head?.any Char.isAlpha) then throw second.fromValue
        match ← scanSetting rest with
        | none => return false
        | some (third, rest) => readStandalone third rest
      else readStandalone second rest

end BusContract.Markup
