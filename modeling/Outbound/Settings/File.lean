import Outbound.Message.Basic
import Outbound.Settings.Format
import Outbound.Settings.Problem

/-!
# Loading settings

Settings are loaded from a text in a known format, or from a file whose name tells the format.
Loaded settings have no problem.

## Main definitions

* `LoadFailure`: why settings cannot be loaded
* `Settings.load`: the settings of a text
* `Settings.loadFile`: the settings of a file
-/

namespace Outbound

/-- What is found under a name. -/
inductive FileContent
  | missing
  | directory
  | bytes (content : Bytes)

/-- **Why settings cannot be loaded.** -/
inductive LoadFailure
  /-- There is nothing to read. -/
  | missing
  /-- A directory cannot be read as a file. -/
  | directory
  /-- No file has a name of that length. -/
  | nameTooLong
  /-- No file has a name with that character. -/
  | nameCharacter
  /-- The bytes are no text. -/
  | noText
  /-- The text is ill-formed, or stands for no settings. -/
  | malformed (format : SettingsFormat)
  /-- The settings cannot be checked. -/
  | uncheckable
  /-- The settings make no sense. -/
  | invalid (problems : List SettingsProblem)

/-- **The settings of a text.** -/
def Settings.load (format : SettingsFormat) (text : String) : Except LoadFailure Settings :=
  match format.settings? text with
  | none => .error (.malformed format)
  | some s =>
    if s.isCheckable then match s.problems with
      | [] => .ok s
      | problems => .error (.invalid problems)
    else .error .uncheckable

/-- What follows the last point of a name, unless the name begins there or has none. -/
def extension? (name : String) : Option String :=
  let last := name.toList.reverse.takeWhile (· != '/')
  let tail := last.takeWhile (· != '.')
  if tail.length + 1 < last.length then some (String.ofList tail.reverse) else none

def SettingsFormat.ofFileName (name : String) : SettingsFormat :=
  if (extension? name).map asciiLower = some "json" then .json else .toml

/-- The parts of a name between slashes. -/
def nameParts (name : String) : List (List Char) :=
  name.toList.foldr (fun c acc => match acc with
    | [] => [[c]]
    | part :: rest => if c = '/' then [] :: part :: rest else (c :: part) :: rest) [[]]

/-- The greatest number of bytes of a name. -/
def greatestName : Nat := 4095

/-- The greatest number of bytes of a part of a name. -/
def greatestPart : Nat := 255

/-- Why nothing can be read under a name that nothing has been put under. A name of points alone
stands for a directory. -/
def missingCause (name : String) : LoadFailure :=
  let isKnown (part : List Char) : Bool := ["", ".", ".."].contains (String.ofList part)
  if name.toList.contains '\x00' then .nameCharacter
  else if greatestName < name.utf8ByteSize then .nameTooLong
  else match (nameParts name).dropWhile isKnown with
    | [] => .directory
    | part :: _ =>
      if greatestPart < (String.ofList part).utf8ByteSize then .nameTooLong else .missing

/-- **The settings of a file.** -/
def Settings.loadFile (name : String) : FileContent → Except LoadFailure Settings
  | .missing => .error (missingCause name)
  | .directory => .error .directory
  | .bytes content => match Bytes.text? content with
    | none => .error .noText
    | some text => Settings.load (.ofFileName name) text

end Outbound
