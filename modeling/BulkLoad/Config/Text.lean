import BulkLoad.Config.Rules
import BulkLoad.Config.Schema
import BulkLoad.Json.Printer
import BulkLoad.Json.Reader
import BulkLoad.Toml.Printer
import BulkLoad.Toml.Reader

/-!
A configuration as a text in one of the two formats.
-/
namespace BulkLoad

namespace Format

def name : Format → String
  | .toml => "toml"
  | .json => "json"

/-- The format that a file name extension stands for, in letters of either case. No letter outside
ASCII has a lower-case form among the letters of these names. -/
def ofExtension? (extension : String) : Option Format :=
  let lower := extension.toList.map Char.toLower
  if lower = "toml".toList then some .toml
  else if lower = "json".toList then some .json
  else none

/-- The failure of a text that is not in the format, or in which a setting does not fit. -/
def unreadable : Format → Fault
  | .toml => .configText "TOML parse error"
  | .json => .configText "JSON parse error"

/-- The settings that a text holds. -/
def settings? (format : Format) (text : String) : Option Setting :=
  match format with
  | .toml => (Toml.parse? text).map fun entries => .group (Setting.ofTomlEntries entries)
  | .json => (Json.parse? text).map Setting.ofJson

end Format

namespace Config

/-- The configuration that a text gives, not yet checked against the rules. -/
def ofText? (format : Format) (text : String) : Option Config :=
  (format.settings? text).bind (ofSetting? format)

/-- The configuration that a text gives, if it breaks no rule. -/
def ofText (format : Format) (text : String) : Except Fault Config :=
  match ofText? format text with
  | none => .error format.unreadable
  | some c =>
    match c.validate with
    | .error f => .error f
    | .ok () => .ok c

/-- The text of a configuration. -/
def toText (c : Config) : Format → String
  | .json => Json.toPage c.toSetting.toJson
  | .toml =>
    match c.toSetting with
    | .group members => Toml.toPage (Setting.toTomlEntries members)
    | _ => ""

end Config
end BulkLoad
