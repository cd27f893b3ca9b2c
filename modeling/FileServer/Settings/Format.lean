import FileServer.Settings.Ini
import FileServer.Settings.Json.Relaxed
import FileServer.Settings.Ron.Document
import FileServer.Settings.Toml.Document
import FileServer.Settings.Yaml.Document

/-!
The formats in which settings may be written, told by the extension of the file.
-/

namespace FileServer

/-- A format of settings. -/
inductive Format where
  | toml
  | json
  | yaml
  | ini
  | ron
  | relaxedJson
  deriving Repr, DecidableEq

namespace Format

/-- The extensions of files with settings, in the order in which they are tried. -/
def extensions : List (String × Format) :=
  [("toml", toml), ("json", json), ("yaml", yaml), ("yml", yaml), ("ini", ini), ("ron", ron),
    ("json5", relaxedJson)]

/-- The keys and values that a text gives, if it is a table in the format. -/
def read (f : Format) (text : String) : Except SettingsError (List (String × Value)) :=
  let given (entries : Option (List (String × Value))) :=
    (entries.map pure).getD (throw .unreadable)
  let table : Option Value → Except SettingsError (List (String × Value))
    | some (.table _ entries) => pure entries
    | _ => throw .unreadable
  match f with
  | toml => given (Toml.read? text)
  | json => table (Json.read? text)
  | yaml => Yaml.read text
  | ini => given (Ini.read? text)
  | ron => table (Ron.read? text)
  | relaxedJson => table (Json.Relaxed.read? text)

end Format

end FileServer
