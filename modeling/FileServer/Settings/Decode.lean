import FileServer.Number.Wide
import FileServer.Settings.Basic
import FileServer.Settings.Value
import FileServer.Text.LowerCase

/-!
From values to settings. Values of one kind are taken for another where there is a plain way from
one to the other; where there is none, the refusal names the key and the place of the value.
-/

namespace FileServer

namespace SettingsError

/-- A key in front of the key of what is inside. -/
def before (segment : String) (withPoint : Bool) (key : Option String) : String :=
  let key := key.getD ""
  let point := withPoint && !(key.isEmpty || key.toList.head? == some '[')
  segment ++ (if point then "." else "") ++ key

/-- The refusal of a value inside a table, under its name. -/
def under (name : String) : SettingsError → SettingsError
  | mistyped found expected key origin =>
    mistyped found expected (some (before name true key)) origin
  | missing key => missing (before name true (some key))
  | e => e

/-- The refusal of a value inside a sequence, at its place. -/
def atIndex (i : Nat) : SettingsError → SettingsError
  | mistyped found expected key origin =>
    mistyped found expected (some (before ("[" ++ toString i ++ "]") false key)) origin
  | missing key => missing (before ("[" ++ toString i ++ "]") false (some key))
  | e => e

end SettingsError

namespace Value

/-- The result of reading a setting. -/
abbrev Decoded (α : Type) := Except SettingsError α

/-- Refuses a value where another kind is needed. -/
def refuse {α : Type} (v : Value) (expected : String) : Decoded α :=
  throw (.mistyped v.found expected none v.origin?)

/-- The words that stand for the two truth values, in any case; ones and zeros are told apart by
`withDigits`. -/
def truth? (withDigits : Bool) (word : String) : Option Bool :=
  match word with
  | "true" | "on" | "yes" => some true
  | "false" | "off" | "no" => some false
  | "1" => if withDigits then some true else none
  | "0" => if withDigits then some false else none
  | _ => none

/-- Reads a truth value, also from a number or a word. -/
def toBool (v : Value) : Decoded Bool :=
  match v with
  | scalar _ (.boolean b) => pure b
  | scalar _ (.integer n) => pure (n != 0)
  | scalar _ (.floating x) => pure x.isNonzero
  | scalar origin (.string s) =>
    let word := Text.lower s
    match truth? true word with
    | some b => pure b
    | none => throw (.mistyped (.string word) "a boolean" none origin)
  | v => v.refuse "a boolean"

/-- Reads a natural number of 64 bits, also from a floating-point number, a truth value or a
text. -/
def toNatural (v : Value) : Decoded Nat :=
  match v with
  | scalar origin (.integer n) =>
    if n < 0 then
      throw (.mistyped (.wideInteger n) "an unsigned 64 bit or less integer" none origin)
    else pure n.toNat
  | scalar _ (.floating x) => pure (x.saturate 0 Wide.greatestNatural).toNat
  | scalar _ (.boolean b) => pure b.toNat
  | scalar _ (.string s) =>
    match truth? false (Text.lower s) with
    | some b => pure b.toNat
    | none =>
      match Wide.readNatural? s with
      | some n => pure n
      | none => v.refuse "an integer"
  | v => v.refuse "an integer"

/-- Reads a port. -/
def toPort (v : Value) : Decoded Nat := do
  let n ← v.toNatural
  if n < 65536 then pure n
  else throw (.mistyped (.wideNatural n) "an unsigned 16 bit integer" none none)

/-- Reads a text, also from a number or a truth value. -/
def toText (v : Value) : Decoded String :=
  match v with
  | scalar _ (.string s) => pure s
  | scalar _ (.boolean b) => pure (toString b)
  | scalar _ (.integer n) => pure (toString n)
  | scalar _ (.floating x) => pure x.text
  | v => v.refuse "a string"

/-- Reads what may be absent. -/
def toOptional {α : Type} (read : Value → Decoded α) : Value → Decoded (Option α)
  | scalar _ .nothing => pure none
  | v => some <$> read v

/-- Refuses a value in the place of a group of settings; its key is not told. -/
def refuseGroup {α : Type} (v : Value) (expected : String) : Decoded α :=
  throw (.worded ((SettingsError.mistyped v.found expected none none).message))

/-- Reads the items of a sequence from the given place on. -/
def readItems {α : Type} (read : Value → Decoded α) (i : Nat) : List Value → Decoded (List α)
  | [] => pure []
  | v :: rest => do
    let a ← (read v).mapError (·.atIndex i)
    return a :: (← readItems read (i + 1) rest)

/-- Reads a list. -/
def toList {α : Type} (read : Value → Decoded α) (v : Value) : Decoded (List α) :=
  match v with
  | sequence _ items => readItems read 0 items
  | v => v.refuseGroup "a sequence"

/-- Reads entries under any names. -/
def toEntries {α : Type} (read : Value → Decoded α) (v : Value) : Decoded (List (String × α)) :=
  match v with
  | table _ entries =>
    entries.mapM fun (name, v) => do return (name, ← (read v).mapError (·.under name))
  | v => v.refuseGroup "a map"

/-- A setting of a group: its name, and how its value changes the group. -/
abbrev Setter (α : Type) := String × (Value → α → Decoded α)

/-- A setting of a group, by a reader of its value and a change of the group. -/
def setter {α β : Type} (name : String) (read : Value → Decoded β) (set : β → α → α) : Setter α :=
  (name, fun v a => do return set (← read v) a)

/-- Reads the settings of a group one by one from a sequence. -/
def readPlaces {α : Type} (start : α) (i : Nat) : List (Setter α) → List Value → Decoded α
  | (_, set) :: setters, v :: rest => do
    let a ← (set v start).mapError (·.atIndex i)
    readPlaces a (i + 1) setters rest
  | _, _ => pure start

/-- Reads a group of settings from a table by their names, or from a sequence in their order. What
is not given stays as it is, and unknown names do not count. -/
def toGroup {α : Type} (kind : String) (setters : List (Setter α)) (start : α) (v : Value) :
    Decoded α :=
  match v with
  | table _ entries =>
    entries.foldlM (fun a (name, v) =>
      match setters.lookup name with
      | some set => (set v a).mapError (·.under name)
      | none => pure a) start
  | sequence _ items => readPlaces start 0 setters items
  | v => v.refuseGroup ("struct " ++ kind)

end Value

namespace Settings

open Value

/-- The settings of the section on the server. -/
def serverSetters : List (Setter ServerSettings) :=
  [setter "host" toText fun host s => { s with host },
    setter "port" toPort fun port s => { s with port },
    setter "root" toText fun root s => { s with root },
    setter "workers" (toOptional toNatural) fun workers s => { s with workers }]

/-- The settings of the section on logging. -/
def loggingSetters : List (Setter LoggingSettings) :=
  [setter "access_log" toBool fun accessLog s => { s with accessLog },
    setter "access_log_format" toText fun accessLogFormat s => { s with accessLogFormat },
    setter "access_log_file" (toOptional toText) fun accessLogFile s => { s with accessLogFile },
    setter "error_log_file" (toOptional toText) fun errorLogFile s => { s with errorLogFile }]

/-- The settings of the section on performance. -/
def performanceSetters : List (Setter PerformanceSettings) :=
  [setter "keep_alive" toBool fun keepAlive s => { s with keepAlive },
    setter "read_timeout" toNatural fun readTimeout s => { s with readTimeout },
    setter "max_connections" (toOptional toNatural) fun maxConnections s =>
      { s with maxConnections }]

/-- The settings of the section on HTTP. -/
def httpSetters : List (Setter HttpSettings) :=
  [setter "server_name" toText fun serverName s => { s with serverName },
    setter "index_files" (toList toText) fun indexFiles s => { s with indexFiles },
    setter "directory_listing" toBool fun directoryListing s => { s with directoryListing }]

/-- The settings of the section on media types. -/
def mediaSetters : List (Setter (List (String × String))) :=
  [setter "types" (toEntries toText) fun types _ => types]

/-- The sections. -/
def sectionSetters : List (Setter Settings) :=
  [setter "server" (toGroup "ServerConfig" serverSetters {}) fun server s => { s with server },
    setter "logging" (toGroup "LoggingConfig" loggingSetters {}) fun logging s =>
      { s with logging },
    setter "performance" (toGroup "PerformanceConfig" performanceSetters {}) fun performance s =>
      { s with performance },
    setter "http" (toGroup "HttpConfig" httpSetters {}) fun http s => { s with http },
    setter "mime" (toGroup "MimeConfig" mediaSetters []) fun mediaTypes s => { s with mediaTypes }]

/-- The settings that a value describes, over the defaults. -/
def ofValue (v : Value) : Except SettingsError Settings :=
  toGroup "Config" sectionSetters {} v

end Settings

end FileServer
