import FileServer.Disk.Path
import FileServer.MediaType.Registry
import FileServer.Text.LowerCase

/-!
Which media type a file is sent with. The extension of its name is looked up as it is written and
then in small letters; later additions to the table hide earlier ones.
-/

namespace FileServer

/-- The extension of a file name: from its last dot on. Dots at the front of the name do not
count. -/
def extensionOf (name : String) : String :=
  let afterLastDot := name.toList.reverse.takeWhile (· != '.')
  let upToLastDot := name.toList.reverse.dropWhile (· != '.')
  if upToLastDot.all (· == '.') then "" else String.ofList ('.' :: afterLastDot.reverse)

/-- A table of extensions and their media types, the last addition first. -/
structure MediaTypes where
  entries : List (String × String)
  deriving Repr, DecidableEq

namespace MediaTypes

/-- The registered types alone. -/
def baseline : MediaTypes := ⟨MediaType.registry⟩

/-- Adds one type or replaces it. -/
def add (m : MediaTypes) (extension type : String) : MediaTypes := ⟨(extension, type) :: m.entries⟩

/-- The registered types and that of compiled modules. -/
def standard : MediaTypes := baseline.add ".wasm" "application/wasm"

/-- The standard types, with extra ones that win over them. -/
def withExtras (extras : List (String × String)) : MediaTypes :=
  extras.foldl (fun m (extension, type) => m.add extension type) standard

/-- The type of an extension as it is written. -/
def asWritten? (m : MediaTypes) (extension : String) : Option String := m.entries.lookup extension

/-- The type of an extension: as it is written, else in small letters, else unknown. -/
def resolve (m : MediaTypes) (extension : String) : String :=
  (m.asWritten? extension).getD ((m.asWritten? (Text.lower extension)).getD MediaType.unknown)

/-- The type of the file at a path, by the extension of its name. -/
def resolvePath (m : MediaTypes) (path : Path) : String :=
  m.resolve (extensionOf (Utf8.toStringLossy (path.fileName?.getD [])))

end MediaTypes

end FileServer
