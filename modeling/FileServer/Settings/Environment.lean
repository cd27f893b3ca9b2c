import FileServer.Number.Decimal
import FileServer.Number.Wide
import FileServer.Settings.Value
import FileServer.Text.LowerCase
import FileServer.Text.Utf8

/-!
Settings from the environment. A variable counts if its name begins with the name of the server and
an underscore, in any case; two underscores lead into a section. A value that looks like a truth
value or a number is one.
-/

namespace FileServer.Environment

open Text

/-- The front of the names that count, in small letters. -/
def front : List Char := "devserve_".toList

/-- How values from the environment are referred to. -/
def origin : String := "the environment"

/-- The name with a point in the place of every two underscores. -/
def withPoints : List Char → List Char
  | '_' :: '_' :: rest => '.' :: withPoints rest
  | c :: rest => c :: withPoints rest
  | [] => []

/-- The key that the name of a variable spells, if the variable counts. -/
def key? (name : String) : Option String :=
  (word front (lower name).toList).map fun rest => String.ofList (withPoints rest)

/-- What a text looks like: a truth value in any case, a whole number, a number, or a text. -/
def scalarOf (text : String) : Scalar :=
  match lower text with
  | "true" => .boolean true
  | "false" => .boolean false
  | _ =>
    match Wide.read? text with
    | some n => .integer n
    | none =>
      match Binary64.ofText? text with
      | some x => .floating x
      | none => .string text

/-- The keys and values that the variables give. -/
def given (environment : List (String × String)) : List (String × Value) :=
  environment.filterMap fun (name, text) =>
    (key? name).map (·, .scalar (some origin) (scalarOf text))

/-- The variables in a block of bytes, each a name, an equals sign and a text up to a zero byte. The
equals sign is not the first byte. -/
def ofBlock (block : Bytes) : List (String × String) :=
  (block.splitOn 0).filterMap fun entry =>
    match entry with
    | [] => none
    | first :: rest =>
      let name := first :: rest.takeWhile (· != 61)
      if name.length = entry.length then none
      else some (Utf8.toStringLossy name, Utf8.toStringLossy (entry.drop (name.length + 1)))

end FileServer.Environment
