import FileServer.Number.Decimal
import FileServer.Number.Wide
import FileServer.Settings.Json.Document
import FileServer.Settings.Yaml.Tag

/-!
The values of a document. A plain text has the kind that its form or its tag tells; tables may have
keys of any kind. Settings can be made of a value if its keys are texts and whole numbers.
-/

namespace FileServer.Yaml

open Text

/-- A value of a document. A text that does not have the form of the kind which its tag tells is
void; a number that is not whole is kept as it is written. -/
inductive Node where
  | absent
  | void
  | boolean (b : Bool)
  | integer (n : Int)
  | number (text : String)
  | text (s : String)
  | sequence (items : List Node)
  | mapping (entries : List (Node × Node))
  deriving Repr, Inhabited

/-- The whole number of 64 bits that digits of a base spell, with a sign in front of them or not. -/
def readRadix? (base : Nat) (cs : List Char) : Option Int :=
  let (negative, digits) := Binary64.readSign cs
  if digits.isEmpty then none
  else do
    let n ← digits.foldlM (fun n c => do
      let d ← hexValue? c
      if d < base then some (n * base + d) else none) 0
    let n : Int := if negative then -(n : Int) else n
    if Wide.holds n then some n else none

/-- The whole number that a plain text means. -/
def integer? (word : List Char) : Option Int :=
  match word with
  | '0' :: 'x' :: digits => readRadix? 16 digits
  | '0' :: 'o' :: digits => readRadix? 8 digits
  | '+' :: digits => readRadix? 10 digits
  | digits => readRadix? 10 digits

/-- The words for a number that is not finite. Only one of them has a value as a setting. -/
def unbounded : List String :=
  [".inf", ".Inf", ".INF", "+.inf", "+.Inf", "+.INF", "-.inf", "-.Inf", "-.INF", ".nan", "NaN",
    ".NAN"]

/-- Whether a plain text is a number that need not be whole. -/
def isNumber (s : String) : Bool :=
  unbounded.contains s || (s.toList.any Char.isDigit && (Binary64.ofText? s).isSome)

namespace Node

/-- What a plain text without a tag means. -/
def ofPlain (s : String) : Node :=
  match integer? s.toList with
  | some n => integer n
  | none =>
    if s = "~" ∨ s = "null" then absent
    else if s = "true" then boolean true
    else if s = "false" then boolean false
    else if isNumber s then number s
    else text s

/-- What a plain text means as one of the kinds that every reader knows. -/
def ofKind (kind s : String) : Node :=
  match kind with
  | "bool" => if s = "true" then boolean true else if s = "false" then boolean false else void
  | "int" => ((Wide.read? s).map integer).getD void
  | "float" => if isNumber s then number s else void
  | "null" => if s = "~" ∨ s = "null" then absent else void
  | _ => text s

/-- What a text means under a tag. In quotes and under other tags it is a text. -/
def ofText (isPlain : Bool) (tag : Option Tag) (s : String) : Node :=
  match isPlain, tag with
  | false, _ => text s
  | true, none => ofPlain s
  | true, some t => if t.handle = Tag.known then ofKind t.suffix s else text s

mutual

/-- Whether two values are the same. -/
def same : Node → Node → Bool
  | absent, absent => true
  | void, void => true
  | boolean a, boolean b => a == b
  | integer m, integer n => m == n
  | number s, number t => s == t
  | text s, text t => s == t
  | sequence as, sequence bs => allSame as bs
  | mapping as, mapping bs => entriesSame as bs
  | _, _ => false

/-- Whether two sequences have the same values. -/
def allSame : List Node → List Node → Bool
  | [], [] => true
  | a :: as, b :: bs => same a b && allSame as bs
  | _, _ => false

/-- Whether two tables have the same entries in the same order. -/
def entriesSame : List (Node × Node) → List (Node × Node) → Bool
  | [], [] => true
  | (k, v) :: as, (j, w) :: bs => same k j && same v w && entriesSame as bs
  | _, _ => false

end

/-- The entries of keys and values that follow each other. A void key is passed over, so that the
value behind it becomes a key; a key at the end that is left without a value is dropped. -/
def paired : List Node → List (Node × Node)
  | void :: rest => paired rest
  | k :: v :: rest => (k, v) :: paired rest
  | _ => []

/-- Whether no key stands in entries twice. -/
def hasDistinctKeys : List (Node × Node) → Bool
  | [] => true
  | (k, _) :: rest => !(rest.any fun e => same k e.1) && hasDistinctKeys rest

/-- The table of keys and values that follow each other, if no key stands in it twice. -/
def table? (parts : List Node) : Option Node :=
  let entries := paired parts
  if hasDistinctKeys entries then some (mapping entries) else none

mutual

/-- The value as a setting. -/
def toValue : Node → Except SettingsError Value
  | absent | void => pure .nothing
  | boolean b => pure (.boolean b)
  | integer n => pure (.integer n)
  | text s => pure (.text s)
  | number s =>
    match Binary64.ofText? s with
    | some x => pure (.floating x)
    | none => throw .unreadable
  | sequence items => return .sequence none (← toValues items)
  | mapping entries => return .table none (Json.entriesOf (← toEntries entries))

/-- The values as settings. -/
def toValues : List Node → Except SettingsError (List Value)
  | [] => pure []
  | n :: rest => return (← toValue n) :: (← toValues rest)

/-- The entries of a table as settings; each key must be a text or a whole number. -/
def toEntries : List (Node × Node) → Except SettingsError (List (String × Value))
  | [] => pure []
  | (k, v) :: rest =>
    match k with
    | text s => return (s, ← toValue v) :: (← toEntries rest)
    | integer n => return (toString n, ← toValue v) :: (← toEntries rest)
    | _ => throw .unnamedKey

end

end Node

end FileServer.Yaml
