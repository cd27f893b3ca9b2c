import FileServer.Number.Binary64
import FileServer.Text.Quoted

/-!
Why settings cannot be used.
-/

namespace FileServer

/-- What was found in the place of something else. -/
inductive Found where
  | boolean (b : Bool)
  | integer (n : Int)
  | wideInteger (n : Int)
  | wideNatural (n : Nat)
  | floating (x : Binary64)
  | string (s : String)
  | unit
  | sequence
  | map
  deriving Repr, DecidableEq

namespace Found

/-- A number with a point, so that it does not look whole. -/
def pointedText (x : Binary64) : String :=
  let text := x.text
  match x with
  | .finite .. => if text.toList.contains '.' then text else text ++ ".0"
  | _ => text

/-- What was found, in words; the width of integers is told where `wide` is set. -/
def describe : Found → String
  | boolean b => "boolean \x60" ++ toString b ++ "\x60"
  | integer n => "integer \x60" ++ toString n ++ "\x60"
  | wideInteger n => "64-bit integer \x60" ++ toString n ++ "\x60"
  | wideNatural n => "64-bit unsigned integer \x60" ++ toString n ++ "\x60"
  | floating x => "floating point \x60" ++ pointedText x ++ "\x60"
  | string s => "string " ++ Text.quoted s
  | unit => "unit value"
  | sequence => "sequence"
  | map => "map"

end Found

/-- Why settings cannot be used: a file that is no table of settings, a key that means a place
before the first of a sequence, a key that is neither a text nor a whole number, a value of the
wrong type, a setting that is missing, or a reason in words. -/
inductive SettingsError where
  | unreadable
  | beforeFirst
  | unnamedKey
  | mistyped (found : Found) (expected : String) (key origin : Option String)
  | missing (key : String)
  | worded (words : String)
  deriving Repr, DecidableEq

/-- The wording of a refusal of settings. -/
def SettingsError.message : SettingsError → String
  | unreadable => "unreadable"
  | beforeFirst => "index out of range"
  | unnamedKey => "key without a name"
  | mistyped found expected key origin =>
    "invalid type: " ++ found.describe ++ ", expected " ++ expected ++
      (key.map fun k => " for key \x60" ++ k ++ "\x60").getD "" ++
      (origin.map (" in " ++ ·)).getD ""
  | missing key => "configuration property " ++ Text.quoted key ++ " not found"
  | worded words => words

end FileServer
