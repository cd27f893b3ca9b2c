import FileServer.Text.LowerCase
import FileServer.Text.ObscureTable

/-!
Quoted text in messages: between double quotes, with a backslash before quotes, backslashes and
control characters, and with the number of every character that would not be seen by itself.
-/

namespace FileServer.Text

/-- A number in hexadecimal with small letters and no leading zeros. -/
def hex (n : Nat) : List Char := Nat.toDigits 16 n

/-- How a character stands inside quoted text. -/
def quotedChar (c : Char) : List Char :=
  match c with
  | '\x00' => ['\\', '0']
  | '\t' => ['\\', 't']
  | '\r' => ['\\', 'r']
  | '\n' => ['\\', 'n']
  | '"' => ['\\', '"']
  | '\\' => ['\\', '\\']
  | c => if inRanges obscureRanges c.toNat then "\\u\x7b".toList ++ hex c.toNat ++ ['\x7d'] else [c]

/-- The text between double quotes, with escapes. -/
def quoted (s : String) : String :=
  String.ofList ('"' :: s.toList.flatMap quotedChar ++ ['"'])

end FileServer.Text
