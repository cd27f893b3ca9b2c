/-!
Text inside HTML. The five characters that HTML gives a meaning are written as entities, and no
other character is changed, so the text can be read back.
-/

namespace FileServer.Html

/-- One character as it stands in element content or between quotes. -/
def escapeChar (c : Char) : List Char :=
  match c with
  | '&' => "&amp;".toList
  | '<' => "&lt;".toList
  | '>' => "&gt;".toList
  | '"' => "&quot;".toList
  | '\'' => "&#x27;".toList
  | c => [c]

/-- The text as it stands in element content or between quotes. -/
def escape (s : String) : String := String.ofList (s.toList.flatMap escapeChar)

/-- Replaces the five entities by the characters they stand for. -/
def unescapeChars : List Char → List Char
  | '&' :: 'a' :: 'm' :: 'p' :: ';' :: rest => '&' :: unescapeChars rest
  | '&' :: 'l' :: 't' :: ';' :: rest => '<' :: unescapeChars rest
  | '&' :: 'g' :: 't' :: ';' :: rest => '>' :: unescapeChars rest
  | '&' :: 'q' :: 'u' :: 'o' :: 't' :: ';' :: rest => '"' :: unescapeChars rest
  | '&' :: '#' :: 'x' :: '2' :: '7' :: ';' :: rest => '\'' :: unescapeChars rest
  | c :: rest => c :: unescapeChars rest
  | [] => []

/-- The text that an escaped text stands for. -/
def unescape (s : String) : String := String.ofList (unescapeChars s.toList)

/-- A character that starts no entity stands for itself. -/
theorem unescapeChars_cons {c : Char} (h : c ≠ '&') (rest : List Char) :
    unescapeChars (c :: rest) = c :: unescapeChars rest := by
  rw [unescapeChars] <;> exact fun _ heq => absurd heq h

/-- An escaped character is read back, whatever follows it. -/
theorem unescapeChars_escapeChar (c : Char) (rest : List Char) :
    unescapeChars (escapeChar c ++ rest) = c :: unescapeChars rest := by
  unfold escapeChar
  split
  case h_6 hamp _ _ _ _ => exact unescapeChars_cons hamp rest
  all_goals simp [unescapeChars]

/-- Escaping is undone by replacing the entities. -/
theorem unescapeChars_flatMap_escapeChar (cs : List Char) :
    unescapeChars (cs.flatMap escapeChar) = cs := by
  induction cs with
  | nil => rfl
  | cons c rest ih => rw [List.flatMap_cons, unescapeChars_escapeChar, ih]

end FileServer.Html
