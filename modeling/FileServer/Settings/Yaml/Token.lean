import FileServer.Settings.Yaml.Tag

/-!
The marks and texts of which a document is made. Blocks, which are written by indentation alone,
have marks of their own here where they start and end.
-/

namespace FileServer.Yaml

/-- A mark or a text. -/
inductive Token where
  /-- A document starts. -/
  | opening
  /-- A document ends. -/
  | ending
  /-- A directive that names the version of the format. -/
  | version
  /-- A directive that gives a handle its meaning. -/
  | meaning (handle start : String)
  /-- A sequence starts that is written with dashes. -/
  | items
  /-- A table starts that is written with indented keys. -/
  | entries
  /-- A sequence or a table ends that is written by indentation. -/
  | blockEnd
  | bracket
  | bracketEnd
  | brace
  | braceEnd
  | comma
  | dash
  | key
  | value
  | alias (name : String)
  | anchor (name : String)
  | tag (t : Tag)
  | text (isPlain : Bool) (s : String)
  deriving Repr, DecidableEq

end FileServer.Yaml
