import FileServer.System.Failure

/-!
Why an operation on files is refused.
-/

namespace FileServer.Disk

/-- Why an operation on files is refused. -/
inductive Error where
  | missing
  | denied
  | alreadyThere
  | notADirectory
  | isADirectory
  | notEmpty
  | intoItself
  | nameTooLong
  | tooManyLinks
  | holdsNul
  deriving Repr, DecidableEq

/-- The refusal as the operating system reports it. -/
def Error.failure : Error → Failure
  | missing => .numbered 2
  | denied => .numbered 13
  | alreadyThere => .numbered 17
  | notADirectory => .numbered 20
  | isADirectory => .numbered 21
  | intoItself => .numbered 22
  | nameTooLong => .numbered 36
  | notEmpty => .numbered 39
  | tooManyLinks => .numbered 40
  | holdsNul => .worded .invalidInput "file name contained an unexpected NUL byte"

/-- The text of the refusal. -/
def Error.message (e : Error) : String := e.failure.message

end FileServer.Disk
