import FileServer.Calendar.HttpDate

/-!
Whether the copy that a client has is still current. Dates in headers have whole seconds, so the
fraction of a modification time does not count.
-/

namespace FileServer.Site

/-- Whether a file that was last modified at the given time is no newer than the date that the
client sent; a date that cannot be read is older than every file. -/
def isCurrent (since : Option String) (modified : Instant) : Bool :=
  match since.bind Calendar.HttpDate.read? with
  | some date => modified.seconds ≤ date.seconds
  | none => false

/-- The same, unless it would take a modification time that has no date. -/
def isCurrent? (since : Option String) (modified : Instant) : Option Bool :=
  if (since.bind Calendar.HttpDate.read?).isSome && !Calendar.inRange modified then none
  else some (isCurrent since modified)

end FileServer.Site
