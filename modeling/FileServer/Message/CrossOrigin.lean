import FileServer.Message.Response

/-!
Leave for scripts of every origin to read a response. The field that grants it comes first and only
once; status, body and all other fields stay as they are.

The fields are taken out of the old header one by one and put into a new one. Only the first value
of a name comes with the name, so the name is kept in mind for the values that follow it.
-/

namespace FileServer

/-- The name of the field that grants leave. -/
def allowOrigin : String := "access-control-allow-origin"

/-- A value as it is taken out of a header, with its name if it is the first of that name. -/
abbrev Taken := Option String × Bytes

namespace Headers

/-- The values that are taken out behind one of the name `before`. -/
def takeBehind : Option String → List Field → List Taken
  | _, [] => []
  | before, f :: rest =>
    (if before = some f.1 then none else some f.1, f.2) :: takeBehind (some f.1) rest

/-- All values that a header holds, as they are taken out of it. -/
def takeAll (h : Headers) : List Taken := takeBehind none h.fields

/-- A header that is being rebuilt, and the name of the last value that was looked at. -/
structure Rebuilding where
  current : Option String := none
  headers : Headers
  deriving Repr, DecidableEq

/-- Looks at the next value, and adds it if it does not belong to the name `dropped`. -/
def Rebuilding.step (dropped : String) (b : Rebuilding) (t : Taken) : Rebuilding :=
  let current := t.1.or b.current
  match current with
  | some name =>
    { current, headers := if name = dropped then b.headers else b.headers.append name t.2 }
  | none => { b with current }

/-- The new header before the first value is looked at: leave for every origin. -/
def Rebuilding.start : Rebuilding :=
  { headers := ({} : Headers).insert allowOrigin (Utf8.ofString "*") }

/-- The fields with leave for every origin in front, in place of any other such field. -/
def allowAnyOrigin (h : Headers) : Headers :=
  (h.takeAll.foldl (Rebuilding.step allowOrigin) .start).headers

end Headers

/-- The response with leave for every origin. -/
def Response.allowAnyOrigin (r : Response) : Response :=
  { r with headers := r.headers.allowAnyOrigin }

end FileServer
