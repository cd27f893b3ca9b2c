import FileServer.Journal.Incident
import FileServer.Message.Response
import FileServer.Page.Problem

/-!
The answers that the server gives. An answer is a response together with what has to be recorded
about the request. Where text from outside goes into a header and may not stand there, the answer is
a bare one.
-/

namespace FileServer

/-- A response and what is recorded about the request. -/
structure Answer where
  response : Response
  incidents : List Incident := []
  deriving Repr, DecidableEq

/-- Header fields from names and texts, in order. -/
def Headers.ofTexts (fields : List (String × String)) : Headers :=
  fields.foldl (fun h f => h.append f.1 (Utf8.ofString f.2)) {}

namespace Answer

/-- The type of the pages that the server writes itself. -/
def pageType : String := "text/html; charset=utf-8"

/-- The methods that the server knows. -/
def methods : String := "GET, HEAD, OPTIONS"

/-- A field with the length of a content. -/
def lengthField (length : Nat) : String × String := ("content-length", toString length)

/-- An answer whose fields are known to be good. -/
def plain (status : Status) (fields : List (String × String)) (body : Body) : Answer :=
  ⟨{ status, headers := .ofTexts fields, body }, []⟩

/-- An answer with fields from outside; where one is not good, the answer is bare and has the
status `fallback`. -/
def checked (status fallback : Status) (fields : List (String × String)) (body : Body) : Answer :=
  if fields.all fun f => isHeaderValue (Utf8.ofString f.2) then plain status fields body
  else ⟨{ status := fallback }, [.responseNotBuilt status.code .headerValue]⟩

/-- The page of the server with a status and a message. -/
def problem (status : Status) (message : String) : Answer :=
  let page := Utf8.ofString (problemPage status message)
  plain status [("content-type", pageType), lengthField page.length] (.held page)

/-- There is nothing at the path. -/
def notFound : Answer := problem .notFound "File not found"

/-- The method is not one of those that the server knows. -/
def methodNotAllowed (method : String) : Answer :=
  let a := problem .methodNotAllowed ("Unsupported method ('" ++ method ++ "')")
  { a with response.headers := a.response.headers.insert "allow" (Utf8.ofString methods) }

/-- What the server can do. -/
def options : Answer :=
  plain .noContent
    [("allow", methods), ("access-control-allow-methods", methods),
      ("access-control-allow-headers", "*"), ("access-control-max-age", "86400")] .empty

/-- The resource stands at another address. -/
def redirect (location : String) : Answer :=
  checked .movedPermanently .movedPermanently [("location", location), lengthField 0] .empty

/-- The copy that the client has is current. -/
def notModified (lastModified : String) : Answer :=
  checked .notModified .notModified [("last-modified", lastModified)] .empty

/-- A page, or only its head. -/
def page (content : String) (headOnly : Bool) : Answer :=
  let bytes := Utf8.ofString content
  plain .ok [("content-type", pageType), lengthField bytes.length]
    (if headOnly then .empty else .held bytes)

/-- The content of a file, whose length is given apart. -/
def file (body : Body) (length : Nat) (type : String) (lastModified : Option String) : Answer :=
  checked .ok .internalServerError
    ([("content-type", type), lengthField length] ++
      (lastModified.map ("last-modified", ·)).toList) body

/-- The answer with one more thing to record in front. -/
def after (a : Answer) (incidents : List Incident) : Answer :=
  { a with incidents := incidents ++ a.incidents }

end Answer

end FileServer
