import FileServer.Message.CrossOrigin
import FileServer.Site.Answer
import FileServer.Site.Basic
import FileServer.Site.Freshness
import FileServer.Site.Rows
import FileServer.Site.Translate

/-!
Answering requests from the files of a site. The path of a request is translated to a path on disk,
the place it leads to has to lie in the root of the site, and what stands there decides about the
answer: a file is sent, a directory is redirected to its form with a slash, shown by its index file,
or listed.
-/

namespace FileServer

/-- What counts in a request for something on the site. -/
structure Visit where
  path : String
  query : Option String := none
  headOnly : Bool := false
  ifModifiedSince : Option String := none
  deriving Repr, DecidableEq

/-- A file was modified in a year without dates, and the request is given up. -/
structure Undatable where
  modified : Instant
  deriving Repr, DecidableEq

/-- An answer, unless the request had to be given up. -/
abbrev Served := Except Undatable Answer

namespace Site

/-- Whether a path leads into the root; leading elsewhere is recorded, leading nowhere is not. -/
def admits (s : Site) (d : Disk) (path : Path) (urlPath : String) : Bool × List Incident :=
  match d.canonical path with
  | .error _ => (false, [])
  | .ok place =>
    if s.root.isPrefixOf place then (true, []) else (false, [.rootLeft urlPath place])

/-- Answers with the file at a path, wherever it lies. -/
def serveFile (s : Site) (d : Disk) (v : Visit) (path : Path) : Served :=
  match d.read path with
  | .error cause => pure (Answer.notFound.after [.fileNotOpened path cause])
  | .ok (content, modified) =>
    match Calendar.HttpDate.write? modified with
    | none => throw ⟨modified⟩
    | some lastModified =>
      if isCurrent v.ifModifiedSince modified then pure (.notModified lastModified)
      else pure <| .file (if v.headOnly then .empty else .streamed content) content.length
        (s.mediaTypes.resolvePath path) (some lastModified)

/-- Answers with a file if it lies in the root. -/
def serveAdmitted (s : Site) (d : Disk) (v : Visit) (path : Path) : Served :=
  match s.admits d path v.path with
  | (true, _) => s.serveFile d v path
  | (false, incidents) => pure (Answer.notFound.after incidents)

/-- Whether a text ends in a slash. -/
def endsInSlash (path : String) : Bool := path.toList.getLast? == some '/'

/-- The address of a directory: one slash, the path without slashes in front, a slash, the query. -/
def slashForm (v : Visit) : String :=
  let path := String.ofList ('/' :: v.path.toList.dropWhile (· == '/') ++ ['/'])
  match v.query with
  | some query => path ++ "?" ++ query
  | none => path

/-- The page that lists the directory at a path. -/
def serveListing (d : Disk) (v : Visit) (directory : Path) : Answer :=
  match rows d directory with
  | .ok rows => .page (listingPage (Utf8.toStringLossy (Percent.decode v.path)) rows) v.headOnly
  | .error cause =>
    (Answer.problem .notFound "No permission to list directory").after
      [.directoryNotListed directory cause]

/-- The index file of the directory at a path: the first on the list that is a regular file. -/
def indexFile? (s : Site) (d : Disk) (directory : Path) : Option Path :=
  (s.indexFiles.map fun name => directory.join (.ofString name)).find? d.isFile

/-- Answers with the directory at a path. -/
def serveDirectory (s : Site) (d : Disk) (v : Visit) (directory : Path) : Served :=
  if !endsInSlash v.path then pure (.redirect (slashForm v))
  else match s.indexFile? d directory with
    | some path => s.serveAdmitted d v path
    | none => pure (if s.listing then serveListing d v directory else .notFound)

/-- Answers a request for something on the site. -/
def serve (s : Site) (d : Disk) (v : Visit) : Served :=
  match translate s.rootPath v.path with
  | none => pure (Answer.notFound.after [.pathRejected v.path])
  | some path =>
    match s.admits d path v.path with
    | (false, incidents) => pure (Answer.notFound.after incidents)
    | (true, _) =>
      match d.stat path with
      | .error _ => pure .notFound
      | .ok node =>
        if node.isDirectory then s.serveDirectory d v path
        else if endsInSlash v.path then pure .notFound
        else s.serveFile d v path

end Site

/-- What counts in a request, which asks for the head only or for everything. -/
def Request.visit (r : Request) : Visit :=
  { path := r.target.path
    query := r.target.query
    headOnly := r.method == "HEAD"
    ifModifiedSince := (r.headers.get? "if-modified-since").bind visibleText? }

/-- The answer with the name of the server, if that may stand in a header. -/
def Answer.signed (a : Answer) (serverName : String) : Answer :=
  let name := Utf8.ofString serverName
  if isHeaderValue name then
    { a with response.headers := a.response.headers.insert "server" name }
  else a

namespace Site

/-- Answers a request by its method. -/
def dispatch (s : Site) (d : Disk) (r : Request) : Served :=
  match r.method with
  | "GET" | "HEAD" => s.serve d r.visit
  | "OPTIONS" => pure .options
  | method => pure ((Answer.methodNotAllowed method).after [.methodRefused method])

/-- Answers a request in the name of the server. -/
def handle (s : Site) (d : Disk) (r : Request) : Served := do
  return (← s.dispatch d r).signed s.serverName

/-- Answers a request in the name of the server, for scripts of every origin. -/
def answer (s : Site) (d : Disk) (r : Request) : Served := do
  let a ← s.handle d r
  return { a with response := a.response.allowAnyOrigin }

end Site

end FileServer
