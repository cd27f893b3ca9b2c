import FileServer.Disk.Tree
import FileServer.MediaType.Resolve

/-!
A site: the directory that is served and how.
-/

namespace FileServer

/-- A directory that is served, the name under which the server presents itself, the files that
stand for a directory, whether directories without one are listed, and the media types. -/
structure Site where
  root : Location
  serverName : String
  indexFiles : List String
  listing : Bool
  mediaTypes : MediaTypes
  deriving Repr, DecidableEq

/-- The root as a path. -/
def Site.rootPath (s : Site) : Path := .absolute s.root

end FileServer
