import FileServer.Disk.Path
import FileServer.Uri.Percent

/-!
From the path of a request to a path on disk. Escapes are decoded once, the parts between slashes
are taken one by one, and a path that climbs above where it began is refused.
-/

namespace FileServer.Site

/-- The names that remain of the parts of a path: empty parts and single dots are left out, and two
dots take back the name before them, if there is one. -/
def settle : List Name → List Bytes → Option (List Name)
  | taken, [] => some taken.reverse
  | taken, part :: rest =>
    if part.isEmpty || part = Name.here then settle taken rest
    else if part = Name.parent then
      match taken with
      | [] => none
      | _ :: before => settle before rest
    else if part.contains 0 then none
    else settle (part :: taken) rest

/-- The names below the root that the path of a request stands for. -/
def namesOf (urlPath : String) : Option (List Name) :=
  let decoded := Percent.decode urlPath
  if (Utf8.decode? decoded).isSome then settle [] (splitSlashes decoded) else none

/-- The path on disk that the path of a request stands for. -/
def translate (root : Path) (urlPath : String) : Option Path :=
  (namesOf urlPath).map (·.foldl Path.child root)

end FileServer.Site
