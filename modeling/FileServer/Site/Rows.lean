import FileServer.Disk.Walk
import FileServer.Page.Listing
import FileServer.Text.LowerCase

/-!
The rows of a directory listing: one for each entry, in the order of the names in small letters.
-/

namespace FileServer.Site

/-- The row of one entry of the directory at a path; links are followed to see whether they lead to
a directory. -/
def row (d : Disk) (directory : Path) (entry : Disk.DirectoryEntry) : ListingRow :=
  { name := Utf8.toStringLossy entry.1
    isDirectory := d.isDirectory (directory.child entry.1)
    isLink := entry.2.isLink }

/-- Whether one row may stand before another. -/
def mayPrecede (a b : ListingRow) : Bool := !(Text.lower b.name < Text.lower a.name)

/-- The rows for the directory at a path. -/
def rows (d : Disk) (directory : Path) : Except Disk.Error (List ListingRow) := do
  return ((← d.list directory).map (row d directory)).mergeSort mayPrecede

end FileServer.Site
