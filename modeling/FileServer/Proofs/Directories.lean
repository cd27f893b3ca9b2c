import FileServer.Proofs.Framing
import FileServer.Proofs.Places

/-!
Requests for directories. The path of the request decides by its last character whether a directory
is redirected or shown, and the list of index files is gone through up to the first that is a regular
file. That one decides alone: what comes behind it on the list is not tried, and neither is the
listing, even if it lies outside the root or cannot be opened.

    slash at the end ──no──▶ redirected
      │ yes
    first regular file on the list ──none──▶ listed, or missing
      │
    in the root ──no──▶ missing
      │ yes
    sent, or missing

The two forms of a path never show each other's pages: with a slash at its end it shows no file that
it leads to, and without one it shows neither an index file nor a listing.
-/

namespace FileServer.Site

variable {s : Site} {d : Disk} {v : Visit} {u : String} {path directory file : Path} {node : Node}

/-! ### The index file -/

theorem Reaches.isDirectory (h : s.Reaches d u path node) :
    d.isDirectory path = node.isDirectory := by
  rw [Disk.isDirectory, h.stat]

end FileServer.Site
