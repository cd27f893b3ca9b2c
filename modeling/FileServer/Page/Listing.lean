import FileServer.Page.Escape
import FileServer.Uri.Percent

/-!
The page that lists a directory. Names and the path of the request come from outside and are
escaped; links are relative to the directory and percent-encoded.
-/

namespace FileServer

/-- One row of a listing. -/
structure ListingRow where
  name : String
  isDirectory : Bool
  isLink : Bool
  deriving Repr, DecidableEq

namespace ListingRow

/-- What the row shows: directories end in a slash, other links in an at sign. -/
def label (r : ListingRow) : String :=
  if r.isDirectory then r.name ++ "/" else if r.isLink then r.name ++ "@" else r.name

/-- Where the row leads: directories end in a slash, so that no redirect is needed. -/
def link (r : ListingRow) : String := if r.isDirectory then r.name ++ "/" else r.name

/-- The row as an item of a list. -/
def html (r : ListingRow) : String :=
  "<li><a href=\"" ++ Percent.encode r.link ++ "\">" ++ Html.escape r.label ++ "</a></li>\n"

end ListingRow

/-- The page for a path, as it was asked for, and its rows. -/
def listingPage (urlPath : String) (rows : List ListingRow) : String :=
  let title := "Directory listing for " ++ Html.escape urlPath
  "<!DOCTYPE HTML>\n<html lang=\"en\">\n<head>\n<meta charset=\"utf-8\">\n" ++
    "<title>" ++ title ++ "</title>\n</head>\n<body>\n<h1>" ++ title ++ "</h1>\n<hr>\n<ul>\n" ++
    String.join (rows.map (·.html)) ++ "</ul>\n<hr>\n</body>\n</html>\n"

end FileServer
