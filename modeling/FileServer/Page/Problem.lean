import FileServer.Message.Status
import FileServer.Page.Escape

/-!
The page that explains why a request has no better answer.
-/

namespace FileServer

/-- The page for a status and a message, which is escaped. -/
def problemPage (status : Status) (message : String) : String :=
  let code := toString status.code
  let reason := status.reason?.getD "Error"
  "<!DOCTYPE HTML>\n<html lang=\"en\">\n<head>\n<meta charset=\"utf-8\">\n" ++
    "<title>Error response</title>\n</head>\n<body>\n<h1>Error response</h1>\n" ++
    "<p>Error code: " ++ code ++ "</p>\n<p>Message: " ++ Html.escape message ++ ".</p>\n" ++
    "<p>Error code explanation: " ++ code ++ " - " ++ reason ++ ".</p>\n</body>\n</html>\n"

end FileServer
