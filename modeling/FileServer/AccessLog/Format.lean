import FileServer.AccessLog.Entry
import FileServer.Number.Binary64
import FileServer.Text.Json

/-!
The forms in which entries are logged: the two classic ones, JSON, and patterns with variables. In a
pattern the variables are replaced one kind after another, each in all that stands there by then.
-/

namespace FileServer

namespace Text

/-- Replaces every occurrence of `part`, from the left; `skip` characters still belong to the last
one. -/
def replaceFrom (part replacement : List Char) : Nat → List Char → List Char
  | _, [] => []
  | skip + 1, _ :: rest => replaceFrom part replacement skip rest
  | 0, c :: rest =>
    if part.isPrefixOf (c :: rest) then
      replacement ++ replaceFrom part replacement (part.length - 1) rest
    else c :: replaceFrom part replacement 0 rest

/-- Replaces every occurrence of `part`, from the left. -/
def replaceAll (part replacement text : List Char) : List Char :=
  replaceFrom part replacement 0 text

end Text

namespace LogEntry

open Calendar Text

/-- The time in the form of the classic logs. -/
def classicTime (e : LogEntry) : String :=
  let c := ClockFace.ofInstant e.time e.offset
  String.ofList (padded 2 c.date.day ++ '/' :: (monthName c.date.month).toList ++
    '/' :: yearText c.date.year ++ ':' :: c.timeText ++ ' ' :: offsetText e.offset [])

/-- A fraction of a second in as few groups of three digits as it needs, after a point. -/
def fractionText (nanos : Nat) : List Char :=
  if nanos = 0 then []
  else if nanos % 1000000 = 0 then '.' :: padded 3 (nanos / 1000000)
  else if nanos % 1000 = 0 then '.' :: padded 6 (nanos / 1000)
  else '.' :: padded 9 nanos

/-- The time in the international form. -/
def isoTime (e : LogEntry) : String :=
  let c := ClockFace.ofInstant e.time e.offset
  String.ofList (yearText c.date.year ++ '-' :: padded 2 c.date.month ++
    '-' :: padded 2 c.date.day ++ 'T' :: c.timeText ++ fractionText c.nanos ++
    offsetText e.offset [':'])

/-- An entry in the common form. -/
def common (e : LogEntry) : String :=
  e.remoteAddress ++ " - - [" ++ e.classicTime ++ "] \"" ++ e.requestLine ++ "\" " ++
    toString e.status ++ " " ++ toString e.bodyBytes

/-- An entry in the combined form: the common one, the referer and the user agent. -/
def combined (e : LogEntry) : String :=
  e.common ++ " \"" ++ e.referer.getD "-" ++ "\" \"" ++ e.userAgent.getD "-" ++ "\""

/-- A member of a JSON object. -/
def member (name : String) (value : List Char) : List Char := jsonString name ++ ':' :: value

/-- A text or nothing, in JSON. -/
def jsonOptional : Option String → List Char
  | some s => jsonString s
  | none => "null".toList

/-- The members of an entry in JSON, in the order of their names. -/
def jsonMembers (e : LogEntry) : List (List Char) :=
  [member "body_bytes" (toString e.bodyBytes).toList,
    member "http_version" (jsonString e.version),
    member "method" (jsonString e.method),
    member "path" (jsonString e.path),
    member "query" (jsonOptional e.query),
    member "referer" (jsonOptional e.referer),
    member "remote_addr" (jsonString e.remoteAddress),
    member "request_time_us" (toString e.micros).toList,
    member "status" (toString e.status).toList,
    member "time" (jsonString e.isoTime),
    member "user_agent" (jsonOptional e.userAgent)]

/-- An entry as a JSON object on one line. -/
def json (e : LogEntry) : String :=
  String.ofList ('\x7b' :: List.intercalate [','] e.jsonMembers ++ ['\x7d'])

/-- The time that the answer took, in seconds with three decimals. -/
def secondsText (e : LogEntry) : String :=
  ((Binary64.ofNat e.micros).div (.ofNat 1000000)).fixedText 3

/-- What a pattern can show of an entry. -/
inductive Variable where
  | remoteAddress
  | timeLocal
  | timeIso
  | requestTime
  | requestMethod
  | requestUri
  | request
  | status
  | bodyBytesSent
  | referer
  | userAgent
  deriving Repr, DecidableEq

/-- How a pattern names a variable. -/
def Variable.name : Variable → String
  | remoteAddress => "$remote_addr"
  | timeLocal => "$time_local"
  | timeIso => "$time_iso8601"
  | requestTime => "$request_time"
  | requestMethod => "$request_method"
  | requestUri => "$request_uri"
  | request => "$request"
  | status => "$status"
  | bodyBytesSent => "$body_bytes_sent"
  | referer => "$http_referer"
  | userAgent => "$http_user_agent"

/-- What a variable stands for in an entry. -/
def Variable.value (e : LogEntry) : Variable → String
  | remoteAddress => e.remoteAddress
  | timeLocal => e.classicTime
  | timeIso => e.isoTime
  | requestTime => e.secondsText
  | requestMethod => e.method
  | requestUri => e.uri
  | request => e.requestLine
  | status => toString e.status
  | bodyBytesSent => toString e.bodyBytes
  | referer => e.referer.getD "-"
  | userAgent => e.userAgent.getD "-"

/-- The variables in the order in which they are replaced; those whose names begin with the name of
another one come before it. -/
def Variable.all : List Variable :=
  [remoteAddress, timeLocal, timeIso, requestTime, requestMethod, requestUri, request, status,
    bodyBytesSent, referer, userAgent]

/-- An entry in the form of a pattern. -/
def custom (e : LogEntry) (pattern : String) : String :=
  String.ofList <| Variable.all.foldl
    (fun text v => replaceAll v.name.toList (v.value e).toList text) pattern.toList

/-- An entry in a form given by its name or by a pattern. -/
def format (e : LogEntry) (form : String) : String :=
  match form with
  | "combined" => e.combined
  | "common" => e.common
  | "json" => e.json
  | pattern => e.custom pattern

end LogEntry

end FileServer
