import FileServer.Message.Request
import FileServer.Message.Status

/-!
Reading the head of a request from the bytes that have come so far. The head may be complete,
broken, or still under way; what follows it is left unread.
-/

namespace FileServer.Wire

/-- Why the head of a request is refused. -/
inductive HeadError where
  | method
  | target
  | targetTooLong
  | version
  | otherProtocol
  | field
  | tooLarge
  | contentLength
  | codingUnexpected
  | codingUnknown
  | cutShort
  | timedOut
  deriving Repr, DecidableEq

namespace HeadError

/-- How the refusal is recorded. -/
def details : HeadError → String
  | method => "hyper::Error(Parse(Method))"
  | target => "hyper::Error(Parse(Uri))"
  | targetTooLong => "hyper::Error(Parse(UriTooLong))"
  | version => "hyper::Error(Parse(Version))"
  | otherProtocol => "hyper::Error(Parse(VersionH2))"
  | field => "hyper::Error(Parse(Header(Token)))"
  | tooLarge => "hyper::Error(Parse(TooLarge))"
  | contentLength => "hyper::Error(Parse(Header(ContentLengthInvalid)))"
  | codingUnexpected => "hyper::Error(Parse(Header(TransferEncodingUnexpected)))"
  | codingUnknown => "hyper::Error(Parse(Header(TransferEncodingInvalid)))"
  | cutShort => "hyper::Error(IncompleteMessage)"
  | timedOut => "hyper::Error(HeaderTimeout)"

/-- The status of the answer to a head that is refused, if there is an answer. -/
def status? : HeadError → Option Status
  | targetTooLong => some ⟨414, by decide⟩
  | tooLarge => some ⟨431, by decide⟩
  | otherProtocol | cutShort | timedOut => none
  | _ => some ⟨400, by decide⟩

end HeadError

/-- Why reading a head stops early: more has to come, or it is refused. -/
inductive Halt where
  | pending
  | refused (e : HeadError)
  deriving Repr, DecidableEq

/-- A reader of the bytes that have come so far. -/
abbrev HeadReader := StateT Bytes (Except Halt)

/-- How many fields a head may have. -/
def maxFields : Nat := 100

/-- How many bytes may come without a complete head among them. -/
def maxUnread : Nat := 417792

/-- Bytes of a method or of the name of a field. -/
def isTokenByte (b : UInt8) : Bool := isTokenChar (Char.ofNat b.toNat)

/-- Bytes that may come before the blank behind a target. -/
def isTargetByte (b : UInt8) : Bool := 33 ≤ b && b != 127

/-- Bytes of the value of a field. -/
def isValueByte (b : UInt8) : Bool := b == 9 || (32 ≤ b && b != 127)

/-- Blanks around the value of a field. -/
def isBlankByte (b : UInt8) : Bool := b == 9 || b == 32

/-- Reads one byte. -/
def byte : HeadReader UInt8
  | [] => throw .pending
  | b :: rest => pure (b, rest)

/-- Reads the bytes of a class; another one has to follow them. -/
def bytesOf (p : UInt8 → Bool) : HeadReader Bytes := fun bs =>
  let taken := bs.takeWhile p
  match bs.drop taken.length with
  | [] => throw .pending
  | rest => pure (taken, rest)

/-- Reads the end of a line. -/
def lineEnd (e : HeadError) : HeadReader Unit := do
  match ← byte with
  | 10 => pure ()
  | 13 => if (← byte) != 10 then throw (.refused e)
  | _ => throw (.refused e)

/-- Bytes that end a line. -/
def isLineEndByte (b : UInt8) : Bool := b == 10 || b == 13

/-- Drops empty lines in front of a head. -/
def dropEmptyLines : Bytes → Except Halt Bytes
  | 10 :: rest => dropEmptyLines rest
  | 13 :: 10 :: rest => dropEmptyLines rest
  | [13] => throw .pending
  | 13 :: _ => throw (.refused .field)
  | bs => pure bs

/-- Reads at least one byte of a class and the byte behind them. -/
def wordBefore (p : UInt8 → Bool) (behind : UInt8) (e : HeadError) : HeadReader Bytes := do
  let word ← bytesOf p
  if word.isEmpty || (← byte) != behind then throw (.refused e)
  pure word

/-- Reads the version of the protocol. -/
def version : HeadReader Version := fun bs =>
  let mark := Utf8.ofString "HTTP/1."
  match mark.isPrefixOf bs, bs.drop mark.length with
  | true, 48 :: rest => pure (.v10, rest)
  | true, 49 :: rest => pure (.v11, rest)
  | true, _ :: _ => throw (.refused .version)
  | _, _ => if bs.isPrefixOf mark then throw .pending else throw (.refused .version)

/-- The bytes without blanks behind them. -/
def trimmedEnd (bs : Bytes) : Bytes := (bs.reverse.dropWhile isBlankByte).reverse

/-- Reads a name, a colon, a value and the end of the line. -/
def field : HeadReader (Bytes × Bytes) := do
  let name ← wordBefore isTokenByte 58 .field
  let _ ← bytesOf isBlankByte
  let value ← bytesOf isValueByte
  lineEnd .field
  pure (name, trimmedEnd value)

/-- Reads fields up to an empty line, so many at most. -/
def fields : Nat → HeadReader (List (Bytes × Bytes))
  | room, bs =>
    match bs, room with
    | [], _ => throw .pending
    | 10 :: _, _ | 13 :: _, _ => do
      let (_, rest) ← lineEnd .field bs
      pure ([], rest)
    | _, 0 => throw (.refused .tooLarge)
    | _, room + 1 => do
      let (f, rest) ← field bs
      let (more, rest) ← fields room rest
      pure (f :: more, rest)

/-- Makes the request of a head. -/
def requestOf (method target : Bytes) (version : Version) (fields : List (Bytes × Bytes)) :
    Except Halt Request :=
  if Target.maxLength < target.length then throw (.refused .targetTooLong)
  else (Request.make method target version fields).mapError fun
    | .method => .refused .method
    | .target _ => .refused .target
    | .headerName => .refused .tooLarge
    | _ => .refused .field

/-- Reads the head of a request. -/
def head : HeadReader Request := do
  set (← dropEmptyLines (← get))
  let method ← wordBefore isTokenByte 32 .method
  let target ← wordBefore isTargetByte 32 .target
  let version ← version
  lineEnd .field
  let fields ← fields maxFields
  requestOf method target version fields

/-- With what a connection of the next version of the protocol begins. -/
def nextProtocol : Bytes := Utf8.ofString "PRI * HTTP/2.0\r\n\r\nSM\r\n\r\n"

/-- Reads the head of a request; a connection that is not meant for this version of the protocol and
one that sends too much without a head are told apart from broken heads. -/
def readHead (bs : Bytes) : Except Halt (Request × Bytes) :=
  match head bs with
  | .error (.refused e) =>
    let isOther := nextProtocol.isPrefixOf (bs.dropWhile isLineEndByte)
    throw (.refused (if isOther then .otherProtocol else e))
  | .error .pending => throw (if maxUnread ≤ bs.length then .refused .tooLarge else .pending)
  | .ok read => pure read

end FileServer.Wire
