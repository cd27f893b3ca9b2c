import FileServer.System.ErrorNumber

/-!
Failures of what the program asks of its surroundings: files, sockets, threads. A failure is known
by the number that the operating system gives it, or by its kind, with or without words of its own.
-/

namespace FileServer

/-- What a failure is about. -/
inductive FailureKind where
  | notFound
  | permissionDenied
  | connectionRefused
  | connectionReset
  | hostUnreachable
  | networkUnreachable
  | connectionAborted
  | notConnected
  | addressInUse
  | addressNotAvailable
  | networkDown
  | brokenPipe
  | alreadyExists
  | wouldBlock
  | notADirectory
  | isADirectory
  | directoryNotEmpty
  | readOnlyFilesystem
  | filesystemLoop
  | staleNetworkFileHandle
  | invalidInput
  | invalidData
  | timedOut
  | writeZero
  | storageFull
  | notSeekable
  | quotaExceeded
  | fileTooLarge
  | resourceBusy
  | executableFileBusy
  | deadlock
  | crossesDevices
  | tooManyLinks
  | invalidFilename
  | argumentListTooLong
  | interrupted
  | unsupported
  | unexpectedEof
  | outOfMemory
  | inProgress
  | other
  | uncategorized
  deriving Repr, DecidableEq

namespace FailureKind

/-- The words for a failure of which only the kind is known. -/
def description : FailureKind → String
  | .notFound => "entity not found"
  | .permissionDenied => "permission denied"
  | .connectionRefused => "connection refused"
  | .connectionReset => "connection reset"
  | .hostUnreachable => "host unreachable"
  | .networkUnreachable => "network unreachable"
  | .connectionAborted => "connection aborted"
  | .notConnected => "not connected"
  | .addressInUse => "address in use"
  | .addressNotAvailable => "address not available"
  | .networkDown => "network down"
  | .brokenPipe => "broken pipe"
  | .alreadyExists => "entity already exists"
  | .wouldBlock => "operation would block"
  | .notADirectory => "not a directory"
  | .isADirectory => "is a directory"
  | .directoryNotEmpty => "directory not empty"
  | .readOnlyFilesystem => "read-only filesystem or storage medium"
  | .filesystemLoop => "filesystem loop or indirection limit (e.g. symlink loop)"
  | .staleNetworkFileHandle => "stale network file handle"
  | .invalidInput => "invalid input parameter"
  | .invalidData => "invalid data"
  | .timedOut => "timed out"
  | .writeZero => "write zero"
  | .storageFull => "no storage space"
  | .notSeekable => "seek on unseekable file"
  | .quotaExceeded => "quota exceeded"
  | .fileTooLarge => "file too large"
  | .resourceBusy => "resource busy"
  | .executableFileBusy => "executable file busy"
  | .deadlock => "deadlock"
  | .crossesDevices => "cross-device link or rename"
  | .tooManyLinks => "too many links"
  | .invalidFilename => "invalid filename"
  | .argumentListTooLong => "argument list too long"
  | .interrupted => "operation interrupted"
  | .unsupported => "unsupported"
  | .unexpectedEof => "unexpected end of file"
  | .outOfMemory => "out of memory"
  | .inProgress => "in progress"
  | .other => "other error"
  | .uncategorized => "uncategorized error"

/-- The kind of an error number. -/
def ofNumber (n : Int) : FailureKind :=
  match n with
  | 2 => .notFound
  | 1 | 13 => .permissionDenied
  | 111 => .connectionRefused
  | 104 => .connectionReset
  | 113 => .hostUnreachable
  | 101 => .networkUnreachable
  | 103 => .connectionAborted
  | 107 => .notConnected
  | 98 => .addressInUse
  | 99 => .addressNotAvailable
  | 100 => .networkDown
  | 32 => .brokenPipe
  | 17 => .alreadyExists
  | 11 => .wouldBlock
  | 20 => .notADirectory
  | 21 => .isADirectory
  | 39 => .directoryNotEmpty
  | 30 => .readOnlyFilesystem
  | 40 => .filesystemLoop
  | 116 => .staleNetworkFileHandle
  | 22 => .invalidInput
  | 110 => .timedOut
  | 28 => .storageFull
  | 29 => .notSeekable
  | 122 => .quotaExceeded
  | 27 => .fileTooLarge
  | 16 => .resourceBusy
  | 26 => .executableFileBusy
  | 35 => .deadlock
  | 18 => .crossesDevices
  | 31 => .tooManyLinks
  | 36 => .invalidFilename
  | 7 => .argumentListTooLong
  | 4 => .interrupted
  | 38 | 95 => .unsupported
  | 12 => .outOfMemory
  | 115 => .inProgress
  | _ => .uncategorized

end FailureKind

/-- A failure of an operation outside the program. -/
inductive Failure where
  | numbered (number : Int)
  | worded (kind : FailureKind) (words : String)
  | plain (kind : FailureKind)
  deriving Repr, DecidableEq

namespace Failure

/-- What the failure is about. -/
def kind : Failure → FailureKind
  | .numbered n => .ofNumber n
  | .worded kind _ => kind
  | .plain kind => kind

/-- The text of the failure. -/
def message : Failure → String
  | .numbered n => ErrorNumber.message n
  | .worded _ words => words
  | .plain kind => kind.description

end Failure

end FileServer
