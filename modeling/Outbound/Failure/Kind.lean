/-!
# Kinds of failure

The categories a retry rule matches on, and the operating system's error kinds, each of which
falls into one category.

## Main definitions

* `TransportKind`: the category of a failed send
* `TransportKind.defaults`: the categories that are retried unless told otherwise
* `SystemKind`: the kind of an operating system error
* `SystemKind.transport`: the category of a system error
-/

namespace Outbound

/-- **The category of a failed send.** -/
inductive TransportKind
  | connectionRefused
  | connectionReset
  | connectionAborted
  | timedOut
  | dns
  | protocol
  | io
  | other
deriving DecidableEq, Repr, Inhabited

namespace TransportKind

/-- Every category. -/
def all : List TransportKind :=
  [.connectionRefused, .connectionReset, .connectionAborted, .timedOut, .dns, .protocol, .io,
    .other]

/-- The categories retried by default: the failures in which the request most likely never
reached the other side, and timeouts. -/
def defaults : List TransportKind :=
  [.connectionRefused, .connectionReset, .connectionAborted, .timedOut]

/-- The name in messages, metrics and configuration. -/
def name : TransportKind → String
  | .connectionRefused => "connection_refused"
  | .connectionReset => "connection_reset"
  | .connectionAborted => "connection_aborted"
  | .timedOut => "timed_out"
  | .dns => "dns"
  | .protocol => "protocol"
  | .io => "io"
  | .other => "other"

/-- The name in dumps of values. -/
def label : TransportKind → String
  | .connectionRefused => "ConnectionRefused"
  | .connectionReset => "ConnectionReset"
  | .connectionAborted => "ConnectionAborted"
  | .timedOut => "TimedOut"
  | .dns => "Dns"
  | .protocol => "Protocol"
  | .io => "Io"
  | .other => "Other"

/-- The category of a name. -/
def ofName? (s : String) : Option TransportKind := all.find? (·.name == s)

theorem ofName?_name (k : TransportKind) : ofName? k.name = some k := by cases k <;> rfl

end TransportKind

/-- The kind of an operating system error. -/
inductive SystemKind
  | notFound | permissionDenied | connectionRefused | connectionReset | hostUnreachable
  | networkUnreachable | connectionAborted | notConnected | addrInUse | addrNotAvailable
  | networkDown | brokenPipe | alreadyExists | wouldBlock | notADirectory | isADirectory
  | directoryNotEmpty | readOnlyFilesystem | filesystemLoop | staleNetworkFileHandle
  | invalidInput | invalidData | timedOut | writeZero | storageFull | notSeekable | quotaExceeded
  | fileTooLarge | resourceBusy | executableFileBusy | deadlock | crossesDevices | tooManyLinks
  | invalidFilename | argumentListTooLong | interrupted | unsupported | unexpectedEof
  | outOfMemory | inProgress | other | uncategorized
deriving DecidableEq, Repr, Inhabited

namespace SystemKind

/-- **Each system error falls into one category;** those without one of their own are `io`. -/
def transport : SystemKind → TransportKind
  | .connectionRefused => .connectionRefused
  | .connectionReset | .brokenPipe => .connectionReset
  | .connectionAborted | .notConnected => .connectionAborted
  | .timedOut | .wouldBlock => .timedOut
  | .invalidData | .unexpectedEof => .protocol
  | _ => .io

/-- Every kind with its name and the text of an error that has nothing but its kind. -/
def table : List (SystemKind × String × String) :=
  [(.notFound, "NotFound", "entity not found"),
   (.permissionDenied, "PermissionDenied", "permission denied"),
   (.connectionRefused, "ConnectionRefused", "connection refused"),
   (.connectionReset, "ConnectionReset", "connection reset"),
   (.hostUnreachable, "HostUnreachable", "host unreachable"),
   (.networkUnreachable, "NetworkUnreachable", "network unreachable"),
   (.connectionAborted, "ConnectionAborted", "connection aborted"),
   (.notConnected, "NotConnected", "not connected"),
   (.addrInUse, "AddrInUse", "address in use"),
   (.addrNotAvailable, "AddrNotAvailable", "address not available"),
   (.networkDown, "NetworkDown", "network down"),
   (.brokenPipe, "BrokenPipe", "broken pipe"),
   (.alreadyExists, "AlreadyExists", "entity already exists"),
   (.wouldBlock, "WouldBlock", "operation would block"),
   (.notADirectory, "NotADirectory", "not a directory"),
   (.isADirectory, "IsADirectory", "is a directory"),
   (.directoryNotEmpty, "DirectoryNotEmpty", "directory not empty"),
   (.readOnlyFilesystem, "ReadOnlyFilesystem", "read-only filesystem or storage medium"),
   (.filesystemLoop, "FilesystemLoop", "filesystem loop or indirection limit (e.g. symlink loop)"),
   (.staleNetworkFileHandle, "StaleNetworkFileHandle", "stale network file handle"),
   (.invalidInput, "InvalidInput", "invalid input parameter"),
   (.invalidData, "InvalidData", "invalid data"),
   (.timedOut, "TimedOut", "timed out"),
   (.writeZero, "WriteZero", "write zero"),
   (.storageFull, "StorageFull", "no storage space"),
   (.notSeekable, "NotSeekable", "seek on unseekable file"),
   (.quotaExceeded, "QuotaExceeded", "quota exceeded"),
   (.fileTooLarge, "FileTooLarge", "file too large"),
   (.resourceBusy, "ResourceBusy", "resource busy"),
   (.executableFileBusy, "ExecutableFileBusy", "executable file busy"),
   (.deadlock, "Deadlock", "deadlock"),
   (.crossesDevices, "CrossesDevices", "cross-device link or rename"),
   (.tooManyLinks, "TooManyLinks", "too many links"),
   (.invalidFilename, "InvalidFilename", "invalid filename"),
   (.argumentListTooLong, "ArgumentListTooLong", "argument list too long"),
   (.interrupted, "Interrupted", "operation interrupted"),
   (.unsupported, "Unsupported", "unsupported"),
   (.unexpectedEof, "UnexpectedEof", "unexpected end of file"),
   (.outOfMemory, "OutOfMemory", "out of memory"),
   (.inProgress, "InProgress", "in progress"),
   (.other, "Other", "other error"),
   (.uncategorized, "Uncategorized", "uncategorized error")]

def name (k : SystemKind) : String := ((table.lookup k).map Prod.fst).getD ""

/-- The text of an error that has nothing but its kind. -/
def description (k : SystemKind) : String := ((table.lookup k).map Prod.snd).getD ""

def ofName? (s : String) : Option SystemKind :=
  (table.find? (·.2.1 == s)).map Prod.fst

end SystemKind

end Outbound
