import ScriptConsole.Text.Offset

/-!
Failures of reads, writes and file operations. A stream describes a failure by its kind, the
system by its own sentence and number. -/
namespace ScriptConsole

inductive IoError
  | notFound | permissionDenied | connectionRefused | connectionReset | connectionAborted
  | notConnected | addressInUse | brokenPipe | alreadyExists | wouldBlock | notADirectory
  | isADirectory | invalidInput | pathTooLong | nulInPath | invalidData | timedOut | writeZero | interrupted | unexpectedEof
  | other
  deriving DecidableEq, Repr

namespace IoError

def name : IoError → String
  | notFound => "NotFound"
  | permissionDenied => "PermissionDenied"
  | connectionRefused => "ConnectionRefused"
  | connectionReset => "ConnectionReset"
  | connectionAborted => "ConnectionAborted"
  | notConnected => "NotConnected"
  | addressInUse => "AddrInUse"
  | brokenPipe => "BrokenPipe"
  | alreadyExists => "AlreadyExists"
  | wouldBlock => "WouldBlock"
  | notADirectory => "NotADirectory"
  | isADirectory => "IsADirectory"
  | invalidInput | pathTooLong | nulInPath => "InvalidInput"
  | invalidData => "InvalidData"
  | timedOut => "TimedOut"
  | writeZero => "WriteZero"
  | interrupted => "Interrupted"
  | unexpectedEof => "UnexpectedEof"
  | other => "Other"

def all : List IoError :=
  [notFound, permissionDenied, connectionRefused, connectionReset, connectionAborted, notConnected,
   addressInUse, brokenPipe, alreadyExists, wouldBlock, notADirectory, isADirectory, invalidInput,
   invalidData, timedOut, writeZero, interrupted, unexpectedEof, other]

def named? (s : String) : Option IoError := all.find? fun e => e.name == s

def description : IoError → String
  | notFound => "entity not found"
  | permissionDenied => "permission denied"
  | connectionRefused => "connection refused"
  | connectionReset => "connection reset"
  | connectionAborted => "connection aborted"
  | notConnected => "not connected"
  | addressInUse => "address in use"
  | brokenPipe => "broken pipe"
  | alreadyExists => "entity already exists"
  | wouldBlock => "operation would block"
  | notADirectory => "not a directory"
  | isADirectory => "is a directory"
  | invalidInput | pathTooLong | nulInPath => "invalid input parameter"
  | invalidData => "invalid data"
  | timedOut => "timed out"
  | writeZero => "write zero"
  | interrupted => "operation interrupted"
  | unexpectedEof => "unexpected end of file"
  | other => "other error"

def systemMessage : IoError → String
  | notFound => "No such file or directory (os error 2)"
  | permissionDenied => "Permission denied (os error 13)"
  | connectionRefused => "Connection refused (os error 111)"
  | connectionReset => "Connection reset by peer (os error 104)"
  | connectionAborted => "Software caused connection abort (os error 103)"
  | notConnected => "Transport endpoint is not connected (os error 107)"
  | addressInUse => "Address already in use (os error 98)"
  | brokenPipe => "Broken pipe (os error 32)"
  | alreadyExists => "File exists (os error 17)"
  | wouldBlock => "Resource temporarily unavailable (os error 11)"
  | notADirectory => "Not a directory (os error 20)"
  | isADirectory => "Is a directory (os error 21)"
  | invalidInput => "Invalid argument (os error 22)"
  | pathTooLong => "path must be shorter than SUN_LEN"
  | nulInPath => "paths must not contain interior null bytes"
  | invalidData => "stream did not contain valid UTF-8"
  | timedOut => "Connection timed out (os error 110)"
  | writeZero => "write zero"
  | interrupted => "Interrupted system call (os error 4)"
  | unexpectedEof => "unexpected end of file"
  | other => "other error"

end IoError

end ScriptConsole
