import ScriptConsole.Wire.Frame
import ScriptConsole.System.Files
import ScriptConsole.Text.Number

/-! Where a remote target listens: a host and a port, or a socket in the file system. -/
namespace ScriptConsole

inductive Address
  | tcp (host : Text) (port : Nat)
  | socket (path : Text)
  deriving DecidableEq, Repr

namespace Address

def socketLead : Text := "unix:".toList

def splitLastColon? (t : Text) : Option (Text × Text) :=
  match t.reverse.dropWhile (· != ':') with
  | _ :: before => some (before.reverse, (t.reverse.takeWhile (· != ':')).reverse)
  | [] => none

def parse (t : Text) : Except ChannelError Address :=
  match Text.dropLead? t socketLead with
  | some path => .ok (.socket path)
  | none =>
      match splitLastColon? t with
      | none => .error .missingColon
      | some (host, port) =>
          match Text.unsigned? 65535 port with
          | some n => .ok (.tcp host n)
          | none => .error (.invalidPort port)

def render : Address → Text
  | tcp host port => host ++ ':' :: Text.ofNat port
  | socket path => socketLead ++ path

def socketPathLimit : Nat := 108

def socketPathFault? (path : Text) : Option IoError :=
  if path.contains '\x00' then some .nulInPath
  else if socketPathLimit ≤ Text.size path then some .pathTooLong
  else if path.isEmpty then some .invalidInput
  else none

def refusal (files : Files) (place : Text → Path) : Address → IoError
  | tcp _ _ => .connectionRefused
  | socket path =>
      match socketPathFault? path with
      | some e => e
      | none =>
          match files.find (place path) with
          | .ok _ => .connectionRefused
          | .error e => e

def connectFailure (files : Files) (place : Text → Path) (a : Address) : ChannelError :=
  .connect a.render (a.refusal files place)

end Address

end ScriptConsole
