import ScriptConsole.Wire.Stream

/-!
The frames of the protocol: four bytes of length, least significant first, and the payload. The
greatest length is kept for responses that carry no value. -/
namespace ScriptConsole

inductive ChannelError
  | closed
  | io (e : IoError)
  | tooLarge (n : Nat)
  | valuelessRequest
  | unsupported (command : Text)
  | missingColon
  | invalidPort (t : Text)
  | connect (address : Text) (e : IoError)
  deriving DecidableEq, Repr

namespace ChannelError

def message : ChannelError → Text
  | closed => "connection to target closed".toList
  | io e => "channel i/o error: ".toList ++ e.description.toList
  | tooLarge n => "frame of ".toList ++ Text.ofNat n ++ " bytes is too large".toList
  | valuelessRequest => "protocol error: request frame without payload".toList
  | unsupported command => command ++ " is not supported on a remote target".toList
  | missingColon => "missing colon in hostspec".toList
  | invalidPort t => "invalid port `".toList ++ t ++ ['\'']
  | connect address e =>
      "unable to connect to ".toList ++ address ++ ": ".toList ++ e.systemMessage.toList

def chain (e : ChannelError) : Text :=
  match e with
  | io cause => e.message ++ ": ".toList ++ cause.description.toList
  | connect _ cause => e.message ++ ": ".toList ++ cause.systemMessage.toList
  | _ => e.message

end ChannelError

namespace Frame

def noValue : Nat := 4294967295

def lengthBytes (n : Nat) : Bytes :=
  [n.toUInt8, (n / 256).toUInt8, (n / 65536).toUInt8, (n / 16777216).toUInt8]

def lengthOf (b : Bytes) : Nat := b.foldr (fun byte n => byte.toNat + 256 * n) 0

def encode? (payload : Bytes) : Except ChannelError (Bytes × Bytes) :=
  if payload.length < noValue then .ok (lengthBytes payload.length, payload)
  else .error (.tooLarge payload.length)

def write (s : Stream) (mode : Mode) (payload : Bytes) : Except ChannelError Unit × Stream :=
  match encode? payload with
  | .error e => (.error e, s)
  | .ok (header, payload) =>
      match s.writeBytes mode header with
      | (.error e, s) => (.error (.io e), s)
      | (.ok (), s) =>
          match s.writeBytes mode payload with
          | (.error e, s) => (.error (.io e), s)
          | (.ok (), s) => (.ok (), s)

def writeNoValue (s : Stream) (mode : Mode) : Except ChannelError Unit × Stream :=
  match s.writeBytes mode (lengthBytes noValue) with
  | (.error e, s) => (.error (.io e), s)
  | (.ok (), s) => (.ok (), s)

def readPayload (s : Stream) (mode : Mode) (n : Nat) : Except ChannelError Bytes × Stream :=
  match s.readBytes mode n with
  | (b, .complete, s) => (.ok b, s)
  | (_, .endOfStream, s) => (.error .closed, s)
  | (_, .fault e, s) => (.error (.io e), s)

/- Reads a response; the inner `none` is the marker for no value. -/
def readResponse (s : Stream) (mode : Mode) : Except ChannelError (Option Bytes) × Stream :=
  match s.readBytes mode 4 with
  | (_, .endOfStream, s) => (.error .closed, s)
  | (_, .fault e, s) => (.error (if e = .unexpectedEof then .closed else .io e), s)
  | (header, .complete, s) =>
      if lengthOf header = noValue then (.ok none, s)
      else match readPayload s mode (lengthOf header) with
        | (.ok b, s) => (.ok (some b), s)
        | (.error e, s) => (.error e, s)

/- Reads a request; the inner `none` is a peer that closed the stream between frames. -/
def readRequest (s : Stream) (mode : Mode) : Except ChannelError (Option Bytes) × Stream :=
  match s.readBytes mode 4 with
  | ([], .endOfStream, s) => (.ok none, s)
  | (_, .endOfStream, s) => (.error .closed, s)
  | (_, .fault e, s) => (.error (.io e), s)
  | (header, .complete, s) =>
      if lengthOf header = noValue then (.error .valuelessRequest, s)
      else match readPayload s mode (lengthOf header) with
        | (.ok b, s) => (.ok (some b), s)
        | (.error e, s) => (.error e, s)

end Frame

end ScriptConsole
