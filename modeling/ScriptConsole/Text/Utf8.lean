import ScriptConsole.Text.Offset

/-!
UTF-8: the bytes of a text, and bytes read back as text. A sequence of bytes that is no character
is refused by `decode?`; `decodeLossy` puts one replacement character for each longest start of a
character that is cut short, and for each byte that can start none. -/
namespace ScriptConsole

abbrev Bytes := List UInt8

namespace Utf8

def encode (t : Text) : Bytes := t.flatMap String.utf8EncodeChar

def isTail (b : UInt8) : Bool := 0x80 ≤ b && b ≤ 0xBF

def secondOfThree (lead b : UInt8) : Bool :=
  if lead == 0xE0 then 0xA0 ≤ b && b ≤ 0xBF
  else if lead == 0xED then 0x80 ≤ b && b ≤ 0x9F
  else isTail b

def secondOfFour (lead b : UInt8) : Bool :=
  if lead == 0xF0 then 0x90 ≤ b && b ≤ 0xBF
  else if lead == 0xF4 then 0x80 ≤ b && b ≤ 0x8F
  else isTail b

def bits (b : UInt8) : Nat := b.toNat % 64

/-- The characters of the bytes; `none` stands for each part that is no character. -/
def decode : Bytes → List (Option Char)
  | [] => []
  | b0 :: r0 =>
      if b0 < 0x80 then some (Char.ofNat b0.toNat) :: decode r0
      else if 0xC2 ≤ b0 && b0 ≤ 0xDF then
        match r0 with
        | b1 :: r1 =>
            if isTail b1 then some (Char.ofNat ((b0.toNat - 0xC0) * 64 + bits b1)) :: decode r1
            else none :: decode (b1 :: r1)
        | [] => [none]
      else if 0xE0 ≤ b0 && b0 ≤ 0xEF then
        match r0 with
        | b1 :: r1 =>
            if secondOfThree b0 b1 then
              match r1 with
              | b2 :: r2 =>
                  if isTail b2 then
                    some (Char.ofNat (((b0.toNat - 0xE0) * 64 + bits b1) * 64 + bits b2)) ::
                      decode r2
                  else none :: decode (b2 :: r2)
              | [] => [none]
            else none :: decode (b1 :: r1)
        | [] => [none]
      else if 0xF0 ≤ b0 && b0 ≤ 0xF4 then
        match r0 with
        | b1 :: r1 =>
            if secondOfFour b0 b1 then
              match r1 with
              | b2 :: r2 =>
                  if isTail b2 then
                    match r2 with
                    | b3 :: r3 =>
                        if isTail b3 then
                          some (Char.ofNat
                            ((((b0.toNat - 0xF0) * 64 + bits b1) * 64 + bits b2) * 64 + bits b3)) ::
                            decode r3
                        else none :: decode (b3 :: r3)
                    | [] => [none]
                  else none :: decode (b2 :: r2)
              | [] => [none]
            else none :: decode (b1 :: r1)
        | [] => [none]
      else none :: decode r0
  termination_by bytes => bytes.length

def decode? (bytes : Bytes) : Option Text := (decode bytes).mapM id

/- The text that the bytes stand for, with U+FFFD for what is no character. -/
def decodeLossy (bytes : Bytes) : Text := (decode bytes).map (·.getD '\uFFFD')

end Utf8

end ScriptConsole
