import VestingTable.Numeral
import VestingTable.Text.Quoted

/-!
# UTF-8

Decoding bytes as UTF-8, with a report on the first fault: where it is, which
bytes it takes up and what is wrong with them. A character is faulty from its
first byte up to the byte before the one that cannot continue it.
-/

namespace VestingTable.Text

/-- What can be wrong with the bytes of a character. -/
inductive Utf8FaultKind
  | startByte
  | continuationByte
  | endOfData
deriving DecidableEq

/-- The first fault of a sequence of bytes. -/
structure Utf8Fault where
  position : Nat
  bytes : List UInt8
  kind : Utf8FaultKind
deriving DecidableEq

namespace Utf8Fault

/-- What is wrong, in words. -/
def reason : Utf8FaultKind → String
  | .startByte => "invalid start byte"
  | .continuationByte => "invalid continuation byte"
  | .endOfData => "unexpected end of data"

/-- The bytes of a fault and their place. -/
def place (f : Utf8Fault) : String :=
  match f.bytes with
  | [b] => "byte 0x" ++ String.ofList (hexDigits 2 b.toNat) ++ " in position " ++
      Numeral.ofNat f.position
  | bytes => "bytes in position " ++ Numeral.ofNat f.position ++ "-" ++
      Numeral.ofNat (f.position + bytes.length - 1)

/-- The report on a fault. -/
def message (f : Utf8Fault) : String :=
  "'utf-8' codec can't decode " ++ f.place ++ ": " ++ reason f.kind

/-- The ranges of the bytes that continue a character, by its first byte. -/
def continuations? (b : UInt8) : Option (List (UInt8 × UInt8)) :=
  if b < 0x80 then some []
  else if b < 0xC2 then none
  else if b < 0xE0 then some [(0x80, 0xBF)]
  else if b = 0xE0 then some [(0xA0, 0xBF), (0x80, 0xBF)]
  else if b = 0xED then some [(0x80, 0x9F), (0x80, 0xBF)]
  else if b < 0xF0 then some [(0x80, 0xBF), (0x80, 0xBF)]
  else if b = 0xF0 then some [(0x90, 0xBF), (0x80, 0xBF), (0x80, 0xBF)]
  else if b < 0xF4 then some [(0x80, 0xBF), (0x80, 0xBF), (0x80, 0xBF)]
  else if b = 0xF4 then some [(0x80, 0x8F), (0x80, 0xBF), (0x80, 0xBF)]
  else none

/-- The first fault from a position on, where the character at the position has begun with the bytes
    `seen` and goes on with bytes of the ranges `expected`. -/
def first? (position : Nat) (seen : List UInt8) (expected : List (UInt8 × UInt8)) :
    List UInt8 → Option Utf8Fault
  | [] => if seen.isEmpty then none else some ⟨position, seen, .endOfData⟩
  | b :: rest =>
    match expected with
    | [] =>
      match continuations? b with
      | none => some ⟨position, [b], .startByte⟩
      | some [] => first? (position + 1) [] [] rest
      | some ranges => first? position [b] ranges rest
    | (low, high) :: ranges =>
      if low ≤ b ∧ b ≤ high then
        if ranges.isEmpty then first? (position + seen.length + 1) [] [] rest
        else first? position (seen ++ [b]) ranges rest
      else some ⟨position, seen, .continuationByte⟩

end Utf8Fault

/-- The text of bytes in UTF-8, or the first fault in them. -/
def decodeUtf8 (bytes : ByteArray) : Except Utf8Fault String :=
  match String.fromUTF8? bytes with
  | some s => .ok s
  | none => .error ((Utf8Fault.first? 0 [] [] bytes.toList).getD ⟨0, [], .endOfData⟩)

end VestingTable.Text
