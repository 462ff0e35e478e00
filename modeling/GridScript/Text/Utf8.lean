import GridScript.Json.Basic

namespace GridScript.Text

/-!
# Faults of encoded text

The bytes of a text are read as UTF-8. `utf8Fault?` finds the first bytes that
encode no character.
-/

/-- Why some bytes encode no character. -/
inductive Utf8Reason where
  | start
  | continuation
  | truncated
  deriving Repr, DecidableEq

/-- The wording of a reason. -/
def Utf8Reason.text : Utf8Reason → String
  | start => "invalid start byte"
  | continuation => "invalid continuation byte"
  | truncated => "unexpected end of data"

/-- Bytes that encode no character: where they begin, the first of them,
how many, and why. -/
structure Utf8Fault where
  position : Nat
  byte : Nat
  length : Nat
  reason : Utf8Reason
  deriving Repr, DecidableEq

/-- The wording of a fault. -/
def Utf8Fault.message (fault : Utf8Fault) : String :=
  let place :=
    if fault.length = 1 then
      "byte 0x" ++
        String.ofList [Json.hexDigit (fault.byte / 16),
          Json.hexDigit (fault.byte % 16)] ++
        s!" in position {fault.position}"
    else s!"bytes in position {fault.position}-{fault.position + fault.length - 1}"
  s!"'utf-8' codec can't decode {place}: {fault.reason.text}"

/-- The bounds of the bytes that can follow a first byte; none if it
begins no character. -/
def followers? (first : Nat) : Option (List (Nat × Nat)) :=
  let any := (0x80, 0xbf)
  if first < 0x80 then some []
  else if first < 0xc2 then none
  else if first < 0xe0 then some [any]
  else if first = 0xe0 then some [(0xa0, 0xbf), any]
  else if first = 0xed then some [(0x80, 0x9f), any]
  else if first < 0xf0 then some [any, any]
  else if first = 0xf0 then some [(0x90, 0xbf), any, any]
  else if first < 0xf4 then some [any, any, any]
  else if first = 0xf4 then some [(0x80, 0x8f), any, any]
  else none

/-- Why the bytes after `read` bytes of a character do not complete it, and
how many were read. -/
def followFault?
    (read : Nat) : List (Nat × Nat) → List Nat → Option (Nat × Utf8Reason)
  | [], _ => none
  | _ :: _, [] => some (read, .truncated)
  | (low, high) :: bounds, byte :: rest =>
      if low ≤ byte && byte ≤ high then followFault? (read + 1) bounds rest
      else some (read, .continuation)

/-- The first fault of some bytes from a position, where `skip` bytes have
been read already. -/
def utf8FaultFrom? (position skip : Nat) : List Nat → Option Utf8Fault
  | [] => none
  | byte :: rest =>
      match skip with
      | n + 1 => utf8FaultFrom? (position + 1) n rest
      | 0 =>
          match followers? byte with
          | none => some ⟨position, byte, 1, .start⟩
          | some bounds =>
              match followFault? 1 bounds rest with
              | some (length, reason) => some ⟨position, byte, length, reason⟩
              | none => utf8FaultFrom? (position + 1) bounds.length rest

/-- The first fault of some bytes. -/
def utf8Fault? (bytes : ByteArray) : Option Utf8Fault :=
  utf8FaultFrom? 0 0 (bytes.toList.map UInt8.toNat)

/-- The text of some bytes; a replacement character stands for each fault, of
which `fuel` are read. -/
def lenientText (fuel : Nat) (bytes : ByteArray) : String :=
  match String.fromUTF8? bytes, utf8Fault? bytes, fuel with
  | some text, _, _ => text
  | none, some fault, fuel + 1 =>
      let before := (String.fromUTF8? (bytes.extract 0 fault.position)).getD ""
      let after := bytes.extract (fault.position + fault.length) bytes.size
      before ++ "\uFFFD" ++ lenientText fuel after
  | none, _, _ => ""

end GridScript.Text
