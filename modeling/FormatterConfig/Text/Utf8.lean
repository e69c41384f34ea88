import FormatterConfig.Text.Quoted

set_option autoImplicit false

/-! # Reading UTF-8

Decoding of bytes into characters. A malformed sequence stops it with the stretch of bytes at fault
and the reason: a byte that starts no character, a sequence broken off by a byte that cannot
continue it, or one broken off by the end of the data. Overlong forms, surrogates and values above
the last code point count as broken off at their second byte. -/

namespace FormatterConfig.Text

/-- Why bytes do not read as characters. -/
inductive Utf8Fault.Reason where
  | invalidStart
  | invalidContinuation
  | endOfData
  deriving DecidableEq

/-- A malformed stretch: its first byte's position and value, its length, and the reason. -/
structure Utf8Fault where
  position : Nat
  byte : UInt8
  length : Nat
  reason : Utf8Fault.Reason
  deriving DecidableEq

/-- The wording of a reason. -/
def Utf8Fault.Reason.message : Utf8Fault.Reason → String
  | .invalidStart => "invalid start byte"
  | .invalidContinuation => "invalid continuation byte"
  | .endOfData => "unexpected end of data"

/-- A stretch of one byte is shown with its value, a longer one by its two ends. -/
def Utf8Fault.message (f : Utf8Fault) : String :=
  let stretch :=
    if f.length ≤ 1 then
      "byte 0x" ++ String.ofList (hexDigits 2 f.byte.toNat) ++ " in position " ++
        toString f.position
    else
      "bytes in position " ++ toString f.position ++ "-" ++ toString (f.position + f.length - 1)
  "'utf-8' codec can't decode " ++ stretch ++ ": " ++ f.reason.message

/-- Length and payload of a sequence by its first byte, and the range of its second byte. -/
def utf8Lead? (b : Nat) : Option (Nat × Nat × Nat × Nat) :=
  if b < 0xC2 then none
  else if b < 0xE0 then some (2, b - 0xC0, 0x80, 0xBF)
  else if b < 0xF0 then
    some (3, b - 0xE0, if b = 0xE0 then 0xA0 else 0x80, if b = 0xED then 0x9F else 0xBF)
  else if b < 0xF5 then
    some (4, b - 0xF0, if b = 0xF0 then 0x90 else 0x80, if b = 0xF4 then 0x8F else 0xBF)
  else none

/-- Reads the `needed` continuation bytes of a sequence: its value, or the reason and how many bytes
were read before the fault. The range applies to the first of them. -/
def utf8Rest : (needed value low high read : Nat) → List UInt8 →
    Except (Utf8Fault.Reason × Nat) Nat
  | 0, value, _, _, _, _ => .ok value
  | _ + 1, _, _, _, read, [] => .error (.endOfData, read)
  | needed + 1, value, low, high, read, b :: rest =>
    if low ≤ b.toNat ∧ b.toNat ≤ high then
      utf8Rest needed (value * 64 + (b.toNat - 0x80)) 0x80 0xBF (read + 1) rest
    else .error (.invalidContinuation, read)

/-- Decodes bytes that start at a position; `skip` bytes belong to a character already read. -/
def decodeUtf8From : (position skip : Nat) → List UInt8 → Except Utf8Fault (List Char)
  | _, _, [] => .ok []
  | position, skip + 1, _ :: rest => decodeUtf8From (position + 1) skip rest
  | position, 0, b :: rest =>
    if b.toNat < 0x80 then do
      let tail ← decodeUtf8From (position + 1) 0 rest
      return Char.ofNat b.toNat :: tail
    else
      match utf8Lead? b.toNat with
      | none => .error ⟨position, b, 1, .invalidStart⟩
      | some (length, payload, low, high) =>
        match utf8Rest (length - 1) payload low high 1 rest with
        | .error (reason, read) => .error ⟨position, b, read, reason⟩
        | .ok value => do
          let tail ← decodeUtf8From (position + 1) (length - 1) rest
          return Char.ofNat value :: tail

/-- Decodes bytes into characters. -/
def decodeUtf8 (bs : List UInt8) : Except Utf8Fault (List Char) := decodeUtf8From 0 0 bs

/-- A text whose line ends are line feeds: a carriage return becomes one, together with a line feed
that follows it. -/
def unifyLineEnds : List Char → List Char
  | [] => []
  | '\r' :: '\n' :: rest => '\n' :: unifyLineEnds rest
  | c :: rest => (if c = '\r' then '\n' else c) :: unifyLineEnds rest

end FormatterConfig.Text
