set_option autoImplicit false

/-! # Base 64

Writing bytes in lines of 76 characters, and the lenient reading of such text: characters outside
the alphabet are passed over, a group that padding completes ends the data, and padding elsewhere is
passed over too. -/

namespace FormatterConfig.Text

/-- The character of a six-bit value. -/
def base64Char (n : Nat) : Char :=
  if n < 26 then Char.ofNat (65 + n)
  else if n < 52 then Char.ofNat (71 + n)
  else if n < 62 then Char.ofNat (n - 4)
  else if n = 62 then '+' else '/'

/-- The six-bit value of a character of the alphabet. -/
def base64Value? (c : Char) : Option Nat :=
  if 'A' ≤ c ∧ c ≤ 'Z' then some (c.toNat - 65)
  else if 'a' ≤ c ∧ c ≤ 'z' then some (c.toNat - 71)
  else if '0' ≤ c ∧ c ≤ '9' then some (c.toNat + 4)
  else if c = '+' then some 62
  else if c = '/' then some 63
  else none

/-- Three bytes to four characters, the last group padded. -/
def base64Groups : List UInt8 → List Char
  | [] => []
  | [a] =>
    let n := a.toNat * 16
    [base64Char (n / 64), base64Char (n % 64), '=', '=']
  | [a, b] =>
    let n := (a.toNat * 256 + b.toNat) * 4
    [base64Char (n / 4096), base64Char (n / 64 % 64), base64Char (n % 64), '=']
  | a :: b :: c :: rest =>
    let n := (a.toNat * 256 + b.toNat) * 256 + c.toNat
    [base64Char (n / 262144), base64Char (n / 4096 % 64), base64Char (n / 64 % 64),
      base64Char (n % 64)] ++ base64Groups rest

/-- Breaks characters into lines of 76, each ended by a line feed; `column` counts those already on
the line. -/
def base64Lines : (column : Nat) → List Char → List Char
  | 0, [] => []
  | _ + 1, [] => ['\n']
  | column, c :: rest =>
    if column = 76 then '\n' :: c :: base64Lines 1 rest else c :: base64Lines (column + 1) rest

/-- The text of a byte string. -/
def encodeBase64 (bs : List UInt8) : List Char := base64Lines 0 (base64Groups bs)

/-- Why a text is not base 64. -/
inductive Base64Fault where
  | incompletePadding
  | danglingCharacter (dataCharacters : Nat)
  deriving DecidableEq

/-- The wording of a fault. -/
def Base64Fault.message : Base64Fault → String
  | .incompletePadding => "Incorrect padding"
  | .danglingCharacter n =>
    "Invalid base64-encoded string: number of data characters (" ++ toString n ++
      ") cannot be 1 more than a multiple of 4"

/-- Reads on in a group of which `place` characters are read, with `left` bits over from the last
one; `pads` counts the padding since then and `count` the bytes written. -/
def decodeBase64From : (place left pads count : Nat) → List Char → Except Base64Fault (List UInt8)
  | place, _, _, count, [] =>
    if place = 0 then .ok []
    else if place = 1 then .error (.danglingCharacter (count / 3 * 4 + 1))
    else .error .incompletePadding
  | place, left, pads, count, c :: rest =>
    if c = '=' then
      if 2 ≤ place then
        if 4 ≤ place + pads + 1 then .ok [] else decodeBase64From place left (pads + 1) count rest
      else decodeBase64From place left pads count rest
    else
      match base64Value? c with
      | none => decodeBase64From place left pads count rest
      | some v =>
        match place with
        | 0 => decodeBase64From 1 v 0 count rest
        | 1 => do
          let tail ← decodeBase64From 2 (v % 16) 0 (count + 1) rest
          return UInt8.ofNat (left * 4 + v / 16) :: tail
        | 2 => do
          let tail ← decodeBase64From 3 (v % 4) 0 (count + 1) rest
          return UInt8.ofNat (left * 16 + v / 4) :: tail
        | _ => do
          let tail ← decodeBase64From 0 0 0 (count + 1) rest
          return UInt8.ofNat (left * 64 + v) :: tail

/-- The bytes that a text denotes. -/
def decodeBase64 (cs : List Char) : Except Base64Fault (List UInt8) := decodeBase64From 0 0 0 0 cs

end FormatterConfig.Text
