import RowQuery.Text.Numeral

/-!
Bytes as pairs of hexadecimal digits. Both cases of letters are read; a pair
may also be a plus sign and one digit. In the form encoding of query values a
space becomes a plus sign, and characters other than ASCII letters, digits and
seven marks become escapes of their UTF-8 bytes with lower-case digits.
-/

namespace RowQuery.Text

def lowerHexDigit (n : Nat) : Char :=
  Nat.digitChar n

def upperHexDigit (n : Nat) : Char :=
  (Nat.digitChar n).toUpper

def byteHexLower (b : UInt8) : List Char :=
  [lowerHexDigit (b.toNat / 16), lowerHexDigit (b.toNat % 16)]

def byteHexUpper (b : UInt8) : List Char :=
  [upperHexDigit (b.toNat / 16), upperHexDigit (b.toNat % 16)]

def hexLower (bytes : List UInt8) : String :=
  String.ofList (bytes.flatMap byteHexLower)

def hexUpper (bytes : List UInt8) : String :=
  String.ofList (bytes.flatMap byteHexUpper)

def hexDigit? (c : Char) : Option Nat :=
  if '0' ≤ c && c ≤ '9' then some (c.toNat - '0'.toNat)
  else if 'a' ≤ c && c ≤ 'f' then some (c.toNat - 'a'.toNat + 10)
  else if 'A' ≤ c && c ≤ 'F' then some (c.toNat - 'A'.toNat + 10)
  else none

def readHexPair? (high low : Char) : Option Nat :=
  if high = '+' then hexDigit? low
  else do
    let h ← hexDigit? high
    let l ← hexDigit? low
    return h * 16 + l

inductive HexError where
  | oddLength
  | invalidDigit
deriving DecidableEq, Repr

def HexError.message : HexError → String
  | .oddLength => "expected an even number of hex digits"
  | .invalidDigit => NumeralError.invalidDigit.message

def readHexPairs : List Char → Except HexError (List UInt8)
  | [] => .ok []
  | [_] => .error .oddLength
  | high :: low :: rest =>
    match readHexPair? high low with
    | none => .error .invalidDigit
    | some n => (readHexPairs rest).map (UInt8.ofNat n :: ·)

/-- Reads bytes from pairs of digits. Length and alphabet are checked before any digit. -/
def readHex (s : String) : Except HexError (List UInt8) :=
  let cs := s.toList
  if cs.length % 2 == 1 || cs.any (fun c => 0x80 ≤ c.toNat) then .error .oddLength
  else readHexPairs cs

def isUnreserved (c : Char) : Bool :=
  c.isAlphanum || "-_.!*()".toList.contains c

def encodeFormChar (c : Char) : List Char :=
  if isUnreserved c then [c]
  else if c = ' ' then ['+']
  else (String.utf8EncodeChar c).flatMap fun b => '%' :: byteHexLower b

def formEncode (s : String) : String :=
  String.ofList (s.toList.flatMap encodeFormChar)

end RowQuery.Text
