import IssuanceClient.Digits

/-!
Base58 text.  The bytes are one big-endian number written in 58 digits; since a number has no
leading zeros, every leading zero byte is kept as one leading `1`.
-/

namespace IssuanceClient.Base58

/-- The 58 letters in digit order: digits and letters without `0`, `I`, `O` and `l`. -/
def alphabet : List Char :=
  ['1', '2', '3', '4', '5', '6', '7', '8', '9',
   'A', 'B', 'C', 'D', 'E', 'F', 'G', 'H', 'J', 'K', 'L', 'M', 'N', 'P', 'Q', 'R', 'S', 'T', 'U',
   'V', 'W', 'X', 'Y', 'Z',
   'a', 'b', 'c', 'd', 'e', 'f', 'g', 'h', 'i', 'j', 'k', 'm', 'n', 'o', 'p', 'q', 'r', 's', 't',
   'u', 'v', 'w', 'x', 'y', 'z']

/-- The letter of a digit below 58. -/
def letter (digit : Nat) : Char := alphabet.getD digit '1'

/-- The digit of a letter, if it belongs to the alphabet. -/
def value? (c : Char) : Option Nat := alphabet.idxOf? c

/-- The letters of a byte string. -/
def encodeChars (bytes : List UInt8) : List Char :=
  let zeros := bytes.takeWhile (· == 0)
  let number := ofDigits 256 (bytes.reverse.map UInt8.toNat)
  zeros.map (fun _ => '1') ++ (digits 58 number).reverse.map letter

/-- The base58 text of a byte string. -/
def encode (bytes : List UInt8) : String := String.ofList (encodeChars bytes)

/-- The byte string of a digit list, most significant digit first. -/
def ofValues (values : List Nat) : List UInt8 :=
  let zeros := values.takeWhile (· == 0)
  zeros.map (fun _ => 0) ++ (digits 256 (ofDigits 58 values.reverse)).reverse.map UInt8.ofNat

/-- The byte string of a text, or none if a character lies outside the alphabet. -/
def decode? (text : String) : Option (List UInt8) :=
  (text.toList.mapM value?).map ofValues

end IssuanceClient.Base58
