/-!
Base64 text: three bytes to four letters, padded with `=` to a whole number of groups.  Reading is
strict, so that every byte string has one text: the padding must be there, and the bits it cuts off
must be zero.
-/

namespace IssuanceClient.Base64

/-- The 64 letters in digit order. -/
def alphabet : List Char :=
  ['A', 'B', 'C', 'D', 'E', 'F', 'G', 'H', 'I', 'J', 'K', 'L', 'M', 'N', 'O', 'P', 'Q', 'R', 'S',
   'T', 'U', 'V', 'W', 'X', 'Y', 'Z',
   'a', 'b', 'c', 'd', 'e', 'f', 'g', 'h', 'i', 'j', 'k', 'l', 'm', 'n', 'o', 'p', 'q', 'r', 's',
   't', 'u', 'v', 'w', 'x', 'y', 'z',
   '0', '1', '2', '3', '4', '5', '6', '7', '8', '9', '+', '/']

/-- The letter of the six lowest bits of a number. -/
def letter (n : Nat) : Char := alphabet.getD (n % 64) 'A'

/-- The six bits of a letter, if it belongs to the alphabet. -/
def value? (c : Char) : Option Nat := alphabet.idxOf? c

/-- The letters of a byte string, three bytes at a time. -/
def encodeChars : List UInt8 → List Char
  | [] => []
  | [a] =>
      let n := 65536 * a.toNat
      [letter (n / 262144), letter (n / 4096), '=', '=']
  | [a, b] =>
      let n := 65536 * a.toNat + 256 * b.toNat
      [letter (n / 262144), letter (n / 4096), letter (n / 64), '=']
  | a :: b :: c :: rest =>
      let n := 65536 * a.toNat + 256 * b.toNat + c.toNat
      letter (n / 262144) :: letter (n / 4096) :: letter (n / 64) :: letter n :: encodeChars rest

/-- The base64 text of a byte string. -/
def encode (bytes : List UInt8) : String := String.ofList (encodeChars bytes)

/-- The bytes of a list of letters, four letters at a time. -/
def decodeChars? : List Char → Option (List UInt8)
  | [] => some []
  | [a, b, '=', '='] => do
      let n := 64 * (← value? a) + (← value? b)
      if n % 16 = 0 then some [UInt8.ofNat (n / 16)] else none
  | [a, b, c, '='] => do
      let n := 4096 * (← value? a) + 64 * (← value? b) + (← value? c)
      if n % 4 = 0 then some [UInt8.ofNat (n / 1024), UInt8.ofNat (n / 4)] else none
  | a :: b :: c :: d :: rest => do
      let n := 262144 * (← value? a) + 4096 * (← value? b) + 64 * (← value? c) + (← value? d)
      return UInt8.ofNat (n / 65536) :: UInt8.ofNat (n / 256) :: UInt8.ofNat n ::
        (← decodeChars? rest)
  | _ => none

/-- The byte string of a text, if the text is what `encode` writes for one. -/
def decode? (text : String) : Option (List UInt8) := decodeChars? text.toList

end IssuanceClient.Base64
