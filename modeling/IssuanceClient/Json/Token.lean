import IssuanceClient.Json.Numeral

/-!
The tokens of a JSON text: marks, and values that are no lists or objects.
-/

namespace IssuanceClient.Json

/-- A token of a JSON text. -/
inductive Token
  /-- A bracket, a brace, a comma or a colon. -/
  | mark (c : Char)
  | value (value : Json)
deriving Repr

namespace Token

/-- Whether a character only separates tokens. -/
def isSpace (c : Char) : Bool := c = ' ' || c = '\t' || c = '\n' || c = '\r'

/-- Whether a character is a token of its own. -/
def isMark (c : Char) : Bool := ['[', ']', '\x7b', '\x7d', ',', ':'].contains c

/-- The value that a bare word stands for. -/
def word? (chars : List Char) : Option Json :=
  if chars = ['n', 'u', 'l', 'l'] then some .null
  else if chars = ['t', 'r', 'u', 'e'] then some (.bool true)
  else if chars = ['f', 'a', 'l', 's', 'e'] then some (.bool false)
  else (Numeral.ofChars? chars).bind Numeral.value?

/-- The value of a hexadecimal digit. -/
def hexValue? (c : Char) : Option Nat :=
  if '0' ≤ c ∧ c ≤ '9' then some (c.toNat - '0'.toNat)
  else if 'a' ≤ c ∧ c ≤ 'f' then some (c.toNat - 'a'.toNat + 10)
  else if 'A' ≤ c ∧ c ≤ 'F' then some (c.toNat - 'A'.toNat + 10)
  else none

/-- The number of 16 bits that four hexadecimal digits denote. -/
def unit? (a b c d : Char) : Option Nat := do
  let digits ← [a, b, c, d].mapM hexValue?
  return ofDigits 16 digits.reverse

/-- The character with a given code, if there is one. -/
def char? (code : Nat) : Option Char := if code.isValidChar then some (Char.ofNat code) else none

/-- The character that a pair of numbers of 16 bits stands for: ten bits of its code come from each,
above the first plane. -/
def paired? (high low : Nat) : Option Char :=
  if 0xd800 ≤ high ∧ high < 0xdc00 ∧ 0xdc00 ≤ low ∧ low < 0xe000 then
    char? (0x10000 + 0x400 * (high - 0xd800) + (low - 0xdc00))
  else none

/-- The character that a backslash and a letter stand for. -/
def escaped? : Char → Option Char
  | '"' => some '"'
  | '\\' => some '\\'
  | '/' => some '/'
  | 'b' => some '\x08'
  | 'f' => some '\x0c'
  | 'n' => some '\n'
  | 'r' => some '\r'
  | 't' => some '\t'
  | _ => none

/-- The characters of a quoted text from what stands between its quotes.  A control character must
be escaped. -/
def unescape? : List Char → Option (List Char)
  | [] => some []
  | '\\' :: 'u' :: a :: b :: c :: d :: rest => do
      let high ← unit? a b c d
      match char? high, rest with
      | some char, rest => return char :: (← unescape? rest)
      | none, '\\' :: 'u' :: a :: b :: c :: d :: rest =>
          return (← paired? high (← unit? a b c d)) :: (← unescape? rest)
      | none, _ => none
  | '\\' :: c :: rest => do return (← escaped? c) :: (← unescape? rest)
  | c :: rest => if c = '\\' ∨ c < ' ' then none else (c :: ·) <$> unescape? rest

/-- A token of which a part has been read, the last character first. -/
inductive Unfinished
  | nothing
  | word (chars : List Char)
  /-- A quoted text. -/
  | text (chars : List Char)
  /-- A quoted text up to a backslash, which belongs to the next character. -/
  | escape (chars : List Char)

/-- The tokens at the front of a text, the last one first. -/
structure Scan where
  tokens : List Token := []
  unfinished : Unfinished := .nothing

namespace Scan

/-- The scan with one more token, and none begun. -/
def add (scan : Scan) (token : Token) : Scan := ⟨token :: scan.tokens, .nothing⟩

/-- Ends a bare word.  A quoted text does not end without its quote. -/
def close (scan : Scan) : Option Scan :=
  match scan.unfinished with
  | .nothing => some scan
  | .word chars => (fun value => scan.add (.value value)) <$> word? chars.reverse
  | .text _ => none
  | .escape _ => none

/-- Takes a character that lies outside of quotes and belongs to no word. -/
def begin (scan : Scan) (c : Char) : Option Scan :=
  if isSpace c then some scan
  else if isMark c then some (scan.add (.mark c))
  else if c = '"' then some { scan with unfinished := .text [] }
  else some { scan with unfinished := .word [c] }

/-- Whether a character ends the word before it. -/
def endsWord (c : Char) : Bool := isSpace c || isMark c || c = '"'

/-- Takes the next character of a text. -/
def step (scan : Scan) (c : Char) : Option Scan :=
  match scan.unfinished with
  | .nothing => scan.begin c
  | .word chars =>
      if endsWord c then do (← scan.close).begin c
      else some { scan with unfinished := .word (c :: chars) }
  | .text chars =>
      if c = '"' then do
        let text ← unescape? chars.reverse
        return scan.add (.value (.string (String.ofList text)))
      else if c = '\\' then some { scan with unfinished := .escape chars }
      else some { scan with unfinished := .text (c :: chars) }
  | .escape chars => some { scan with unfinished := .text (c :: '\\' :: chars) }

end Scan

/-- The tokens of a text. -/
def list? (text : List Char) : Option (List Token) := do
  let scan ← text.foldlM Scan.step {}
  return (← scan.close).tokens.reverse

end Token

end IssuanceClient.Json
