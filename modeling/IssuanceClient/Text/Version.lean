import IssuanceClient.Text.Decimal
import IssuanceClient.Text.Quoted

/-!
Version numbers: three numbers with dots between them, then perhaps a pre-release after a hyphen and
build metadata after a plus sign.  Only whether a text is a version matters here, and if it is none,
what is the first thing wrong with it.
-/

namespace IssuanceClient.Text

/-- A part of a version. -/
inductive VersionPart
  | major
  | minor
  | patch
  | preRelease
  | build
deriving DecidableEq, Repr

/-- Why a text is no version. -/
inductive VersionFault
  | empty
  | unexpectedEnd (part : VersionPart)
  | unexpectedChar (part : VersionPart) (c : Char)
  | unexpectedCharAfter (part : VersionPart) (c : Char)
  | leadingZero (part : VersionPart)
  | tooLarge (part : VersionPart)
  | emptySegment (part : VersionPart)
deriving DecidableEq, Repr

def VersionPart.name : VersionPart → String
  | major => "major version number"
  | minor => "minor version number"
  | patch => "patch version number"
  | preRelease => "pre-release identifier"
  | build => "build metadata"

def VersionFault.message : VersionFault → String
  | empty => "empty string, expected a semver version"
  | unexpectedEnd part => "unexpected end of input while parsing " ++ part.name
  | unexpectedChar part c =>
      "unexpected character " ++ quotedChar c ++ " while parsing " ++ part.name
  | unexpectedCharAfter part c => "unexpected character " ++ quotedChar c ++ " after " ++ part.name
  | leadingZero part => "invalid leading zero in " ++ part.name
  | tooLarge part => "value of " ++ part.name ++ " exceeds u64::MAX"
  | emptySegment part => "empty identifier segment in " ++ part.name

namespace Version

/-- The rest of a text after the digits of a number whose first digits gave `value`.  A number that
starts with a zero ends there. -/
def afterDigits (part : VersionPart) : (value : Nat) → (started : Bool) → List Char →
    Except VersionFault (List Char)
  | value, started, c :: rest =>
      match digitValue? c with
      | some digit =>
          if started ∧ value = 0 then .error (.leadingZero part)
          else
            let next := 10 * value + digit
            if next < UInt64.size then afterDigits part next true rest else .error (.tooLarge part)
      | none => if started then .ok (c :: rest) else .error (.unexpectedChar part c)
  | _, started, [] => if started then .ok [] else .error (.unexpectedEnd part)

/-- The rest of a text after a number. -/
def afterNumber (part : VersionPart) : List Char → Except VersionFault (List Char) :=
  afterDigits part 0 false

/-- The rest of a text after a dot, which must follow the given part. -/
def afterDot (part : VersionPart) : List Char → Except VersionFault (List Char)
  | '.' :: rest => .ok rest
  | c :: _ => .error (.unexpectedCharAfter part c)
  | [] => .error (.unexpectedEnd part)

/-- Whether identifiers may contain a character. -/
def isIdentifierChar (c : Char) : Bool := c.isAlphanum || c == '-'

/-- The rest of a text after identifiers with dots between them, of which `segment` is the one being
read, last character first.  No identifier is empty, and in a pre-release none is a number that
starts with a zero. -/
def afterIdentifiers (part : VersionPart) : (segment : List Char) → List Char →
    Except VersionFault (List Char)
  | segment, c :: rest =>
      if isIdentifierChar c then afterIdentifiers part (c :: segment) rest
      else do
        close segment
        if c = '.' then afterIdentifiers part [] rest else return c :: rest
  | segment, [] => do
      close segment
      return []
where
  /-- Accepts a complete identifier. -/
  close (segment : List Char) : Except VersionFault Unit :=
    if segment.isEmpty then .error (.emptySegment part)
    else if part = .preRelease ∧ segment.all Char.isDigit ∧ 1 < segment.length ∧
        segment.getLast? = some '0' then .error (.leadingZero part)
    else .ok ()

/-- Accepts what follows the last part of a version, which must be nothing. -/
def atEnd (part : VersionPart) : List Char → Except VersionFault Unit
  | [] => .ok ()
  | c :: _ => .error (.unexpectedCharAfter part c)

/-- Accepts what may follow the numbers and the pre-release, where `part` is the last one read. -/
def afterPreRelease (part : VersionPart) : List Char → Except VersionFault Unit
  | '+' :: rest => do atEnd .build (← afterIdentifiers .build [] rest)
  | rest => atEnd part rest

/-- Accepts a version. -/
def check (text : String) : Except VersionFault Unit := do
  if text.isEmpty then throw .empty
  let rest ← afterDot .major (← afterNumber .major text.toList)
  let rest ← afterDot .minor (← afterNumber .minor rest)
  match ← afterNumber .patch rest with
  | '-' :: rest => afterPreRelease .preRelease (← afterIdentifiers .preRelease [] rest)
  | rest => afterPreRelease .patch rest

end Version

end IssuanceClient.Text
