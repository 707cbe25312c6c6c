/-!
The text of a span of time that is a whole number of milliseconds.
-/

namespace IssuanceClient.Text

/-- A fraction of a second, without trailing zeros, and nothing for none. -/
def secondFraction (milliseconds : Nat) : String :=
  let places := [milliseconds / 100 % 10, milliseconds / 10 % 10, milliseconds % 10]
  let shown := (places.reverse.dropWhile (· == 0)).reverse
  if shown.isEmpty then "" else "." ++ String.join (shown.map toString)

/-- Zero reads `0ns`, less than a second in milliseconds, and anything longer in seconds. -/
def duration (milliseconds : Nat) : String :=
  if milliseconds = 0 then "0ns"
  else if milliseconds < 1000 then toString milliseconds ++ "ms"
  else toString (milliseconds / 1000) ++ secondFraction (milliseconds % 1000) ++ "s"

end IssuanceClient.Text
