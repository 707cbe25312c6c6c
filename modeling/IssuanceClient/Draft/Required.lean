import IssuanceClient.Program

/-!
Inputs that a draft may still lack.
-/

namespace IssuanceClient.Draft

/-- An input that has been supplied, or the failure that names it. -/
def required {α : Type} (value : Option α) (input : Input) : Except Failure α :=
  match value with
  | some value => .ok value
  | none => .error (.configuration (.missing input))

/-- A token account: the one supplied, else the owner's account for the mint of a snapshot. -/
def tokenAccount (supplied : Option Key) (owner : Key) (mint : Option Key) (input : Input) :
    Except Failure Key :=
  match supplied, mint with
  | some account, _ => .ok account
  | none, some mint => do return (← Address.tokenAccount owner mint).address
  | none, none => .error (.configuration (.missingTokenAccount input))

end IssuanceClient.Draft
