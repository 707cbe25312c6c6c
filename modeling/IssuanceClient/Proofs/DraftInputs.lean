import IssuanceClient.Draft

/-!
What a draft has after some inputs.  Of the inputs of one sort only the last one counts; the handle
stays what it was.  So a plan leads to the draft that holds the last values that its inputs give.
-/

namespace IssuanceClient

namespace Draft

variable {α β γ δ : Type}

/-- The last value that some inputs give. -/
def lastGiven (given : α → Option β) (supplies : List α) : Option β :=
  (supplies.filterMap given).getLast?

theorem lastGiven_cons (given : α → Option β) (supply : α) (supplies : List α) :
    lastGiven given (supply :: supplies) = (lastGiven given supplies).or (given supply) := by
  rw [lastGiven, lastGiven, List.filterMap_cons]
  cases given supply with
  | none => rw [Option.or_none]
  | some value =>
      rw [List.getLast?_cons]
      cases (supplies.filterMap given).getLast? <;> rfl

theorem lastGiven_map (given : α → Option β) (f : β → γ) (supplies : List α) :
    lastGiven (fun supply => (given supply).map f) supplies = (lastGiven given supplies).map f := by
  rw [lastGiven, lastGiven, ← List.map_filterMap, List.getLast?_map]

/-- If an input sets a field or leaves it alone, some inputs leave the last value that they give. -/
theorem foldl_eq_lastGiven_or {supply : δ → α → δ} {field : δ → Option β} {given : α → Option β}
    (hstep : ∀ draft input, field (supply draft input) = (given input).or (field draft))
    (supplies : List α) (draft : δ) :
    field (supplies.foldl supply draft) = (lastGiven given supplies).or (field draft) := by
  induction supplies generalizing draft with
  | nil => rfl
  | cons input supplies ih => rw [List.foldl_cons, ih, hstep, lastGiven_cons, Option.or_assoc]

/-- What no input changes stays. -/
theorem foldl_eq_self {supply : δ → α → δ} {field : δ → γ}
    (hstep : ∀ draft input, field (supply draft input) = field draft)
    (supplies : List α) (draft : δ) : field (supplies.foldl supply draft) = field draft := by
  induction supplies generalizing draft with
  | nil => rfl
  | cons input supplies ih => rw [List.foldl_cons, ih, hstep]

end Draft

namespace InitDraft

def Supply.maturity? : Supply → Option Int64
  | .maturity time => some time
  | _ => none

def Supply.lockMint? : Supply → Option Key
  | .lockMint mint => some mint
  | _ => none

def Supply.rewardMint? : Supply → Option Key
  | .rewardMint mint => some mint
  | _ => none

def Supply.depositEscrow? : Supply → Option Key
  | .depositEscrow escrow => some escrow
  | _ => none

def Supply.rewardEscrow? : Supply → Option Key
  | .rewardEscrow escrow => some escrow
  | _ => none

def Supply.platformTreasury? : Supply → Option Key
  | .platformTreasury treasury => some treasury
  | _ => none

variable (supplies : List Supply) (draft : InitDraft)

theorem issuance_foldl : (supplies.foldl supply draft).issuance = draft.issuance :=
  Draft.foldl_eq_self (fun _ input => by cases input <;> rfl) supplies draft

theorem maturity_foldl :
    (supplies.foldl supply draft).maturity =
      (Draft.lastGiven Supply.maturity? supplies).or draft.maturity :=
  Draft.foldl_eq_lastGiven_or (fun _ input => by cases input <;> rfl) supplies draft

theorem lockMint_foldl :
    (supplies.foldl supply draft).lockMint =
      (Draft.lastGiven Supply.lockMint? supplies).or draft.lockMint :=
  Draft.foldl_eq_lastGiven_or (fun _ input => by cases input <;> rfl) supplies draft

theorem rewardMint_foldl :
    (supplies.foldl supply draft).rewardMint =
      (Draft.lastGiven Supply.rewardMint? supplies).or draft.rewardMint :=
  Draft.foldl_eq_lastGiven_or (fun _ input => by cases input <;> rfl) supplies draft

theorem depositEscrow_foldl :
    (supplies.foldl supply draft).depositEscrow =
      (Draft.lastGiven Supply.depositEscrow? supplies).or draft.depositEscrow :=
  Draft.foldl_eq_lastGiven_or (fun _ input => by cases input <;> rfl) supplies draft

theorem rewardEscrow_foldl :
    (supplies.foldl supply draft).rewardEscrow =
      (Draft.lastGiven Supply.rewardEscrow? supplies).or draft.rewardEscrow :=
  Draft.foldl_eq_lastGiven_or (fun _ input => by cases input <;> rfl) supplies draft

theorem platformTreasury_foldl :
    (supplies.foldl supply draft).platformTreasury =
      (Draft.lastGiven Supply.platformTreasury? supplies).or draft.platformTreasury :=
  Draft.foldl_eq_lastGiven_or (fun _ input => by cases input <;> rfl) supplies draft

/-- What the inputs to a handle come to. -/
theorem foldl_supply (handle : Issuance) :
    supplies.foldl supply { issuance := handle } =
      { issuance := handle
        maturity := Draft.lastGiven Supply.maturity? supplies
        lockMint := Draft.lastGiven Supply.lockMint? supplies
        rewardMint := Draft.lastGiven Supply.rewardMint? supplies
        depositEscrow := Draft.lastGiven Supply.depositEscrow? supplies
        rewardEscrow := Draft.lastGiven Supply.rewardEscrow? supplies
        platformTreasury := Draft.lastGiven Supply.platformTreasury? supplies } := by
  ext1
  · exact issuance_foldl supplies _
  · rw [maturity_foldl, Option.or_none]
  · rw [lockMint_foldl, Option.or_none]
  · rw [rewardMint_foldl, Option.or_none]
  · rw [depositEscrow_foldl, Option.or_none]
  · rw [rewardEscrow_foldl, Option.or_none]
  · rw [platformTreasury_foldl, Option.or_none]

end InitDraft

namespace FundDraft

def Supply.amount? : Supply → Option UInt64
  | .amount units => some units
  | _ => none

def Supply.issuerRewardAccount? : Supply → Option Key
  | .issuerRewardAccount key => some key
  | _ => none

def Supply.snapshot? : Supply → Option Snapshot
  | .snapshot state => some state
  | _ => none

/-- The escrow that is supplied, by itself or in a snapshot. -/
def Supply.rewardEscrow? : Supply → Option Key
  | .rewardEscrow escrow => some escrow
  | .snapshot state => some state.rewardEscrow
  | _ => none

variable (supplies : List Supply) (draft : FundDraft)

theorem issuance_foldl : (supplies.foldl supply draft).issuance = draft.issuance :=
  Draft.foldl_eq_self (fun _ input => by cases input <;> rfl) supplies draft

theorem issuerRewardAccount_foldl :
    (supplies.foldl supply draft).issuerRewardAccount =
      (Draft.lastGiven Supply.issuerRewardAccount? supplies).or draft.issuerRewardAccount :=
  Draft.foldl_eq_lastGiven_or (fun _ input => by cases input <;> rfl) supplies draft

theorem rewardMint_foldl :
    (supplies.foldl supply draft).rewardMint =
      ((Draft.lastGiven Supply.snapshot? supplies).map Snapshot.rewardMint).or
        draft.rewardMint := by
  rw [← Draft.lastGiven_map]
  exact Draft.foldl_eq_lastGiven_or (fun _ input => by cases input <;> rfl) supplies draft

theorem amount_foldl :
    (supplies.foldl supply draft).amount =
      (Draft.lastGiven Supply.amount? supplies).or draft.amount :=
  Draft.foldl_eq_lastGiven_or (fun _ input => by cases input <;> rfl) supplies draft

theorem rewardEscrow_foldl :
    (supplies.foldl supply draft).rewardEscrow =
      (Draft.lastGiven Supply.rewardEscrow? supplies).or draft.rewardEscrow :=
  Draft.foldl_eq_lastGiven_or (fun _ input => by cases input <;> rfl) supplies draft

/-- What the inputs to a handle come to. -/
theorem foldl_supply (handle : Issuance) :
    supplies.foldl supply { issuance := handle } =
      { issuance := handle
        amount := Draft.lastGiven Supply.amount? supplies
        issuerRewardAccount := Draft.lastGiven Supply.issuerRewardAccount? supplies
        rewardEscrow := Draft.lastGiven Supply.rewardEscrow? supplies
        rewardMint := (Draft.lastGiven Supply.snapshot? supplies).map Snapshot.rewardMint } := by
  ext1
  · exact issuance_foldl supplies _
  · rw [amount_foldl, Option.or_none]
  · rw [issuerRewardAccount_foldl, Option.or_none]
  · rw [rewardEscrow_foldl, Option.or_none]
  · rw [rewardMint_foldl, Option.or_none]

end FundDraft

namespace DepositDraft

def Supply.participant? : Supply → Option Key
  | .participant key => some key
  | _ => none

def Supply.amount? : Supply → Option UInt64
  | .amount units => some units
  | _ => none

def Supply.participantLockAccount? : Supply → Option Key
  | .participantLockAccount key => some key
  | _ => none

def Supply.snapshot? : Supply → Option Snapshot
  | .snapshot state => some state
  | _ => none

/-- The escrow that is supplied, by itself or in a snapshot. -/
def Supply.depositEscrow? : Supply → Option Key
  | .depositEscrow escrow => some escrow
  | .snapshot state => some state.depositEscrow
  | _ => none

variable (supplies : List Supply) (draft : DepositDraft)

theorem issuance_foldl : (supplies.foldl supply draft).issuance = draft.issuance :=
  Draft.foldl_eq_self (fun _ input => by cases input <;> rfl) supplies draft

theorem participant_foldl :
    (supplies.foldl supply draft).participant =
      (Draft.lastGiven Supply.participant? supplies).or draft.participant :=
  Draft.foldl_eq_lastGiven_or (fun _ input => by cases input <;> rfl) supplies draft

theorem participantLockAccount_foldl :
    (supplies.foldl supply draft).participantLockAccount =
      (Draft.lastGiven Supply.participantLockAccount? supplies).or draft.participantLockAccount :=
  Draft.foldl_eq_lastGiven_or (fun _ input => by cases input <;> rfl) supplies draft

theorem lockMint_foldl :
    (supplies.foldl supply draft).lockMint =
      ((Draft.lastGiven Supply.snapshot? supplies).map Snapshot.lockMint).or draft.lockMint := by
  rw [← Draft.lastGiven_map]
  exact Draft.foldl_eq_lastGiven_or (fun _ input => by cases input <;> rfl) supplies draft

theorem amount_foldl :
    (supplies.foldl supply draft).amount =
      (Draft.lastGiven Supply.amount? supplies).or draft.amount :=
  Draft.foldl_eq_lastGiven_or (fun _ input => by cases input <;> rfl) supplies draft

theorem depositEscrow_foldl :
    (supplies.foldl supply draft).depositEscrow =
      (Draft.lastGiven Supply.depositEscrow? supplies).or draft.depositEscrow :=
  Draft.foldl_eq_lastGiven_or (fun _ input => by cases input <;> rfl) supplies draft

/-- What the inputs to a handle come to. -/
theorem foldl_supply (handle : Issuance) :
    supplies.foldl supply { issuance := handle } =
      { issuance := handle
        participant := Draft.lastGiven Supply.participant? supplies
        amount := Draft.lastGiven Supply.amount? supplies
        participantLockAccount := Draft.lastGiven Supply.participantLockAccount? supplies
        depositEscrow := Draft.lastGiven Supply.depositEscrow? supplies
        lockMint := (Draft.lastGiven Supply.snapshot? supplies).map Snapshot.lockMint } := by
  ext1
  · exact issuance_foldl supplies _
  · rw [participant_foldl, Option.or_none]
  · rw [amount_foldl, Option.or_none]
  · rw [participantLockAccount_foldl, Option.or_none]
  · rw [depositEscrow_foldl, Option.or_none]
  · rw [lockMint_foldl, Option.or_none]

end DepositDraft

namespace ClaimDraft

def Supply.participant? : Supply → Option Key
  | .participant key => some key
  | _ => none

def Supply.participantRewardAccount? : Supply → Option Key
  | .participantRewardAccount key => some key
  | _ => none

def Supply.snapshot? : Supply → Option Snapshot
  | .snapshot state => some state
  | _ => none

/-- The escrow that is supplied, by itself or in a snapshot. -/
def Supply.rewardEscrow? : Supply → Option Key
  | .rewardEscrow escrow => some escrow
  | .snapshot state => some state.rewardEscrow
  | _ => none

variable (supplies : List Supply) (draft : ClaimDraft)

theorem issuance_foldl : (supplies.foldl supply draft).issuance = draft.issuance :=
  Draft.foldl_eq_self (fun _ input => by cases input <;> rfl) supplies draft

theorem participant_foldl :
    (supplies.foldl supply draft).participant =
      (Draft.lastGiven Supply.participant? supplies).or draft.participant :=
  Draft.foldl_eq_lastGiven_or (fun _ input => by cases input <;> rfl) supplies draft

theorem participantRewardAccount_foldl :
    (supplies.foldl supply draft).participantRewardAccount =
      (Draft.lastGiven Supply.participantRewardAccount? supplies).or
        draft.participantRewardAccount :=
  Draft.foldl_eq_lastGiven_or (fun _ input => by cases input <;> rfl) supplies draft

theorem rewardMint_foldl :
    (supplies.foldl supply draft).rewardMint =
      ((Draft.lastGiven Supply.snapshot? supplies).map Snapshot.rewardMint).or
        draft.rewardMint := by
  rw [← Draft.lastGiven_map]
  exact Draft.foldl_eq_lastGiven_or (fun _ input => by cases input <;> rfl) supplies draft

theorem rewardEscrow_foldl :
    (supplies.foldl supply draft).rewardEscrow =
      (Draft.lastGiven Supply.rewardEscrow? supplies).or draft.rewardEscrow :=
  Draft.foldl_eq_lastGiven_or (fun _ input => by cases input <;> rfl) supplies draft

/-- What the inputs to a handle come to. -/
theorem foldl_supply (handle : Issuance) :
    supplies.foldl supply { issuance := handle } =
      { issuance := handle
        participant := Draft.lastGiven Supply.participant? supplies
        participantRewardAccount := Draft.lastGiven Supply.participantRewardAccount? supplies
        rewardEscrow := Draft.lastGiven Supply.rewardEscrow? supplies
        rewardMint := (Draft.lastGiven Supply.snapshot? supplies).map Snapshot.rewardMint } := by
  ext1
  · exact issuance_foldl supplies _
  · rw [participant_foldl, Option.or_none]
  · rw [participantRewardAccount_foldl, Option.or_none]
  · rw [rewardEscrow_foldl, Option.or_none]
  · rw [rewardMint_foldl, Option.or_none]

end ClaimDraft

end IssuanceClient
