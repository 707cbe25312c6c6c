import IssuanceClient.Commitment
import IssuanceClient.Key
import IssuanceClient.Kind
import IssuanceClient.Text.Decimal
import IssuanceClient.Text.Duration
import IssuanceClient.Text.Quoted

/-!
What can go wrong, as causes.  Every cause carries the values its message speaks of, and `message`
is the one place where messages are worded.
-/

namespace IssuanceClient

/-- Why a list of seeds gives no program address. -/
inductive SeedFault
  /-- More seeds than are allowed, or one that is too long. -/
  | tooLong
  /-- The digest names a curve point, so a private key could exist for it. -/
  | onCurve
deriving DecidableEq, Repr

/-- Why a transaction could not be signed. -/
inductive SigningFault
  /-- A signer whose key the message asks no signature of. -/
  | keyMismatch
  /-- A signer refused, in its own words. -/
  | refused (reason : String)
  /-- Some signature is still missing. -/
  | notEnough
deriving DecidableEq, Repr

/-- The inputs that an instruction under construction may lack. -/
inductive Input
  | maturity
  | amount
  | participant
  | lockMint
  | rewardMint
  | depositEscrow
  | rewardEscrow
  | platformTreasury
  | issuerRewardAccount
  | participantLockAccount
  | participantRewardAccount
deriving DecidableEq, Repr

/-- The settings that a configuration is read from. -/
inductive Setting
  | programId
  | rpcUrl
  | commitment
  | confirmTimeout
  | pollInterval
deriving DecidableEq, Repr

/-- What is missing or malformed in the inputs of an operation. -/
inductive ConfigurationFault
  | tooManySeeds (count : Nat)
  | seedTooLong (index length : Nat)
  | invalidSeeds (program : Key) (fault : SeedFault)
  | missing (input : Input)
  /-- A token account that was neither given nor can be derived for want of a snapshot. -/
  | missingTokenAccount (input : Input)
  | kindMismatch (accounts instruction : Kind)
  | seedMismatch (address program derived : Key)
  | noInstructions
  | noSigners
  | unsigned (fault : SigningFault)
  | unset (setting : Setting)
  | invalidKey (setting : Setting) (text : String) (fault : TextFault)
  | invalidCommitment (text : String)
  | invalidNumber (setting : Setting) (text : String) (fault : Text.NumberFault)
  /-- A fault that a connection reports in its own words. -/
  | reported (text : String)
deriving DecidableEq, Repr

/-- What went wrong between client and cluster. -/
inductive NetworkFault
  | unconfirmed (signature : Signature) (commitment : Commitment) (timeout : Nat)
  /-- A fault that a connection reports in its own words. -/
  | reported (text : String)
deriving DecidableEq, Repr

/-- Every way in which an operation of the client fails. -/
inductive Failure
  | configuration (fault : ConfigurationFault)
  /-- No bump gives an address off the curve. -/
  | derivationExhausted (program : Key)
  | emptyInstruction
  | unknownTag (tag : UInt8)
  | wrongWidth (tag : UInt8) (expected actual : Nat)
  | dataTooShort (needed actual : Nat)
  | unsupportedVersion (version : UInt8) (offset : Nat)
  | network (fault : NetworkFault)
  /-- The program rejected the transaction. -/
  | rejected (signature : Option Signature) (reason : String) (logs : List String)
  | accountNotFound (address : Key)
deriving DecidableEq, Repr

def SeedFault.message : SeedFault → String
  | .tooLong => "Length of the seed is too long for address generation"
  | .onCurve => "Provided seeds do not result in a valid address"

def SigningFault.message : SigningFault → String
  | .keyMismatch => "keypair-pubkey mismatch"
  | .refused reason => "custom error: " ++ reason
  | .notEnough => "not enough signers"

def Input.name : Input → String
  | .maturity => "Maturity timestamp"
  | .amount => "Amount"
  | .participant => "Participant"
  | .lockMint => "Lock mint"
  | .rewardMint => "Reward mint"
  | .depositEscrow => "Deposit escrow"
  | .rewardEscrow => "Reward escrow"
  | .platformTreasury => "Platform treasury"
  | .issuerRewardAccount => "Issuer reward account"
  | .participantLockAccount => "Participant lock account"
  | .participantRewardAccount => "Participant reward account"

/-- The variable that holds a setting. -/
def Setting.name : Setting → String
  | .programId => "PROGRAM_ID"
  | .rpcUrl => "RPC_URL"
  | .commitment => "COMMITMENT"
  | .confirmTimeout => "CONFIRM_TIMEOUT_MS"
  | .pollInterval => "POLL_INTERVAL_MS"

/-- The most seeds of an address, its bump included. -/
def maxSeeds : Nat := 16

/-- The most bytes of one seed. -/
def maxSeedLength : Nat := 32

def ConfigurationFault.message : ConfigurationFault → String
  | .tooManySeeds count => s!"too many seeds: {count} (max {maxSeeds - 1})"
  | .seedTooLong index length => s!"seed {index} is {length} bytes (max {maxSeedLength})"
  | .invalidSeeds program fault =>
      "invalid seeds for program " ++ program.text ++ ": " ++ fault.message
  | .missing input => input.name ++ " required"
  | .missingTokenAccount input =>
      input.name ++ " required (or a state snapshot to derive it from)"
  | .kindMismatch accounts instruction =>
      accounts.name ++ " accounts supplied for " ++ instruction.name ++ " instruction"
  | .seedMismatch address program derived =>
      "account " ++ address.text ++ " does not match its seeds under program " ++ program.text ++
        " (derived " ++ derived.text ++ ")"
  | .noInstructions => "transaction has no instructions"
  | .noSigners => "at least one signer is required"
  | .unsigned fault => "Failed to sign transaction: " ++ fault.message
  | .unset setting => setting.name ++ " is not set"
  | .invalidKey setting text fault =>
      setting.name ++ " " ++ Text.quoted text ++ ": " ++ fault.keyMessage
  | .invalidCommitment text =>
      "COMMITMENT must be processed, confirmed or finalized, got " ++ Text.quoted text
  | .invalidNumber setting text fault =>
      setting.name ++ " " ++ Text.quoted text ++ ": " ++ fault.message
  | .reported text => text

def NetworkFault.message : NetworkFault → String
  | .unconfirmed signature commitment timeout =>
      "transaction " ++ signature.text ++ " not confirmed at " ++ commitment.title ++ " within " ++
        Text.duration timeout
  | .reported text => text

namespace Failure

def message : Failure → String
  | configuration fault => "Configuration error: " ++ fault.message
  | derivationExhausted program =>
      "Address derivation exhausted all bumps for program " ++ program.text
  | emptyInstruction => "Invalid instruction data: empty payload"
  | unknownTag tag => s!"Invalid instruction data: unknown discriminant {tag.toNat}"
  | wrongWidth tag expected actual =>
      s!"Invalid instruction data: discriminant {tag.toNat} expects {expected} bytes, got {actual}"
  | dataTooShort needed actual => s!"Account data too short: need {needed} bytes, got {actual}"
  | unsupportedVersion version offset =>
      s!"Unsupported account layout: version byte {version.toNat} at offset {offset}"
  | network fault => "Network error: " ++ fault.message
  | rejected _ reason _ => "Program execution failed: " ++ reason
  | accountNotFound address => "Account not found: " ++ address.text

/-- The program's log lines, which only a rejected transaction has. -/
def logs : Failure → List String
  | rejected _ _ lines => lines
  | _ => []

end Failure

end IssuanceClient
