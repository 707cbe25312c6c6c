import IssuanceClient.Connection
import IssuanceClient.Issuance
import IssuanceClient.Snapshot

/-!
Reading issuances from a cluster.  An issuance that is looked up by address is checked against its
own seeds, so an account that another program wrote, or wrote elsewhere, is not mistaken for it.
-/

namespace IssuanceClient

/-- A snapshot with what the cluster says about its account. -/
structure IssuanceAccount where
  address : Key
  owner : Key
  lamports : UInt64
  snapshot : Snapshot
deriving DecidableEq, Repr

def IssuanceAccount.isOwnedBy (account : IssuanceAccount) (program : Key) : Bool :=
  account.owner == program

namespace Connection

/-- The account at an address, which must not be empty. -/
def fetchAccount (connection : Connection) (address : Key) : Run Account := do
  match ← connection.getAccount address with
  | some account => return account
  | none => Run.fail (.accountNotFound address)

/-- The issuance whose state lies at an address. -/
def fetchIssuance (connection : Connection) (address : Key) : Run IssuanceAccount := do
  let account ← connection.fetchAccount address
  let snapshot ← Run.ofExcept (Snapshot.unpack account.data)
  return ⟨address, account.owner, account.lamports, snapshot⟩

end Connection

namespace Issuance

/-- The handle of the issuance whose state lies at an address, with what was read there. -/
def fetchAt (connection : Connection) (program address : Key) :
    Run (Issuance × IssuanceAccount) := do
  let account ← connection.fetchIssuance address
  let issuance ← Run.ofExcept <|
    derive program account.snapshot.issuer account.snapshot.start account.snapshot.reserve
  if issuance.address = address then return (issuance, account)
  else Run.fail (.configuration (.seedMismatch address program issuance.address))

/-- The issuance's state account. -/
def fetch (issuance : Issuance) (connection : Connection) : Run IssuanceAccount :=
  connection.fetchIssuance issuance.address

/-- The issuance's state. -/
def fetchSnapshot (issuance : Issuance) (connection : Connection) : Run Snapshot := do
  return (← issuance.fetch connection).snapshot

end Issuance

end IssuanceClient
