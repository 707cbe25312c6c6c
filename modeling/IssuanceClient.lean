import IssuanceClient.Address
import IssuanceClient.Binary64
import IssuanceClient.Binary64.Text
import IssuanceClient.Bytes
import IssuanceClient.Bytes.LittleEndian
import IssuanceClient.Commitment
import IssuanceClient.Config
import IssuanceClient.Connection
import IssuanceClient.Connection.Scripted
import IssuanceClient.Digits
import IssuanceClient.Draft
import IssuanceClient.Draft.Claim
import IssuanceClient.Draft.Deposit
import IssuanceClient.Draft.Fund
import IssuanceClient.Draft.Init
import IssuanceClient.Draft.Required
import IssuanceClient.Ed25519.Curve
import IssuanceClient.Ed25519.Signing
import IssuanceClient.Failure
import IssuanceClient.Fetch
import IssuanceClient.Hash.Sha2
import IssuanceClient.Instruction
import IssuanceClient.Instruction.Accounts
import IssuanceClient.Instruction.Build
import IssuanceClient.Issuance
import IssuanceClient.Json
import IssuanceClient.Json.Choice
import IssuanceClient.Json.Document
import IssuanceClient.Json.Mismatch
import IssuanceClient.Json.Numeral
import IssuanceClient.Json.Reader
import IssuanceClient.Json.Record
import IssuanceClient.Json.Token
import IssuanceClient.Key
import IssuanceClient.Kind
import IssuanceClient.Message
import IssuanceClient.Message.Wire
import IssuanceClient.Payload
import IssuanceClient.Payload.Fieldwise
import IssuanceClient.Payload.Unpack
import IssuanceClient.Program
import IssuanceClient.Proofs.AddressCollision
import IssuanceClient.Proofs.AddressSearch
import IssuanceClient.Proofs.Base58Codec
import IssuanceClient.Proofs.CallOrder
import IssuanceClient.Proofs.CodecAgreement
import IssuanceClient.Proofs.ConfigReading
import IssuanceClient.Proofs.ConfigRoundTrip
import IssuanceClient.Proofs.ConfigurationFailure
import IssuanceClient.Proofs.CurveMembership
import IssuanceClient.Proofs.DraftFailure
import IssuanceClient.Proofs.DraftInputs
import IssuanceClient.Proofs.DraftInstruction
import IssuanceClient.Proofs.DraftReadiness
import IssuanceClient.Proofs.DraftSubmission
import IssuanceClient.Proofs.DraftValues
import IssuanceClient.Proofs.HighestBump
import IssuanceClient.Proofs.InstructionAddresses
import IssuanceClient.Proofs.InstructionParts
import IssuanceClient.Proofs.IssuanceLookup
import IssuanceClient.Proofs.KeyTable
import IssuanceClient.Proofs.LookupVerdict
import IssuanceClient.Proofs.MessageResolution
import IssuanceClient.Proofs.Outcome
import IssuanceClient.Proofs.PayerSignature
import IssuanceClient.Proofs.PayloadRoundTrip
import IssuanceClient.Proofs.RejectionSource
import IssuanceClient.Proofs.SeedValidation
import IssuanceClient.Proofs.SettingText
import IssuanceClient.Proofs.SnapshotLayout
import IssuanceClient.Proofs.SnapshotText
import IssuanceClient.Proofs.Submission
import IssuanceClient.Proofs.SubmissionOutcome
import IssuanceClient.Proofs.TransactionLogs
import IssuanceClient.Proofs.Wait
import IssuanceClient.Proofs.WaitSpacing
import IssuanceClient.Rpc.AccountRecord
import IssuanceClient.Rpc.Connection
import IssuanceClient.Rpc.Envelope
import IssuanceClient.Rpc.Fault
import IssuanceClient.Rpc.Request
import IssuanceClient.Rpc.Result
import IssuanceClient.Rpc.StatusRecord
import IssuanceClient.Rpc.TransactionRecord
import IssuanceClient.Session
import IssuanceClient.Sleep
import IssuanceClient.Snapshot
import IssuanceClient.Snapshot.Pack
import IssuanceClient.Snapshot.Text
import IssuanceClient.Submission
import IssuanceClient.Submission.Confirmation
import IssuanceClient.Submission.Options
import IssuanceClient.Text.Base58
import IssuanceClient.Text.Base64
import IssuanceClient.Text.Blank
import IssuanceClient.Text.Decimal
import IssuanceClient.Text.Duration
import IssuanceClient.Text.Quoted
import IssuanceClient.Text.Unprintable
import IssuanceClient.Text.Version
import IssuanceClient.Transaction
import IssuanceClient.Transaction.Fault
import IssuanceClient.Transaction.FaultJson
