import IssuanceClient.Connection
import IssuanceClient.Json.Choice
import IssuanceClient.Text.Base64

/-!
Accounts as a node writes them.
-/

namespace IssuanceClient.Rpc.AccountRecord

open Json

/-- How the bytes of a text are read in an encoding.  Not every encoding is read here. -/
abbrev Decoder := String → Option (List UInt8)

/-- The encodings in which a node may write an account's data. -/
def encoding : Reader Decoder :=
  Reader.choice
    [.bare "binary" fun _ => none, .bare "base58" Base58.decode?, .bare "base64" Base64.decode?,
     .bare "jsonParsed" fun _ => none, .bare "base64+zstd" fun _ => none]

/-- Data that the node itself has made sense of. -/
def explained : Reader Unit :=
  Reader.form "ParsedAccount"
    [.required "program" Reader.text.accept, .required "parsed" Reader.any,
     .required "space" Reader.word.accept]

/-- The bytes of an account, where they can be read: base58 text, or text with its encoding. -/
def data : Reader (Option (List UInt8)) :=
  Reader.alternatives "UiAccountData"
    [Reader.text.map Base58.decode?, explained.map fun _ => none,
     (Reader.pair Reader.text encoding).map fun (text, decode) => decode text]

namespace Fields

def lamports : Slot UInt64 := .required "lamports" Reader.word

def data : Slot (Option (List UInt8)) := .required "data" AccountRecord.data

def owner : Slot String := .required "owner" Reader.text

def executable : Slot Bool := .required "executable" Reader.boolean

def rentEpoch : Slot UInt64 := .required "rentEpoch" Reader.word

def space : Slot (Option UInt64) := .nullable "space" Reader.word

end Fields

/-- An account.  One whose data or owner cannot be read counts as none. -/
def account : Reader (Option Account) :=
  Reader.record "UiAccount"
    [Fields.lamports.form, Fields.data.form, Fields.owner.form, Fields.executable.form,
     Fields.rentEpoch.form, Fields.space.form]
    fun source members => do
      let lamports ← Fields.lamports.get source members
      let data ← Fields.data.get source members
      let owner ← Fields.owner.get source members
      let executable ← Fields.executable.get source members
      let rentEpoch ← Fields.rentEpoch.get source members
      match data, keyOfText owner with
      | some data, .ok owner => return some ⟨lamports, owner, data, executable, rentEpoch⟩
      | _, _ => return none

end IssuanceClient.Rpc.AccountRecord
