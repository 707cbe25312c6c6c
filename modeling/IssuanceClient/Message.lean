import IssuanceClient.Instruction

/-!
Messages: the instructions of a transaction with every key listed once.  The order of the keys and
the three counts of the header say which keys sign and which may be written, so an instruction needs
no more than positions in the list.
-/

namespace IssuanceClient

/-- What a message lets its instructions do with a key. -/
structure Rights where
  signer : Bool
  writable : Bool
deriving DecidableEq, Repr

/-- A right counts if any use of the key asks for it. -/
def Rights.merge (a b : Rights) : Rights := ⟨a.signer || b.signer, a.writable || b.writable⟩

/-- The rights that one account of an instruction asks for. -/
def AccountMeta.rights (account : AccountMeta) : Rights := ⟨account.signer, account.writable⟩

/-- Keys with their rights, each key once, in the order of their bytes. -/
abbrev KeyTable := List (Key × Rights)

/-- The table with the rights of one more use of a key. -/
def KeyTable.insert (key : Key) (rights : Rights) : KeyTable → KeyTable
  | [] => [(key, rights)]
  | entry :: rest =>
      if key = entry.1 then (key, entry.2.merge rights) :: rest
      else if key.toList < entry.1.toList then (key, rights) :: entry :: rest
      else entry :: KeyTable.insert key rights rest

/-- Every use of a key by an instruction; the program itself needs no rights. -/
def Instruction.uses (instruction : Instruction) : List (Key × Rights) :=
  (instruction.program, ⟨false, false⟩) ::
    instruction.accounts.map fun account => (account.key, account.rights)

/-- The merged uses of the keys of some instructions. -/
def KeyTable.ofInstructions (instructions : List Instruction) : KeyTable :=
  (instructions.flatMap Instruction.uses).foldl (fun table use => table.insert use.1 use.2) []

/-- The keys of a table that have exactly the given rights, apart from the payer. -/
def KeyTable.group (table : KeyTable) (payer : Key) (rights : Rights) : List Key :=
  (table.filter fun entry => entry.1 ≠ payer && entry.2 = rights).map Prod.fst

/-- How many keys sign, and how many of those that sign and of the others are only read. -/
structure Header where
  signers : Nat
  readOnlySigners : Nat
  readOnlyOthers : Nat
deriving DecidableEq, Repr

/-- An instruction whose keys are positions in a message's list. -/
structure CompiledInstruction where
  program : UInt8
  accounts : List UInt8
  data : List UInt8
deriving DecidableEq, Repr

/-- What the signers of a transaction sign. -/
structure Message where
  header : Header
  keys : List Key
  blockhash : Blockhash
  instructions : List CompiledInstruction
deriving DecidableEq, Repr

/-- The position of a key in a list, in one byte. -/
def keyIndex (keys : List Key) (key : Key) : UInt8 := UInt8.ofNat (keys.idxOf key)

/-- An instruction with positions in place of its keys. -/
def Instruction.compile (keys : List Key) (instruction : Instruction) : CompiledInstruction where
  program := keyIndex keys instruction.program
  accounts := instruction.accounts.map fun account => keyIndex keys account.key
  data := instruction.data

namespace Message

/-- The message of some instructions.  The payer comes first and both signs and may be written; then
come the other writable signers, the read-only signers, the writable keys and the rest. -/
def compile (instructions : List Instruction) (payer : Key) (blockhash : Blockhash) : Message :=
  let table := KeyTable.ofInstructions instructions
  let writableSigners := table.group payer ⟨true, true⟩
  let readOnlySigners := table.group payer ⟨true, false⟩
  let writableOthers := table.group payer ⟨false, true⟩
  let readOnlyOthers := table.group payer ⟨false, false⟩
  let keys := payer :: writableSigners ++ readOnlySigners ++ writableOthers ++ readOnlyOthers
  { header :=
      { signers := 1 + writableSigners.length + readOnlySigners.length
        readOnlySigners := readOnlySigners.length
        readOnlyOthers := readOnlyOthers.length }
    keys
    blockhash
    instructions := instructions.map (Instruction.compile keys) }

/-- The keys whose signatures the message asks for. -/
def signerKeys (message : Message) : List Key := message.keys.take message.header.signers

/-- What the header lets an instruction do with the key at a position.  Signers come first, and
among signers and others alike those that are only read come last. -/
def rights (message : Message) (position : Nat) : Rights :=
  let header := message.header
  if position < header.signers then ⟨true, position + header.readOnlySigners < header.signers⟩
  else ⟨false, position + header.readOnlyOthers < message.keys.length⟩

end Message

end IssuanceClient
