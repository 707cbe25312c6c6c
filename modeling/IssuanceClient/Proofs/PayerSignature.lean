import IssuanceClient.Proofs.ConfigurationFailure

/-!
Who has to sign for a draft.  Only the payer's account asks for a signature, so whatever keys
coincide, the message asks for the payer's signature and no other one.  Anybody else's help is a
mismatch, and of the payer's own signatures only the last one counts.
-/

namespace IssuanceClient

namespace KeyTable

variable {table : KeyTable} {payer key : Key} {rights : Rights}

/-- Nobody but the payer has to sign. -/
def SignedOnlyBy (table : KeyTable) (payer : Key) : Prop :=
  ∀ entry ∈ table, entry.2.signer = true → entry.1 = payer

theorem SignedOnlyBy.insert (htable : table.SignedOnlyBy payer)
    (huse : rights.signer = true → key = payer) :
    (table.insert key rights).SignedOnlyBy payer := by
  induction table with
  | nil =>
      intro entry hentry
      obtain rfl := List.mem_singleton.mp hentry
      exact huse
  | cons first rest ih =>
      have hfirst : first.2.signer = true → first.1 = payer := htable first List.mem_cons_self
      have hrest : SignedOnlyBy rest payer :=
        fun entry hentry => htable entry (List.mem_cons_of_mem first hentry)
      rw [KeyTable.insert]
      by_cases hkey : key = first.1
      · rw [if_pos hkey]
        refine List.forall_mem_cons.mpr ⟨fun hsigner => ?_, hrest⟩
        rcases Bool.or_eq_true_iff.mp hsigner with hold | hnew
        · exact hkey.trans (hfirst hold)
        · exact huse hnew
      · rw [if_neg hkey]
        by_cases hlt : key.toList < first.1.toList
        · rw [if_pos hlt]
          exact List.forall_mem_cons.mpr ⟨huse, htable⟩
        · rw [if_neg hlt]
          exact List.forall_mem_cons.mpr ⟨hfirst, ih hrest⟩

theorem SignedOnlyBy.addUses {uses : List (Key × Rights)} (htable : table.SignedOnlyBy payer)
    (huses : ∀ use ∈ uses, use.2.signer = true → use.1 = payer) :
    (table.addUses uses).SignedOnlyBy payer := by
  induction uses generalizing table with
  | nil => exact htable
  | cons use uses ih =>
      obtain ⟨huse, hrest⟩ := List.forall_mem_cons.mp huses
      exact ih (htable.insert huse) hrest

theorem SignedOnlyBy.group_eq_nil (htable : table.SignedOnlyBy payer) (writable : Bool) :
    table.group payer ⟨true, writable⟩ = [] := by
  rw [List.eq_nil_iff_forall_not_mem]
  intro key hkey
  obtain ⟨hother, hentry⟩ := mem_group_iff.mp hkey
  exact hother (htable _ hentry rfl)

end KeyTable

namespace Instruction

/-- Only the payer's accounts ask for a signature. -/
def SignedOnlyBy (instruction : Instruction) (payer : Key) : Prop :=
  ∀ account ∈ instruction.accounts, account.signer = true → account.key = payer

theorem SignedOnlyBy.table {instructions : List Instruction} {payer : Key}
    (hsigned : ∀ instruction ∈ instructions, instruction.SignedOnlyBy payer) :
    (KeyTable.ofInstructions instructions).SignedOnlyBy payer := by
  rw [KeyTable.ofInstructions_eq]
  refine KeyTable.SignedOnlyBy.addUses (fun entry hentry => absurd hentry List.not_mem_nil) ?_
  intro use huse
  obtain ⟨instruction, hinstruction, huse⟩ := List.mem_flatMap.mp huse
  rcases List.mem_cons.mp huse with rfl | huse
  · exact fun hsigner => (nomatch hsigner)
  · obtain ⟨account, haccount, rfl⟩ := List.mem_map.mp huse
    exact hsigned instruction hinstruction account haccount

end Instruction

namespace Message

/-- The message asks for one signature, of the payer. -/
structure AsksOnly (message : Message) (payer : Key) : Prop where
  count : message.header.signers = 1
  keys : message.signerKeys = [payer]

theorem asksOnly_compile {instructions : List Instruction} {payer : Key}
    (hsigned : ∀ instruction ∈ instructions, instruction.SignedOnlyBy payer)
    (blockhash : Blockhash) : (compile instructions payer blockhash).AsksOnly payer := by
  have htable := Instruction.SignedOnlyBy.table hsigned
  have hcount : (compile instructions payer blockhash).header.signers = 1 := by
    simp only [compile, htable.group_eq_nil, List.length_nil, Nat.add_zero]
  refine ⟨hcount, ?_⟩
  rw [signerKeys, hcount, keys_compile, List.take_succ_cons, List.take_zero]

/-- The signatures that some signers make of the message, in order. -/
abbrev Signs (message : Message) : List Signer → List Signature → Prop :=
  List.Forall₂ fun signer signature => signer.sign message.encode = .ok signature

/-- The payer signs, perhaps more than once, and the last signature is one. -/
structure SignedBy (message : Message) (payer : Key) (signers : List Signer) : Prop where
  nonempty : signers ≠ []
  keys : ∀ signer ∈ signers, signer.key = payer
  signatures : ∃ signatures last, message.Signs signers signatures ∧
    signatures.getLast? = some last ∧ last ≠ Signature.missing

/-- Why a message that asks only for the payer's signature stays unsigned. -/
inductive Unsigned (message : Message) (payer : Key) : List Signer → ConfigurationFault → Prop
  | noSigners : Unsigned message payer [] .noSigners
  | stranger {signers : List Signer} {signer : Signer} (hsigner : signer ∈ signers)
      (hkey : signer.key ≠ payer) : Unsigned message payer signers (.unsigned .keyMismatch)
  | refused {before after : List Signer} {signer : Signer} {signatures : List Signature}
      {reason : String} (hkeys : ∀ other ∈ before ++ signer :: after, other.key = payer)
      (hbefore : message.Signs before signatures)
      (hrefuses : signer.sign message.encode = .error reason) :
      Unsigned message payer (before ++ signer :: after) (.unsigned (.refused reason))
  | blank {signers : List Signer} {signatures : List Signature}
      (hkeys : ∀ signer ∈ signers, signer.key = payer) (hsigns : message.Signs signers signatures)
      (hlast : signatures.getLast? = some Signature.missing) :
      Unsigned message payer signers (.unsigned .notEnough)

section Signing

variable {message : Message} {payer : Key} {signers : List Signer}

variable (message signers) in
/-- All sign, or there is a first one who refuses. -/
theorem exists_signs_or_refuses :
    (∃ signatures, message.Signs signers signatures) ∨
      ∃ before signer after signatures reason, signers = before ++ signer :: after ∧
        message.Signs before signatures ∧ signer.sign message.encode = .error reason := by
  induction signers with
  | nil => exact Or.inl ⟨[], .nil⟩
  | cons first rest ih =>
      cases hfirst : first.sign message.encode with
      | error reason => exact Or.inr ⟨[], first, rest, [], reason, rfl, .nil, hfirst⟩
      | ok signature =>
          rcases ih with ⟨signatures, hsigns⟩ |
            ⟨before, signer, after, signatures, reason, rfl, hbefore, hrefuses⟩
          · exact Or.inl ⟨signature :: signatures, .cons hfirst hsigns⟩
          · exact Or.inr ⟨first :: before, signer, after, signature :: signatures, reason, rfl,
              .cons hfirst hbefore, hrefuses⟩

theorem signatures_cons (signer : Signer) (rest : List Signer) :
    message.signatures (signer :: rest) =
      match signer.sign message.encode with
      | .error reason => .error (.refused reason)
      | .ok signature => (message.signatures rest).map (signature :: ·) := by
  rw [signatures, List.mapM_cons]
  cases signer.sign message.encode with
  | error reason => rfl
  | ok signature => rfl

theorem Signs.signatures_eq {made : List Signature} (hsigns : message.Signs signers made) :
    message.signatures signers = .ok made := by
  induction hsigns with
  | nil => rfl
  | cons hfirst _ ih =>
      rw [signatures_cons, hfirst, ih]
      rfl

theorem Signs.signatures_append_eq {before after : List Signer} {signer : Signer}
    {made : List Signature} {reason : String} (hbefore : message.Signs before made)
    (hrefuses : signer.sign message.encode = .error reason) :
    message.signatures (before ++ signer :: after) = .error (.refused reason) := by
  induction hbefore with
  | nil => rw [List.nil_append, signatures_cons, hrefuses]
  | cons hfirst _ ih =>
      rw [List.cons_append, signatures_cons, hfirst, ih]
      rfl

theorem AsksOnly.positions?_eq (hasks : message.AsksOnly payer)
    (hkeys : ∀ signer ∈ signers, signer.key = payer) :
    message.positions? signers = some (List.replicate signers.length 0) := by
  induction signers with
  | nil => rfl
  | cons first rest ih =>
      obtain ⟨rfl, hrest⟩ := List.forall_mem_cons.mp hkeys
      have hih := ih hrest
      rw [positions?] at hih ⊢
      rw [List.mapM_cons, hih, hasks.keys, List.idxOf?_cons, beq_self_eq_true]
      rfl

theorem AsksOnly.positions?_eq_none (hasks : message.AsksOnly payer) {signer : Signer}
    (hsigner : signer ∈ signers) (hkey : signer.key ≠ payer) :
    message.positions? signers = none := by
  induction signers with
  | nil => exact absurd hsigner List.not_mem_nil
  | cons first rest ih =>
      rw [positions?, List.mapM_cons]
      rcases List.mem_cons.mp hsigner with rfl | hrest
      · have hnone : message.signerKeys.idxOf? signer.key = none := by
          rw [hasks.keys, List.idxOf?_eq_none_iff]
          simpa using hkey
        rw [hnone]
        rfl
      · have hnone := ih hrest
        rw [positions?] at hnone
        rw [hnone]
        cases message.signerKeys.idxOf? first.key <;> rfl

/-- At the only position the last signature stays. -/
theorem AsksOnly.place_eq (hasks : message.AsksOnly payer) (made : List Signature) :
    message.place (List.replicate made.length 0) made = [made.getLastD Signature.missing] := by
  rw [place, hasks.count, List.replicate_one]
  generalize Signature.missing = first
  induction made generalizing first with
  | nil => rfl
  | cons signature rest ih =>
      rw [List.length_cons, List.replicate_succ, List.zip_cons_cons, List.foldl_cons,
        List.getLastD_cons]
      exact ih signature

theorem sign_of_placed {positions : List Nat} {made : List Signature}
    (hpositions : message.positions? signers = some positions)
    (hmade : message.signatures signers = .ok made) :
    message.sign signers =
      if Signature.missing ∈ message.place positions made then .error .notEnough
      else .ok ⟨message.place positions made, message⟩ := by
  rw [sign, hpositions]
  simp only [hmade, bind, Except.bind]
  split <;> rfl

theorem AsksOnly.sign_of_signs (hasks : message.AsksOnly payer)
    (hkeys : ∀ signer ∈ signers, signer.key = payer) {made : List Signature}
    (hsigns : message.Signs signers made) :
    message.sign signers =
      if made.getLastD Signature.missing = Signature.missing then .error .notEnough
      else .ok ⟨[made.getLastD Signature.missing], message⟩ := by
  rw [sign_of_placed (hasks.positions?_eq hkeys) hsigns.signatures_eq, hsigns.length_eq,
    hasks.place_eq]
  simp only [List.mem_singleton, eq_comm]

variable (message payer signers) in
/-- Either the payer signs, or one of the faults is found. -/
theorem signedBy_or_unsigned :
    message.SignedBy payer signers ∨ ∃ fault, message.Unsigned payer signers fault := by
  by_cases hempty : signers = []
  · subst hempty
    exact Or.inr ⟨_, .noSigners⟩
  by_cases hkeys : ∀ signer ∈ signers, signer.key = payer
  · rcases exists_signs_or_refuses message signers with ⟨signatures, hsigns⟩ |
      ⟨before, signer, after, signatures, reason, rfl, hbefore, hrefuses⟩
    · cases hlast : signatures.getLast? with
      | none =>
          obtain rfl := List.getLast?_eq_none_iff.mp hlast
          exact absurd (List.forall₂_nil_right_iff.mp hsigns) hempty
      | some last =>
          by_cases hmissing : last = Signature.missing
          · exact Or.inr ⟨_, .blank hkeys hsigns (hmissing ▸ hlast)⟩
          · exact Or.inl ⟨hempty, hkeys, signatures, last, hsigns, hlast, hmissing⟩
    · exact Or.inr ⟨_, .refused hkeys hbefore hrefuses⟩
  · push Not at hkeys
    obtain ⟨signer, hsigner, hkey⟩ := hkeys
    exact Or.inr ⟨_, .stranger hsigner hkey⟩

theorem Unsigned.eq_noSigners_or {fault : ConfigurationFault}
    (hunsigned : message.Unsigned payer signers fault) :
    (signers = [] ∧ fault = .noSigners) ∨
      (signers ≠ [] ∧ ∃ signing, fault = .unsigned signing) := by
  cases hunsigned with
  | noSigners => exact Or.inl ⟨rfl, rfl⟩
  | stranger hsigner => exact Or.inr ⟨List.ne_nil_of_mem hsigner, _, rfl⟩
  | refused => exact Or.inr ⟨List.append_ne_nil_of_right_ne_nil _ (List.cons_ne_nil _ _), _, rfl⟩
  | blank _ hsigns hlast =>
      refine Or.inr ⟨?_, _, rfl⟩
      rintro rfl
      cases hsigns
      exact nomatch hlast

theorem AsksOnly.exists_sign (hasks : message.AsksOnly payer)
    (hsigned : message.SignedBy payer signers) :
    ∃ transaction, message.sign signers = .ok transaction := by
  obtain ⟨signatures, last, hsigns, hlast, hmissing⟩ := hsigned.signatures
  refine ⟨⟨[last], message⟩, ?_⟩
  rw [hasks.sign_of_signs hsigned.keys hsigns, List.getLastD_eq_getLast?, hlast, Option.getD_some,
    if_neg hmissing]

theorem AsksOnly.sign_of_unsigned (hasks : message.AsksOnly payer) {fault : SigningFault}
    (hunsigned : message.Unsigned payer signers (.unsigned fault)) :
    message.sign signers = .error fault := by
  cases hunsigned with
  | stranger hsigner hkey =>
      rw [sign, hasks.positions?_eq_none hsigner hkey]
      rfl
  | refused hkeys hbefore hrefuses =>
      rw [sign, hasks.positions?_eq hkeys, hbefore.signatures_append_eq hrefuses]
      rfl
  | blank hkeys hsigns hlast =>
      rw [hasks.sign_of_signs hkeys hsigns, List.getLastD_eq_getLast?, hlast, Option.getD_some,
        if_pos rfl]

end Signing

end Message

/-- A run sends something. -/
def Run.Sends {α : Type} (run : Run α) (start : Timeline) : Prop :=
  ∃ made, (run start).2.calls = start.calls ++ made ∧ ∃ timed ∈ made, timed.call.isSend = true

theorem ConfigurationFault.isSend_of_mem_callsBefore {fault : ConfigurationFault} {call : Call}
    (hcall : call ∈ fault.callsBefore) : call.isSend = false := by
  cases fault with
  | unsigned fault =>
      obtain rfl := List.mem_singleton.mp hcall
      rfl
  | _ => exact absurd hcall List.not_mem_nil

theorem Run.Makes.not_sends {α : Type} {run : Run α} {start : Timeline}
    {fault : ConfigurationFault} (hmakes : run.Makes start fault.callsBefore) :
    ¬ run.Sends start := by
  rintro ⟨made, hmade, timed, htimed, hsend⟩
  obtain ⟨made', hmade', hcalls⟩ := hmakes
  obtain rfl : made = made' := List.append_cancel_left (hmade.symm.trans hmade')
  have hcall := List.mem_map_of_mem (f := TimedCall.call) htimed
  rw [hcalls] at hcall
  rw [ConfigurationFault.isSend_of_mem_callsBefore hcall] at hsend
  exact nomatch hsend

namespace Submission

variable {submission : Submission}

variable (submission) in
theorem prefix_calls_settle (signature : Signature) (ended : Except Stop Status × Timeline) :
    ended.2.calls <+: (submission.settle signature ended).2.calls := by
  rcases ended with ⟨_ | _ | _, after⟩
  · exact List.prefix_rfl
  · rw [settle, calls_explained]
    exact List.prefix_append _ _
  · exact List.prefix_rfl

/-- Whatever becomes of what was sent, the log goes on from the send. -/
theorem Sends.prefix_calls_sent {transaction : Transaction}
    (hsends : submission.Sends transaction) :
    (submission.sent transaction).calls <+: submission.run.2.calls := by
  rw [run_of_sends hsends]
  cases (submission.sendReply transaction).outcome with
  | error failure => exact List.prefix_rfl
  | ok signature =>
      obtain ⟨n, -, hcalls, -⟩ := (submission.wait transaction signature).exists_last_question
      exact List.IsPrefix.trans ⟨_, hcalls.symm⟩ (prefix_calls_settle submission signature _)

theorem Sends.exists_send_mem {transaction : Transaction} (hsends : submission.Sends transaction) :
    ∃ made, submission.run.2.calls = submission.start.calls ++ made ∧
      ∃ timed ∈ made, timed.call.isSend = true := by
  obtain ⟨more, hmore⟩ := hsends.prefix_calls_sent
  rw [calls_sent, List.append_assoc] at hmore
  refine ⟨_, hmore.symm, ⟨submission.dated.now, .send transaction⟩, ?_, rfl⟩
  simp [opening]

section Asked

/-! A submission that has instructions and a blockhash, and asks for the payer's signature only. -/

variable (hinstructions : submission.instructions ≠ []) {blockhash : Blockhash}
  (hblockhash : submission.blockhashReply.outcome = .ok blockhash)
  (hasks : (Message.compile submission.instructions submission.payer blockhash).AsksOnly
    submission.payer)

include hinstructions hblockhash hasks

theorem exists_sends_of_signedBy
    (hsigned : (Message.compile submission.instructions submission.payer blockhash).SignedBy
      submission.payer submission.signers) :
    ∃ transaction, submission.Sends transaction := by
  obtain ⟨transaction, hsigning⟩ := hasks.exists_sign hsigned
  exact ⟨transaction, sends_of_signing hinstructions hsigned.nonempty hblockhash hsigning⟩

theorem misconfigured_of_unsigned {fault : ConfigurationFault}
    (hunsigned : (Message.compile submission.instructions submission.payer blockhash).Unsigned
      submission.payer submission.signers fault) :
    submission.Misconfigured fault := by
  rcases hunsigned.eq_noSigners_or with ⟨hsigners, rfl⟩ | ⟨hsigners, signing, rfl⟩
  · exact .noSigners hinstructions hsigners
  · exact .unsigned hinstructions hsigners hblockhash (hasks.sign_of_unsigned hunsigned)

end Asked

end Submission

/-- Submitting what only the payer has to sign comes to a send exactly if the payer signs, and
otherwise fails for its configuration before that. -/
theorem submit_sends_iff_signedBy {instruction : Instruction} {payer : Key}
    (hpayer : instruction.SignedOnlyBy payer) {connection : Connection} {start : Timeline}
    {blockhash : Blockhash}
    (hblockhash : (connection.latestBlockhash start.calls).outcome = .ok blockhash)
    (signers : List Signer) (options : SubmitOptions) :
    ((submit connection [instruction] payer signers options).Sends start ↔
      (Message.compile [instruction] payer blockhash).SignedBy payer signers) ∧
    (¬ (Message.compile [instruction] payer blockhash).SignedBy payer signers →
      ∃ fault, (Message.compile [instruction] payer blockhash).Unsigned payer signers fault ∧
        (submit connection [instruction] payer signers options start).1 =
          .error (.failed (.configuration fault)) ∧
        (submit connection [instruction] payer signers options).Makes start
          fault.callsBefore) := by
  let submission : Submission := ⟨connection, [instruction], payer, signers, options, start⟩
  have hinstructions : submission.instructions ≠ [] := List.cons_ne_nil _ _
  have hasks : (Message.compile [instruction] payer blockhash).AsksOnly payer :=
    Message.asksOnly_compile (by simpa using hpayer) blockhash
  have hrefused (hunsigned : ¬ (Message.compile [instruction] payer blockhash).SignedBy payer
      signers) :
      ∃ fault, (Message.compile [instruction] payer blockhash).Unsigned payer signers fault ∧
        submission.Misconfigured fault := by
    obtain ⟨fault, hfault⟩ :=
      (Message.signedBy_or_unsigned _ _ _).resolve_left hunsigned
    exact ⟨fault, hfault,
      Submission.misconfigured_of_unsigned hinstructions hblockhash hasks hfault⟩
  refine ⟨⟨fun hsends => ?_, fun hsigned => ?_⟩, fun hunsigned => ?_⟩
  · by_contra hunsigned
    obtain ⟨fault, -, hmisconfigured⟩ := hrefused hunsigned
    exact Run.Makes.not_sends hmisconfigured.exists_calls_eq hsends
  · obtain ⟨transaction, hsends⟩ :=
      Submission.exists_sends_of_signedBy hinstructions hblockhash hasks hsigned
    exact hsends.exists_send_mem
  · obtain ⟨fault, hfault, hmisconfigured⟩ := hrefused hunsigned
    exact ⟨fault, hfault, hmisconfigured.run_eq, hmisconfigured.exists_calls_eq⟩

namespace AccountList

/-- Whose signature an account list asks for. -/
def payer : AccountList → Key
  | initIssuance accounts => accounts.payer
  | fundReserve accounts => accounts.issuer
  | deposit accounts => accounts.participant
  | claimReward accounts => accounts.participant

theorem key_eq_payer_of_signer (accounts : AccountList) :
    ∀ account ∈ accounts.metas, account.signer = true → account.key = accounts.payer := by
  cases accounts <;>
    simp [metas, payer, InitAccounts.metas, FundAccounts.metas, DepositAccounts.metas,
      ClaimAccounts.metas, AccountMeta.changed, AccountMeta.consulted, AccountMeta.signed]

end AccountList

namespace Plan

variable {handle : Issuance} {plan : Plan} {instruction : Instruction}

/-- Whatever keys a draft was given, only its payer has to sign. -/
theorem signedOnlyBy_payer (hinstruction : (plan.draft handle).instruction = .ok instruction)
    {payer : Key} (hpayer : plan.payer? handle = some payer) :
    instruction.SignedOnlyBy payer := by
  cases plan with
  | initIssuance supplies =>
      obtain ⟨maturity, -, accounts, hcompletes, rfl⟩ :=
        InitDraft.instruction_eq_ok_iff.mp hinstruction
      have hissuer := hcompletes.payer
      rw [InitDraft.issuance_foldl] at hissuer
      obtain rfl : accounts.payer = payer := hissuer.symm.trans (Option.some.inj hpayer)
      exact AccountList.key_eq_payer_of_signer (.initIssuance accounts)
  | fundReserve supplies =>
      obtain ⟨amount, -, accounts, hcompletes, rfl⟩ :=
        FundDraft.instruction_eq_ok_iff.mp hinstruction
      have hissuer := hcompletes.issuer
      rw [FundDraft.issuance_foldl] at hissuer
      obtain rfl : accounts.issuer = payer := hissuer.symm.trans (Option.some.inj hpayer)
      exact AccountList.key_eq_payer_of_signer (.fundReserve accounts)
  | deposit supplies =>
      obtain ⟨amount, -, accounts, hcompletes, rfl⟩ :=
        DepositDraft.instruction_eq_ok_iff.mp hinstruction
      have hparticipant := hcompletes.participant
      rw [DepositDraft.participant_foldl, Option.or_none] at hparticipant
      obtain rfl : accounts.participant = payer :=
        Option.some.inj (hparticipant.symm.trans hpayer)
      exact AccountList.key_eq_payer_of_signer (.deposit accounts)
  | claimReward supplies =>
      obtain ⟨accounts, hcompletes, rfl⟩ := ClaimDraft.instruction_eq_ok_iff.mp hinstruction
      have hparticipant := hcompletes.participant
      rw [ClaimDraft.participant_foldl, Option.or_none] at hparticipant
      obtain rfl : accounts.participant = payer :=
        Option.some.inj (hparticipant.symm.trans hpayer)
      exact AccountList.key_eq_payer_of_signer (.claimReward accounts)

/-- Whatever keys a draft was given, its message asks for one signature, the payer's.  Once there is
a blockhash, the transaction is sent exactly if the payer signs, and otherwise the submission fails
for its configuration without a send. -/
theorem submit_sends_iff_payer_signs
    (hinstruction : (plan.draft handle).instruction = .ok instruction) :
    ∃ payer, plan.payer? handle = some payer ∧
      (∀ blockhash, (Message.compile [instruction] payer blockhash).AsksOnly payer) ∧
      ∀ (connection : Connection) (start : Timeline) (blockhash : Blockhash),
        (connection.latestBlockhash start.calls).outcome = .ok blockhash →
        ∀ (signers : List Signer) (options : SubmitOptions),
          (((plan.draft handle).submit connection signers options).Sends start ↔
            (Message.compile [instruction] payer blockhash).SignedBy payer signers) ∧
          (¬ (Message.compile [instruction] payer blockhash).SignedBy payer signers →
            ∃ fault, (Message.compile [instruction] payer blockhash).Unsigned payer signers fault ∧
              ((plan.draft handle).submit connection signers options start).1 =
                .error (.failed (.configuration fault)) ∧
              ((plan.draft handle).submit connection signers options).Makes start
                fault.callsBefore) := by
  obtain ⟨payer, hpayer, hpays⟩ := exists_payer hinstruction
  have hsigned := signedOnlyBy_payer hinstruction hpayer
  refine ⟨payer, hpayer, Message.asksOnly_compile (by simpa using hsigned), ?_⟩
  intro connection start blockhash hblockhash signers options
  rw [Draft.submit_of_ok connection signers options hinstruction hpays]
  exact submit_sends_iff_signedBy hsigned hblockhash signers options

/-- The constant signer's second signature is as good as the first, but nobody can help it. -/
theorem submit_sends_iff_payer_signs_constant :
    ∃ instruction,
      ((initIssuance Issuance.fundedSupplies).draft signedHandle).instruction = .ok instruction ∧
      (((initIssuance Issuance.fundedSupplies).draft signedHandle).submit promptConnection
        [Submission.constantSigner, Submission.constantSigner] {}).Sends {} ∧
      ∀ stranger : Signer, stranger.key ≠ signedHandle.issuer →
        ¬ (((initIssuance Issuance.fundedSupplies).draft signedHandle).submit promptConnection
          [Submission.constantSigner, stranger] {}).Sends {} := by
  obtain ⟨payer, ⟨⟩, -, hsubmits⟩ :=
    @submit_sends_iff_payer_signs signedHandle (initIssuance Issuance.fundedSupplies) _ rfl
  have hsends := fun signers => (hsubmits promptConnection {} (Bytes.zero 32) rfl signers {}).1
  refine ⟨_, rfl, (hsends _).mpr ⟨List.cons_ne_nil _ _, by simp [signedHandle], ?_⟩,
    fun stranger hkey hsent => ?_⟩
  · exact ⟨_, _, .cons rfl (.cons rfl .nil), rfl, by decide⟩
  · exact hkey (((hsends _).mp hsent).keys stranger (by simp))

end Plan

end IssuanceClient
