/-!
The four instructions of the issuance program, as bare kinds.  A kind fixes the tag byte and the
width of the payload and the account list that goes with it.
-/

namespace IssuanceClient

/-- The kinds of instruction, in the order of their tags. -/
inductive Kind
  | initIssuance
  | fundReserve
  | deposit
  | claimReward
deriving DecidableEq, Repr

namespace Kind

def name : Kind → String
  | initIssuance => "InitIssuance"
  | fundReserve => "FundReserve"
  | deposit => "Deposit"
  | claimReward => "ClaimReward"

/-- The first byte of a payload. -/
def tag : Kind → UInt8
  | initIssuance => 0
  | fundReserve => 1
  | deposit => 2
  | claimReward => 3

/-- The kind that a tag byte announces. -/
def ofTag? (tag : UInt8) : Option Kind :=
  if tag = 0 then some initIssuance
  else if tag = 1 then some fundReserve
  else if tag = 2 then some deposit
  else if tag = 3 then some claimReward
  else none

/-- The width of a whole payload, its tag included. -/
def width : Kind → Nat
  | initIssuance => 1 + 16 + 8 + 8
  | fundReserve => 1 + 8
  | deposit => 1 + 8
  | claimReward => 1

@[simp] theorem ofTag?_tag (kind : Kind) : ofTag? kind.tag = some kind := by
  cases kind <;> rfl

theorem tag_inj {a b : Kind} : a.tag = b.tag ↔ a = b := by
  cases a <;> cases b <;> decide

theorem ofTag?_eq_some_iff {tag : UInt8} {kind : Kind} :
    ofTag? tag = some kind ↔ tag = kind.tag := by
  constructor
  · rw [ofTag?]
    repeat' split
    all_goals rintro ⟨⟩ <;> assumption
  · rintro rfl
    exact ofTag?_tag kind

theorem ofTag?_eq_none_iff (tag : UInt8) : ofTag? tag = none ↔ 3 < tag := by
  have hbound := tag.toNat_lt
  simp only [ofTag?, ← UInt8.toNat_inj, UInt8.lt_iff_toNat_lt]
  repeat' split
  all_goals simp_all
  omega

end Kind

end IssuanceClient
