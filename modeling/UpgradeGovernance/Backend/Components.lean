import UpgradeGovernance.Rust
import UpgradeGovernance.Backend.Effects

/-!
# The service's components

The upgrade service (`backend/src`) keeps its state in three components, each behind its own
`Mutex`: the `ProposalManager`'s proposal records, the `TimelockManager`'s table of deadlines
and the `MultisigCoordinator`'s multisig proposals.  This module models the records, the errors,
and the methods of the last two; `Backend.Service` models the `ProposalManager` and the routes.

Identifiers are the text of a `Uuid::new_v4` and keys their base58 text.  Times are readings of
the system clock in seconds, never negative, kept as the integers their `i64`s hold.  The
timelock manager adds a duration of any `i64` to the clock and subtracts the clock from the
deadline, and these are `i64` operations under the build's overflow behaviour; the other sums and
differences are of clock readings, deadlines and the service's 48-hour constant, and stay in
range.

## Main definitions

* `UpgradeError`, `UpgradeError.message`, `UpgradeError.statusCode` — the errors of `error.rs`
  and the HTTP response each becomes.
* `Proposal`, `MultisigProposal` — the records of `proposal.rs` and `multisig.rs`.
* `TimelockManager`, `MultisigCoordinator` — the components and their methods.
-/

namespace UpgradeGovernance

namespace Backend

/-- `UpgradeError` of `error.rs`, without the variants no modelled method returns
(`NotMultisigMember`, `DatabaseError`, `SolanaError`, `MultisigError`, `MigrationError`). -/
inductive UpgradeError
  | invalidPubkey
  | proposalNotFound (id : String)
  | timelockActive (remainingSeconds : Int)
  | insufficientApprovals (current required : Nat)
  | alreadyExecuted
  | alreadyCancelled
  | internalError (message : String)
  deriving DecidableEq, Repr

/-- The `#[error(..)]` text of each error. -/
def UpgradeError.message : UpgradeError → String
  | .invalidPubkey => "Invalid public key"
  | .proposalNotFound id => "Proposal not found: " ++ id
  | .timelockActive r => "Timelock still active: " ++ toString r ++ " seconds remaining"
  | .insufficientApprovals c r => "Insufficient approvals: " ++ toString c ++ "/" ++ toString r
  | .alreadyExecuted => "Proposal already executed"
  | .alreadyCancelled => "Proposal already cancelled"
  | .internalError m => "Internal error: " ++ m

/-- The HTTP status `into_response` gives an error; the body is `{"error": message}`. -/
def UpgradeError.statusCode : UpgradeError → Nat
  | .proposalNotFound _ => 404
  | .timelockActive _ | .insufficientApprovals .. | .alreadyExecuted | .alreadyCancelled => 400
  | .invalidPubkey | .internalError _ => 500

/-! ### Records -/

/-- `ProposalStatus` of `proposal.rs`. -/
inductive ProposalStatus
  | proposed
  | approved
  | timelockActive
  | executed
  | cancelled
  deriving DecidableEq, Repr

/-- `Proposal` of `proposal.rs`: the service's record of an upgrade proposal. -/
structure Proposal where
  id : String
  proposer : String
  program : String
  newBuffer : String
  description : String
  proposedAt : Int
  timelockUntil : Int
  approvals : List String
  approvalThreshold : UInt8
  status : ProposalStatus
  executedAt : Option Int
  deriving DecidableEq, Repr

/-- `MultisigStatus` of `multisig.rs`. -/
inductive MultisigStatus
  | pending
  | approved
  | executed
  | rejected
  deriving DecidableEq, Repr

/-- `MultisigProposal` of `multisig.rs`. -/
structure MultisigProposal where
  id : String
  instruction : List UInt8
  description : String
  timelock : Int
  approvals : List String
  threshold : UInt8
  status : MultisigStatus
  deriving DecidableEq, Repr

/-- `ProposalParams` of `proposal.rs`. -/
structure ProposalParams where
  instruction : List UInt8
  description : String
  timelock : Int
  deriving DecidableEq, Repr

/-! ### `TimelockManager` -/

/-- `TimelockManager` of `timelock.rs`: a deadline per proposal identifier. -/
structure TimelockManager where
  timelocks : String → Option Int

namespace TimelockManager

/-- `TimelockManager::new`. -/
def new : TimelockManager := ⟨fun _ => none⟩

/-- `set_timelock` at clock `now`, in a build whose `i64` overflow behaviour is `o`: it records
the deadline `now + duration_seconds`.  The answer `none` is the panic of an overflowing sum,
before anything is written. -/
def setTimelock (o : Overflow) (now : Int) (proposalId : String) (durationSeconds : Int) :
    EStateM UpgradeError TimelockManager (Option Unit) := do
  match I64.addVal? o now durationSeconds with
  | none => pure none
  | some timelockEnd =>
    modify fun tm => ⟨fun k => if k = proposalId then some timelockEnd else tm.timelocks k⟩
    pure (some ())

/-- `get_timelock_end`. -/
def getTimelockEnd (proposalId : String) : EStateM UpgradeError TimelockManager Int := do
  okOr ((← get).timelocks proposalId) (.proposalNotFound proposalId)

/-- `is_timelock_expired` at clock `now`. -/
def isTimelockExpired (now : Int) (proposalId : String) : EStateM UpgradeError TimelockManager Bool := do
  let timelockEnd ← getTimelockEnd proposalId
  pure (decide (timelockEnd ≤ now))

/-- `get_remaining_time` at clock `now`, in a build whose `i64` overflow behaviour is `o`:
`timelock_end - now`, and `0` once that is negative.  The answer `none` is the panic of an
overflowing difference. -/
def getRemainingTime (o : Overflow) (now : Int) (proposalId : String) :
    EStateM UpgradeError TimelockManager (Option Int) := do
  let timelockEnd ← getTimelockEnd proposalId
  pure ((I64.subVal? o timelockEnd now).map (max · 0))

theorem getTimelockEnd_readOnly (proposalId : String) : ReadOnly (getTimelockEnd proposalId) :=
  ReadOnly.bind readOnly_get fun _ => readOnly_okOr _ _

theorem getTimelockEnd_apply (tm : TimelockManager) (proposalId : String) :
    getTimelockEnd proposalId tm = match tm.timelocks proposalId with
      | some e => .ok e tm
      | none => .error (.proposalNotFound proposalId) tm := by
  simp only [getTimelockEnd, bind_apply, get_apply]
  cases tm.timelocks proposalId <;> rfl

theorem setTimelock_apply (o : Overflow) (now : Int) (proposalId : String) (durationSeconds : Int)
    (tm : TimelockManager) :
    setTimelock o now proposalId durationSeconds tm = match I64.addVal? o now durationSeconds with
      | none => .ok none tm
      | some e => .ok (some ()) ⟨fun k => if k = proposalId then some e else tm.timelocks k⟩ := by
  unfold setTimelock
  cases I64.addVal? o now durationSeconds <;> rfl

theorem isTimelockExpired_apply (now : Int) (proposalId : String) (tm : TimelockManager) :
    isTimelockExpired now proposalId tm = match tm.timelocks proposalId with
      | some e => .ok (decide (e ≤ now)) tm
      | none => .error (.proposalNotFound proposalId) tm := by
  simp only [isTimelockExpired, bind_apply, getTimelockEnd_apply]
  cases tm.timelocks proposalId <;> rfl

theorem getRemainingTime_apply (o : Overflow) (now : Int) (proposalId : String)
    (tm : TimelockManager) :
    getRemainingTime o now proposalId tm = match tm.timelocks proposalId with
      | some e => .ok ((I64.subVal? o e now).map (max · 0)) tm
      | none => .error (.proposalNotFound proposalId) tm := by
  simp only [getRemainingTime, bind_apply, getTimelockEnd_apply]
  cases tm.timelocks proposalId <;> rfl

end TimelockManager

/-! ### `MultisigCoordinator` -/

/-- `MultisigCoordinator` of `multisig.rs`, without the optional Squads client and vault: the
Squads calls `execute_transaction` makes are placeholders that return `Ok` and change nothing. -/
structure MultisigCoordinator where
  proposals : List MultisigProposal
  members : List String
  threshold : UInt8
  deriving DecidableEq, Repr

namespace MultisigCoordinator

/-- `MultisigCoordinator::new`: five members, threshold three. -/
def new : MultisigCoordinator :=
  ⟨[], ["member1", "member2", "member3", "member4", "member5"], 3⟩

/-- `propose_transaction`, where `proposalId` is the `Uuid::new_v4` it draws. -/
def proposeTransaction (proposalId : String) (params : ProposalParams) :
    EStateM UpgradeError MultisigCoordinator String := do
  let proposal : MultisigProposal :=
    { id := proposalId, instruction := params.instruction, description := params.description,
      timelock := params.timelock, approvals := [], threshold := (← get).threshold,
      status := .pending }
  modify fun mc => { mc with proposals := mc.proposals ++ [proposal] }
  pure proposalId

/-- The writes of `approve_proposal` through the found reference: push the approver, then mark
the proposal approved once the threshold is met. -/
def approveRecord (approver : String) (p : MultisigProposal) : MultisigProposal :=
  let p := { p with approvals := p.approvals ++ [approver] }
  if p.threshold.toNat ≤ p.approvals.length then { p with status := .approved } else p

@[simp] theorem approveRecord_id (approver : String) (p : MultisigProposal) :
    (approveRecord approver p).id = p.id := by
  simp only [approveRecord]
  split <;> rfl

/-- `approve_proposal`.  The approver is always `"member1"`. -/
def approveProposal (proposalId : String) : EStateM UpgradeError MultisigCoordinator Unit := do
  let proposal ← okOr ((← get).proposals.find? (·.id == proposalId)) (.proposalNotFound proposalId)
  let approver := "member1"
  require (!proposal.approvals.contains approver) (.internalError "Already approved")
  modify fun mc => { mc with
    proposals := modifyFirst (·.id == proposalId) (approveRecord approver) mc.proposals }

/-- `execute_transaction`. -/
def executeTransaction (proposalId : String) : EStateM UpgradeError MultisigCoordinator Unit := do
  let proposal ← okOr ((← get).proposals.find? (·.id == proposalId)) (.proposalNotFound proposalId)
  require (proposal.status == .approved) (.internalError "Proposal not approved")
  modify fun mc => { mc with
    proposals := modifyFirst (·.id == proposalId) (fun p => { p with status := .executed }) mc.proposals }

/-- `get_proposal`. -/
def getProposal (proposalId : String) : EStateM UpgradeError MultisigCoordinator MultisigProposal := do
  okOr ((← get).proposals.find? (·.id == proposalId)) (.proposalNotFound proposalId)

/-- The outcome of `approve_proposal`: it fails, writing nothing, unless a proposal has the
identifier and lacks `"member1"`'s approval; then it approves the first such proposal. -/
theorem approveProposal_apply (mc : MultisigCoordinator) (proposalId : String) :
    approveProposal proposalId mc =
      match mc.proposals.find? (·.id == proposalId) with
      | none => .error (.proposalNotFound proposalId) mc
      | some p =>
        if p.approvals.contains "member1" then .error (.internalError "Already approved") mc
        else .ok () { mc with
          proposals := modifyFirst (·.id == proposalId) (approveRecord "member1") mc.proposals } := by
  simp only [approveProposal, bind_apply, get_apply]
  cases mc.proposals.find? (·.id == proposalId) with
  | none => rfl
  | some p =>
    cases h : p.approvals.contains "member1" <;>
      simp only [okOr_some, h, Bool.not_false, Bool.not_true, require_true, require_false] <;> rfl

/-- A successful `execute_transaction` found an approved proposal of the identifier, and marks
the first such proposal executed. -/
theorem executeTransaction_eq_ok {proposalId : String} {mc mc' : MultisigCoordinator} {u : Unit} :
    executeTransaction proposalId mc = .ok u mc' →
      ∃ p, mc.proposals.find? (·.id == proposalId) = some p ∧ p.status = .approved ∧
        mc' = { mc with
          proposals := modifyFirst (·.id == proposalId) (fun p => { p with status := .executed }) mc.proposals } := by
  simp only [executeTransaction, get_bind_apply, okOr_bind_eq_ok, require_bind_eq_ok, modify_apply,
    EStateM.Result.ok.injEq, beq_iff_eq]
  rintro ⟨p, hp, hst, -, rfl⟩
  exact ⟨p, hp, hst, rfl⟩

/-- `execute_transaction` checks before it writes. -/
theorem executeTransaction_atomic (proposalId : String) : Atomic (executeTransaction proposalId) :=
  Atomic.bind_readOnly readOnly_get fun _ => Atomic.bind_readOnly (readOnly_okOr _ _) fun _ =>
    Atomic.bind_total (readOnly_require _ _).atomic fun _ => total_modify _

end MultisigCoordinator

end Backend

end UpgradeGovernance
