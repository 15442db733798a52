import UpgradeGovernance.Rust
import Mathlib.Data.List.Basic

/-!
# The upgrade manager's accounts

The on-chain program `upgrade_manager` (`programs/upgrade-manager/src/lib.rs`) keeps one
`MultisigConfig` and one `ProgramUpgradeState`, each at a fixed program-derived address, and one
`UpgradeProposal` per proposal, at the address derived from the seeds `[b"proposal", program,
new_program_buffer]`.  An address is modelled by its seeds: distinct seeds give distinct
addresses.

Anchor stores an account as an 8-byte discriminator followed by the Borsh encoding of the
record, in the space fixed by `init`.  When an instruction ends, every `mut` account is written
back; a record that no longer fits makes the whole instruction fail.  `encodedLen` is the length
of the Borsh encoding and `fits` the write-back check.

## Main definitions

* `Pubkey`, `UpgradeStatus`, `UpgradeProposal`, `MultisigConfig`, `ProgramUpgradeState`,
  `AccountVersion` — the records of `lib.rs`.
* `ProposalKey`, `UpgradeProposal.seeds` — proposal addresses, and the seeds a record names.
* `UpgradeProposal.LEN`, `MultisigConfig.LEN` — the constants of `lib.rs`.
* `UpgradeProposal.encodedLen`, `UpgradeProposal.fits` — the write-back check.
* `State` — all the program's accounts.
-/

namespace UpgradeGovernance

namespace Chain

/-- `UpgradeStatus` of `lib.rs`. -/
inductive UpgradeStatus
  | proposed
  | approved
  | timelockActive
  | executed
  | cancelled
  deriving DecidableEq, Repr

/-- A status no instruction leaves: `Executed` or `Cancelled`. -/
def UpgradeStatus.isTerminal : UpgradeStatus → Bool
  | .executed | .cancelled => true
  | _ => false

/-- The address of a proposal account: the seeds `[b"proposal", program, buffer]` of its PDA. -/
structure ProposalKey where
  program : Pubkey
  buffer : Pubkey
  deriving DecidableEq, Repr

/-- `UpgradeProposal` of `lib.rs`, without `id` and `bump`: `id` is the first eight bytes of the
account's address and `bump` its canonical bump, and no instruction reads either. -/
structure UpgradeProposal where
  proposer : Pubkey
  program : Pubkey
  newBuffer : Pubkey
  description : String
  proposedAt : I64
  timelockUntil : I64
  approvals : List Pubkey
  approvalThreshold : UInt8
  status : UpgradeStatus
  executedAt : Option I64
  deriving DecidableEq, Repr

/-- `MultisigConfig` of `lib.rs`, without `bump`. -/
structure MultisigConfig where
  members : List Pubkey
  threshold : UInt8
  upgradeAuthority : Pubkey
  deriving DecidableEq, Repr

/-- `ProgramUpgradeState` of `lib.rs`, without `upgrade_buffer`, `pending_upgrade` and `bump`:
no instruction sets or reads the first two, which keep their zero values. -/
structure ProgramUpgradeState where
  authority : Pubkey
  timelockDuration : I64
  deriving DecidableEq, Repr

/-- `AccountVersion` of `lib.rs`, without `bump`. -/
structure AccountVersion where
  version : UInt32
  migrated : Bool
  migratedAt : Option I64
  deriving DecidableEq, Repr

/-! ### Account space -/

/-- `UpgradeProposal::LEN`.  It counts the discriminator although `space` adds it again. -/
def UpgradeProposal.LEN : Nat :=
  8 + 8 + 32 + 32 + 32 + (4 + 256) + 8 + 8 + (4 + 32 * 10) + 1 + 1 + (1 + 8) + 1

/-- `MultisigConfig::LEN`. -/
def MultisigConfig.LEN : Nat := (4 + 32 * 10) + 1 + 32 + 1

/-- The Borsh encoding length of a proposal, `id` and `bump` included. -/
def UpgradeProposal.encodedLen (p : UpgradeProposal) : Nat :=
  8 + 32 + 32 + 32 + (4 + p.description.utf8ByteSize) + 8 + 8 + (4 + 32 * p.approvals.length) +
    1 + 1 + (match p.executedAt with | none => 1 | some _ => 1 + 8) + 1

/-- The Borsh encoding length of a configuration, `bump` included. -/
def MultisigConfig.encodedLen (c : MultisigConfig) : Nat := (4 + 32 * c.members.length) + 1 + 32 + 1

/-- The proposal can be written back into its account of `space = 8 + UpgradeProposal::LEN`. -/
def UpgradeProposal.fits (p : UpgradeProposal) : Bool := 8 + p.encodedLen ≤ 8 + UpgradeProposal.LEN

/-- The configuration can be written into its account of `space = 8 + MultisigConfig::LEN`. -/
def MultisigConfig.fits (c : MultisigConfig) : Bool := 8 + c.encodedLen ≤ 8 + MultisigConfig.LEN

/-- A proposal fits exactly when its description and approvals take at most 592 bytes. -/
theorem UpgradeProposal.fits_iff (p : UpgradeProposal) :
    p.fits ↔ p.description.utf8ByteSize + 32 * p.approvals.length +
      (match p.executedAt with | none => 0 | some _ => 8) ≤ 592 := by
  unfold fits encodedLen LEN
  cases p.executedAt <;> simp <;> omega

/-- A configuration fits exactly when it has at most ten members. -/
theorem MultisigConfig.fits_iff (c : MultisigConfig) : c.fits ↔ c.members.length ≤ 10 := by
  unfold fits encodedLen LEN
  simp only [decide_eq_true_eq]
  omega

/-- The seeds a proposal's own fields name: `[b"proposal", proposal.program, proposal.new_buffer]`,
which `approve_upgrade`, `execute_upgrade` and `cancel_upgrade` check the account against. -/
def UpgradeProposal.seeds (p : UpgradeProposal) : ProposalKey := ⟨p.program, p.newBuffer⟩

/-! ### The program's accounts -/

/-- Every account of the program: the two singletons, if initialized, and the proposal and
account-version accounts by address. -/
structure State where
  multisigConfig : Option MultisigConfig
  programUpgradeState : Option ProgramUpgradeState
  proposals : ProposalKey → Option UpgradeProposal
  accountVersions : Pubkey → Option AccountVersion

/-- Before `initialize`: no account exists. -/
def State.init : State := ⟨none, none, fun _ => none, fun _ => none⟩

/-- Write the proposal account at `key`. -/
def State.setProposal (s : State) (key : ProposalKey) (p : UpgradeProposal) : State :=
  { s with proposals := fun k => if k = key then some p else s.proposals k }

@[simp] theorem State.setProposal_proposals (s : State) (key k : ProposalKey) (p : UpgradeProposal) :
    (s.setProposal key p).proposals k = if k = key then some p else s.proposals k := rfl

@[simp] theorem State.setProposal_multisigConfig (s : State) (key : ProposalKey) (p : UpgradeProposal) :
    (s.setProposal key p).multisigConfig = s.multisigConfig := rfl

@[simp] theorem State.setProposal_programUpgradeState (s : State) (key : ProposalKey)
    (p : UpgradeProposal) : (s.setProposal key p).programUpgradeState = s.programUpgradeState := rfl

@[simp] theorem State.setProposal_accountVersions (s : State) (key : ProposalKey)
    (p : UpgradeProposal) : (s.setProposal key p).accountVersions = s.accountVersions := rfl

end Chain

end UpgradeGovernance
