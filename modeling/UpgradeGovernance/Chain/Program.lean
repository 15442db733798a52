import UpgradeGovernance.Chain.Accounts

/-!
# The upgrade manager's instructions

`initialize`, `propose_upgrade`, `approve_upgrade`, `execute_upgrade`, `cancel_upgrade` and
`migrate_account` of `lib.rs`, each with the checks Anchor makes around its handler: every
`Account<T>` must hold a `T`; `init` fails on an address in use; a proposal account must sit at
the PDA of `[b"proposal", proposal.program, proposal.new_buffer]`; and every record written back
must fit its space.  An instruction either fails, and changes no account, or returns the new
accounts.  Logs and events are left out: nothing reads them.

The handler bodies on a proposal record are `UpgradeProposal.approve`, `.execute` and `.cancel`;
`State.withProposal` is the Anchor wrapping the three share.

## Main definitions

* `ProgramError` — `UpgradeError` of `lib.rs`, Anchor's errors, and a panic.
* `Instruction`, `step` — the program as a transition function, under an `Overflow` behaviour.
* `Reachable` — the states some sequence of transactions leads to from no accounts at all.
* `Tx`, `exec`, `run` — runs of transactions; a failed transaction leaves every account as it was.

## Main results

* `approveUpgrade_eq_ok`, `executeUpgrade_eq_ok`, `cancelUpgrade_eq_ok`,
  `proposeUpgrade_eq_ok`, `initializeManager_eq_ok` — what a successful instruction did.
* `reachable_run` — every run from no accounts ends in a reachable state.
-/

namespace UpgradeGovernance

namespace Chain

/-- `UpgradeError` of `lib.rs`. -/
inductive UpgradeError
  | notMultisigMember
  | invalidProposalStatus
  | alreadyApproved
  | timelockActive
  | insufficientApprovals
  | cannotCancelExecuted
  | alreadyMigrated
  | invalidProposalId
  deriving DecidableEq, Repr

/-- The errors Anchor raises while loading and writing back accounts. -/
inductive AnchorError
  /-- An `Account<T>` that holds no `T`. -/
  | accountNotInitialized
  /-- `init` of an address that is already in use. -/
  | accountAlreadyInUse
  /-- The account is not at the PDA of its `seeds`. -/
  | constraintSeeds
  /-- The record written back does not fit the account's space. -/
  | accountDidNotSerialize
  deriving DecidableEq, Repr

/-- Why an instruction fails. -/
inductive ProgramError
  | upgrade (e : UpgradeError)
  | anchor (e : AnchorError)
  /-- The handler panicked: an overflowing `i64` or `u32` operation under `Overflow.trap`. -/
  | panic
  deriving DecidableEq, Repr

/-- `require!(cond, err)`. -/
def require (cond : Bool) (err : ProgramError) : Except ProgramError Unit :=
  if cond then pure () else throw err

@[simp] theorem require_eq_ok {c : Bool} {e : ProgramError} {u : Unit} :
    require c e = .ok u ↔ c = true := by
  cases c <;> simp [require]

@[simp] theorem require_true (e : ProgramError) : require true e = .ok () := rfl

@[simp] theorem require_false (e : ProgramError) : require false e = .error e := rfl

section Handlers

variable (o : Overflow)

/-! ### Handlers on a proposal record -/

/-- The body of `approve_upgrade`: record the approval, and once the threshold is met start the
timelock at `clock + timelock_duration`. -/
def UpgradeProposal.approve (clock : I64) (config : MultisigConfig)
    (upgradeState : ProgramUpgradeState) (approver : Pubkey) (proposal : UpgradeProposal) :
    Except ProgramError UpgradeProposal := do
  require (config.members.contains approver) (.upgrade .notMultisigMember)
  require (proposal.status == .proposed || proposal.status == .approved)
    (.upgrade .invalidProposalStatus)
  require (!proposal.approvals.contains approver) (.upgrade .alreadyApproved)
  let approvals := proposal.approvals ++ [approver]
  if proposal.approvalThreshold.toNat ≤ approvals.length then
    let some timelockUntil := I64.add? o clock upgradeState.timelockDuration | throw .panic
    pure { proposal with approvals, status := .timelockActive, timelockUntil }
  else
    pure { proposal with approvals, status := .approved }

/-- The body of `execute_upgrade`. -/
def UpgradeProposal.execute (clock : I64) (proposal : UpgradeProposal) :
    Except ProgramError UpgradeProposal := do
  require (decide (proposal.timelockUntil ≤ clock)) (.upgrade .timelockActive)
  require (decide (proposal.approvalThreshold.toNat ≤ proposal.approvals.length))
    (.upgrade .insufficientApprovals)
  require (proposal.status == .timelockActive) (.upgrade .invalidProposalStatus)
  pure { proposal with status := .executed, executedAt := some clock }

/-- The body of `cancel_upgrade`. -/
def UpgradeProposal.cancel (config : MultisigConfig) (canceller : Pubkey)
    (proposal : UpgradeProposal) : Except ProgramError UpgradeProposal := do
  require (config.members.contains canceller) (.upgrade .notMultisigMember)
  require (proposal.status != .executed) (.upgrade .cannotCancelExecuted)
  pure { proposal with status := .cancelled }

/-- Run a handler on the `mut` proposal account at `key`, as Anchor does for `seeds = [b"proposal",
proposal.program.as_ref(), proposal.new_buffer.as_ref()]`: load the record, check the address
against the seeds it names, and write the handler's record back into the account. -/
def State.withProposal (s : State) (key : ProposalKey)
    (handler : UpgradeProposal → Except ProgramError UpgradeProposal) :
    Except ProgramError State := do
  let some proposal := s.proposals key | throw (.anchor .accountNotInitialized)
  require (proposal.seeds == key) (.anchor .constraintSeeds)
  let proposal ← handler proposal
  require proposal.fits (.anchor .accountDidNotSerialize)
  pure (s.setProposal key proposal)

/-- The body of `migrate_account`. -/
def AccountVersion.migrate (clock : I64) (migration : AccountVersion) :
    Except ProgramError AccountVersion := do
  require (!migration.migrated) (.upgrade .alreadyMigrated)
  let some version := u32Add? o migration.version 1 | throw .panic
  pure { version, migrated := true, migratedAt := some clock }

/-! ### Instructions -/

/-- The record `propose_upgrade` writes into a new proposal account. -/
@[simps]
def UpgradeProposal.new (proposer program newBuffer : Pubkey) (description : String)
    (proposedAt timelockUntil : I64) (approvalThreshold : UInt8) : UpgradeProposal :=
  { proposer, program, newBuffer, description, proposedAt, timelockUntil,
    approvals := [proposer], approvalThreshold, status := .proposed, executedAt := none }

/-- `initialize` of `lib.rs`: `init` both singleton accounts and store the configuration as given. -/
def initializeManager (s : State) (authority : Pubkey) (members : List Pubkey) (threshold : UInt8)
    (timelockDuration : I64) : Except ProgramError State := do
  require (s.multisigConfig.isNone && s.programUpgradeState.isNone) (.anchor .accountAlreadyInUse)
  let config : MultisigConfig := { members, threshold, upgradeAuthority := authority }
  require config.fits (.anchor .accountDidNotSerialize)
  pure { s with multisigConfig := some config,
                programUpgradeState := some { authority, timelockDuration } }

/-- `propose_upgrade`.  The new account's address is derived from the `program` and
`new_program_buffer` *accounts*; the record stores the `new_program_buffer` *argument*. -/
def proposeUpgrade (s : State) (clock : I64) (proposer program bufferAccount newProgramBuffer : Pubkey)
    (description : String) : Except ProgramError State := do
  let some config := s.multisigConfig | throw (.anchor .accountNotInitialized)
  let some upgradeState := s.programUpgradeState | throw (.anchor .accountNotInitialized)
  let key : ProposalKey := ⟨program, bufferAccount⟩
  require (s.proposals key).isNone (.anchor .accountAlreadyInUse)
  require (config.members.contains proposer) (.upgrade .notMultisigMember)
  let some timelockUntil := I64.add? o clock upgradeState.timelockDuration | throw .panic
  let proposal := UpgradeProposal.new proposer program newProgramBuffer description clock
    timelockUntil config.threshold
  require proposal.fits (.anchor .accountDidNotSerialize)
  pure (s.setProposal key proposal)

/-- `approve_upgrade`. -/
def approveUpgrade (s : State) (clock : I64) (approver : Pubkey) (key : ProposalKey) :
    Except ProgramError State := do
  let some config := s.multisigConfig | throw (.anchor .accountNotInitialized)
  let some upgradeState := s.programUpgradeState | throw (.anchor .accountNotInitialized)
  s.withProposal key (UpgradeProposal.approve o clock config upgradeState approver)

/-- `execute_upgrade`.  Any signer may execute. -/
def executeUpgrade (s : State) (clock : I64) (key : ProposalKey) : Except ProgramError State := do
  let some _ := s.programUpgradeState | throw (.anchor .accountNotInitialized)
  s.withProposal key (UpgradeProposal.execute clock)

/-- `cancel_upgrade`. -/
def cancelUpgrade (s : State) (canceller : Pubkey) (key : ProposalKey) :
    Except ProgramError State := do
  let some config := s.multisigConfig | throw (.anchor .accountNotInitialized)
  s.withProposal key (UpgradeProposal.cancel config canceller)

/-- `migrate_account`, on the account at the PDA of `[b"account_version", old_account]`. -/
def migrateAccount (s : State) (clock : I64) (oldAccount : Pubkey) : Except ProgramError State := do
  let some migration := s.accountVersions oldAccount | throw (.anchor .accountNotInitialized)
  let migration ← migration.migrate o clock
  pure { s with accountVersions := fun a => if a = oldAccount then some migration else s.accountVersions a }

end Handlers

/-- An instruction of the program, with its signer, accounts and arguments.  The unused
`_proposal_id` arguments are left out. -/
inductive Instruction
  | initializeManager (authority : Pubkey) (members : List Pubkey) (threshold : UInt8)
      (timelockDuration : I64)
  | proposeUpgrade (proposer program bufferAccount newProgramBuffer : Pubkey) (description : String)
  | approveUpgrade (approver : Pubkey) (proposal : ProposalKey)
  | executeUpgrade (executor : Pubkey) (proposal : ProposalKey)
  | cancelUpgrade (canceller : Pubkey) (proposal : ProposalKey)
  | migrateAccount (migrator oldAccount : Pubkey)
  deriving DecidableEq, Repr

section Runs

variable (o : Overflow)

/-- One instruction at the clock reading `clock`. -/
def step (s : State) (clock : I64) : Instruction → Except ProgramError State
  | .initializeManager authority members threshold d =>
      initializeManager s authority members threshold d
  | .proposeUpgrade proposer program buffer arg description =>
      proposeUpgrade o s clock proposer program buffer arg description
  | .approveUpgrade approver key => approveUpgrade o s clock approver key
  | .executeUpgrade _ key => executeUpgrade s clock key
  | .cancelUpgrade canceller key => cancelUpgrade s canceller key
  | .migrateAccount _ oldAccount => migrateAccount o s clock oldAccount

/-- The states some sequence of successful instructions leads to from no accounts at all. -/
inductive Reachable : State → Prop
  | init : Reachable .init
  | step {s s' : State} (clock : I64) (ix : Instruction) :
      Reachable s → step o s clock ix = .ok s' → Reachable s'

/-- A transaction: one instruction, and the clock reading it executes at. -/
structure Tx where
  clock : I64
  ix : Instruction
  deriving DecidableEq, Repr

/-- A transaction's effect: a failed transaction leaves every account as it was. -/
def exec (s : State) (tx : Tx) : State :=
  match step o s tx.clock tx.ix with
  | .ok s' => s'
  | .error _ => s

/-- The accounts after a run of transactions. -/
def run (s : State) (txs : List Tx) : State := txs.foldl (exec o) s

@[simp] theorem run_nil (s : State) : run o s [] = s := rfl

theorem run_append (s : State) (txs txs' : List Tx) :
    run o s (txs ++ txs') = run o (run o s txs) txs' := List.foldl_append _ _ _ _

theorem reachable_exec {s : State} (hs : Reachable o s) (tx : Tx) : Reachable o (exec o s tx) := by
  unfold exec
  split
  · exact .step _ _ hs ‹_›
  · exact hs

theorem reachable_run {s : State} (hs : Reachable o s) (txs : List Tx) :
    Reachable o (run o s txs) := by
  induction txs generalizing s with
  | nil => exact hs
  | cons tx txs ih => exact ih (reachable_exec o hs tx)

end Runs

/-! ### What a successful instruction did -/

section Inversion

variable {o : Overflow} {s s' : State} {clock : I64} {key : ProposalKey}
  {p p' : UpgradeProposal} {config : MultisigConfig} {upgradeState : ProgramUpgradeState}

theorem State.withProposal_eq_ok {handler : UpgradeProposal → Except ProgramError UpgradeProposal} :
    s.withProposal key handler = .ok s' ↔
      ∃ p p', s.proposals key = some p ∧ p.seeds = key ∧ handler p = .ok p' ∧ p'.fits ∧
        s' = s.setProposal key p' := by
  unfold State.withProposal
  cases h : s.proposals key with
  | none => simp
  | some p => simp [Except.bind_eq_ok, Except.map_eq_ok]

theorem UpgradeProposal.approve_eq_ok {approver : Pubkey}
    (h : p.approve o clock config upgradeState approver = .ok p') :
    approver ∈ config.members ∧ (p.status = .proposed ∨ p.status = .approved) ∧
      approver ∉ p.approvals ∧
      ((p.approvalThreshold.toNat ≤ p.approvals.length + 1 ∧
          ∃ t, I64.add? o clock upgradeState.timelockDuration = some t ∧
            p' = { p with approvals := p.approvals ++ [approver], status := .timelockActive,
                          timelockUntil := t }) ∨
        (p.approvals.length + 1 < p.approvalThreshold.toNat ∧
          p' = { p with approvals := p.approvals ++ [approver], status := .approved })) := by
  simp only [UpgradeProposal.approve, Except.bind_eq_ok, require_eq_ok] at h
  obtain ⟨-, hm, -, hs, -, ha, h⟩ := h
  refine ⟨by simpa using hm, by simpa using hs, by simpa using ha, ?_⟩
  rw [List.length_append, List.length_singleton] at h
  split at h
  · refine .inl ⟨‹_›, ?_⟩
    split at h
    · exact ⟨_, ‹_›, Except.pure_eq_ok.mp h⟩
    · exact absurd h Except.throw_ne_ok
  · exact .inr ⟨by omega, Except.pure_eq_ok.mp h⟩

theorem UpgradeProposal.execute_eq_ok :
    p.execute clock = .ok p' ↔
      p.timelockUntil ≤ clock ∧ p.approvalThreshold.toNat ≤ p.approvals.length ∧
        p.status = .timelockActive ∧ p' = { p with status := .executed, executedAt := some clock } := by
  simp [UpgradeProposal.execute, Except.bind_eq_ok, Except.map_eq_ok]

theorem UpgradeProposal.cancel_eq_ok {canceller : Pubkey} :
    p.cancel config canceller = .ok p' ↔
      canceller ∈ config.members ∧ p.status ≠ .executed ∧ p' = { p with status := .cancelled } := by
  simp [UpgradeProposal.cancel, Except.bind_eq_ok, Except.map_eq_ok]

theorem initializeManager_eq_ok {authority : Pubkey} {members : List Pubkey} {threshold : UInt8}
    {d : I64} :
    initializeManager s authority members threshold d = .ok s' ↔
      s.multisigConfig = none ∧ s.programUpgradeState = none ∧ members.length ≤ 10 ∧
        s' = { s with multisigConfig := some { members, threshold, upgradeAuthority := authority },
                      programUpgradeState := some { authority, timelockDuration := d } } := by
  simp [initializeManager, Except.bind_eq_ok, Except.map_eq_ok, MultisigConfig.fits_iff, and_assoc]

theorem proposeUpgrade_eq_ok {proposer program buffer arg : Pubkey} {description : String} :
    proposeUpgrade o s clock proposer program buffer arg description = .ok s' ↔
      ∃ config upgradeState t, s.multisigConfig = some config ∧
        s.programUpgradeState = some upgradeState ∧ s.proposals ⟨program, buffer⟩ = none ∧
        proposer ∈ config.members ∧ I64.add? o clock upgradeState.timelockDuration = some t ∧
        (UpgradeProposal.new proposer program arg description clock t config.threshold).fits ∧
        s' = s.setProposal ⟨program, buffer⟩
          (UpgradeProposal.new proposer program arg description clock t config.threshold) := by
  unfold proposeUpgrade
  cases s.multisigConfig with
  | none => simp
  | some config =>
    cases s.programUpgradeState with
    | none => simp
    | some upgradeState =>
      cases ht : I64.add? o clock upgradeState.timelockDuration <;>
        simp [Except.bind_eq_ok, Except.map_eq_ok, ht]

theorem approveUpgrade_eq_ok {approver : Pubkey} :
    approveUpgrade o s clock approver key = .ok s' ↔
      ∃ config upgradeState, s.multisigConfig = some config ∧
        s.programUpgradeState = some upgradeState ∧
        s.withProposal key (UpgradeProposal.approve o clock config upgradeState approver) = .ok s' := by
  unfold approveUpgrade
  cases s.multisigConfig <;> cases s.programUpgradeState <;> simp

theorem executeUpgrade_eq_ok :
    executeUpgrade s clock key = .ok s' ↔
      s.programUpgradeState.isSome ∧ s.withProposal key (UpgradeProposal.execute clock) = .ok s' := by
  unfold executeUpgrade
  cases s.programUpgradeState <;> simp

theorem cancelUpgrade_eq_ok {canceller : Pubkey} :
    cancelUpgrade s canceller key = .ok s' ↔
      ∃ config, s.multisigConfig = some config ∧
        s.withProposal key (UpgradeProposal.cancel config canceller) = .ok s' := by
  unfold cancelUpgrade
  cases s.multisigConfig <;> simp

theorem migrateAccount_eq_ok {oldAccount : Pubkey} :
    migrateAccount o s clock oldAccount = .ok s' ↔
      ∃ v v', s.accountVersions oldAccount = some v ∧ v.migrate o clock = .ok v' ∧
        s' = { s with accountVersions := fun a =>
                 if a = oldAccount then some v' else s.accountVersions a } := by
  unfold migrateAccount
  cases s.accountVersions oldAccount <;> simp [Except.map_eq_ok]

end Inversion

end Chain

end UpgradeGovernance
