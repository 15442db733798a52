import UpgradeGovernance.Chain.Program
import Mathlib.Data.List.Nodup

/-!
# Invariants of the upgrade manager

What every reachable state of the program satisfies, and how one successful instruction may
change a proposal.  Both are derived from the inversion lemmas of `Chain.Program`: each
instruction that succeeds writes at most one proposal, through `State.withProposal` or
`proposeUpgrade`, and never touches the configuration after `initialize`.

## Main definitions

* `StatusCoherent` — what a proposal's status says about its approvals and `executed_at`.
* `ApprovalLedger` — a proposal's approvals: the proposer first, distinct members, and the
  configuration's threshold.
* `Inv` — the invariant of every reachable state.
* `lifecycleEdge`, `ProposalStep`, `LifecycleStep` — the changes one instruction may make.

## Main results

* `inv_step`, `inv_of_reachable` — `Inv` holds initially and is kept by every instruction.
* `statusCoherent_of_reachable` — status and approvals agree in every reachable state.
* `migrateAccount_fails_of_reachable` — no reachable state has an account to migrate.
* `approvalLedger_of_reachable` — the approvals of every proposal are distinct configuration
  members, as many as its threshold allows.
* `approve_repeat_constraintSeeds` — a proposal whose recorded buffer is not its address's
  buffer can never be approved.
* `lifecycleStep_of_step` — a successful instruction moves each proposal along a lifecycle edge.
* `proposal_lifecycle` — the lifecycle, and that an executed or cancelled proposal never changes
  again.
-/

namespace UpgradeGovernance

namespace Chain

/-! ### The invariant -/

/-- What a proposal's status says about its approvals and its execution time. -/
structure StatusCoherent (p : UpgradeProposal) : Prop where
  proposed : p.status = .proposed → p.approvals = [p.proposer]
  approved : p.status = .approved →
    2 ≤ p.approvals.length ∧ p.approvals.length < p.approvalThreshold.toNat
  timelockActive : p.status = .timelockActive →
    p.approvalThreshold.toNat ≤ p.approvals.length ∧ 2 ≤ p.approvals.length
  executed : p.status = .executed →
    p.approvalThreshold.toNat ≤ p.approvals.length ∧ 2 ≤ p.approvals.length
  executedAt : p.executedAt.isSome ↔ p.status = .executed

/-- The approval ledger of a proposal under the configuration `config`: the proposer comes
first, approvals are distinct members, and the threshold is the configuration's. -/
structure ApprovalLedger (config : MultisigConfig) (p : UpgradeProposal) : Prop where
  head : p.approvals.head? = some p.proposer
  nodup : p.approvals.Nodup
  members : ∀ a ∈ p.approvals, a ∈ config.members
  threshold : p.approvalThreshold = config.threshold

/-- The invariant of every reachable state. -/
structure Inv (s : State) : Prop where
  ledger : ∀ k p, s.proposals k = some p →
    ∃ config, s.multisigConfig = some config ∧ ApprovalLedger config p
  coherent : ∀ k p, s.proposals k = some p → StatusCoherent p
  configFits : ∀ config, s.multisigConfig = some config → config.fits
  upgradeState : s.multisigConfig.isSome = s.programUpgradeState.isSome
  accountVersions : ∀ a, s.accountVersions a = none

theorem inv_init : Inv .init where
  ledger _ _ h := by cases h
  coherent _ _ h := by cases h
  configFits _ h := by cases h
  upgradeState := rfl
  accountVersions _ := rfl

variable {o : Overflow} {s s' : State} {clock : I64} {key : ProposalKey} {p p' : UpgradeProposal}
  {config : MultisigConfig}

/-- A property of every proposal survives writing one that has it. -/
theorem forall_setProposal {P : UpgradeProposal → Prop}
    (h : ∀ k p, s.proposals k = some p → P p) (hp : P p') :
    ∀ k p, (s.setProposal key p').proposals k = some p → P p := by
  intro k p hk
  rw [State.setProposal_proposals] at hk
  split at hk
  · exact Option.some.inj hk ▸ hp
  · exact h k p hk

theorem StatusCoherent.executedAt_none (hc : StatusCoherent p) (hs : p.status ≠ .executed) :
    p.executedAt = none :=
  Option.not_isSome_iff_eq_none.mp fun h => hs (hc.executedAt.mp h)

theorem ApprovalLedger.approvals_ne_nil (hl : ApprovalLedger config p) : p.approvals ≠ [] := by
  intro h
  simpa [h] using hl.head

/-- Appending a new member's approval keeps the ledger. -/
theorem ApprovalLedger.append (hl : ApprovalLedger config p) {a : Pubkey}
    (hm : a ∈ config.members) (ha : a ∉ p.approvals) (hp : p'.approvals = p.approvals ++ [a])
    (hpr : p'.proposer = p.proposer) (ht : p'.approvalThreshold = p.approvalThreshold) :
    ApprovalLedger config p' where
  head := by
    obtain ⟨b, l, hb⟩ := List.exists_cons_of_ne_nil hl.approvals_ne_nil
    have := hl.head
    simp_all
  nodup := by
    rw [hp, List.nodup_append]
    exact ⟨hl.nodup, List.nodup_singleton a, by simpa using ha⟩
  members := by
    rw [hp]
    intro b hb
    rcases List.mem_append.mp hb with hb | hb
    · exact hl.members b hb
    · exact List.mem_singleton.mp hb ▸ hm
  threshold := ht ▸ hl.threshold

/-- A change of status alone keeps the ledger. -/
theorem ApprovalLedger.of_status (hl : ApprovalLedger config p) (hp : p'.approvals = p.approvals)
    (hpr : p'.proposer = p.proposer) (ht : p'.approvalThreshold = p.approvalThreshold) :
    ApprovalLedger config p' :=
  ⟨hp ▸ hpr ▸ hl.head, hp ▸ hl.nodup, hp ▸ hl.members, ht ▸ hl.threshold⟩

/-! ### One preservation lemma per instruction -/

theorem Inv.initializeManager {authority : Pubkey} {members : List Pubkey} {threshold : UInt8}
    {d : I64} (hi : Inv s) (h : initializeManager s authority members threshold d = .ok s') :
    Inv s' := by
  obtain ⟨hc, hu, hlen, rfl⟩ := initializeManager_eq_ok.mp h
  have none_of : ∀ k p, s.proposals k = some p → False := fun k p hk => by
    obtain ⟨_, h', _⟩ := hi.ledger k p hk
    simp [hc] at h'
  exact ⟨fun k p hk => (none_of k p hk).elim, fun k p hk => (none_of k p hk).elim,
    fun c hc' => by cases hc'; exact (MultisigConfig.fits_iff _).mpr hlen, rfl, hi.accountVersions⟩

theorem Inv.proposeUpgrade {proposer program buffer arg : Pubkey} {description : String}
    (hi : Inv s) (h : proposeUpgrade o s clock proposer program buffer arg description = .ok s') :
    Inv s' := by
  obtain ⟨config, u, t, hc, -, -, hm, -, -, rfl⟩ := proposeUpgrade_eq_ok.mp h
  refine ⟨?_, forall_setProposal hi.coherent ?_, hi.configFits, hi.upgradeState, hi.accountVersions⟩
  · exact forall_setProposal (P := fun p => ∃ c, _ = some c ∧ ApprovalLedger c p) hi.ledger
      ⟨config, hc, rfl, List.nodup_singleton _, by simpa using hm, rfl⟩
  · exact ⟨fun _ => rfl, nofun, nofun, nofun, by simp⟩

/-- The proposal an approval writes keeps the ledger and the status coherence. -/
theorem approve_keeps {u : ProgramUpgradeState} {a : Pubkey} (hl : ApprovalLedger config p)
    (hc : StatusCoherent p) (h : p.approve o clock config u a = .ok p') :
    ApprovalLedger config p' ∧ StatusCoherent p' := by
  obtain ⟨hm, hs, ha, hcase⟩ := UpgradeProposal.approve_eq_ok h
  have hne := hl.approvals_ne_nil
  have hlen : 1 ≤ p.approvals.length := List.length_pos.mpr hne
  have hex : p.executedAt = none := hc.executedAt_none (by rcases hs with hs | hs <;> simp [hs])
  rcases hcase with ⟨hthr, t, -, rfl⟩ | ⟨hthr, rfl⟩
  · refine ⟨hl.append hm ha rfl rfl rfl, nofun, nofun, fun _ => ?_, nofun, by simp [hex]⟩
    simp only [List.length_append, List.length_singleton]
    omega
  · refine ⟨hl.append hm ha rfl rfl rfl, nofun, fun _ => ?_, nofun, nofun, by simp [hex]⟩
    simp only [List.length_append, List.length_singleton]
    omega

theorem Inv.approveUpgrade {a : Pubkey} (hi : Inv s) (h : approveUpgrade o s clock a key = .ok s') :
    Inv s' := by
  obtain ⟨config, u, hc, -, h⟩ := approveUpgrade_eq_ok.mp h
  obtain ⟨p, p', hp, -, hh, -, rfl⟩ := State.withProposal_eq_ok.mp h
  obtain ⟨c, hc', hl⟩ := hi.ledger key p hp
  cases hc.symm.trans hc'
  obtain ⟨hl', hcoh'⟩ := approve_keeps hl (hi.coherent key p hp) hh
  exact ⟨forall_setProposal (P := fun p => ∃ c, _ = some c ∧ ApprovalLedger c p) hi.ledger
      ⟨config, hc, hl'⟩, forall_setProposal hi.coherent hcoh', hi.configFits, hi.upgradeState,
    hi.accountVersions⟩

theorem Inv.executeUpgrade (hi : Inv s) (h : executeUpgrade s clock key = .ok s') : Inv s' := by
  obtain ⟨-, h⟩ := executeUpgrade_eq_ok.mp h
  obtain ⟨p, p', hp, -, hh, -, rfl⟩ := State.withProposal_eq_ok.mp h
  obtain ⟨-, -, hs, rfl⟩ := UpgradeProposal.execute_eq_ok.mp hh
  obtain ⟨c, hc, hl⟩ := hi.ledger key p hp
  exact ⟨forall_setProposal (P := fun p => ∃ c, _ = some c ∧ ApprovalLedger c p) hi.ledger
      ⟨c, hc, hl.of_status rfl rfl rfl⟩,
    forall_setProposal hi.coherent
      ⟨nofun, nofun, nofun, fun _ => (hi.coherent key p hp).timelockActive hs, by simp⟩,
    hi.configFits, hi.upgradeState, hi.accountVersions⟩

theorem Inv.cancelUpgrade {a : Pubkey} (hi : Inv s) (h : cancelUpgrade s a key = .ok s') :
    Inv s' := by
  obtain ⟨_, -, h⟩ := cancelUpgrade_eq_ok.mp h
  obtain ⟨p, p', hp, -, hh, -, rfl⟩ := State.withProposal_eq_ok.mp h
  obtain ⟨-, hs, rfl⟩ := UpgradeProposal.cancel_eq_ok.mp hh
  obtain ⟨c, hc, hl⟩ := hi.ledger key p hp
  have hex := (hi.coherent key p hp).executedAt_none hs
  exact ⟨forall_setProposal (P := fun p => ∃ c, _ = some c ∧ ApprovalLedger c p) hi.ledger
      ⟨c, hc, hl.of_status rfl rfl rfl⟩,
    forall_setProposal hi.coherent ⟨nofun, nofun, nofun, nofun, by simp [hex]⟩, hi.configFits,
    hi.upgradeState, hi.accountVersions⟩

/-- No instruction creates an `AccountVersion` account, so `migrate_account` never succeeds. -/
theorem Inv.migrateAccount_ne_ok {a : Pubkey} (hi : Inv s) : migrateAccount o s clock a ≠ .ok s' :=
  fun h => by simpa [hi.accountVersions a] using migrateAccount_eq_ok.mp h

theorem inv_step {ix : Instruction} (hi : Inv s) (h : step o s clock ix = .ok s') : Inv s' := by
  cases ix with
  | initializeManager => exact hi.initializeManager h
  | proposeUpgrade => exact hi.proposeUpgrade h
  | approveUpgrade => exact hi.approveUpgrade h
  | executeUpgrade => exact hi.executeUpgrade h
  | cancelUpgrade => exact hi.cancelUpgrade h
  | migrateAccount => exact absurd h hi.migrateAccount_ne_ok

theorem inv_of_reachable (hs : Reachable o s) : Inv s := by
  induction hs with
  | init => exact inv_init
  | step _ _ _ h ih => exact inv_step ih h

/-- **Status coherence.**  In every reachable state, a `Proposed` proposal holds only its
proposer's approval, an `Approved` one at least two approvals and fewer than its threshold, a
`TimelockActive` or `Executed` one at least its threshold and at least two, and `executed_at` is
set exactly on `Executed` proposals. -/
theorem statusCoherent_of_reachable (hs : Reachable o s) (hp : s.proposals key = some p) :
    StatusCoherent p :=
  (inv_of_reachable hs).coherent key p hp

/-- A sample run: a three-member configuration with threshold two and a 48-hour timelock, then
a proposal by the first member. -/
def sampleRun : List Tx :=
  [⟨0, .initializeManager ⟨1⟩ [⟨1⟩, ⟨2⟩, ⟨3⟩] 2 172800⟩,
   ⟨0, .proposeUpgrade ⟨1⟩ ⟨10⟩ ⟨20⟩ ⟨20⟩ "upgrade"⟩]

/-- A run through every status: a configuration of three members with threshold three, a
proposal, the second member's approval, the third member's, which meets the threshold, and the
execution 48 hours later. -/
def coherenceRun : List Tx :=
  [⟨0, .initializeManager ⟨1⟩ [⟨1⟩, ⟨2⟩, ⟨3⟩] 3 172800⟩,
   ⟨0, .proposeUpgrade ⟨1⟩ ⟨10⟩ ⟨20⟩ ⟨20⟩ "upgrade"⟩,
   ⟨0, .approveUpgrade ⟨2⟩ ⟨⟨10⟩, ⟨20⟩⟩⟩, ⟨0, .approveUpgrade ⟨3⟩ ⟨⟨10⟩, ⟨20⟩⟩⟩,
   ⟨172800, .executeUpgrade ⟨1⟩ ⟨⟨10⟩, ⟨20⟩⟩⟩]

theorem statusCoherent_coherenceRun :
    (∃ p, (run .trap .init (coherenceRun.take 2)).proposals ⟨⟨10⟩, ⟨20⟩⟩ = some p ∧
      p.status = .proposed ∧ StatusCoherent p) ∧
    (∃ p, (run .trap .init (coherenceRun.take 3)).proposals ⟨⟨10⟩, ⟨20⟩⟩ = some p ∧
      p.status = .approved ∧ StatusCoherent p) ∧
    (∃ p, (run .trap .init (coherenceRun.take 4)).proposals ⟨⟨10⟩, ⟨20⟩⟩ = some p ∧
      p.status = .timelockActive ∧ StatusCoherent p) ∧
    (∃ p, (run .trap .init coherenceRun).proposals ⟨⟨10⟩, ⟨20⟩⟩ = some p ∧
      p.status = .executed ∧ StatusCoherent p) :=
  have h (txs : List Tx) (p : UpgradeProposal)
      (hp : (run .trap .init txs).proposals ⟨⟨10⟩, ⟨20⟩⟩ = some p) : StatusCoherent p :=
    statusCoherent_of_reachable (reachable_run .trap .init txs) hp
  ⟨⟨_, rfl, rfl, h (coherenceRun.take 2) _ rfl⟩, ⟨_, rfl, rfl, h (coherenceRun.take 3) _ rfl⟩,
    ⟨_, rfl, rfl, h (coherenceRun.take 4) _ rfl⟩, ⟨_, rfl, rfl, h coherenceRun _ rfl⟩⟩

/-- **Migration is unreachable.**  No instruction creates an `AccountVersion` account, so in
every reachable state `migrate_account` fails on its missing account. -/
theorem migrateAccount_fails_of_reachable (hs : Reachable o s) (a : Pubkey) :
    migrateAccount o s clock a = .error (.anchor .accountNotInitialized) := by
  simp only [migrateAccount, (inv_of_reachable hs).accountVersions a]
  rfl

theorem migrateAccount_fails_sampleRun :
    migrateAccount .trap (run .trap .init sampleRun) 0 ⟨1⟩ = .error (.anchor .accountNotInitialized) :=
  migrateAccount_fails_of_reachable (reachable_run .trap .init sampleRun) ⟨1⟩

/-! ### Repeated approvals -/

section Repeat

variable {u : ProgramUpgradeState} {a : Pubkey}

/-- The handler rejects an identity it has already recorded. -/
theorem UpgradeProposal.approve_of_mem (hm : a ∈ config.members) (ha : a ∈ p.approvals) :
    p.approve o clock config u a =
      .error (if p.status = .proposed ∨ p.status = .approved then .upgrade .alreadyApproved
        else .upgrade .invalidProposalStatus) := by
  unfold UpgradeProposal.approve
  by_cases hs : p.status = .proposed ∨ p.status = .approved
  · have : (p.status == .proposed || p.status == .approved) = true := by
      rcases hs with hs | hs <;> simp [hs]
    simp [hm, ha, this, hs]
  · have : (p.status == .proposed || p.status == .approved) = false := by
      simp only [not_or] at hs; simp [hs.1, hs.2]
    simp [hm, this, hs]

theorem State.withProposal_of_seeds_ne
    {handler : UpgradeProposal → Except ProgramError UpgradeProposal}
    (hp : s.proposals key = some p) (hk : p.seeds ≠ key) :
    s.withProposal key handler = .error (.anchor .constraintSeeds) := by
  have : (p.seeds == key) = false := by simpa using hk
  simp [State.withProposal, hp, this]

theorem State.withProposal_of_handler_error
    {handler : UpgradeProposal → Except ProgramError UpgradeProposal} {e : ProgramError}
    (hp : s.proposals key = some p) (hk : p.seeds = key) (he : handler p = .error e) :
    s.withProposal key handler = .error e := by
  simp [State.withProposal, hp, hk, he, bind, Except.bind]

/-- A failed transaction leaves the accounts as they were. -/
theorem exec_of_error {tx : Tx} {e : ProgramError} (h : step o s tx.clock tx.ix = .error e) :
    exec o s tx = s := by
  simp [exec, h]

/-- In a state of the invariant, `approve_upgrade` by an identity a proposal already holds
fails; with `AlreadyApproved` when the proposal sits at its own seeds and is still open. -/
theorem approveUpgrade_error_of_mem (hi : Inv s) (hp : s.proposals key = some p)
    (ha : a ∈ p.approvals) (clock : I64) :
    ∃ e, approveUpgrade o s clock a key = .error e ∧
      (p.seeds = key → (p.status = .proposed ∨ p.status = .approved) →
        e = .upgrade .alreadyApproved) := by
  obtain ⟨config, hc, hl⟩ := hi.ledger key p hp
  obtain ⟨u, hu⟩ : ∃ u, s.programUpgradeState = some u :=
    Option.isSome_iff_exists.mp (hi.upgradeState ▸ by simp [hc])
  rw [show approveUpgrade o s clock a key =
      s.withProposal key (UpgradeProposal.approve o clock config u a) by simp [approveUpgrade, hc, hu]]
  by_cases hk : p.seeds = key
  · exact ⟨_, State.withProposal_of_handler_error hp hk
      (UpgradeProposal.approve_of_mem (hl.members a ha) ha), fun _ hst => by simp [hst]⟩
  · exact ⟨_, State.withProposal_of_seeds_ne hp hk, fun h => absurd h hk⟩

/-- **The approval ledger.**  In every reachable state each proposal's approvals start with its
proposer and are distinct members of the configuration, its threshold is the configuration's,
and an `approve_upgrade` on it by an identity it already holds fails and changes nothing; when
the proposal is `Proposed` or `Approved` and its account sits at the PDA of its own seeds, the
failure is `AlreadyApproved`. -/
theorem approvalLedger_of_reachable (hs : Reachable o s) (hp : s.proposals key = some p) :
    (∃ config, s.multisigConfig = some config ∧ ApprovalLedger config p) ∧
    ∀ a ∈ p.approvals, ∀ clock, exec o s ⟨clock, .approveUpgrade a key⟩ = s ∧
      ∃ e, step o s clock (.approveUpgrade a key) = .error e ∧
        (p.seeds = key → (p.status = .proposed ∨ p.status = .approved) →
          e = .upgrade .alreadyApproved) := by
  have hi := inv_of_reachable hs
  refine ⟨hi.ledger key p hp, fun a ha clock => ?_⟩
  obtain ⟨e, he, hcode⟩ := approveUpgrade_error_of_mem (o := o) hi hp ha clock
  exact ⟨exec_of_error he, e, he, hcode⟩

theorem approvalLedger_sampleRun :
    ApprovalLedger ⟨[⟨1⟩, ⟨2⟩, ⟨3⟩], 2, ⟨1⟩⟩ (.new ⟨1⟩ ⟨10⟩ ⟨20⟩ "upgrade" 0 172800 2) ∧
      step .trap (run .trap .init sampleRun) 5 (.approveUpgrade ⟨1⟩ ⟨⟨10⟩, ⟨20⟩⟩) =
        .error (.upgrade .alreadyApproved) := by
  obtain ⟨⟨c, hc, hl⟩, hrep⟩ :=
    approvalLedger_of_reachable (reachable_run .trap .init sampleRun)
      (show (run .trap .init sampleRun).proposals ⟨⟨10⟩, ⟨20⟩⟩ =
        some (.new ⟨1⟩ ⟨10⟩ ⟨20⟩ "upgrade" 0 172800 2) by decide)
  obtain ⟨-, e, he, hcode⟩ := hrep ⟨1⟩ (by simp) 5
  cases (show some c = some ⟨[⟨1⟩, ⟨2⟩, ⟨3⟩], 2, ⟨1⟩⟩ by rw [← hc]; decide)
  exact ⟨hl, he.trans (by rw [hcode rfl (.inl rfl)])⟩

/-- A proposal created with a `new_program_buffer` argument other than the buffer account its
address is derived from: it names seeds its account is not at, so `approve_upgrade` on it
fails on the seeds constraint, for its proposer's repeated approval too. -/
def mismatchedSeedsRun : List Tx :=
  [⟨0, .initializeManager ⟨1⟩ [⟨1⟩, ⟨2⟩, ⟨3⟩] 2 172800⟩,
   ⟨0, .proposeUpgrade ⟨1⟩ ⟨10⟩ ⟨20⟩ ⟨21⟩ "upgrade"⟩]

theorem approve_repeat_constraintSeeds (o : Overflow) :
    ((run o .init mismatchedSeedsRun).proposals ⟨⟨10⟩, ⟨20⟩⟩).map (fun p => (p.status, p.approvals)) =
        some (.proposed, [⟨1⟩]) ∧
      step o (run o .init mismatchedSeedsRun) 0 (.approveUpgrade ⟨1⟩ ⟨⟨10⟩, ⟨20⟩⟩) =
        .error (.anchor .constraintSeeds) := by
  cases o <;> exact ⟨by decide, rfl⟩

end Repeat

/-! ### The lifecycle -/

/-- The status changes a successful instruction can make. -/
def lifecycleEdge : UpgradeStatus → UpgradeStatus → Bool
  | .proposed, .approved | .proposed, .timelockActive | .proposed, .cancelled => true
  | .approved, .approved | .approved, .timelockActive | .approved, .cancelled => true
  | .timelockActive, .executed | .timelockActive, .cancelled => true
  | _, _ => false

theorem lifecycleEdge_of_isTerminal {a b : UpgradeStatus} (h : a.isTerminal) :
    lifecycleEdge a b = false := by
  revert h
  cases a <;> cases b <;> decide

/-- How one successful instruction may change an existing proposal `p` into `p'`: along a
lifecycle edge, appending at most one approval, and keeping every field fixed at creation. -/
structure ProposalStep (p p' : UpgradeProposal) : Prop where
  edge : p' = p ∨ lifecycleEdge p.status p'.status
  approvals_prefix : p.approvals <+: p'.approvals
  approvals_length : p'.approvals.length ≤ p.approvals.length + 1
  proposer : p'.proposer = p.proposer
  program : p'.program = p.program
  newBuffer : p'.newBuffer = p.newBuffer
  description : p'.description = p.description
  proposedAt : p'.proposedAt = p.proposedAt
  approvalThreshold : p'.approvalThreshold = p.approvalThreshold

theorem ProposalStep.refl (p : UpgradeProposal) : ProposalStep p p :=
  ⟨.inl rfl, List.prefix_refl _, Nat.le_succ _, rfl, rfl, rfl, rfl, rfl, rfl⟩

/-- An executed or cancelled proposal has no lifecycle edge out, so a step leaves it as it is. -/
theorem ProposalStep.eq_of_isTerminal (h : ProposalStep p p') (ht : p.status.isTerminal) :
    p' = p :=
  h.edge.resolve_right (by simp [lifecycleEdge_of_isTerminal ht])

/-- What one successful instruction does to the accounts: each existing proposal takes a
`ProposalStep`, and neither singleton account changes once it exists. -/
structure LifecycleStep (s s' : State) : Prop where
  proposals : ∀ k p, s.proposals k = some p → ∃ p', s'.proposals k = some p' ∧ ProposalStep p p'
  multisigConfig : s.multisigConfig.isSome → s'.multisigConfig = s.multisigConfig
  programUpgradeState : s.programUpgradeState.isSome →
    s'.programUpgradeState = s.programUpgradeState

/-- Writing one proposal by a `ProposalStep` is a `LifecycleStep`. -/
theorem lifecycleStep_setProposal (hp : s.proposals key = some p) (hstep : ProposalStep p p') :
    LifecycleStep s (s.setProposal key p') where
  proposals k q hq := by
    by_cases hk : k = key
    · subst hk
      cases hp.symm.trans hq
      exact ⟨p', by simp, hstep⟩
    · exact ⟨q, by simp [hk, hq], .refl q⟩
  multisigConfig _ := rfl
  programUpgradeState _ := rfl

theorem approve_proposalStep {u : ProgramUpgradeState} {a : Pubkey}
    (h : p.approve o clock config u a = .ok p') : ProposalStep p p' := by
  obtain ⟨-, hs, -, hcase⟩ := UpgradeProposal.approve_eq_ok h
  rcases hcase with ⟨-, t, -, rfl⟩ | ⟨-, rfl⟩ <;>
    exact ⟨.inr (by rcases hs with hs | hs <;> rw [hs] <;> rfl), List.prefix_append _ _,
      by simp, rfl, rfl, rfl, rfl, rfl, rfl⟩

theorem execute_proposalStep (h : p.execute clock = .ok p') : ProposalStep p p' := by
  obtain ⟨-, -, hs, rfl⟩ := UpgradeProposal.execute_eq_ok.mp h
  exact ⟨.inr (by rw [hs]; rfl), List.prefix_refl _, Nat.le_succ _, rfl, rfl, rfl, rfl,
    rfl, rfl⟩

theorem cancel_proposalStep {a : Pubkey} (h : p.cancel config a = .ok p') : ProposalStep p p' := by
  obtain ⟨-, hs, rfl⟩ := UpgradeProposal.cancel_eq_ok.mp h
  refine ⟨?_, List.prefix_refl _, Nat.le_succ _, rfl, rfl, rfl, rfl, rfl, rfl⟩
  cases hp : p.status
  · exact .inr rfl
  · exact .inr rfl
  · exact .inr rfl
  · exact absurd hp hs
  · exact .inl (by cases p; simp_all)

theorem withProposal_lifecycleStep {handler : UpgradeProposal → Except ProgramError UpgradeProposal}
    (hh : ∀ p p', handler p = .ok p' → ProposalStep p p') (h : s.withProposal key handler = .ok s') :
    LifecycleStep s s' := by
  obtain ⟨p, p', hp, -, hr, -, rfl⟩ := State.withProposal_eq_ok.mp h
  exact lifecycleStep_setProposal hp (hh p p' hr)

/-- **The lifecycle step relation.**  From any state, a successful instruction moves each
proposal along a lifecycle edge, appending at most one approval, and changes neither the
configuration nor the upgrade state once they exist. -/
theorem lifecycleStep_of_step {ix : Instruction} (h : step o s clock ix = .ok s') :
    LifecycleStep s s' := by
  cases ix with
  | initializeManager =>
    obtain ⟨hc, hu, -, rfl⟩ := initializeManager_eq_ok.mp h
    exact ⟨fun k p hp => ⟨p, hp, .refl p⟩, by simp [hc], by simp [hu]⟩
  | proposeUpgrade _ program buffer =>
    obtain ⟨-, -, -, -, -, hk, -, -, -, rfl⟩ := proposeUpgrade_eq_ok.mp h
    refine ⟨fun k p hp => ⟨p, ?_, .refl p⟩, fun _ => rfl, fun _ => rfl⟩
    have : k ≠ ⟨program, buffer⟩ := fun e => by simp [e, hk] at hp
    simp [this, hp]
  | approveUpgrade =>
    obtain ⟨_, _, -, -, h⟩ := approveUpgrade_eq_ok.mp h
    exact withProposal_lifecycleStep (fun _ _ => approve_proposalStep) h
  | executeUpgrade =>
    exact withProposal_lifecycleStep (fun _ _ => execute_proposalStep) (executeUpgrade_eq_ok.mp h).2
  | cancelUpgrade =>
    obtain ⟨_, -, h⟩ := cancelUpgrade_eq_ok.mp h
    exact withProposal_lifecycleStep (fun _ _ => cancel_proposalStep) h
  | migrateAccount =>
    obtain ⟨-, -, -, -, rfl⟩ := migrateAccount_eq_ok.mp h
    exact ⟨fun k p hp => ⟨p, hp, .refl p⟩, fun _ => rfl, fun _ => rfl⟩

/-- Neither `approve_upgrade` nor `execute_upgrade` succeeds on an executed or cancelled
proposal. -/
theorem approve_execute_fail_of_isTerminal (hp : s.proposals key = some p)
    (ht : p.status.isTerminal) (a : Pubkey) :
    approveUpgrade o s clock a key ≠ .ok s' ∧ executeUpgrade s clock key ≠ .ok s' := by
  have hs : p.status ≠ .proposed ∧ p.status ≠ .approved ∧ p.status ≠ .timelockActive := by
    cases h : p.status <;> simp_all [UpgradeStatus.isTerminal]
  constructor
  · intro h
    obtain ⟨_, _, -, -, h⟩ := approveUpgrade_eq_ok.mp h
    obtain ⟨q, _, hq, -, hh, -⟩ := State.withProposal_eq_ok.mp h
    cases hp.symm.trans hq
    obtain ⟨-, hs', -⟩ := UpgradeProposal.approve_eq_ok hh
    exact hs'.elim hs.1 hs.2.1
  · intro h
    obtain ⟨q, _, hq, -, hh, -⟩ := State.withProposal_eq_ok.mp (executeUpgrade_eq_ok.mp h).2
    cases hp.symm.trans hq
    exact hs.2.2 (UpgradeProposal.execute_eq_ok.mp hh).2.2.1

/-- A run leaves an executed or cancelled proposal exactly as it was. -/
theorem run_terminal (hp : s.proposals key = some p) (ht : p.status.isTerminal) (txs : List Tx) :
    (run o s txs).proposals key = some p := by
  induction txs generalizing s with
  | nil => exact hp
  | cons tx txs ih =>
    apply ih
    unfold exec
    split
    · obtain ⟨p', hp', hstep⟩ := (lifecycleStep_of_step ‹_›).proposals key p hp
      rwa [hstep.eq_of_isTerminal ht] at hp'
    · exact hp

/-- **The lifecycle.**  From any state, a successful instruction moves each proposal along a
lifecycle edge, appends at most one approval, keeps the fields fixed at creation, and changes
neither singleton account once it exists; and once a proposal is executed or cancelled, every
later state of any run holds the same record, on which `approve_upgrade` and `execute_upgrade`
fail. -/
theorem proposal_lifecycle :
    (∀ s s' clock ix, step o s clock ix = .ok s' → LifecycleStep s s') ∧
    ∀ s key p, s.proposals key = some p → p.status.isTerminal → ∀ txs clock a s',
      (run o s txs).proposals key = some p ∧ approveUpgrade o (run o s txs) clock a key ≠ .ok s' ∧
        executeUpgrade (run o s txs) clock key ≠ .ok s' :=
  ⟨fun _ _ _ _ => lifecycleStep_of_step, fun _ _ _ hp ht txs _ a _ =>
    ⟨run_terminal hp ht txs, approve_execute_fail_of_isTerminal (run_terminal hp ht txs) ht a⟩⟩

end Chain

end UpgradeGovernance
