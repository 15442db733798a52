import UpgradeGovernance.Chain.Invariants

/-!
# Execution safety of the upgrade manager

What a run of transactions guarantees when `execute_upgrade` succeeds: the proposal carries its
threshold of distinct member approvals, an earlier `approve_upgrade` started its timelock, the
clock is past `clock + timelock_duration` of that approval as the build computes it, and no
other `execute_upgrade` on the proposal succeeds.  The state invariant of `Chain.Invariants`
gives the approvals; the timelock needs the run itself, through `timelock_history`.

The deadline is an `i64` sum.  When overflow traps, the sum is exact
(`execute_safety_of_trap`); when it wraps, a long enough `timelock_duration` wraps the deadline
into the past and the upgrade executes at once (`execute_before_deadline_of_wrap`).  Nothing in
`initialize` bounds the configuration it stores (`weakConfigRun`).

## Main definitions

* `ReachedThreshold` — the approval at a position of a run started the timelock.
* `SafeExecution` — what a successful `execute_upgrade` guarantees when overflow traps.
* `wrapRun`, `weakConfigRun` — runs that execute an upgrade before any delay has passed.

## Main results

* `proposal_after_step` — where the proposal at an address after a step came from.
* `timelock_history` — every `TimelockActive` or `Executed` proposal owes its deadline to an
  earlier approval.
* `execute_once` — `execute_upgrade` succeeds at most once per proposal in any run.
* `execute_safety` — what a successful `execute_upgrade` finds, for either overflow behaviour.
* `execute_safety_of_trap` — every successful `execute_upgrade` is a `SafeExecution`.
* `execute_before_deadline_of_wrap` — with wrapping arithmetic, an upgrade executes at the clock
  of its threshold approval.
* `executed_quorum` — an executed proposal holds at least two, and at least the threshold, of
  distinct member approvals.
-/

namespace UpgradeGovernance

namespace Chain

variable {o : Overflow} {s s' : State} {clock : I64} {key : ProposalKey} {p : UpgradeProposal}

theorem run_take_succ (s : State) (txs : List Tx) (n : Nat) :
    run o s (txs.take (n + 1)) =
      match txs[n]? with
      | some tx => exec o (run o s (txs.take n)) tx
      | none => run o s (txs.take n) := by
  rw [List.take_succ, run_append]
  cases txs[n]? <;> rfl

/-- A transaction of a run either changes nothing (there is none, or it failed) or is a
successful step. -/
theorem run_take_succ_cases (s : State) (txs : List Tx) (n : Nat) :
    run o s (txs.take (n + 1)) = run o s (txs.take n) ∨
      ∃ tx s', txs[n]? = some tx ∧ step o (run o s (txs.take n)) tx.clock tx.ix = .ok s' ∧
        run o s (txs.take (n + 1)) = s' := by
  rw [run_take_succ]
  cases txs[n]? with
  | none => exact .inl rfl
  | some tx =>
    cases h : step o (run o s (txs.take n)) tx.clock tx.ix with
    | error e => exact .inl (exec_of_error h)
    | ok s' => exact .inr ⟨tx, s', rfl, h, by simp [exec, h]⟩

theorem proposals_setProposal_eq_some {key' : ProposalKey} {q : UpgradeProposal}
    (h : (s.setProposal key' q).proposals key = some p) :
    (key = key' ∧ q = p) ∨ s.proposals key = some p := by
  rw [State.setProposal_proposals] at h
  split at h
  · exact .inl ⟨‹_›, Option.some.inj h⟩
  · exact .inr h

/-- Where the proposal at `key` after a successful instruction came from: it was there already,
it was just proposed, or one of the three proposal handlers wrote it. -/
theorem proposal_after_step {ix : Instruction} (h : step o s clock ix = .ok s')
    (hk : s'.proposals key = some p) :
    s.proposals key = some p ∨ (s.proposals key = none ∧ p.status = .proposed) ∨
      ∃ p₀, s.proposals key = some p₀ ∧
        ((∃ a config u, ix = .approveUpgrade a key ∧ s.programUpgradeState = some u ∧
            p₀.approve o clock config u a = .ok p) ∨
          (∃ e, ix = .executeUpgrade e key ∧ p₀.execute clock = .ok p) ∨
          (∃ c config, ix = .cancelUpgrade c key ∧ p₀.cancel config c = .ok p)) := by
  cases ix with
  | initializeManager =>
    obtain ⟨-, -, -, rfl⟩ := initializeManager_eq_ok.mp h
    exact .inl hk
  | proposeUpgrade =>
    obtain ⟨_, _, _, _, _, hnew, _, _, _, rfl⟩ := proposeUpgrade_eq_ok.mp h
    rcases proposals_setProposal_eq_some hk with ⟨rfl, rfl⟩ | hk
    · exact .inr (.inl ⟨hnew, rfl⟩)
    · exact .inl hk
  | approveUpgrade a key' =>
    obtain ⟨config, u, -, hu, h⟩ := approveUpgrade_eq_ok.mp h
    obtain ⟨q, q', hq, -, hh, -, rfl⟩ := State.withProposal_eq_ok.mp h
    rcases proposals_setProposal_eq_some hk with ⟨rfl, rfl⟩ | hk
    · exact .inr (.inr ⟨q, hq, .inl ⟨a, config, u, rfl, hu, hh⟩⟩)
    · exact .inl hk
  | executeUpgrade e key' =>
    obtain ⟨q, q', hq, -, hh, -, rfl⟩ := State.withProposal_eq_ok.mp (executeUpgrade_eq_ok.mp h).2
    rcases proposals_setProposal_eq_some hk with ⟨rfl, rfl⟩ | hk
    · exact .inr (.inr ⟨q, hq, .inr (.inl ⟨e, rfl, hh⟩)⟩)
    · exact .inl hk
  | cancelUpgrade c key' =>
    obtain ⟨config, _, h⟩ := cancelUpgrade_eq_ok.mp h
    obtain ⟨q, q', hq, _, hh, _, rfl⟩ := State.withProposal_eq_ok.mp h
    rcases proposals_setProposal_eq_some hk with ⟨rfl, rfl⟩ | hk
    · exact .inr (.inr ⟨q, hq, .inr (.inr ⟨c, config, rfl, hh⟩)⟩)
    · exact .inl hk
  | migrateAccount =>
    obtain ⟨_, _, _, _, rfl⟩ := migrateAccount_eq_ok.mp h
    exact .inl hk

/-! ### The timelock of a run -/

variable (o) in
/-- The transaction at position `j` of `txs` is an `approve_upgrade` on `key` that succeeded and
left the proposal `TimelockActive`, with its approvals at the threshold. -/
def ReachedThreshold (txs : List Tx) (j : Nat) (key : ProposalKey) : Prop :=
  ∃ tx a s' p, txs[j]? = some tx ∧ tx.ix = .approveUpgrade a key ∧
    step o (run o .init (txs.take j)) tx.clock tx.ix = .ok s' ∧ s'.proposals key = some p ∧
    p.status = .timelockActive ∧ p.approvalThreshold.toNat ≤ p.approvals.length

/-- The upgrade state a step starts from is the one it ends in. -/
theorem programUpgradeState_step {ix : Instruction} {u : ProgramUpgradeState}
    (h : step o s clock ix = .ok s') (hu : s.programUpgradeState = some u) :
    s'.programUpgradeState = some u :=
  ((lifecycleStep_of_step h).programUpgradeState (by simp [hu])).trans hu

/-- **The timelock's history.**  In every run from no accounts, a `TimelockActive` or `Executed`
proposal got its deadline from an earlier successful approval on it that reached the threshold:
the deadline is that approval's clock plus `timelock_duration`, as the build adds them. -/
theorem timelock_history (txs : List Tx) (n : Nat)
    (hp : (run o .init (txs.take n)).proposals key = some p)
    (hs : p.status = .timelockActive ∨ p.status = .executed) :
    ∃ j < n, ∃ tx u, ReachedThreshold o txs j key ∧ txs[j]? = some tx ∧
      (run o .init (txs.take n)).programUpgradeState = some u ∧
      I64.add? o tx.clock u.timelockDuration = some p.timelockUntil := by
  induction n generalizing p with
  | zero => simp [run, State.init] at hp
  | succ n ih =>
    rcases run_take_succ_cases .init txs n with hrun | ⟨tx, s', htx, hstep, hrun⟩
    · rw [hrun] at hp ⊢
      obtain ⟨j, hj, h⟩ := ih hp hs
      exact ⟨j, by omega, h⟩
    rw [hrun] at hp ⊢
    rcases proposal_after_step hstep hp with hp₀ | ⟨-, hnew⟩ | ⟨p₀, hp₀, hcase⟩
    · obtain ⟨j, hj, tx', u, hr, htx', hu, hadd⟩ := ih hp₀ hs
      exact ⟨j, by omega, tx', u, hr, htx', programUpgradeState_step hstep hu, hadd⟩
    · rcases hs with hs | hs <;> simp [hs] at hnew
    rcases hcase with ⟨a, config, u, hix, hu, hh⟩ | ⟨e, -, hh⟩ | ⟨c, config, -, hh⟩
    · obtain ⟨-, -, -, ⟨hthr, t, hadd, rfl⟩ | ⟨-, rfl⟩⟩ := UpgradeProposal.approve_eq_ok hh
      · refine ⟨n, by omega, tx, u, ⟨tx, a, s', _, htx, hix, hstep, hp, rfl, ?_⟩, htx,
          programUpgradeState_step hstep hu, hadd⟩
        simpa using hthr
      · rcases hs with hs | hs <;> cases hs
    · obtain ⟨-, -, hst, rfl⟩ := UpgradeProposal.execute_eq_ok.mp hh
      obtain ⟨j, hj, tx', u, hr, htx', hu, hadd⟩ := ih hp₀ (.inl hst)
      exact ⟨j, by omega, tx', u, hr, htx', programUpgradeState_step hstep hu, hadd⟩
    · obtain ⟨-, -, rfl⟩ := UpgradeProposal.cancel_eq_ok.mp hh
      rcases hs with hs | hs <;> cases hs

/-! ### At most one execution -/

/-- A successful `execute_upgrade` leaves the proposal `Executed`. -/
theorem executed_after_execute {e : Pubkey} (h : step o s clock (.executeUpgrade e key) = .ok s') :
    ∃ p, s'.proposals key = some p ∧ p.status = .executed := by
  obtain ⟨q, q', -, -, hh, -, rfl⟩ := State.withProposal_eq_ok.mp (executeUpgrade_eq_ok.mp h).2
  obtain ⟨-, -, -, rfl⟩ := UpgradeProposal.execute_eq_ok.mp hh
  exact ⟨{ q with status := .executed, executedAt := some clock }, by simp, rfl⟩

/-- No `execute_upgrade` on a proposal succeeds after one already has. -/
theorem execute_not_after (txs : List Tx) {i i' : Nat} (hlt : i < i') {tx tx' : Tx}
    {e e' : Pubkey} {s₁ s₂ : State} (hi : txs[i]? = some tx) (hix : tx.ix = .executeUpgrade e key)
    (hok : step o (run o .init (txs.take i)) tx.clock tx.ix = .ok s₁)
    (hix' : tx'.ix = .executeUpgrade e' key)
    (hok' : step o (run o .init (txs.take i')) tx'.clock tx'.ix = .ok s₂) : False := by
  rw [hix] at hok
  rw [hix'] at hok'
  obtain ⟨p, hp, hst⟩ := executed_after_execute hok
  have hrun : run o .init (txs.take (i + 1)) = s₁ := by
    rw [run_take_succ, hi]
    simp [exec, hix, hok]
  have hsplit : txs.take i' = txs.take (i + 1) ++ (txs.drop (i + 1)).take (i' - (i + 1)) := by
    rw [← List.take_add]
    congr 1
    omega
  rw [hsplit, run_append, hrun] at hok'
  have hterm := run_terminal (o := o) hp (by simp [hst, UpgradeStatus.isTerminal])
    ((txs.drop (i + 1)).take (i' - (i + 1)))
  exact (approve_execute_fail_of_isTerminal (o := o) hterm
    (by simp [hst, UpgradeStatus.isTerminal]) e').2 hok'

/-- **At most one execution.**  In any run, two successful `execute_upgrade`s on the same
proposal are the same transaction. -/
theorem execute_once (txs : List Tx) {i i' : Nat} {tx tx' : Tx} {e e' : Pubkey} {s₁ s₂ : State}
    (hi : txs[i]? = some tx) (hix : tx.ix = .executeUpgrade e key)
    (hok : step o (run o .init (txs.take i)) tx.clock tx.ix = .ok s₁)
    (hi' : txs[i']? = some tx') (hix' : tx'.ix = .executeUpgrade e' key)
    (hok' : step o (run o .init (txs.take i')) tx'.clock tx'.ix = .ok s₂) : i' = i := by
  rcases lt_trichotomy i i' with h | h | h
  · exact (execute_not_after txs h hi hix hok hix' hok').elim
  · exact h.symm
  · exact (execute_not_after txs h hi' hix' hok' hix hok).elim

/-! ### What a successful execution finds -/

/-- **Execution safety.**  In every run from no accounts, under either overflow behaviour, an
`execute_upgrade` that succeeds on `key` finds there a proposal holding at least its threshold
of distinct members' approvals, with its deadline passed; and that deadline is the clock of an
earlier approval which reached the threshold, plus `timelock_duration`, as the build adds them. -/
theorem execute_safety (txs : List Tx) (i : Nat) {tx : Tx} {e : Pubkey}
    (hix : tx.ix = .executeUpgrade e key)
    (hok : step o (run o .init (txs.take i)) tx.clock tx.ix = .ok s') :
    ∃ p config u, (run o .init (txs.take i)).proposals key = some p ∧
      (run o .init (txs.take i)).multisigConfig = some config ∧
      (run o .init (txs.take i)).programUpgradeState = some u ∧
      p.approvals.Nodup ∧ (∀ a ∈ p.approvals, a ∈ config.members) ∧
      p.approvalThreshold.toNat ≤ p.approvals.length ∧ p.timelockUntil ≤ tx.clock ∧
      ∃ j < i, ∃ txj, ReachedThreshold o txs j key ∧ txs[j]? = some txj ∧
        I64.add? o txj.clock u.timelockDuration = some p.timelockUntil := by
  rw [hix] at hok
  obtain ⟨q, q', hq, -, hh, -, -⟩ := State.withProposal_eq_ok.mp (executeUpgrade_eq_ok.mp hok).2
  obtain ⟨hle, hthr, hst, -⟩ := UpgradeProposal.execute_eq_ok.mp hh
  obtain ⟨config, hc, hl⟩ :=
    (inv_of_reachable (reachable_run o .init (txs.take i))).ledger key q hq
  obtain ⟨j, hj, txj, u, hr, htxj, hu, hadd⟩ := timelock_history txs i hq (.inl hst)
  exact ⟨q, config, u, hq, hc, hu, hl.nodup, hl.members, hthr, hle, j, hj, txj, hr, htxj, hadd⟩

/-- The guarantee of a successful `execute_upgrade` at position `i` of `txs`, on `key`, when
overflow traps: the proposal holds at least its threshold of distinct members' approvals; an
earlier approval at clock `q` reached the threshold, and `q + timelock_duration ≤ tx.clock` over
the integers; and no other `execute_upgrade` on `key` in the run succeeds. -/
def SafeExecution (txs : List Tx) (i : Nat) (tx : Tx) (key : ProposalKey) : Prop :=
  ∃ p config u, (run .trap .init (txs.take i)).proposals key = some p ∧
    (run .trap .init (txs.take i)).multisigConfig = some config ∧
    (run .trap .init (txs.take i)).programUpgradeState = some u ∧
    p.approvals.Nodup ∧ (∀ a ∈ p.approvals, a ∈ config.members) ∧
    p.approvalThreshold.toNat ≤ p.approvals.length ∧
    (∃ j < i, ∃ txj, ReachedThreshold .trap txs j key ∧ txs[j]? = some txj ∧
      txj.clock.val + u.timelockDuration.val ≤ tx.clock.val) ∧
    ∀ i' tx' e' s'', txs[i']? = some tx' → tx'.ix = .executeUpgrade e' key →
      step .trap (run .trap .init (txs.take i')) tx'.clock tx'.ix = .ok s'' → i' = i

/-- **Execution safety when overflow traps.**  Every successful `execute_upgrade` of a run is a
`SafeExecution`: the deadline is exact, so the clock is past the threshold approval's clock plus
`timelock_duration` over the integers. -/
theorem execute_safety_of_trap (txs : List Tx) (i : Nat) {tx : Tx} {e : Pubkey}
    (hi : txs[i]? = some tx) (hix : tx.ix = .executeUpgrade e key)
    (hok : step .trap (run .trap .init (txs.take i)) tx.clock tx.ix = .ok s') :
    SafeExecution txs i tx key := by
  obtain ⟨p, config, u, hp, hc, hu, hnd, hm, hthr, hle, j, hj, txj, hr, htxj, hadd⟩ :=
    execute_safety txs i hix hok
  refine ⟨p, config, u, hp, hc, hu, hnd, hm, hthr, ⟨j, hj, txj, hr, htxj, ?_⟩,
    fun i' tx' e' s'' hi' hix' hok' => execute_once txs hi hix hok hi' hix' hok'⟩
  rw [← I64.add?_trap_val hadd]
  exact hle

/-- A run in which a three-member configuration with threshold two and a 48-hour timelock
executes a proposal 48 hours after its second approval. -/
def quorumRun : List Tx :=
  sampleRun ++ [⟨0, .approveUpgrade ⟨2⟩ ⟨⟨10⟩, ⟨20⟩⟩⟩, ⟨172800, .executeUpgrade ⟨3⟩ ⟨⟨10⟩, ⟨20⟩⟩⟩]

theorem safeExecution_quorumRun :
    SafeExecution quorumRun 3 ⟨172800, .executeUpgrade ⟨3⟩ ⟨⟨10⟩, ⟨20⟩⟩⟩ ⟨⟨10⟩, ⟨20⟩⟩ :=
  execute_safety_of_trap quorumRun 3 rfl rfl
    (show _ = Except.ok (run .trap .init quorumRun) from rfl)

/-! ### Wrapped deadlines and unchecked configurations -/

/-- A run whose `timelock_duration` is `i64::MAX`: with wrapping arithmetic the deadline
`clock + timelock_duration` of the threshold approval wraps to `i64::MIN`. -/
def wrapRun : List Tx :=
  [⟨0, .initializeManager ⟨1⟩ [⟨1⟩, ⟨2⟩, ⟨3⟩] 2 I64.MAX⟩,
   ⟨1, .proposeUpgrade ⟨1⟩ ⟨10⟩ ⟨20⟩ ⟨20⟩ "upgrade"⟩,
   ⟨1, .approveUpgrade ⟨2⟩ ⟨⟨10⟩, ⟨20⟩⟩⟩,
   ⟨1, .executeUpgrade ⟨3⟩ ⟨⟨10⟩, ⟨20⟩⟩⟩]

/-- With wrapping arithmetic the upgrade of `wrapRun` executes at clock 1, the clock of its only
approval, although every earlier clock plus `timelock_duration` exceeds 1 over the integers. -/
theorem execute_before_deadline_of_wrap :
    (∃ s', step .wrap (run .wrap .init (wrapRun.take 3)) 1
        (.executeUpgrade ⟨3⟩ ⟨⟨10⟩, ⟨20⟩⟩) = .ok s') ∧
      ReachedThreshold .wrap wrapRun 2 ⟨⟨10⟩, ⟨20⟩⟩ ∧
      (run .wrap .init wrapRun).programUpgradeState.map (·.timelockDuration) = some I64.MAX ∧
      ∀ txj ∈ wrapRun.take 3, (1 : I64).val < txj.clock.val + I64.MAX.val :=
  ⟨⟨_, rfl⟩, ⟨_, ⟨2⟩, _, _, rfl, rfl, rfl, rfl, rfl, by decide⟩, by decide, by decide⟩

/-- A five-member configuration with threshold two and no timelock, which `initialize` stores
as given; under it a proposal executes with two approvals, at the clock of the second. -/
def weakConfigRun : List Tx :=
  [⟨0, .initializeManager ⟨1⟩ [⟨1⟩, ⟨2⟩, ⟨3⟩, ⟨4⟩, ⟨5⟩] 2 0⟩,
   ⟨0, .proposeUpgrade ⟨1⟩ ⟨10⟩ ⟨20⟩ ⟨20⟩ "upgrade"⟩,
   ⟨0, .approveUpgrade ⟨2⟩ ⟨⟨10⟩, ⟨20⟩⟩⟩,
   ⟨0, .executeUpgrade ⟨3⟩ ⟨⟨10⟩, ⟨20⟩⟩⟩]

/-- `weakConfigRun` reaches a configuration of five members with threshold two, below half of
them, and executes a proposal on two approvals. -/
theorem weakConfig_executes_two_of_five (o : Overflow) :
    (run o .init weakConfigRun).multisigConfig.map (fun c => (c.members.length, c.threshold)) =
        some (5, 2) ∧
      ((run o .init weakConfigRun).proposals ⟨⟨10⟩, ⟨20⟩⟩).map
        (fun p => (p.status, p.approvals.length)) = some (.executed, 2) := by
  cases o <;> exact ⟨by decide, by decide⟩

/-- `weakConfigRun` reaches a `timelock_duration` of zero, and executes its proposal at clock 0,
the clock of the approval that reached the threshold. -/
theorem weakConfig_executes_without_delay (o : Overflow) :
    (run o .init weakConfigRun).programUpgradeState.map (·.timelockDuration.val) = some 0 ∧
      ReachedThreshold o weakConfigRun 2 ⟨⟨10⟩, ⟨20⟩⟩ ∧
      ∃ s', step o (run o .init (weakConfigRun.take 3)) 0 (.executeUpgrade ⟨3⟩ ⟨⟨10⟩, ⟨20⟩⟩) =
        .ok s' := by
  cases o <;>
    exact ⟨by decide, ⟨_, ⟨2⟩, _, _, rfl, rfl, rfl, rfl, rfl, by decide⟩, _, rfl⟩

/-- **Executed proposals carry their quorum.**  In every reachable state an executed proposal
holds distinct approvals of configuration members, at least two and at least the
configuration's threshold. -/
theorem executed_quorum (hs : Reachable o s) (hp : s.proposals key = some p)
    (hex : p.status = .executed) :
    ∃ config, s.multisigConfig = some config ∧ p.approvals.Nodup ∧
      (∀ a ∈ p.approvals, a ∈ config.members) ∧
      max 2 config.threshold.toNat ≤ p.approvals.length := by
  have hi := inv_of_reachable hs
  obtain ⟨config, hc, hl⟩ := hi.ledger key p hp
  obtain ⟨hthr, h2⟩ := (hi.coherent key p hp).executed hex
  exact ⟨config, hc, hl.nodup, hl.members, max_le h2 (hl.threshold ▸ hthr)⟩

theorem executed_quorum_weakConfigRun :
    ∃ config, (run .trap .init weakConfigRun).multisigConfig = some config ∧
      max 2 config.threshold.toNat ≤ 2 := by
  obtain ⟨config, hc, -, -, hle⟩ := executed_quorum (reachable_run .trap .init weakConfigRun)
    (show (run .trap .init weakConfigRun).proposals ⟨⟨10⟩, ⟨20⟩⟩ =
      some { (UpgradeProposal.new ⟨1⟩ ⟨10⟩ ⟨20⟩ "upgrade" 0 0 2) with
        approvals := [⟨1⟩, ⟨2⟩], status := .executed, executedAt := some 0 } by decide) rfl
  exact ⟨config, hc, hle⟩

end Chain

end UpgradeGovernance
