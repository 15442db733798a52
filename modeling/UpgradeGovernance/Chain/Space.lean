import UpgradeGovernance.Chain.Invariants

/-!
# Account space of proposals

`propose_upgrade` allocates `8 + UpgradeProposal::LEN` bytes for a proposal.  `LEN` budgets a
256-byte description and ten approvals, and an instruction that writes back a record longer than
the account fails with `AccountDidNotSerialize`.  The invariant of `Chain.Invariants` bounds the
approvals by the configuration, which has at most ten members; nothing bounds the description.

## Main results

* `ApprovalLedger.length_le` — a proposal holds at most as many approvals as there are members.
* `ApprovalLedger.fits` — a proposal with a description of at most 256 bytes fits,
  whatever its approvals and execution time.
* `write_back_of_short_description` — then every `approve_upgrade` and `execute_upgrade` that
  passes its guards also writes its record back.
* `approve_accountDidNotSerialize` — a longer description makes an approval that passes every
  guard fail for space.
-/

namespace UpgradeGovernance

namespace Chain

variable {o : Overflow} {s : State} {clock : I64} {key : ProposalKey} {p p' : UpgradeProposal}
  {config : MultisigConfig} {u : ProgramUpgradeState} {a : Pubkey}

/-! ### Records that fit -/

/-- Distinct member approvals are at most as many as the members. -/
theorem ApprovalLedger.length_le (hl : ApprovalLedger config p) :
    p.approvals.length ≤ config.members.length :=
  (List.subperm_of_subset hl.nodup hl.members).length_le

/-- Under a configuration that fits, a proposal whose description takes at most the 256 bytes
`UpgradeProposal::LEN` budgets fits its account, executed or not. -/
theorem ApprovalLedger.fits (hl : ApprovalLedger config p) (hc : config.fits)
    (hd : p.description.utf8ByteSize ≤ 256) : p.fits := by
  have hlen := hl.length_le.trans ((MultisigConfig.fits_iff config).mp hc)
  rw [UpgradeProposal.fits_iff]
  split <;> omega

theorem UpgradeProposal.approve_description (h : p.approve o clock config u a = .ok p') :
    p'.description = p.description := by
  obtain ⟨-, -, -, ⟨-, -, -, rfl⟩ | ⟨-, rfl⟩⟩ := UpgradeProposal.approve_eq_ok h <;> rfl

/-! ### Write-back of guarded instructions -/

section WriteBack

variable (hs : Reachable o s) (hp : s.proposals key = some p) (hk : p.seeds = key)
  (hd : p.description.utf8ByteSize ≤ 256)
include hs hp hk hd

/-- An approval that passes the guards of `approve_upgrade` on a short-described proposal
writes its record. -/
theorem approveUpgrade_of_guards (hc : s.multisigConfig = some config)
    (hu : s.programUpgradeState = some u) (h : p.approve o clock config u a = .ok p') :
    approveUpgrade o s clock a key = .ok (s.setProposal key p') := by
  have hi := inv_of_reachable hs
  obtain ⟨c, hc', hl⟩ := hi.ledger key p hp
  cases hc.symm.trans hc'
  have hl' := (approve_keeps hl (hi.coherent key p hp) h).1
  have hfits := hl'.fits (hi.configFits config hc) (UpgradeProposal.approve_description h ▸ hd)
  exact approveUpgrade_eq_ok.mpr
    ⟨config, u, hc, hu, State.withProposal_eq_ok.mpr ⟨p, p', hp, hk, h, hfits, rfl⟩⟩

/-- An execution that passes the guards of `execute_upgrade` on a short-described proposal
writes its record. -/
theorem executeUpgrade_of_guards (hu : s.programUpgradeState.isSome)
    (h : p.execute clock = .ok p') : executeUpgrade s clock key = .ok (s.setProposal key p') := by
  have hi := inv_of_reachable hs
  obtain ⟨c, hc, hl⟩ := hi.ledger key p hp
  obtain ⟨-, -, -, rfl⟩ := UpgradeProposal.execute_eq_ok.mp h
  have hl' : ApprovalLedger c { p with status := .executed, executedAt := some clock } :=
    hl.of_status rfl rfl rfl
  have hfits := hl'.fits (hi.configFits c hc) hd
  exact executeUpgrade_eq_ok.mpr ⟨hu, State.withProposal_eq_ok.mpr ⟨p, _, hp, hk, h, hfits, rfl⟩⟩

/-- **No write-back failure for short descriptions.**  In every reachable state, on a proposal
whose description takes at most 256 bytes, every `approve_upgrade` and every `execute_upgrade`
whose guards pass succeeds and writes the handler's record. -/
theorem write_back_of_short_description :
    (∀ config u a p', s.multisigConfig = some config → s.programUpgradeState = some u →
      p.approve o clock config u a = .ok p' →
        approveUpgrade o s clock a key = .ok (s.setProposal key p')) ∧
    ∀ p', s.programUpgradeState.isSome → p.execute clock = .ok p' →
      executeUpgrade s clock key = .ok (s.setProposal key p') :=
  ⟨fun _ _ _ _ hc hu h => approveUpgrade_of_guards hs hp hk hd hc hu h,
    fun _ hu h => executeUpgrade_of_guards hs hp hk hd hu h⟩

end WriteBack

theorem write_back_of_short_description_sampleRun :
    approveUpgrade .trap (run .trap .init sampleRun) 0 ⟨2⟩ ⟨⟨10⟩, ⟨20⟩⟩ =
      .ok ((run .trap .init sampleRun).setProposal ⟨⟨10⟩, ⟨20⟩⟩
        { UpgradeProposal.new ⟨1⟩ ⟨10⟩ ⟨20⟩ "upgrade" 0 172800 2 with
          approvals := [⟨1⟩, ⟨2⟩], status := .timelockActive, timelockUntil := 172800 }) :=
  (write_back_of_short_description (reachable_run .trap .init sampleRun)
    (p := .new ⟨1⟩ ⟨10⟩ ⟨20⟩ "upgrade" 0 172800 2) (by decide) rfl (by decide)).1
    ⟨[⟨1⟩, ⟨2⟩, ⟨3⟩], 2, ⟨1⟩⟩ ⟨⟨1⟩, 172800⟩ ⟨2⟩ _ (by decide) (by decide) rfl

/-! ### A description longer than the budget -/

/-- A description of 500 bytes, which `propose_upgrade` accepts. -/
def longDescription : String := ⟨List.replicate 500 'x'⟩

/-- A three-member configuration with threshold three, a proposal with `longDescription`, and
the second member's approval. -/
def longDescriptionRun : List Tx :=
  [⟨0, .initializeManager ⟨1⟩ [⟨1⟩, ⟨2⟩, ⟨3⟩] 3 0⟩,
   ⟨0, .proposeUpgrade ⟨1⟩ ⟨10⟩ ⟨20⟩ ⟨20⟩ longDescription⟩,
   ⟨0, .approveUpgrade ⟨2⟩ ⟨⟨10⟩, ⟨20⟩⟩⟩]

set_option maxRecDepth 4000 in
/-- After `longDescriptionRun`, the third member's approval passes every guard of
`approve_upgrade`, but the record it would write, approved by all three members, takes more
than the account holds, so the approval fails and the proposal can never reach its
threshold. -/
theorem approve_accountDidNotSerialize (o : Overflow) :
    (run o .init longDescriptionRun).proposals ⟨⟨10⟩, ⟨20⟩⟩ =
        some { UpgradeProposal.new ⟨1⟩ ⟨10⟩ ⟨20⟩ longDescription 0 0 3 with
          approvals := [⟨1⟩, ⟨2⟩], status := .approved } ∧
      UpgradeProposal.approve o 0 ⟨[⟨1⟩, ⟨2⟩, ⟨3⟩], 3, ⟨1⟩⟩ ⟨⟨1⟩, 0⟩ ⟨3⟩
          { UpgradeProposal.new ⟨1⟩ ⟨10⟩ ⟨20⟩ longDescription 0 0 3 with
            approvals := [⟨1⟩, ⟨2⟩], status := .approved } =
        .ok { UpgradeProposal.new ⟨1⟩ ⟨10⟩ ⟨20⟩ longDescription 0 0 3 with
          approvals := [⟨1⟩, ⟨2⟩, ⟨3⟩], status := .timelockActive } ∧
      UpgradeProposal.fits { UpgradeProposal.new ⟨1⟩ ⟨10⟩ ⟨20⟩ longDescription 0 0 3 with
          approvals := [⟨1⟩, ⟨2⟩, ⟨3⟩], status := .timelockActive } = false ∧
      approveUpgrade o (run o .init longDescriptionRun) 0 ⟨3⟩ ⟨⟨10⟩, ⟨20⟩⟩ =
        .error (.anchor .accountDidNotSerialize) := by
  cases o <;> exact ⟨rfl, rfl, rfl, rfl⟩

end Chain

end UpgradeGovernance
