import UpgradeGovernance.Backend.Service
import Mathlib.Data.List.Lemmas

/-!
# What the upgrade service does

`execute_upgrade` and `cancel_upgrade` check everything before they write, so a failed call
leaves the service as it was (`execute_cancel_atomic`).  The rest of this module follows the
service from its start.  No route writes the timelock table, so every `execute_upgrade` fails
at `wait_for_timelock`, and the `propose` route records its proposal and then answers
`ProposalNotFound`.  The proposal record and the multisig proposal of one `propose_upgrade`
get different identifiers, so the `approve` route, called with the identifier the service hands
out, finds nothing to approve.

## Main definitions

* `AppState.afterPropose` — the state `propose_upgrade` leaves.
* `ServiceInv` — the invariant of every reachable state.

## Main results

* `execute_cancel_atomic` — failed executions and cancellations write nothing; a successful
  execution marks the record and its multisig proposal executed and changes nothing else.
* `serviceInv_of_reachable` — the timelock table stays empty, no record is ever approved, and
  records and multisig proposals never share an identifier.
* `propose_route_fails_of_reachable`, `execute_route_fails_of_reachable`,
  `approve_route_fails_of_reachable` — what the routes answer in every reachable state.
-/

namespace UpgradeGovernance

namespace Backend

open ProposalManager

variable {s s' : AppState} {now : Int} {proposalId : String}

/-! ### One spec lemma per method -/

/-- The state `propose_upgrade` leaves: a pending multisig proposal `b` after the coordinator's
others, and the record `a` after the manager's. -/
def AppState.afterPropose (s : AppState) (now : Int) (a b newProgramBuffer description : String) :
    AppState :=
  { s with
    proposals := s.proposals ++ [newProposal now a newProgramBuffer description]
    multisigCoordinator := { s.multisigCoordinator with
      proposals := s.multisigCoordinator.proposals ++
        [⟨b, [], description, 48 * 60 * 60, [], s.multisigCoordinator.threshold, .pending⟩] } }

theorem ProposalManager.proposeUpgrade_apply (a b newProgramBuffer description : String) :
    proposeUpgrade now a b newProgramBuffer description s =
      .ok a (s.afterPropose now a b newProgramBuffer description) := rfl

theorem waitForTimelock_apply :
    waitForTimelock now proposalId s =
      match s.timelockManager.timelocks proposalId with
      | none => .error (.proposalNotFound proposalId) s
      | some e => if now < e then .error (.timelockActive (e - now)) s else .ok () s := by
  simp only [waitForTimelock, AppState.timelock, bind_apply, focus, TimelockManager.getTimelockEnd_apply]
  cases s.timelockManager.timelocks proposalId with
  | none => rfl
  | some e => by_cases h : now < e <;> simp [h, require]

theorem waitForTimelock_readOnly : ReadOnly (waitForTimelock now proposalId) :=
  ReadOnly.bind ((TimelockManager.getTimelockEnd_readOnly proposalId).focus fun _ => rfl) fun _ =>
    readOnly_require _ _

/-- `wait_for_timelock` passes once the deadline the timelock manager holds has come. -/
theorem waitForTimelock_eq_ok {u : Unit} (h : waitForTimelock now proposalId s = .ok u s') :
    ∃ e, s.timelockManager.timelocks proposalId = some e ∧ e ≤ now ∧ s' = s := by
  rw [waitForTimelock_apply] at h
  split at h
  next => cases h
  next e he =>
    split at h
    · cases h
    · cases h; exact ⟨e, he, by omega, rfl⟩

/-- A failed execution writes nothing: every check comes before the multisig coordinator's
write, and what follows that write cannot fail. -/
theorem executeUpgrade_atomic : Atomic (executeUpgrade now proposalId) :=
  Atomic.bind_readOnly readOnly_get fun _ => Atomic.bind_readOnly (readOnly_okOr _ _) fun _ =>
    Atomic.bind_readOnly (readOnly_require _ _) fun _ =>
    Atomic.bind_readOnly (readOnly_require _ _) fun _ =>
    Atomic.bind_readOnly waitForTimelock_readOnly fun _ =>
    Atomic.bind_readOnly (readOnly_require _ _) fun _ =>
    Atomic.bind_total ((MultisigCoordinator.executeTransaction_atomic proposalId).focus fun _ => rfl)
      fun _ => Total.bind (total_pure ()) fun _ => Total.bind (total_modify _) fun _ => total_pure ()

theorem cancelUpgrade_atomic : Atomic (cancelUpgrade proposalId) :=
  Atomic.bind_readOnly readOnly_get fun _ => Atomic.bind_readOnly (readOnly_okOr _ _) fun _ =>
    Atomic.bind_total (readOnly_require _ _).atomic fun _ => total_modify _

/-- A successful execution found the record, unexecuted and uncancelled, its deadline passed,
its approvals at the threshold, and an approved multisig proposal of the same identifier; it
marks both executed. -/
theorem executeUpgrade_eq_ok :
    executeUpgrade now proposalId s = .ok () s' →
      ∃ p m e, s.findProposal proposalId = some p ∧ p.status ≠ .executed ∧
        p.status ≠ .cancelled ∧ s.timelockManager.timelocks proposalId = some e ∧ e ≤ now ∧
        p.approvalThreshold.toNat ≤ p.approvals.length ∧
        s.multisigCoordinator.proposals.find? (·.id == proposalId) = some m ∧
        m.status = .approved ∧
        s' = { s.updateProposal proposalId (fun p => { p with status := .executed, executedAt := some now }) with
          multisigCoordinator := { s.multisigCoordinator with
            proposals := modifyFirst (·.id == proposalId) (fun m => { m with status := .executed })
              s.multisigCoordinator.proposals } } := by
  intro h
  simp only [executeUpgrade, get_bind_apply, okOr_bind_eq_ok, require_bind_eq_ok] at h
  obtain ⟨p, hp, hex, hca, h⟩ := h
  simp only [bind_eq_ok, require_eq_ok] at h
  obtain ⟨_, _, hw, _, _, ⟨hthr, rfl⟩, _, _, hmx, _, _, ⟨⟩, _, _, ⟨⟩, ⟨⟩⟩ := h
  obtain ⟨e, he, hle, rfl⟩ := waitForTimelock_eq_ok hw
  obtain ⟨t, ht, rfl⟩ := focus_eq_ok.mp hmx
  obtain ⟨m, hm, hma, rfl⟩ := MultisigCoordinator.executeTransaction_eq_ok ht
  exact ⟨p, m, e, hp, by simpa using hex, by simpa using hca, he, hle, by simpa using hthr, hm, hma, rfl⟩

theorem cancelUpgrade_apply :
    cancelUpgrade proposalId s =
      match s.findProposal proposalId with
      | none => .error (.proposalNotFound proposalId) s
      | some p =>
        if p.status = .executed then .error .alreadyExecuted s
        else .ok () (s.updateProposal proposalId fun p => { p with status := .cancelled }) := by
  simp only [cancelUpgrade, bind_apply, get_apply]
  cases s.findProposal proposalId with
  | none => rfl
  | some p => by_cases h : p.status = .executed <;> simp [h, require]

@[simp] theorem AppState.afterPropose_timelockManager (a b newProgramBuffer description : String) :
    (s.afterPropose now a b newProgramBuffer description).timelockManager = s.timelockManager := rfl

section Routes

variable (parsePubkey : String → Option String)

/-- The `propose` route records the proposal whenever the key parses, and then answers with the
deadline the timelock manager holds for the record's identifier, if it holds one. -/
theorem Http.proposeUpgrade_apply (a b : String) (req : ProposeUpgradeRequest) :
    Http.proposeUpgrade parsePubkey now a b req s =
      match parsePubkey req.newProgramBuffer with
      | none => .error .invalidPubkey s
      | some buf =>
        match s.timelockManager.timelocks a with
        | some e => .ok ⟨a, e⟩ (s.afterPropose now a b buf req.description)
        | none => .error (.proposalNotFound a) (s.afterPropose now a b buf req.description) := by
  simp only [Http.proposeUpgrade, bind_apply]
  cases parsePubkey req.newProgramBuffer with
  | none => rfl
  | some buf =>
    simp only [okOr_some, ProposalManager.proposeUpgrade_apply, AppState.timelock, focus,
      TimelockManager.getTimelockEnd_apply, AppState.afterPropose_timelockManager]
    cases s.timelockManager.timelocks a <;> rfl

/-- The `approve` route approves the coordinator's first multisig proposal of the identifier. -/
theorem Http.approveUpgrade_apply :
    Http.approveUpgrade proposalId s =
      match s.multisigCoordinator.proposals.find? (·.id == proposalId) with
      | none => .error (.proposalNotFound proposalId) s
      | some m =>
        if m.approvals.contains "member1" then .error (.internalError "Already approved") s
        else .ok (.status "approved" proposalId) { s with
          multisigCoordinator := { s.multisigCoordinator with
            proposals := modifyFirst (·.id == proposalId) (MultisigCoordinator.approveRecord "member1")
              s.multisigCoordinator.proposals } } := by
  simp only [Http.approveUpgrade, AppState.multisig, bind_apply, focus,
    MultisigCoordinator.approveProposal_apply]
  cases s.multisigCoordinator.proposals.find? (·.id == proposalId) with
  | none => rfl
  | some m =>
    dsimp only
    cases m.approvals.contains "member1" <;> rfl

theorem serve_fst (r : Request) : (serve parsePubkey s r).1 = stateOf (r.handler parsePubkey s) := by
  unfold serve
  cases r.handler parsePubkey s <;> rfl

end Routes

/-! ### The invariant of the running service -/

/-- What holds in every state the service reaches: the timelock table is empty, every record
is proposed or cancelled and has no approval, and no record shares its identifier with a
multisig proposal. -/
structure ServiceInv (s : AppState) : Prop where
  timelocks : ∀ k, s.timelockManager.timelocks k = none
  status : ∀ p ∈ s.proposals, p.status = .proposed ∨ p.status = .cancelled
  approvals : ∀ p ∈ s.proposals, p.approvals = []
  disjoint : (s.proposals.map (·.id)).Disjoint (s.multisigCoordinator.proposals.map (·.id))

theorem serviceInv_new : ServiceInv AppState.new :=
  ⟨fun _ => rfl, fun _ h => (nomatch h), fun _ h => (nomatch h), List.disjoint_nil_left _⟩

/-- A write to the records that keeps identifiers and approvals, and leaves a record proposed
or cancelled, keeps the invariant. -/
theorem ServiceInv.updateProposal (hi : ServiceInv s) {f : Proposal → Proposal}
    (hid : ∀ p, (f p).id = p.id) (hst : ∀ p, (f p).status = .proposed ∨ (f p).status = .cancelled)
    (hap : ∀ p, (f p).approvals = p.approvals) : ServiceInv (s.updateProposal proposalId f) where
  timelocks := hi.timelocks
  status := forall_mem_modifyFirst hi.status fun p _ => hst p
  approvals := forall_mem_modifyFirst hi.approvals fun p hp => (hap p).trans (hi.approvals p hp)
  disjoint := by rw [AppState.updateProposal, map_modifyFirst _ hid]; exact hi.disjoint

theorem ServiceInv.afterPropose (hi : ServiceInv s) {a b buf description : String} (hab : a ≠ b)
    (ha : a ∉ s.ids) (hb : b ∉ s.ids) : ServiceInv (s.afterPropose now a b buf description) where
  timelocks := hi.timelocks
  status := List.forall_mem_append.mpr ⟨hi.status, List.forall_mem_singleton.mpr (.inl rfl)⟩
  approvals := List.forall_mem_append.mpr ⟨hi.approvals, List.forall_mem_singleton.mpr rfl⟩
  disjoint := by
    simp only [AppState.ids, List.mem_append, not_or] at ha hb
    simpa [AppState.afterPropose, newProposal, hi.disjoint, hb.1, hab.symm] using ha.2

/-- In a state of the invariant, `execute_upgrade` fails, writing nothing: it finds no record,
or a cancelled one, or no deadline for a proposed one. -/
theorem ServiceInv.executeUpgrade_error (hi : ServiceInv s) (now : Int) (proposalId : String) :
    executeUpgrade now proposalId s = .error (.proposalNotFound proposalId) s ∨
      executeUpgrade now proposalId s = .error .alreadyCancelled s := by
  simp only [executeUpgrade, bind_apply, get_apply]
  cases hp : s.findProposal proposalId with
  | none => exact .inl rfl
  | some p =>
    rcases hi.status p (List.mem_of_find?_eq_some hp) with h | h
    · left; simp [h, require, waitForTimelock_apply, hi.timelocks]
    · right; simp [h, require]

section Routes

variable (parsePubkey : String → Option String)

/-- Every request answered from a state of the invariant, with fresh identifiers, keeps it. -/
theorem ServiceInv.serve (hi : ServiceInv s) {r : Request} (hf : r.Fresh s) :
    ServiceInv (serve parsePubkey s r).1 := by
  rw [serve_fst]
  cases r with
  | proposeUpgrade now a b req =>
    obtain ⟨hab, ha, hb⟩ := hf
    simp only [Request.handler, stateOf_bind_pure, Http.proposeUpgrade_apply]
    split
    · exact hi
    · split <;> exact hi.afterPropose hab ha hb
  | approveUpgrade proposalId =>
    simp only [Request.handler, Http.approveUpgrade_apply]
    split
    · exact hi
    · split
      · exact hi
      · refine ⟨hi.timelocks, hi.status, hi.approvals, ?_⟩
        simp only [stateOf_ok, map_modifyFirst _ (MultisigCoordinator.approveRecord_id _)]
        exact hi.disjoint
  | executeUpgrade now proposalId =>
    simp only [Request.handler, Http.executeUpgrade, stateOf_bind_pure]
    rcases hi.executeUpgrade_error now proposalId with he | he <;>
      rw [he] <;> exact hi
  | cancelUpgrade proposalId =>
    simp only [Request.handler, Http.cancelUpgrade, stateOf_bind_pure, cancelUpgrade_apply]
    split
    · exact hi
    · split
      · exact hi
      · exact hi.updateProposal (fun _ => rfl) (fun _ => .inr rfl) fun _ => rfl
  | listProposals => exact hi
  | getProposalStatus proposalId =>
    simp only [Request.handler, getProposalStatus, bind_apply, get_apply]
    cases s.findProposal proposalId <;> exact hi

/-- **The service's invariant.**  In every state the service reaches, drawing fresh identifiers,
the timelock table is empty, no record holds an approval, and no record shares its identifier
with a multisig proposal. -/
theorem serviceInv_of_reachable (hs : Reachable parsePubkey s) : ServiceInv s := by
  induction hs with
  | new => exact serviceInv_new
  | serve r _ hf ih => exact ih.serve parsePubkey hf

end Routes

/-! ### Execution and cancellation are atomic -/

/-- **Atomic execution and cancellation.**  From every state, a failed `execute_upgrade` or
`cancel_upgrade` leaves the records, the timelock table and the multisig proposals as they were.
A successful `execute_upgrade` finds the record of the identifier and marks it executed at
`now`, and finds the multisig proposal of the identifier and marks it executed; it writes the
first record and the first multisig proposal of the identifier, the ones `find` returns, and
changes nothing else. -/
theorem execute_cancel_atomic (now : Int) (proposalId : String) :
    Atomic (executeUpgrade now proposalId) ∧ Atomic (cancelUpgrade proposalId) ∧
      ∀ s s', executeUpgrade now proposalId s = .ok () s' →
        (∃ p, s.findProposal proposalId = some p ∧
          s'.findProposal proposalId = some { p with status := .executed, executedAt := some now }) ∧
        (∃ m, s.multisigCoordinator.proposals.find? (·.id == proposalId) = some m ∧
          s'.multisigCoordinator.proposals.find? (·.id == proposalId) =
            some { m with status := .executed }) ∧
        s'.proposals = s.proposals.modify (fun p => { p with status := .executed, executedAt := some now })
            (s.proposals.findIdx (·.id == proposalId)) ∧
          s'.timelockManager = s.timelockManager ∧
          s'.multisigCoordinator = { s.multisigCoordinator with
            proposals := s.multisigCoordinator.proposals.modify (fun m => { m with status := .executed })
              (s.multisigCoordinator.proposals.findIdx (·.id == proposalId)) } := by
  refine ⟨executeUpgrade_atomic, cancelUpgrade_atomic, fun s _ h => ?_⟩
  obtain ⟨p, m, _, hp, -, -, -, -, -, hm, -, rfl⟩ := executeUpgrade_eq_ok h
  have hp' : s.proposals.find? (·.id == proposalId) = some p := hp
  exact ⟨⟨p, hp, find?_modifyFirst hp' (by exact (List.find?_some hp' :))⟩,
    ⟨m, hm, find?_modifyFirst hm (by exact (List.find?_some hm :))⟩,
    modifyFirst_eq_modify _ _ _, rfl, by rw [modifyFirst_eq_modify]⟩

/-- A state in which `execute_upgrade "A"` succeeds at clock 172800: a record with three
approvals, its deadline at 172800, and an approved multisig proposal of the same identifier. -/
def executableState : AppState where
  proposals := [{ newProposal 0 "A" "buffer" "upgrade" with
    approvals := ["member1", "member2", "member3"] }]
  multisigCoordinator := { MultisigCoordinator.new with
    proposals := [⟨"A", [], "upgrade", 172800, ["member1", "member2", "member3"], 3, .approved⟩] }
  timelockManager := ⟨fun k => if k = "A" then some 172800 else none⟩

theorem execute_cancel_atomic_executableState :
    ∃ s', executeUpgrade 172800 "A" executableState = .ok () s' ∧
      s'.timelockManager = executableState.timelockManager := by
  obtain ⟨s', h⟩ : ∃ s', executeUpgrade 172800 "A" executableState = .ok () s' := ⟨_, rfl⟩
  exact ⟨s', h, ((execute_cancel_atomic 172800 "A").2.2 _ _ h).2.2.2.1⟩

/-! ### The routes, from the service's start -/

/-- The body `test_proposal_creation` proposes, with a buffer key that parses: the test's own
text, `Buffer111...`, decodes to 28 bytes, and the route refuses it with `InvalidPubkey`. -/
def testRequest : ProposeUpgradeRequest := ⟨"US517G5965aydkZ46HS38QLi7UQiSojurfbQfKCELFx", "Test upgrade"⟩

/-- From the service's start, the `propose` route on a buffer key that parses records the
proposal `"A"` and its multisig proposal `"B"`, and then answers `404 Proposal not found: A`; and the timelock check of
`execute_upgrade` on `"A"` fails the same way once the record's own deadline has passed. -/
theorem propose_route_fails_after_recording :
    parsePubkeyText testRequest.newProgramBuffer = some testRequest.newProgramBuffer ∧
    Http.proposeUpgrade parsePubkeyText 1700000000 "A" "B" testRequest AppState.new =
        .error (.proposalNotFound "A")
          (AppState.new.afterPropose 1700000000 "A" "B" testRequest.newProgramBuffer
            testRequest.description) ∧
      (AppState.new.afterPropose 1700000000 "A" "B" testRequest.newProgramBuffer
          testRequest.description).proposals.map (fun p => (p.id, p.timelockUntil)) =
        [("A", 1700172800)] ∧
      (UpgradeError.proposalNotFound "A").statusCode = 404 ∧
      (UpgradeError.proposalNotFound "A").message = "Proposal not found: A" ∧
      waitForTimelock 1700172800 "A" (AppState.new.afterPropose 1700000000 "A" "B"
          testRequest.newProgramBuffer testRequest.description) =
        .error (.proposalNotFound "A") (AppState.new.afterPropose 1700000000 "A" "B"
          testRequest.newProgramBuffer testRequest.description) :=
  ⟨by decide, rfl, rfl, rfl, rfl, rfl⟩

/-- The `propose` request of `test_proposal_approval_flow`, with the identifier `"A"` for the
record and `"B"` for its multisig proposal. -/
def flowRequest : Request := .proposeUpgrade 1700000000 "A" "B" testRequest

/-- After `flowRequest`, the multisig coordinator holds only `"B"`, so the `approve` route on
the identifier `"A"` the service handed out fails; and approving `"B"` leaves the count that
`get_proposal_status "A"` reports at 0. -/
theorem approve_route_misses_proposal :
    (run parsePubkeyText .new [flowRequest]).multisigCoordinator.proposals.map (·.id) = ["B"] ∧
      Http.approveUpgrade "A" (run parsePubkeyText .new [flowRequest]) =
        .error (.proposalNotFound "A") (run parsePubkeyText .new [flowRequest]) ∧
      ∃ s', AppState.multisig (MultisigCoordinator.approveProposal "B") (run parsePubkeyText .new [flowRequest]) =
          .ok () s' ∧
        getProposalStatus "A" s' = .ok ⟨"A", .proposed, 0, 3, 1700172800, none⟩ s' :=
  ⟨rfl, rfl, _, rfl, rfl⟩

section Routes

variable (parsePubkey : String → Option String)

/-- **The `propose` route always fails.**  In every reachable state, a `propose` request whose
key parses records the proposal and its multisig proposal, and answers `ProposalNotFound` for
the record's own identifier. -/
theorem propose_route_fails_of_reachable (hs : Reachable parsePubkey s) {req : ProposeUpgradeRequest}
    {buf : String} (hp : parsePubkey req.newProgramBuffer = some buf) (a b : String) :
    Http.proposeUpgrade parsePubkey now a b req s =
      .error (.proposalNotFound a) (s.afterPropose now a b buf req.description) := by
  rw [Http.proposeUpgrade_apply, hp, (serviceInv_of_reachable parsePubkey hs).timelocks a]

/-- **No upgrade executes.**  In every reachable state, the `execute` route fails, writing
nothing: with `ProposalNotFound`, from the record or from the timelock table, or with
`AlreadyCancelled`. -/
theorem execute_route_fails_of_reachable (hs : Reachable parsePubkey s) (now : Int)
    (proposalId : String) :
    Http.executeUpgrade now proposalId s = .error (.proposalNotFound proposalId) s ∨
      Http.executeUpgrade now proposalId s = .error .alreadyCancelled s := by
  simp only [Http.executeUpgrade, bind_apply]
  rcases (serviceInv_of_reachable parsePubkey hs).executeUpgrade_error now proposalId with
    h | h <;> rw [h] <;> simp

/-- **The `approve` route misses every record.**  In every reachable state, the `approve` route
on the identifier of any record fails with `ProposalNotFound`, writing nothing. -/
theorem approve_route_fails_of_reachable (hs : Reachable parsePubkey s)
    (hp : proposalId ∈ s.proposals.map (·.id)) :
    Http.approveUpgrade proposalId s = .error (.proposalNotFound proposalId) s := by
  have hnone : s.multisigCoordinator.proposals.find? (·.id == proposalId) = none :=
    List.find?_eq_none.mpr fun m hm h =>
      (serviceInv_of_reachable parsePubkey hs).disjoint hp
        (List.mem_map.mpr ⟨m, hm, by simpa using h⟩)
  rw [Http.approveUpgrade_apply, hnone]

/-- **No record is ever approved.**  In every reachable state, `get_proposal_status` reports
no approvals and a proposed or cancelled status. -/
theorem status_reports_no_approvals_of_reachable (hs : Reachable parsePubkey s)
    {view : ProposalStatusView} (h : getProposalStatus proposalId s = .ok view s') :
    view.approvals = 0 ∧ (view.status = .proposed ∨ view.status = .cancelled) := by
  simp only [getProposalStatus, get_bind_apply, okOr_bind_eq_ok, pure_apply,
    EStateM.Result.ok.injEq] at h
  obtain ⟨p, hp, rfl, -⟩ := h
  have hi := serviceInv_of_reachable parsePubkey hs
  have hm := List.mem_of_find?_eq_some hp
  exact ⟨by simp [hi.approvals p hm], hi.status p hm⟩

end Routes

/-- A run of the service: the proposal of `test_proposal_approval_flow`, its approval through
the route, and a second proposal `"C"` with multisig proposal `"D"`. -/
def sampleRequests : List Request :=
  [flowRequest, .approveUpgrade "A", .proposeUpgrade 1700000100 "C" "D" testRequest]

theorem reachable_sampleRequests : Reachable parsePubkeyText (run parsePubkeyText .new sampleRequests) :=
  .serve _ (.serve _ (.serve _ .new (by decide)) (by decide)) (by decide)

theorem propose_route_fails_sampleRequests :
    Http.proposeUpgrade parsePubkeyText 1700000200 "E" "F" testRequest (run parsePubkeyText .new sampleRequests) =
      .error (.proposalNotFound "E") ((run parsePubkeyText .new sampleRequests).afterPropose 1700000200 "E" "F"
        testRequest.newProgramBuffer testRequest.description) :=
  propose_route_fails_of_reachable parsePubkeyText reachable_sampleRequests
    (show parsePubkeyText testRequest.newProgramBuffer = some testRequest.newProgramBuffer by decide)
    "E" "F"

theorem execute_route_fails_sampleRequests :
    Http.executeUpgrade 1900000000 "C" (run parsePubkeyText .new sampleRequests) =
        .error (.proposalNotFound "C") (run parsePubkeyText .new sampleRequests) ∨
      Http.executeUpgrade 1900000000 "C" (run parsePubkeyText .new sampleRequests) =
        .error .alreadyCancelled (run parsePubkeyText .new sampleRequests) :=
  execute_route_fails_of_reachable parsePubkeyText reachable_sampleRequests 1900000000 "C"

theorem approve_route_fails_sampleRequests :
    Http.approveUpgrade "C" (run parsePubkeyText .new sampleRequests) =
      .error (.proposalNotFound "C") (run parsePubkeyText .new sampleRequests) :=
  approve_route_fails_of_reachable parsePubkeyText reachable_sampleRequests (by decide)

theorem status_reports_no_approvals_sampleRequests :
    ProposalManager.getProposalStatus "A" (run parsePubkeyText .new sampleRequests) =
        .ok ⟨"A", .proposed, 0, 3, 1700172800, none⟩ (run parsePubkeyText .new sampleRequests) ∧
      (⟨"A", .proposed, 0, 3, 1700172800, none⟩ : ProposalStatusView).approvals = 0 ∧
      ((⟨"A", .proposed, 0, 3, 1700172800, none⟩ : ProposalStatusView).status = .proposed ∨
        (⟨"A", .proposed, 0, 3, 1700172800, none⟩ : ProposalStatusView).status = .cancelled) :=
  ⟨rfl, status_reports_no_approvals_of_reachable parsePubkeyText reachable_sampleRequests
    (show ProposalManager.getProposalStatus "A" (run parsePubkeyText .new sampleRequests) =
      .ok ⟨"A", .proposed, 0, 3, 1700172800, none⟩ (run parsePubkeyText .new sampleRequests) from rfl)⟩

end Backend

end UpgradeGovernance
