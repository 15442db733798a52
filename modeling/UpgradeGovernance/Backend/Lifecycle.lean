import UpgradeGovernance.Backend.Properties
import Mathlib.Data.List.Nodup

/-!
# The life of a record

The `ProposalManager`'s methods write its records: `propose_upgrade` appends one, and
`execute_upgrade` and `cancel_upgrade` set the status of the first record of an identifier.  This
module follows the records through every sequence of these calls, with the timelock manager and
the multisig coordinator changed arbitrarily in between.  No call changes a record's identifier,
buffer, description, times, threshold or approvals; an executed or cancelled record never
changes again; and a record becomes executed only in an `execute_upgrade` call that finds its
approvals at the threshold and its deadline passed.

The multisig coordinator keeps no such guard.  `approve_proposal` does not look at the status of
the proposal it approves, so an approval that meets the threshold moves an executed proposal
back to `Approved`, and `execute_transaction` then executes it a second time.

## Main definitions

* `Proposal.Evolves` — how a record may change.
* `ManagerEvent`, `ManagerEvent.apply`, `ManagerEvent.run` — the calls that write the records,
  and the collaborators' changes between them.
* `CoordinatorInv` — the multisig coordinator in every state the service reaches.

## Main results

* `ManagerEvent.apply_cases` — what one event does to the records.
* `ManagerEvent.run_evolves`, `ManagerEvent.run_executed` — over a run, records only evolve, and
  one becomes executed only in an `execute_upgrade` call whose checks it passes.
* `proposal_record_lifecycle` — the lifecycle of every record over every run.
* `execute_transaction_twice` — an executed proposal is approved and executed again.
* `multisig_pending_of_reachable` — through the routes, no multisig proposal is ever approved.
-/

namespace UpgradeGovernance

namespace Backend

open ProposalManager

/-! ### Records with distinct identifiers -/

/-- In a list whose keys are distinct, the search by an element's key finds that element. -/
theorem find?_key_of_nodup {α β : Type} [DecidableEq β] {key : α → β} {l : List α} {x : α}
    (hl : (l.map key).Nodup) (hx : x ∈ l) : l.find? (fun y => key y == key x) = some x := by
  induction l with
  | nil => cases hx
  | cons a l ih =>
    rw [List.map_cons, List.nodup_cons] at hl
    rcases List.mem_cons.mp hx with rfl | hx
    · simp
    · have hne : key a ≠ key x := fun e => hl.1 (e ▸ List.mem_map_of_mem key hx)
      rw [List.find?_cons_of_neg _ (by simpa using hne), ih hl.2 hx]

variable {s : AppState} {p q : Proposal} {k : String}

/-- The records' identifiers are distinct. -/
def AppState.Distinct (s : AppState) : Prop := (s.proposals.map (·.id)).Nodup

theorem AppState.findProposal_of_mem (hnd : s.Distinct) (hp : p ∈ s.proposals) :
    s.findProposal p.id = some p :=
  find?_key_of_nodup hnd hp

theorem AppState.eq_of_id_eq (hnd : s.Distinct) (hp : p ∈ s.proposals) (hq : q ∈ s.proposals)
    (h : q.id = p.id) : q = p :=
  List.inj_on_of_nodup_map hnd hq hp h

theorem AppState.mem_of_findProposal (h : s.findProposal k = some q) : q ∈ s.proposals ∧ q.id = k :=
  ⟨List.mem_of_find?_eq_some h, by simpa using List.find?_some h⟩

/-! ### How a record may change -/

/-- How a record may change: its identifier, buffer, description, times, threshold and
approvals stay, and an executed or cancelled record stays as it is. -/
structure Proposal.Evolves (p p' : Proposal) : Prop where
  id : p'.id = p.id
  newBuffer : p'.newBuffer = p.newBuffer
  description : p'.description = p.description
  proposedAt : p'.proposedAt = p.proposedAt
  timelockUntil : p'.timelockUntil = p.timelockUntil
  approvalThreshold : p'.approvalThreshold = p.approvalThreshold
  approvals : p'.approvals = p.approvals
  terminal : p.status = .executed ∨ p.status = .cancelled → p' = p

namespace Proposal.Evolves

theorem refl (p : Proposal) : p.Evolves p := ⟨rfl, rfl, rfl, rfl, rfl, rfl, rfl, fun _ => rfl⟩

theorem trans {r : Proposal} (h₁ : p.Evolves q) (h₂ : q.Evolves r) : p.Evolves r where
  id := h₂.id.trans h₁.id
  newBuffer := h₂.newBuffer.trans h₁.newBuffer
  description := h₂.description.trans h₁.description
  proposedAt := h₂.proposedAt.trans h₁.proposedAt
  timelockUntil := h₂.timelockUntil.trans h₁.timelockUntil
  approvalThreshold := h₂.approvalThreshold.trans h₁.approvalThreshold
  approvals := h₂.approvals.trans h₁.approvals
  terminal h := by
    obtain rfl := h₁.terminal h
    exact h₂.terminal h

/-- Cancelling a record not executed evolves it; a cancelled one it leaves as it is. -/
theorem cancel (h : p.status ≠ .executed) : p.Evolves { p with status := .cancelled } :=
  ⟨rfl, rfl, rfl, rfl, rfl, rfl, rfl, fun ht => by rw [← ht.resolve_left h]⟩

theorem execute (h₁ : p.status ≠ .executed) (h₂ : p.status ≠ .cancelled) (now : Int) :
    p.Evolves { p with status := .executed, executedAt := some now } :=
  ⟨rfl, rfl, rfl, rfl, rfl, rfl, rfl, fun ht => (ht.elim h₁ h₂).elim⟩

end Proposal.Evolves

/-- A write of the record of identifier `k` that evolves it evolves every record. -/
theorem evolves_modifyFirst (hnd : s.Distinct) {f : Proposal → Proposal}
    (hf : ∀ q, s.findProposal k = some q → q.Evolves (f q)) (hp : p ∈ s.proposals) :
    ∃ p' ∈ modifyFirst (·.id == k) f s.proposals, p.Evolves p' := by
  rw [modifyFirst_eq_map hnd]
  refine ⟨_, List.mem_map_of_mem _ hp, ?_⟩
  split
  · next h => exact hf p (h ▸ AppState.findProposal_of_mem hnd hp)
  · exact .refl p

/-! ### Runs of the `ProposalManager` -/

/-- A call of the `ProposalManager` that writes its records, or a change of the two components
it shares with the routes, which the routes and the `ProposalManager`'s other calls make. -/
inductive ManagerEvent
  | proposeUpgrade (now : Int) (proposalId multisigProposalId newProgramBuffer description : String)
  | executeUpgrade (now : Int) (proposalId : String)
  | cancelUpgrade (proposalId : String)
  | collaborators (multisigCoordinator : MultisigCoordinator) (timelockManager : TimelockManager)

namespace ManagerEvent

/-- The state after an event: a failed call leaves the state its error carries. -/
def apply (s : AppState) : ManagerEvent → AppState
  | .proposeUpgrade now a b buf d => stateOf (ProposalManager.proposeUpgrade now a b buf d s)
  | .executeUpgrade now k => stateOf (ProposalManager.executeUpgrade now k s)
  | .cancelUpgrade k => stateOf (ProposalManager.cancelUpgrade k s)
  | .collaborators mc tm => { s with multisigCoordinator := mc, timelockManager := tm }

/-- The state after events one after another. -/
def run (s : AppState) (evs : List ManagerEvent) : AppState := evs.foldl apply s

/-- The identifier a `propose_upgrade` call gives its record. -/
def proposedId : ManagerEvent → Option String
  | .proposeUpgrade _ a _ _ _ => some a
  | _ => none

end ManagerEvent

/-- The identifiers the `propose_upgrade` calls of a run give their records, in order. -/
def proposedIds : List ManagerEvent → List String
  | [] => []
  | ev :: evs => ev.proposedId.toList ++ proposedIds evs

/-- A failed `execute_upgrade` writes nothing; a successful one passed its checks on the record
it found, and marks that record executed. -/
theorem stateOf_executeUpgrade (now : Int) (k : String) (s : AppState) :
    stateOf (executeUpgrade now k s) = s ∨
      ∃ q e, s.findProposal k = some q ∧ q.status ≠ .executed ∧ q.status ≠ .cancelled ∧
        s.timelockManager.timelocks k = some e ∧ e ≤ now ∧
        q.approvalThreshold.toNat ≤ q.approvals.length ∧
        (stateOf (executeUpgrade now k s)).proposals =
          modifyFirst (·.id == k) (fun p => { p with status := .executed, executedAt := some now })
            s.proposals := by
  cases h : executeUpgrade now k s with
  | ok u s' =>
    obtain ⟨q, -, e, hq, hex, hca, he, hle, hthr, -, -, rfl⟩ := executeUpgrade_eq_ok h
    exact .inr ⟨q, e, hq, hex, hca, he, hle, hthr, rfl⟩
  | error e s' => exact .inl (executeUpgrade_atomic s e s' h)

theorem stateOf_cancelUpgrade (k : String) (s : AppState) :
    stateOf (cancelUpgrade k s) = s ∨
      ∃ q, s.findProposal k = some q ∧ q.status ≠ .executed ∧
        (stateOf (cancelUpgrade k s)).proposals =
          modifyFirst (·.id == k) (fun p => { p with status := .cancelled }) s.proposals := by
  rw [cancelUpgrade_apply]
  cases hq : s.findProposal k with
  | none => exact .inl rfl
  | some q =>
    by_cases h : q.status = .executed
    · exact .inl (by simp only [h, if_true, stateOf_error])
    · exact .inr ⟨q, rfl, h, by simp only [h, if_false, stateOf_ok]; rfl⟩

namespace ManagerEvent

variable {ev : ManagerEvent} {evs : List ManagerEvent}

/-- **What one event does to the records.**  A `propose_upgrade` appends its record; every
other event leaves the records, or sets the status of the first record of an identifier, not
executed, to `Cancelled`, or — its approvals at the threshold and its deadline passed — to
`Executed`. -/
theorem apply_cases (ev : ManagerEvent) (s : AppState) :
    (∃ now a b buf d, ev = .proposeUpgrade now a b buf d ∧
      (ev.apply s).proposals = s.proposals ++ [newProposal now a buf d]) ∨
    (ev.proposedId = none ∧ (ev.apply s).proposals = s.proposals) ∨
    (∃ k q, ev = .cancelUpgrade k ∧ s.findProposal k = some q ∧ q.status ≠ .executed ∧
      (ev.apply s).proposals =
        modifyFirst (·.id == k) (fun p => { p with status := .cancelled }) s.proposals) ∨
    (∃ now k q e, ev = .executeUpgrade now k ∧ s.findProposal k = some q ∧
      q.status ≠ .executed ∧ q.status ≠ .cancelled ∧ s.timelockManager.timelocks k = some e ∧
      e ≤ now ∧ q.approvalThreshold.toNat ≤ q.approvals.length ∧
      (ev.apply s).proposals = modifyFirst (·.id == k)
        (fun p => { p with status := .executed, executedAt := some now }) s.proposals) := by
  cases ev with
  | proposeUpgrade now a b buf d => exact .inl ⟨now, a, b, buf, d, rfl, rfl⟩
  | executeUpgrade now k =>
    rcases stateOf_executeUpgrade now k s with h | ⟨q, e, h⟩
    · exact .inr (.inl ⟨rfl, congrArg AppState.proposals h⟩)
    · exact .inr (.inr (.inr ⟨now, k, q, e, rfl, h⟩))
  | cancelUpgrade k =>
    rcases stateOf_cancelUpgrade k s with h | ⟨q, h⟩
    · exact .inr (.inl ⟨rfl, congrArg AppState.proposals h⟩)
    · exact .inr (.inr (.inl ⟨k, q, rfl, h⟩))
  | collaborators mc tm => exact .inr (.inl ⟨rfl, rfl⟩)

/-- An event keeps the records' identifiers and appends the one it proposes. -/
theorem ids_apply (ev : ManagerEvent) (s : AppState) :
    (ev.apply s).proposals.map (·.id) = s.proposals.map (·.id) ++ ev.proposedId.toList := by
  rcases apply_cases ev s with
    ⟨now, a, b, buf, d, rfl, h⟩ | ⟨hn, h⟩ | ⟨k, q, rfl, -, -, h⟩ | ⟨now, k, q, e, rfl, -, -, -, -, -, -, h⟩
  · rw [h, List.map_append]; rfl
  · rw [h, hn, Option.toList_none, List.append_nil]
  · rw [h]; exact (map_modifyFirst _ (by intro; rfl) _).trans (List.append_nil _).symm
  · rw [h]; exact (map_modifyFirst _ (by intro; rfl) _).trans (List.append_nil _).symm

/-- **The step lemma.**  With distinct identifiers, every record evolves into a record of the
state after the event. -/
theorem evolves (ev : ManagerEvent) (hnd : s.Distinct) (hp : p ∈ s.proposals) :
    ∃ p' ∈ (ev.apply s).proposals, p.Evolves p' := by
  rcases apply_cases ev s with
    ⟨now, a, b, buf, d, -, h⟩ | ⟨-, h⟩ | ⟨k, q, -, hq, hex, h⟩ |
      ⟨now, k, q, -, -, hq, hex, hca, -, -, -, h⟩ <;> rw [h]
  · exact ⟨p, List.mem_append_left _ hp, .refl p⟩
  · exact ⟨p, hp, .refl p⟩
  · exact evolves_modifyFirst hnd (fun q' hq' => Option.some.inj (hq.symm.trans hq') ▸ .cancel hex) hp
  · exact evolves_modifyFirst hnd
      (fun q' hq' => Option.some.inj (hq.symm.trans hq') ▸ .execute hex hca now) hp

/-- With distinct identifiers, a record becomes executed only in an `execute_upgrade` call on
its identifier that finds its approvals at the threshold and its deadline passed. -/
theorem executed_of_apply (hnd : s.Distinct) (hp : p ∈ s.proposals) {p' : Proposal}
    (hp' : p' ∈ (ev.apply s).proposals) (hid : p'.id = p.id) (hne : p.status ≠ .executed)
    (hex : p'.status = .executed) :
    ∃ now e, ev = .executeUpgrade now p.id ∧ p.approvalThreshold.toNat ≤ p.approvals.length ∧
      s.timelockManager.timelocks p.id = some e ∧ e ≤ now := by
  have hold : p' ∉ s.proposals := fun h => hne (AppState.eq_of_id_eq hnd hp h hid ▸ hex)
  rcases apply_cases ev s with
    ⟨now, a, b, buf, d, -, h⟩ | ⟨-, h⟩ | ⟨k, q, -, -, -, h⟩ |
      ⟨now, k, q, e, rfl, hq, -, -, he, hle, hthr, h⟩ <;> rw [h] at hp'
  · rcases List.mem_append.mp hp' with h | h
    · exact (hold h).elim
    · cases (List.mem_singleton.mp h ▸ hex : (newProposal now a buf d).status = .executed)
  · exact (hold hp').elim
  · rcases mem_modifyFirst_find? hp' with h | ⟨q', -, rfl⟩
    · exact (hold h).elim
    · cases hex
  · rcases mem_modifyFirst_find? hp' with h | ⟨q', hq', rfl⟩
    · exact (hold h).elim
    · obtain rfl : q' = q := Option.some.inj (hq'.symm.trans hq)
      obtain ⟨hqm, rfl⟩ := AppState.mem_of_findProposal hq
      obtain rfl := AppState.eq_of_id_eq hnd hp hqm hid
      exact ⟨now, e, rfl, hthr, he, hle⟩

/-- The records' identifiers after a run: the old ones, then those the run proposes. -/
theorem ids_run (s : AppState) (evs : List ManagerEvent) :
    (run s evs).proposals.map (·.id) = s.proposals.map (·.id) ++ proposedIds evs := by
  induction evs generalizing s with
  | nil => exact (List.append_nil _).symm
  | cons ev evs ih => rw [run, List.foldl_cons, ← run, ih, ids_apply, List.append_assoc]; rfl

theorem distinct_of_nodup_append {l : List String} (hnd : (s.proposals.map (·.id) ++ l).Nodup) :
    s.Distinct :=
  hnd.sublist (List.sublist_append_left _ _)

theorem distinct_apply (hnd : (s.proposals.map (·.id) ++ proposedIds (ev :: evs)).Nodup) :
    ((ev.apply s).proposals.map (·.id) ++ proposedIds evs).Nodup := by
  rwa [ids_apply, List.append_assoc]

/-- **The run lemma.**  When the old identifiers and those a run proposes are distinct, every
record evolves into a record of the state after the run. -/
theorem run_evolves (hnd : (s.proposals.map (·.id) ++ proposedIds evs).Nodup)
    (hp : p ∈ s.proposals) : ∃ p' ∈ (run s evs).proposals, p.Evolves p' := by
  induction evs generalizing s p with
  | nil => exact ⟨p, hp, .refl p⟩
  | cons ev evs ih =>
    obtain ⟨p₁, hp₁, h₁⟩ := evolves ev (distinct_of_nodup_append hnd) hp
    obtain ⟨p', hp', h'⟩ := ih (distinct_apply hnd) hp₁
    exact ⟨p', hp', h₁.trans h'⟩

/-- Over a run, a record becomes executed only in an `execute_upgrade` call on its identifier
that finds its approvals at the threshold and the deadline the timelock manager then holds
passed. -/
theorem run_executed (hnd : (s.proposals.map (·.id) ++ proposedIds evs).Nodup)
    (hp : p ∈ s.proposals) {p' : Proposal} (hp' : p' ∈ (run s evs).proposals)
    (hid : p'.id = p.id) (hne : p.status ≠ .executed) (hex : p'.status = .executed) :
    ∃ pre now post e, evs = pre ++ .executeUpgrade now p.id :: post ∧
      p.approvalThreshold.toNat ≤ p.approvals.length ∧
      (run s pre).timelockManager.timelocks p.id = some e ∧ e ≤ now := by
  induction evs generalizing s p with
  | nil => exact (hne (AppState.eq_of_id_eq (distinct_of_nodup_append hnd) hp hp' hid ▸ hex)).elim
  | cons ev evs ih =>
    have hnd₀ := distinct_of_nodup_append hnd
    obtain ⟨p₁, hp₁, h₁⟩ := evolves ev hnd₀ hp
    by_cases hex₁ : p₁.status = .executed
    · obtain ⟨now, e, rfl, hthr, he, hle⟩ := executed_of_apply hnd₀ hp hp₁ h₁.id hne hex₁
      exact ⟨[], now, evs, e, rfl, hthr, he, hle⟩
    · obtain ⟨pre, now, post, e, rfl, hthr, he, hle⟩ :=
        ih (distinct_apply hnd) hp₁ hp' (hid.trans h₁.id.symm) hex₁
      rw [h₁.approvalThreshold, h₁.approvals] at hthr
      rw [h₁.id] at he ⊢
      exact ⟨ev :: pre, now, post, e, rfl, hthr, he, hle⟩

end ManagerEvent

/-! ### Executed and cancelled records -/

section Terminal

variable (hnd : s.Distinct) (hp : p ∈ s.proposals)
include hnd hp

theorem executeUpgrade_of_executed (h : p.status = .executed) (now : Int) :
    executeUpgrade now p.id s = .error .alreadyExecuted s := by
  simp [executeUpgrade, AppState.findProposal_of_mem hnd hp, h, require]

theorem executeUpgrade_of_cancelled (h : p.status = .cancelled) (now : Int) :
    executeUpgrade now p.id s = .error .alreadyCancelled s := by
  simp [executeUpgrade, AppState.findProposal_of_mem hnd hp, h, require]

theorem cancelUpgrade_of_executed (h : p.status = .executed) :
    cancelUpgrade p.id s = .error .alreadyExecuted s := by
  simp [cancelUpgrade_apply, AppState.findProposal_of_mem hnd hp, h]

/-- Cancelling a cancelled record succeeds and writes nothing. -/
theorem cancelUpgrade_of_cancelled (h : p.status = .cancelled) : cancelUpgrade p.id s = .ok () s := by
  have hf := AppState.findProposal_of_mem hnd hp
  have hself : s.updateProposal p.id (fun p => { p with status := .cancelled }) = s := by
    rw [AppState.updateProposal, modifyFirst_eq_self hf (by rw [← h])]
  simp [cancelUpgrade_apply, hf, h, hself]

end Terminal

/-- **The lifecycle of a record.**  Over every run of `propose_upgrade`, `execute_upgrade` and
`cancel_upgrade` calls, with the timelock manager and the multisig coordinator changed
arbitrarily in between, from a state whose record identifiers and the identifiers the run
proposes are distinct:
* the records' identifiers are the old ones followed by the proposed ones;
* every record evolves: its identifier, buffer, description, times, threshold and approvals
  stay, and once executed or cancelled it stays as it is;
* a record becomes executed only in an `execute_upgrade` call on its identifier that finds its
  approvals at the threshold and the timelock manager's deadline for it passed;
* on an executed record `cancel_upgrade` and `execute_upgrade` fail with `AlreadyExecuted`; on
  a cancelled one `execute_upgrade` fails with `AlreadyCancelled` and `cancel_upgrade` succeeds,
  writing nothing. -/
theorem proposal_record_lifecycle (s : AppState) (evs : List ManagerEvent)
    (hnd : (s.proposals.map (·.id) ++ proposedIds evs).Nodup) :
    (ManagerEvent.run s evs).proposals.map (·.id) = s.proposals.map (·.id) ++ proposedIds evs ∧
    (∀ p ∈ s.proposals, ∃ p' ∈ (ManagerEvent.run s evs).proposals, p.Evolves p') ∧
    (∀ p ∈ s.proposals, ∀ p' ∈ (ManagerEvent.run s evs).proposals, p'.id = p.id →
      p.status ≠ .executed → p'.status = .executed →
      ∃ pre now post e, evs = pre ++ .executeUpgrade now p.id :: post ∧
        p.approvalThreshold.toNat ≤ p.approvals.length ∧
        (ManagerEvent.run s pre).timelockManager.timelocks p.id = some e ∧ e ≤ now) ∧
    (∀ p ∈ (ManagerEvent.run s evs).proposals, ∀ now,
      (p.status = .executed →
        cancelUpgrade p.id (ManagerEvent.run s evs) = .error .alreadyExecuted (ManagerEvent.run s evs) ∧
        executeUpgrade now p.id (ManagerEvent.run s evs) =
          .error .alreadyExecuted (ManagerEvent.run s evs)) ∧
      (p.status = .cancelled →
        executeUpgrade now p.id (ManagerEvent.run s evs) =
          .error .alreadyCancelled (ManagerEvent.run s evs) ∧
        cancelUpgrade p.id (ManagerEvent.run s evs) = .ok () (ManagerEvent.run s evs))) := by
  have hend : (ManagerEvent.run s evs).Distinct := by
    rw [AppState.Distinct, ManagerEvent.ids_run]; exact hnd
  exact ⟨ManagerEvent.ids_run s evs, fun p hp => ManagerEvent.run_evolves hnd hp,
    fun p hp p' hp' hid hne hex => ManagerEvent.run_executed hnd hp hp' hid hne hex,
    fun p hp now =>
      ⟨fun h => ⟨cancelUpgrade_of_executed hend hp h, executeUpgrade_of_executed hend hp h now⟩,
        fun h => ⟨executeUpgrade_of_cancelled hend hp h now, cancelUpgrade_of_cancelled hend hp h⟩⟩⟩

/-- A run from `executableState`, which holds the record `"A"` with its threshold of approvals
and its deadline at 172800: a second proposal `"C"`, the execution of `"A"` at its deadline, the
cancellation of `"C"`, and an attempt to execute `"C"`. -/
def recordsRun : List ManagerEvent :=
  [.proposeUpgrade 10 "C" "D" "buffer" "upgrade", .executeUpgrade 172800 "A", .cancelUpgrade "C",
    .executeUpgrade 172900 "C"]

/-- The record `"A"` of `executableState`. -/
def executableRecord : Proposal :=
  { newProposal 0 "A" "buffer" "upgrade" with approvals := ["member1", "member2", "member3"] }

theorem proposal_record_lifecycle_recordsRun :
    (ManagerEvent.run executableState recordsRun).proposals.map (·.id) =
        executableState.proposals.map (·.id) ++ proposedIds recordsRun ∧
      (∃ p' ∈ (ManagerEvent.run executableState recordsRun).proposals,
        executableRecord.Evolves p') ∧
      (∃ pre now post e, recordsRun = pre ++ .executeUpgrade now "A" :: post ∧
        executableRecord.approvalThreshold.toNat ≤ executableRecord.approvals.length ∧
        (ManagerEvent.run executableState pre).timelockManager.timelocks "A" = some e ∧ e ≤ now) ∧
      executeUpgrade 172900 "C" (ManagerEvent.run executableState recordsRun) =
        .error .alreadyCancelled (ManagerEvent.run executableState recordsRun) ∧
      cancelUpgrade "C" (ManagerEvent.run executableState recordsRun) =
        .ok () (ManagerEvent.run executableState recordsRun) := by
  obtain ⟨hids, hev, hex, hterm⟩ := proposal_record_lifecycle executableState recordsRun (by decide)
  have hA : executableRecord ∈ executableState.proposals := List.mem_singleton_self _
  have hA' : { executableRecord with status := .executed, executedAt := some 172800 } ∈
      (ManagerEvent.run executableState recordsRun).proposals := by decide
  have hC' : { newProposal 10 "C" "buffer" "upgrade" with status := .cancelled } ∈
      (ManagerEvent.run executableState recordsRun).proposals := by decide
  exact ⟨hids, hev _ hA, hex _ hA _ hA' rfl (by decide) rfl, (hterm _ hC' 172900).2 rfl⟩

/-! ### Multisig proposals after execution -/

namespace MultisigCoordinator

variable {mc : MultisigCoordinator} {m : MultisigProposal}

/-- The status an approval leaves: `Approved` once the threshold is met, the old one
otherwise, whatever that was. -/
theorem approveRecord_status (approver : String) (m : MultisigProposal) :
    (approveRecord approver m).status =
      if m.threshold.toNat ≤ m.approvals.length + 1 then .approved else m.status := by
  simp only [approveRecord, List.length_append, List.length_singleton]
  split <;> rfl

theorem approveRecord_approvals (approver : String) (m : MultisigProposal) :
    (approveRecord approver m).approvals = m.approvals ++ [approver] := by
  simp only [approveRecord]
  split <;> rfl

theorem approveRecord_threshold (approver : String) (m : MultisigProposal) :
    (approveRecord approver m).threshold = m.threshold := by
  simp only [approveRecord]
  split <;> rfl

end MultisigCoordinator

/-- A multisig proposal `"B"` approved by three members other than `"member1"`, with the status
`status`. -/
def recordOfOthers (status : MultisigStatus) : MultisigProposal :=
  ⟨"B", [], "upgrade", 172800, ["member2", "member3", "member4"], 3, status⟩

/-- A coordinator holding the approved `recordOfOthers`. -/
def approvedByOthers : MultisigCoordinator :=
  { MultisigCoordinator.new with proposals := [recordOfOthers .approved] }

/-- On `approvedByOthers`, `execute_transaction "B"` succeeds and marks the proposal executed;
`approve_proposal "B"` then succeeds on the executed proposal and moves it back to `Approved`;
and `execute_transaction "B"` succeeds a second time. -/
theorem execute_transaction_twice :
    ∃ mc₁ mc₂ mc₃, MultisigCoordinator.executeTransaction "B" approvedByOthers = .ok () mc₁ ∧
      (mc₁.proposals.find? (·.id == "B")).map (·.status) = some .executed ∧
      MultisigCoordinator.approveProposal "B" mc₁ = .ok () mc₂ ∧
      (mc₂.proposals.find? (·.id == "B")).map (·.status) = some .approved ∧
      MultisigCoordinator.executeTransaction "B" mc₂ = .ok () mc₃ :=
  ⟨_, _, _, rfl, rfl, rfl, rfl, rfl⟩

/-! ### Multisig proposals in the running service -/

/-- What holds of the multisig coordinator in every state the service reaches: its threshold is
3, and every multisig proposal is pending, with threshold 3 and at most `"member1"`'s
approval. -/
structure CoordinatorInv (mc : MultisigCoordinator) : Prop where
  threshold : mc.threshold = 3
  proposals : ∀ m ∈ mc.proposals,
    m.status = .pending ∧ m.threshold = 3 ∧ (m.approvals = [] ∨ m.approvals = ["member1"])

namespace CoordinatorInv

variable {mc : MultisigCoordinator} {s : AppState}

theorem new : CoordinatorInv MultisigCoordinator.new := ⟨rfl, fun _ h => (nomatch h)⟩

/-- `"member1"`'s approval of a proposal it has not approved leaves it pending: one approval is
below the threshold of 3. -/
theorem approve (hi : CoordinatorInv mc) {k : String} {m : MultisigProposal}
    (hm : mc.proposals.find? (·.id == k) = some m) (h1 : m.approvals.contains "member1" = false) :
    CoordinatorInv { mc with
      proposals := modifyFirst (·.id == k) (MultisigCoordinator.approveRecord "member1") mc.proposals } := by
  refine ⟨hi.threshold, fun x hx => ?_⟩
  rcases mem_modifyFirst_find? hx with hx | ⟨y, hy, rfl⟩
  · exact hi.proposals x hx
  · obtain rfl : y = m := Option.some.inj (hy.symm.trans hm)
    obtain ⟨hst, hth, hap⟩ := hi.proposals y (List.mem_of_find?_eq_some hy)
    rcases hap with hap | hap
    · refine ⟨?_, by rw [MultisigCoordinator.approveRecord_threshold, hth],
        .inr (by rw [MultisigCoordinator.approveRecord_approvals, hap]; rfl)⟩
      rw [MultisigCoordinator.approveRecord_status, hth, hap, if_neg (by decide), hst]
    · rw [hap] at h1; exact absurd h1 (by decide)

theorem afterPropose (hi : CoordinatorInv s.multisigCoordinator) (now : Int)
    (a b buf description : String) :
    CoordinatorInv (s.afterPropose now a b buf description).multisigCoordinator :=
  ⟨hi.threshold, List.forall_mem_append.mpr
    ⟨hi.proposals, List.forall_mem_singleton.mpr ⟨rfl, hi.threshold, .inl rfl⟩⟩⟩

/-- `execute_transaction` fails on every identifier, writing nothing: no multisig proposal is
approved. -/
theorem executeTransaction_error (hi : CoordinatorInv mc) (k : String) :
    ∃ e, MultisigCoordinator.executeTransaction k mc = .error e mc := by
  cases hm : mc.proposals.find? (·.id == k) with
  | none => exact ⟨.proposalNotFound k, by simp [MultisigCoordinator.executeTransaction, hm]⟩
  | some m =>
    have hst := (hi.proposals m (List.mem_of_find?_eq_some hm)).1
    exact ⟨.internalError "Proposal not approved",
      by simp [MultisigCoordinator.executeTransaction, hm, hst, require]⟩

section Routes

variable (parsePubkey : String → Option String)

/-- Every request answered from a state of both invariants keeps this one. -/
theorem serve (hi : CoordinatorInv s.multisigCoordinator) (hsi : ServiceInv s) (r : Request) :
    CoordinatorInv (Backend.serve parsePubkey s r).1.multisigCoordinator := by
  rw [serve_fst]
  cases r with
  | proposeUpgrade now a b req =>
    simp only [Request.handler, stateOf_bind_pure, Http.proposeUpgrade_apply]
    split
    · exact hi
    · split <;> exact hi.afterPropose now a b _ req.description
  | approveUpgrade proposalId =>
    simp only [Request.handler, Http.approveUpgrade_apply]
    split
    · exact hi
    · next m hm =>
      cases h1 : m.approvals.contains "member1"
      · simpa only [h1, Bool.false_eq_true, if_false, stateOf_ok] using hi.approve hm h1
      · simpa only [h1, if_true, stateOf_error] using hi
  | executeUpgrade now proposalId =>
    simp only [Request.handler, Http.executeUpgrade, stateOf_bind_pure]
    rcases hsi.executeUpgrade_error now proposalId with he | he <;> rw [he] <;> exact hi
  | cancelUpgrade proposalId =>
    simp only [Request.handler, Http.cancelUpgrade, stateOf_bind_pure, cancelUpgrade_apply]
    split
    · exact hi
    · split <;> exact hi
  | listProposals => exact hi
  | getProposalStatus proposalId =>
    simp only [Request.handler, getProposalStatus, bind_apply, get_apply]
    cases s.findProposal proposalId <;> exact hi

end Routes

end CoordinatorInv

section Routes

variable (parsePubkey : String → Option String)

theorem coordinatorInv_of_reachable {s : AppState} (hs : Reachable parsePubkey s) :
    CoordinatorInv s.multisigCoordinator := by
  induction hs with
  | new => exact .new
  | serve r hs _ ih => exact ih.serve parsePubkey (serviceInv_of_reachable parsePubkey hs) r

/-- **No multisig proposal is ever approved in the running service.**  In every reachable state,
every multisig proposal is pending with at most one approval, since the `approve` route always
approves as `"member1"` and the threshold is 3; so `execute_transaction` fails on every
identifier, writing nothing, and the second execution of `execute_transaction_twice` cannot
happen through the routes. -/
theorem multisig_pending_of_reachable {s : AppState} (hs : Reachable parsePubkey s) :
    (∀ m ∈ s.multisigCoordinator.proposals, m.status = .pending ∧ m.approvals.length ≤ 1) ∧
    ∀ k, ∃ e, MultisigCoordinator.executeTransaction k s.multisigCoordinator =
      .error e s.multisigCoordinator := by
  have hi := coordinatorInv_of_reachable parsePubkey hs
  refine ⟨fun m hm => ?_, hi.executeTransaction_error⟩
  obtain ⟨hst, -, hap⟩ := hi.proposals m hm
  exact ⟨hst, by rcases hap with hap | hap <;> simp [hap]⟩

end Routes

theorem multisig_pending_sampleRequests :
    ∃ e, MultisigCoordinator.executeTransaction "B" (run parsePubkeyText .new sampleRequests).multisigCoordinator =
      .error e (run parsePubkeyText .new sampleRequests).multisigCoordinator :=
  (multisig_pending_of_reachable parsePubkeyText reachable_sampleRequests).2 "B"

end Backend

end UpgradeGovernance
