import UpgradeGovernance.Backend.Components
import Mathlib.Data.List.Infix
import Mathlib.Data.Rat.Floor

/-!
# The security auditor's rules

`SecurityAuditor` (`security.rs`) checks a multisig configuration and a timelock duration
against the rules the service is meant to keep: three to twenty distinct members, a threshold of
at least two, at most the member count and at least half of it, and a timelock of at least 48
hours.  It also audits an upgrade proposal: three checks on the program hash and the buffer
account give issues, two checks on the description give warnings, and the proposal may proceed
when there is no issue.  The three checks on the hash and the buffer are placeholders that accept
everything.  Nothing in the repository calls the auditor: not `initialize` on chain, and no route
of the service.

## Main definitions

* `QuorumRule` — the rule on a configuration, as a predicate.
* `SecurityAuditor.verifyMultisigConfig`, `SecurityAuditor.verifyTimelock` — the two checks.
* `AuditResult.ofFindings`, `SecurityAuditor.auditProposal`, `AuditResult.canProceed` — the
  audit of a proposal.

## Main results

* `scanDuplicates_nil_iff` — the duplicate scan rejects exactly the lists that are not distinct.
* `verifyMultisigConfig_characterization` — the check answers `Ok(true)` exactly on three to
  twenty distinct members with a threshold from two to the member count and at least `⌈n / 2⌉`,
  and an internal error, never `Ok(false)`, on every other configuration.
-/

namespace UpgradeGovernance

namespace Backend

/-- Three to twenty distinct members, and a threshold between two, half the members rounded up,
and the member count. -/
structure QuorumRule (members : List String) (threshold : Nat) : Prop where
  three_le : 3 ≤ members.length
  le_twenty : members.length ≤ 20
  two_le : 2 ≤ threshold
  le_length : threshold ≤ members.length
  nodup : members.Nodup
  half_le : (members.length + 1) / 2 ≤ threshold

/-- A check that returns early on its condition succeeds exactly when the condition fails and
the rest succeeds. -/
theorem ite_error_eq_ok {ε α : Type} {c : Prop} [Decidable c] {e : ε} {x : Except ε α} {a : α} :
    (if c then .error e else x) = .ok a ↔ ¬c ∧ x = .ok a := by
  by_cases hc : c <;> simp [hc]

namespace SecurityAuditor

/-- The duplicate scan of `verify_multisig_config`: `seen.insert(member)` for each member in turn,
stopping at the first member `seen` already holds. -/
def scanDuplicates (seen : List String) : List String → Bool
  | [] => false
  | member :: members => if member ∈ seen then true else scanDuplicates (member :: seen) members

/-- The scan finds a member twice, or a member already seen, exactly when the members are not
distinct and fresh. -/
theorem scanDuplicates_iff (seen members : List String) :
    scanDuplicates seen members = true ↔ ¬(members.Nodup ∧ ∀ m ∈ members, m ∉ seen) := by
  induction members generalizing seen with
  | nil => simp [scanDuplicates]
  | cons member members ih =>
    by_cases h : member ∈ seen
    · simp [scanDuplicates, h]
    · simp only [scanDuplicates, h, if_false, ih, List.nodup_cons, List.mem_cons, not_or]
      constructor
      · rintro hn ⟨⟨hm, hnd⟩, hall⟩
        exact hn ⟨hnd, fun m hm' => ⟨fun e => hm (e ▸ hm'), (hall m (.inr hm'))⟩⟩
      · rintro hn ⟨hnd, hall⟩
        refine hn ⟨⟨fun hm => (hall member hm).1 rfl, hnd⟩, fun m hm => ?_⟩
        rcases hm with rfl | hm
        · exact h
        · exact (hall m hm).2

/-- The loop of `verify_multisig_config` rejects exactly the member lists that are not
distinct. -/
theorem scanDuplicates_nil_iff (members : List String) :
    scanDuplicates [] members = true ↔ ¬members.Nodup := by
  simp [scanDuplicates_iff]

/-- `verify_multisig_config`, on the members' base58 texts, with its scan through a `HashSet`
as `scanDuplicates`.  It computes `(members.len() as f64 * 0.5).ceil() as u8` once at most
twenty members are left, where the float is exact and the value is `(members.len() + 1) / 2`. -/
def verifyMultisigConfig (members : List String) (threshold : UInt8) : Except UpgradeError Bool :=
  if members.length < 3 then .error (.internalError "Multisig must have at least 3 members")
  else if members.length > 20 then .error (.internalError "Multisig should not exceed 20 members")
  else if threshold.toNat < 2 then .error (.internalError "Threshold must be at least 2")
  else if threshold.toNat > members.length % 256 then
    .error (.internalError "Threshold cannot exceed number of members")
  else if scanDuplicates [] members then
    .error (.internalError "Duplicate multisig members not allowed")
  else if threshold.toNat < (members.length + 1) / 2 then
    .error (.internalError
      ("Threshold must be at least " ++ toString ((members.length + 1) / 2) ++ " for security"))
  else .ok true

/-- `verify_multisig_config` answers `Ok` on exactly the configurations of `QuorumRule`, and its
answer is then `true`. -/
theorem verifyMultisigConfig_eq_ok_iff {members : List String} {threshold : UInt8} {b : Bool} :
    verifyMultisigConfig members threshold = .ok b ↔ b = true ∧ QuorumRule members threshold.toNat := by
  simp only [verifyMultisigConfig, ite_error_eq_ok, scanDuplicates_nil_iff, Except.ok.injEq, not_lt,
    not_not, gt_iff_lt]
  constructor
  · rintro ⟨h1, h2, h3, h4, h5, h6, rfl⟩
    exact ⟨rfl, h1, h2, h3, by omega, h5, h6⟩
  · rintro ⟨rfl, h1, h2, h3, h4, h5, h6⟩
    exact ⟨h1, h2, h3, by omega, h5, h6, rfl⟩

example :
    verifyMultisigConfig ["m1", "m2", "m3", "m4", "m5"] 2 =
      .error (.internalError "Threshold must be at least 3 for security") := rfl

/-- A check that returns early with an internal error answers `Ok(true)` or an internal error
when the rest does. -/
theorem ite_internalError {c : Prop} [Decidable c] {m : String} {x : Except UpgradeError Bool}
    (h : x = .ok true ∨ ∃ m', x = .error (.internalError m')) :
    (if c then .error (.internalError m) else x) = .ok true ∨
      ∃ m', (if c then .error (.internalError m) else x) = .error (.internalError m') := by
  split
  · exact .inr ⟨m, rfl⟩
  · exact h

/-- Half the members rounded up, `⌈n / 2⌉`, is `(n + 1) / 2`. -/
theorem ceil_half_le_iff (n t : ℕ) : ⌈(n : ℚ) / 2⌉ ≤ (t : ℤ) ↔ (n + 1) / 2 ≤ t := by
  rw [Int.ceil_le, div_le_iff₀ (by norm_num : (0 : ℚ) < 2)]
  norm_cast
  omega

/-- **The configuration validator.**  For every member list and threshold, the check answers
`Ok(true)` exactly on three to twenty distinct members with a threshold from two to the member
count and at least `⌈n / 2⌉`; it never answers `Ok(false)`, and otherwise it answers an internal
error. -/
theorem verifyMultisigConfig_characterization (members : List String) (threshold : UInt8) :
    (verifyMultisigConfig members threshold = .ok true ↔
      3 ≤ members.length ∧ members.length ≤ 20 ∧ members.Nodup ∧ 2 ≤ threshold.toNat ∧
        threshold.toNat ≤ members.length ∧ ⌈(members.length : ℚ) / 2⌉ ≤ threshold.toNat) ∧
    verifyMultisigConfig members threshold ≠ .ok false ∧
    (verifyMultisigConfig members threshold = .ok true ∨
      ∃ message, verifyMultisigConfig members threshold = .error (.internalError message)) := by
  have hcases : verifyMultisigConfig members threshold = .ok true ∨
      ∃ message, verifyMultisigConfig members threshold = .error (.internalError message) := by
    unfold verifyMultisigConfig
    iterate 6 apply ite_internalError
    exact .inl rfl
  refine ⟨?_, by rcases hcases with h | ⟨m, h⟩ <;> rw [h] <;> simp, hcases⟩
  rw [verifyMultisigConfig_eq_ok_iff, ceil_half_le_iff]
  exact ⟨fun ⟨_, h⟩ => ⟨h.three_le, h.le_twenty, h.nodup, h.two_le, h.le_length, h.half_le⟩,
    fun ⟨h1, h2, h3, h4, h5, h6⟩ => ⟨rfl, h1, h2, h4, h5, h3, h6⟩⟩

/-- `verify_timelock`. -/
def verifyTimelock (timelockSeconds : Int) : Except UpgradeError Bool :=
  if timelockSeconds < 48 * 60 * 60 then
    .error (.internalError
      ("Timelock must be at least " ++ toString (48 * 60 * 60 : Int) ++ " seconds (48 hours)"))
  else .ok true

end SecurityAuditor

/-! ### The audit of a proposal -/

/-- `AuditSeverity`. -/
inductive AuditSeverity
  | pass
  | warning
  | critical
  deriving DecidableEq, Repr

/-- `AuditResult`. -/
structure AuditResult where
  passed : Bool
  severity : AuditSeverity
  issues : List String
  warnings : List String
  deriving DecidableEq, Repr

namespace AuditResult

/-- The result `audit_proposal` builds from its findings: it passes when there is no issue, and
its severity is critical with an issue, a warning with only warnings, and a pass otherwise. -/
def ofFindings (issues warnings : List String) : AuditResult :=
  { passed := issues.isEmpty
    severity := if !issues.isEmpty then .critical else if !warnings.isEmpty then .warning else .pass
    issues
    warnings }

/-- `can_proceed`. -/
def canProceed (r : AuditResult) : Bool := r.passed && r.severity != .critical

end AuditResult

/-- `str::contains`: the pattern occurs in the text as consecutive characters. -/
def containsStr (text pattern : String) : Bool := decide (pattern.toList <:+: text.toList)

namespace SecurityAuditor

/-- `verify_program_hash`: a placeholder that accepts every hash. -/
def verifyProgramHash (_hash : List UInt8) : Except UpgradeError Bool := .ok true

/-- `verify_buffer_account`: a placeholder that accepts every buffer. -/
def verifyBufferAccount (_buffer : Pubkey) : Except UpgradeError Bool := .ok true

/-- `check_known_vulnerabilities`: a placeholder that knows no vulnerable hash. -/
def checkKnownVulnerabilities (_hash : List UInt8) : Except UpgradeError Bool := .ok false

/-- The warnings `audit_proposal` draws from a description: shorter than 50 bytes, and no
`reviewed` in its lower case.  `to_lowercase` is the case map of the ASCII letters: the two other
characters whose lower case holds an ASCII letter, `K` (U+212A) and `İ` (U+0130), cannot form
`reviewed`. -/
def descriptionWarnings (description : String) : List String :=
  (if description.utf8ByteSize < 50 then ["Upgrade description is too short"] else []) ++
    if !containsStr description.toLower "reviewed" then ["No mention of code review in description"]
    else []

/-- The findings of `audit_proposal` for the answers of its three checks on the hash and the
buffer, and the description. -/
def auditWith (hashVerified bufferVerified vulnerable : Bool) (description : String) : AuditResult :=
  .ofFindings
    ((if !hashVerified then ["Program hash verification failed"] else []) ++
      (if !bufferVerified then ["Buffer account verification failed"] else []) ++
      if vulnerable then ["Program matches known vulnerable pattern"] else [])
    (descriptionWarnings description)

/-- `audit_proposal`, on the hash's 32 bytes.  Its checks run in the source's order; their
findings are collected into issues and warnings in that order. -/
def auditProposal (programHash : List UInt8) (bufferPubkey : Pubkey) (description : String) :
    Except UpgradeError AuditResult := do
  let hashVerified ← verifyProgramHash programHash
  let bufferVerified ← verifyBufferAccount bufferPubkey
  let vulnerable ← checkKnownVulnerabilities programHash
  pure (auditWith hashVerified bufferVerified vulnerable description)

end SecurityAuditor

end Backend

end UpgradeGovernance
