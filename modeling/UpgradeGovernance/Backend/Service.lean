import UpgradeGovernance.Backend.Components

/-!
# The upgrade service

`main.rs` builds one `MultisigCoordinator` and one `TimelockManager`, and hands the same two to
the `ProposalManager` and to the routes of its HTTP router.  This module models the
`ProposalManager` (`proposal.rs`), the upgrade routes of `main.rs`, and the service answering
requests one after another.

A route's method holds the lock of the component it calls for the whole call, and the
`ProposalManager`'s methods hold the lock of its records across their calls to the other two;
requests are answered one at a time.  `Uuid::new_v4` and the system clock are inputs of a
request, and `Request.Fresh` says that the identifiers a request draws are new.

## Main definitions

* `AppState` — the three components.
* `ProposalManager.proposeUpgrade`, `ProposalManager.executeUpgrade`,
  `ProposalManager.cancelUpgrade` — the methods of `proposal.rs`.
* `base58Decode`, `base58Encode`, `parsePubkeyText` — keys as text, as `solana_sdk` parses and
  prints them.
* `Http.proposeUpgrade`, `Http.approveUpgrade`, ... — the routes of `main.rs`.
* `Request`, `serve`, `run`, `Reachable` — the service answering requests.
-/

namespace UpgradeGovernance

namespace Backend

/-- The service's state: the `ProposalManager`'s records and the two components it shares with
the routes.  The program builder and the migration and rollback components are left out: no
upgrade route reaches them. -/
structure AppState where
  proposals : List Proposal
  multisigCoordinator : MultisigCoordinator
  timelockManager : TimelockManager

namespace AppState

variable {α : Type}

/-- The state `main` starts from. -/
def new : AppState := ⟨[], .new, .new⟩

/-- A method of the multisig coordinator, under its lock. -/
def multisig (x : EStateM UpgradeError MultisigCoordinator α) : EStateM UpgradeError AppState α :=
  focus (·.multisigCoordinator) (fun s mc => { s with multisigCoordinator := mc }) x

/-- A method of the timelock manager, under its lock. -/
def timelock (x : EStateM UpgradeError TimelockManager α) : EStateM UpgradeError AppState α :=
  focus (·.timelockManager) (fun s tm => { s with timelockManager := tm }) x

/-- `proposals.iter().find(|p| p.id == proposal_id)`. -/
def findProposal (s : AppState) (proposalId : String) : Option Proposal :=
  s.proposals.find? (·.id == proposalId)

/-- A write through `proposals.iter_mut().find(|p| p.id == proposal_id)`. -/
def updateProposal (s : AppState) (proposalId : String) (f : Proposal → Proposal) : AppState :=
  { s with proposals := modifyFirst (·.id == proposalId) f s.proposals }

/-- Every identifier in use: the proposal records' and the multisig proposals'. -/
def ids (s : AppState) : List String :=
  s.proposals.map (·.id) ++ s.multisigCoordinator.proposals.map (·.id)

end AppState

/-- What `get_proposal_status` reports. -/
structure ProposalStatusView where
  id : String
  status : ProposalStatus
  approvals : Nat
  threshold : UInt8
  timelockUntil : Int
  executedAt : Option Int
  deriving DecidableEq, Repr

/-! ### `ProposalManager` -/

namespace ProposalManager

/-- `build_upgrade_instruction`: an empty instruction. -/
def buildUpgradeInstruction (_newProgramBuffer : String) : EStateM UpgradeError AppState (List UInt8) :=
  pure []

/-- `notify_community`: it logs and returns `Ok`. -/
def notifyCommunity (_proposalId : String) : EStateM UpgradeError AppState Unit := pure ()

/-- `verify_upgrade`: it returns `Ok`. -/
def verifyUpgrade : EStateM UpgradeError AppState Unit := pure ()

/-- `announce_upgrade`: it logs and returns `Ok`. -/
def announceUpgrade (_proposalId : String) : EStateM UpgradeError AppState Unit := pure ()

/-- The record `propose_upgrade` pushes. -/
def newProposal (now : Int) (proposalId newProgramBuffer description : String) : Proposal :=
  { id := proposalId, proposer := "multisig", program := "program_id", newBuffer := newProgramBuffer,
    description, proposedAt := now, timelockUntil := now + 48 * 60 * 60, approvals := [],
    approvalThreshold := 3, status := .proposed, executedAt := none }

/-- `propose_upgrade` at clock `now`; `proposalId` and `multisigProposalId` are the
`Uuid::new_v4` it and `propose_transaction` draw.  No call reaches the timelock manager. -/
def proposeUpgrade (now : Int) (proposalId multisigProposalId newProgramBuffer description : String) :
    EStateM UpgradeError AppState String := do
  let timelockDuration : Int := 48 * 60 * 60
  let instruction ← buildUpgradeInstruction newProgramBuffer
  let _ ← AppState.multisig (MultisigCoordinator.proposeTransaction multisigProposalId
    { instruction, description, timelock := timelockDuration })
  modify fun s => { s with
    proposals := s.proposals ++ [newProposal now proposalId newProgramBuffer description] }
  notifyCommunity proposalId
  pure proposalId

/-- `wait_for_timelock` at clock `now`. -/
def waitForTimelock (now : Int) (proposalId : String) : EStateM UpgradeError AppState Unit := do
  let timelockEnd ← AppState.timelock (TimelockManager.getTimelockEnd proposalId)
  require (!decide (now < timelockEnd)) (.timelockActive (timelockEnd - now))

/-- `execute_upgrade` at clock `now`. -/
def executeUpgrade (now : Int) (proposalId : String) : EStateM UpgradeError AppState Unit := do
  let proposal ← okOr ((← get).findProposal proposalId) (.proposalNotFound proposalId)
  require (proposal.status != .executed) .alreadyExecuted
  require (proposal.status != .cancelled) .alreadyCancelled
  waitForTimelock now proposalId
  require (!decide (proposal.approvals.length < proposal.approvalThreshold.toNat))
    (.insufficientApprovals proposal.approvals.length proposal.approvalThreshold.toNat)
  AppState.multisig (MultisigCoordinator.executeTransaction proposalId)
  verifyUpgrade
  modify (·.updateProposal proposalId fun p => { p with status := .executed, executedAt := some now })
  announceUpgrade proposalId

/-- `cancel_upgrade`. -/
def cancelUpgrade (proposalId : String) : EStateM UpgradeError AppState Unit := do
  let proposal ← okOr ((← get).findProposal proposalId) (.proposalNotFound proposalId)
  require (proposal.status != .executed) .alreadyExecuted
  modify (·.updateProposal proposalId fun p => { p with status := .cancelled })

/-- `list_proposals`. -/
def listProposals : EStateM UpgradeError AppState (List Proposal) := do
  pure (← get).proposals

/-- `get_proposal_status`. -/
def getProposalStatus (proposalId : String) : EStateM UpgradeError AppState ProposalStatusView := do
  let proposal ← okOr ((← get).findProposal proposalId) (.proposalNotFound proposalId)
  pure ⟨proposal.id, proposal.status, proposal.approvals.length, proposal.approvalThreshold,
    proposal.timelockUntil, proposal.executedAt⟩

end ProposalManager

/-! ### Public keys as text

The routes take a program buffer as text, parse it with `str::parse::<Pubkey>`, and the
`ProposalManager` keeps it as text again, `Pubkey::to_string`.  Both are `solana_sdk`'s, over the
`bs58` crate: a key is 32 bytes, and its text is their base58 encoding in Bitcoin's alphabet.
`from_str` refuses a text of more than 44 bytes, a character outside the alphabet, and a text
that decodes to any number of bytes but 32. -/

/-- Bitcoin's base58 alphabet, the one `bs58` uses. -/
def base58Alphabet : List Char := "123456789ABCDEFGHJKLMNPQRSTUVWXYZabcdefghijkmnopqrstuvwxyz".toList

/-- The value of a base58 character, `bs58`'s decode table: the alphabet is six runs of
consecutive characters; `none` outside them. -/
def base58Digit? (c : Char) : Option Nat :=
  if '1' ≤ c ∧ c ≤ '9' then some (c.toNat - 49)
  else if 'A' ≤ c ∧ c ≤ 'H' then some (c.toNat - 56)
  else if 'J' ≤ c ∧ c ≤ 'N' then some (c.toNat - 57)
  else if 'P' ≤ c ∧ c ≤ 'Z' then some (c.toNat - 58)
  else if 'a' ≤ c ∧ c ≤ 'k' then some (c.toNat - 64)
  else if 'm' ≤ c ∧ c ≤ 'z' then some (c.toNat - 65)
  else none

/-- The decode table inverts the alphabet. -/
theorem base58Digit?_getD_alphabet : ∀ i < 58, base58Digit? (base58Alphabet.getD i '1') = some i := by
  decide

/-- The big-endian bytes of `n`, as few as it takes, within `fuel` bytes. -/
def bytesBE : Nat → Nat → List UInt8
  | 0, _ => []
  | fuel + 1, n => if n = 0 then [] else bytesBE fuel (n / 256) ++ [UInt8.ofNat (n % 256)]

/-- The base58 digits of `n`, most significant first, as few as it takes, within `fuel`. -/
def digits58 : Nat → Nat → List Nat
  | 0, _ => []
  | fuel + 1, n => if n = 0 then [] else digits58 fuel (n / 58) ++ [n % 58]

/-- `bs58::decode(text).into_vec()`: each leading `1` is a zero byte, followed by the number
the digits spell, big-endian, with no leading zero byte; `none` on a character outside the
alphabet.  A digit is less than a byte, so as many bytes as digits hold the number. -/
def base58Decode (text : String) : Option (List UInt8) := do
  let digits ← text.toList.mapM base58Digit?
  pure (List.replicate (digits.takeWhile (· == 0)).length 0 ++
    bytesBE digits.length (digits.foldl (fun acc d => acc * 58 + d) 0))

/-- `bs58::encode(bytes).into_string()`: each leading zero byte is a `1`, followed by the
number the bytes hold in base58, most significant digit first.  Two digits hold more than a
byte, so twice as many digits as bytes hold the number. -/
def base58Encode (bytes : List UInt8) : String :=
  ⟨List.replicate (bytes.takeWhile (· == 0)).length '1' ++
    (digits58 (2 * bytes.length) (bytes.foldl (fun acc b => acc * 256 + b.toNat) 0)).map
      (base58Alphabet.getD · '1')⟩

/-- `<Pubkey as FromStr>::from_str`: the 32 bytes of a text of at most 44 bytes. -/
def pubkeyFromStr (text : String) : Option (List UInt8) :=
  if 44 < text.utf8ByteSize then none
  else match base58Decode text with
    | some bytes => if bytes.length = 32 then some bytes else none
    | none => none

/-- `str::parse::<Pubkey>` followed by `to_string`: the text of the key a text names, `none`
where the parse fails. -/
def parsePubkeyText (text : String) : Option String := (pubkeyFromStr text).map base58Encode

/-! ### Routes -/

/-- The body of `POST /upgrade/propose`. -/
structure ProposeUpgradeRequest where
  newProgramBuffer : String
  description : String
  deriving DecidableEq, Repr

/-- The answer of `POST /upgrade/propose`. -/
structure ProposeUpgradeResponse where
  proposalId : String
  timelockUntil : Int
  deriving DecidableEq, Repr

/-- The JSON body of a route's `Ok` answer. -/
inductive Reply
  | proposed (response : ProposeUpgradeResponse)
  /-- `{"status": status, "proposal_id": proposal_id}`. -/
  | status (status proposalId : String)
  | proposals (proposals : List Proposal)
  | proposalStatus (view : ProposalStatusView)
  deriving DecidableEq, Repr

section Routes

-- `str::parse::<Pubkey>` followed by `to_string`, which `parsePubkeyText` writes out; the
-- results on every state hold for every parser.
variable (parsePubkey : String → Option String)

namespace Http

/-- `propose_upgrade` of `main.rs`. -/
def proposeUpgrade (now : Int) (proposalId multisigProposalId : String) (req : ProposeUpgradeRequest) :
    EStateM UpgradeError AppState ProposeUpgradeResponse := do
  let bufferPubkey ← okOr (parsePubkey req.newProgramBuffer) .invalidPubkey
  let proposalId ← ProposalManager.proposeUpgrade now proposalId multisigProposalId bufferPubkey
    req.description
  let timelockUntil ← AppState.timelock (TimelockManager.getTimelockEnd proposalId)
  pure ⟨proposalId, timelockUntil⟩

/-- `approve_upgrade` of `main.rs`: it approves through the multisig coordinator. -/
def approveUpgrade (proposalId : String) : EStateM UpgradeError AppState Reply := do
  AppState.multisig (MultisigCoordinator.approveProposal proposalId)
  pure (.status "approved" proposalId)

/-- `execute_upgrade` of `main.rs`. -/
def executeUpgrade (now : Int) (proposalId : String) : EStateM UpgradeError AppState Reply := do
  ProposalManager.executeUpgrade now proposalId
  pure (.status "executed" proposalId)

/-- `cancel_upgrade` of `main.rs`. -/
def cancelUpgrade (proposalId : String) : EStateM UpgradeError AppState Reply := do
  ProposalManager.cancelUpgrade proposalId
  pure (.status "cancelled" proposalId)

end Http

/-- A request to an upgrade route, with the clock reading and the fresh identifiers it uses. -/
inductive Request
  | proposeUpgrade (now : Int) (proposalId multisigProposalId : String) (req : ProposeUpgradeRequest)
  | approveUpgrade (proposalId : String)
  | executeUpgrade (now : Int) (proposalId : String)
  | cancelUpgrade (proposalId : String)
  | listProposals
  | getProposalStatus (proposalId : String)
  deriving DecidableEq, Repr

/-- The route a request goes to. -/
def Request.handler : Request → EStateM UpgradeError AppState Reply
  | .proposeUpgrade now a b req => do
      pure (.proposed (← Http.proposeUpgrade parsePubkey now a b req))
  | .approveUpgrade proposalId => Http.approveUpgrade proposalId
  | .executeUpgrade now proposalId => Http.executeUpgrade now proposalId
  | .cancelUpgrade proposalId => Http.cancelUpgrade proposalId
  | .listProposals => do pure (.proposals (← ProposalManager.listProposals))
  | .getProposalStatus proposalId => do
      pure (.proposalStatus (← ProposalManager.getProposalStatus proposalId))

/-- The identifiers a request draws with `Uuid::new_v4` are new, and differ from each other. -/
def Request.Fresh (s : AppState) : Request → Prop
  | .proposeUpgrade _ a b _ => a ≠ b ∧ a ∉ s.ids ∧ b ∉ s.ids
  | _ => True

instance Request.decidableFresh (s : AppState) : (r : Request) → Decidable (r.Fresh s)
  | .proposeUpgrade _ a b _ => inferInstanceAs (Decidable (a ≠ b ∧ a ∉ s.ids ∧ b ∉ s.ids))
  | .approveUpgrade _ | .executeUpgrade _ _ | .cancelUpgrade _ | .listProposals
  | .getProposalStatus _ => isTrue trivial

/-- The service answering one request: the state after it, and the answer. -/
def serve (s : AppState) (r : Request) : AppState × Except UpgradeError Reply :=
  match r.handler parsePubkey s with
  | .ok reply s' => (s', .ok reply)
  | .error e s' => (s', .error e)

/-- The state after answering requests one after another. -/
def run (s : AppState) (rs : List Request) : AppState := rs.foldl (fun s r => (serve parsePubkey s r).1) s

/-- The states the service reaches from its start, drawing fresh identifiers. -/
inductive Reachable : AppState → Prop
  | new : Reachable AppState.new
  | serve {s : AppState} (r : Request) :
      Reachable s → r.Fresh s → Reachable (serve parsePubkey s r).1

end Routes

end Backend

end UpgradeGovernance
