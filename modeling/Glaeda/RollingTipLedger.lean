import Glaeda.Identity
import Glaeda.Transaction

/-!
# The rolling-tip ledger

The ledger of one development branch records which builds were observed,
how far their execution went, who holds the lease of a build, which artifact
was published for it and what the operator decided about promoting it. It is
**two transition systems over one log of events**. The live operations
(`admitTip`, `recordState`, `acquireLease`, …) check a request against the
indexes, append the events it stands for and update the indexes. `replay`
reads a log back: it checks every event against the indexes built so far and
updates them. Both write their checks out, and nothing in the code ties the
one to the other.

A live operation is a transaction over the ledger: what it appended before a
refusal stays, as it does in the code. The indexes are maps that are only
looked up and updated, so a map is the function that looks a key up.
-/

namespace Glaeda

open Checked Transaction

/-! ## Builds and artifacts

The repository, the commit, the tree and the digests of a build are read back
from a log as texts, without a check, and the ledger only ever compares them.
So a text is what they are here. -/

/-- A branch of a repository. -/
structure TipStream where
  repository : String
  branch : String
deriving DecidableEq, Repr

/-- **The exact inputs of a build.** No mutable name is part of them. -/
structure BuildKey where
  stream : TipStream
  commit : String
  tree : String
  workflowRevision : String
  lockfileDigest : Option String
  sourceBundleDigest : Option String
  toolchain : String
  toolchainImageDigest : Option String
  capabilityDigest : Option String
  resetDigest : Option String
  target : String
  platform : String
  architecture : String
  configuration : String
deriving DecidableEq, Repr

/-- An artifact, and what made it. -/
structure ArtifactProvenance where
  artifactId : String
  build : BuildKey
  contentDigest : String
  producer : String
  producerRunId : Nat
  producerAttempt : Nat
  executionAttempt : Nat
deriving DecidableEq, Repr

/-- How far a build is. -/
inductive BuildExecutionState where
  | observed
  | queued
  | leased
  | running
  | succeeded
  | failed
  | cancelled
deriving DecidableEq, Repr

namespace BuildExecutionState

/-- How far a state is. -/
def rank : BuildExecutionState → Nat
  | .observed => 0
  | .queued => 1
  | .leased => 2
  | .running => 3
  | .succeeded | .failed | .cancelled => 4

/-- The build is over. -/
def isTerminal : BuildExecutionState → Bool
  | .succeeded | .failed | .cancelled => true
  | .observed | .queued | .leased | .running => false

/-- The states with a lease. -/
def mayHoldLease : BuildExecutionState → Bool
  | .leased | .running => true
  | _ => false

end BuildExecutionState

/-- Whether an artifact can be used again. -/
inductive ReuseDecision where
  | hit
  | miss
  | inFlight
deriving DecidableEq, Repr

/-- Whether a build is promoted. -/
inductive PromotionDecision where
  | accepted
  | delayed
  | rejected
deriving DecidableEq, Repr

/-- How a build ended. -/
inductive ReceiptOutcome where
  | succeeded
  | failed
  | superseded
deriving DecidableEq, Repr

/-- **A lease**: the attempt, the worker and the fence it was taken with. The
three lease events carry the same fields. -/
structure ActiveLease where
  build : BuildKey
  attempt : Nat
  leaseId : String
  hostId : String
  fencingToken : Nat
  expiresAtMillis : Nat
deriving DecidableEq, Repr

/-- **The facts a log records.** -/
inductive RollingTipEvent where
  | tipObserved (build : BuildKey)
  | buildStateChanged (build : BuildKey) (state : BuildExecutionState) (attempt : Nat)
  | leaseAcquired (lease : ActiveLease)
  | leaseReleased (lease : ActiveLease)
  | leaseReclaimed (lease : ActiveLease) (reclaimedBy : String)
  | artifactPublished (artifact : ArtifactProvenance)
  | artifactReuse (build : BuildKey) (decision : ReuseDecision)
      (artifactDigest : Option String)
  | promotionRequested (build : BuildKey) (expectedRevision : Nat)
  | promotionDecided (build : BuildKey) (decision : PromotionDecision)
      (expectedRevision pointerRevision : Nat)
  | backpressure (build : BuildKey) (reason : String)
  | receiptClosed (build : BuildKey) (outcome : ReceiptOutcome)
deriving DecidableEq, Repr

/-- An event with its place in the log. -/
structure EventEnvelope where
  schemaVersion : Nat
  sequence : Nat
  eventId : String
  stream : TipStream
  occurredAtMillis : Nat
  event : RollingTipEvent
deriving DecidableEq, Repr

/-- The build a stream points to. -/
structure PromotionPointer where
  stream : TipStream
  revision : Nat
  build : BuildKey
  decision : PromotionDecision
deriving DecidableEq, Repr

/-- What becomes of an admitted build. -/
inductive BuildAdmission where
  | queued
  | reused (artifact : ArtifactProvenance)
  | inFlight
deriving DecidableEq, Repr

/-- The refusals of the ledger. -/
inductive RollingTipLedgerError where
  | invalidIdentifier (field : String)
  | invalidToken (field : String)
  | invalidTimestamp
  | invalidAttempt
  | invalidAttemptTransition (expected actual : Nat)
  | invalidBuildState
  | streamMismatch
  | unknownBuild
  | conflictingArtifact
  | staleBuildAttempt (expected actual : Nat)
  | staleBuildState
  | leaseAlreadyActive
  | leaseNotActive
  | leaseAttemptMismatch (expected actual : Nat)
  | leaseIdMismatch
  | leaseHostMismatch
  | leaseFencingMismatch
  | leaseExpiryMismatch
  | leaseExpired
  | leaseNotExpired
  | invalidLeaseState
  | invalidFencingToken
  | invalidLeaseExpiry
  | promotionNotRequested
  | promotionArtifactUnavailable
  | artifactExecutionMismatch
  | stalePromotionRevision (expected actual : Nat)
deriving DecidableEq, Repr

/-! ## Checks -/

/-- A token: a bounded text with neither blanks nor control characters. The
two together are the bytes up to the space, and the delete character. -/
def validateToken (field value : String) : Except RollingTipLedgerError Unit :=
  refuseIf (value.isEmpty ∨ value.utf8ByteSize > 200
    ∨ value.toList.any (fun c => c.toNat ≤ 32 || c.toNat == 127)) (.invalidToken field)

/-- A time is not zero. -/
def requireTimestamp (timestamp : Nat) : Except RollingTipLedgerError Unit :=
  refuseIf (timestamp = 0) .invalidTimestamp

/-- A lease that can be held at the time. -/
def validateLeaseEvidence (lease : ActiveLease) (occurredAtMillis : Nat) :
    Except RollingTipLedgerError Unit := do
  refuseIf (lease.attempt = 0) .invalidAttempt
  validateToken "lease_id" lease.leaseId
  validateToken "host_id" lease.hostId
  refuseIf (lease.fencingToken = 0) .invalidFencingToken
  refuseIf (lease.expiresAtMillis ≤ occurredAtMillis) .invalidLeaseExpiry

variable (active lease : ActiveLease)

/-- The lease is the one that is held. -/
def matchLeaseEvidence : Except RollingTipLedgerError Unit := do
  refuseIf (lease.attempt ≠ active.attempt)
    (.leaseAttemptMismatch active.attempt lease.attempt)
  refuseIf (lease.leaseId ≠ active.leaseId) .leaseIdMismatch
  refuseIf (lease.hostId ≠ active.hostId) .leaseHostMismatch
  refuseIf (lease.fencingToken ≠ active.fencingToken) .leaseFencingMismatch
  refuseIf (lease.expiresAtMillis ≠ active.expiresAtMillis) .leaseExpiryMismatch

/-- A lease is given back in time. -/
def validateRelease (occurredAtMillis : Nat) : Except RollingTipLedgerError Unit := do
  matchLeaseEvidence active lease
  refuseIf (occurredAtMillis > active.expiresAtMillis) .leaseExpired

/-- A lease is taken away after its time. -/
def validateReclaim (occurredAtMillis : Nat) : Except RollingTipLedgerError Unit := do
  matchLeaseEvidence active lease
  refuseIf (occurredAtMillis ≤ active.expiresAtMillis) .leaseNotExpired

/-! ## The ledger -/

/-- An attempt to build, and how far it is. -/
structure ExecutionRecord where
  attempt : Nat
  state : BuildExecutionState
deriving DecidableEq, Repr

/-- **The ledger**: the log, and the indexes derived from it. -/
structure RollingTipLedger where
  stream : TipStream
  nextSequence : Nat
  events : List EventEnvelope
  artifacts : BuildKey → Option ArtifactProvenance
  inFlight : Finset BuildKey
  states : BuildKey → Option ExecutionRecord
  activeLeases : BuildKey → Option ActiveLease
  lastFencingTokens : BuildKey × Nat → Option Nat
  promotionRequests : Finset BuildKey
  promotion : Option PromotionPointer

namespace RollingTipLedger

/-- A ledger with nothing in it. -/
def new (stream : TipStream) : RollingTipLedger where
  stream := stream
  nextSequence := 1
  events := []
  artifacts := fun _ => none
  inFlight := ∅
  states := fun _ => none
  activeLeases := fun _ => none
  lastFencingTokens := fun _ => none
  promotionRequests := ∅
  promotion := none

/-- The version of an event. -/
def schemaVersion : Nat := 2

/-- The oldest version that is read. -/
def minSupportedSchemaVersion : Nat := 1

variable (ledger : RollingTipLedger) (build : BuildKey)

/-- The build is one of the stream. -/
def requireStream : Except RollingTipLedgerError Unit :=
  refuseIf (build.stream ≠ ledger.stream) .streamMismatch

/-- The ledger has heard of the build. -/
def isKnown : Bool :=
  (ledger.states build).isSome || decide (build ∈ ledger.inFlight)
    || (ledger.artifacts build).isSome

/-- There are numbers for some more events. -/
def ensureCapacity (count : Nat) : Except RollingTipLedgerError Unit :=
  (okOr (checkedAdd u64Size ledger.nextSequence count)
    (.invalidIdentifier "event sequence")).map fun _ => ()

/-- How often a build was promoted. -/
def promotionRevision : Nat :=
  match ledger.promotion with
  | none => 0
  | some pointer => pointer.revision

/-- A number in sixteen digits. -/
def hex16 (n : Nat) : List Char :=
  let digits := Nat.toDigits 16 n
  List.replicate (16 - digits.length) '0' ++ digits

/-- The name of an event. -/
def eventId (stream : TipStream) (sequence : Nat) : String :=
  String.ofList (stream.branch.toList ++ '-' :: hex16 sequence)

variable (current : ExecutionRecord) (state : BuildExecutionState)

/-- **How an execution record may change**, as both transition systems have
it: a further attempt starts queued, after the last one ended and its lease
was given back, and within one attempt the states only go on. -/
def checkTransition (attempt : Nat) : Except RollingTipLedgerError Unit := do
  refuseIf (attempt < current.attempt) (.staleBuildAttempt current.attempt attempt)
  if attempt > current.attempt then
    let expected := saturatingAdd u32Size current.attempt 1
    refuseIf (attempt ≠ expected ∨ ¬ current.state.isTerminal ∨ state ≠ .queued)
      (.invalidAttemptTransition expected attempt)
    refuseIf ((ledger.activeLeases build).isSome) .leaseAlreadyActive
  else
    refuseIf (state.rank < current.state.rank
      ∨ (state.isTerminal ∧ current.state.isTerminal ∧ state ≠ current.state)) .staleBuildState

/-- The ledger with a build in another state. -/
def changeState (attempt : Nat) : RollingTipLedger :=
  let started :=
    if attempt > current.attempt ∧ state = .queued then insert build ledger.inFlight
    else ledger.inFlight
  { ledger with
    states := Function.update ledger.states build (some ⟨attempt, state⟩)
    inFlight := if state.isTerminal then started.erase build else started }

/-! ## Replay -/

/-- A state of the log. -/
def replayState (attempt timestamp : Nat) : Except RollingTipLedgerError RollingTipLedger := do
  ledger.requireStream build
  requireTimestamp timestamp
  refuseIf (attempt = 0) .invalidAttempt
  refuseIf (state = .observed) .invalidBuildState
  match ledger.states build with
  | none =>
    refuseIf (state ≠ .queued ∨ attempt ≠ 1) .unknownBuild
    pure { ledger with
      states := Function.update ledger.states build (some ⟨attempt, state⟩)
      inFlight := insert build ledger.inFlight }
  | some current =>
    ledger.checkTransition build current state attempt
    pure (ledger.changeState build current state attempt)

/-- A lease of the log is taken. -/
def replayLeaseAcquired (lease : ActiveLease) (occurredAtMillis : Nat) :
    Except RollingTipLedgerError RollingTipLedger := do
  ledger.requireStream lease.build
  requireTimestamp occurredAtMillis
  validateLeaseEvidence lease occurredAtMillis
  let execution ← okOr (ledger.states lease.build) .unknownBuild
  refuseIf (execution.attempt ≠ lease.attempt)
    (.leaseAttemptMismatch execution.attempt lease.attempt)
  refuseIf (¬ execution.state.mayHoldLease) .invalidLeaseState
  refuseIf ((ledger.activeLeases lease.build).isSome) .leaseAlreadyActive
  refuseIf ((ledger.lastFencingTokens (lease.build, lease.attempt)).any
    fun last => lease.fencingToken ≤ last) .invalidFencingToken
  pure { ledger with
    lastFencingTokens := Function.update ledger.lastFencingTokens (lease.build, lease.attempt)
      (some lease.fencingToken)
    activeLeases := Function.update ledger.activeLeases lease.build (some lease) }

/-- A lease of the log is given back. -/
def replayLeaseReleased (lease : ActiveLease) (occurredAtMillis : Nat) :
    Except RollingTipLedgerError RollingTipLedger := do
  ledger.requireStream lease.build
  requireTimestamp occurredAtMillis
  refuseIf (lease.attempt = 0) .invalidAttempt
  validateToken "lease_id" lease.leaseId
  validateToken "host_id" lease.hostId
  refuseIf (lease.fencingToken = 0 ∨ lease.expiresAtMillis = 0) .invalidFencingToken
  let active ← okOr (ledger.activeLeases lease.build) .leaseNotActive
  validateRelease active lease occurredAtMillis
  pure { ledger with activeLeases := Function.update ledger.activeLeases lease.build none }

/-- A lease of the log is taken away. -/
def replayLeaseReclaimed (lease : ActiveLease) (reclaimedBy : String) (occurredAtMillis : Nat) :
    Except RollingTipLedgerError RollingTipLedger := do
  ledger.requireStream lease.build
  requireTimestamp occurredAtMillis
  validateToken "reclaimed_by" reclaimedBy
  let active ← okOr (ledger.activeLeases lease.build) .leaseNotActive
  validateReclaim active lease occurredAtMillis
  pure { ledger with activeLeases := Function.update ledger.activeLeases lease.build none }

/-- A decision of the log about an artifact. -/
def replayReuse (artifactDigest : Option String) :
    ReuseDecision → Except RollingTipLedgerError Unit
  | .hit => do
    let artifact ← okOr (ledger.artifacts build) .artifactExecutionMismatch
    let execution ← okOr (ledger.states build) .artifactExecutionMismatch
    refuseIf (artifactDigest ≠ some artifact.contentDigest ∨ execution.state ≠ .succeeded
      ∨ artifact.executionAttempt ≠ execution.attempt) .artifactExecutionMismatch
  | .inFlight => refuseIf (artifactDigest.isSome ∨ build ∉ ledger.inFlight) .staleBuildState
  | .miss =>
    refuseIf (artifactDigest.isSome ∨ (ledger.artifacts build).isSome
      ∨ build ∈ ledger.inFlight) .staleBuildState

/-- Only what succeeded is accepted. -/
def checkAcceptance (decision : PromotionDecision) : Except RollingTipLedgerError Unit :=
  if decision = .accepted then do
    let artifact ← okOr (ledger.artifacts build) .promotionArtifactUnavailable
    let execution ← okOr (ledger.states build) .promotionArtifactUnavailable
    refuseIf (execution.state ≠ .succeeded ∨ artifact.executionAttempt ≠ execution.attempt)
      .promotionArtifactUnavailable
  else .ok ()

/-- **One event, read back**: it is checked against the indexes built so far,
and then they are updated. -/
def applyReplayedEvent (timestamp : Nat) :
    RollingTipEvent → Except RollingTipLedgerError RollingTipLedger
  | .tipObserved build => do
    ledger.requireStream build
    requireTimestamp timestamp
    pure ledger
  | .buildStateChanged build state attempt => ledger.replayState build state attempt timestamp
  | .leaseAcquired lease => ledger.replayLeaseAcquired lease timestamp
  | .leaseReleased lease => ledger.replayLeaseReleased lease timestamp
  | .leaseReclaimed lease reclaimedBy => ledger.replayLeaseReclaimed lease reclaimedBy timestamp
  | .artifactPublished artifact => do
    ledger.requireStream artifact.build
    requireTimestamp timestamp
    let execution ← okOr (ledger.states artifact.build) .unknownBuild
    refuseIf (execution.state ≠ .succeeded ∨ execution.attempt ≠ artifact.executionAttempt)
      .artifactExecutionMismatch
    refuseIf ((ledger.artifacts artifact.build).isSome) .conflictingArtifact
    pure { ledger with
      artifacts := Function.update ledger.artifacts artifact.build (some artifact)
      inFlight := ledger.inFlight.erase artifact.build }
  | .artifactReuse build decision artifactDigest => do
    ledger.requireStream build
    requireTimestamp timestamp
    ledger.replayReuse build artifactDigest decision
    pure ledger
  | .promotionRequested build _ => do
    ledger.requireStream build
    requireTimestamp timestamp
    refuseIf (¬ ledger.isKnown build) .unknownBuild
    pure { ledger with promotionRequests := insert build ledger.promotionRequests }
  | .promotionDecided build decision expectedRevision pointerRevision => do
    ledger.requireStream build
    requireTimestamp timestamp
    refuseIf (build ∉ ledger.promotionRequests) .promotionNotRequested
    refuseIf (expectedRevision ≠ ledger.promotionRevision
      ∨ pointerRevision ≠ saturatingAdd u64Size ledger.promotionRevision 1)
      (.stalePromotionRevision expectedRevision ledger.promotionRevision)
    ledger.checkAcceptance build decision
    pure { ledger with promotion := some ⟨ledger.stream, pointerRevision, build, decision⟩ }
  | .backpressure build reason => do
    ledger.requireStream build
    requireTimestamp timestamp
    validateToken "backpressure reason" reason
    pure ledger
  | .receiptClosed build _ => do
    ledger.requireStream build
    requireTimestamp timestamp
    pure ledger

/-- **One envelope, read back.** -/
def replayEnvelope (envelope : EventEnvelope) :
    Except RollingTipLedgerError RollingTipLedger := do
  refuseIf (¬ (minSupportedSchemaVersion ≤ envelope.schemaVersion
      ∧ envelope.schemaVersion ≤ schemaVersion) ∨ envelope.stream ≠ ledger.stream
    ∨ envelope.sequence ≠ ledger.nextSequence ∨ envelope.occurredAtMillis = 0)
    (.invalidIdentifier "event envelope")
  refuseIf (envelope.eventId ≠ eventId ledger.stream envelope.sequence)
    (.invalidIdentifier "event id")
  let next ← ledger.applyReplayedEvent envelope.occurredAtMillis envelope.event
  pure { next with
    events := next.events ++ [envelope]
    nextSequence := saturatingAdd u64Size next.nextSequence 1 }

/-- **A log, read back** from the empty ledger. -/
def replay (stream : TipStream) (events : List EventEnvelope) :
    Except RollingTipLedgerError RollingTipLedger :=
  events.foldlM replayEnvelope (new stream)

end RollingTipLedger

end Glaeda
