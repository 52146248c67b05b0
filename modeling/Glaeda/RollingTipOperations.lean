import Glaeda.RollingTipLedger

/-!
# The live operations of the rolling-tip ledger

Each operation checks its request against the indexes, appends the events it
stands for and updates the indexes, and each writes its own checks out. An
operation is a transaction whose effects are updates of the ledger: a refusal
leaves what was appended before it. That matters for `admitTip` alone, which
appends the observation of a tip before it looks for an artifact.
-/

namespace Glaeda

open Checked Transaction

variable (ledger : RollingTipLedger)

/-- The ledger after an update. -/
def updateLedger (update : RollingTipLedger → RollingTipLedger) : RollingTipLedger :=
  update ledger

/-- A transaction of the ledger. -/
abbrev LedgerTx := Tx updateLedger RollingTipLedgerError

namespace RollingTipLedger

/-! ## Appending -/

variable (occurredAtMillis : Nat) (event : RollingTipEvent)

/-- The next event of the log. -/
def envelope : EventEnvelope where
  schemaVersion := schemaVersion
  sequence := ledger.nextSequence
  eventId := eventId ledger.stream ledger.nextSequence
  stream := ledger.stream
  occurredAtMillis := occurredAtMillis
  event := event

/-- The event is appended. -/
def push (ledger : RollingTipLedger) : RollingTipLedger :=
  { ledger with
    events := ledger.events ++ [ledger.envelope occurredAtMillis event]
    nextSequence := ledger.nextSequence + 1 }

/-- The event is appended, if there is a number for it. -/
def append : LedgerTx Unit := do
  let ledger ← Tx.read
  Tx.check (ledger.ensureCapacity 1)
  Tx.perform (push occurredAtMillis event)

/-! ## Admission and execution -/

/-- The number of the next attempt. -/
def nextAttempt (build : BuildKey) : Nat :=
  match ledger.states build with
  | none => 1
  | some record => saturatingAdd u32Size record.attempt 1

variable (build : BuildKey)

/-- The build is queued. -/
def queue (attempt : Nat) (ledger : RollingTipLedger) : RollingTipLedger :=
  { ledger with
    inFlight := insert build ledger.inFlight
    states := Function.update ledger.states build (some ⟨attempt, .queued⟩) }

/-- **What admission answers** once the tip is in the log. Appending changes
the log only, so the indexes are those of the ledger the call began with. -/
def answer (build : BuildKey) (occurredAtMillis : Nat) : LedgerTx BuildAdmission :=
  match ledger.artifacts build with
  | some artifact => do
    Tx.check (refuseIf (ledger.states build ≠ some ⟨artifact.executionAttempt, .succeeded⟩)
      .artifactExecutionMismatch)
    append occurredAtMillis (.artifactReuse build .hit (some artifact.contentDigest))
    pure (.reused artifact)
  | none =>
    if build ∈ ledger.inFlight then do
      append occurredAtMillis (.artifactReuse build .inFlight none)
      pure .inFlight
    else do
      append occurredAtMillis (.artifactReuse build .miss none)
      Tx.check (refuseIf (ledger.nextAttempt build = 0) .invalidAttempt)
      append occurredAtMillis (.buildStateChanged build .queued (ledger.nextAttempt build))
      Tx.perform (queue build (ledger.nextAttempt build))
      pure .queued

/-- **Observe a tip and admit it.** A published artifact is reused and work
in flight is joined; anything else is queued. -/
def admitTip (occurredAtMillis : Nat) : LedgerTx BuildAdmission := do
  let ledger ← Tx.read
  Tx.check (ledger.requireStream build)
  Tx.check (requireTimestamp occurredAtMillis)
  Tx.check (ledger.ensureCapacity
    (if (ledger.artifacts build).isSome ∨ build ∈ ledger.inFlight then 2 else 3))
  append occurredAtMillis (.tipObserved build)
  ledger.answer build occurredAtMillis

/-- A build is in another state. -/
def recordState (state : BuildExecutionState) (attempt occurredAtMillis : Nat) : LedgerTx Unit := do
  let ledger ← Tx.read
  Tx.check (ledger.requireStream build)
  Tx.check (requireTimestamp occurredAtMillis)
  Tx.check (refuseIf (attempt = 0) .invalidAttempt)
  Tx.check (refuseIf (state = .observed) .invalidBuildState)
  let current ← Tx.check (okOr (ledger.states build) .unknownBuild)
  Tx.check (ledger.checkTransition build current state attempt)
  append occurredAtMillis (.buildStateChanged build state attempt)
  Tx.perform fun ledger => ledger.changeState build current state attempt

/-! ## Leases -/

variable (lease : ActiveLease)

/-- Take the lease of the current attempt. The check is the one replay makes,
on a copy of the ledger. -/
def acquireLease (occurredAtMillis : Nat) : LedgerTx Unit := do
  let ledger ← Tx.read
  let candidate ← Tx.check (ledger.replayLeaseAcquired lease occurredAtMillis)
  Tx.check (ledger.ensureCapacity 1)
  append occurredAtMillis (.leaseAcquired lease)
  Tx.perform fun ledger => { ledger with
    activeLeases := candidate.activeLeases
    lastFencingTokens := candidate.lastFencingTokens }

/-- The build has no lease any more. -/
def endLease (ledger : RollingTipLedger) : RollingTipLedger :=
  { ledger with activeLeases := Function.update ledger.activeLeases build none }

/-- A lease is given back. -/
def releaseLease (occurredAtMillis : Nat) : LedgerTx Unit := do
  let ledger ← Tx.read
  Tx.check (ledger.requireStream lease.build)
  Tx.check (requireTimestamp occurredAtMillis)
  let active ← Tx.check (okOr (ledger.activeLeases lease.build) .leaseNotActive)
  Tx.check (validateRelease active lease occurredAtMillis)
  Tx.check (ledger.ensureCapacity 1)
  append occurredAtMillis (.leaseReleased lease)
  Tx.perform (endLease lease.build)

/-- A lease that has run out is taken away. -/
def reclaimExpiredLease (reclaimedBy : String) (occurredAtMillis : Nat) : LedgerTx Unit := do
  let ledger ← Tx.read
  Tx.check (ledger.requireStream lease.build)
  Tx.check (requireTimestamp occurredAtMillis)
  Tx.check (validateToken "reclaimed_by" reclaimedBy)
  let active ← Tx.check (okOr (ledger.activeLeases lease.build) .leaseNotActive)
  Tx.check (validateReclaim active lease occurredAtMillis)
  Tx.check (ledger.ensureCapacity 1)
  append occurredAtMillis (.leaseReclaimed lease reclaimedBy)
  Tx.perform (endLease lease.build)

/-- Take or give back a lease without naming its fence: the next token and
the shortest expiry, or the evidence the ledger has. -/
def recordLease (leaseId hostId : String) (acquired : Bool)
    (occurredAtMillis : Nat) : LedgerTx Unit := do
  let ledger ← Tx.read
  let record ← Tx.check (okOr (ledger.states build) .unknownBuild)
  if acquired then
    acquireLease
      { build, attempt := record.attempt, leaseId, hostId
        fencingToken :=
          saturatingAdd u64Size ((ledger.lastFencingTokens (build, record.attempt)).getD 0) 1
        expiresAtMillis := saturatingAdd u64Size occurredAtMillis 1 } occurredAtMillis
  else
    let active ← Tx.check (okOr (ledger.activeLeases build) .leaseNotActive)
    releaseLease
      { build, attempt := active.attempt, leaseId, hostId
        fencingToken := active.fencingToken
        expiresAtMillis := active.expiresAtMillis } occurredAtMillis

/-! ## Artifacts and promotion -/

/-- Publish an artifact of the current, successful attempt. Publishing it
again changes nothing. -/
def publishArtifact (artifact : ArtifactProvenance) (occurredAtMillis : Nat) :
    LedgerTx Unit := do
  let ledger ← Tx.read
  Tx.check (ledger.requireStream artifact.build)
  Tx.check (requireTimestamp occurredAtMillis)
  let execution ← Tx.check (okOr (ledger.states artifact.build) .unknownBuild)
  Tx.check (refuseIf (execution.state ≠ .succeeded
    ∨ execution.attempt ≠ artifact.executionAttempt) .artifactExecutionMismatch)
  match ledger.artifacts artifact.build with
  | some existing => Tx.check (refuseIf (existing ≠ artifact) .conflictingArtifact)
  | none =>
    Tx.check (ledger.ensureCapacity 1)
    append occurredAtMillis (.artifactPublished artifact)
    Tx.perform fun ledger => { ledger with
      artifacts := Function.update ledger.artifacts artifact.build (some artifact)
      inFlight := ledger.inFlight.erase artifact.build }

/-- A promotion is asked for. -/
def requestPromotion (expectedRevision occurredAtMillis : Nat) : LedgerTx Unit := do
  let ledger ← Tx.read
  Tx.check (ledger.requireStream build)
  Tx.check (requireTimestamp occurredAtMillis)
  Tx.check (refuseIf (¬ ledger.isKnown build) .unknownBuild)
  Tx.check (ledger.ensureCapacity 1)
  append occurredAtMillis (.promotionRequested build expectedRevision)
  Tx.perform fun ledger =>
    { ledger with promotionRequests := insert build ledger.promotionRequests }

/-- A promotion is decided. -/
def decidePromotion (decision : PromotionDecision)
    (expectedRevision occurredAtMillis : Nat) : LedgerTx Nat := do
  let ledger ← Tx.read
  Tx.check (ledger.requireStream build)
  Tx.check (requireTimestamp occurredAtMillis)
  Tx.check (refuseIf (build ∉ ledger.promotionRequests) .promotionNotRequested)
  Tx.check (refuseIf (expectedRevision ≠ ledger.promotionRevision)
    (.stalePromotionRevision expectedRevision ledger.promotionRevision))
  Tx.check (ledger.checkAcceptance build decision)
  let revision := saturatingAdd u64Size ledger.promotionRevision 1
  Tx.check (ledger.ensureCapacity 1)
  append occurredAtMillis (.promotionDecided build decision expectedRevision revision)
  Tx.perform fun ledger =>
    { ledger with promotion := some ⟨ledger.stream, revision, build, decision⟩ }
  pure revision

/-- There is too much to do. -/
def recordBackpressure (reason : String) (occurredAtMillis : Nat) : LedgerTx Unit := do
  let ledger ← Tx.read
  Tx.check (ledger.requireStream build)
  Tx.check (requireTimestamp occurredAtMillis)
  Tx.check (validateToken "backpressure reason" reason)
  append occurredAtMillis (.backpressure build reason)

/-- A build is closed. -/
def closeReceipt (outcome : ReceiptOutcome) (occurredAtMillis : Nat) : LedgerTx Unit := do
  let ledger ← Tx.read
  Tx.check (ledger.requireStream build)
  Tx.check (requireTimestamp occurredAtMillis)
  append occurredAtMillis (.receiptClosed build outcome)

end RollingTipLedger

/-! ## Runs -/

/-- **A call of the ledger**, with its arguments. -/
inductive LedgerOperation where
  | admitTip (build : BuildKey) (occurredAtMillis : Nat)
  | recordState (build : BuildKey) (state : BuildExecutionState)
      (attempt occurredAtMillis : Nat)
  | acquireLease (lease : ActiveLease) (occurredAtMillis : Nat)
  | releaseLease (lease : ActiveLease) (occurredAtMillis : Nat)
  | reclaimExpiredLease (lease : ActiveLease) (reclaimedBy : String) (occurredAtMillis : Nat)
  | recordLease (build : BuildKey) (leaseId hostId : String) (acquired : Bool)
      (occurredAtMillis : Nat)
  | publishArtifact (artifact : ArtifactProvenance) (occurredAtMillis : Nat)
  | requestPromotion (build : BuildKey) (expectedRevision occurredAtMillis : Nat)
  | decidePromotion (build : BuildKey) (decision : PromotionDecision)
      (expectedRevision occurredAtMillis : Nat)
  | recordBackpressure (build : BuildKey) (reason : String) (occurredAtMillis : Nat)
  | closeReceipt (build : BuildKey) (outcome : ReceiptOutcome) (occurredAtMillis : Nat)
deriving DecidableEq, Repr

namespace RollingTipLedger

/-- **The ledger after a call**, whatever it answered. -/
def after (ledger : RollingTipLedger) : LedgerOperation → RollingTipLedger
  | .admitTip build time => (admitTip build time).final ledger
  | .recordState build state attempt time => (recordState build state attempt time).final ledger
  | .acquireLease lease time => (acquireLease lease time).final ledger
  | .releaseLease lease time => (releaseLease lease time).final ledger
  | .reclaimExpiredLease lease reclaimedBy time =>
    (reclaimExpiredLease lease reclaimedBy time).final ledger
  | .recordLease build leaseId hostId acquired time =>
    (recordLease build leaseId hostId acquired time).final ledger
  | .publishArtifact artifact time => (publishArtifact artifact time).final ledger
  | .requestPromotion build revision time => (requestPromotion build revision time).final ledger
  | .decidePromotion build decision revision time =>
    (decidePromotion build decision revision time).final ledger
  | .recordBackpressure build reason time => (recordBackpressure build reason time).final ledger
  | .closeReceipt build outcome time => (closeReceipt build outcome time).final ledger

/-- The ledger after some operations. -/
def runs (ledger : RollingTipLedger) (calls : List LedgerOperation) : RollingTipLedger :=
  calls.foldl after ledger

end RollingTipLedger

end Glaeda
