import Glaeda.CatalogCodec
import Glaeda.DeliveryConsumer

/-!
# The recovery state of a delivery

From the moment a message is reconciled until it is settled, one document
says how far its acknowledgement got. It **binds the catalogs before and
after the message** by revision and digest, so that whoever reads it can
tell whether the catalog it finds is one of the two.

The phases keep apart what was positively observed from what may have
happened. An acknowledgement is first written down as started; if its answer
was lost, the acquisition is asked for again, and an empty answer to that
proves nothing. Then only a later message can tell, and what it says is
carried as a `ScaleSetLifecycleResolution`, together with the catalog it was
derived from, until that message is acknowledged in turn.

A `ScaleSetDeliveryRecoveryState` is a record together with the proof that
it validates: every operation ends with the validation, and a document is
validated when it is read.
-/

namespace Glaeda

open Checked Json

/-! ## Errors -/

/-- The kinds of refusal. -/
inductive ScaleSetDeliveryRecoveryErrorKind where
  | invalidDocument
  | versionIncompatible
  | documentTooLarge
  | nonCanonical
  | corruptState
  | conflict
deriving DecidableEq, Repr

/-- A refusal, with its text. -/
structure ScaleSetDeliveryRecoveryError where
  kind : ScaleSetDeliveryRecoveryErrorKind
  message : String
deriving DecidableEq, Repr

/-- The state makes no sense. -/
def corruptRecoveryState : ScaleSetDeliveryRecoveryError :=
  ⟨.corruptState, "Scale Set delivery recovery state is corrupt"⟩

/-- The state does not allow it. -/
def recoveryConflict (message : String) : ScaleSetDeliveryRecoveryError :=
  ⟨.conflict, message⟩

/-! ## Catalog bindings -/

/-- What the digest of a catalog starts with. -/
def catalogBindingDomain : List UInt8 :=
  textBytes "smolrunner.scale-set-catalog-binding.v1" ++ [0]

variable (catalog : DisposableAttemptCatalogDocument)

/-- **The digest of a catalog**: of its document, with the length in
front. -/
def catalogDigest : Except ScaleSetDeliveryRecoveryError Sha256Digest := do
  let bytes ← (encodeDisposableAttemptCatalog catalog).mapError (fun _ => corruptRecoveryState)
  refuseIf (¬ bytes.length < u64Size) corruptRecoveryState
  (Sha256Digest.parse (String.ofList ("sha256:".toList ++ Sha256.hexDigest
    (catalogBindingDomain ++ Sha256.beBytes 8 bytes.length ++ bytes)))).mapError
    (fun _ => corruptRecoveryState)

/-- The catalog has this revision and digest. -/
def bindsCatalog (revision : DisposableAttemptCatalogRevision) (digest : Sha256Digest)
    (catalog : DisposableAttemptCatalogDocument) : Bool :=
  revision = catalog.revision && decide (catalogDigest catalog = .ok digest)

/-! ## The state -/

/-- The version of a state. -/
def scaleSetDeliveryRecoverySchemaVersion : Nat := 4

/-- The largest state. -/
def maxScaleSetDeliveryRecoveryBytes : Nat :=
  maxScaleSetDeliveryBytes * 4 + maxDisposableAttemptCatalogDocumentBytes * 4 + 64 * 1024

/-- The bound of a revision. -/
def maxDeliveryRecoveryRevision : Nat := 1000000000000

/-- **What a later message says about an ambiguous acquisition.** -/
structure ScaleSetLifecycleResolution where
  baseRevision : Nat
  delivery : ScaleSetDelivery
  acquired : List ScaleSetRunnerRequestId
  priorCatalog : DisposableAttemptCatalogDocument
  catalogRevision : DisposableAttemptCatalogRevision
  catalogDigest : Sha256Digest
deriving DecidableEq, Repr

/-- What a settlement rests on. -/
inductive ScaleSetDeliverySettlementProof where
  | acknowledged
  | acquisitionRecovery
  | lifecycleEvidence (resolution : ScaleSetLifecycleResolution)
deriving DecidableEq, Repr

/-- **How far the acknowledgement of a delivery got.** -/
inductive ScaleSetDeliveryRecoveryPhase where
  | reconciled
  | acknowledgementStarted
  | acknowledged (acquired : List ScaleSetRunnerRequestId)
  | acquisitionRecoveryObserved (acquired : List ScaleSetRunnerRequestId)
  | lifecycleReconciled (resolution : ScaleSetLifecycleResolution)
  | lifecycleAcknowledgementStarted (resolution : ScaleSetLifecycleResolution)
  | lifecycleAcknowledged (resolution : ScaleSetLifecycleResolution)
  | settlementPrepared (proof : ScaleSetDeliverySettlementProof)
      (acquired : List ScaleSetRunnerRequestId)
      (priorCatalog : DisposableAttemptCatalogDocument)
      (catalogRevision : DisposableAttemptCatalogRevision) (catalogDigest : Sha256Digest)
deriving DecidableEq, Repr

/-- What is kept of a message, before it is validated. -/
structure RecoveryRecord where
  schemaVersion : Nat
  revision : Nat
  priorCatalogRevision : DisposableAttemptCatalogRevision
  priorCatalogDigest : Sha256Digest
  catalogRevision : DisposableAttemptCatalogRevision
  catalogDigest : Sha256Digest
  delivery : ScaleSetDelivery
  phase : ScaleSetDeliveryRecoveryPhase
deriving DecidableEq, Repr

namespace RecoveryRecord

variable (s : RecoveryRecord)

/-- The catalog is the one before the message. -/
def matchesPriorCatalog (catalog : DisposableAttemptCatalogDocument) : Bool :=
  bindsCatalog s.priorCatalogRevision s.priorCatalogDigest catalog

/-- The catalog is the one after the message. -/
def matchesCatalog (catalog : DisposableAttemptCatalogDocument) : Bool :=
  bindsCatalog s.catalogRevision s.catalogDigest catalog

/-- The later message of a phase. -/
def lifecycleResolution : Option ScaleSetLifecycleResolution :=
  match s.phase with
  | .lifecycleReconciled resolution | .lifecycleAcknowledgementStarted resolution
  | .lifecycleAcknowledged resolution => some resolution
  | .reconciled | .acknowledgementStarted | .acknowledged _ | .acquisitionRecoveryObserved _
  | .settlementPrepared _ _ _ _ _ => none

variable (acquired : List ScaleSetRunnerRequestId)

/-- **The requests, as an ordered set**, unless one is repeated or was not
made available by the message. -/
def validatedAcquired : Except ScaleSetDeliveryRecoveryError (List ScaleSetRunnerRequestId) := do
  let available ← s.delivery.availableRequestIds.mapError (fun _ => corruptRecoveryState)
  refuseIf (¬ ((∀ id ∈ acquired, id ∈ available) ∧ acquired.Nodup))
    (recoveryConflict
      "acquired request evidence is duplicate or foreign to the durable delivery")
  return orderedIds acquired

/-- The acquired requests are in order. -/
def validateAcquired : Except ScaleSetDeliveryRecoveryError Unit := do
  let validated ← s.validatedAcquired acquired
  refuseIf (validated ≠ acquired) corruptRecoveryState

/-- The fields that do not depend on the phase. -/
def validateHeader : Except ScaleSetDeliveryRecoveryError Unit := do
  refuseIf (s.schemaVersion ≠ scaleSetDeliveryRecoverySchemaVersion
      ∨ ¬ (1 ≤ s.revision ∧ s.revision ≤ maxDeliveryRecoveryRevision)
      ∨ s.priorCatalogRevision.val > s.catalogRevision.val
      ∨ (s.priorCatalogRevision = s.catalogRevision
        ∧ s.priorCatalogDigest ≠ s.catalogDigest))
    corruptRecoveryState
  let _ ← (encodeScaleSetDelivery s.delivery).mapError (fun _ => corruptRecoveryState)

/-- The acquisition was asked for again. Only the first answer may be
empty. -/
def validateAcquisitionRecoveryObserved : Except ScaleSetDeliveryRecoveryError Unit := do
  refuseIf (¬ (3 ≤ s.revision ∧ (¬ acquired.isEmpty ∨ s.revision = 3))) corruptRecoveryState
  s.validateAcquired acquired

end RecoveryRecord

/-! ## Reconstructing a resolution -/

/-- The job of a later event. -/
def lifecycleJob : ScaleSetDeliveryLifecycleEvent →
    Except ScaleSetDeliveryRecoveryError ScaleSetDeliveryJobEvidence
  | .assigned job | .started job _ | .completed job _ _ => .ok job
  | .available _ => .error corruptRecoveryState

variable (originalEvents : List ScaleSetDeliveryLifecycleEvent)
variable (requestId : ScaleSetRunnerRequestId)

/-- The job the message made available. -/
def originalJob : Option ScaleSetDeliveryJobEvidence :=
  originalEvents.findSome? fun
    | .available job => if job.runnerRequestId = requestId then some job else none
    | _ => none

/-- Release a cancelled reservation. This repeats what the consumer does,
with the attempt looked up by its request. -/
def reconstructRelease (reservation : DisposableAttemptReservation) :
    Except ScaleSetDeliveryRecoveryError DisposableAttemptCatalogDocument :=
  catalog.releaseUnprovisioned (fun c => c.findActiveByRunnerRequestId requestId)
    corruptRecoveryState corruptRecoveryState reservation

/-- One event of the later message. -/
def reconstructStep (event : ScaleSetDeliveryLifecycleEvent)
    (catalog : DisposableAttemptCatalogDocument) (requestId : ScaleSetRunnerRequestId)
    (reservation : DisposableAttemptReservation) :
    Except ScaleSetDeliveryRecoveryError DisposableAttemptCatalogDocument :=
  match event with
  | .assigned _ => .ok catalog
  | .completed _ none result =>
    if result.value = "canceled" then reconstructRelease catalog requestId reservation
    else .error corruptRecoveryState
  | .available _ | .started _ _ | .completed _ (some _) _ => .error corruptRecoveryState

/-- One lifecycle event: **its job has to be, field by field, the one the
original message made available**. -/
def reconstructEvent (state : DisposableAttemptCatalogDocument × List ScaleSetRunnerRequestId)
    (event : ScaleSetDeliveryLifecycleEvent) : Except ScaleSetDeliveryRecoveryError
      (DisposableAttemptCatalogDocument × List ScaleSetRunnerRequestId) := do
  let job ← lifecycleJob event
  let original ← okOr (originalJob originalEvents job.runnerRequestId) corruptRecoveryState
  refuseIf (original ≠ job) corruptRecoveryState
  let reservation ← okOr (state.1.findActiveByRunnerRequestId job.runnerRequestId)
    corruptRecoveryState
  refuseIf (reservation.attempt.phase ≠ .reserved) corruptRecoveryState
  let next ← reconstructStep event state.1 job.runnerRequestId reservation
  return (next, state.2 ++ [job.runnerRequestId])

/-- How far a phase is after the base revision. -/
def expectedRevision : ScaleSetDeliveryRecoveryPhase → Option Nat
  | .lifecycleReconciled _ => some 1
  | .lifecycleAcknowledgementStarted _ => some 2
  | .lifecycleAcknowledged _ => some 3
  | .reconciled | .acknowledgementStarted | .acknowledged _ | .acquisitionRecoveryObserved _
  | .settlementPrepared _ _ _ _ _ => none

namespace ScaleSetLifecycleResolution

variable (resolution : ScaleSetLifecycleResolution)

/-- The catalog is the one after the resolution. -/
def matchesCatalog (catalog : DisposableAttemptCatalogDocument) : Bool :=
  bindsCatalog resolution.catalogRevision resolution.catalogDigest catalog

/-- The state before the resolution. -/
def predecessor (state : RecoveryRecord) (digest : Sha256Digest) : RecoveryRecord :=
  { state with
    revision := resolution.baseRevision
    catalogRevision := resolution.priorCatalog.revision
    catalogDigest := digest
    phase := .acquisitionRecoveryObserved [] }

/-- **The validation of a resolution**: the whole derivation is done again
from the two messages and the catalog in between. -/
def validate (state : RecoveryRecord) : Except ScaleSetDeliveryRecoveryError Unit := do
  let expected ← okOr (expectedRevision state.phase) corruptRecoveryState
  let revision ← okOr (checkedAdd u64Size resolution.baseRevision expected)
    corruptRecoveryState
  let available ← resolution.delivery.availableRequestIds.mapError
    (fun _ => corruptRecoveryState)
  refuseIf (state.revision ≠ revision ∨ resolution.baseRevision ≠ 3
      ∨ resolution.delivery.messageId ≤ state.delivery.messageId
      ∨ ¬ available.isEmpty ∨ resolution.acquired.isEmpty
      ∨ ¬ (state.catalogRevision = resolution.catalogRevision
        ∧ state.catalogDigest = resolution.catalogDigest)
      ∨ resolution.priorCatalog.revision.val > resolution.catalogRevision.val)
    corruptRecoveryState
  let digest ← Glaeda.catalogDigest resolution.priorCatalog
  let predecessor := resolution.predecessor state digest
  predecessor.validateHeader
  predecessor.validateAcquisitionRecoveryObserved []
  refuseIf (¬ predecessor.matchesCatalog resolution.priorCatalog) corruptRecoveryState
  state.validateAcquired resolution.acquired
  let originalEvents ← state.delivery.retainedEvents.mapError (fun _ => corruptRecoveryState)
  let lifecycleEvents ← resolution.delivery.retainedEvents.mapError
    (fun _ => corruptRecoveryState)
  let reconstructed ← lifecycleEvents.foldlM (reconstructEvent originalEvents)
    (resolution.priorCatalog, [])
  refuseIf (orderedIds reconstructed.2 ≠ resolution.acquired
      ∨ ¬ state.matchesCatalog reconstructed.1)
    corruptRecoveryState

end ScaleSetLifecycleResolution

/-! ## The validation of a state -/

namespace RecoveryRecord

variable (s : RecoveryRecord)

/-- The lifecycle evidence of a settlement: the state before it was an
acknowledged resolution. -/
def validateProof (acquired : List ScaleSetRunnerRequestId) :
    ScaleSetDeliverySettlementProof → Except ScaleSetDeliveryRecoveryError Unit
  | .acknowledged | .acquisitionRecovery => .ok ()
  | .lifecycleEvidence resolution => do
    let revision ← okOr (checkedAdd u64Size resolution.baseRevision 4) corruptRecoveryState
    refuseIf (acquired ≠ resolution.acquired ∨ s.revision ≠ revision) corruptRecoveryState
    let acknowledged : RecoveryRecord :=
      { s with revision := s.revision - 1, phase := .lifecycleAcknowledged resolution }
    acknowledged.validateHeader
    resolution.validate acknowledged

/-- **The validation of a recovery state.** -/
def validate : Except ScaleSetDeliveryRecoveryError Unit := do
  s.validateHeader
  match s.phase with
  | .reconciled => refuseIf (s.revision ≠ 1) corruptRecoveryState
  | .acknowledgementStarted => refuseIf (s.revision ≠ 2) corruptRecoveryState
  | .acknowledged acquired => do
    refuseIf (s.revision ≠ 3) corruptRecoveryState
    s.validateAcquired acquired
  | .acquisitionRecoveryObserved acquired => s.validateAcquisitionRecoveryObserved acquired
  | .lifecycleReconciled resolution | .lifecycleAcknowledgementStarted resolution
  | .lifecycleAcknowledged resolution => resolution.validate s
  | .settlementPrepared proof acquired priorCatalog catalogRevision catalogDigest => do
    s.validateAcquired acquired
    refuseIf (¬ s.matchesCatalog priorCatalog) corruptRecoveryState
    refuseIf (proof = .acquisitionRecovery ∧ acquired.isEmpty) corruptRecoveryState
    refuseIf ((proof = .acknowledged ∧ s.revision ≠ 4)
        ∨ (proof = .acquisitionRecovery ∧ s.revision < 4))
      corruptRecoveryState
    s.validateProof acquired proof
    refuseIf (catalogRevision.val < s.catalogRevision.val
        ∨ (catalogRevision = s.catalogRevision ∧ catalogDigest ≠ s.catalogDigest))
      corruptRecoveryState

end RecoveryRecord

/-- **A recovery state**: a record that validates. -/
structure ScaleSetDeliveryRecoveryState extends RecoveryRecord where
  valid : toRecoveryRecord.validate = .ok ()
deriving DecidableEq, Repr

/-! ## Operations -/

namespace ScaleSetDeliveryRecoveryState

/-- A state that passes its checks. -/
def accept (r : RecoveryRecord) :
    Except ScaleSetDeliveryRecoveryError ScaleSetDeliveryRecoveryState :=
  match h : r.validate with
  | .ok () => .ok ⟨r, h⟩
  | .error e => .error e

/-- **An accepted state is the record that was accepted.** -/
theorem accept_eq_ok {r : RecoveryRecord} {s : ScaleSetDeliveryRecoveryState} :
    accept r = .ok s ↔ s.toRecoveryRecord = r := by
  unfold accept
  constructor
  · intro h
    split at h <;> simp at h
    rw [← h]
  · intro h
    subst h
    split
    · rfl
    · rename_i e he
      rw [s.valid] at he
      cases he

theorem exists_accept {r : RecoveryRecord} (h : r.validate = .ok ()) : ∃ s, accept r = .ok s :=
  ⟨⟨r, h⟩, accept_eq_ok.mpr rfl⟩

/-- **The state right after a message was reconciled.** -/
def reconciled (delivery : ScaleSetDelivery)
    (priorCatalog catalog : DisposableAttemptCatalogDocument) :
    Except ScaleSetDeliveryRecoveryError ScaleSetDeliveryRecoveryState := do
  let priorCatalogDigest ← Glaeda.catalogDigest priorCatalog
  let catalogDigest ← Glaeda.catalogDigest catalog
  accept {
    schemaVersion := scaleSetDeliveryRecoverySchemaVersion
    revision := 1
    priorCatalogRevision := priorCatalog.revision
    priorCatalogDigest
    catalogRevision := catalog.revision
    catalogDigest
    delivery
    phase := .reconciled }

variable (s : ScaleSetDeliveryRecoveryState)

/-- The revision after this one. -/
def nextRevision : Except ScaleSetDeliveryRecoveryError Nat :=
  okOr ((checkedAdd u64Size s.revision 1).filter (· ≤ maxDeliveryRecoveryRevision))
    (recoveryConflict "delivery recovery revision cannot advance")

variable (phase : ScaleSetDeliveryRecoveryPhase)

/-- The next state, for the same catalog. -/
def successor : Except ScaleSetDeliveryRecoveryError ScaleSetDeliveryRecoveryState := do
  let revision ← s.nextRevision
  accept { s.toRecoveryRecord with revision, phase }

/-- The next state, for another catalog. -/
def successorWithCatalog (catalog : DisposableAttemptCatalogDocument) :
    Except ScaleSetDeliveryRecoveryError ScaleSetDeliveryRecoveryState := do
  let revision ← s.nextRevision
  let catalogDigest ← Glaeda.catalogDigest catalog
  accept { s.toRecoveryRecord with
    revision, phase, catalogRevision := catalog.revision, catalogDigest }

/-- **The acknowledgement is about to be sent.** -/
def beginAck : Except ScaleSetDeliveryRecoveryError ScaleSetDeliveryRecoveryState :=
  match s.phase with
  | .reconciled => s.successor .acknowledgementStarted
  | .acknowledgementStarted => .ok s
  | _ => .error (recoveryConflict "only a reconciled delivery may begin acknowledgement")

variable (acquired : List ScaleSetRunnerRequestId)

/-- **The acknowledgement was answered.** -/
def recordAckResponse : Except ScaleSetDeliveryRecoveryError ScaleSetDeliveryRecoveryState := do
  let acquired ← s.validatedAcquired acquired
  let refusal := recoveryConflict
    "acknowledgement response conflicts with the durable recovery phase"
  match s.phase with
  | .acknowledgementStarted => s.successor (.acknowledged acquired)
  | .acknowledged current => if current = acquired then return s else throw refusal
  | _ => throw refusal

/-- One more answer. -/
def observeAcquired (observed newlyAcquired : List ScaleSetRunnerRequestId) :
    List ScaleSetRunnerRequestId :=
  (newlyAcquired.foldl (fun observed id => if id ∈ observed then observed else observed ++ [id])
    observed).insertionSort (fun a b => a.val ≤ b.val)

/-- What was acquired so far. -/
def observedAcquired : Except ScaleSetDeliveryRecoveryError (List ScaleSetRunnerRequestId) :=
  match s.phase with
  | .acknowledgementStarted => .ok []
  | .acquisitionRecoveryObserved acquired => .ok acquired
  | _ => .error (recoveryConflict
      "standalone acquisition replay requires ambiguous acknowledgement state")

/-- **The acquisition was asked for again and answered.** -/
def recordRecoveryAcquire : Except ScaleSetDeliveryRecoveryError ScaleSetDeliveryRecoveryState := do
  let observed ← s.observedAcquired
  let newlyAcquired ← s.validatedAcquired acquired
  let phase := .acquisitionRecoveryObserved (observeAcquired observed newlyAcquired)
  if s.phase = phase then return s
  s.successor phase

/-- The requests of the later events. -/
def lifecycleRequests (events : List ScaleSetDeliveryLifecycleEvent) :
    List ScaleSetRunnerRequestId :=
  events.filterMap fun
    | .available _ => none
    | .assigned job | .started job _ | .completed job _ _ => some job.runnerRequestId

/-- **A later message resolves the ambiguous acquisition.** -/
def prepareLifecycleResolution (delivery : ScaleSetDelivery)
    (acquired : List ScaleSetRunnerRequestId)
    (priorCatalog targetCatalog : DisposableAttemptCatalogDocument) :
    Except ScaleSetDeliveryRecoveryError ScaleSetDeliveryRecoveryState := do
  let available ← delivery.availableRequestIds.mapError (fun _ => corruptRecoveryState)
  refuseIf (s.phase ≠ .acquisitionRecoveryObserved [] ∨ ¬ s.matchesCatalog priorCatalog
      ∨ delivery.messageId ≤ s.delivery.messageId ∨ ¬ available.isEmpty)
    (recoveryConflict "lifecycle evidence cannot resolve this Scale Set acquisition")
  let acquired ← s.validatedAcquired acquired
  refuseIf acquired.isEmpty
    (recoveryConflict "lifecycle resolution requires positive acquisition evidence")
  let events ← delivery.retainedEvents.mapError (fun _ => corruptRecoveryState)
  refuseIf (∃ id ∈ acquired, id ∉ lifecycleRequests events)
    (recoveryConflict "lifecycle resolution does not contain the acquired request evidence")
  let catalogDigest ← Glaeda.catalogDigest targetCatalog
  s.successorWithCatalog (.lifecycleReconciled {
      baseRevision := s.revision
      delivery
      acquired
      priorCatalog
      catalogRevision := targetCatalog.revision
      catalogDigest })
    targetCatalog

/-- **The later message is about to be acknowledged.** -/
def beginLifecycleAck : Except ScaleSetDeliveryRecoveryError ScaleSetDeliveryRecoveryState :=
  match s.phase with
  | .lifecycleReconciled resolution => s.successor (.lifecycleAcknowledgementStarted resolution)
  | .lifecycleAcknowledgementStarted _ => .ok s
  | _ => .error (recoveryConflict
      "only reconciled lifecycle evidence may begin acknowledgement")

/-- **The later message was acknowledged.** -/
def recordLifecycleAck : Except ScaleSetDeliveryRecoveryError ScaleSetDeliveryRecoveryState :=
  match s.phase with
  | .lifecycleAcknowledgementStarted resolution => s.successor (.lifecycleAcknowledged resolution)
  | .lifecycleAcknowledged _ => .ok s
  | _ => .error (recoveryConflict
      "lifecycle acknowledgement conflicts with the durable recovery phase")

/-- The state resolves the one before. -/
def isLifecycleResolutionOf (predecessor : ScaleSetDeliveryRecoveryState)
    (priorCatalog : DisposableAttemptCatalogDocument) : Bool :=
  match s.lifecycleResolution with
  | some resolution => resolution.baseRevision = predecessor.revision
      && predecessor.matchesCatalog priorCatalog && resolution.priorCatalog = priorCatalog
      && s.priorCatalogRevision = predecessor.priorCatalogRevision
      && s.priorCatalogDigest = predecessor.priorCatalogDigest
      && s.delivery = predecessor.delivery
  | none => false

/-- What a settlement can rest on. -/
def settlementEvidence : Except ScaleSetDeliveryRecoveryError
    (ScaleSetDeliverySettlementProof × List ScaleSetRunnerRequestId) :=
  let refusal := recoveryConflict "Scale Set delivery lacks conclusive settlement evidence"
  match s.phase with
  | .acknowledged acquired => .ok (.acknowledged, acquired)
  | .acquisitionRecoveryObserved acquired =>
    if acquired.isEmpty then .error refusal else .ok (.acquisitionRecovery, acquired)
  | .lifecycleAcknowledged resolution => .ok (.lifecycleEvidence resolution, resolution.acquired)
  | _ => .error refusal

/-- Prepare the settlement, with the catalog after it given by its
binding. -/
def prepareSettlementBinding (priorCatalog : DisposableAttemptCatalogDocument)
    (catalogRevision : DisposableAttemptCatalogRevision) (catalogDigest : Sha256Digest) :
    Except ScaleSetDeliveryRecoveryError ScaleSetDeliveryRecoveryState := do
  let (proof, acquired) ← s.settlementEvidence
  s.successor (.settlementPrepared proof acquired priorCatalog catalogRevision catalogDigest)

/-- **The settlement is prepared**: both catalogs are known. -/
def prepareSettlement (priorCatalog targetCatalog : DisposableAttemptCatalogDocument) :
    Except ScaleSetDeliveryRecoveryError ScaleSetDeliveryRecoveryState := do
  refuseIf (¬ s.matchesCatalog priorCatalog)
    (recoveryConflict "Scale Set settlement prior catalog does not match durable recovery")
  let catalogDigest ← Glaeda.catalogDigest targetCatalog
  s.prepareSettlementBinding priorCatalog targetCatalog.revision catalogDigest

/-- The catalog is the one after the settlement. -/
def matchesSettlementCatalog (catalog : DisposableAttemptCatalogDocument) : Bool :=
  match s.phase with
  | .settlementPrepared _ _ _ catalogRevision catalogDigest =>
    bindsCatalog catalogRevision catalogDigest catalog
  | _ => false

/-- What a prepared settlement acquired. -/
def settlementAcquired : Option (List ScaleSetRunnerRequestId) :=
  match s.phase with
  | .settlementPrepared _ acquired _ _ _ => some acquired
  | _ => none

/-- The catalog before a prepared settlement. -/
def settlementPriorCatalog : Option DisposableAttemptCatalogDocument :=
  match s.phase with
  | .settlementPrepared _ _ priorCatalog _ _ => some priorCatalog
  | _ => none

end ScaleSetDeliveryRecoveryState

/-! ## The document -/

/-- A message as text. -/
def embedDelivery (delivery : ScaleSetDelivery) :
    Except ScaleSetDeliveryRecoveryError String := do
  let bytes ← (encodeScaleSetDelivery delivery).mapError (fun _ => corruptRecoveryState)
  okOr (textOfUtf8 bytes) corruptRecoveryState

/-- A catalog as text. -/
def embedCatalog (catalog : DisposableAttemptCatalogDocument) :
    Except ScaleSetDeliveryRecoveryError String := do
  let bytes ← (encodeDisposableAttemptCatalog catalog).mapError (fun _ => corruptRecoveryState)
  okOr (textOfUtf8 bytes) corruptRecoveryState

/-- Requests as JSON. -/
def requestsJson (ids : List ScaleSetRunnerRequestId) : Value :=
  .arr (ids.map (fun id => .num id.val))

/-- A resolution as JSON. -/
def ScaleSetLifecycleResolution.toJson (resolution : ScaleSetLifecycleResolution) :
    Except ScaleSetDeliveryRecoveryError Value := do
  let delivery ← embedDelivery resolution.delivery
  let priorCatalog ← embedCatalog resolution.priorCatalog
  return .obj [("base_revision", .num resolution.baseRevision),
    ("delivery_json", .str delivery),
    ("acquired_request_ids", requestsJson resolution.acquired),
    ("prior_catalog_json", .str priorCatalog),
    ("catalog_revision", .num resolution.catalogRevision.val),
    ("catalog_digest", .str resolution.catalogDigest.value)]

/-- What a settlement rests on, as JSON. -/
def ScaleSetDeliverySettlementProof.toJson :
    ScaleSetDeliverySettlementProof → Except ScaleSetDeliveryRecoveryError Value
  | .acknowledged => .ok (.str "acknowledged")
  | .acquisitionRecovery => .ok (.str "acquisition_recovery")
  | .lifecycleEvidence resolution => do
    let resolution ← resolution.toJson
    return .obj [("lifecycle_evidence", .obj [("resolution", resolution)])]

/-- A phase as JSON. -/
def ScaleSetDeliveryRecoveryPhase.toJson :
    ScaleSetDeliveryRecoveryPhase → Except ScaleSetDeliveryRecoveryError Value
  | .reconciled => .ok (.obj [("phase", .str "reconciled")])
  | .acknowledgementStarted => .ok (.obj [("phase", .str "acknowledgement_started")])
  | .acknowledged acquired => .ok (.obj [("phase", .str "acknowledged"),
      ("acquired_request_ids", requestsJson acquired)])
  | .acquisitionRecoveryObserved acquired =>
    .ok (.obj [("phase", .str "acquisition_recovery_observed"),
      ("acquired_request_ids", requestsJson acquired)])
  | .lifecycleReconciled resolution => do
    let resolution ← resolution.toJson
    return .obj [("phase", .str "lifecycle_reconciled"), ("resolution", resolution)]
  | .lifecycleAcknowledgementStarted resolution => do
    let resolution ← resolution.toJson
    return .obj [("phase", .str "lifecycle_acknowledgement_started"), ("resolution", resolution)]
  | .lifecycleAcknowledged resolution => do
    let resolution ← resolution.toJson
    return .obj [("phase", .str "lifecycle_acknowledged"), ("resolution", resolution)]
  | .settlementPrepared proof acquired priorCatalog catalogRevision catalogDigest => do
    let proof ← proof.toJson
    let priorCatalog ← embedCatalog priorCatalog
    return .obj [("phase", .str "settlement_prepared"), ("proof", proof),
      ("acquired_request_ids", requestsJson acquired),
      ("prior_catalog_json", .str priorCatalog),
      ("catalog_revision", .num catalogRevision.val),
      ("catalog_digest", .str catalogDigest.value)]

/-- **The document of a recovery state**, unless it is too long. -/
def encodeScaleSetDeliveryRecovery (s : ScaleSetDeliveryRecoveryState) :
    Except ScaleSetDeliveryRecoveryError (List UInt8) := do
  s.validate
  let delivery ← embedDelivery s.delivery
  let phase ← s.phase.toJson
  encodeWithin maxScaleSetDeliveryRecoveryBytes
    ⟨.documentTooLarge,
      "Scale Set delivery recovery state exceeds the reviewed byte limit"⟩
    (.obj [("schema_version", .num s.schemaVersion), ("revision", .num s.revision),
      ("prior_catalog_revision", .num s.priorCatalogRevision.val),
      ("prior_catalog_digest", .str s.priorCatalogDigest.value),
      ("catalog_revision", .num s.catalogRevision.val),
      ("catalog_digest", .str s.catalogDigest.value),
      ("delivery_json", .str delivery), ("phase", phase)])

end Glaeda
