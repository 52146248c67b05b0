import Glaeda.CatalogHistory
import Glaeda.Delivery
import Glaeda.Sha256

/-!
# The delivery consumer

A delivery is applied to a private copy of the catalog, one event after the
other. An available or assigned job reserves the one worker the host has
room for, a started or completed job advances the attempt that serves it,
and a job that was cancelled before any runner accepted it releases its
attempt. Whatever was applied is found again under the identities derived
from the job: **every identity of an attempt is a digest of the policy and
the job**, so that an event about another job, or another policy, is told
apart from a repetition.

Nothing here touches a file or the service. An event that does not fit is
refused and the caller keeps the catalog it had.
-/

namespace Glaeda

open Checked

/-! ## Errors and the policy -/

/-- A refusal, by its code. -/
structure ScaleSetDeliveryConsumerError where
  code : String
deriving DecidableEq, Repr

/-- The longest part of a policy. -/
def maxRepositoryComponentBytes : Nat := 100

/-- The most labels. -/
def maxLabels : Nat := 32

/-- How long a job may take. -/
def disposableJobMaxMillis : Nat := 6 * 60 * 60 * 1000

/-- Labels in order. -/
def sortLabels (labels : List String) : List String := labels.insertionSort (· ≤ ·)

/-- The parts of a policy are within bounds. -/
def policyInputsValid (scaleSetId : UInt32) (repository owner : String)
    (labels : List String) : Prop :=
  scaleSetId ≠ 0 ∧ boundedToken repository maxRepositoryComponentBytes
    ∧ boundedToken owner maxRepositoryComponentBytes
    ∧ ¬ labels.isEmpty ∧ labels.length ≤ maxLabels
    ∧ (∀ label ∈ labels, boundedToken label maxRepositoryComponentBytes)
    ∧ labels.IsChain (· ≠ ·)

instance (scaleSetId : UInt32) (repository owner : String) (labels : List String) :
    Decidable (policyInputsValid scaleSetId repository owner labels) :=
  inferInstanceAs (Decidable (_ ∧ _))

/-- **The enrolled inputs of the consumer.** -/
structure ScaleSetDeliveryConsumerPolicy where
  scaleSetId : UInt32
  repository : String
  owner : String
  requestLabels : List String
  resources : DisposableWorkerResources
  preparedTemplateIdentity : DisposablePreparedTemplateIdentity
  valid : policyInputsValid scaleSetId repository owner requestLabels
deriving DecidableEq, Repr

/-! ## The parts of an event -/

namespace ScaleSetDeliveryLifecycleEvent

/-- The job of an event. -/
def job : ScaleSetDeliveryLifecycleEvent → ScaleSetDeliveryJobEvidence
  | .available job | .assigned job | .started job _ | .completed job _ _ => job

/-- A job is available. -/
def isAvailable : ScaleSetDeliveryLifecycleEvent → Bool
  | .available _ => true
  | _ => false

/-- A job was cancelled before it had a runner. -/
def isRunnerlessCancellation : ScaleSetDeliveryLifecycleEvent → Bool
  | .completed _ none result => result.value = "canceled"
  | _ => false

/-- What an event does to an attempt. -/
def action : ScaleSetDeliveryLifecycleEvent →
    Except ScaleSetDeliveryConsumerError DisposableAttemptCatalogAction
  | .assigned job => .ok (.recordAssigned job.jobId)
  | .started job runner => .ok (.recordRunning runner job.jobId)
  | .completed job runner result => .ok (.recordTerminal runner job.jobId result)
  | .available _ => .error ⟨"delivery_consumer_event_invalid"⟩

end ScaleSetDeliveryLifecycleEvent

/-- When an attempt has to be over. -/
def attemptNotAfter (observedAt : EpochMillis) : Except ScaleSetDeliveryConsumerError EpochMillis :=
  okOr ((checkedAdd u64Size observedAt.val disposableJobMaxMillis).bind
      (fun value => (EpochMillis.new value).toOption))
    ⟨"delivery_consumer_deadline_invalid"⟩

/-! ## Derived identities -/

/-- The bytes of a text. -/
def textBytes (value : String) : List UInt8 := Json.utf8 value.toList

/-- What the digest of an attempt starts with. -/
def attemptIdentityDomain : List UInt8 :=
  textBytes "smolrunner.scale-set-delivery-attempt.v1" ++ [0]

/-- A field with its length before it. -/
def hashField (value : List UInt8) : List UInt8 :=
  Sha256.beBytes 8 (min value.length (u64Size - 1)) ++ value

/-- How many digits the name of a machine has. -/
def disposableLimaVmIdHexChars : Nat := 24

/-- The names an attempt gets from its request. -/
structure DerivedIdentities where
  attemptId : DisposableAttemptId
  claimId : CapacityClaimId
  vmId : DisposableVmId
  runnerName : ScaleSetRunnerName
deriving DecidableEq, Repr

namespace ScaleSetDeliveryConsumerPolicy

variable (policy : ScaleSetDeliveryConsumerPolicy) (job : ScaleSetDeliveryJobEvidence)

/-- **The message whose digest names an attempt.** -/
def identityMessage : List UInt8 :=
  attemptIdentityDomain
    ++ hashField (Sha256.beBytes 4 policy.scaleSetId.toNat)
    ++ hashField (Sha256.beBytes 4 policy.resources.cpuMillis)
    ++ hashField (Sha256.beBytes 8 policy.resources.memoryBytes)
    ++ hashField (Sha256.beBytes 8 policy.resources.diskBytes)
    ++ hashField (textBytes policy.preparedTemplateIdentity.digest.value)
    ++ hashField (Sha256.beBytes 8 job.runnerRequestId.val)
    ++ hashField (textBytes job.repository)
    ++ hashField (textBytes job.owner)
    ++ hashField (textBytes job.jobId.value)
    ++ hashField (Sha256.beBytes 8 job.workflowRunId.toNat)
    ++ (sortLabels job.requestLabels).flatMap (fun label => hashField (textBytes label))

/-- **The identities of the attempt that serves a job.** The claim keeps the
whole digest; the attempt, the runner and the machine are named by its first
digits. -/
def deriveIdentities : Except ScaleSetDeliveryConsumerError DerivedIdentities := do
  let digest := Sha256.hexDigest (policy.identityMessage job)
  let short := digest.take 32
  let vmShort := digest.take disposableLimaVmIdHexChars
  let invalid : ScaleSetDeliveryConsumerError := ⟨"delivery_consumer_identity_invalid"⟩
  let attemptId ← (Identifier.parse "attempt_id"
    (String.ofList ("attempt-".toList ++ short))).mapError (fun _ => invalid)
  let claimId ← (Identifier.parse "capacity_claim_id"
    (String.ofList ("claim-".toList ++ digest))).mapError (fun _ => invalid)
  let vmId ← (Identifier.parse "vm_id"
    (String.ofList ("w-".toList ++ vmShort))).mapError (fun _ => invalid)
  let runnerName ← (ScaleSetRunnerName.parse
    (String.ofList ("smolrunner-".toList ++ short))).mapError (fun _ => invalid)
  return ⟨attemptId, claimId, vmId, runnerName⟩

/-- The job is one for the policy. -/
def validateJob : Except ScaleSetDeliveryConsumerError Unit :=
  refuseIf (job.repository ≠ policy.repository ∨ job.owner ≠ policy.owner
      ∨ sortLabels job.requestLabels ≠ policy.requestLabels)
    ⟨"delivery_consumer_job_not_enrolled"⟩

end ScaleSetDeliveryConsumerPolicy

/-- The name is another one. -/
def consumerIdentityDrift : ScaleSetDeliveryConsumerError :=
  ⟨"delivery_consumer_identity_drift"⟩

/-- The event does not go with the attempt. -/
def eventConflict : ScaleSetDeliveryConsumerError := ⟨"delivery_consumer_event_conflict"⟩

/-- There is no attempt for the event. -/
def attemptMissing : ScaleSetDeliveryConsumerError := ⟨"delivery_consumer_attempt_missing"⟩

variable (attempt : DisposableAttemptState)

/-- The attempt is the one for the job. -/
def validateAttempt (job : ScaleSetDeliveryJobEvidence)
    (identities : DerivedIdentities) : Except ScaleSetDeliveryConsumerError Unit :=
  refuseIf (attempt.attemptId ≠ identities.attemptId
      ∨ attempt.capacityClaimId ≠ identities.claimId
      ∨ attempt.vmId ≠ identities.vmId
      ∨ attempt.runnerName ≠ identities.runnerName
      ∨ attempt.runnerRequestId ≠ job.runnerRequestId
      ∨ ∃ jobId ∈ attempt.githubJobId, jobId ≠ job.jobId)
    consumerIdentityDrift

/-- The reservation is the one for the job. -/
def ScaleSetDeliveryConsumerPolicy.validateReservation (policy : ScaleSetDeliveryConsumerPolicy)
    (reservation : DisposableAttemptReservation) (job : ScaleSetDeliveryJobEvidence)
    (identities : DerivedIdentities) : Except ScaleSetDeliveryConsumerError Unit := do
  validateAttempt reservation.attempt job identities
  refuseIf (reservation.resources ≠ policy.resources
      ∨ reservation.preparedTemplateIdentity ≠ policy.preparedTemplateIdentity)
    consumerIdentityDrift

/-- The event agrees with what is remembered. -/
def tombstoneEventValid : ScaleSetDeliveryLifecycleEvent → Prop
  | .available _ => True
  | .assigned job => attempt.githubJobId = some job.jobId
  | .started job runner => attempt.githubJobId = some job.jobId
      ∧ attempt.runnerId = some runner.id ∧ attempt.runnerName = runner.name
  | .completed job runner result =>
      (attempt.githubJobId = some job.jobId ∧ attempt.result = some result
        ∧ ∀ value ∈ runner, attempt.runnerId = some value.id ∧ attempt.runnerName = value.name)
      ∨ (attempt.phase = .complete ∧ attempt.githubJobId = none ∧ attempt.result = none
        ∧ runner = none ∧ result.value = "canceled")

instance (attempt : DisposableAttemptState) :
    ∀ event, Decidable (tombstoneEventValid attempt event)
  | .available _ => inferInstanceAs (Decidable True)
  | .assigned _ => inferInstanceAs (Decidable (_ = _))
  | .started _ _ => inferInstanceAs (Decidable (_ ∧ _))
  | .completed _ _ _ => inferInstanceAs (Decidable (_ ∨ _))

/-- The event agrees with what is remembered. -/
def validateTombstoneEvent
    (event : ScaleSetDeliveryLifecycleEvent) : Except ScaleSetDeliveryConsumerError Unit :=
  refuseIf (¬ tombstoneEventValid attempt event) eventConflict

variable (event : ScaleSetDeliveryLifecycleEvent)

/-- Cancelled before there was a job. -/
def isUnboundRunnerlessCancellation (attempt : DisposableAttemptState) : Bool :=
  attempt.githubJobId.isNone && event.isRunnerlessCancellation

/-! ## Releasing an attempt that never had a machine -/

variable (catalog : DisposableAttemptCatalogDocument)

/-- **Retire a cancelled attempt that never cloned.** It is looked up again
by its own identity. -/
def retireUnprovisionedCancellation (reservation : DisposableAttemptReservation) :
    Except ScaleSetDeliveryConsumerError DisposableAttemptCatalogDocument :=
  catalog.releaseUnprovisioned (fun c => c.findActive reservation.attempt.attemptId)
    eventConflict attemptMissing reservation

/-! ## Applying one event -/

namespace ScaleSetDeliveryConsumerPolicy

variable (policy : ScaleSetDeliveryConsumerPolicy)

/-- A reservation for a new job. -/
def reserveJob (job : ScaleSetDeliveryJobEvidence) (identities : DerivedIdentities)
    (catalog : DisposableAttemptCatalogDocument) (notAfter : EpochMillis) :
    Except ScaleSetDeliveryConsumerError DisposableAttemptCatalogDocument := do
  let usage ← catalog.hostUsage.mapError (fun _ => ⟨"delivery_consumer_catalog_invalid"⟩)
  refuseIf (usage.workers ≠ 0) ⟨"delivery_consumer_capacity_unavailable"⟩
  let reservation ← (DisposableAttemptReservation.new
    (.reserved identities.attemptId identities.claimId identities.vmId identities.runnerName
      job.runnerRequestId notAfter)
    policy.resources policy.preparedTemplateIdentity).mapError
    (fun _ => ⟨"delivery_consumer_reservation_invalid"⟩)
  (catalog.reserve reservation).mapError (fun _ => ⟨"delivery_consumer_reservation_failed"⟩)

/-- The event is recorded in the attempt. -/
def recordEvent
    (catalog : DisposableAttemptCatalogDocument) (existing : DisposableAttemptReservation) :
    Except ScaleSetDeliveryConsumerError DisposableAttemptCatalogDocument := do
  let action ← event.action
  (catalog.replaceAttempt existing.attempt.attemptId existing.attempt.revision
    action).mapError (fun _ => eventConflict)

/-- **An available or assigned job**, the first half of `reconcile_event`:
a job that is not known yet is reserved. -/
def reconcileOffer (event : ScaleSetDeliveryLifecycleEvent) (identities : DerivedIdentities)
    (catalog : DisposableAttemptCatalogDocument) (observedAt : EpochMillis) :
    Except ScaleSetDeliveryConsumerError DisposableAttemptCatalogDocument := do
  let notAfter ← attemptNotAfter observedAt
  match catalog.findActiveByRunnerRequestId event.job.runnerRequestId,
      catalog.findTombstoneByRunnerRequestId event.job.runnerRequestId with
  | some existing, _ => do
    policy.validateReservation existing event.job identities
    if event.isAvailable
        ∨ (existing.attempt.phase = .reserved ∧ existing.attempt.githubJobId.isNone) then do
      refuseIf (existing.attempt.notAfter ≠ notAfter) consumerIdentityDrift
      return catalog
    else recordEvent event catalog existing
  | none, some existing => do
    validateAttempt existing event.job identities
    refuseIf (event.isAvailable ∧ existing.notAfter ≠ notAfter) consumerIdentityDrift
    validateTombstoneEvent existing event
    return catalog
  | none, none => policy.reserveJob event.job identities catalog notAfter

/-- A cancellation of a job that was never bound to its attempt. What
follows depends on how far the attempt got. -/
def reconcileUnboundCancellation (existing : DisposableAttemptReservation) :
    Except ScaleSetDeliveryConsumerError DisposableAttemptCatalogDocument :=
  let cleanup := (catalog.replaceAttempt existing.attempt.attemptId existing.attempt.revision
    .beginCleanup).mapError (fun _ => eventConflict)
  match existing.attempt.phase with
  | .reserved | .cloneAuthorized => retireUnprovisionedCancellation catalog existing
  -- the clone command may or may not have run: the debt stays, unbound
  | .cloneStarted => if existing.attempt.vmIdentity.isNone then .ok catalog else cleanup
  | .registering | .waiting => cleanup
  | .destroying | .deregistering | .releasing | .unprovisionedReleasing | .complete =>
    .ok catalog
  | .provisioning | .assigned | .running | .terminal => .error eventConflict

/-- **A started or completed job**, the second half of `reconcile_event`:
its attempt has to be known. -/
def reconcileProgress (event : ScaleSetDeliveryLifecycleEvent) (identities : DerivedIdentities)
    (catalog : DisposableAttemptCatalogDocument) :
    Except ScaleSetDeliveryConsumerError DisposableAttemptCatalogDocument :=
  match catalog.findActiveByRunnerRequestId event.job.runnerRequestId,
      catalog.findTombstoneByRunnerRequestId event.job.runnerRequestId with
  | some existing, _ => do
    policy.validateReservation existing event.job identities
    if isUnboundRunnerlessCancellation event existing.attempt then
      reconcileUnboundCancellation catalog existing
    else recordEvent event catalog existing
  | none, some existing => do
    validateAttempt existing event.job identities
    validateTombstoneEvent existing event
    return catalog
  | none, none => .error attemptMissing

/-- **Apply one event to the catalog.** -/
def reconcileEvent (event : ScaleSetDeliveryLifecycleEvent)
    (catalog : DisposableAttemptCatalogDocument) (observedAt : EpochMillis) :
    Except ScaleSetDeliveryConsumerError DisposableAttemptCatalogDocument := do
  policy.validateJob event.job
  let identities ← policy.deriveIdentities event.job
  match event with
  | .available _ | .assigned _ => policy.reconcileOffer event identities catalog observedAt
  | .started _ _ | .completed _ _ _ => policy.reconcileProgress event identities catalog

/-- **Apply a delivery to the catalog**, event by event. -/
def reconcileScaleSetDelivery (delivery : ScaleSetDelivery)
    (catalog : DisposableAttemptCatalogDocument) (observedAt : EpochMillis) :
    Except ScaleSetDeliveryConsumerError DisposableAttemptCatalogDocument := do
  let events ← delivery.retainedEvents.mapError
    (fun _ => ⟨"delivery_consumer_evidence_invalid"⟩)
  events.foldlM (fun current event => policy.reconcileEvent event current observedAt) catalog

end ScaleSetDeliveryConsumerPolicy

/-! ## Resolving an ambiguous acquisition -/

/-- Requests in order, each once. -/
def orderedIds (ids : List ScaleSetRunnerRequestId) : List ScaleSetRunnerRequestId :=
  ids.dedup.insertionSort (fun a b => a.val ≤ b.val)

/-- The later message resolves nothing. -/
def resolutionConflict : ScaleSetDeliveryConsumerError :=
  ⟨"delivery_consumer_resolution_conflict"⟩

namespace ScaleSetDeliveryConsumerPolicy

variable (policy : ScaleSetDeliveryConsumerPolicy)

/-- What one lifecycle event says about an ambiguous request: an assignment
proves that it was acquired, and so does a cancellation, which also releases
its attempt. -/
def resolveEvent
    (next : DisposableAttemptCatalogDocument) (reservation : DisposableAttemptReservation) :
    Except ScaleSetDeliveryConsumerError DisposableAttemptCatalogDocument :=
  match event with
  | .assigned _ => .ok next
  | .completed _ none result =>
    if result.value = "canceled" then
      (retireUnprovisionedCancellation next reservation).mapError (fun _ => resolutionConflict)
    else .error resolutionConflict
  | .available _ | .started _ _ | .completed _ (some _) _ => .error resolutionConflict

/-- One event of a later message. -/
def reconcileResolutionEvent (ambiguous : List ScaleSetRunnerRequestId)
    (state : DisposableAttemptCatalogDocument × List ScaleSetRunnerRequestId)
    (event : ScaleSetDeliveryLifecycleEvent) :
    Except ScaleSetDeliveryConsumerError
      (DisposableAttemptCatalogDocument × List ScaleSetRunnerRequestId) := do
  refuseIf (event.job.runnerRequestId ∉ ambiguous) resolutionConflict
  policy.validateJob event.job
  let identities ← policy.deriveIdentities event.job
  let reservation ← okOr (state.1.findActiveByRunnerRequestId event.job.runnerRequestId)
    attemptMissing
  policy.validateReservation reservation event.job identities
  refuseIf (reservation.attempt.phase ≠ .reserved) resolutionConflict
  let next ← resolveEvent event state.1 reservation
  return (next, state.2 ++ [event.job.runnerRequestId])

/-- **Resolve an ambiguous acquisition by a later lifecycle delivery.** The
requests it proves acquired come back as an ordered set. -/
def reconcileScaleSetAcquisitionResolution
    (ambiguousRequests : List ScaleSetRunnerRequestId) (delivery : ScaleSetDelivery)
    (catalog : DisposableAttemptCatalogDocument) :
    Except ScaleSetDeliveryConsumerError
      (DisposableAttemptCatalogDocument × List ScaleSetRunnerRequestId) := do
  let invalid : ScaleSetDeliveryConsumerError := ⟨"delivery_consumer_resolution_invalid"⟩
  let evidence : ScaleSetDeliveryConsumerError := ⟨"delivery_consumer_evidence_invalid"⟩
  refuseIf ambiguousRequests.isEmpty invalid
  let available ← delivery.availableRequestIds.mapError (fun _ => evidence)
  refuseIf (¬ available.isEmpty) invalid
  refuseIf (¬ ambiguousRequests.Nodup) invalid
  let events ← delivery.retainedEvents.mapError (fun _ => evidence)
  let (next, acquired) ← events.foldlM (policy.reconcileResolutionEvent ambiguousRequests)
    (catalog, [])
  refuseIf acquired.isEmpty ⟨"delivery_consumer_resolution_inconclusive"⟩
  return (next, orderedIds acquired)

end ScaleSetDeliveryConsumerPolicy

end Glaeda
