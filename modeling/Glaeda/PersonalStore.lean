import Glaeda.PersonalQueue
import Glaeda.KeyedList
import Glaeda.Json
import Glaeda.Sha256

/-!
# The document of the personal worker

The queue of the personal worker is kept in one document, together with the
caches its active requests hold, the requests that ended, and a summary of
the documents before it. A document is checked as a whole whenever it is
made – **a `PersonalWorkerStoreDocument` carries that check** – and a second
time against its predecessor before it is stored.

Two things the proofs above rely on are read off the check once: each active
request has exactly one cache lease (`perm_leases`), and no request that ended
is still in the queue or ended twice (`ids_nodup`).

The document is written as JSON over several lines. Its digests are taken of
the compact text, of the queue with what belongs to it, or of the evidence of
one ended request.
-/

namespace Glaeda

open Checked Json List

/-! ## Errors -/

/-- The kinds of refusal. -/
inductive PersonalWorkerStoreErrorKind where
  | invalidDocument
  | revisionConflict
  | busy
  | missing
  | io
  | unsafeFilesystem
  | versionIncompatible
  | corruptState
deriving DecidableEq, Repr

/-- A refusal, with its text. -/
structure PersonalWorkerStoreError where
  kind : PersonalWorkerStoreErrorKind
  publicMessage : String
deriving DecidableEq, Repr

/-- What is stored makes no sense. -/
def corruptState : PersonalWorkerStoreError :=
  ⟨.corruptState, "durable personal worker state is corrupt or noncanonical"⟩

/-- The document is not the expected one. -/
def storeConflict (message : String) : PersonalWorkerStoreError :=
  ⟨.revisionConflict, message⟩

/-- The document is not valid. -/
def invalidStoreDocument (message : String) : PersonalWorkerStoreError :=
  ⟨.invalidDocument, message⟩

/-! ## Revisions -/

/-- The bound of a revision. -/
def maxPersonalWorkerStoreRevision : Nat := 1000000000000

/-- **The revision of a document**: one more with every change. -/
abbrev PersonalWorkerStoreRevision := BoundedRevision maxPersonalWorkerStoreRevision

namespace PersonalWorkerStoreRevision

/-- The revision of a new document. -/
def first : PersonalWorkerStoreRevision := BoundedRevision.first (by decide)

/-- The revision after this one. -/
def next (revision : PersonalWorkerStoreRevision) :
    Except PersonalWorkerStoreError PersonalWorkerStoreRevision :=
  BoundedRevision.new maxPersonalWorkerStoreRevision
    (storeConflict "personal worker store revision space is exhausted") (revision.val + 1)

theorem next_eq_ok {r s : PersonalWorkerStoreRevision} : next r = .ok s ↔ s.val = r.val + 1 :=
  BoundedRevision.new_eq_ok

end PersonalWorkerStoreRevision

/-- The generation after this one. -/
def nextQueueGeneration (generation : PersonalWorkerQueueGeneration) :
    Except PersonalWorkerStoreError PersonalWorkerQueueGeneration :=
  (PersonalWorkerQueueGeneration.next generation).mapError
    (fun _ => storeConflict "personal worker queue generation space is exhausted")

theorem nextQueueGeneration_eq_ok {g g' : PersonalWorkerQueueGeneration} :
    nextQueueGeneration g = .ok g' ↔ g'.val = g.val + 1 := by
  unfold nextQueueGeneration
  rw [mapError_eq_ok, PersonalWorkerQueueGeneration.next_eq_ok]

/-! ## Leases, ended requests and summaries -/

/-- **The lease of a cache** by a request, under its reservation. -/
structure PersonalWorkerDurableCacheLease where
  requestId : ExecutionRequestId
  cacheNamespace : PersonalWorkerCacheNamespace
  access : PersonalWorkerCacheAccessMode
  reservationId : ReservationId
  reservationGeneration : ReservationGeneration
  acquiredAt : EpochMillis
deriving DecidableEq, Repr

/-- How a request ended. -/
inductive PersonalWorkerTerminalMutationClass where
  | releaseCompletionAndCacheLease
deriving DecidableEq, Repr

/-- **What is known about a request that ended.** -/
structure TerminalEvidence where
  mutationClass : PersonalWorkerTerminalMutationClass
  request : PersonalWorkerJobRequest
  terminalAdmission : ExecutionAdmissionRecord
  startedAt : Option EpochMillis
  cacheLease : PersonalWorkerDurableCacheLease
deriving DecidableEq, Repr

/-- A past document, in short. -/
structure PersonalWorkerHistoryEntry where
  revision : PersonalWorkerStoreRevision
  queueGeneration : PersonalWorkerQueueGeneration
  observedAt : EpochMillis
  queuedCount : Nat
  activeCount : Nat
  cacheLeaseCount : Nat
  terminalTombstoneCount : Nat
  stateDigest : Sha256Digest
deriving DecidableEq, Repr

/-! ## How the parts are written -/

/-- A priority as text. -/
def PersonalWorkerPriority.wireName : PersonalWorkerPriority → String
  | .background => "background"
  | .normal => "normal"
  | .interactive => "interactive"

/-- A profile as text. -/
def PersonalWorkerProfile.wireName : PersonalWorkerProfile → String
  | .stopped => "stopped"
  | .interactive => "interactive"
  | .work => "work"

/-- An observed profile as JSON. -/
def PersonalWorkerProfileObservation.toJson : PersonalWorkerProfileObservation → Value
  | .unobserved => .obj [("state", .str "unobserved")]
  | .observed profile => .obj [("state", .str "observed"), ("profile", .str profile.wireName)]

/-- The last activity as JSON. -/
def PersonalWorkerActivityEvidence.toJson : PersonalWorkerActivityEvidence → Value
  | .never => .obj [("state", .str "never")]
  | .observed lastActivityAt =>
    .obj [("state", .str "observed"), ("last_activity_at", .num lastActivityAt.val)]

/-- A mode as text. -/
def PersonalWorkerCacheAccessMode.wireName : PersonalWorkerCacheAccessMode → String
  | .read => "read"
  | .write => "write"
  | .exclusive => "exclusive"

/-- A state as text. -/
def ExecutionAdmissionState.wireName : ExecutionAdmissionState → String
  | .requested => "requested"
  | .admitted => "admitted"
  | .queued => "queued"
  | .reserved => "reserved"
  | .starting => "starting"
  | .running => "running"
  | .draining => "draining"
  | .unavailable => "unavailable"

/-- An acknowledgement as text. -/
def DrainAcknowledgement.wireName : DrainAcknowledgement → String
  | .cancellation => "cancellation"
  | .drain => "drain"

/-- A reason as text. -/
def UnavailableReason.wireName : UnavailableReason → String
  | .admissionRejected => "admission_rejected"
  | .capacityUnavailable => "capacity_unavailable"
  | .hostUnavailable => "host_unavailable"
  | .reservationExpired => "reservation_expired"
  | .cancelled => "cancelled"
  | .drained => "drained"

/-- An end as text. -/
def PersonalWorkerTerminalMutationClass.wireName : PersonalWorkerTerminalMutationClass → String
  | .releaseCompletionAndCacheLease => "release_completion_and_cache_lease"

/-- A time or null. -/
def optionalTime (time : Option EpochMillis) : Value := orNull (time.map (fun t => .num t.val))

/-- An identity as JSON. -/
def ExecutionAdmissionIdentity.toJson (identity : ExecutionAdmissionIdentity) : Value :=
  .obj [("request_id", .str identity.requestId.value),
    ("verification_profile_id", .str identity.verificationProfileId.value),
    ("runner_profile_id", .str identity.runnerProfileId.value)]

/-- Limits as JSON. -/
def ExecutionResourceLimits.toJson (limits : ExecutionResourceLimits) : Value :=
  .obj [("cpu_millis", .num limits.cpuMillis.toNat),
    ("memory_bytes", .num limits.memoryBytes.toNat), ("pids", .num limits.pids.toNat)]

/-- A source as JSON. -/
def PersonalWorkerSourceIdentity.toJson (source : PersonalWorkerSourceIdentity) : Value :=
  .obj [("repository", .str source.repository.value), ("commit", .str source.commit.value),
    ("tree", .str source.tree.value)]

/-- A cache as JSON. -/
def PersonalWorkerCacheNamespace.toJson : PersonalWorkerCacheNamespace → Value
  | .repositoryBuild cacheId repository namespaceDigest =>
    .obj [("class", .str "repository_build"), ("cache_id", .str cacheId.value),
      ("repository", .str repository.value), ("namespace_digest", .str namespaceDigest.value)]
  | .sharedDownload cacheId namespaceDigest =>
    .obj [("class", .str "shared_download"), ("cache_id", .str cacheId.value),
      ("namespace_digest", .str namespaceDigest.value)]

/-- A cancellation as JSON. -/
def PersonalWorkerCancellationState.toJson : PersonalWorkerCancellationState → Value
  | .active => .obj [("state", .str "active")]
  | .cancelled cancelledAt =>
    .obj [("state", .str "cancelled"), ("cancelled_at", .num cancelledAt.val)]

/-- A fallback as JSON. -/
def FallbackProfileEligibility.toJson : FallbackProfileEligibility → Value
  | .eligible runnerProfileId =>
    .obj [("status", .str "eligible"), ("runner_profile_id", .str runnerProfileId.value)]
  | .ineligible => .obj [("status", .str "ineligible")]

/-- A request as JSON. -/
def PersonalWorkerJobRequest.toJson (request : PersonalWorkerJobRequest) : Value :=
  .obj [("identity", request.identity.toJson), ("source", request.source.toJson),
    ("priority", .str request.priority.wireName),
    ("requested_limits", request.requestedLimits.toJson),
    ("cache_namespace", request.cacheNamespace.toJson),
    ("cache_access", .str request.cacheAccess.wireName),
    ("submitted_at", .num request.submittedAt.val),
    ("operator_deadline", optionalTime request.operatorDeadline),
    ("cancellation", request.cancellation.toJson),
    ("fallback_eligibility", request.fallbackEligibility.toJson)]

/-- A position as JSON. -/
def QueuePosition.toJson : QueuePosition → Value
  | .known position => .obj [("knowledge", .str "known"), ("position", .num position.toNat)]
  | .unknown => .obj [("knowledge", .str "unknown")]

/-- A reservation as JSON. -/
def ReservationEvidence.toJson (reservation : ReservationEvidence) : Value :=
  .obj [("id", .str reservation.id.value), ("generation", .num reservation.generation.val),
    ("reserved_at", .num reservation.reservedAt.val),
    ("expires_at", .num reservation.expiresAt.val)]

/-- A capacity as JSON. -/
def HostCapacityObservation.toJson (host : HostCapacityObservation) : Value :=
  .obj [("observed_at", .num host.observedAt.val), ("capacity", host.capacity.toJson)]

/-- An admission as JSON. -/
def ExecutionAdmissionRecord.toJson (record : ExecutionAdmissionRecord) : Value :=
  .obj [("schema_version", .num executionAdmissionSchemaVersion),
    ("identity", record.identity.toJson), ("state", .str record.state.wireName),
    ("observed_at", .num record.observedAt.val),
    ("requested_limits", record.requestedLimits.toJson),
    ("host_capacity", orNull (record.hostCapacity.map HostCapacityObservation.toJson)),
    ("applied_limits", orNull (record.appliedLimits.map ExecutionResourceLimits.toJson)),
    ("queue_position", orNull (record.queuePosition.map QueuePosition.toJson)),
    ("reservation", orNull (record.reservation.map ReservationEvidence.toJson)),
    ("acknowledgement", orNull (record.acknowledgement.map (fun a => .str a.wireName))),
    ("fallback_eligibility", record.fallbackEligibility.toJson),
    ("unavailable_reason", orNull (record.unavailableReason.map (fun r => .str r.wireName)))]

/-- An active request as JSON. -/
def PersonalWorkerActiveReservation.toJson (active : PersonalWorkerActiveReservation) : Value :=
  .obj [("request", active.request.toJson), ("admission", active.admission.toJson),
    ("started_at", optionalTime active.startedAt)]

/-- A pending change as JSON. -/
def PersonalWorkerPendingProfileChange.toJson (pending : PersonalWorkerPendingProfileChange) :
    Value :=
  .obj [("target", .str pending.target.wireName), ("requested_at", .num pending.requestedAt.val)]

/-- A queue as JSON. -/
def PersonalWorkerQueueInput.toJson (queue : PersonalWorkerQueueInput) : Value :=
  .obj [("generation", .num queue.generation.val), ("observed_at", .num queue.observedAt.val),
    ("profile_observation", queue.profileObservation.toJson),
    ("activity_evidence", queue.activityEvidence.toJson),
    ("queued", .arr (queue.queued.map PersonalWorkerJobRequest.toJson)),
    ("active", .arr (queue.active.map PersonalWorkerActiveReservation.toJson)),
    ("pending_profile_change",
      orNull (queue.pendingProfileChange.map PersonalWorkerPendingProfileChange.toJson))]

/-- A lease as JSON. -/
def PersonalWorkerDurableCacheLease.toJson (lease : PersonalWorkerDurableCacheLease) : Value :=
  .obj [("request_id", .str lease.requestId.value), ("namespace", lease.cacheNamespace.toJson),
    ("access", .str lease.access.wireName), ("reservation_id", .str lease.reservationId.value),
    ("reservation_generation", .num lease.reservationGeneration.val),
    ("acquired_at", .num lease.acquiredAt.val)]

variable (evidence : TerminalEvidence)

/-- How a request ended, as fields. -/
def TerminalEvidence.wireFields : List (String × Value) :=
  [("mutation_class", .str evidence.mutationClass.wireName),
    ("request", evidence.request.toJson),
    ("terminal_admission", evidence.terminalAdmission.toJson),
    ("started_at", optionalTime evidence.startedAt),
    ("cache_lease", evidence.cacheLease.toJson)]

/-- A summary: the number of ended requests is left out where there are
none. -/
def PersonalWorkerHistoryEntry.toJson (entry : PersonalWorkerHistoryEntry) : Value :=
  .obj ([("revision", .num entry.revision.val),
      ("queue_generation", .num entry.queueGeneration.val),
      ("observed_at", .num entry.observedAt.val), ("queued_count", .num entry.queuedCount),
      ("active_count", .num entry.activeCount),
      ("cache_lease_count", .num entry.cacheLeaseCount)]
    ++ (if entry.terminalTombstoneCount = 0 then []
      else [("terminal_tombstone_count", .num entry.terminalTombstoneCount)])
    ++ [("state_digest", .str entry.stateDigest.value)])

/-- The digest of a value. -/
def digestOf (error : PersonalWorkerStoreError) (value : Value) :
    Except PersonalWorkerStoreError Sha256Digest :=
  (Sha256Digest.parse
    (String.ofList ("sha256:".toList ++ Sha256.hexDigest (encode value)))).mapError
    (fun _ => error)

/-! ## Ended requests -/

/-- The digest of how a request ended. -/
def terminalEvidenceDigest : Except PersonalWorkerStoreError Sha256Digest :=
  digestOf (invalidStoreDocument "terminal tombstone digest could not be represented")
    (.obj evidence.wireFields)

/-- **The record of a request that ended**, before it is checked. -/
structure TombstoneRecord extends TerminalEvidence where
  evidenceDigest : Sha256Digest
deriving DecidableEq, Repr

namespace TombstoneRecord

variable (tombstone : TombstoneRecord)

/-- The lease and the start are within the reservation. -/
def validateTimes (reservation : ReservationEvidence) : Except PersonalWorkerStoreError Unit := do
  refuseIf (tombstone.cacheLease.acquiredAt.val < reservation.reservedAt.val
      ∨ tombstone.cacheLease.acquiredAt.val > tombstone.terminalAdmission.observedAt.val)
    (invalidStoreDocument "terminal tombstone cache lease time is outside reservation evidence")
  refuseIf (∃ startedAt ∈ tombstone.startedAt, startedAt.val < reservation.reservedAt.val
      ∨ startedAt.val > tombstone.terminalAdmission.observedAt.val)
    (invalidStoreDocument "terminal tombstone start time is outside reservation evidence")

/-- **The check of an ended request**: its parts are about the same request
and the same reservation. -/
def validate : Except PersonalWorkerStoreError Unit := do
  refuseIf (tombstone.terminalAdmission.state ≠ .unavailable)
    (invalidStoreDocument "terminal tombstone requires unavailable admission evidence")
  refuseIf (tombstone.terminalAdmission.identity ≠ tombstone.request.identity
      ∨ tombstone.cacheLease.requestId ≠ tombstone.request.id)
    (invalidStoreDocument "terminal tombstone request identity does not match its evidence")
  refuseIf (tombstone.terminalAdmission.requestedLimits ≠ tombstone.request.requestedLimits
      ∨ tombstone.terminalAdmission.fallbackEligibility ≠ tombstone.request.fallbackEligibility)
    (invalidStoreDocument "terminal tombstone admission semantics drift from the exact request")
  refuseIf (tombstone.cacheLease.cacheNamespace ≠ tombstone.request.cacheNamespace
      ∨ tombstone.cacheLease.access ≠ tombstone.request.cacheAccess)
    (invalidStoreDocument "terminal tombstone cache lease does not match the exact request")
  let reservation ← okOr tombstone.terminalAdmission.reservation
    (invalidStoreDocument "terminal tombstone requires exact reservation evidence")
  refuseIf (tombstone.cacheLease.reservationId ≠ reservation.id
      ∨ tombstone.cacheLease.reservationGeneration ≠ reservation.generation)
    (invalidStoreDocument
      "terminal tombstone cache lease is bound to different reservation evidence")
  tombstone.validateTimes reservation
  let expected ← terminalEvidenceDigest tombstone.toTerminalEvidence
  refuseIf (expected ≠ tombstone.evidenceDigest)
    (invalidStoreDocument "terminal tombstone evidence digest does not match its exact evidence")

end TombstoneRecord

/-- **A tombstone**: the record of an ended request that was checked. -/
structure PersonalWorkerTerminalTombstone extends TombstoneRecord where
  valid : toTombstoneRecord.validate = .ok ()
deriving DecidableEq, Repr

namespace PersonalWorkerTerminalTombstone

/-- A tombstone that passes its checks. -/
def accept (record : TombstoneRecord) :
    Except PersonalWorkerStoreError PersonalWorkerTerminalTombstone :=
  match h : record.validate with
  | .ok () => .ok ⟨record, h⟩
  | .error error => .error error

variable {tombstone : PersonalWorkerTerminalTombstone}

theorem accept_eq_ok {record : TombstoneRecord} :
    accept record = .ok tombstone ↔ tombstone.toTombstoneRecord = record := by
  unfold accept
  split
  · rw [Except.ok.injEq]
    constructor
    · rintro rfl
      rfl
    · rintro rfl
      rfl
  · rename_i error h
    constructor
    · intro hok
      cases hok
    · rintro rfl
      cases tombstone.valid.symm.trans h

/-- **Make the tombstone of a request.** -/
def new (request : PersonalWorkerJobRequest) (terminalAdmission : ExecutionAdmissionRecord)
    (startedAt : Option EpochMillis) (cacheLease : PersonalWorkerDurableCacheLease) :
    Except PersonalWorkerStoreError PersonalWorkerTerminalTombstone := do
  let evidence : TerminalEvidence :=
    ⟨.releaseCompletionAndCacheLease, request, terminalAdmission, startedAt, cacheLease⟩
  let evidenceDigest ← terminalEvidenceDigest evidence
  accept ⟨evidence, evidenceDigest⟩

theorem new_eq_ok {request : PersonalWorkerJobRequest}
    {terminalAdmission : ExecutionAdmissionRecord} {startedAt : Option EpochMillis}
    {cacheLease : PersonalWorkerDurableCacheLease}
    (h : new request terminalAdmission startedAt cacheLease = .ok tombstone) :
    tombstone.request = request ∧ tombstone.terminalAdmission = terminalAdmission
      ∧ tombstone.startedAt = startedAt ∧ tombstone.cacheLease = cacheLease := by
  unfold new at h
  simp only [bind_eq_ok, accept_eq_ok] at h
  obtain ⟨digest, -, hr⟩ := h
  have he := congrArg TombstoneRecord.toTerminalEvidence hr
  exact ⟨congrArg TerminalEvidence.request he, congrArg TerminalEvidence.terminalAdmission he,
    congrArg TerminalEvidence.startedAt he,
    congrArg TerminalEvidence.cacheLease he⟩

/-- The request it remembers. -/
abbrev id (tombstone : PersonalWorkerTerminalTombstone) : ExecutionRequestId :=
  tombstone.request.id

/-- When the request ended. -/
def completedAt (tombstone : PersonalWorkerTerminalTombstone) : EpochMillis :=
  tombstone.terminalAdmission.observedAt

/-- A tombstone as JSON. -/
def toJson (tombstone : PersonalWorkerTerminalTombstone) : Value :=
  .obj (tombstone.wireFields ++ [("evidence_digest", .str tombstone.evidenceDigest.value)])

end PersonalWorkerTerminalTombstone

/-! ## The document -/

/-- The version of a document. -/
def personalWorkerStoreSchemaVersion : Nat := 2

/-- The largest document. -/
def maxPersonalWorkerStoreBytes : Nat := 1048576

/-- How many past documents are kept. -/
def maxPersonalWorkerHistoryEntries : Nat := 32

/-- How many ended requests are kept. -/
def maxPersonalWorkerTerminalTombstones : Nat := 32

/-- **The fields of a document.** -/
structure PersonalWorkerStoreRecord where
  schemaVersion : Nat
  revision : PersonalWorkerStoreRevision
  queue : PersonalWorkerQueueInput
  cacheLeases : List PersonalWorkerDurableCacheLease
  terminalTombstones : List PersonalWorkerTerminalTombstone
  history : List PersonalWorkerHistoryEntry
deriving DecidableEq, Repr

/-- The mode does not go with those held. -/
def cacheModesConflict (held : List PersonalWorkerCacheAccessMode)
    (requested : PersonalWorkerCacheAccessMode) : Bool :=
  !held.isEmpty && (decide (.exclusive ∈ held) || requested == .exclusive
    || decide (.write ∈ held) || requested == .write)

/-- The lease is the one of its request. -/
def validateLease (lease : PersonalWorkerDurableCacheLease)
    (reservation : PersonalWorkerActiveReservation) : Except PersonalWorkerStoreError Unit := do
  refuseIf (lease.cacheNamespace ≠ reservation.request.cacheNamespace
      ∨ lease.access ≠ reservation.request.cacheAccess)
    (invalidStoreDocument "durable cache lease does not match its active request")
  let evidence ← okOr reservation.admission.reservation
    (invalidStoreDocument "durable cache lease requires reservation evidence")
  refuseIf (lease.reservationId ≠ evidence.id
      ∨ lease.reservationGeneration ≠ evidence.generation)
    (invalidStoreDocument "durable cache lease is bound to different reservation evidence")
  refuseIf (lease.acquiredAt.val < evidence.reservedAt.val
      ∨ lease.acquiredAt.val > reservation.admission.observedAt.val)
    (invalidStoreDocument "durable cache lease acquisition time is outside reservation evidence")

/-- One turn over the leases: the owner is new, it is served, the lease is
its own, and the cache is free for it. The owners and the caches so far are
remembered. Identities are distinct where this runs, so the first active
request with an identity is the only one. -/
def takeLease (queue : PersonalWorkerQueueInput) (taken : List ExecutionRequestId × HeldCaches)
    (lease : PersonalWorkerDurableCacheLease) :
    Except PersonalWorkerStoreError (List ExecutionRequestId × HeldCaches) := do
  refuseIf (lease.requestId ∈ taken.1)
    (invalidStoreDocument "durable cache lease owner is duplicated")
  let reservation ← okOr (KeyedList.lookup PersonalWorkerActiveReservation.id lease.requestId
      queue.active)
    (invalidStoreDocument "durable cache lease owner is not an active reservation")
  validateLease lease reservation
  refuseIf (cacheModesConflict (taken.2.modes lease.cacheNamespace) lease.access)
    (invalidStoreDocument "durable cache leases conflict for one namespace")
  return (lease.requestId :: taken.1, taken.2 ++ [(lease.cacheNamespace, lease.access)])

/-- **Each active request holds one cache.** -/
def validateCacheLeases (queue : PersonalWorkerQueueInput)
    (leases : List PersonalWorkerDurableCacheLease) : Except PersonalWorkerStoreError Unit := do
  refuseIf (leases.length ≠ queue.active.length)
    (invalidStoreDocument "every active reservation must own exactly one durable cache lease")
  let _ ← leases.foldlM (takeLease queue) ([], [])
  return ()

/-- One turn over the ended requests: none of them is in the queue, none
ended twice, and they ended in order. -/
def passTombstone (queue : PersonalWorkerQueueInput)
    (passed : List ExecutionRequestId × Option EpochMillis)
    (tombstone : PersonalWorkerTerminalTombstone) :
    Except PersonalWorkerStoreError (List ExecutionRequestId × Option EpochMillis) := do
  tombstone.validate
  refuseIf (tombstone.id ∈ queue.liveIds)
    (invalidStoreDocument "terminal tombstone request is still present in live queue state")
  refuseIf (tombstone.id ∈ passed.1)
    (invalidStoreDocument "terminal tombstone request identity is duplicated")
  refuseIf (∃ previous ∈ passed.2, tombstone.completedAt.val < previous.val)
    (invalidStoreDocument "terminal tombstone completion observations move backwards")
  return (tombstone.id :: passed.1, some tombstone.completedAt)

/-- **The ended requests are in order.** -/
def validateTerminalTombstones (queue : PersonalWorkerQueueInput)
    (tombstones : List PersonalWorkerTerminalTombstone) : Except PersonalWorkerStoreError Unit := do
  refuseIf (tombstones.length > maxPersonalWorkerTerminalTombstones)
    (invalidStoreDocument
      "personal worker terminal tombstone ledger exceeds its bounded entry limit")
  let _ ← tombstones.foldlM (passTombstone queue) ([], none)
  return ()

/-- One turn of the loop over the history. -/
def passHistory (firstRevision : Nat) (previous : Option PersonalWorkerHistoryEntry)
    (entry : PersonalWorkerHistoryEntry × Nat) :
    Except PersonalWorkerStoreError (Option PersonalWorkerHistoryEntry) := do
  refuseIf (entry.1.revision.val ≠ firstRevision + entry.2)
    (invalidStoreDocument "personal worker store history revisions are not consecutive")
  refuseIf (∃ p ∈ previous, entry.1.queueGeneration.val ≠ p.queueGeneration.val + 1)
    (invalidStoreDocument "personal worker store history queue generations are not consecutive")
  refuseIf (∃ p ∈ previous, entry.1.observedAt.val < p.observedAt.val)
    (invalidStoreDocument "personal worker store history observations move backwards")
  return some entry.1

/-- The queue follows the last entry. -/
def validateFollows (queue : PersonalWorkerQueueInput) :
    Option PersonalWorkerHistoryEntry → Except PersonalWorkerStoreError Unit
  | some last => do
    let expected ← (PersonalWorkerQueueGeneration.next last.queueGeneration).mapError
      (fun _ => invalidStoreDocument
        "personal worker store current queue generation cannot follow history")
    refuseIf (queue.generation ≠ expected)
      (invalidStoreDocument
        "personal worker store current queue generation does not follow history")
    refuseIf (queue.observedAt.val < last.observedAt.val)
      (invalidStoreDocument "personal worker store current observation predates retained history")
  | none => .ok ()

variable (revision : PersonalWorkerStoreRevision)

/-- **The summaries cover the last revisions.** -/
def validateHistory (queue : PersonalWorkerQueueInput)
    (history : List PersonalWorkerHistoryEntry) : Except PersonalWorkerStoreError Unit := do
  refuseIf (history.length ≠ min (revision.val - 1) maxPersonalWorkerHistoryEntries)
    (invalidStoreDocument
      "personal worker store history does not cover the bounded revision window")
  let last ← history.zipIdx.foldlM (passHistory (revision.val - history.length)) none
  validateFollows queue last

/-- **The check of a document.** The program evaluates the queue here and
keeps nothing of what it decides; it refuses the queues this check refuses. -/
def PersonalWorkerStoreRecord.validate (document : PersonalWorkerStoreRecord) :
    Except PersonalWorkerStoreError Unit := do
  refuseIf (document.schemaVersion ≠ personalWorkerStoreSchemaVersion)
    (invalidStoreDocument "personal worker store schema version is unsupported")
  document.queue.validateInput.mapError
    (fun _ => invalidStoreDocument "personal worker queue state is semantically invalid")
  validateCacheLeases document.queue document.cacheLeases
  validateTerminalTombstones document.queue document.terminalTombstones
  refuseIf (document.terminalTombstones ≠ [] ∧ document.queue.activityEvidence = .never)
    (invalidStoreDocument "terminal worker evidence requires observed activity evidence")
  validateHistory document.revision document.queue document.history

/-- **The document of the personal worker**: one that was checked. -/
structure PersonalWorkerStoreDocument extends PersonalWorkerStoreRecord where
  valid : toPersonalWorkerStoreRecord.validate = .ok ()
deriving DecidableEq, Repr

namespace PersonalWorkerStoreDocument

/-- A document that passes its checks. -/
def accept (record : PersonalWorkerStoreRecord) :
    Except PersonalWorkerStoreError PersonalWorkerStoreDocument :=
  match h : record.validate with
  | .ok () => .ok ⟨record, h⟩
  | .error error => .error error

theorem accept_eq_ok {record : PersonalWorkerStoreRecord} {d : PersonalWorkerStoreDocument} :
    accept record = .ok d ↔ d.toPersonalWorkerStoreRecord = record := by
  unfold accept
  split
  · rw [Except.ok.injEq]
    constructor
    · rintro rfl
      rfl
    · rintro rfl
      rfl
  · rename_i error h
    constructor
    · intro hok
      cases hok
    · rintro rfl
      cases d.valid.symm.trans h

/-- A document of these parts. -/
def fromParts (queue : PersonalWorkerQueueInput)
    (cacheLeases : List PersonalWorkerDurableCacheLease)
    (terminalTombstones : List PersonalWorkerTerminalTombstone)
    (history : List PersonalWorkerHistoryEntry) :
    Except PersonalWorkerStoreError PersonalWorkerStoreDocument :=
  accept ⟨personalWorkerStoreSchemaVersion, revision, queue, cacheLeases, terminalTombstones,
    history⟩

variable (queue : PersonalWorkerQueueInput)

/-- A count of 32 bits. -/
def boundedCount (value : Nat) : Except PersonalWorkerStoreError Nat := do
  refuseIf (¬ value < 2 ^ 32)
    (invalidStoreDocument "personal worker store count exceeds the bounded representation")
  return value

/-- The tombstones, unless there are none. -/
def tombstonesField (tombstones : List PersonalWorkerTerminalTombstone) : List (String × Value) :=
  if tombstones = [] then []
  else [("terminal_tombstones", .arr (tombstones.map PersonalWorkerTerminalTombstone.toJson))]

/-- The digest of the state of a document: of all but its revision and its
history. -/
def snapshotDigest (leases : List PersonalWorkerDurableCacheLease)
    (tombstones : List PersonalWorkerTerminalTombstone) :
    Except PersonalWorkerStoreError Sha256Digest :=
  digestOf (invalidStoreDocument "personal worker snapshot digest could not be represented")
    (.obj ([("queue", queue.toJson),
      ("cache_leases", .arr (leases.map PersonalWorkerDurableCacheLease.toJson))]
      ++ tombstonesField tombstones))

variable (d : PersonalWorkerStoreDocument)

/-- **The summary of a document.** -/
def summary : Except PersonalWorkerStoreError PersonalWorkerHistoryEntry := do
  let queuedCount ← boundedCount d.queue.queued.length
  let activeCount ← boundedCount d.queue.active.length
  let cacheLeaseCount ← boundedCount d.cacheLeases.length
  let terminalTombstoneCount ← boundedCount d.terminalTombstones.length
  let stateDigest ← snapshotDigest d.queue d.cacheLeases d.terminalTombstones
  return ⟨d.revision, d.queue.generation, d.queue.observedAt, queuedCount, activeCount,
    cacheLeaseCount, terminalTombstoneCount, stateDigest⟩

/-- The summaries a successor keeps: one more, and the oldest dropped when
there are too many. -/
def extendedHistory : Except PersonalWorkerStoreError (List PersonalWorkerHistoryEntry) := do
  let entry ← d.summary
  let history := d.history ++ [entry]
  return if history.length > maxPersonalWorkerHistoryEntries then history.tail else history

end PersonalWorkerStoreDocument

/-- **The ended requests of a successor**: the same ones, or one more at the
end, for which the oldest makes room. -/
def validateTerminalTombstoneLedgerShape (previous next : List PersonalWorkerTerminalTombstone) :
    Except PersonalWorkerStoreError Unit :=
  let exactAppend := previous.length < maxPersonalWorkerTerminalTombstones
    ∧ next.length = previous.length + 1 ∧ next.take previous.length = previous
  let exactFifoEviction := previous.length = maxPersonalWorkerTerminalTombstones
    ∧ next.length = maxPersonalWorkerTerminalTombstones
    ∧ next.take (maxPersonalWorkerTerminalTombstones - 1) = previous.tail
  refuseIf (next ≠ previous ∧ ¬ (exactAppend ∨ exactFifoEviction))
    (storeConflict "terminal tombstone ledger must remain exact or advance by one FIFO entry")

namespace PersonalWorkerStoreDocument

/-- **The document after a change** of the queue and what belongs to it. -/
def advanceWithTerminalTombstones (d : PersonalWorkerStoreDocument)
    (queue : PersonalWorkerQueueInput) (cacheLeases : List PersonalWorkerDurableCacheLease)
    (terminalTombstones : List PersonalWorkerTerminalTombstone) :
    Except PersonalWorkerStoreError PersonalWorkerStoreDocument := do
  let expectedGeneration ← nextQueueGeneration d.queue.generation
  refuseIf (queue.generation ≠ expectedGeneration)
    (storeConflict "personal worker queue generation must advance exactly once")
  refuseIf (queue.observedAt.val < d.queue.observedAt.val)
    (storeConflict "personal worker store observation cannot move backwards")
  validateTerminalTombstoneLedgerShape d.terminalTombstones terminalTombstones
  let history ← d.extendedHistory
  let revision ← PersonalWorkerStoreRevision.next d.revision
  fromParts revision queue cacheLeases terminalTombstones history

variable (previous next : PersonalWorkerStoreDocument)

/-- The active requests that are gone. -/
def removedActive : List PersonalWorkerActiveReservation :=
  previous.queue.active.filter
    (fun active => ¬ ∃ kept ∈ next.queue.active, kept.id = active.id)

/-- The ended request is the active one that is gone, with the lease it had;
nothing else changed. -/
def validateRelease
    (active : PersonalWorkerActiveReservation) (appended : PersonalWorkerTerminalTombstone) :
    Except PersonalWorkerStoreError Unit := do
  refuseIf (active.request ≠ appended.request ∨ active.startedAt ≠ appended.startedAt)
    (storeConflict
      "terminal tombstone request or start evidence differs from the removed reservation")
  let transition ← (active.admission.planTransition appended.terminalAdmission).mapError
    (fun _ => storeConflict "terminal tombstone admission is not an allowed exact transition")
  refuseIf (transition.resultingRecord ≠ appended.terminalAdmission)
    (storeConflict "terminal tombstone admission differs from the exact transition result")
  let previousLease ← okOr
    (KeyedList.lookup PersonalWorkerDurableCacheLease.requestId appended.id previous.cacheLeases)
    (storeConflict "terminal tombstone append requires the exact previous cache lease")
  refuseIf (previousLease ≠ appended.cacheLease
      ∨ ∃ lease ∈ next.cacheLeases, lease.requestId = appended.id)
    (storeConflict "terminal tombstone cache evidence does not match exact lease release")
  refuseIf (next.queue.queued ≠ previous.queue.queued
      ∨ next.queue.profileObservation ≠ previous.queue.profileObservation
      ∨ next.queue.pendingProfileChange ≠ previous.queue.pendingProfileChange)
    (storeConflict "terminal release successor changed unrelated queue policy state")
  refuseIf (next.queue.activityEvidence ≠ .observed appended.completedAt)
    (storeConflict "terminal release successor must record exact completion activity evidence")
  refuseIf (next.queue.observedAt ≠ appended.completedAt)
    (storeConflict "terminal release successor observation must equal exact completion time")
  refuseIf
    (next.queue.active ≠ previous.queue.active.filter (fun active => active.id ≠ appended.id))
    (storeConflict
      "terminal release successor must preserve every retained active reservation exactly")
  refuseIf (next.cacheLeases
      ≠ previous.cacheLeases.filter (fun lease => lease.requestId ≠ appended.id))
    (storeConflict "terminal release successor must preserve every retained cache lease exactly")

/-- **An active request goes with a tombstone**, and only so. -/
def validateTerminalTombstoneSuccessor : Except PersonalWorkerStoreError Unit :=
  if next.terminalTombstones = previous.terminalTombstones then
    refuseIf (previous.removedActive next ≠ [])
      (storeConflict "active reservation removal requires exact appended terminal evidence")
  else do
    validateTerminalTombstoneLedgerShape previous.terminalTombstones next.terminalTombstones
    let appended ← okOr next.terminalTombstones.getLast?
      (storeConflict "terminal tombstone append is missing exact evidence")
    match previous.removedActive next with
    | [active] => do
      refuseIf (active.id ≠ appended.id)
        (storeConflict
          "terminal tombstone append must bind the one exact removed active reservation")
      previous.validateRelease next active appended
    | _ => .error (storeConflict
        "terminal tombstone append must bind the one exact removed active reservation")

/-- **The document may replace the other one.** -/
def validateSuccessorOf (next previous : PersonalWorkerStoreDocument) :
    Except PersonalWorkerStoreError Unit := do
  let expectedRevision ← PersonalWorkerStoreRevision.next previous.revision
  refuseIf (next.revision ≠ expectedRevision)
    (storeConflict "replacement store revision must advance exactly once")
  let expectedGeneration ← nextQueueGeneration previous.queue.generation
  refuseIf (next.queue.generation ≠ expectedGeneration)
    (storeConflict "replacement queue generation must advance exactly once")
  refuseIf (next.queue.observedAt.val < previous.queue.observedAt.val)
    (storeConflict "replacement observation cannot move backwards")
  previous.validateTerminalTombstoneSuccessor next
  let expectedHistory ← previous.extendedHistory
  refuseIf (next.history ≠ expectedHistory)
    (storeConflict "replacement history does not extend the exact persisted revision")

/-- A document as JSON. -/
def toJson (d : PersonalWorkerStoreDocument) : Value :=
  .obj ([("schema_version", .num d.schemaVersion), ("revision", .num d.revision.val),
      ("queue", d.queue.toJson),
      ("cache_leases", .arr (d.cacheLeases.map PersonalWorkerDurableCacheLease.toJson))]
    ++ tombstonesField d.terminalTombstones
    ++ [("history", .arr (d.history.map PersonalWorkerHistoryEntry.toJson))])

end PersonalWorkerStoreDocument

/-- **The bytes of a document**, unless they are too many. -/
def encodePersonalWorkerStoreDocument (document : PersonalWorkerStoreDocument) :
    Except PersonalWorkerStoreError (List UInt8) := do
  document.validate
  let encoded := encodePretty document.toJson ++ [10]
  refuseIf (encoded.length > maxPersonalWorkerStoreBytes)
    (invalidStoreDocument "personal worker store document exceeds the bounded byte limit")
  return encoded

/-! ## What a document satisfies -/

namespace PersonalWorkerStoreDocument

variable {d n : PersonalWorkerStoreDocument}

/-- **The check of a document, taken apart.** -/
theorem validate_eq_ok (d : PersonalWorkerStoreDocument) :
    d.schemaVersion = personalWorkerStoreSchemaVersion ∧ d.queue.validateInput = .ok ()
      ∧ validateCacheLeases d.queue d.cacheLeases = .ok ()
      ∧ validateTerminalTombstones d.queue d.terminalTombstones = .ok ()
      ∧ (d.queue.activityEvidence = .never → d.terminalTombstones = [])
      ∧ validateHistory d.revision d.queue d.history = .ok () := by
  have h := d.valid
  unfold PersonalWorkerStoreRecord.validate at h
  simp only [guard_bind_eq_ok, refuseIf_eq_ok, mapError_eq_ok, ne_eq, not_not] at h
  obtain ⟨hv, hq, hl, ht, he, hh⟩ := h
  refine ⟨hv, hq, hl, ht, fun hn => ?_, hh⟩
  by_contra hne
  exact he ⟨hne, hn⟩

theorem accepted (d : PersonalWorkerStoreDocument) : d.queue.Accepted :=
  PersonalWorkerQueueInput.validateInput_iff.mp (validate_eq_ok d).2.1

/-- The lease belongs to an active request. -/
def checkOwner (queue : PersonalWorkerQueueInput) (lease : PersonalWorkerDurableCacheLease) :
    Except PersonalWorkerStoreError Unit := do
  let reservation ← okOr
    (KeyedList.lookup PersonalWorkerActiveReservation.id lease.requestId queue.active)
    (invalidStoreDocument "durable cache lease owner is not an active reservation")
  validateLease lease reservation

variable {lease : PersonalWorkerDurableCacheLease}

theorem insertDistinct_of_takeLease {queue : PersonalWorkerQueueInput}
    {taken taken' : List ExecutionRequestId × HeldCaches}
    (h : takeLease queue taken lease = .ok taken') :
    insertDistinct (checkOwner queue) PersonalWorkerDurableCacheLease.requestId
      (invalidStoreDocument "durable cache lease owner is duplicated") taken.1 lease
      = .ok taken'.1 := by
  unfold takeLease at h
  simp only [bind_eq_ok, refuseIf_eq_ok, okOr_eq_ok, pure_eq_ok_iff] at h
  obtain ⟨_, hn, reservation, hr, _, hl, _, -, rfl⟩ := h
  rw [insertDistinct_eq_ok, checkOwner, hr]
  exact ⟨hl, hn, rfl⟩

theorem leases_distinct (d : PersonalWorkerStoreDocument) :
    (∀ lease ∈ d.cacheLeases, checkOwner d.queue lease = .ok ())
      ∧ (d.cacheLeases.map PersonalWorkerDurableCacheLease.requestId).Nodup
      ∧ d.cacheLeases.length = d.queue.active.length := by
  have h := (validate_eq_ok d).2.2.1
  unfold validateCacheLeases at h
  rw [refuseIf_bind_eq_ok, not_not, bind_eq_ok] at h
  obtain ⟨hl, taken, ht, -⟩ := h
  have hf := foldlM_map Prod.fst (fun _ _ _ => insertDistinct_of_takeLease) ht
  obtain ⟨ho, hnd, -⟩ := foldlM_insertDistinct_eq_ok.mp hf
  exact ⟨ho, hnd, hl⟩

theorem exists_owner (h : lease ∈ d.cacheLeases) :
    ∃ active ∈ d.queue.active, active.id = lease.requestId := by
  have ho := (leases_distinct d).1 lease h
  unfold checkOwner at ho
  rw [bind_eq_ok] at ho
  obtain ⟨active, ha, -⟩ := ho
  rw [okOr_eq_ok] at ha
  exact ⟨active, KeyedList.mem_of_lookup ha, KeyedList.key_of_lookup ha⟩

/-- **Each active request has exactly one lease.** -/
theorem perm_leases (d : PersonalWorkerStoreDocument) :
    (d.cacheLeases.map PersonalWorkerDurableCacheLease.requestId).Perm
      (d.queue.active.map PersonalWorkerActiveReservation.id) := by
  obtain ⟨-, hnd, hlen⟩ := leases_distinct d
  have hs : d.cacheLeases.map PersonalWorkerDurableCacheLease.requestId
      ⊆ d.queue.active.map PersonalWorkerActiveReservation.id := by
    intro k hk
    obtain ⟨lease, hl, rfl⟩ := mem_map.mp hk
    obtain ⟨active, ha, hid⟩ := exists_owner hl
    exact hid ▸ mem_map_of_mem ha
  refine (hnd.subperm hs).perm_of_length_le ?_
  rw [length_map, length_map, hlen]

section

variable {queue : PersonalWorkerQueueInput} {tombstones : List PersonalWorkerTerminalTombstone}
variable {seen : List ExecutionRequestId} {last : Option EpochMillis}

theorem passTombstone_eq_ok {t : PersonalWorkerTerminalTombstone}
    {passed : List ExecutionRequestId × Option EpochMillis} :
    passTombstone queue (seen, last) t = .ok passed
      ↔ t.id ∉ queue.liveIds ∧ t.id ∉ seen ∧ (∀ previous ∈ last, previous.val ≤ t.completedAt.val)
        ∧ passed = (t.id :: seen, some t.completedAt) := by
  unfold passTombstone
  rw [guard_bind_eq_ok, guard_bind_eq_ok, guard_bind_eq_ok, guard_bind_eq_ok,
    and_iff_right t.valid, refuseIf_eq_ok, refuseIf_eq_ok, refuseIf_eq_ok, pure_eq_ok,
    Except.ok.injEq]
  refine and_congr_right fun _ => and_congr_right fun _ => and_congr ?_ eq_comm
  simp

/-- **The loop over the ended requests accepts** those that are not in the
queue, not repeated and in the order of their ends. -/
theorem foldlM_passTombstone :
    (∃ passed, tombstones.foldlM (passTombstone queue) (seen, last) = .ok passed)
      ↔ (∀ t ∈ tombstones, t.id ∉ queue.liveIds ∧ t.id ∉ seen
          ∧ ∀ previous ∈ last, previous.val ≤ t.completedAt.val)
        ∧ tombstones.Pairwise
          (fun s t => s.id ≠ t.id ∧ s.completedAt.val ≤ t.completedAt.val) := by
  induction tombstones generalizing seen last with
  | nil => simp
  | cons t tombstones ih =>
    rw [foldlM_cons, forall_mem_cons, pairwise_cons]
    simp only [bind_eq_ok, passTombstone_eq_ok]
    constructor
    · rintro ⟨passed, _, ⟨hl, hsn, hls, rfl⟩, hr⟩
      obtain ⟨ha, hp⟩ := ih.mp ⟨passed, hr⟩
      refine ⟨⟨⟨hl, hsn, hls⟩, fun s hs => ?_⟩, fun s hs => ?_, hp⟩
      · obtain ⟨hl, hsn, hle⟩ := ha s hs
        exact ⟨hl, fun hm => hsn (mem_cons_of_mem _ hm),
          fun previous hpr => (hls previous hpr).trans (hle _ rfl)⟩
      · obtain ⟨-, hsn, hle⟩ := ha s hs
        exact ⟨fun heq => hsn (heq ▸ mem_cons_self), hle _ rfl⟩
    · rintro ⟨⟨⟨hl, hsn, hls⟩, ha⟩, hf, hp⟩
      obtain ⟨passed, hpas⟩ := ih.mpr ⟨fun s hs => ⟨(ha s hs).1,
        not_mem_cons_of_ne_of_not_mem (hf s hs).1.symm (ha s hs).2.1,
        fun _ hpr => Option.some.inj hpr ▸ (hf s hs).2⟩, hp⟩
      exact ⟨passed, _, ⟨hl, hsn, hls, rfl⟩, hpas⟩

/-- **The ended requests are accepted** where they are not too many, not in the
queue, not repeated and in order. -/
theorem validateTerminalTombstones_iff :
    validateTerminalTombstones queue tombstones = .ok ()
      ↔ tombstones.length ≤ maxPersonalWorkerTerminalTombstones
        ∧ (∀ t ∈ tombstones, t.id ∉ queue.liveIds)
        ∧ (tombstones.map PersonalWorkerTerminalTombstone.id).Nodup
        ∧ tombstones.Pairwise (fun s t => s.completedAt.val ≤ t.completedAt.val) := by
  unfold validateTerminalTombstones
  rw [refuseIf_bind_eq_ok, not_lt, bind_eq_ok, Nodup, pairwise_map, ← pairwise_and_iff]
  refine and_congr_right fun _ => ?_
  simpa using @foldlM_passTombstone queue tombstones [] none

end

/-- **The ended requests of a document.** -/
theorem ledger (d : PersonalWorkerStoreDocument) :
    d.terminalTombstones.length ≤ maxPersonalWorkerTerminalTombstones
      ∧ (∀ t ∈ d.terminalTombstones, t.id ∉ d.queue.liveIds)
      ∧ (d.terminalTombstones.map PersonalWorkerTerminalTombstone.id).Nodup
      ∧ d.terminalTombstones.Pairwise (fun s t => s.completedAt.val ≤ t.completedAt.val) :=
  validateTerminalTombstones_iff.mp (validate_eq_ok d).2.2.2.1

/-- The requests a document knows. -/
def ids (d : PersonalWorkerStoreDocument) : List ExecutionRequestId :=
  d.queue.liveIds ++ d.terminalTombstones.map PersonalWorkerTerminalTombstone.id

/-- **No request stands twice in a document.** -/
theorem ids_nodup (d : PersonalWorkerStoreDocument) : d.ids.Nodup := by
  obtain ⟨-, hl, hnd, -⟩ := d.ledger
  refine nodup_append'.mpr ⟨d.accepted.distinct, hnd, ?_⟩
  intro k hk hk'
  obtain ⟨tombstone, ht, rfl⟩ := mem_map.mp hk'
  exact hl tombstone ht hk

theorem counts_of_validateSuccessorOf (h : n.validateSuccessorOf d = .ok ()) :
    n.revision.val = d.revision.val + 1 ∧ n.queue.generation.val = d.queue.generation.val + 1
      ∧ d.queue.observedAt.val ≤ n.queue.observedAt.val := by
  unfold validateSuccessorOf at h
  simp only [bind_eq_ok, refuseIf_eq_ok, not_not, ne_eq, not_lt] at h
  obtain ⟨revision, hr, _, rfl, generation, hg, _, rfl, _, ho, -⟩ := h
  exact ⟨PersonalWorkerStoreRevision.next_eq_ok.mp hr, nextQueueGeneration_eq_ok.mp hg, ho⟩

end PersonalWorkerStoreDocument

end Glaeda
