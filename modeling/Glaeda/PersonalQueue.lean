import Glaeda.ExecutionAdmission

/-!
# The queue of the personal worker

The personal worker keeps one queue: requests that wait, at most two that are
being served, and what is known about the machine that serves them. Every
observation of the queue is checked as a whole before anything is decided or
stored – the times are in order, the resources fit, the caches are not
shared against their access mode, and **no request identity stands twice**
among the waiting and the active ones (`validateInput_iff`).

The check is what the store relies on. What the queue decides from an
accepted observation is not part of it.
-/

namespace Glaeda

open Checked List

/-! ## What a job runs on -/

/-- The owner or the name of a repository. -/
def validRepositoryComponent (component : List Char) : Bool :=
  !component.isEmpty && component.length ≤ 100
    && component.all (fun c => c.isAlpha || c.isDigit || c == '.' || c == '_' || c == '-')

variable (value : String)

/-- A repository. -/
def isRepositoryRef : Bool :=
  match value.toList.splitOn '/' with
  | [owner, name] => validRepositoryComponent owner && validRepositoryComponent name
  | _ => false

/-- **A repository**, by its owner and its name. -/
structure RepositoryRef where
  value : String
  valid : isRepositoryRef value = true
deriving DecidableEq, Repr

/-- The name of an object. -/
def isGitObjectId : Bool :=
  let cs := value.toList
  (cs.length == 40 || cs.length == 64) && cs.all isLowerHex

/-- **An object of a repository.** Commits and trees are two copies of one
type that differ in the field their errors name. -/
structure GitObjectId (field : String) where
  value : String
  valid : isGitObjectId value = true
deriving DecidableEq, Repr

/-- A commit. -/
abbrev CommitId := GitObjectId "commit"

/-- A tree. -/
abbrev GitTreeId := GitObjectId "tree"

/-- What is built. -/
structure PersonalWorkerSourceIdentity where
  repository : RepositoryRef
  commit : CommitId
  tree : GitTreeId
deriving DecidableEq, Repr

/-! ## The parts of an observation -/

/-- The longest queue. -/
def maxPersonalWorkerQueueEntries : Nat := 256

/-- The most active requests. -/
def maxPersonalWorkerActiveReservations : Nat := 2

/-- The processor time there is. -/
def personalWorkerSchedulableCpuMillis : Nat := 8000 - 1000

/-- The memory there is. -/
def personalWorkerSchedulableMemoryBytes : Nat := 10 * 2 ^ 30 - 2 * 2 ^ 30

/-- The processes there are. -/
def personalWorkerSchedulablePidCapacity : Nat := 4096 - 1024

/-- The processor time of a light job. -/
def personalWorkerLightCpuMillis : Nat := 3500

/-- The memory of a light job. -/
def personalWorkerLightMemoryBytes : Nat := 4 * 2 ^ 30

/-- The bound of a generation. -/
def maxQueueGeneration : Nat := 1000000000000

/-- **The generation of the queue**: one more with every change. -/
abbrev PersonalWorkerQueueGeneration := BoundedRevision maxQueueGeneration

namespace PersonalWorkerQueueGeneration

/-- A generation within its bounds. -/
def new : Nat → Except FieldError PersonalWorkerQueueGeneration :=
  BoundedRevision.new maxQueueGeneration ⟨"generation", "invalid_queue_generation",
    "queue generation must be within the bounded positive range"⟩

/-- The generation that follows. The bound is far below the machine integer,
so the addition never saturates. -/
def next (generation : PersonalWorkerQueueGeneration) :
    Except FieldError PersonalWorkerQueueGeneration :=
  new (generation.val + 1)

theorem next_eq_ok {generation generation' : PersonalWorkerQueueGeneration} :
    next generation = .ok generation' ↔ generation'.val = generation.val + 1 :=
  BoundedRevision.new_eq_ok

end PersonalWorkerQueueGeneration

/-- How urgent a request is. -/
inductive PersonalWorkerPriority where
  | background | normal | interactive
deriving DecidableEq, Repr

/-- What the machine is set up for. -/
inductive PersonalWorkerProfile where
  | stopped | interactive | work
deriving DecidableEq, Repr

/-- The profile, if it was seen. -/
inductive PersonalWorkerProfileObservation where
  | unobserved
  | observed (profile : PersonalWorkerProfile)
deriving DecidableEq, Repr

/-- The profile, if it was seen. -/
def PersonalWorkerProfileObservation.profile :
    PersonalWorkerProfileObservation → Option PersonalWorkerProfile
  | .unobserved => none
  | .observed profile => some profile

/-- When there was work last. -/
inductive PersonalWorkerActivityEvidence where
  | never
  | observed (lastActivityAt : EpochMillis)
deriving DecidableEq, Repr

/-- When there was work last, if ever. -/
def PersonalWorkerActivityEvidence.lastActivityAt :
    PersonalWorkerActivityEvidence → Option EpochMillis
  | .never => none
  | .observed lastActivityAt => some lastActivityAt

/-- How much a job takes. -/
inductive PersonalWorkerJobClass where
  | light | heavy
deriving DecidableEq, Repr

/-- **A cache** a job works with. -/
inductive PersonalWorkerCacheNamespace where
  | repositoryBuild (cacheId : CacheId) (repository : RepositoryRef)
      (namespaceDigest : Sha256Digest)
  | sharedDownload (cacheId : CacheId) (namespaceDigest : Sha256Digest)
deriving DecidableEq, Repr

/-- How a cache is used. -/
inductive PersonalWorkerCacheAccessMode where
  | read | write | exclusive
deriving DecidableEq, Repr

/-- Whether a cache can be had. -/
inductive PersonalWorkerCacheLeaseState where
  | available | sharedRead | heldRead | heldWrite | heldExclusive | blockedByWriter
  | blockedByExclusive
deriving DecidableEq, Repr

/-- Whether a request is cancelled. -/
inductive PersonalWorkerCancellationState where
  | active
  | cancelled (cancelledAt : EpochMillis)
deriving DecidableEq, Repr

/-- It is cancelled. -/
def PersonalWorkerCancellationState.isCancelled : PersonalWorkerCancellationState → Bool
  | .active => false
  | .cancelled _ => true

/-- **A request** for a job. -/
structure PersonalWorkerJobRequest where
  identity : ExecutionAdmissionIdentity
  source : PersonalWorkerSourceIdentity
  priority : PersonalWorkerPriority
  requestedLimits : ExecutionResourceLimits
  cacheNamespace : PersonalWorkerCacheNamespace
  cacheAccess : PersonalWorkerCacheAccessMode
  submittedAt : EpochMillis
  operatorDeadline : Option EpochMillis
  cancellation : PersonalWorkerCancellationState
  fallbackEligibility : FallbackProfileEligibility
deriving DecidableEq, Repr

variable (request : PersonalWorkerJobRequest)

namespace PersonalWorkerJobRequest

/-- The name of the request. -/
abbrev id : ExecutionRequestId := request.identity.requestId

/-- Whether a request is light or heavy. -/
def jobClass : PersonalWorkerJobClass :=
  if request.requestedLimits.cpuMillis.toNat ≤ personalWorkerLightCpuMillis
      ∧ request.requestedLimits.memoryBytes.toNat ≤ personalWorkerLightMemoryBytes
  then .light else .heavy

end PersonalWorkerJobRequest

/-- **A request that is being served**, with its admission. -/
structure PersonalWorkerActiveReservation where
  request : PersonalWorkerJobRequest
  admission : ExecutionAdmissionRecord
  startedAt : Option EpochMillis
deriving DecidableEq, Repr

/-- The name of its request. -/
abbrev PersonalWorkerActiveReservation.id (active : PersonalWorkerActiveReservation) :
    ExecutionRequestId := active.request.id

/-- A profile that was asked for. -/
structure PersonalWorkerPendingProfileChange where
  target : PersonalWorkerProfile
  requestedAt : EpochMillis
deriving DecidableEq, Repr

/-- **One observation of the queue.** -/
structure PersonalWorkerQueueInput where
  generation : PersonalWorkerQueueGeneration
  observedAt : EpochMillis
  profileObservation : PersonalWorkerProfileObservation
  activityEvidence : PersonalWorkerActivityEvidence
  queued : List PersonalWorkerJobRequest
  active : List PersonalWorkerActiveReservation
  pendingProfileChange : Option PersonalWorkerPendingProfileChange
deriving DecidableEq, Repr

/-! ## Checks of one request -/

/-- The cache is one of the source. -/
def PersonalWorkerCacheNamespace.validateForSource (cache : PersonalWorkerCacheNamespace)
    (source : PersonalWorkerSourceIdentity) : Except FieldError Unit :=
  match cache with
  | .repositoryBuild _ repository _ =>
    refuseIf (repository ≠ source.repository)
      ⟨"cache.repository", "cache_repository_mismatch",
        "repository build cache namespace must match the exact job repository"⟩
  | .sharedDownload _ _ => .ok ()

/-- The limits fit the machine. -/
def validateLimits (limits : ExecutionResourceLimits) : Except FieldError Unit :=
  refuseIf (limits.cpuMillis.toNat > personalWorkerSchedulableCpuMillis
      ∨ limits.memoryBytes.toNat > personalWorkerSchedulableMemoryBytes
      ∨ limits.pids.toNat > personalWorkerSchedulablePidCapacity)
    ⟨"requested_limits", "personal_worker_reserve_violation",
      "job limits must preserve the fixed guest, listener, Podman, and cache reserve"⟩

/-- The fallback is another profile. -/
def validateFallback (identity : ExecutionAdmissionIdentity)
    (fallback : FallbackProfileEligibility) : Except FieldError Unit :=
  match fallback with
  | .eligible runnerProfileId =>
    refuseIf (runnerProfileId = identity.runnerProfileId)
      ⟨"fallback_eligibility.runner_profile_id", "fallback_profile_matches_primary",
        "fallback profile must differ from the personal worker profile"⟩
  | .ineligible => .ok ()

/-- Cancelled after it was submitted, and by now. -/
def PersonalWorkerJobRequest.validateCancellation
    (observedAt : EpochMillis) : Except FieldError Unit :=
  match request.cancellation with
  | .cancelled cancelledAt =>
    refuseIf (cancelledAt.val < request.submittedAt.val ∨ cancelledAt.val > observedAt.val)
      ⟨"cancellation.cancelled_at", "invalid_cancellation_time",
        "cancellation time must be between submission and observation"⟩
  | .active => .ok ()

/-- **The check of one request.** -/
def validateRequest (observedAt : EpochMillis) (request : PersonalWorkerJobRequest) :
    Except FieldError Unit := do
  refuseIf (request.submittedAt.val > observedAt.val)
    ⟨"submitted_at", "future_submission_time",
      "job submission cannot be newer than the queue observation"⟩
  refuseIf (∃ deadline ∈ request.operatorDeadline, deadline.val ≤ request.submittedAt.val)
    ⟨"operator_deadline", "invalid_operator_deadline",
      "operator deadline must be later than job submission"⟩
  request.validateCancellation observedAt
  validateLimits request.requestedLimits
  request.cacheNamespace.validateForSource request.source
  validateFallback request.identity request.fallbackEligibility

variable (reservation : PersonalWorkerActiveReservation)

/-- Cancelled by the time of the admission. -/
def PersonalWorkerActiveReservation.validateCancellation : Except FieldError Unit :=
  match reservation.request.cancellation with
  | .cancelled cancelledAt =>
    refuseIf (cancelledAt.val > reservation.admission.observedAt.val)
      ⟨"cancellation.cancelled_at", "cancellation_after_admission_observation",
        "draining admission must be observed at or after cancellation"⟩
  | .active => .ok ()

/-- It was started when its state says so. -/
def PersonalWorkerActiveReservation.validateStart
    (evidence : ReservationEvidence) : Except FieldError Unit :=
  match reservation.admission.state with
  | .reserved =>
    refuseIf (reservation.startedAt.isSome)
      ⟨"started_at", "premature_start_time", "reserved work must not carry a start time"⟩
  | .starting | .running | .draining =>
    refuseIf (∀ started ∈ reservation.startedAt, started.val < evidence.reservedAt.val
        ∨ started.val > reservation.admission.observedAt.val)
      ⟨"started_at", "invalid_active_start_time",
        "started work requires a bounded time after reservation and before admission observation"⟩
  | .requested | .admitted | .queued | .unavailable =>
    -- the program stops here: the state was checked before
    .error ⟨"", "panic", "active state validated above"⟩

/-- **The check of a request that is being served.** -/
def validateActive (observedAt : EpochMillis) (reservation : PersonalWorkerActiveReservation) :
    Except FieldError Unit := do
  validateRequest observedAt reservation.request
  refuseIf (reservation.admission.observedAt.val < reservation.request.submittedAt.val
      ∨ reservation.admission.observedAt.val > observedAt.val)
    ⟨"admission.observed_at", "active_admission_time_out_of_bounds",
      "active admission observation must be between submission and queue observation"⟩
  reservation.validateCancellation
  refuseIf (reservation.request.cancellation.isCancelled
      ∧ reservation.admission.state ≠ .draining)
    ⟨"cancellation", "active_cancellation_requires_drain",
      "cancelled active work must be observed in draining admission state"⟩
  refuseIf (reservation.admission.identity ≠ reservation.request.identity)
    ⟨"admission.identity", "active_admission_identity_drift",
      "active admission identity must match the exact queue request"⟩
  refuseIf (reservation.admission.requestedLimits ≠ reservation.request.requestedLimits)
    ⟨"admission.requested_limits", "active_requested_limits_drift",
      "active admission limits must match the exact queue request"⟩
  refuseIf (reservation.admission.fallbackEligibility ≠ reservation.request.fallbackEligibility)
    ⟨"admission.fallback_eligibility", "active_fallback_eligibility_drift",
      "active admission fallback eligibility must match the exact queue request"⟩
  refuseIf (¬ reservation.admission.state.requiresReservation)
    ⟨"admission.state", "invalid_active_admission_state",
      "active worker reservations require reserved, starting, running, or draining state"⟩
  let evidence ← okOr reservation.admission.reservation
    ⟨"admission.reservation", "missing_active_reservation",
      "active admission requires exact reservation evidence"⟩
  refuseIf (evidence.expiresAt.val ≤ observedAt.val)
    ⟨"admission.reservation.expires_at", "expired_active_reservation",
      "active reservation must not be expired at queue observation time"⟩
  let applied ← okOr reservation.admission.appliedLimits
    ⟨"admission.applied_limits", "missing_active_applied_limits",
      "active admission requires applied resource limits"⟩
  validateLimits applied
  refuseIf (applied ≠ reservation.request.requestedLimits)
    ⟨"admission.applied_limits", "active_applied_limits_drift",
      "personal-worker reservation must apply the exact requested limits"⟩
  reservation.validateStart evidence

/-! ## Checks of the whole queue -/

/-- What the active requests take together. -/
structure ActiveUsage where
  cpuMillis : Nat
  memoryBytes : Nat
  pids : Nat
  heavyCount : Nat
deriving DecidableEq, Repr

/-- The usage with one more request. -/
def ActiveUsage.add (usage : ActiveUsage) (reservation : PersonalWorkerActiveReservation) :
    Except FieldError ActiveUsage := do
  let limits := reservation.request.requestedLimits
  let cpuMillis ← okOr (checkedAdd (2 ^ 32) usage.cpuMillis limits.cpuMillis.toNat)
    ⟨"active.requested_limits.cpu_millis", "active_cpu_overflow",
      "active CPU reservations exceed the bounded aggregate"⟩
  let memoryBytes ← okOr (checkedAdd u64Size usage.memoryBytes limits.memoryBytes.toNat)
    ⟨"active.requested_limits.memory_bytes", "active_memory_overflow",
      "active memory reservations exceed the bounded aggregate"⟩
  let pids ← okOr (checkedAdd (2 ^ 32) usage.pids limits.pids.toNat)
    ⟨"active.requested_limits.pids", "active_pid_overflow",
      "active PID reservations exceed the bounded aggregate"⟩
  let heavyCount :=
    if reservation.request.jobClass = .heavy then usage.heavyCount + 1 else usage.heavyCount
  return ⟨cpuMillis, memoryBytes, pids, heavyCount⟩

variable (active : List PersonalWorkerActiveReservation)

/-- **What is served fits**: one heavy job, or two light ones. -/
def aggregateActiveLimits : Except FieldError ActiveUsage := do
  let usage ← active.foldlM ActiveUsage.add ⟨0, 0, 0, 0⟩
  refuseIf (usage.cpuMillis > personalWorkerSchedulableCpuMillis
      ∨ usage.memoryBytes > personalWorkerSchedulableMemoryBytes
      ∨ usage.pids > personalWorkerSchedulablePidCapacity
      ∨ usage.heavyCount > 1 ∨ (usage.heavyCount = 1 ∧ active.length > 1))
    ⟨"active", "active_resource_overcommit",
      "active reservations must fit one heavy job or at most two light jobs"⟩
  return usage

/-- What keeps a cache from being used. -/
def leaseConflictForModes (held : List PersonalWorkerCacheAccessMode)
    (requested : PersonalWorkerCacheAccessMode) : Option PersonalWorkerCacheLeaseState :=
  if held.isEmpty then none
  else if .exclusive ∈ held then some .blockedByExclusive
  else if requested = .exclusive then some .blockedByExclusive
  else if .write ∈ held ∨ requested = .write then some .blockedByWriter
  else none

/-- The caches in use, and how. -/
abbrev HeldCaches := List (PersonalWorkerCacheNamespace × PersonalWorkerCacheAccessMode)

/-- How a cache is used. -/
def HeldCaches.modes (held : HeldCaches) (cache : PersonalWorkerCacheNamespace) :
    List PersonalWorkerCacheAccessMode :=
  held.filterMap (fun entry => if entry.1 = cache then some entry.2 else none)

/-- The caches with one more in use. -/
def HeldCaches.add (held : HeldCaches) (reservation : PersonalWorkerActiveReservation) :
    Except FieldError HeldCaches := do
  let request := reservation.request
  refuseIf (leaseConflictForModes (held.modes request.cacheNamespace) request.cacheAccess).isSome
    ⟨"active.cache_access", "active_cache_lease_conflict",
      "active cache leases conflict for one namespace"⟩
  return held ++ [(request.cacheNamespace, request.cacheAccess)]

/-- The active requests can share their caches. -/
def validateActiveLeases : Except FieldError Unit := do
  let _ ← active.foldlM HeldCaches.add []
  return ()

namespace PersonalWorkerQueueInput

variable (input : PersonalWorkerQueueInput)

/-- A change is asked for once a profile was seen. -/
def validatePendingProfileChange : Except FieldError Unit :=
  match input.pendingProfileChange with
  | some pending => do
    refuseIf (input.profileObservation.profile = none)
      ⟨"profile_observation", "profile_intent_requires_observation",
        "profile-change intent requires an observed current profile"⟩
    refuseIf (pending.requestedAt.val > input.observedAt.val)
      ⟨"pending_profile_change.requested_at", "future_profile_change_request",
        "profile-change request cannot be newer than the queue observation"⟩
  | none => .ok ()

/-- Every request is valid, and none is there twice. -/
def validateRequests : Except FieldError Unit := do
  let seen ← input.queued.foldlM
    (insertDistinct (validateRequest input.observedAt) PersonalWorkerJobRequest.id
      ⟨"identity.request_id", "duplicate_request_identity",
        "queue request identity must be unique"⟩) []
  let _ ← input.active.foldlM
    (insertDistinct (validateActive input.observedAt) PersonalWorkerActiveReservation.id
      ⟨"identity.request_id", "duplicate_request_identity",
        "queued and active request identities must be unique"⟩) seen
  return ()

/-- **The check of an observation.** -/
def validateInput : Except FieldError Unit := do
  refuseIf (input.queued.length > maxPersonalWorkerQueueEntries)
    ⟨"queued", "queue_limit_exceeded", "personal worker queue exceeds the bounded entry limit"⟩
  refuseIf (input.active.length > maxPersonalWorkerActiveReservations)
    ⟨"active", "active_reservation_limit_exceeded",
      "personal worker allows at most two active light reservations"⟩
  refuseIf (∃ last ∈ input.activityEvidence.lastActivityAt, last.val > input.observedAt.val)
    ⟨"activity_evidence.last_activity_at", "future_last_activity",
      "last activity cannot be newer than the queue observation"⟩
  refuseIf (input.activityEvidence = .never
      ∧ (input.queued ≠ [] ∨ input.active ≠ [] ∨ input.pendingProfileChange.isSome))
    ⟨"activity_evidence", "activity_evidence_required",
      "durable work and profile intents require observed activity evidence"⟩
  refuseIf (input.active ≠ [] ∧ input.profileObservation ≠ .observed .work)
    ⟨"profile_observation", "active_work_requires_work_profile",
      "active reservations require an observed work worker profile"⟩
  input.validatePendingProfileChange
  input.validateRequests
  let _ ← aggregateActiveLimits input.active
  validateActiveLeases input.active

end PersonalWorkerQueueInput

/-! ## What an accepted observation satisfies -/

namespace PersonalWorkerQueueInput

variable {input : PersonalWorkerQueueInput}

/-- The requests of a queue. -/
def liveIds (input : PersonalWorkerQueueInput) : List ExecutionRequestId :=
  input.queued.map PersonalWorkerJobRequest.id
    ++ input.active.map PersonalWorkerActiveReservation.id

theorem mem_liveIds {k : ExecutionRequestId} :
    k ∈ input.liveIds ↔ (∃ r ∈ input.queued, r.id = k) ∨ ∃ a ∈ input.active, a.id = k := by
  unfold liveIds
  rw [mem_append, mem_map, mem_map]

/-- **The requests are accepted** when each is well formed and no identity
stands twice. -/
theorem validateRequests_eq_ok : input.validateRequests = .ok ()
    ↔ (∀ r ∈ input.queued, validateRequest input.observedAt r = .ok ())
      ∧ (∀ a ∈ input.active, validateActive input.observedAt a = .ok ())
      ∧ input.liveIds.Nodup := by
  unfold validateRequests liveIds
  simp only [bind_eq_ok, foldlM_insertDistinct_eq_ok, pure_eq_ok, append_nil]
  rw [nodup_append']
  constructor
  · rintro ⟨seen, ⟨hq, hnd, -, rfl⟩, seen', ⟨hact, hnd', hn, -⟩, -⟩
    refine ⟨hq, hact, hnd, hnd', ?_⟩
    intro k hk hk'
    obtain ⟨a, ha, rfl⟩ := mem_map.mp hk'
    exact hn a ha (mem_reverse.mpr hk)
  · rintro ⟨hq, hact, hnd, hnd', hd⟩
    refine ⟨_, ⟨hq, hnd, fun _ _ => not_mem_nil, rfl⟩, _, ⟨hact, hnd', ?_, rfl⟩, trivial⟩
    intro a ha hk
    exact hd (mem_reverse.mp hk) (mem_map_of_mem ha)

/-- **An accepted queue**, field by field. -/
structure Accepted (input : PersonalWorkerQueueInput) : Prop where
  queued_le : input.queued.length ≤ maxPersonalWorkerQueueEntries
  active_le : input.active.length ≤ maxPersonalWorkerActiveReservations
  activity_le : ∀ last ∈ input.activityEvidence.lastActivityAt, last.val ≤ input.observedAt.val
  never : input.activityEvidence = .never →
    input.queued = [] ∧ input.active = [] ∧ input.pendingProfileChange = none
  profile : input.active ≠ [] → input.profileObservation = .observed .work
  pending : ∀ pending ∈ input.pendingProfileChange,
    input.profileObservation.profile ≠ none ∧ pending.requestedAt.val ≤ input.observedAt.val
  queued : ∀ request ∈ input.queued, validateRequest input.observedAt request = .ok ()
  active : ∀ active ∈ input.active, validateActive input.observedAt active = .ok ()
  distinct : input.liveIds.Nodup
  fits : ∃ usage, aggregateActiveLimits input.active = .ok usage
  leases : validateActiveLeases input.active = .ok ()

theorem validatePendingProfileChange_eq_ok : input.validatePendingProfileChange = .ok ()
    ↔ ∀ pending ∈ input.pendingProfileChange,
      input.profileObservation.profile ≠ none ∧ pending.requestedAt.val ≤ input.observedAt.val := by
  unfold validatePendingProfileChange
  cases input.pendingProfileChange with
  | none => simp
  | some pending =>
    simp

/-- **The check accepts the accepted queues.** -/
theorem validateInput_iff : input.validateInput = .ok () ↔ input.Accepted := by
  unfold validateInput
  rw [guard_bind_eq_ok, guard_bind_eq_ok, guard_bind_eq_ok, guard_bind_eq_ok, guard_bind_eq_ok,
    guard_bind_eq_ok, guard_bind_eq_ok, bind_eq_ok, validatePendingProfileChange_eq_ok,
    validateRequests_eq_ok]
  simp only [refuseIf_eq_ok]
  constructor
  · rintro ⟨hque, hact, hac, hn, hpr, hpn, ⟨hq, ha, hd⟩, usage, hu, hls⟩
    refine ⟨by omega, by omega, ?_, ?_, ?_, hpn, hq, ha, hd, ⟨usage, hu⟩, hls⟩
    · intro last hl
      exact Nat.le_of_not_lt fun hlt => hac ⟨last, hl, hlt⟩
    · intro he
      have hi := not_and.mp hn he
      rw [not_or, not_or, not_not, not_not, Option.not_isSome_iff_eq_none] at hi
      exact hi
    · intro hne
      by_contra ho
      exact hpr ⟨hne, ho⟩
  · intro h
    obtain ⟨usage, hu⟩ := h.fits
    refine ⟨not_lt.mpr h.queued_le, not_lt.mpr h.active_le, ?_, ?_, ?_, h.pending,
      ⟨h.queued, h.active, h.distinct⟩, usage, hu, h.leases⟩
    · rintro ⟨last, hl, hlt⟩
      exact absurd (h.activity_le last hl) (not_le.mpr hlt)
    · rintro ⟨he, hw⟩
      obtain ⟨hq, ha, hp⟩ := h.never he
      simp [hq, ha, hp] at hw
    · rintro ⟨hne, ho⟩
      exact ho (h.profile hne)

theorem nodup_queued (h : input.liveIds.Nodup) :
    (input.queued.map PersonalWorkerJobRequest.id).Nodup :=
  (nodup_append'.mp h).1

theorem nodup_active (h : input.liveIds.Nodup) :
    (input.active.map PersonalWorkerActiveReservation.id).Nodup :=
  (nodup_append'.mp h).2.1

end PersonalWorkerQueueInput

/-! ## A queue of two requests -/

/-- A digest. -/
def sampleDigest : Sha256Digest :=
  ⟨"sha256:5555555555555555555555555555555555555555555555555555555555555555", by decide⟩

/-- An object. -/
def sampleObjectId (field : String) : GitObjectId field :=
  ⟨"0000000000000000000000000000000000000000", by decide⟩

/-- A request. -/
def sampleRequest : PersonalWorkerJobRequest where
  identity := sampleIdentity
  source := ⟨⟨"sample/sample", by decide⟩, sampleObjectId _, sampleObjectId _⟩
  priority := .normal
  requestedLimits := sampleLimits
  cacheNamespace := .sharedDownload ⟨"sample", by decide⟩ sampleDigest
  cacheAccess := .read
  submittedAt := firstMilli
  operatorDeadline := none
  cancellation := .active
  fallbackEligibility := .ineligible

/-- Another request. -/
def otherRequest : PersonalWorkerJobRequest :=
  { sampleRequest with identity := { sampleIdentity with requestId := ⟨"other", by decide⟩ } }

/-- The queue of a store that was never used. -/
def sampleQueue : PersonalWorkerQueueInput where
  generation := .first (by decide)
  observedAt := firstMilli
  profileObservation := .unobserved
  activityEvidence := .never
  queued := []
  active := []
  pendingProfileChange := none

/-- The queue of a worker that is ready and has nothing to do but these. -/
def idleQueue (queued : List PersonalWorkerJobRequest) : PersonalWorkerQueueInput :=
  { sampleQueue with
    profileObservation := .observed .work
    activityEvidence := .observed firstMilli
    queued := queued }

end Glaeda
