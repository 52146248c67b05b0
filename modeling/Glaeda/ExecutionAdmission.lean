import Glaeda.Identity

/-!
# Execution admission

One admission request goes from being requested to being unavailable. Every
observation of it on the way is a record: who asked, for what, what the host
could give, what was reserved and what was applied. A record is checked by
itself when it is made, and a second time against the record before it when
it is planned as a transition.

**Three checks, one law.** What a state may say (`validateStateEvidence`),
which state may follow which (`validateTransitionPair`) and what may change
from one record to the next (the progress checks) are written apart. What
they allow together is said once, by `Keeps`: along every chain of
transitions the identity and the request stay what they were, a reservation
and the limits applied under it are never lost or rewritten, and no recorded
time moves backwards. A cancellation or a drain ends a request only after it
was seen draining, and nothing follows the end.
-/

namespace Glaeda

open Checked

/-! ## Identities and limits -/

/-- Lowercase letters and digits first, then also dots, underscores and
hyphens. -/
def isSafeIdentifier (value : String) : Bool :=
  let cs := value.toList
  let safe := fun c : Char => c.isLower || c.isDigit
  cs.length ≤ maxIdentifierLen && cs.head?.any safe
    && cs.tail.all (fun c => safe c || c == '.' || c == '_' || c == '-')

/-- **An identifier of an admission.** The request, the runner profile and the
reservation are three copies of one type that differ in the field their
errors name. -/
structure AdmissionIdentifier (field : String) where
  value : String
  valid : isSafeIdentifier value = true
deriving DecidableEq, Repr

/-- A request. -/
abbrev ExecutionRequestId := AdmissionIdentifier "identity.request_id"

/-- A profile of the runner. -/
abbrev RunnerProfileId := AdmissionIdentifier "identity.runner_profile_id"

/-- A reservation. -/
abbrev ReservationId := AdmissionIdentifier "reservation.id"

/-- The name of a profile or a cache. -/
def isProfileIdentifier (maximum : Nat) (value : String) : Bool :=
  let cs := value.toList
  !cs.isEmpty && cs.length ≤ maximum
    && cs.all (fun c => c.isAlpha || c.isDigit || c == '.' || c == '_' || c == '-')

/-- **An identifier of a verification profile** or of one of its parts. -/
structure ProfileIdentifier (field : String) (maximum : Nat) where
  value : String
  valid : isProfileIdentifier maximum value = true
deriving DecidableEq, Repr

/-- A profile of the verification. -/
abbrev VerificationProfileId := ProfileIdentifier "profile.id" 64

/-- A cache. -/
abbrev CacheId := ProfileIdentifier "cache.id" 96

/-- How often a reservation was made. -/
abbrev ReservationGeneration := PositiveU64 "reservation.generation"

/-- The most processor time. -/
def maxExecutionCpuMillis : Nat := 1000000

/-- The most memory. -/
def maxExecutionMemoryBytes : Nat := 2 ^ 50

/-- The most processes. -/
def maxExecutionPids : Nat := 1000000

/-- **Limits** on what an execution takes. The program makes every limit of a
request, a record or a host through `new`. -/
structure ExecutionResourceLimits where
  cpuMillis : UInt32
  memoryBytes : UInt64
  pids : UInt32
  cpu_range : 1 ≤ cpuMillis.toNat ∧ cpuMillis.toNat ≤ maxExecutionCpuMillis
  memory_range : 1 ≤ memoryBytes.toNat ∧ memoryBytes.toNat ≤ maxExecutionMemoryBytes
  pid_range : 1 ≤ pids.toNat ∧ pids.toNat ≤ maxExecutionPids
deriving DecidableEq, Repr

namespace ExecutionResourceLimits

/-- No limit is beyond the capacity. -/
def fitsWithin (limits capacity : ExecutionResourceLimits) : Bool :=
  limits.cpuMillis ≤ capacity.cpuMillis && limits.memoryBytes ≤ capacity.memoryBytes
    && limits.pids ≤ capacity.pids

end ExecutionResourceLimits

/-- What the host has, and since when. -/
structure HostCapacityObservation where
  observedAt : EpochMillis
  capacity : ExecutionResourceLimits
deriving DecidableEq, Repr

/-- What is to be run, and on what. -/
structure ExecutionAdmissionIdentity where
  requestId : ExecutionRequestId
  verificationProfileId : VerificationProfileId
  runnerProfileId : RunnerProfileId
deriving DecidableEq, Repr

/-! ## Records -/

/-- **The states of an admission.** -/
inductive ExecutionAdmissionState where
  | requested | admitted | queued | reserved | starting | running | draining | unavailable
deriving DecidableEq, Repr

namespace ExecutionAdmissionState

/-- The request is over. -/
def isTerminal : ExecutionAdmissionState → Bool
  | .unavailable => true
  | _ => false

/-- The request is admitted and not over. -/
def isActive : ExecutionAdmissionState → Bool
  | .admitted | .queued | .reserved | .starting | .running | .draining => true
  | .requested | .unavailable => false

/-- The states with a reservation. -/
def requiresReservation : ExecutionAdmissionState → Bool
  | .reserved | .starting | .running | .draining => true
  | .requested | .admitted | .queued | .unavailable => false

/-- The states before a reservation. -/
def precedesReservation : ExecutionAdmissionState → Bool
  | .requested | .admitted | .queued => true
  | .reserved | .starting | .running | .draining | .unavailable => false

end ExecutionAdmissionState

/-- The place of a request in the queue. -/
inductive QueuePosition where
  | known (position : UInt32)
  | unknown
deriving DecidableEq, Repr

/-- The last place in the queue. -/
def maxQueuePosition : Nat := 1000000

namespace QueuePosition

/-- A place within the queue. -/
def isValid : QueuePosition → Bool
  | .known position => 0 < position.toNat && position.toNat ≤ maxQueuePosition
  | .unknown => true

end QueuePosition

/-- Whether another profile would do. -/
inductive FallbackProfileEligibility where
  | eligible (runnerProfileId : RunnerProfileId)
  | ineligible
deriving DecidableEq, Repr

/-- Why a request is drained. -/
inductive DrainAcknowledgement where
  | cancellation | drain
deriving DecidableEq, Repr

/-- Why a request is not run. -/
inductive UnavailableReason where
  | admissionRejected | capacityUnavailable | hostUnavailable | reservationExpired | cancelled
  | drained
deriving DecidableEq, Repr

/-- **A reservation**: what it is called and for how long it is held. -/
structure ReservationEvidence where
  id : ReservationId
  generation : ReservationGeneration
  reservedAt : EpochMillis
  expiresAt : EpochMillis
deriving DecidableEq, Repr

/-- **One observation of an admission**, before it is checked. -/
structure ExecutionAdmissionInput where
  identity : ExecutionAdmissionIdentity
  state : ExecutionAdmissionState
  observedAt : EpochMillis
  requestedLimits : ExecutionResourceLimits
  hostCapacity : Option HostCapacityObservation
  appliedLimits : Option ExecutionResourceLimits
  queuePosition : Option QueuePosition
  reservation : Option ReservationEvidence
  acknowledgement : Option DrainAcknowledgement
  fallbackEligibility : FallbackProfileEligibility
  unavailableReason : Option UnavailableReason
deriving DecidableEq, Repr

/-- The version of a record. -/
def executionAdmissionSchemaVersion : Nat := 1

/-- How long a reservation lasts. -/
def maxReservationLifetimeMillis : Nat := 86400000

/-- Evidence an earlier check established. Where it is missing the program
stops with the message. -/
def expectEvidence {α : Type} (value : Option α) (message : String) : Except FieldError α :=
  okOr value ⟨"", "panic", message⟩

namespace ExecutionAdmissionInput

variable (input : ExecutionAdmissionInput)

/-- The fallback is another profile. -/
def validateFallback : Except FieldError Unit :=
  match input.fallbackEligibility with
  | .eligible runnerProfileId =>
    refuseIf (runnerProfileId = input.identity.runnerProfileId)
      ⟨"fallback_eligibility.runner_profile_id", "fallback_profile_matches_primary",
        "eligible fallback runner profile must differ from the primary runner profile"⟩
  | .ineligible => .ok ()

/-- What is granted was asked for, and fits the host. -/
def validateApplied (host : HostCapacityObservation) : Except FieldError Unit :=
  match input.appliedLimits with
  | some applied => do
    refuseIf (¬ applied.fitsWithin input.requestedLimits)
      ⟨"applied_limits", "applied_capacity_widening",
        "applied resource limits must fit within requested limits"⟩
    refuseIf (input.state.isActive ∧ ¬ applied.fitsWithin host.capacity)
      ⟨"applied_limits", "applied_capacity_unavailable",
        "active applied limits must fit within observed host capacity"⟩
  | none => .ok ()

/-- The host was observed before, and could give what an active request
takes. -/
def validateHost : Except FieldError Unit :=
  match input.hostCapacity with
  | some host => do
    refuseIf (host.observedAt.val > input.observedAt.val)
      ⟨"host_capacity.observed_at", "future_host_capacity_observation",
        "host-capacity observation cannot be newer than the admission observation"⟩
    refuseIf (input.state.isActive ∧ ¬ input.requestedLimits.fitsWithin host.capacity)
      ⟨"requested_limits", "requested_capacity_unavailable",
        "active execution requests must fit within observed host capacity"⟩
    input.validateApplied host
  | none => .ok ()

/-- A reservation is there when it must be. -/
def validateReservation : Except FieldError Unit :=
  match input.reservation with
  | some reservation => do
    refuseIf (reservation.expiresAt.val < reservation.reservedAt.val)
      ⟨"reservation.expires_at", "invalid_reservation_expiry",
        "reservation expiry must follow reservation start"⟩
    let lifetime := reservation.expiresAt.val - reservation.reservedAt.val
    refuseIf (lifetime = 0 ∨ lifetime > maxReservationLifetimeMillis)
      ⟨"reservation.expires_at", "invalid_reservation_lifetime",
        "reservation lifetime must be positive and within the bounded maximum"⟩
    refuseIf (reservation.reservedAt.val > input.observedAt.val)
      ⟨"reservation.reserved_at", "future_reservation_start",
        "reservation start cannot be newer than the admission observation"⟩
    let expired := decide (reservation.expiresAt.val ≤ input.observedAt.val)
    let terminalExpiry := decide (input.state = .unavailable
      ∧ input.unavailableReason = some .reservationExpired)
    refuseIf (expired ≠ terminalExpiry)
      ⟨"reservation.expires_at", "reservation_expired",
        "expired reservations may appear only in a terminal reservation-expired observation"⟩
  | none => .ok ()

/-- Draining is acknowledged, and nothing before it. -/
def validateAcknowledgement : Except FieldError Unit :=
  match input.state with
  | .draining =>
    refuseIf (input.acknowledgement = none)
      ⟨"acknowledgement", "drain_acknowledgement_missing",
        "draining state requires cancellation or drain acknowledgement"⟩
  | .unavailable => .ok ()
  | .requested | .admitted | .queued | .reserved | .starting | .running =>
    refuseIf (input.acknowledgement.isSome)
      ⟨"acknowledgement", "unexpected_acknowledgement",
        "acknowledgement is valid only for draining or unavailable state"⟩

/-- **The reason of an end is proven by the rest of the record.** -/
def validateReason : UnavailableReason → Except FieldError Unit
  | .capacityUnavailable => do
    refuseIf (input.acknowledgement.isSome)
      ⟨"acknowledgement", "unexpected_acknowledgement",
        "capacity unavailability cannot claim cancellation or drain acknowledgement"⟩
    let host ← expectEvidence input.hostCapacity
      "unavailable state requires host-capacity evidence"
    refuseIf (input.requestedLimits.fitsWithin host.capacity
        ∧ ∀ applied ∈ input.appliedLimits, applied.fitsWithin host.capacity)
      ⟨"host_capacity.capacity", "capacity_unavailability_unproven",
        "capacity-unavailable state requires an observed resource shortfall"⟩
  | .admissionRejected =>
    refuseIf (input.reservation.isSome ∨ input.acknowledgement.isSome)
      ⟨"reservation", "unexpected_reservation_evidence",
        "admission rejection cannot claim reservation or acknowledgement evidence"⟩
  | .reservationExpired =>
    refuseIf (input.reservation = none ∨ input.acknowledgement.isSome)
      ⟨"reservation", "expired_reservation_evidence_missing",
        "reservation-expired state requires exact reservation evidence without acknowledgement"⟩
  | .cancelled =>
    refuseIf (input.reservation = none ∨ input.acknowledgement ≠ some .cancellation)
      ⟨"acknowledgement", "cancellation_acknowledgement_missing",
        "cancelled state requires reservation and cancellation acknowledgement"⟩
  | .drained =>
    refuseIf (input.reservation = none ∨ input.acknowledgement ≠ some .drain)
      ⟨"acknowledgement", "drain_acknowledgement_missing",
        "drained state requires reservation and drain acknowledgement"⟩
  | .hostUnavailable =>
    refuseIf (input.acknowledgement.isSome)
      ⟨"acknowledgement", "unexpected_acknowledgement",
        "host unavailability cannot claim cancellation or drain acknowledgement"⟩

/-- Only what is unavailable has a reason. -/
def validateUnavailableReason : Except FieldError Unit :=
  if input.state ≠ .unavailable then
    refuseIf (input.unavailableReason.isSome)
      ⟨"unavailable_reason", "unexpected_unavailable_reason",
        "unavailable reason is valid only for unavailable state"⟩
  else do
    let reason ← okOr input.unavailableReason
      ⟨"unavailable_reason", "unavailable_reason_missing",
        "unavailable state requires one bounded reason"⟩
    input.validateReason reason

/-- **What each state has to show.** -/
def validateStateEvidence : Except FieldError Unit := do
  refuseIf (decide (input.state ≠ .requested) ≠ input.hostCapacity.isSome)
    ⟨"host_capacity", "invalid_host_capacity_evidence",
      "every non-requested state requires one host-capacity observation"⟩
  input.validateHost
  refuseIf (decide (input.state = .queued) ≠ input.queuePosition.isSome
      ∨ ∃ position ∈ input.queuePosition, ¬ position.isValid)
    ⟨"queue_position", "invalid_queue_evidence",
      "queued state requires one bounded known or explicit unknown queue position"⟩
  refuseIf (input.state.requiresReservation
      ∧ (input.reservation = none ∨ input.appliedLimits = none))
    ⟨"reservation", "reservation_evidence_missing",
      "reserved execution states require reservation and applied-limit evidence"⟩
  refuseIf (input.reservation.isSome ≠ input.appliedLimits.isSome)
    ⟨"reservation", "reservation_limit_evidence_mismatch",
      "reservation and applied-limit evidence must appear together"⟩
  refuseIf (input.state.precedesReservation ∧ input.reservation.isSome)
    ⟨"reservation", "premature_reservation_evidence",
      "pre-reservation states cannot claim reservation evidence"⟩
  input.validateReservation
  input.validateAcknowledgement
  input.validateUnavailableReason

/-- The evidence is that of the state. -/
def validate : Except FieldError Unit := do
  input.validateFallback
  input.validateStateEvidence

end ExecutionAdmissionInput

/-- **A record of an admission**: an observation that was checked. -/
structure ExecutionAdmissionRecord extends ExecutionAdmissionInput where
  valid : toExecutionAdmissionInput.validate = .ok ()
deriving DecidableEq, Repr

/-! ## Transitions -/

/-- The host is not seen earlier. -/
def validateCapacityObservationProgress (previous next : Option HostCapacityObservation) :
    Except FieldError Unit :=
  match previous, next with
  | some previous, some next =>
    refuseIf (next.observedAt.val < previous.observedAt.val)
      ⟨"host_capacity.observed_at", "stale_host_capacity_observation",
        "host-capacity observation time cannot move backwards"⟩
  | _, _ => .ok ()

/-- The steps from a state to another. -/
def isForward : ExecutionAdmissionState → ExecutionAdmissionState → Bool
  | .requested, .admitted | .requested, .unavailable => true
  | .admitted, .queued | .admitted, .reserved | .admitted, .unavailable => true
  | .queued, .reserved | .queued, .unavailable => true
  | .reserved, .starting | .reserved, .draining | .reserved, .unavailable => true
  | .starting, .running | .starting, .draining | .starting, .unavailable => true
  | .running, .draining | .running, .unavailable => true
  | .draining, .unavailable => true
  | _, _ => false

/-- **Which state may follow which**: an unfinished one itself, or one that
comes after it. -/
def validateTransitionPair (previous next : ExecutionAdmissionState) : Except FieldError Unit :=
  refuseIf (¬ (previous = next ∧ ¬ previous.isTerminal) ∧ ¬ isForward previous next)
    ⟨"state", "invalid_admission_transition",
      "state transition is outside the execution-admission contract"⟩

namespace ExecutionAdmissionRecord

variable (prev next : ExecutionAdmissionRecord)

/-- A reservation seen for the first time was made after the host was
observed. -/
def validateFirstReservation (reservation : ReservationEvidence) : Except FieldError Unit := do
  refuseIf (next.state ≠ .reserved)
    ⟨"reservation", "reservation_state_mismatch",
      "first reservation evidence may appear only when entering reserved state"⟩
  let host ← expectEvidence next.hostCapacity "reserved state requires host-capacity evidence"
  refuseIf (reservation.reservedAt.val < host.observedAt.val)
    ⟨"reservation.reserved_at", "reservation_precedes_capacity_observation",
      "reservation start must not precede the capacity observation that admitted it"⟩

/-- The reservation is the same as before. -/
def validateSameReservation (held kept : ReservationEvidence) : Except FieldError Unit := do
  refuseIf (kept.id ≠ held.id)
    ⟨"reservation.id", "reservation_identity_drift",
      "reservation identity must remain exact after reservation"⟩
  refuseIf (kept.generation.val < held.generation.val)
    ⟨"reservation.generation", "stale_reservation_generation",
      "reservation generation is older than the admitted generation"⟩
  refuseIf (kept.generation.val > held.generation.val)
    ⟨"reservation.generation", "reservation_generation_drift",
      "reservation generation cannot change within one admitted execution"⟩
  refuseIf (kept.reservedAt ≠ held.reservedAt)
    ⟨"reservation.reserved_at", "reservation_start_drift",
      "reservation start cannot change within one admitted execution"⟩
  refuseIf (kept.expiresAt ≠ held.expiresAt)
    ⟨"reservation.expires_at", "reservation_expiry_drift",
      "reservation expiry cannot change within one admitted execution"⟩
  refuseIf (next.appliedLimits ≠ prev.appliedLimits)
    ⟨"applied_limits", "applied_capacity_drift",
      "applied resource limits must remain exact after reservation"⟩

/-- **A reservation appears once and stays.** -/
def validateReservationProgress : Except FieldError Unit :=
  match prev.reservation, next.reservation with
  | none, some reservation => next.validateFirstReservation reservation
  | none, none => .ok ()
  | some _, none =>
    .error ⟨"reservation", "reservation_identity_lost",
      "post-reservation states must retain exact reservation evidence"⟩
  | some held, some kept => prev.validateSameReservation next held kept

/-- An acknowledgement stays as it is. -/
def validateAcknowledgementProgress : Except FieldError Unit :=
  refuseIf (prev.state = .draining ∧ next.acknowledgement ≠ prev.acknowledgement)
    ⟨"acknowledgement", "drain_acknowledgement_drift",
      "draining acknowledgement must remain exact through terminal observation"⟩

/-- **A cancelled or drained end was seen draining.** -/
def validateTerminalTransitionReason : Except FieldError Unit :=
  refuseIf (next.state = .unavailable
      ∧ (next.unavailableReason = some .cancelled ∨ next.unavailableReason = some .drained)
      ∧ prev.state ≠ .draining)
    ⟨"state", "draining_state_missing",
      "cancelled or drained terminal state requires an explicit draining observation"⟩

end ExecutionAdmissionRecord

/-- A step from one record to the next. -/
structure ExecutionAdmissionTransition where
  schemaVersion : Nat
  identity : ExecutionAdmissionIdentity
  fromState : ExecutionAdmissionState
  toState : ExecutionAdmissionState
  observedAt : EpochMillis
  resultingRecord : ExecutionAdmissionRecord
deriving DecidableEq, Repr

namespace ExecutionAdmissionRecord

/-- **Plan the step from one record to the next.** -/
def planTransition (previous next : ExecutionAdmissionRecord) :
    Except FieldError ExecutionAdmissionTransition := do
  refuseIf (previous.state.isTerminal)
    ⟨"state", "terminal_state_reversal", "terminal admission state cannot transition"⟩
  refuseIf (next.observedAt.val < previous.observedAt.val)
    ⟨"observed_at", "observation_time_reversal",
      "admission observation time cannot move backwards"⟩
  refuseIf (next.identity ≠ previous.identity)
    ⟨"identity", "admission_identity_drift",
      "request, verification-profile, and runner-profile identity must remain exact"⟩
  refuseIf (next.requestedLimits ≠ previous.requestedLimits)
    ⟨"requested_limits", "requested_capacity_drift",
      "requested resource limits must remain exact for one admission request"⟩
  refuseIf (next.fallbackEligibility ≠ previous.fallbackEligibility)
    ⟨"fallback_eligibility", "fallback_eligibility_drift",
      "fallback-profile eligibility must remain exact for one admission request"⟩
  validateCapacityObservationProgress previous.hostCapacity next.hostCapacity
  validateTransitionPair previous.state next.state
  previous.validateReservationProgress next
  previous.validateAcknowledgementProgress next
  previous.validateTerminalTransitionReason next
  return {
    schemaVersion := executionAdmissionSchemaVersion
    identity := previous.identity
    fromState := previous.state
    toState := next.state
    observedAt := next.observedAt
    resultingRecord := next }

/-! ## What a step keeps -/

/-- **What is kept from a record to a later one.** -/
structure Keeps (first last : ExecutionAdmissionRecord) : Prop where
  identity : last.identity = first.identity
  requestedLimits : last.requestedLimits = first.requestedLimits
  fallbackEligibility : last.fallbackEligibility = first.fallbackEligibility
  reservation : ∀ held, first.reservation = some held → last.reservation = some held
  appliedLimits : ∀ limits, first.appliedLimits = some limits → last.appliedLimits = some limits
  observedAt : first.observedAt.val ≤ last.observedAt.val
  hostObservedAt : ∀ host, first.hostCapacity = some host →
    ∃ later, last.hostCapacity = some later ∧ host.observedAt.val ≤ later.observedAt.val

variable (r : ExecutionAdmissionRecord)

namespace Keeps

theorem refl : Keeps r r where
  identity := rfl
  requestedLimits := rfl
  fallbackEligibility := rfl
  reservation := fun _ h => h
  appliedLimits := fun _ h => h
  observedAt := le_refl _
  hostObservedAt := fun host h => ⟨host, h, le_refl _⟩

theorem trans {r s t : ExecutionAdmissionRecord} (h : Keeps r s) (h' : Keeps s t) : Keeps r t where
  identity := h'.identity.trans h.identity
  requestedLimits := h'.requestedLimits.trans h.requestedLimits
  fallbackEligibility := h'.fallbackEligibility.trans h.fallbackEligibility
  reservation := fun held hh => h'.reservation held (h.reservation held hh)
  appliedLimits := fun limits hlm => h'.appliedLimits limits (h.appliedLimits limits hlm)
  observedAt := h.observedAt.trans h'.observedAt
  hostObservedAt := by
    intro host hhs
    obtain ⟨middle, hm, hle⟩ := h.hostObservedAt host hhs
    obtain ⟨later, hl, hle'⟩ := h'.hostObservedAt middle hm
    exact ⟨later, hl, hle.trans hle'⟩

end Keeps

variable {prev next : ExecutionAdmissionRecord} {t : ExecutionAdmissionTransition}

theorem hostCapacity_isSome_iff : r.hostCapacity.isSome = true ↔ r.state ≠ .requested := by
  have h := r.valid
  unfold ExecutionAdmissionInput.validate ExecutionAdmissionInput.validateStateEvidence at h
  simp only [guard_bind_eq_ok, refuseIf_eq_ok, ne_eq, not_not] at h
  rw [← h.2.1, decide_eq_true_eq]

theorem reservation_isSome_eq : r.reservation.isSome = r.appliedLimits.isSome := by
  have h := r.valid
  unfold ExecutionAdmissionInput.validate ExecutionAdmissionInput.validateStateEvidence at h
  simp only [guard_bind_eq_ok, refuseIf_eq_ok, ne_eq, not_not] at h
  exact h.2.2.2.2.2.1

/-- **A planned step, taken apart.** -/
theorem planTransition_eq_ok (h : prev.planTransition next = .ok t) :
    prev.state ≠ .unavailable ∧ prev.observedAt.val ≤ next.observedAt.val
      ∧ next.identity = prev.identity ∧ next.requestedLimits = prev.requestedLimits
      ∧ next.fallbackEligibility = prev.fallbackEligibility
      ∧ validateCapacityObservationProgress prev.hostCapacity next.hostCapacity = .ok ()
      ∧ validateTransitionPair prev.state next.state = .ok ()
      ∧ prev.validateReservationProgress next = .ok ()
      ∧ prev.validateAcknowledgementProgress next = .ok ()
      ∧ prev.validateTerminalTransitionReason next = .ok ()
      ∧ t.resultingRecord = next := by
  unfold planTransition at h
  simp only [guard_bind_eq_ok, refuseIf_eq_ok, ne_eq, not_not, not_lt, pure_eq_ok,
    Except.ok.injEq] at h
  obtain ⟨ht, htm, hi, hl, hf, hh, hp, hr, ha, hrsn, rfl⟩ := h
  refine ⟨?_, htm, hi, hl, hf, hh, hp, hr, ha, hrsn, rfl⟩
  intro hst
  rw [hst] at ht
  exact ht rfl

theorem ne_requested_of_pair {p n : ExecutionAdmissionState}
    (h : validateTransitionPair p n = .ok ()) (hp : p ≠ .requested) : n ≠ .requested := by
  rintro rfl
  revert h hp
  cases p <;> decide

theorem reservation_of_progress (h : prev.validateReservationProgress next = .ok ())
    {held : ReservationEvidence} (hh : prev.reservation = some held) :
    next.reservation = some held ∧ next.appliedLimits = prev.appliedLimits := by
  unfold validateReservationProgress at h
  rw [hh] at h
  cases hk : next.reservation with
  | none =>
    rw [hk] at h
    cases h
  | some kept =>
    rw [hk] at h
    unfold validateSameReservation at h
    simp only [guard_bind_eq_ok, refuseIf_eq_ok, ne_eq, not_not, not_lt, gt_iff_lt] at h
    obtain ⟨hid, hge, hle, hs, he, ha⟩ := h
    refine ⟨congrArg some ?_, ha⟩
    obtain ⟨id, ⟨generation, hp, hlt⟩, start, expiry⟩ := kept
    obtain ⟨id', ⟨generation', hp', hlt'⟩, start', expiry'⟩ := held
    obtain rfl : id = id' := hid
    obtain rfl : start = start' := hs
    obtain rfl : expiry = expiry' := he
    obtain rfl : generation = generation' := le_antisymm hle hge
    rfl

/-- **A step keeps what has to be kept.** -/
theorem keeps_of_planTransition (h : prev.planTransition next = .ok t) : Keeps prev next := by
  obtain ⟨-, ht, hi, hl, hf, hhs, hpr, hr, -⟩ :=
    planTransition_eq_ok h
  refine ⟨hi, hl, hf, ?_, ?_, ht, ?_⟩
  · intro held hh
    exact (reservation_of_progress hr hh).1
  · intro limits ha
    -- limits are applied under a reservation, so there is one to keep
    have hs : prev.reservation.isSome = true := by
      rw [reservation_isSome_eq, ha]
      rfl
    obtain ⟨held, hh⟩ := Option.isSome_iff_exists.mp hs
    rw [(reservation_of_progress hr hh).2, ha]
  · intro host hp
    have hst : prev.state ≠ .requested :=
      prev.hostCapacity_isSome_iff.mp (by rw [hp]; rfl)
    obtain ⟨later, hn⟩ := Option.isSome_iff_exists.mp
      (next.hostCapacity_isSome_iff.mpr (ne_requested_of_pair hpr hst))
    rw [hp, hn] at hhs
    exact ⟨later, hn, not_lt.mp (refuseIf_eq_ok.mp hhs)⟩

/-! ## Chains of steps -/

/-- One record can follow the other. -/
def Step (previous next : ExecutionAdmissionRecord) : Prop :=
  ∃ t, previous.planTransition next = .ok t

variable {first last : ExecutionAdmissionRecord}

/-- **A chain of steps keeps what each of them keeps.** -/
theorem keeps_of_chain (h : Relation.ReflTransGen Step first last) : Keeps first last := by
  induction h with
  | refl => exact Keeps.refl first
  | tail _ hs ih =>
    obtain ⟨t, ht⟩ := hs
    exact ih.trans (keeps_of_planTransition ht)

theorem planTransition_ne_ok_of_unavailable (h : prev.state = .unavailable) :
    prev.planTransition next ≠ .ok t := by
  intro hs
  exact (planTransition_eq_ok hs).1 h

theorem draining_of_planTransition (h : prev.planTransition next = .ok t)
    (he : next.state = .unavailable)
    (hr : next.unavailableReason = some .cancelled ∨ next.unavailableReason = some .drained) :
    prev.state = .draining := by
  obtain ⟨-, -, -, -, -, -, -, -, -, ht, -⟩ := planTransition_eq_ok h
  by_contra hne
  exact refuseIf_eq_ok.mp ht ⟨he, hr, hne⟩

/-- **The law of an admission.** Along every chain of steps from any record,
the grant is kept; an end accepts no successor; and a record that ends in a
cancellation or a drain is the first of the chain or was reached from a
draining one. -/
theorem grant_kept (h : Relation.ReflTransGen Step first last) :
    Keeps first last ∧ (last.state = .unavailable → ∀ next t, last.planTransition next ≠ .ok t)
      ∧ ∀ next t, last.planTransition next = .ok t → next.state = .unavailable →
          next.unavailableReason = some .cancelled ∨ next.unavailableReason = some .drained →
          last.state = .draining :=
  ⟨keeps_of_chain h, fun he _ _ => planTransition_ne_ok_of_unavailable he,
    fun _ _ hs he hr => draining_of_planTransition hs he hr⟩

end ExecutionAdmissionRecord

/-! ## A cancelled request -/

theorem isSafeIdentifier_sample : isSafeIdentifier "sample" = true := by decide

theorem isProfileIdentifier_sample : isProfileIdentifier 64 "sample" = true := by decide

/-- A time. -/
def firstMilli : EpochMillis := .first _

/-- A later time. -/
def secondMilli : EpochMillis := .second _

/-- An identity. -/
def sampleIdentity : ExecutionAdmissionIdentity where
  requestId := ⟨"sample", isSafeIdentifier_sample⟩
  verificationProfileId := ⟨"sample", isProfileIdentifier_sample⟩
  runnerProfileId := ⟨"sample", isSafeIdentifier_sample⟩

theorem cpu_range_sample :
    1 ≤ (1000 : UInt32).toNat ∧ (1000 : UInt32).toNat ≤ maxExecutionCpuMillis := by
  decide

theorem memory_range_sample :
    1 ≤ (1024 : UInt64).toNat ∧ (1024 : UInt64).toNat ≤ maxExecutionMemoryBytes := by decide

theorem pid_range_sample :
    1 ≤ (10 : UInt32).toNat ∧ (10 : UInt32).toNat ≤ maxExecutionPids := by decide

/-- Limits. -/
def sampleLimits : ExecutionResourceLimits :=
  ⟨1000, 1024, 10, cpu_range_sample, memory_range_sample, pid_range_sample⟩

/-- A record in some state. -/
def sampleObserved (state : ExecutionAdmissionState) (acknowledgement : Option DrainAcknowledgement)
    (unavailableReason : Option UnavailableReason) : ExecutionAdmissionInput where
  identity := sampleIdentity
  state := state
  observedAt := firstMilli
  requestedLimits := sampleLimits
  hostCapacity := some ⟨firstMilli, sampleLimits⟩
  appliedLimits := some sampleLimits
  queuePosition := none
  reservation := some ⟨⟨"sample", isSafeIdentifier_sample⟩, .first _, firstMilli, secondMilli⟩
  acknowledgement := acknowledgement
  fallbackEligibility := .ineligible
  unavailableReason := unavailableReason

theorem validate_sampleDraining :
    (sampleObserved .draining (some .cancellation) none).validate = .ok () := by decide

theorem validate_sampleCancelled :
    (sampleObserved .unavailable (some .cancellation) (some .cancelled)).validate = .ok () := by
  decide

/-- A record that is drained. -/
def sampleDraining : ExecutionAdmissionRecord := ⟨_, validate_sampleDraining⟩

/-- A record that was cancelled. -/
def sampleCancelled : ExecutionAdmissionRecord := ⟨_, validate_sampleCancelled⟩

theorem grant_kept_sampleCancelled :
    ExecutionAdmissionRecord.Step sampleDraining sampleCancelled
      ∧ ExecutionAdmissionRecord.Keeps sampleDraining sampleCancelled
      ∧ ∀ next t, sampleCancelled.planTransition next ≠ .ok t := by
  have hs : ExecutionAdmissionRecord.Step sampleDraining sampleCancelled := ⟨_, rfl⟩
  have h := ExecutionAdmissionRecord.grant_kept (.single hs)
  exact ⟨hs, h.1, h.2.1 rfl⟩

end Glaeda
