import Glaeda.HostBroker
import Glaeda.PersonalTransaction

/-!
# One tick of the personal worker

A tick puts together what the queue decided, what the broker would do, whether
the owner of the machine wants it to work, and what the host has to give, and
plans one step. It can only veto: what the broker does not want does not
happen, and what the broker wants is **blocked** when the machine is not
available, when the host cannot give what a request needs, or when more than
one request would run.

The queue selects up to two requests at a time, and the tick runs one at a
time. `plan_of_evaluate` says what follows for a worker with nothing to do and
nothing wrong with it: one selected request is reserved, and **two selected
requests block each other**, on every tick, as long as both stay selected.
-/

namespace Glaeda

open Checked List

/-! ## Whether the machine is available -/

/-- What the owner asked for. -/
inductive AvailabilityRequest where
  | active | away | off | auto
deriving DecidableEq, Repr

/-- What is in effect. -/
inductive EffectiveAvailabilityMode where
  | active | away | off
deriving DecidableEq, Repr

/-- Whether the machine runs. -/
inductive VmPowerState where
  | running | stopped | unknown
deriving DecidableEq, Repr

/-- Whether a job runs. -/
inductive JobActivity where
  | idle | active | unknown
deriving DecidableEq, Repr

/-- Whether the owner's answer still counts. -/
inductive ObservationFreshness where
  | fresh | stale
deriving DecidableEq, Repr

/-- What the host runs on. -/
inductive HostPowerSource where
  | ac | battery | unknown
deriving DecidableEq, Repr

/-- How short the host is of memory. -/
inductive MemoryPressure where
  | normal | elevated | critical | unknown
deriving DecidableEq, Repr

/-- **What was seen of the host.** -/
structure MacAvailabilityObservation where
  effectiveMode : EffectiveAvailabilityMode
  vmPower : VmPowerState
  jobActivity : JobActivity
  freshness : ObservationFreshness
  hostPower : HostPowerSource
  memoryPressure : MemoryPressure
  operatorHold : Bool
deriving DecidableEq, Repr

/-- The answer to a request. -/
inductive AvailabilityDisposition where
  | noChange | ready | blocked | manualPolicyRequired
deriving DecidableEq, Repr

/-- What stands in the way of a request. -/
inductive AvailabilityBlockerKind where
  | activeJob | autoPolicyUnavailable | batteryPower | criticalMemoryPressure
  | elevatedMemoryPressure | inconsistentEffectiveState | operatorHold | staleObservation
  | unknownJobActivity | unknownMemoryPressure | unknownPowerSource | unknownVmPower
deriving DecidableEq, Repr

/-- The request is in effect. -/
def AvailabilityRequest.matches : AvailabilityRequest → EffectiveAvailabilityMode → Bool
  | .active, .active | .away, .away | .off, .off => true
  | _, _ => false

namespace MacAvailabilityObservation

variable (observation : MacAvailabilityObservation)

/-- The machine is as the mode says. -/
def effectiveStateIsConsistent : Bool :=
  match observation.effectiveMode, observation.vmPower with
  | .active, .running | .away, .running | .off, .stopped => true
  | _, _ => false

/-- What stands in the way of any request. -/
def standingBlockers : List AvailabilityBlockerKind :=
  (if observation.freshness = .stale then [.staleObservation] else [])
    ++ (if observation.operatorHold then [.operatorHold] else [])
    ++ (if observation.vmPower = .unknown then [.unknownVmPower] else [])
    ++ (if observation.effectiveStateIsConsistent then [] else [.inconsistentEffectiveState])
    ++ (if observation.effectiveMode = .off then
          match observation.jobActivity with
          | .idle => []
          | .active => [.inconsistentEffectiveState]
          | .unknown => [.unknownJobActivity]
        else [])

variable (requested : AvailabilityRequest)

/-- What stands in the way of working while the owner is away. -/
def startBlockers : List AvailabilityBlockerKind :=
  if requested = .away then
    (match observation.hostPower with
      | .ac => []
      | .battery => [.batteryPower]
      | .unknown => [.unknownPowerSource])
    ++ (match observation.memoryPressure with
      | .normal => []
      | .elevated => [.elevatedMemoryPressure]
      | .critical => [.criticalMemoryPressure]
      | .unknown => [.unknownMemoryPressure])
  else
    match observation.memoryPressure with
    | .critical => [.criticalMemoryPressure]
    | .unknown => [.unknownMemoryPressure]
    | .normal | .elevated => []

/-- A job stands in the way of a change. -/
def jobBlockers : List AvailabilityBlockerKind :=
  if observation.effectiveMode = .off ∨ requested.matches observation.effectiveMode then []
  else
    match observation.jobActivity with
    | .idle => []
    | .active => [.activeJob]
    | .unknown => [.unknownJobActivity]

/-- **What can be done about a request**, and what stands against it. -/
def planAvailabilityTransition : AvailabilityDisposition × List AvailabilityBlockerKind :=
  let blockers := observation.standingBlockers
  if requested = .auto then
    if blockers.isEmpty then (.manualPolicyRequired, [.autoPolicyUnavailable])
    else (.blocked, blockers)
  else if requested.matches observation.effectiveMode && blockers.isEmpty then (.noChange, [])
  else
    let blockers := blockers
      ++ (if requested ≠ .off then observation.startBlockers requested else [])
      ++ observation.jobBlockers requested
    if blockers.isEmpty then (.ready, []) else (.blocked, blockers)

end MacAvailabilityObservation

/-! ## What a tick reads and answers -/

/-- What a tick can ask to see. -/
inductive PersonalWorkerTickObservationTarget where
  | queue | lima | runner | availability | capacity
deriving DecidableEq, Repr

/-- What a tick can be blocked by. -/
inductive PersonalWorkerTickBlocker where
  | availabilityOff | availabilityAutoUnsupported | availabilityBlocked | capacityInsufficient
  | concurrencyLimit
deriving DecidableEq, Repr

/-- A step of a job. -/
inductive PersonalWorkerTickJobStep where
  | cancelPendingDownscale (target : PersonalWorkerProfile)
  | reserve (selection : PersonalWorkerSelection) (capacity : HostCapacityObservation)
  | execute (requestId : ExecutionRequestId) (capacity : HostCapacityObservation)
deriving DecidableEq, Repr

/-- **The step of a tick.** -/
inductive PersonalWorkerTickAction where
  | satisfied
  | blocked (blocker : PersonalWorkerTickBlocker)
  | observe (target : PersonalWorkerTickObservationTarget)
  | changeProfile (identity : LimaInstanceIdentity) (fromProfile toProfile : LimaResourceProfile)
      (currentGeneration nextGeneration : LimaProfileGeneration)
  | startVm (identity : LimaInstanceIdentity) (profile : LimaResourceProfile)
      (profileGeneration : LimaProfileGeneration) (capacity : HostCapacityObservation)
  | runJob (job : PersonalWorkerTickJobStep)
  | drain (release : ExecutionRequestId)
  | stopVm (identity : LimaInstanceIdentity) (currentProfile : LimaResourceProfile)
      (profileGeneration : LimaProfileGeneration) (targetAfterStop : PersonalWorkerProfile)
deriving DecidableEq, Repr

/-- Everything a tick looks at. -/
structure PersonalWorkerTickInput where
  storeRevision : PersonalWorkerStoreRevision
  decisionAt : EpochMillis
  queue : PersonalWorkerQueueDecision
  lifecyclePolicy : LimaLifecyclePolicy
  lifecycle : Option LimaLifecycleObservation
  runner : Option HostBrokerRunnerObservation
  capacity : Option HostCapacityObservation
  availabilityRequest : AvailabilityRequest
  availability : Option MacAvailabilityObservation

/-- A plan: one action, with what it was decided on. -/
structure PersonalWorkerTickPlan where
  schemaVersion : Nat
  storeRevision : PersonalWorkerStoreRevision
  queueGeneration : PersonalWorkerQueueGeneration
  decisionAt : EpochMillis
  action : PersonalWorkerTickAction
deriving DecidableEq, Repr

/-- How old the evidence of a tick may be. The window of the runner is the
broker's own. -/
structure PersonalWorkerTickPolicy where
  hostBroker : HostBrokerReducerPolicy
  maxCapacityAgeMillis : Nat
  capacity_window : 1 ≤ maxCapacityAgeMillis ∧ maxCapacityAgeMillis ≤ maxObservationAgeMillis
deriving Repr

/-- Which evidence was refused. -/
inductive PersonalWorkerTickErrorKind where
  | policy | hostBrokerEvidence | availabilityEvidence | lifecycleEvidence | runnerEvidence
  | capacityEvidence
deriving DecidableEq, Repr

/-- A refusal, with its field, code and text. -/
structure PersonalWorkerTickError where
  kind : PersonalWorkerTickErrorKind
  field : String
  code : String
  message : String
deriving DecidableEq, Repr

/-- A refusal of the broker. -/
def PersonalWorkerTickError.fromHostBroker (error : FieldError) : PersonalWorkerTickError :=
  ⟨.hostBrokerEvidence, error.field, error.code, error.message⟩

/-- What is known of the capacity. -/
inductive CapacityEvidence where
  | missingOrStale
  | insufficient
  | fresh (capacity : HostCapacityObservation)
deriving DecidableEq, Repr

/-- The version of a plan. -/
def personalWorkerTickSchemaVersion : Nat := 1

namespace PersonalWorkerTickInput

variable (input : PersonalWorkerTickInput)

/-- The plan of an action. -/
def tickPlan (action : PersonalWorkerTickAction) : PersonalWorkerTickPlan where
  schemaVersion := personalWorkerTickSchemaVersion
  storeRevision := input.storeRevision
  queueGeneration := input.queue.generation
  decisionAt := input.decisionAt
  action := action

/-- The observation is too old. -/
def observationIsStale (observedAt : EpochMillis) (maxAgeMillis : Nat)
    (kind : PersonalWorkerTickErrorKind) (field : String) :
    Except PersonalWorkerTickError Bool :=
  if observedAt.val ≤ input.decisionAt.val then
    .ok (decide (input.decisionAt.val - observedAt.val > maxAgeMillis))
  else .error ⟨kind, field, "future_observation",
    "worker tick evidence cannot be newer than the decision time"⟩

/-- More than one request is selected or active. -/
def concurrencyExceeded : Bool :=
  decide (input.queue.selected.length > 1)
    || decide
      (((input.queue.visibility.filter fun entry => entry.state.isActive).take 2).length > 1)

variable (lifecycle : LimaLifecycleObservation) (availability : MacAvailabilityObservation)

/-- The owner's answer agrees with queue and machine. -/
def validateAvailabilityCoherence : Except PersonalWorkerTickError Unit := do
  let expectedJobActivity : JobActivity := if input.queue.hasActiveWork then .active else .idle
  refuseIf (availability.jobActivity ≠ expectedJobActivity)
    ⟨.availabilityEvidence, "availability.job_activity", "availability_queue_activity_mismatch",
      "availability job activity must match exact queue activity evidence"⟩
  let expectedVmPower : VmPowerState ← match lifecycle.state with
    | .stopped => pure .stopped
    | .starting | .running | .draining | .stopping => pure .running
    | .unavailable => .error ⟨.lifecycleEvidence, "lifecycle.state",
        "unavailable_lifecycle_in_availability_gate",
        "unavailable Lima evidence cannot authorize a worker tick"⟩
  refuseIf (availability.vmPower ≠ expectedVmPower)
    ⟨.availabilityEvidence, "availability.vm_power", "availability_lifecycle_power_mismatch",
      "availability VM power must match exact Lima lifecycle evidence"⟩

/-- No work while memory is short. -/
def pressureGate : Option PersonalWorkerTickAction :=
  if input.queue.hasWork then
    match availability.memoryPressure with
    | .unknown => some (.observe .availability)
    | .elevated | .critical => some (.blocked .availabilityBlocked)
    | .normal =>
      if input.availabilityRequest = .away then
        match availability.hostPower with
        | .unknown => some (.observe .availability)
        | .battery => some (.blocked .availabilityBlocked)
        | .ac => none
      else none
  else none

/-- **The veto of the host**: nothing, or what the tick does instead. -/
def availabilityGate : Except PersonalWorkerTickError (Option PersonalWorkerTickAction) :=
  match input.availability with
  | none => .ok (some (.observe .availability))
  | some availability =>
    if availability.freshness = .stale ∨ availability.jobActivity = .unknown
        ∨ availability.vmPower = .unknown then .ok (some (.observe .availability))
    else do
      input.validateAvailabilityCoherence lifecycle availability
      if input.availabilityRequest = .off ∧ input.queue.hasWork then
        pure (some (.blocked .availabilityOff))
      else
        match input.pressureGate availability with
        | some action => pure (some action)
        | none =>
          match (availability.planAvailabilityTransition input.availabilityRequest).1 with
          | .noChange | .ready => pure none
          | .manualPolicyRequired => pure (some (.blocked .availabilityAutoUnsupported))
          | .blocked => pure (some (.blocked .availabilityBlocked))

/-- The answer agrees, where both are known. -/
def validateAvailableCrossSourceEvidence : Except PersonalWorkerTickError Unit :=
  match input.lifecycle, input.availability with
  | some lifecycle, some availability =>
    if availability.freshness = .fresh ∧ availability.jobActivity ≠ .unknown
        ∧ availability.vmPower ≠ .unknown then
      input.validateAvailabilityCoherence lifecycle availability
    else .ok ()
  | _, _ => .ok ()

/-- The one request that waits to be executed. -/
def singleExecutionCandidate :
    Except PersonalWorkerTickError (Option PersonalWorkerQueueVisibility) :=
  match input.queue.visibility.filter fun entry => entry.state == .reserved with
  | [] => .ok none
  | [candidate] => .ok (some candidate)
  | _ :: _ :: _ => .error ⟨.hostBrokerEvidence, "queue.visibility",
      "multiple_execution_candidates",
      "one worker tick cannot select more than one reserved request"⟩

end PersonalWorkerTickInput

namespace PersonalWorkerTickPolicy

variable (policy : PersonalWorkerTickPolicy) (input : PersonalWorkerTickInput)

/-! ## Evidence -/

/-- Nothing that was seen is from the future. -/
def validateSuppliedTime : Except PersonalWorkerTickError Unit := do
  match input.lifecycle with
  | none => pure ()
  | some lifecycle =>
    let _ ← input.observationIsStale lifecycle.observedAt
      input.lifecyclePolicy.maxObservationAgeMillis .lifecycleEvidence "lifecycle.observed_at"
  match input.runner with
  | none => pure ()
  | some runner =>
    let _ ← input.observationIsStale runner.observedAt policy.hostBroker.maxRunnerAgeMillis
      .runnerEvidence "runner.observed_at"
  match input.capacity with
  | none => pure ()
  | some capacity =>
    let _ ← input.observationIsStale capacity.observedAt policy.maxCapacityAgeMillis
      .capacityEvidence "capacity.observed_at"

/-- The capacity, if it was seen lately and is enough. -/
def capacityFor (enough : HostCapacityObservation → Except PersonalWorkerTickError Bool) :
    Except PersonalWorkerTickError CapacityEvidence :=
  match input.capacity with
  | none => .ok .missingOrStale
  | some capacity => do
    let stale ← input.observationIsStale capacity.observedAt policy.maxCapacityAgeMillis
      .capacityEvidence "capacity.observed_at"
    if stale then pure .missingOrStale
    else if ← enough capacity then pure (.fresh capacity)
    else pure .insufficient

/-- Enough for a selection. -/
def validatedCapacity (selection : PersonalWorkerSelection) :
    Except PersonalWorkerTickError CapacityEvidence :=
  policy.capacityFor input fun capacity =>
    pure (selection.reservedLimits.fitsWithin capacity.capacity)

/-- Enough for a size of the machine. -/
def validatedProfileCapacity (profile : LimaResourceProfile) :
    Except PersonalWorkerTickError CapacityEvidence :=
  policy.capacityFor input fun capacity =>
    pure (decide (profile.envelope.vcpus * 1000 ≤ capacity.capacity.cpuMillis.toNat)
      && decide (profile.envelope.memoryBytes ≤ capacity.capacity.memoryBytes.toNat))

/-- Enough for a reserved request. -/
def validatedExecutionCapacity (entry : PersonalWorkerQueueVisibility) :
    Except PersonalWorkerTickError CapacityEvidence :=
  policy.capacityFor input fun capacity =>
    match entry.reservedCpuMillis, entry.reservedMemoryBytes with
    | some cpuMillis, some memoryBytes =>
      pure (decide (cpuMillis ≤ capacity.capacity.cpuMillis)
        && decide (memoryBytes ≤ capacity.capacity.memoryBytes))
    | _, _ => .error ⟨.hostBrokerEvidence, "queue.visibility.reserved_resources",
        "missing_reserved_resources",
        "reserved or starting work requires exact reserved resource evidence"⟩

variable (identity : LimaInstanceIdentity)

/-- The runner, if it allows a stop. -/
def validatedRunnerForStop (profileGeneration : LimaProfileGeneration) :
    Except PersonalWorkerTickError (Option HostBrokerRunnerObservation) :=
  match input.runner with
  | none => .ok none
  | some runner => do
    let stale ← input.observationIsStale runner.observedAt policy.hostBroker.maxRunnerAgeMillis
      .runnerEvidence "runner.observed_at"
    if stale then pure none
    else do
      refuseIf (runner.instanceId ≠ identity.instanceId)
        ⟨.runnerEvidence, "runner.instance_id", "runner_instance_identity_mismatch",
          "runner readiness must bind the exact Lima instance identity"⟩
      refuseIf (runner.profileGeneration ≠ profileGeneration)
        ⟨.runnerEvidence, "runner.profile_generation", "runner_profile_generation_mismatch",
          "runner readiness must bind the exact Lima profile generation"⟩
      pure (some runner)

/-! ## Steps -/

/-- A step that needs capacity. -/
def withCapacity (step : HostCapacityObservation → PersonalWorkerTickAction) :
    CapacityEvidence → PersonalWorkerTickAction
  | .missingOrStale => .observe .capacity
  | .insufficient => .blocked .capacityInsufficient
  | .fresh capacity => step capacity

/-- Stop the machine, once its runner allows it. -/
def planStop (currentProfile : LimaResourceProfile)
    (profileGeneration : LimaProfileGeneration) (targetAfterStop : PersonalWorkerProfile) :
    Except PersonalWorkerTickError PersonalWorkerTickAction := do
  match ← policy.validatedRunnerForStop input identity profileGeneration with
  | none => pure (.observe .runner)
  | some runner =>
    match runner.state with
    | .offline | .idleReady =>
      pure (.stopVm identity currentProfile profileGeneration targetAfterStop)
    | .starting => pure (.observe .runner)
    | .busy _ | .draining _ => .error ⟨.runnerEvidence, "runner.state",
        "runner_active_without_queue_work",
        "runner activity cannot authorize stop without matching active queue evidence"⟩

/-- What is left to do when the broker does nothing. -/
def noOpAction (lifecycle : LimaLifecycleObservation) :
    Except PersonalWorkerTickError PersonalWorkerTickAction :=
  let busy := match input.runner with
    | some runner => match runner.state with
      | .busy _ | .draining _ => true
      | _ => false
    | none => false
  if lifecycle.state = .stopping then pure (.observe .lima)
  else if busy then pure (.observe .runner)
  else if input.queue.visibility.any fun entry =>
      entry.state == .starting || entry.state == .running then pure (.observe .runner)
  else do
    match ← input.singleExecutionCandidate with
    | none => pure .satisfied
    | some entry =>
      let evidence ← policy.validatedExecutionCapacity input entry
      pure (withCapacity (fun capacity => .runJob (.execute entry.requestId capacity)) evidence)

/-- Reserve what was selected. -/
def reserveAction (selection : PersonalWorkerSelection) :
    Except PersonalWorkerTickError PersonalWorkerTickAction :=
  if input.queue.hasActiveWork ∨ input.queue.selected.length ≠ 1 then
    pure (.blocked .concurrencyLimit)
  else do
    let evidence ← policy.validatedCapacity input selection
    pure (withCapacity (fun capacity => .runJob (.reserve selection capacity)) evidence)

/-- The action of the tick for one of the broker. -/
def brokerAction (lifecycle : LimaLifecycleObservation) :
    HostBrokerAction → Except PersonalWorkerTickError PersonalWorkerTickAction
  | .start identity profile profileGeneration => do
    let evidence ← policy.validatedProfileCapacity input profile
    pure (withCapacity (fun capacity => .startVm identity profile profileGeneration capacity)
      evidence)
  | .stop identity currentProfile profileGeneration targetAfterStop =>
    policy.planStop input identity currentProfile profileGeneration targetAfterStop
  | .changeProfile identity fromProfile toProfile currentGeneration nextGeneration =>
    pure (.changeProfile identity fromProfile toProfile currentGeneration nextGeneration)
  | .waitForRunner _ _ _ => pure (.observe .runner)
  | .reserve selection => policy.reserveAction input selection
  -- the three that were answered before the vetoes
  | .observe _ | .release _ | .cancelDownscale _ => pure .satisfied
  | .noOp => policy.noOpAction input lifecycle

/-- What the broker sees of a tick. -/
def brokerInput (stateRevision : HostBrokerStateRevision) : HostBrokerReducerInput where
  stateRevision := stateRevision
  decisionAt := input.decisionAt
  queue := input.queue
  lifecyclePolicy := input.lifecyclePolicy
  lifecycle := input.lifecycle
  runner := input.runner
  previous := none

/-- What the broker asks to see. -/
def mapObservationTarget : HostBrokerObservationTarget → PersonalWorkerTickObservationTarget
  | .queue => .queue
  | .lima => .lima
  | .runner => .runner

/-- The action, once the evidence agrees. -/
def vettedAction (action : HostBrokerAction) :
    Except PersonalWorkerTickError PersonalWorkerTickAction := do
  let lifecycle ← okOr input.lifecycle
    ⟨.lifecycleEvidence, "lifecycle", "missing_lifecycle_after_broker_plan",
      "a consequential broker plan requires exact Lima lifecycle evidence"⟩
  match ← input.availabilityGate lifecycle with
  | some veto => pure veto
  | none => policy.brokerAction input lifecycle action

/-- **The step of a tick.** -/
def action (host : HostBrokerAction) : Except PersonalWorkerTickError PersonalWorkerTickAction :=
  match host with
  | .observe target => do
    if target = .runner then input.validateAvailableCrossSourceEvidence
    pure (.observe (mapObservationTarget target))
  | .cancelDownscale target => pure (.runJob (.cancelPendingDownscale target))
  | .release requestId => pure (.drain requestId)
  | other =>
    if input.concurrencyExceeded then pure (.blocked .concurrencyLimit)
    else policy.vettedAction input other

/-- **Plan a tick.** -/
def plan : Except PersonalWorkerTickError PersonalWorkerTickPlan := do
  policy.validateSuppliedTime input
  let stateRevision ← (HostBrokerStateRevision.new input.storeRevision.val).mapError
    PersonalWorkerTickError.fromHostBroker
  let host ← (policy.hostBroker.reduce (brokerInput input stateRevision)).mapError
    PersonalWorkerTickError.fromHostBroker
  let step ← policy.action input host.action
  pure (input.tickPlan step)

/-! ## A healthy worker -/

/-- **The evidence is healthy**: the machine is ready, the host is available
with normal pressure, and it can give what each selected request needs. -/
structure Healthy (policy : PersonalWorkerTickPolicy) (input : PersonalWorkerTickInput)
    (lifecycle : LimaLifecycleObservation) (runner : HostBrokerRunnerObservation)
    (availability : MacAvailabilityObservation) (capacity : HostCapacityObservation) : Prop where
  ready : ∀ stateRevision,
    (brokerInput input stateRevision).Ready policy.hostBroker lifecycle runner
  requested : input.availabilityRequest = .active
  availabilitySeen : input.availability = some availability
  availabilityFresh : availability.freshness = .fresh
  mode : availability.effectiveMode ≠ .off
  power : availability.vmPower = .running
  noJob : availability.jobActivity = .idle
  pressure : availability.memoryPressure = .normal
  noHold : availability.operatorHold = false
  capacitySeen : input.capacity = some capacity
  capacityFresh : FreshWithin policy.maxCapacityAgeMillis capacity.observedAt input.decisionAt
  capacityEnough : ∀ selection ∈ input.queue.selected,
    selection.reservedLimits.fitsWithin capacity.capacity = true

variable {policy : PersonalWorkerTickPolicy} {input : PersonalWorkerTickInput}
  {lifecycle : LimaLifecycleObservation} {runner : HostBrokerRunnerObservation}
  {availability : MacAvailabilityObservation} {capacity : HostCapacityObservation}
  {sel : PersonalWorkerSelection} {rest : List PersonalWorkerSelection}

theorem observationIsStale_of_fresh {observedAt : EpochMillis} {maxAgeMillis : Nat}
    {kind : PersonalWorkerTickErrorKind} {field : String}
    (h : FreshWithin maxAgeMillis observedAt input.decisionAt) :
    input.observationIsStale observedAt maxAgeMillis kind field = .ok false := by
  rw [PersonalWorkerTickInput.observationIsStale, if_pos h.1, decide_eq_false (not_lt.mpr h.2)]

namespace Healthy

section

variable (h : Healthy policy input lifecycle runner availability capacity)
include h

theorem validateSuppliedTime (stateRevision : HostBrokerStateRevision) :
    policy.validateSuppliedTime input = .ok () := by
  have hrdy := h.ready stateRevision
  have hl : input.lifecycle = some lifecycle := hrdy.lifecycleSeen
  have hrnr : input.runner = some runner := hrdy.runnerSeen
  have hlif : FreshWithin input.lifecyclePolicy.maxObservationAgeMillis
      lifecycle.observedAt input.decisionAt := hrdy.lifecycleFresh
  have hr : FreshWithin policy.hostBroker.maxRunnerAgeMillis runner.observedAt
      input.decisionAt := hrdy.runnerFresh
  simp only [PersonalWorkerTickPolicy.validateSuppliedTime, hl, hrnr, h.capacitySeen,
    observationIsStale_of_fresh hlif, observationIsStale_of_fresh hr,
    observationIsStale_of_fresh h.capacityFresh, ok_bind, pure_eq_ok]

/-- **A healthy host has no veto.** -/
theorem availabilityGate (stateRevision : HostBrokerStateRevision)
    (hi : input.queue.hasActiveWork = false) : input.availabilityGate lifecycle = .ok none := by
  have hst := (h.ready stateRevision).lifecycleState
  have hc : input.validateAvailabilityCoherence lifecycle availability = .ok () := by
    simp [PersonalWorkerTickInput.validateAvailabilityCoherence, hi, hst, h.noJob, h.power,
      refuseIf]
  have hpr : input.pressureGate availability = none := by
    simp [PersonalWorkerTickInput.pressureGate, h.pressure, h.requested]
  unfold PersonalWorkerTickInput.availabilityGate
  rw [h.availabilitySeen]
  dsimp only
  rw [if_neg (by simp [h.availabilityFresh, h.noJob, h.power]), hc, ok_bind,
    if_neg (by simp [h.requested]), hpr, h.requested]
  -- with a running machine and nothing against it, the host stays available
  have hf := h.availabilityFresh
  have hm := h.mode
  have hp := h.power
  have hj := h.noJob
  have hn := h.pressure
  have hh := h.noHold
  obtain ⟨mode, power, job, freshness, hostPower, pressure, ho⟩ := availability
  subst hf hp hj hn hh
  cases mode with
  | active | away => rfl
  | off => exact absurd rfl hm

theorem reserveAction (hi : input.queue.hasActiveWork = false)
    (hs : input.queue.selected = [sel]) :
    policy.reserveAction input sel = .ok (.runJob (.reserve sel capacity)) := by
  have he := h.capacityEnough sel (by rw [hs]; exact mem_singleton_self _)
  unfold PersonalWorkerTickPolicy.reserveAction validatedCapacity capacityFor
  rw [if_neg (by simp [hi, hs]), h.capacitySeen]
  dsimp only
  rw [observationIsStale_of_fresh h.capacityFresh, ok_bind, if_neg Bool.false_ne_true, he]
  rfl

end

end Healthy

/-- **A healthy worker with nothing to do plans from the selection.** One
selected request is reserved. Two of them exceed what a tick runs at a time,
and the tick is blocked; there are never more. -/
theorem plan_of_evaluate {queue : PersonalWorkerQueueInput}
    {previous : Option PersonalWorkerQueueDecision}
    (he : queue.evaluate previous = .ok input.queue) (hact : queue.active = [])
    (hp : queue.pendingProfileChange.all fun pending => pending.target == .work)
    (hsel : input.queue.selected = sel :: rest)
    (healthy : Healthy policy input lifecycle runner availability capacity) :
    policy.plan input = .ok (input.tickPlan
        (if rest = [] then .runJob (.reserve sel capacity) else .blocked .concurrencyLimit))
      ∧ rest.length ≤ 1 := by
  have hdec := PersonalWorkerQueueInput.decides_of_evaluate he hact
  have hi := PersonalWorkerQueueDecision.hasActiveWork_of_idle hdec.idle
  have hw := hdec.work (by rw [hsel]; exact cons_ne_nil _ _)
  -- the store and the broker count to the same bound
  obtain ⟨stateRevision, hrev⟩ : ∃ stateRevision : HostBrokerStateRevision,
      HostBrokerStateRevision.new input.storeRevision.val = .ok stateRevision :=
    ⟨⟨input.storeRevision.val, input.storeRevision.one_le, input.storeRevision.le_max⟩,
      BoundedRevision.new_eq_ok.mpr rfl⟩
  have hh := HostBrokerReducerInput.reduce_of_ready (healthy.ready stateRevision) rfl
    hdec.schema hdec.idle (hdec.downscale hp) hw hsel
  have hfil : input.queue.visibility.filter (fun entry => entry.state.isActive) = [] :=
    filter_eq_nil_iff.mpr fun entry hent => by simp [hdec.idle entry hent]
  have hs := hdec.slots
  rw [hsel, length_cons] at hs
  refine ⟨?_, by omega⟩
  unfold plan
  rw [healthy.validateSuppliedTime stateRevision, ok_bind, mapError_eq_ok.mpr hrev,
    ok_bind, mapError_eq_ok.mpr hh, ok_bind]
  show (policy.action input (.reserve sel) >>= _) = _
  unfold action
  dsimp only
  cases rest with
  | nil =>
    -- one request: no veto is left
    have hone : input.concurrencyExceeded = false := by
      simp [PersonalWorkerTickInput.concurrencyExceeded, hfil, hsel]
    have hl : input.lifecycle = some lifecycle :=
      (healthy.ready stateRevision).lifecycleSeen
    rw [if_neg (by rw [hone]; exact Bool.false_ne_true), if_pos rfl, vettedAction, hl,
      okOr, ok_bind, healthy.availabilityGate stateRevision hi, ok_bind]
    show (policy.reserveAction input sel >>= _) = _
    rw [healthy.reserveAction hi hsel]
    rfl
  | cons other rest =>
    have htwo : input.concurrencyExceeded = true := by
      simp [PersonalWorkerTickInput.concurrencyExceeded, hsel]
    rw [if_pos htwo, if_neg (cons_ne_nil _ _)]
    rfl

/-! ## One request, and two -/

theorem sampleWindow : 1 ≤ 1000 ∧ 1000 ≤ maxObservationAgeMillis := by decide

theorem deadline_lt_u64Size : 600001 < u64Size := by decide

/-- A machine. -/
def sampleInstance : LimaInstanceIdentity where
  instanceId := ⟨"sample", isSafeIdentifier_sample⟩
  cacheDisk := ⟨⟨"sample", isSafeIdentifier_sample⟩, sampleDigest⟩

/-- It runs at the large size. -/
def runningDefinition : LimaLifecycleObservationDefinition where
  identity := sampleInstance
  state := .running
  profile := .work
  profileGeneration := .first _
  observedResources := LimaResourceProfile.envelope .work
  observedAt := firstMilli
  activeReservationId := none
  lastActivityAt := firstMilli
  idleDeadline := ⟨600001, Nat.succ_pos _, deadline_lt_u64Size⟩
  gracefulStopAcknowledgement := none

theorem validate_runningDefinition : runningDefinition.validateObservationShape = .ok () := by
  decide

/-- It was seen so. -/
def runningMachine : LimaLifecycleObservation := ⟨runningDefinition, validate_runningDefinition⟩

/-- Its runner is ready. -/
def idleRunner : HostBrokerRunnerObservation :=
  ⟨sampleInstance.instanceId, .first _, firstMilli, .idleReady⟩

/-- The owner lets it work. -/
def availableHost : MacAvailabilityObservation :=
  ⟨.active, .running, .idle, .fresh, .ac, .normal, false⟩

/-- Nothing older than a second counts. -/
def samplePolicy : PersonalWorkerTickPolicy :=
  ⟨⟨1000, 1000, sampleWindow, sampleWindow⟩, 1000, sampleWindow⟩

/-- A tick at which all is well. -/
def healthyTick (decision : PersonalWorkerQueueDecision) : PersonalWorkerTickInput where
  storeRevision := .first
  decisionAt := firstMilli
  queue := decision
  lifecyclePolicy := ⟨1000, sampleWindow⟩
  lifecycle := some runningMachine
  runner := some idleRunner
  capacity := some ⟨firstMilli, sampleLimits⟩
  availabilityRequest := .active
  availability := some availableHost

theorem healthy_healthyTick {queued : List PersonalWorkerJobRequest}
    {dec : PersonalWorkerQueueDecision} (h : (idleQueue queued).evaluate none = .ok dec)
    (hl : ∀ limits ∈ dec.selected.map (·.reservedLimits), limits = sampleLimits) :
    samplePolicy.Healthy (healthyTick dec) runningMachine idleRunner availableHost
      ⟨firstMilli, sampleLimits⟩ := by
  have hd := PersonalWorkerQueueInput.decides_of_evaluate h rfl
  have hf : FreshWithin 1000 firstMilli firstMilli := by decide
  have hq : FreshWithin 1000 dec.observedAt firstMilli := by
    rw [hd.time]
    exact hf
  have hp : dec.profileObservation.profile = some .work := by
    rw [hd.profile]
    rfl
  refine ⟨fun _ => ⟨hq, hp, rfl, hf, rfl, rfl, rfl, rfl, hf, rfl, rfl, rfl⟩,
    rfl, rfl, rfl, by decide, rfl, rfl, rfl, rfl, rfl, hf, ?_⟩
  intro sel hs
  rw [hl _ (mem_map_of_mem hs)]
  decide

theorem plan_of_evaluate_oneRequest : ∃ dec sel,
    (idleQueue [sampleRequest]).evaluate none = .ok dec ∧ dec.selected = [sel]
      ∧ samplePolicy.plan (healthyTick dec) = .ok ((healthyTick dec).tickPlan
        (.runJob (.reserve sel ⟨firstMilli, sampleLimits⟩))) := by
  have hr : (fun dec => dec.selected.map (·.reservedLimits)) <$>
      (idleQueue [sampleRequest]).evaluate none = .ok [sampleLimits] := by decide +kernel
  obtain ⟨dec, he, hl⟩ := map_eq_ok.mp hr
  obtain ⟨sel, hs, -⟩ := map_eq_singleton_iff.mp hl
  have healthy := healthy_healthyTick he (by rw [hl]; simp)
  have hp := (plan_of_evaluate he rfl rfl hs healthy).1
  exact ⟨dec, sel, he, hs, hp⟩

/-- **Two requests that could share the worker stall it.** Both are selected,
nothing is wrong, and the tick is blocked. -/
theorem blocked_twoRequests : ∃ dec,
    (idleQueue [sampleRequest, otherRequest]).evaluate none = .ok dec
      ∧ (idleQueue [sampleRequest, otherRequest]).active = []
      ∧ (idleQueue [sampleRequest, otherRequest]).pendingProfileChange = none
      ∧ dec.selected.length = 2
      ∧ samplePolicy.Healthy (healthyTick dec) runningMachine idleRunner availableHost
        ⟨firstMilli, sampleLimits⟩
      ∧ (·.action) <$> samplePolicy.plan (healthyTick dec)
        = .ok (.blocked .concurrencyLimit) := by
  have hrun : (fun dec => (dec.selected.map (·.reservedLimits),
        (·.action) <$> samplePolicy.plan (healthyTick dec))) <$>
      (idleQueue [sampleRequest, otherRequest]).evaluate none
        = .ok ([sampleLimits, sampleLimits], .ok (.blocked .concurrencyLimit)) := by
    decide +kernel
  obtain ⟨dec, he, hr⟩ := map_eq_ok.mp hrun
  obtain ⟨hl, hp⟩ := Prod.mk.inj hr
  have healthy := healthy_healthyTick he (by rw [hl]; simp)
  refine ⟨dec, he, rfl, rfl, ?_, healthy, hp⟩
  rw [← length_map (fun sel => sel.reservedLimits), hl]
  rfl

end PersonalWorkerTickPolicy

end Glaeda
