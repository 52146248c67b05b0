import Glaeda.PersonalEvaluation

/-!
# The host broker

The broker looks at the decision of the queue, at the virtual machine and at
the runner inside it, and names one next step: observe something again, start
or stop the machine, change its profile, wait for the runner, reserve the
first selected request, or release one that was drained. Evidence that is too
old is observed again, and evidence that contradicts itself is refused.
-/

namespace Glaeda

open Checked PersonalWorkerQueueDecision

/-! ## The virtual machine -/

/-- The two sizes of the machine. -/
inductive LimaResourceProfile where
  | interactive | work
deriving DecidableEq, Repr

/-- Processors and memory. -/
structure LimaResourceEnvelope where
  vcpus : Nat
  memoryBytes : Nat
deriving DecidableEq, Repr

/-- What a size comes with. -/
def LimaResourceProfile.envelope : LimaResourceProfile → LimaResourceEnvelope
  | .interactive => ⟨4, 3 * 2 ^ 30⟩
  | .work => ⟨8, 10 * 2 ^ 30⟩

/-- How long an idle machine keeps the large size. -/
def interactiveAfterIdleMillis : Nat := 10 * 60 * 1000

/-- How long an idle machine keeps running. -/
def stopAfterIdleMillis : Nat := 30 * 60 * 1000

/-- How long a size is kept idle. -/
def LimaResourceProfile.idleDeadlineOffsetMillis : LimaResourceProfile → Nat
  | .work => interactiveAfterIdleMillis
  | .interactive => stopAfterIdleMillis

/-- The name of a machine. -/
abbrev LimaInstanceId := AdmissionIdentifier "identity.instance_id"

/-- The name of its cache disk. -/
abbrev LimaCacheDiskId := AdmissionIdentifier "identity.cache_disk.disk_id"

/-- How often its size was set. -/
abbrev LimaProfileGeneration := PositiveU64 "profile_generation"

/-- A disk, with its digest. -/
structure LimaCacheDiskIdentity where
  diskId : LimaCacheDiskId
  identityDigest : Sha256Digest
deriving DecidableEq, Repr

/-- A machine, with its disk. -/
structure LimaInstanceIdentity where
  instanceId : LimaInstanceId
  cacheDisk : LimaCacheDiskIdentity
deriving DecidableEq, Repr

/-- What a machine is doing. -/
inductive LimaLifecycleState where
  | stopped | starting | running | draining | stopping | unavailable
deriving DecidableEq, Repr

/-- What a machine should become. -/
inductive LimaLifecycleTarget where
  | work | interactive | stopped
deriving DecidableEq, Repr

/-- Whether a runner was drained. -/
inductive LimaDrainAcknowledgement where
  | notRequired | completed
deriving DecidableEq, Repr

/-- The word that a machine stopped in order. -/
structure GracefulStopAcknowledgement where
  acknowledgedAt : EpochMillis
  profileGeneration : LimaProfileGeneration
  cacheDisk : LimaCacheDiskIdentity
  drain : LimaDrainAcknowledgement
deriving DecidableEq, Repr

/-- What was seen of a machine. -/
structure LimaLifecycleObservationDefinition where
  identity : LimaInstanceIdentity
  state : LimaLifecycleState
  profile : LimaResourceProfile
  profileGeneration : LimaProfileGeneration
  observedResources : LimaResourceEnvelope
  observedAt : EpochMillis
  activeReservationId : Option ReservationId
  lastActivityAt : EpochMillis
  idleDeadline : EpochMillis
  gracefulStopAcknowledgement : Option GracefulStopAcknowledgement
deriving DecidableEq, Repr

namespace LimaLifecycleObservationDefinition

variable (definition : LimaLifecycleObservationDefinition)

/-- The acknowledgement is about this machine, and not newer. -/
def validateAcknowledgement (acknowledgement : GracefulStopAcknowledgement) :
    Except FieldError Unit := do
  refuseIf (acknowledgement.profileGeneration ≠ definition.profileGeneration)
    ⟨"graceful_stop_acknowledgement.profile_generation", "acknowledgement_generation_drift",
      "graceful-stop acknowledgement must bind the exact profile generation"⟩
  refuseIf (acknowledgement.cacheDisk ≠ definition.identity.cacheDisk)
    ⟨"graceful_stop_acknowledgement.cache_disk", "acknowledgement_cache_drift",
      "graceful-stop acknowledgement must bind the exact cache-disk identity"⟩
  refuseIf (acknowledgement.acknowledgedAt.val > definition.observedAt.val
      ∨ acknowledgement.acknowledgedAt.val < definition.lastActivityAt.val)
    ⟨"graceful_stop_acknowledgement.acknowledged_at", "invalid_acknowledgement_time",
      "graceful-stop acknowledgement must follow last activity and not exceed observation time"⟩

/-- **What is said belongs together.** -/
def validateObservationShape : Except FieldError Unit := do
  refuseIf (definition.observedResources ≠ definition.profile.envelope)
    ⟨"observed_resources", "profile_resource_mismatch",
      "observed CPU and memory must exactly match the reviewed Lima profile"⟩
  refuseIf (definition.lastActivityAt.val > definition.observedAt.val)
    ⟨"last_activity_at", "future_last_activity",
      "last activity cannot be newer than the lifecycle observation"⟩
  let expectedIdleDeadline ← okOr (checkedAdd u64Size definition.lastActivityAt.val
      definition.profile.idleDeadlineOffsetMillis)
    ⟨"idle_deadline", "invalid_idle_deadline",
      "reviewed idle deadline exceeds the supported time range"⟩
  refuseIf (definition.idleDeadline.val ≠ expectedIdleDeadline)
    ⟨"idle_deadline", "idle_deadline_policy_mismatch",
      "work requires a ten-minute idle deadline and interactive requires thirty total idle minutes"⟩
  refuseIf (definition.activeReservationId.isSome
      ∧ definition.state ∉ [LimaLifecycleState.running, .draining, .unavailable])
    ⟨"active_reservation_id", "reservation_in_invalid_state",
      "active reservation identity is valid only while running, draining, or unavailable"⟩
  refuseIf (definition.activeReservationId.isSome ∧ definition.profile ≠ .work)
    ⟨"profile", "active_reservation_requires_work",
      "active jobs and reservations require the exact work profile"⟩
  refuseIf (definition.gracefulStopAcknowledgement.isSome
      ∧ definition.state ∉ [LimaLifecycleState.stopping, .stopped])
    ⟨"graceful_stop_acknowledgement", "acknowledgement_in_invalid_state",
      "graceful-stop acknowledgement is valid only while stopping or stopped"⟩
  match definition.gracefulStopAcknowledgement with
  | none => .ok ()
  | some acknowledgement => definition.validateAcknowledgement acknowledgement

end LimaLifecycleObservationDefinition

/-- **An observation of the machine** that belongs together. -/
structure LimaLifecycleObservation extends LimaLifecycleObservationDefinition where
  valid : toLimaLifecycleObservationDefinition.validateObservationShape = .ok ()
deriving DecidableEq

/-- The longest an observation may count. -/
def maxObservationAgeMillis : Nat := 300000

/-- How old an observation of a machine may be. -/
structure LimaLifecyclePolicy where
  maxObservationAgeMillis : Nat
  window : 1 ≤ maxObservationAgeMillis ∧ maxObservationAgeMillis ≤ Glaeda.maxObservationAgeMillis
deriving DecidableEq, Repr

/-- How old an observation is, unless it is from the future. -/
def observationAge (error : FieldError) (observedAt decisionAt : EpochMillis) :
    Except FieldError Nat :=
  if observedAt.val ≤ decisionAt.val then .ok (decisionAt.val - observedAt.val) else .error error

/-- **What the machine should come to**: work while there is some, and after
it ten minutes of work and twenty of interactive. -/
def LimaLifecyclePolicy.desiredTarget (policy : LimaLifecyclePolicy)
    (observation : LimaLifecycleObservation) (decisionAt : EpochMillis) :
    Except FieldError LimaLifecycleTarget := do
  let age ← observationAge ⟨"observation.observed_at", "future_observation",
    "lifecycle observation cannot be newer than the decision time"⟩
    observation.observedAt decisionAt
  refuseIf (age > policy.maxObservationAgeMillis)
    ⟨"observation.observed_at", "stale_observation",
      "lifecycle observation is older than the reviewed freshness window"⟩
  if observation.activeReservationId.isSome then pure .work
  else
    let idleMillis ← observationAge ⟨"last_activity_at", "future_last_activity",
      "last activity cannot be newer than the lifecycle decision"⟩ observation.lastActivityAt
      decisionAt
    if idleMillis ≥ stopAfterIdleMillis then pure .stopped
    else if idleMillis ≥ interactiveAfterIdleMillis then pure .interactive
    else pure .work

/-! ## What the broker reads and answers -/

/-- The bound of the broker's revision. -/
def maxHostBrokerStateRevision : Nat := 1000000000000

/-- The revision of the broker's state. -/
abbrev HostBrokerStateRevision := BoundedRevision maxHostBrokerStateRevision

/-- A revision within the bound. -/
def HostBrokerStateRevision.new : Nat → Except FieldError HostBrokerStateRevision :=
  BoundedRevision.new maxHostBrokerStateRevision ⟨"state_revision", "invalid_state_revision",
    "broker state revision must be within the bounded positive range"⟩

/-- What the broker can ask to see. -/
inductive HostBrokerObservationTarget where
  | queue | lima | runner
deriving DecidableEq, Repr

/-- What a runner is doing. -/
inductive HostBrokerRunnerState where
  | offline
  | starting
  | idleReady
  | busy (requestId : ExecutionRequestId)
  | draining (requestId : ExecutionRequestId)
deriving DecidableEq, Repr

/-- What was seen of a runner. -/
structure HostBrokerRunnerObservation where
  instanceId : LimaInstanceId
  profileGeneration : LimaProfileGeneration
  observedAt : EpochMillis
  state : HostBrokerRunnerState
deriving DecidableEq, Repr

/-- **The next step.** -/
inductive HostBrokerAction where
  | observe (target : HostBrokerObservationTarget)
  | start (identity : LimaInstanceIdentity) (profile : LimaResourceProfile)
      (profileGeneration : LimaProfileGeneration)
  | stop (identity : LimaInstanceIdentity) (currentProfile : LimaResourceProfile)
      (profileGeneration : LimaProfileGeneration) (targetAfterStop : PersonalWorkerProfile)
  | changeProfile (identity : LimaInstanceIdentity) (fromProfile toProfile : LimaResourceProfile)
      (currentGeneration nextGeneration : LimaProfileGeneration)
  | waitForRunner (identity : LimaInstanceIdentity) (profile : LimaResourceProfile)
      (profileGeneration : LimaProfileGeneration)
  | reserve (selection : PersonalWorkerSelection)
  | release (requestId : ExecutionRequestId)
  | cancelDownscale (target : PersonalWorkerProfile)
  | noOp
deriving DecidableEq, Repr

/-- A plan: one action, with what it was decided on. -/
structure HostBrokerPlan where
  schemaVersion : Nat
  stateRevision : HostBrokerStateRevision
  queueGeneration : PersonalWorkerQueueGeneration
  decisionAt : EpochMillis
  action : HostBrokerAction
deriving DecidableEq, Repr

/-- Everything the broker looks at. -/
structure HostBrokerReducerInput where
  stateRevision : HostBrokerStateRevision
  decisionAt : EpochMillis
  queue : PersonalWorkerQueueDecision
  lifecyclePolicy : LimaLifecyclePolicy
  lifecycle : Option LimaLifecycleObservation
  runner : Option HostBrokerRunnerObservation
  previous : Option HostBrokerPlan

/-- How old its observations may be. -/
structure HostBrokerReducerPolicy where
  maxQueueAgeMillis : Nat
  maxRunnerAgeMillis : Nat
  queue_window : 1 ≤ maxQueueAgeMillis ∧ maxQueueAgeMillis ≤ maxObservationAgeMillis
  runner_window : 1 ≤ maxRunnerAgeMillis ∧ maxRunnerAgeMillis ≤ maxObservationAgeMillis
deriving DecidableEq, Repr

/-- The version of a plan. -/
def hostBrokerSchemaVersion : Nat := 1

namespace PersonalWorkerQueueDecision

variable (queue : PersonalWorkerQueueDecision)

/-- Something is selected, or not cancelled. -/
def hasWork : Bool :=
  !queue.selected.isEmpty || queue.visibility.any fun entry => entry.state != .cancelled

/-- Something is being worked on. -/
def hasActiveWork : Bool := queue.visibility.any fun entry => entry.state.isActive

end PersonalWorkerQueueDecision

/-- The size as the queue names it. -/
def mapLimaProfile : LimaResourceProfile → PersonalWorkerProfile
  | .interactive => .interactive
  | .work => .work

namespace HostBrokerReducerInput

variable (input : HostBrokerReducerInput)

/-- The plan of an action. -/
def plan (action : HostBrokerAction) : HostBrokerPlan where
  schemaVersion := hostBrokerSchemaVersion
  stateRevision := input.stateRevision
  queueGeneration := input.queue.generation
  decisionAt := input.decisionAt
  action := action

/-! ## Checks -/

/-- The previous plan is older, or the same one. -/
def validateRevision : Except FieldError Unit :=
  match input.previous with
  | none => .ok ()
  | some previous => do
    refuseIf (previous.schemaVersion ≠ hostBrokerSchemaVersion)
      ⟨"previous.schema_version", "unsupported_previous_broker_schema",
        "previous broker plan schema is not supported"⟩
    let next ← HostBrokerStateRevision.new (previous.stateRevision.val + 1)
    refuseIf (input.stateRevision ≠ next)
      ⟨"state_revision", "stale_or_skipped_state_revision",
        "durable broker state revision must advance by exactly one"⟩
    refuseIf (input.decisionAt.val < previous.decisionAt.val)
      ⟨"decision_at", "broker_decision_time_reversal", "broker decision time cannot move backwards"⟩
    refuseIf (input.queue.generation.val < previous.queueGeneration.val)
      ⟨"queue.generation", "queue_generation_reversal",
        "queue generation cannot move backwards across broker reductions"⟩

/-- The observation is too old. -/
def observationIsStale (field : String) (observedAt : EpochMillis) (maxAgeMillis : Nat) :
    Except FieldError Bool := do
  let age ← observationAge ⟨field, "future_observation",
    "broker input observation cannot be newer than the decision time"⟩ observedAt input.decisionAt
  pure (decide (age > maxAgeMillis))

variable (lifecycle : LimaLifecycleObservation)

/-- Queue and machine agree on the size. -/
def validateQueueLifecycleAlignment : Except FieldError Unit := do
  let expectedCurrent : PersonalWorkerProfile :=
    if lifecycle.state = .stopped then .stopped else mapLimaProfile lifecycle.profile
  let currentProfile ← okOr input.queue.profileObservation.profile
    ⟨"queue.profile_observation", "queue_profile_unobserved",
      "queue profile must be observed before lifecycle planning"⟩
  refuseIf (currentProfile ≠ expectedCurrent)
    ⟨"queue.profile_observation", "queue_lifecycle_profile_mismatch",
      "queue current profile must match the exact Lima lifecycle observation"⟩
  refuseIf (input.queue.hasActiveWork ∧ lifecycle.profile ≠ .work)
    ⟨"lifecycle.profile", "active_work_requires_work_profile",
      "active broker work requires the exact Lima work profile"⟩
  refuseIf (lifecycle.activeReservationId.isSome ≠ input.queue.hasActiveWork)
    ⟨"lifecycle.active_reservation_id", "queue_lifecycle_reservation_mismatch",
      "queue active-work evidence and Lima reservation evidence must agree"⟩

/-- The size the queue wants, which has to be the one expected. -/
def desiredProfile (lifecycleTarget : LimaLifecycleTarget) :
    Except FieldError PersonalWorkerProfile := do
  let expected : PersonalWorkerProfile :=
    if input.queue.hasWork then .work
    else match lifecycleTarget with
      | .work => .work
      | .interactive => .interactive
      | .stopped => .stopped
  refuseIf (input.queue.desiredProfile ≠ expected)
    ⟨"queue.desired_profile", "queue_lifecycle_policy_mismatch",
      "queue and lifecycle policies must select the same exact desired profile"⟩
  pure expected

/-- The size may change: nothing is being worked on. -/
def requireProfileChangePermitted : Except FieldError Unit :=
  refuseIf (¬ input.queue.profileChangePermitted ∨ input.queue.hasActiveWork)
    ⟨"queue.profile_change_permitted", "profile_change_while_active",
      "profile change or stop is forbidden while a reservation remains active"⟩

variable (policy : HostBrokerReducerPolicy)

/-- The runner of this machine, if it was seen lately. -/
def validatedRunner (lifecycle : LimaLifecycleObservation) :
    Except FieldError (Option HostBrokerRunnerObservation) :=
  match input.runner with
  | none => .ok none
  | some runner => do
    let stale ← input.observationIsStale "runner.observed_at" runner.observedAt
      policy.maxRunnerAgeMillis
    if stale then pure none
    else do
      refuseIf (runner.instanceId ≠ lifecycle.identity.instanceId)
        ⟨"runner.instance_id", "runner_instance_identity_mismatch",
          "runner readiness must bind the exact Lima instance identity"⟩
      refuseIf (runner.profileGeneration ≠ lifecycle.profileGeneration)
        ⟨"runner.profile_generation", "runner_profile_generation_mismatch",
          "runner readiness must bind the exact Lima profile generation"⟩
      pure (some runner)

/-- A busy runner works on a request of the queue. -/
def validateRunnerRequestIdentity (state : HostBrokerRunnerState) : Except FieldError Unit :=
  let sees (requestId : ExecutionRequestId) (states : List PersonalWorkerQueueEntryState) :=
    refuseIf (¬ input.queue.visibility.any fun entry =>
        entry.requestId == requestId && states.contains entry.state)
      ⟨"runner.state.request_id", "runner_queue_identity_mismatch",
        "busy or draining runner identity must match exact active queue evidence"⟩
  match state with
  | .busy requestId => sees requestId [.starting, .running]
  | .draining requestId => sees requestId [.draining]
  | .offline | .starting | .idleReady => .ok ()

/-! ## The next step -/

/-- Stop the machine, for another size or for good. -/
def stopPlan (targetAfterStop : PersonalWorkerProfile) : HostBrokerPlan :=
  input.plan (.stop lifecycle.identity lifecycle.profile lifecycle.profileGeneration
    targetAfterStop)

/-- Wait for the runner. -/
def waitPlan : HostBrokerPlan :=
  input.plan (.waitForRunner lifecycle.identity lifecycle.profile lifecycle.profileGeneration)

/-- What to do with a stopped machine. -/
def chooseStoppedAction (desired : PersonalWorkerProfile) : Except FieldError HostBrokerPlan :=
  let change (profile : LimaResourceProfile) : Except FieldError HostBrokerPlan :=
    if lifecycle.profile = profile then
      pure (input.plan (.start lifecycle.identity profile lifecycle.profileGeneration))
    else do
      input.requireProfileChangePermitted
      let next ← okOr (checkedAdd u64Size lifecycle.profileGeneration.val 1)
        ⟨"lifecycle.profile_generation", "profile_generation_exhausted",
          "Lima profile generation space is exhausted"⟩
      let generation ← PositiveU64.new "profile_generation"
        ⟨"lifecycle.profile_generation", "invalid_next_profile_generation",
          "next Lima profile generation is invalid"⟩ next
      pure (input.plan (.changeProfile lifecycle.identity lifecycle.profile profile
        lifecycle.profileGeneration generation))
  match desired with
  | .stopped => pure (input.plan .noOp)
  | .interactive => change .interactive
  | .work => change .work

/-- **The runner decides**: it is observed, waited for, given back a request
it drained, or given the first selected one. -/
def chooseRunnerAction (lifecycle : LimaLifecycleObservation) :
    Except FieldError HostBrokerPlan := do
  match ← input.validatedRunner policy lifecycle with
  | none => pure (input.plan (.observe .runner))
  | some runner =>
    input.validateRunnerRequestIdentity runner.state
    match runner.state with
    | .offline | .starting => pure (input.waitPlan lifecycle)
    | .idleReady =>
      match input.queue.visibility.find? fun entry => entry.state == .draining with
      | some draining => pure (input.plan (.release draining.requestId))
      | none =>
        match input.queue.selected with
        | selection :: _ => pure (input.plan (.reserve selection))
        | [] => pure (input.plan .noOp)
    | .busy _ | .draining _ => pure (input.plan .noOp)

/-- What to do with a running machine. -/
def chooseRunningAction (lifecycle : LimaLifecycleObservation)
    (desired : PersonalWorkerProfile) : Except FieldError HostBrokerPlan :=
  let stop : Except FieldError HostBrokerPlan := do
    input.requireProfileChangePermitted
    pure (input.stopPlan lifecycle desired)
  match desired with
  | .work => if lifecycle.profile = .work then input.chooseRunnerAction policy lifecycle else stop
  | .interactive => if lifecycle.profile = .interactive then pure (input.plan .noOp) else stop
  | .stopped => stop

/-- What to do with a machine that is being drained. -/
def chooseDrainingAction (lifecycle : LimaLifecycleObservation)
    (desired : PersonalWorkerProfile) : Except FieldError HostBrokerPlan := do
  refuseIf (desired ≠ .work ∧ input.queue.hasActiveWork)
    ⟨"queue.desired_profile", "downscale_while_draining",
      "broker cannot downscale while an active reservation is draining"⟩
  input.chooseRunnerAction policy lifecycle

/-- What to do while a machine starts. -/
def chooseWaitAction (lifecycle : LimaLifecycleObservation) : Except FieldError HostBrokerPlan := do
  match ← input.validatedRunner policy lifecycle with
  | none => pure (input.plan (.observe .runner))
  | some _ => pure (input.waitPlan lifecycle)

/-- What to do with a machine. -/
def chooseAction (lifecycle : LimaLifecycleObservation)
    (desired : PersonalWorkerProfile) : Except FieldError HostBrokerPlan :=
  match lifecycle.state with
  | .unavailable => .error ⟨"lifecycle.state", "lima_unavailable",
      "unavailable Lima lifecycle evidence cannot produce an execution action"⟩
  | .stopped => input.chooseStoppedAction lifecycle desired
  | .starting => input.chooseWaitAction policy lifecycle
  | .running => input.chooseRunningAction policy lifecycle desired
  | .draining => input.chooseDrainingAction policy lifecycle desired
  | .stopping => pure (input.plan .noOp)

/-- The plan for a machine that was seen. -/
def reduceLifecycle (lifecycle : LimaLifecycleObservation) : Except FieldError HostBrokerPlan := do
  refuseIf (lifecycle.observedAt.val > input.decisionAt.val)
    ⟨"lifecycle.observed_at", "future_lifecycle_observation",
      "Lima lifecycle observation cannot be newer than the broker decision"⟩
  match input.lifecyclePolicy.desiredTarget lifecycle input.decisionAt with
  | .error error =>
    if error.code = "stale_observation" then pure (input.plan (.observe .lima))
    else .error ⟨"lifecycle", "invalid_lifecycle_evidence",
      "Lima lifecycle evidence cannot produce a reviewed broker target"⟩
  | .ok target => do
    input.validateQueueLifecycleAlignment lifecycle
    let desired ← input.desiredProfile target
    input.chooseAction policy lifecycle desired

end HostBrokerReducerInput

/-- **The next step of the broker.** -/
def HostBrokerReducerPolicy.reduce (policy : HostBrokerReducerPolicy)
    (input : HostBrokerReducerInput) : Except FieldError HostBrokerPlan := do
  input.validateRevision
  refuseIf (input.queue.schemaVersion ≠ personalWorkerQueueSchemaVersion)
    ⟨"queue.schema_version", "unsupported_queue_schema",
      "personal worker queue decision schema is not supported"⟩
  let stale ← input.observationIsStale "queue.observed_at" input.queue.observedAt
    policy.maxQueueAgeMillis
  if stale then pure (input.plan (.observe .queue))
  else if input.queue.cancelPendingDownscale then do
    refuseIf (¬ input.queue.hasWork)
      ⟨"queue.cancel_pending_downscale", "unproven_downscale_cancellation",
        "downscale cancellation requires queued, selected, reserved, or active work"⟩
    pure (input.plan (.cancelDownscale .work))
  else
    match input.lifecycle with
    | none => pure (input.plan (.observe .lima))
    | some lifecycle => input.reduceLifecycle policy lifecycle

/-! ## A machine that is ready -/

/-- The observation is no older than this. -/
def FreshWithin (maxAgeMillis : Nat) (observedAt decisionAt : EpochMillis) : Prop :=
  observedAt.val ≤ decisionAt.val ∧ decisionAt.val - observedAt.val ≤ maxAgeMillis

instance (maxAgeMillis : Nat) (observedAt decisionAt : EpochMillis) :
    Decidable (FreshWithin maxAgeMillis observedAt decisionAt) :=
  inferInstanceAs (Decidable (_ ∧ _))

theorem observationAge_of_le {error : FieldError} {observedAt decisionAt : EpochMillis}
    (h : observedAt.val ≤ decisionAt.val) :
    observationAge error observedAt decisionAt = .ok (decisionAt.val - observedAt.val) :=
  if_pos h

theorem LimaLifecycleObservation.lastActivityAt_le (lifecycle : LimaLifecycleObservation) :
    lifecycle.lastActivityAt.val ≤ lifecycle.observedAt.val := by
  have h := lifecycle.valid
  unfold LimaLifecycleObservationDefinition.validateObservationShape at h
  rw [guard_bind_eq_ok, guard_bind_eq_ok] at h
  exact Nat.le_of_not_lt (refuseIf_eq_ok.mp h.2.1)

theorem LimaLifecyclePolicy.desiredTarget_of_fresh {policy : LimaLifecyclePolicy}
    {lifecycle : LimaLifecycleObservation} {decisionAt : EpochMillis}
    (h : FreshWithin policy.maxObservationAgeMillis lifecycle.observedAt decisionAt) :
    ∃ target, policy.desiredTarget lifecycle decisionAt = .ok target := by
  unfold desiredTarget
  rw [observationAge_of_le h.1, ok_bind, refuseIf_bind (not_lt.mpr h.2)]
  split_ifs
  · exact ⟨_, rfl⟩
  · rw [observationAge_of_le (lifecycle.lastActivityAt_le.trans h.1), ok_bind]
    split_ifs <;> exact ⟨_, rfl⟩

/-- **The machine is ready**: it runs on the work profile with nothing in it,
its runner is idle, the queue saw both, and everything was seen recently. -/
structure HostBrokerReducerInput.Ready (policy : HostBrokerReducerPolicy)
    (input : HostBrokerReducerInput) (lifecycle : LimaLifecycleObservation)
    (runner : HostBrokerRunnerObservation) : Prop where
  queueFresh : FreshWithin policy.maxQueueAgeMillis input.queue.observedAt input.decisionAt
  queueProfile : input.queue.profileObservation.profile = some .work
  lifecycleSeen : input.lifecycle = some lifecycle
  lifecycleFresh :
    FreshWithin input.lifecyclePolicy.maxObservationAgeMillis lifecycle.observedAt input.decisionAt
  lifecycleState : lifecycle.state = .running
  lifecycleProfile : lifecycle.profile = .work
  lifecycleFree : lifecycle.activeReservationId = none
  runnerSeen : input.runner = some runner
  runnerFresh : FreshWithin policy.maxRunnerAgeMillis runner.observedAt input.decisionAt
  runnerInstance : runner.instanceId = lifecycle.identity.instanceId
  runnerGeneration : runner.profileGeneration = lifecycle.profileGeneration
  runnerState : runner.state = .idleReady

namespace PersonalWorkerQueueDecision

variable {queue : PersonalWorkerQueueDecision}

theorem hasActiveWork_of_idle (h : ∀ entry ∈ queue.visibility, entry.state.isActive = false) :
    queue.hasActiveWork = false := by
  rw [hasActiveWork, List.any_eq_false]
  intro entry he ha
  rw [h entry he] at ha
  cases ha

theorem find_draining_of_idle (h : ∀ entry ∈ queue.visibility, entry.state.isActive = false) :
    queue.visibility.find? (fun entry => entry.state == .draining) = none := by
  rw [List.find?_eq_none]
  intro entry he hd
  have ha := h entry he
  rw [beq_iff_eq.mp hd] at ha
  cases ha

end PersonalWorkerQueueDecision

namespace HostBrokerReducerInput

variable {policy : HostBrokerReducerPolicy} {input : HostBrokerReducerInput}
  {lifecycle : LimaLifecycleObservation} {runner : HostBrokerRunnerObservation}
  {selection : PersonalWorkerSelection} {rest : List PersonalWorkerSelection}

theorem observationIsStale_of_fresh {field : String} {observedAt : EpochMillis}
    {maxAgeMillis : Nat} (h : FreshWithin maxAgeMillis observedAt input.decisionAt) :
    input.observationIsStale field observedAt maxAgeMillis = .ok false := by
  rw [observationIsStale, observationAge_of_le h.1, ok_bind, pure_eq_ok,
    decide_eq_false (not_lt.mpr h.2)]

namespace Ready

theorem validateQueueLifecycleAlignment (hr : input.Ready policy lifecycle runner)
    (hi : input.queue.hasActiveWork = false) :
    input.validateQueueLifecycleAlignment lifecycle = .ok () := by
  unfold HostBrokerReducerInput.validateQueueLifecycleAlignment
  rw [hr.queueProfile, okOr, ok_bind, refuseIf_of_not, ok_bind, refuseIf_of_not, ok_bind,
    refuseIf_of_not]
  · simp [hr.lifecycleFree, hi]
  · simp [hi]
  · simp [hr.lifecycleState, hr.lifecycleProfile, mapLimaProfile]

/-- **The runner of a ready machine gets the first selected request.** -/
theorem chooseRunnerAction (hr : input.Ready policy lifecycle runner)
    (hi : ∀ entry ∈ input.queue.visibility, entry.state.isActive = false)
    (hs : input.queue.selected = selection :: rest) :
    input.chooseRunnerAction policy lifecycle = .ok (input.plan (.reserve selection)) := by
  have hrnr : input.validatedRunner policy lifecycle = .ok (some runner) := by
    unfold validatedRunner
    rw [hr.runnerSeen]
    dsimp only
    rw [observationIsStale_of_fresh hr.runnerFresh, ok_bind, if_neg Bool.false_ne_true,
      refuseIf_not hr.runnerInstance, ok_bind,
      refuseIf_not hr.runnerGeneration, ok_bind, pure_eq_ok]
  unfold HostBrokerReducerInput.chooseRunnerAction
  rw [hrnr, ok_bind]
  dsimp only
  rw [hr.runnerState]
  simp only [validateRunnerRequestIdentity, ok_bind, find_draining_of_idle hi, hs, pure_eq_ok]

end Ready

/-- **The broker reserves the first selected request** on a ready machine. -/
theorem reduce_of_ready (hr : input.Ready policy lifecycle runner) (hp : input.previous = none)
    (hsch : input.queue.schemaVersion = personalWorkerQueueSchemaVersion)
    (hi : ∀ entry ∈ input.queue.visibility, entry.state.isActive = false)
    (hdow : input.queue.cancelPendingDownscale = false)
    (hd : input.queue.desiredProfile = .work)
    (hs : input.queue.selected = selection :: rest) :
    policy.reduce input = .ok (input.plan (.reserve selection)) := by
  have ha := hasActiveWork_of_idle hi
  have hw : input.queue.hasWork = true := by simp [hasWork, hs]
  obtain ⟨target, ht⟩ := LimaLifecyclePolicy.desiredTarget_of_fresh hr.lifecycleFresh
  unfold HostBrokerReducerPolicy.reduce validateRevision
  rw [hp, ok_bind, refuseIf_not hsch, ok_bind,
    observationIsStale_of_fresh hr.queueFresh, ok_bind, if_neg Bool.false_ne_true, hdow,
    if_neg Bool.false_ne_true, hr.lifecycleSeen]
  -- the machine was seen: what both policies want is work, and it is on work
  show input.reduceLifecycle policy lifecycle = _
  unfold reduceLifecycle desiredProfile
  rw [refuseIf_bind (not_lt.mpr hr.lifecycleFresh.1), ht]
  dsimp only
  rw [hr.validateQueueLifecycleAlignment ha, ok_bind, if_pos hw,
    refuseIf_not hd, ok_bind, pure_eq_ok, ok_bind, chooseAction,
    hr.lifecycleState]
  rw [chooseRunningAction, if_pos hr.lifecycleProfile]
  exact hr.chooseRunnerAction hi hs

end HostBrokerReducerInput

end Glaeda
