import Glaeda.AttemptCatalog

/-!
# The attempt reconciler

The reconciler looks at one durable attempt, at what was observed of its
virtual machine and of its runner, and at a job event if one arrived, and
names the one thing to do next: persist a transition, observe more, perform
an external effect, or stop and report. It performs nothing itself.

It is a separate piece of code from the attempt state machine it plans for,
and it is keyed on phase, checkpoints and observations where the state
machine is keyed on phase, revision and evidence. The main result is that
the two agree: **every transition the reconciler asks for is accepted and
raises the revision**, so the loop that persists what it is told neither
stops at a refusal nor turns in place.

The program marks the branches it believes impossible; reaching one of them
would be a panic. Here they are an outcome of their own, distinct from a
refusal, and `reconcileAttempt_ne_unreachable` says that it does not occur.
-/

namespace Glaeda

open Checked AttemptRecord DisposableAttemptState Except

/-! ## Observations, actions and outcomes -/

/-- What is seen of the machine. -/
inductive DisposableVmObservation where
  | unknown
  | absent
  | stopped
  | ready
  | conflicting
deriving DecidableEq, Repr

/-- What is seen of the runner. -/
inductive ScaleSetRunnerObservation where
  | unknown
  | absent
  | registrationOnly (runner : ScaleSetRunnerReference)
  | idleReady (runner : ScaleSetRunnerReference)
  | conflicting
deriving DecidableEq, Repr

/-- What a plan is made from. -/
structure DisposableWorkerReconcileInput where
  now : EpochMillis
  attempt : DisposableAttemptState
  vm : DisposableVmObservation
  vmIdentity : Option DisposableVmIdentity
  runner : ScaleSetRunnerObservation
  jobEvent : Option ScaleSetJobEvent
  capacityReserved : Bool
  cancellationRequested : Bool
deriving DecidableEq, Repr

/-- What is to be looked at. -/
inductive DisposableWorkerObservationTarget where
  | vm
  | runner
deriving DecidableEq, Repr

/-- **What to do next.** -/
inductive DisposableWorkerAction where
  | persist (transition : DisposableAttemptCatalogAction)
  | observe (target : DisposableWorkerObservationTarget)
  | checkpointAndCloneVm
  | discardIncompleteVm
  | checkpointAndGenerateJit
  | wait
  | destroyVm
  | deleteRunner (runner : ScaleSetRunnerReference)
  | releaseCapacity
  | noOp
  | blocked (code : String)
deriving DecidableEq, Repr

/-- Why no action was returned: a refusal, or a branch that the program
marks as impossible. -/
inductive ReconcileFailure where
  | refused (error : FieldError)
  | unreachable
deriving DecidableEq, Repr

/-! ## Checks -/

variable (attempt : DisposableAttemptState)

/-- **Check a transition before asking for it.** -/
def validateTransition (transition : DisposableAttemptCatalogAction) :
    Except ReconcileFailure DisposableAttemptCatalogAction := do
  let _ ← (attempt.perform transition).mapError (fun error => .refused
    ⟨"attempt", if error.code ≠ "identity_drift" then "invalid_attempt_transition"
      else "github_job_identity_drift",
      "observation cannot advance the durable disposable attempt"⟩)
  return transition

/-- An identity comes exactly with a stopped or ready machine, and it is the
recorded one. -/
def validateVmObservation (observation : DisposableVmObservation)
    (observedIdentity : Option DisposableVmIdentity) : Except ReconcileFailure Unit := do
  refuseIf (¬ ((observation = .stopped ∨ observation = .ready) ↔ observedIdentity.isSome))
    (.refused ⟨"vm_identity", "invalid_vm_observation",
      "VM identity evidence does not match the observation state"⟩)
  refuseIf (∃ current ∈ attempt.vmIdentity, ∃ observed ∈ observedIdentity, current ≠ observed)
    (.refused ⟨"vm_identity", "vm_identity_drift",
      "observed VM identity differs from the durable disposable VM identity"⟩)

/-- The runner that is seen. -/
def observedRunner : ScaleSetRunnerObservation → Option ScaleSetRunnerReference
  | .registrationOnly runner | .idleReady runner => some runner
  | .unknown | .absent | .conflicting => none

/-- The runner is the one of the attempt. -/
def validateRunnerObservation
    (observation : ScaleSetRunnerObservation) : Except ReconcileFailure Unit :=
  refuseIf (∃ runner ∈ observedRunner observation, runner.name ≠ attempt.runnerName
      ∨ ∃ id ∈ attempt.runnerId, id ≠ runner.id)
    (.refused ⟨"runner", "runner_identity_drift",
      "runner observation differs from the durable runner identity"⟩)

/-- What news of a job does. -/
def jobEventTransition : ScaleSetJobEvent → DisposableAttemptCatalogAction
  | .started runner jobId => .recordRunning runner jobId
  | .completed runner jobId result => .recordTerminal runner jobId result

/-- The attempt after news of its job. -/
def applyJobTransition :
    DisposableAttemptCatalogAction → Except ReconcileFailure DisposableAttemptState
  | .recordRunning runner jobId =>
    (attempt.recordRunning runner jobId).mapError invalidJobEvent
  | .recordTerminal runner jobId result =>
    (attempt.recordTerminal runner jobId result).mapError invalidJobEvent
  | _ => .error .unreachable
where
  invalidJobEvent (_ : FieldError) : ReconcileFailure :=
    .refused ⟨"job_event", "invalid_job_event",
      "job event cannot advance the durable attempt"⟩

/-- **What to do about a job event**: persist it, unless it changes nothing. -/
def planJobEvent (event : ScaleSetJobEvent) :
    Except ReconcileFailure (Option DisposableWorkerAction) := do
  let transition ← validateTransition attempt (jobEventTransition event)
  let after ← applyJobTransition attempt transition
  return if after.revision ≠ attempt.revision then some (.persist transition) else none

/-! ## The plan -/

section Plan

variable (input : DisposableWorkerReconcileInput) (transition : DisposableAttemptCatalogAction)

/-- A step is to be recorded. -/
def persist : Except ReconcileFailure DisposableWorkerAction :=
  .ok (.persist transition)

/-- A step that can be taken is to be recorded. -/
def persistValidated : Except ReconcileFailure DisposableWorkerAction := do
  let transition ← validateTransition input.attempt transition
  persist transition

/-- What to do before the runner runs. -/
def planUnstarted : Except ReconcileFailure DisposableWorkerAction :=
  if input.vm = .unknown then .ok (.observe .vm)
  else if input.vm = .absent ∨ input.vm = .stopped then persist .beginCleanup
  else match input.runner with
    | .unknown => .ok (.observe .runner)
    | .absent =>
      if ¬ input.attempt.jitGenerationStarted then .ok .checkpointAndGenerateJit
      else if input.attempt.runnerId.isNone then
        .ok (.blocked "jit_generation_outcome_unknown")
      else persist .beginCleanup
    | .registrationOnly runner | .idleReady runner =>
      if input.attempt.jitGenerationStarted ∧ input.attempt.runnerId.isNone then
        persistValidated input (.recordRegistration runner)
      else if input.attempt.jitGenerationStarted then persist .beginCleanup
      else .ok (.blocked "runner_exists_before_jit_checkpoint")
    | .conflicting => .error .unreachable

/-- What to do once the runner runs. -/
def planStarted : Except ReconcileFailure DisposableWorkerAction :=
  match input.runner with
  | .unknown => .ok (.observe .runner)
  | .absent | .registrationOnly _ => persist .beginCleanup
  | .idleReady runner => persistValidated input (.recordRunnerReady runner)
  | .conflicting => .error .unreachable

/-- What to do while the runner waits. -/
def planListening (cleanup : Bool) : Except ReconcileFailure DisposableWorkerAction :=
  if cleanup then persist .beginCleanup
  else if input.vm = .unknown then .ok (.observe .vm)
  else if input.vm = .absent ∨ input.vm = .stopped then persist .beginCleanup
  else match input.runner with
    | .unknown => .ok (.observe .runner)
    | .absent | .registrationOnly _ => persist .beginCleanup
    | .idleReady runner =>
      if input.attempt.runnerId.isNone then persistValidated input (.recordRunnerReady runner)
      else .ok .wait
    | .conflicting => .error .unreachable

/-- What to do until the runner is gone. -/
def planDeregistering : Except ReconcileFailure DisposableWorkerAction :=
  if input.vmIdentity.isSome ∧ input.attempt.vmIdentity.isNone then
    .ok (.blocked "unbound_vm_recovery_required")
  else if input.vm = .unknown then .ok (.observe .vm)
  else if input.vm = .stopped ∨ input.vm = .ready then .ok .destroyVm
  else match input.runner with
    | .unknown => .ok (.observe .runner)
    | .absent => persist (.advanceCleanup .releasing)
    | .registrationOnly runner | .idleReady runner =>
      if input.attempt.runnerId.isNone ∧ input.attempt.jitGenerationStarted then
        persistValidated input (.recordRegistration runner)
      else if input.attempt.runnerId.isNone then
        .ok (.blocked "runner_exists_before_jit_checkpoint")
      else .ok (.deleteRunner runner)
    | .conflicting => .error .unreachable

/-- What to do until the machine is gone. -/
def planReleasing : Except ReconcileFailure DisposableWorkerAction :=
  if input.vmIdentity.isSome ∧ input.attempt.vmIdentity.isNone then
    .ok (.blocked "unbound_vm_recovery_required")
  else if input.vm = .unknown then .ok (.observe .vm)
  else if input.vm = .stopped ∨ input.vm = .ready then .ok .destroyVm
  else if input.runner = .unknown then .ok (.observe .runner)
  else match input.runner with
    | .registrationOnly runner | .idleReady runner =>
      if input.attempt.runnerId.isNone then
        persistValidated input (.recordRegistration runner)
      else .ok (.deleteRunner runner)
    | .absent =>
      if input.capacityReserved then .ok .releaseCapacity
      else persist (.advanceCleanup .complete)
    | .unknown | .conflicting => .error .unreachable

/-- What to do in each phase. -/
def planPhase (cleanup : Bool) : Except ReconcileFailure DisposableWorkerAction :=
  match input.attempt.phase with
  | .reserved =>
    if cleanup then persist .beginUnprovisionedRelease
    else match input.vm with
      | .unknown => .ok (.observe .vm)
      | .absent => persist .authorizeClone
      | .stopped | .ready => .ok (.blocked "vm_exists_before_clone_authorization")
      | .conflicting => .error .unreachable
  | .unprovisionedReleasing =>
    if input.capacityReserved then .ok .releaseCapacity else .error .unreachable
  | .provisioning => .ok (.blocked "legacy_provisioning_recovery_required")
  | .cloneAuthorized =>
    if cleanup then persist .beginUnprovisionedRelease
    else match input.vm with
      | .unknown => .ok (.observe .vm)
      | .absent => .ok .checkpointAndCloneVm
      | .stopped | .ready => .ok (.blocked "vm_changed_before_clone_start")
      | .conflicting => .error .unreachable
  | .cloneStarted =>
    if cleanup then persist .beginCleanup
    else match input.vm with
      | .unknown => .ok (.observe .vm)
      | .absent => persist .beginCleanup
      | .stopped => .ok .discardIncompleteVm
      | .ready => persist .beginRegistration
      | .conflicting => .error .unreachable
  | .registering =>
    if cleanup then persist .beginCleanup
    else if ¬ input.attempt.runnerStartStarted then planUnstarted input
    else planStarted input
  | .assigned =>
    if ¬ input.attempt.runnerStartStarted ∧ cleanup then persist .beginCleanup
    else if ¬ input.attempt.runnerStartStarted then planUnstarted input
    else planListening input cleanup
  | .waiting | .running => planListening input cleanup
  | .terminal => persist .beginCleanup
  | .destroying =>
    if input.vmIdentity.isSome ∧ input.attempt.vmIdentity.isNone then
      .ok (.blocked "unbound_vm_recovery_required")
    else match input.vm with
      | .unknown => .ok (.observe .vm)
      | .stopped | .ready => .ok .destroyVm
      | .absent => persist (.advanceCleanup .deregistering)
      | .conflicting => .error .unreachable
  | .deregistering => planDeregistering input
  | .releasing => planReleasing input
  | .complete =>
    if input.capacityReserved then .ok (.blocked "completed_attempt_retains_capacity")
    else if input.vm = .unknown ∨ input.runner = .unknown then
      .ok (.blocked "completed_attempt_external_state_unknown")
    else if input.vm ≠ .absent ∨ input.runner ≠ .absent then
      .ok (.blocked "completed_attempt_retains_external_state")
    else .ok .noOp

/-- What is left to do when no job event is to be persisted: an attempt that
lost its capacity gives up, any other follows the plan of its phase. -/
def planWithoutEvent : Except ReconcileFailure DisposableWorkerAction :=
  let cleanup := input.cancellationRequested || input.now.val > input.attempt.notAfter.val
  let phase := input.attempt.phase
  if ¬ input.capacityReserved ∧ (phase = .reserved ∨ phase = .cloneAuthorized
      ∨ phase = .unprovisionedReleasing) then
    persist .completeUnprovisioned
  else if ¬ input.capacityReserved ∧ (phase = .cloneStarted ∨ phase = .registering
      ∨ phase = .waiting ∨ phase = .assigned ∨ phase = .running ∨ phase = .terminal) then
    persist .beginCleanup
  else planPhase input cleanup

/-- **The reconciler.** -/
def reconcileAttempt : Except ReconcileFailure DisposableWorkerAction := do
  if input.vm = .conflicting then
    return .blocked "conflicting_vm_identity"
  validateVmObservation input.attempt input.vm input.vmIdentity
  if input.runner = .conflicting then
    return .blocked "conflicting_runner_identity"
  validateRunnerObservation input.attempt input.runner
  if input.attempt.phase = .cloneStarted ∧ input.attempt.vmIdentity.isNone then
    return .blocked "unbound_vm_recovery_required"
  match input.jobEvent with
  | some event =>
    match ← planJobEvent input.attempt event with
    | some action => return action
    | none => planWithoutEvent input
  | none => planWithoutEvent input

end Plan

/-! ## Every requested transition applies

A requested transition that was checked first is known to be accepted, and
only has to change something. One that was not checked has to be shown to
validate, from what the phase says about the evidence. -/

namespace DisposableAttemptState

variable {s n : DisposableAttemptState}
variable {transition : DisposableAttemptCatalogAction} {phase : DisposableAttemptPhase}

/-- **The transition applies**: it is accepted and raises the revision by
one. -/
def Applies (s : DisposableAttemptState) (transition : DisposableAttemptCatalogAction) : Prop :=
  ∃ n, applyAction s transition = .ok n ∧ n.revision.val = s.revision.val + 1

theorem applies_of_perform
    (h : s.perform transition = .ok n) (hne : n ≠ s) : s.Applies transition := by
  obtain heq | ha := eq_or_advances_of_perform h
  · exact absurd heq hne
  · exact ⟨n, applyAction_eq_ok.mpr h, ha.revision⟩

theorem applies_of_advanceWith {runnerId : Option ScaleSetRunnerId}
    {githubJobId : Option ScaleSetJobId} {result : Option ScaleSetJobResult}
    (ht : s.perform transition = s.advanceWith phase runnerId githubJobId result)
    (hmax : s.revision.val < maxDisposableAttemptRevision)
    (hv : ∀ revision : DisposableAttemptRevision,
      revision.val = s.revision.val + 1 → AttemptRecord.validate
        { s.toAttemptRecord with revision, runnerId, phase, githubJobId, result } = .ok ()) :
    s.Applies transition := by
  let revision : DisposableAttemptRevision := ⟨s.revision.val + 1, by omega, by omega⟩
  refine ⟨⟨_, hv revision rfl⟩, ?_, rfl⟩
  rw [applyAction_eq_ok, ht, advanceWith_eq_ok]
  exact ⟨rfl, rfl⟩

/-- **The cleanup applies** wherever the attempt owns a machine and the
revision fits. -/
theorem applies_cleanup (ht : s.perform transition
      = s.advanceWith phase s.runnerId s.githubJobId s.result)
    (hmax : s.revision.val < maxDisposableAttemptRevision) (hph : isCleanup phase)
    (hvm : s.vmIdentity ≠ none) (hrev : 4 ≤ s.revision.val)
    (hs : AttemptRecord.revisionShapeValid phase (s.revision.val + 1)) :
    s.Applies transition := by
  refine applies_of_advanceWith ht hmax (fun revision hr => ?_)
  obtain ⟨h1, h2, h3, h4, h5, h6, _⟩ := (validate_eq_ok_iff _).mp s.valid
  refine (validate_eq_ok_iff _).mpr ⟨h1, h2, h3, h4, h5, h6, ?_, ?_, ?_, fun _ _ => hvm⟩
  · simpa only [hr] using hs
  · unfold validateEvidence
    obtain rfl | rfl | rfl | rfl := hph <;> simp [hvm]
  · intro _ hle
    have : revision.val ≤ 4 := hle
    omega

theorem applies_unprovisioned (ht : s.perform transition = s.advanceWith phase none none none)
    (hmax : s.revision.val < maxDisposableAttemptRevision)
    (her : s.phase = .reserved ∨ s.phase = .cloneAuthorized ∨ s.phase = .unprovisionedReleasing)
    (hph : phase = .cloneAuthorized ∨ phase = .unprovisionedReleasing ∨ phase = .complete)
    (hs : AttemptRecord.revisionShapeValid phase (s.revision.val + 1)) :
    s.Applies transition := by
  have he := s.evidence
  have hrev := s.revision_shape
  unfold validateEvidence at he
  refine applies_of_advanceWith ht hmax (fun revision hr => ?_)
  have hsm : revision.val ≤ 4 := by
    obtain hp | hp | hp := her <;>
      simp only [hp, revisionShapeValid] at hrev <;> omega
  have hsch := ((validate_eq_ok_iff _).mp s.valid).1
  rw [validate_eq_ok_iff]
  obtain hp | hp | hp := her <;> simp [hp] at he <;>
    obtain rfl | rfl | rfl := hph <;>
    simp [he, hsch, hr, hs, validateEvidence] <;> omega

section

variable (hmax : s.revision.val < maxDisposableAttemptRevision)
include hmax

theorem applies_authorizeClone (hph : s.phase = .reserved) : s.Applies .authorizeClone := by
  obtain ⟨hrnr, hj, hr⟩ := s.unrecorded
  rw [hph] at hrnr hj hr
  have hrev := s.revision_shape
  simp only [hph, revisionShapeValid] at hrev
  have hp : s.perform .authorizeClone = s.advanceWith .cloneAuthorized none none none := by
    simp [perform, authorizeClone, advancePhase, hph, refuseIf, hrnr (by decide),
      hj (by decide), hr (by decide)]
  refine applies_unprovisioned hp hmax (.inl hph) (.inl rfl) ?_
  simp only [revisionShapeValid]
  omega

theorem applies_beginUnprovisionedRelease (hph : s.phase = .reserved ∨ s.phase = .cloneAuthorized) :
    s.Applies .beginUnprovisionedRelease := by
  have hr := s.revision_shape
  have hpr : s.perform .beginUnprovisionedRelease
      = s.advanceWith .unprovisionedReleasing none none none := by
    obtain hp | hp := hph <;> simp only [perform, beginUnprovisionedRelease, hp]
  refine applies_unprovisioned hpr hmax ?_ (.inr (.inl rfl)) ?_ <;>
    obtain hp | hp := hph <;>
    simp only [hp, revisionShapeValid] at hr ⊢ <;> simp <;> omega

theorem applies_completeUnprovisioned
    (hph : s.phase = .reserved ∨ s.phase = .cloneAuthorized ∨ s.phase = .unprovisionedReleasing) :
    s.Applies .completeUnprovisioned := by
  have hr := s.revision_shape
  have hpr : s.perform .completeUnprovisioned = s.advanceWith .complete none none none := by
    obtain hp | hp | hp := hph <;> simp only [perform, completeUnprovisioned, hp]
  refine applies_unprovisioned hpr hmax hph (.inr (.inr rfl)) ?_
  obtain hp | hp | hp := hph <;>
    simp only [hp, revisionShapeValid] at hr ⊢ <;> omega

theorem applies_beginRegistration (hph : s.phase = .cloneStarted) (hvm : s.vmIdentity ≠ none) :
    s.Applies .beginRegistration := by
  have hp : s.perform .beginRegistration
      = s.advanceWith .registering s.runnerId s.githubJobId s.result := by
    simp [perform, beginRegistration, advancePhase, hph, refuseIf]
  refine applies_of_advanceWith hp hmax (fun revision hr => ?_)
  have he := s.evidence
  have hrev := s.revision_shape
  have hs := ((validate_eq_ok_iff _).mp s.valid).1
  unfold validateEvidence at he
  simp [hph, hvm, revisionShapeValid] at he hrev
  have hf : revision.val = 5 := by omega
  rw [validate_eq_ok_iff]
  simp [he, hs, hvm, hf, revisionShapeValid, validateEvidence, registrationHistory]

theorem applies_beginCleanup
    (hph : s.phase = .cloneStarted ∨ s.phase = .registering ∨ s.phase = .waiting
      ∨ s.phase = .assigned ∨ s.phase = .running ∨ s.phase = .terminal)
    (hc : s.phase = .cloneStarted → s.vmIdentity ≠ none) : s.Applies .beginCleanup := by
  have hpr : s.perform .beginCleanup
      = s.advanceWith .destroying s.runnerId s.githubJobId s.result := by
    obtain hp | hp | hp | hp | hp | hp := hph <;> simp only [perform, beginCleanup, hp]
  have he := s.evidence
  have hr := s.revision_shape
  unfold validateEvidence at he
  have hf : s.vmIdentity ≠ none ∧ 4 ≤ s.revision.val := by
    obtain hp | hp | hp | hp | hp | hp := hph <;>
      simp [hp, revisionShapeValid] at he hr hc ⊢ <;> grind
  refine applies_cleanup hpr hmax (by decide) hf.1 hf.2 ?_
  simp only [revisionShapeValid]
  omega

theorem applies_advanceCleanup (hph : (s.phase, phase) ∈
      [(.destroying, .deregistering), (.deregistering, .releasing), (.releasing, .complete)]) :
    s.Applies (.advanceCleanup phase) := by
  have he := s.evidence
  have hr := s.revision_shape
  unfold validateEvidence at he
  have hpr : s.perform (.advanceCleanup phase)
      = s.advanceWith phase s.runnerId s.githubJobId s.result := by
    have hne : s.phase ≠ phase := by
      rintro rfl
      cases hp : s.phase <;> simp [hp] at hph
    simp [perform, advanceCleanup, hne, refuseIf, hph]
  simp only [List.mem_cons, Prod.mk.injEq, List.not_mem_nil, or_false] at hph
  obtain ⟨hp, rfl⟩ | ⟨hp, rfl⟩ | ⟨hp, rfl⟩ := hph <;>
    simp [hp, revisionShapeValid] at he hr <;>
    refine applies_cleanup hpr hmax (by decide) he (by omega) ?_ <;>
    simp only [revisionShapeValid] <;> omega

end

variable {runner : ScaleSetRunnerReference}

theorem applies_recordRegistration
    (h : s.perform (.recordRegistration runner) = .ok n) (hn : s.runnerId = none) :
    s.Applies (.recordRegistration runner) := by
  refine applies_of_perform h ?_
  rintro rfl
  have hr := (recordRegistration_runner h).1
  rw [hn] at hr
  cases hr

/-- A readiness that is accepted while registering, or without a recorded
runner, applies. -/
theorem applies_recordRunnerReady (h : s.perform (.recordRunnerReady runner) = .ok n)
    (hc : s.phase = .registering ∨ s.runnerId = none) :
    s.Applies (.recordRunnerReady runner) := by
  refine applies_of_perform h ?_
  rintro rfl
  obtain hph | hn := hc
  · change n.recordRunnerReady runner = .ok n at h
    unfold recordRunnerReady at h
    simp only [bind_eq_ok, hph] at h
    obtain ⟨_, _, _, _, h⟩ := h
    have hrec := (advanceWith_eq_ok.mp h).1
    omega
  · have hr := (recordRunnerReady_runner h).1
    rw [hn] at hr
    cases hr

end DisposableAttemptState

/-! ## What a plan can say -/

/-- **When each effect is returned.** Nothing is said about the actions that
have no effect outside. -/
def EffectAllowed (input : DisposableWorkerReconcileInput) : DisposableWorkerAction → Prop
  | .checkpointAndCloneVm => input.attempt.phase = .cloneAuthorized ∧ input.vm = .absent
  | .checkpointAndGenerateJit => input.attempt.jitGenerationStarted = false
      ∧ input.vm = .ready ∧ input.runner = .absent
  | .discardIncompleteVm => input.attempt.phase = .cloneStarted ∧ input.vm = .stopped
  | .destroyVm => (input.attempt.phase = .destroying ∨ input.attempt.phase = .deregistering
        ∨ input.attempt.phase = .releasing) ∧ (input.vm = .stopped ∨ input.vm = .ready)
  | .deleteRunner runner => observedRunner input.runner = some runner
      ∧ input.attempt.runnerId ≠ none
  | .releaseCapacity => input.attempt.phase = .unprovisionedReleasing
      ∨ (input.attempt.phase = .releasing ∧ input.vm = .absent ∧ input.runner = .absent)
  | .persist (.advanceCleanup .complete) => input.attempt.phase = .releasing
      ∧ input.vm = .absent ∧ input.runner = .absent
  | _ => True

/-- **What the reconciler checked** before it follows the plan. -/
structure Observed (input : DisposableWorkerReconcileInput) : Prop where
  vm : input.vm ≠ .conflicting
  identity : (input.vm = .stopped ∨ input.vm = .ready) ↔ input.vmIdentity.isSome
  sameVm : ∀ current ∈ input.attempt.vmIdentity, ∀ observed ∈ input.vmIdentity, current = observed
  sameRunner : ∀ runner ∈ observedRunner input.runner, runner.name = input.attempt.runnerName
    ∧ ∀ id ∈ input.attempt.runnerId, id = runner.id
  cloned : input.attempt.phase = .cloneStarted → input.attempt.vmIdentity.isSome

/-- What is asked for can be done. -/
def AsksForApplicable (s : DisposableAttemptState)
    (outcome : Except ReconcileFailure DisposableWorkerAction) : Prop :=
  ∀ transition, outcome = .ok (.persist transition) → s.Applies transition

section PlanProperties

variable {input : DisposableWorkerReconcileInput}
variable {transition : DisposableAttemptCatalogAction} {action : DisposableWorkerAction}
variable {outcome : Except ReconcileFailure DisposableWorkerAction}

/-- **What a plan can say.** It asks for a transition that applies as long as
a revision is left, or for one that was tried and applies when it was
accepted; or it names something else to do, or reaches a branch marked
impossible. -/
inductive Planned (input : DisposableWorkerReconcileInput) :
    Except ReconcileFailure DisposableWorkerAction → Prop
  | asked {transition : DisposableAttemptCatalogAction}
      (applies : input.attempt.revision.val < maxDisposableAttemptRevision →
        input.attempt.Applies transition)
      (allowed : EffectAllowed input (.persist transition)) : Planned input (persist transition)
  | tried {transition : DisposableAttemptCatalogAction}
      (applies : ∀ n, input.attempt.perform transition = .ok n → input.attempt.Applies transition)
      (allowed : EffectAllowed input (.persist transition)) :
      Planned input (persistValidated input transition)
  | other {action : DisposableWorkerAction} (other : ∀ transition, action ≠ .persist transition)
      (allowed : EffectAllowed input action) : Planned input (.ok action)
  | impossible : Planned input (.error .unreachable)

theorem persistValidated_eq_ok (h : persistValidated input transition = .ok action) :
    action = .persist transition ∧ ∃ n, input.attempt.perform transition = .ok n := by
  unfold persistValidated validateTransition at h
  simp only [bind_eq_ok, mapError_eq_ok] at h
  obtain ⟨_, ⟨n, hn, hp⟩, h⟩ := h
  cases hp
  exact ⟨(ok.inj h).symm, n, hn⟩

namespace Planned

theorem asksForApplicable (h : Planned input outcome)
    (hmax : input.attempt.revision.val < maxDisposableAttemptRevision) :
    AsksForApplicable input.attempt outcome := by
  intro _ heq
  cases h with
  | asked ha _ =>
    cases heq
    exact ha hmax
  | tried ha _ =>
    obtain ⟨hp, n, hn⟩ := persistValidated_eq_ok heq
    cases hp
    exact ha n hn
  | other ho _ =>
    cases heq
    exact absurd rfl (ho _)
  | impossible => cases heq

theorem effectAllowed (h : Planned input (.ok action)) : EffectAllowed input action := by
  generalize ho : (.ok action : Except _ _) = outcome at h
  cases h with
  | asked _ ha =>
    cases ho
    exact ha
  | tried _ ha =>
    obtain ⟨rfl, -⟩ := persistValidated_eq_ok ho.symm
    exact ha
  | other _ ha =>
    cases ho
    exact ha
  | impossible => cases ho

theorem cleanup (hph : input.attempt.phase = .registering ∨ input.attempt.phase = .waiting
      ∨ input.attempt.phase = .assigned ∨ input.attempt.phase = .running) :
    Planned input (persist .beginCleanup) := by
  refine .asked (fun hmax => input.attempt.applies_beginCleanup hmax ?_ ?_) trivial <;>
    obtain hp | hp | hp | hp := hph <;> simp [hp]

variable (runner : ScaleSetRunnerReference)

theorem registration (hnone : input.attempt.runnerId = none) :
    Planned input (persistValidated input (.recordRegistration runner)) :=
  .tried (fun _ hn => applies_recordRegistration hn hnone) trivial

theorem runnerReady (hc : input.attempt.phase = .registering ∨ input.attempt.runnerId = none) :
    Planned input (persistValidated input (.recordRunnerReady runner)) :=
  .tried (fun _ hn => applies_recordRunnerReady hn hc) trivial

theorem advanceCleanup {phase : DisposableAttemptPhase}
    (hph : (input.attempt.phase, phase) ∈ [(.destroying, .deregistering),
      (.deregistering, .releasing), (.releasing, .complete)])
    (ha : EffectAllowed input (.persist (.advanceCleanup phase))) :
    Planned input (persist (.advanceCleanup phase)) :=
  .asked (fun hmax => input.attempt.applies_advanceCleanup hmax hph) ha

theorem started (hph : input.attempt.phase = .registering) : Planned input (planStarted input) := by
  have hc := cleanup (.inl hph)
  unfold planStarted
  split
  all_goals first
    | exact hc
    | exact .runnerReady _ (.inl hph)
    | exact .impossible
    | exact .other (by simp) trivial

theorem listening (cleanup : Bool)
    (hph : input.attempt.phase = .waiting ∨ input.attempt.phase = .assigned
      ∨ input.attempt.phase = .running) :
    Planned input (planListening input cleanup) := by
  have hc := Planned.cleanup (.inr hph)
  unfold planListening
  repeat' split
  all_goals first
    | exact hc
    | exact .runnerReady _ (.inr (by simp_all))
    | exact .impossible
    | exact .other (by simp) trivial

theorem deregistering (hph : input.attempt.phase = .deregistering) :
    Planned input (planDeregistering input) := by
  unfold planDeregistering
  repeat' split
  all_goals first
    | exact advanceCleanup (by simp [hph]) trivial
    | exact .registration _ (by simp_all)
    | exact .impossible
    | exact .other (by simp) (by simp_all [EffectAllowed, observedRunner])

variable (hobs : Observed input)
include hobs

theorem unstarted (hph : input.attempt.phase = .registering ∨ input.attempt.phase = .assigned) :
    Planned input (planUnstarted input) := by
  have hvm := hobs.vm
  have hc : Planned input (persist .beginCleanup) :=
    cleanup (by obtain hp | hp := hph <;> simp [hp])
  unfold planUnstarted
  repeat' split
  all_goals first
    | exact hc
    | exact .registration _ (by simp_all)
    | exact .impossible
    | exact .other (by simp) trivial
    | (refine .other (by simp) ?_; cases hcs : input.vm <;> simp_all [EffectAllowed])

theorem releasing (hph : input.attempt.phase = .releasing) :
    Planned input (planReleasing input) := by
  have hvm := hobs.vm
  have ha : input.vm ≠ .unknown → ¬ (input.vm = .stopped ∨ input.vm = .ready) →
      input.vm = .absent := by
    cases hc : input.vm <;> simp_all
  unfold planReleasing
  repeat' split
  all_goals first
    | exact advanceCleanup (by simp [hph]) (by simp_all [EffectAllowed])
    | exact .registration _ (by simp_all)
    | exact .impossible
    | exact .other (by simp) (by simp_all [EffectAllowed, observedRunner])

/-- **The plan of every phase**, after the observations were checked. -/
theorem phase (cleanup : Bool) : Planned input (planPhase input cleanup) := by
  have hc : input.attempt.phase = .cloneStarted → input.attempt.vmIdentity ≠ none :=
    fun hph => Option.isSome_iff_ne_none.mp (hobs.cloned hph)
  unfold planPhase
  split
  case h_1 hph =>
    have hr : Planned input (persist .beginUnprovisionedRelease) :=
      .asked (fun hmax => input.attempt.applies_beginUnprovisionedRelease hmax (.inl hph)) trivial
    have hc : Planned input (persist .authorizeClone) :=
      .asked (fun hmax => input.attempt.applies_authorizeClone hmax hph) trivial
    repeat' split
    all_goals first
      | assumption
      | exact .impossible
      | exact .other (by simp) trivial
  case h_2 hph =>
    split
    · exact .other (by simp) (.inl hph)
    · exact .impossible
  case h_3 => exact .other (by simp) trivial
  case h_4 hph =>
    have hr : Planned input (persist .beginUnprovisionedRelease) :=
      .asked (fun hmax => input.attempt.applies_beginUnprovisionedRelease hmax (.inr hph)) trivial
    repeat' split
    all_goals first
      | assumption
      | exact .impossible
      | exact .other (by simp) trivial
      | exact .other (by simp) ⟨hph, ‹_›⟩
  case h_5 hph =>
    have hcl : Planned input (persist .beginCleanup) :=
      .asked (fun hmax => input.attempt.applies_beginCleanup hmax (.inl hph) hc) trivial
    have hreg : Planned input (persist .beginRegistration) :=
      .asked (fun hmax => input.attempt.applies_beginRegistration hmax hph (hc hph))
        trivial
    repeat' split
    all_goals first
      | assumption
      | exact .impossible
      | exact .other (by simp) trivial
      | exact .other (by simp) ⟨hph, ‹_›⟩
  case h_6 hph =>
    repeat' split
    · exact .cleanup (.inl hph)
    · exact unstarted hobs (.inl hph)
    · exact started hph
  case h_7 hph =>
    repeat' split
    · exact .cleanup (.inr (.inr (.inl hph)))
    · exact unstarted hobs (.inr hph)
    · exact listening cleanup (.inr (.inl hph))
  case h_8 hph => exact listening cleanup (.inl hph)
  case h_9 hph => exact listening cleanup (.inr (.inr hph))
  case h_10 hph =>
    refine .asked (fun hmax => input.attempt.applies_beginCleanup hmax ?_ hc) trivial
    simp [hph]
  case h_11 hph =>
    repeat' split
    all_goals first
      | exact advanceCleanup (by simp [hph]) trivial
      | exact .impossible
      | exact .other (by simp) trivial
      | exact .other (by simp) ⟨.inl hph, by simp_all⟩
  case h_12 hph => exact deregistering hph
  case h_13 hph => exact releasing hobs hph
  case h_14 =>
    repeat' split
    all_goals exact .other (by simp) trivial

theorem withoutEvent : Planned input (planWithoutEvent input) := by
  unfold planWithoutEvent
  simp only
  split
  · rename_i hph
    exact .asked (fun hmax => input.attempt.applies_completeUnprovisioned hmax hph.2) trivial
  · split
    · rename_i hph
      exact .asked (fun hmax => input.attempt.applies_beginCleanup hmax hph.2
        (fun hc => Option.isSome_iff_ne_none.mp (hobs.cloned hc))) trivial
    · exact phase hobs _

end Planned

end PlanProperties

/-! ## What the reconciler returns -/

section Returns

variable {input : DisposableWorkerReconcileInput} {action : DisposableWorkerAction}

/-- A job event that is to be persisted applies: it was tried and found to
change the revision. -/
theorem planJobEvent_eq_ok {event : ScaleSetJobEvent}
    (h : planJobEvent input.attempt event = .ok (some action)) :
    action = .persist (jobEventTransition event)
      ∧ input.attempt.Applies (jobEventTransition event) := by
  unfold planJobEvent validateTransition at h
  simp only [bind_eq_ok, mapError_eq_ok] at h
  obtain ⟨_, ⟨n, hn, hpr⟩, after, ha, h⟩ := h
  cases hpr
  have hp : input.attempt.perform (jobEventTransition event) = .ok after := by
    cases event <;> exact mapError_eq_ok.mp ha
  by_cases hr : after.revision ≠ input.attempt.revision
  · rw [if_pos hr] at h
    cases h
    refine ⟨rfl, applies_of_perform hp ?_⟩
    rintro rfl
    exact hr rfl
  · rw [if_neg hr] at h
    cases h

/-- **What the reconciler returns** is a block, a job event to persist, or
what the plan says about checked observations. -/
theorem reconcileAttempt_cases (h : reconcileAttempt input = .ok action) :
    (∃ code, action = .blocked code) ∨ (∃ event, action = .persist (jobEventTransition event)
        ∧ input.attempt.Applies (jobEventTransition event))
      ∨ (Observed input ∧ planWithoutEvent input = .ok action) := by
  unfold reconcileAttempt at h
  split at h
  · exact .inl ⟨_, (ok.inj h).symm⟩
  · rename_i hvm
    rw [guard_bind_eq_ok] at h
    obtain ⟨hob, h⟩ := h
    split at h
    · exact .inl ⟨_, (ok.inj h).symm⟩
    · rw [guard_bind_eq_ok] at h
      obtain ⟨ho, h⟩ := h
      split at h
      · exact .inl ⟨_, (ok.inj h).symm⟩
      · rename_i hc
        have hobs : Observed input := by
          unfold validateVmObservation at hob
          unfold validateRunnerObservation at ho
          rw [refuseIf_bind_eq_ok, refuseIf_eq_ok, not_not] at hob
          rw [refuseIf_eq_ok] at ho
          refine ⟨hvm, hob.1, ?_, ?_, ?_⟩
          · intro current hcur observed hobs
            by_contra hne
            exact hob.2 ⟨current, hcur, observed, hobs, hne⟩
          · intro runner hrnr
            constructor
            · by_contra hne
              exact ho ⟨runner, hrnr, .inl hne⟩
            · intro id hid
              by_contra hne
              exact ho ⟨runner, hrnr, .inr ⟨id, hid, hne⟩⟩
          · intro hph
            by_contra hn
            exact hc ⟨hph, by simpa using hn⟩
        split at h
        · rename_i event _
          rw [bind_eq_ok] at h
          obtain ⟨planned, hp, h⟩ := h
          split at h
          · obtain rfl := ok.inj h
            exact .inr (.inl ⟨event, planJobEvent_eq_ok hp⟩)
          · exact .inr (.inr ⟨hobs, h⟩)
        · exact .inr (.inr ⟨hobs, h⟩)

end Returns

/-- **Every requested transition is applicable and makes progress.** For
every reachable attempt and every combination of observations, job event,
capacity and cancellation: a transition the reconciler asks to persist is
accepted and raises the revision by exactly one. -/
theorem reconcileAttempt_persist_applies (input : DisposableWorkerReconcileInput)
    (hr : input.attempt.Reachable) (transition : DisposableAttemptCatalogAction)
    (h : reconcileAttempt input = .ok (.persist transition)) :
    ∃ n, applyAction input.attempt transition = .ok n
      ∧ n.revision.val = input.attempt.revision.val + 1 := by
  have hmax : input.attempt.revision.val < maxDisposableAttemptRevision :=
    lt_of_le_of_lt hr.budgeted.revision_le (by decide)
  obtain ⟨code, hb⟩ | ⟨event, hper, ha⟩ | ⟨hobs, hp⟩ :=
    reconcileAttempt_cases h
  · cases hb
  · cases hper
    exact ha
  · exact (Planned.withoutEvent hobs).asksForApplicable hmax transition hp

/-- A fresh reservation whose machine was observed absent is told to
authorise the clone, and the authorisation applies. -/
theorem reconcileAttempt_persist_applies_reservation :
    ∃ n, applyAction (.reserved ⟨"attempt-1", by decide⟩ ⟨"claim-1", by decide⟩
        ⟨"w-1", by decide⟩ ⟨"smolrunner-1", by decide⟩ ⟨41, by decide, by decide⟩
        ⟨21700000, by decide, by decide⟩) .authorizeClone = .ok n
      ∧ n.revision.val = 2 :=
  reconcileAttempt_persist_applies
    { now := ⟨100000, by decide, by decide⟩
      attempt := .reserved ⟨"attempt-1", by decide⟩ ⟨"claim-1", by decide⟩
        ⟨"w-1", by decide⟩ ⟨"smolrunner-1", by decide⟩ ⟨41, by decide, by decide⟩
        ⟨21700000, by decide, by decide⟩
      vm := .absent
      vmIdentity := none
      runner := .unknown
      jobEvent := none
      capacityReserved := true
      cancellationRequested := false }
    ⟨_, _, _, _, _, _, [], rfl⟩ .authorizeClone (by decide)

/-! ## No branch is wrongly marked impossible -/

section Unreachable

variable (input : DisposableWorkerReconcileInput)

/-- The failure is a refusal. -/
def IsRefusal (failure : ReconcileFailure) : Prop := failure ≠ .unreachable

theorem isRefusal_refused (error : FieldError) : IsRefusal (.refused error) := fun h => by cases h

theorem mapError_isRefusal {α : Type} (x : Except FieldError α) (f : FieldError → FieldError) :
    RefusesOnly IsRefusal (x.mapError (fun error => .refused (f error))) := by
  intro failure h
  cases x with
  | ok a => cases h
  | error e =>
    cases h
    exact isRefusal_refused _

theorem validateTransition_isRefusal (attempt : DisposableAttemptState)
    (transition : DisposableAttemptCatalogAction) :
    RefusesOnly IsRefusal (validateTransition attempt transition) :=
  .bind (mapError_isRefusal _ _) (fun _ => .ok)

theorem persistValidated_isRefusal (transition : DisposableAttemptCatalogAction) :
    RefusesOnly IsRefusal (persistValidated input transition) :=
  .bind (validateTransition_isRefusal _ _) (fun _ => .ok)

theorem planJobEvent_isRefusal (attempt : DisposableAttemptState)
    (event : ScaleSetJobEvent) : RefusesOnly IsRefusal (planJobEvent attempt event) := by
  intro failure h
  obtain h | ⟨transition, ht, h⟩ := bind_eq_error.mp h
  · exact validateTransition_isRefusal _ _ _ h
  · unfold validateTransition at ht
    simp only [bind_eq_ok] at ht
    obtain ⟨_, _, hp⟩ := ht
    cases hp
    obtain h | ⟨_, _, h⟩ := bind_eq_error.mp h
    · cases event <;> exact mapError_isRefusal _ _ _ h
    · cases h

/-- With observations that do not conflict, and capacity where a release is
pending, no plan reaches a branch marked impossible. -/
theorem planPhase_isRefusal (cleanup : Bool) (hvm : input.vm ≠ .conflicting)
    (hr : input.runner ≠ .conflicting)
    (hc : input.attempt.phase = .unprovisionedReleasing → input.capacityReserved = true) :
    RefusesOnly IsRefusal (planPhase input cleanup) := by
  unfold planPhase planUnstarted planStarted planListening planDeregistering planReleasing
  split <;> repeat' split
  all_goals first
    | exact .ok
    | exact persistValidated_isRefusal input _
    | (exfalso; simp_all)

theorem planWithoutEvent_isRefusal (hvm : input.vm ≠ .conflicting)
    (hr : input.runner ≠ .conflicting) :
    RefusesOnly IsRefusal (planWithoutEvent input) := by
  unfold planWithoutEvent
  simp only
  split
  · exact .ok
  · rename_i hc
    split
    · exact .ok
    · refine planPhase_isRefusal input _ hvm hr (fun hph => ?_)
      by_contra hl
      exact hc ⟨hl, .inr (.inr hph)⟩

/-- **The reconciler never reaches a branch marked impossible.** -/
theorem reconcileAttempt_ne_unreachable : reconcileAttempt input ≠ .error .unreachable := by
  suffices h : RefusesOnly IsRefusal (reconcileAttempt input) from
    fun heq => h _ heq rfl
  unfold reconcileAttempt validateVmObservation validateRunnerObservation
  split
  · exact .ok
  · rename_i hvm
    refine .bind (.bind (.refuseIf (isRefusal_refused _))
      (fun _ => .refuseIf (isRefusal_refused _))) (fun _ => ?_)
    split
    · exact .ok
    · rename_i hr
      have hp := planWithoutEvent_isRefusal input hvm hr
      refine .bind (.refuseIf (isRefusal_refused _)) (fun _ => ?_)
      split
      · exact .ok
      · split
        · refine .bind (planJobEvent_isRefusal _ _) (fun planned => ?_)
          split
          · exact .ok
          · exact hp
        · exact hp

end Unreachable

end Glaeda
