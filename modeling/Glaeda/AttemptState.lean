import Glaeda.Identity

/-!
# The durable attempt state

One disposable attempt is the whole life of one virtual machine and one
runner: capacity is reserved, a machine is cloned, a runner is registered
and started in it, a job is assigned, runs and ends, and everything is taken
down again. What has to survive a crash is kept in one small record – the
phase, a revision counter, and the evidence gathered so far.

The record is validated as a whole. Each phase admits some revisions and
some combinations of evidence only, and a transition builds the next record
and validates it before returning it. A `DisposableAttemptState` is
therefore **a record together with the proof that it validates**: no
transition, and no document read back, can produce any other.

The transitions are translated one by one. All but two of them end in
`advanceWith`, which raises the revision and replaces phase and job
evidence; the two checkpoint transitions and the binding of the machine
identity raise the revision and set one field.
-/

namespace Glaeda

open Checked

/-! ## Phases, revisions and errors -/

/-- **The phases of an attempt**, in the order the program lists them. -/
inductive DisposableAttemptPhase where
  | reserved
  | unprovisionedReleasing
  | provisioning
  | cloneAuthorized
  | cloneStarted
  | registering
  | waiting
  | assigned
  | running
  | terminal
  | destroying
  | deregistering
  | releasing
  | complete
deriving DecidableEq, Repr

/-- The version of an attempt. -/
def disposableAttemptStateSchemaVersion : Nat := 6

/-- The bound of a revision. -/
def maxDisposableAttemptRevision : Nat := 1000000000000

/-- How often an attempt was changed. -/
abbrev DisposableAttemptRevision := BoundedRevision maxDisposableAttemptRevision

variable (message : String)

/-- The document is not valid. -/
def invalidDocument : FieldError :=
  ⟨"document", "invalid_document", message⟩

/-- The phase does not allow it. -/
def invalidTransition : FieldError :=
  ⟨"phase", "invalid_transition", message⟩

/-- The name is another one. -/
def identityDrift : FieldError :=
  ⟨"identity", "identity_drift", message⟩

/-- The revisions have run out. -/
def revisionConflict : FieldError :=
  ⟨"revision", "revision_conflict", "disposable attempt revision cannot advance"⟩

namespace DisposableAttemptRevision

/-- A revision within its bounds. -/
def new : Nat → Except FieldError DisposableAttemptRevision :=
  BoundedRevision.new _ ⟨"revision", "invalid_revision",
    "disposable attempt revision is outside the bounded positive range"⟩

/-- The first revision. -/
def first : DisposableAttemptRevision := BoundedRevision.first (by decide)

/-- The revision after this one. -/
def next (r : DisposableAttemptRevision) : Except FieldError DisposableAttemptRevision :=
  BoundedRevision.new _ revisionConflict (r.val + 1)

/-- **The next revision is one larger**, and determined by that. -/
theorem next_eq_ok {r s : DisposableAttemptRevision} : r.next = .ok s ↔ s.val = r.val + 1 :=
  BoundedRevision.new_eq_ok

end DisposableAttemptRevision

/-! ## The record and its validation -/

/-- **The fields of an attempt**, before any of them is checked. -/
structure AttemptRecord where
  schemaVersion : Nat
  revision : DisposableAttemptRevision
  attemptId : DisposableAttemptId
  capacityClaimId : CapacityClaimId
  vmId : DisposableVmId
  vmIdentity : Option DisposableVmIdentity
  runnerName : ScaleSetRunnerName
  runnerRequestId : ScaleSetRunnerRequestId
  runnerId : Option ScaleSetRunnerId
  jitGenerationStarted : Bool
  runnerStartStarted : Bool
  phase : DisposableAttemptPhase
  githubJobId : Option ScaleSetJobId
  result : Option ScaleSetJobResult
  notAfter : EpochMillis
deriving DecidableEq, Repr

variable (r : AttemptRecord)

namespace AttemptRecord

/-- The revisions a phase can have. -/
def revisionShapeValid : DisposableAttemptPhase → Nat → Prop
  | .reserved, revision => revision = 1
  | .unprovisionedReleasing, revision => revision = 2 ∨ revision = 3
  | .cloneAuthorized, revision => revision = 2
  | .cloneStarted, revision => revision = 3 ∨ revision = 4
  | .provisioning, _ => False
  | .registering, revision => 5 ≤ revision ∧ revision ≤ 8
  | .waiting, revision => revision = 9
  | .assigned, revision => 6 ≤ revision ∧ revision ≤ 10
  | .running, revision => 9 ≤ revision ∧ revision ≤ 11
  | .terminal, revision => 5 ≤ revision ∧ revision ≤ 12
  | .destroying, revision => 5 ≤ revision
  | .deregistering, revision => 6 ≤ revision
  | .releasing, revision => 7 ≤ revision
  | .complete, revision => (2 ≤ revision ∧ revision ≤ 4) ∨ 8 ≤ revision

instance : ∀ phase revision, Decidable (revisionShapeValid phase revision)
  | .reserved, _ => inferInstanceAs (Decidable (_ = _))
  | .unprovisionedReleasing, _ => inferInstanceAs (Decidable (_ ∨ _))
  | .provisioning, _ => inferInstanceAs (Decidable False)
  | .cloneAuthorized, _ => inferInstanceAs (Decidable (_ = _))
  | .cloneStarted, _ => inferInstanceAs (Decidable (_ ∨ _))
  | .registering, _ => inferInstanceAs (Decidable (_ ∧ _))
  | .waiting, _ => inferInstanceAs (Decidable (_ = _))
  | .assigned, _ => inferInstanceAs (Decidable (_ ∧ _))
  | .running, _ => inferInstanceAs (Decidable (_ ∧ _))
  | .terminal, _ => inferInstanceAs (Decidable (_ ∧ _))
  | .destroying, _ => inferInstanceAs (Decidable (_ ≤ _))
  | .deregistering, _ => inferInstanceAs (Decidable (_ ≤ _))
  | .releasing, _ => inferInstanceAs (Decidable (_ ≤ _))
  | .complete, _ => inferInstanceAs (Decidable (_ ∨ _))

/-- There is evidence of a runner or a job. -/
abbrev carriesRunnerOrJob : Prop :=
  r.runnerId.isSome ∨ r.jitGenerationStarted ∨ r.runnerStartStarted
    ∨ r.githubJobId.isSome ∨ r.result.isSome

/-- The revision and the three registration facts, as the phases that walk
through the registration compare them. -/
def registrationHistory : Nat × Bool × Bool × Bool :=
  (r.revision.val, r.jitGenerationStarted, r.runnerId.isSome, r.runnerStartStarted)

/-- The evidence is that of the phase. -/
def validateEvidence : Except FieldError Unit :=
  match r.phase with
  | .reserved | .unprovisionedReleasing | .cloneAuthorized =>
    refuseIf (r.vmIdentity.isSome ∨ r.carriesRunnerOrJob)
      (invalidDocument "pre-clone attempt cannot carry VM, runner, or job evidence")
  | .cloneStarted =>
    refuseIf (¬ (r.revision.val = 3 ↔ r.vmIdentity.isNone) ∨ r.carriesRunnerOrJob)
      (invalidDocument
        "clone-started attempt has inconsistent VM, runner, or job evidence")
  | .provisioning =>
    .error (invalidDocument
      "legacy provisioning phase is unsupported by the current schema")
  | .registering =>
    refuseIf (r.vmIdentity.isNone ∨ r.githubJobId.isSome ∨ r.result.isSome
        ∨ (r.runnerId.isSome ∧ ¬ r.jitGenerationStarted)
        ∨ r.registrationHistory ∉
          [(5, false, false, false), (6, true, false, false),
            (7, true, true, false), (8, true, true, true)])
      (invalidDocument
        "registering attempt requires VM identity and no job terminal evidence")
  | .waiting =>
    refuseIf (r.vmIdentity.isNone ∨ r.runnerId.isNone ∨ ¬ r.jitGenerationStarted
        ∨ ¬ r.runnerStartStarted ∨ r.githubJobId.isSome ∨ r.result.isSome)
      (invalidDocument
        "waiting attempt requires exact VM and runner identities and no assigned job")
  | .assigned =>
    refuseIf (r.vmIdentity.isNone ∨ r.githubJobId.isNone ∨ r.result.isSome
        ∨ (r.runnerId.isSome ∧ ¬ r.jitGenerationStarted)
        ∨ r.registrationHistory ∉
          [(6, false, false, false), (7, true, false, false), (8, true, true, false),
            (9, true, true, true), (10, true, true, true)])
      (invalidDocument
        "assigned attempt requires exact VM and job identities without terminal result")
  | .running =>
    refuseIf (r.vmIdentity.isNone ∨ r.runnerId.isNone ∨ r.githubJobId.isNone
        ∨ ¬ r.jitGenerationStarted ∨ ¬ r.runnerStartStarted ∨ r.result.isSome)
      (invalidDocument "running attempt requires exact VM, runner, and job identities")
  | .terminal =>
    refuseIf (r.vmIdentity.isNone ∨ r.githubJobId.isNone ∨ r.result.isNone)
      (invalidDocument
        "terminal attempt requires exact VM and job identities and result")
  | .destroying | .deregistering | .releasing =>
    refuseIf (r.vmIdentity.isNone = true)
      (invalidDocument "provisioned cleanup requires exact durable VM identity")
  | .complete => .ok ()

/-- **The validation of a record.** The facts that hold in every phase come
first, then the revision, then the evidence of the phase, and last the two
ways an attempt completes: without a machine, or after taking one down. -/
def validate : Except FieldError Unit := do
  refuseIf (r.schemaVersion ≠ disposableAttemptStateSchemaVersion)
    ⟨"schema_version", "version_incompatible",
      "disposable attempt schema version is unsupported"⟩
  refuseIf (r.result.isSome ∧ r.githubJobId.isNone)
    (invalidDocument "terminal result requires an exact Scale Set job identity")
  refuseIf (r.runnerStartStarted
      ∧ (¬ r.jitGenerationStarted ∨ r.vmIdentity.isNone ∨ r.runnerId.isNone))
    (invalidDocument
      "runner-start checkpoint requires JIT, VM, and runner identity evidence")
  refuseIf (r.jitGenerationStarted ∧ r.vmIdentity.isNone)
    (invalidDocument "JIT checkpoint requires exact VM identity evidence")
  refuseIf (r.runnerId.isSome ∧ ¬ r.jitGenerationStarted)
    (invalidDocument "runner identity requires the durable JIT checkpoint")
  refuseIf (∃ result ∈ r.result, ¬ r.runnerStartStarted ∧ result.value ≠ "canceled")
    (invalidDocument "pre-start terminal evidence must be cancellation")
  refuseIf (¬ revisionShapeValid r.phase r.revision.val)
    (invalidDocument "attempt phase conflicts with its durable revision history")
  r.validateEvidence
  refuseIf (r.phase = .complete ∧ r.revision.val ≤ 4
      ∧ (r.vmIdentity.isSome ∨ r.carriesRunnerOrJob))
    (invalidDocument
      "unprovisioned completion cannot carry external job or runner evidence")
  refuseIf (r.phase = .complete ∧ 4 < r.revision.val ∧ r.vmIdentity.isNone)
    (invalidDocument "provisioned completion requires exact durable VM identity")

end AttemptRecord

/-- **A durable attempt**: a record that validates. -/
structure DisposableAttemptState extends AttemptRecord where
  valid : toAttemptRecord.validate = .ok ()
deriving DecidableEq, Repr

namespace DisposableAttemptState

/-- An attempt that passes its checks. -/
def accept : Except FieldError DisposableAttemptState :=
  match h : r.validate with
  | .ok () => .ok ⟨r, h⟩
  | .error e => .error e

/-- **An accepted attempt is the record that was accepted.** -/
theorem accept_eq_ok {r : AttemptRecord} {s : DisposableAttemptState} :
    accept r = .ok s ↔ s.toAttemptRecord = r := by
  unfold accept
  constructor
  · intro h
    split at h <;> simp at h
    rw [← h]
  · intro h
    subst h
    split
    · rfl
    · rename_i e he
      rw [s.valid] at he
      cases he

theorem accept_eq_error {r : AttemptRecord} {e : FieldError} :
    accept r = .error e ↔ r.validate = .error e := by
  unfold accept
  split
  · rename_i h
    simp [h]
  · rename_i e' h
    simp [h]

/-! ## The transitions -/

section Transitions

variable (s : DisposableAttemptState)

/-- **The reservation**, before any external object exists. -/
def reserved (attemptId : DisposableAttemptId) (capacityClaimId : CapacityClaimId)
    (vmId : DisposableVmId) (runnerName : ScaleSetRunnerName)
    (runnerRequestId : ScaleSetRunnerRequestId) (notAfter : EpochMillis) :
    DisposableAttemptState where
  schemaVersion := disposableAttemptStateSchemaVersion
  revision := .first
  attemptId := attemptId
  capacityClaimId := capacityClaimId
  vmId := vmId
  vmIdentity := none
  runnerName := runnerName
  runnerRequestId := runnerRequestId
  runnerId := none
  jitGenerationStarted := false
  runnerStartStarted := false
  phase := .reserved
  githubJobId := none
  result := none
  notAfter := notAfter
  valid := rfl

/-- Raise the revision, replace phase, runner and job evidence, and accept
the record. -/
def advanceWith (phase : DisposableAttemptPhase) (runnerId : Option ScaleSetRunnerId)
    (githubJobId : Option ScaleSetJobId) (result : Option ScaleSetJobResult) :
    Except FieldError DisposableAttemptState := do
  let revision ← s.revision.next
  accept { s.toAttemptRecord with revision, runnerId, phase, githubJobId, result }

/-- From one phase to another. -/
def advancePhase (expected phase : DisposableAttemptPhase) :
    Except FieldError DisposableAttemptState := do
  refuseIf (s.phase ≠ expected)
    (invalidTransition "attempt phase does not match the required predecessor")
  s.advanceWith phase s.runnerId s.githubJobId s.result

variable (runner : ScaleSetRunnerReference)

/-- The runner is the one of the attempt. -/
def validateRunner : Except FieldError ScaleSetRunnerId := do
  refuseIf (runner.name ≠ s.runnerName)
    (identityDrift "observed runner name differs from the prechosen durable runner name")
  refuseIf (∃ current ∈ s.runnerId, current ≠ runner.id)
    (identityDrift "observed runner ID differs from the durable runner ID")
  return runner.id

/-- The job is the one of the attempt. -/
def validateJob (jobId : ScaleSetJobId) : Except FieldError Unit :=
  refuseIf (∃ current ∈ s.githubJobId, current ≠ jobId)
    (identityDrift "observed Scale Set job ID differs from the durable job ID")

/-- A machine may have been made. -/
def hasCloneStartedHistory : Bool :=
  match s.phase with
  | .cloneStarted | .registering | .waiting | .assigned | .running | .terminal => true
  | .destroying => 5 ≤ s.revision.val
  | .deregistering => 6 ≤ s.revision.val
  | .releasing => 7 ≤ s.revision.val
  | .complete => 8 ≤ s.revision.val
  | .reserved | .unprovisionedReleasing | .provisioning | .cloneAuthorized => false

/-- Refused: attempts are cloned now. -/
def beginProvisioning (_s : DisposableAttemptState) : Except FieldError DisposableAttemptState :=
  .error (invalidTransition
    "legacy provisioning cannot advance a current-schema attempt")

/-- The machine may be cloned. -/
def authorizeClone : Except FieldError DisposableAttemptState :=
  s.advancePhase .reserved .cloneAuthorized

/-- The clone is about to be made. -/
def recordCloneStarted : Except FieldError DisposableAttemptState :=
  s.advancePhase .cloneAuthorized .cloneStarted

/-- **Bind the identity of the machine** right after the clone succeeded. -/
def bindVmIdentityAfterClone (identity : DisposableVmIdentity) :
    Except FieldError DisposableAttemptState := do
  refuseIf (s.phase ≠ .cloneStarted ∨ s.revision.val ≠ 3 ∨ s.vmIdentity.isSome)
    (invalidTransition "VM identity can bind only to the first clone-started checkpoint")
  let revision ← s.revision.next
  accept { s.toAttemptRecord with revision, vmIdentity := some identity }

/-- Release without a machine. -/
def beginUnprovisionedRelease : Except FieldError DisposableAttemptState :=
  match s.phase with
  | .reserved | .cloneAuthorized => s.advanceWith .unprovisionedReleasing none none none
  | _ => .error (invalidTransition
      "only an attempt that has not started cloning may release without VM cleanup")

/-- Released without a machine. -/
def completeUnprovisioned : Except FieldError DisposableAttemptState :=
  match s.phase with
  | .reserved | .cloneAuthorized | .unprovisionedReleasing =>
    s.advanceWith .complete none none none
  | _ => .error (invalidTransition
      "only an unprovisioned attempt may complete without cleanup")

/-- The machine is there. -/
def beginRegistration : Except FieldError DisposableAttemptState :=
  s.advancePhase .cloneStarted .registering

/-- A registration is about to be asked for. -/
def recordJitGenerationStarted : Except FieldError DisposableAttemptState := do
  refuseIf (¬ (s.phase = .registering ∨ s.phase = .assigned) ∨ s.runnerId.isSome)
    (invalidTransition "JIT generation requires an unbound registering attempt")
  if s.jitGenerationStarted then
    return s
  let revision ← s.revision.next
  accept { s.toAttemptRecord with revision, jitGenerationStarted := true }

/-- The runner is registered. -/
def recordRegistration : Except FieldError DisposableAttemptState := do
  refuseIf (¬ (s.phase = .registering ∨ s.phase = .assigned ∨ s.phase = .destroying
      ∨ s.phase = .deregistering ∨ s.phase = .releasing))
    (invalidTransition
      "runner registration can only be recorded while registering or cleaning up")
  refuseIf (¬ s.jitGenerationStarted)
    (invalidTransition "runner registration requires the durable JIT checkpoint")
  let runnerId ← s.validateRunner runner
  if s.runnerId = some runnerId then
    return s
  s.advanceWith s.phase (some runnerId) s.githubJobId s.result

/-- The runner is about to be started. -/
def recordRunnerStartStarted : Except FieldError DisposableAttemptState := do
  refuseIf (¬ (s.phase = .registering ∨ s.phase = .assigned)
      ∨ ¬ s.jitGenerationStarted ∨ s.runnerId.isNone)
    (invalidTransition
      "runner start requires a checkpointed JIT request and exact registration")
  if s.runnerStartStarted then
    return s
  let revision ← s.revision.next
  accept { s.toAttemptRecord with revision, runnerStartStarted := true }

/-- The runner is ready. -/
def recordRunnerReady : Except FieldError DisposableAttemptState := do
  let runnerId ← s.validateRunner runner
  refuseIf (¬ s.runnerStartStarted)
    (invalidTransition "runner readiness requires the durable runner-start checkpoint")
  let refusal := invalidTransition
    "runner readiness cannot advance the current attempt phase"
  match s.phase with
  | .registering => s.advanceWith .waiting (some runnerId) none none
  | .assigned =>
    if s.runnerId.isNone then
      s.advanceWith .assigned (some runnerId) s.githubJobId none
    else if s.runnerId = some runnerId then return s
    else throw refusal
  | .waiting | .running | .terminal =>
    if s.runnerId = some runnerId then return s else throw refusal
  | _ => throw refusal

/-- The runner got its job. -/
def recordAssigned (jobId : ScaleSetJobId) : Except FieldError DisposableAttemptState := do
  s.validateJob jobId
  let refusal := invalidTransition "job assignment cannot advance the current attempt phase"
  match s.phase with
  | .registering | .waiting => s.advanceWith .assigned s.runnerId (some jobId) none
  | .assigned | .running | .terminal =>
    if s.githubJobId = some jobId then return s else throw refusal
  | _ => throw refusal

/-- The job started on the runner. In the cleanup phases this is late
evidence: it is recorded without leaving the phase. -/
def recordRunning (jobId : ScaleSetJobId) : Except FieldError DisposableAttemptState := do
  let runnerId ← s.validateRunner runner
  refuseIf (¬ s.runnerStartStarted)
    (invalidTransition "job start requires the durable runner-start checkpoint")
  s.validateJob jobId
  let bound : Prop := s.runnerId = some runnerId ∧ s.githubJobId = some jobId
  let refusal := invalidTransition "job start cannot advance the current attempt phase"
  match s.phase with
  | .registering | .waiting | .assigned =>
    s.advanceWith .running (some runnerId) (some jobId) none
  | .running | .terminal => if bound then return s else throw refusal
  | .destroying | .deregistering | .releasing | .complete =>
    refuseIf (s.githubJobId.isNone ∧ ¬ s.hasCloneStartedHistory)
      (invalidTransition "late job evidence requires a durable clone-start checkpoint")
    if s.result.isSome then
      if bound then return s
      else throw (identityDrift "late job start conflicts with terminal cleanup evidence")
    else if bound then return s
    else s.advanceWith s.phase (some runnerId) (some jobId) none
  | _ => throw refusal

variable (phase : DisposableAttemptPhase)

/-- A phase of the cleanup. -/
def isCleanup : Prop :=
  phase = .destroying ∨ phase = .deregistering ∨ phase = .releasing ∨ phase = .complete

instance (phase : DisposableAttemptPhase) : Decidable (isCleanup phase) :=
  inferInstanceAs (Decidable (_ ∨ _))

/-- The runner, if one was seen. -/
def observeRunner : Option ScaleSetRunnerReference → Except FieldError (Option ScaleSetRunnerId)
  | some value => some <$> s.validateRunner value
  | none => .ok none

/-- The runner recorded with the end of the job: the bound one, or the
observed one when none is bound. -/
def terminalRunner (observedRunnerId : Option ScaleSetRunnerId) :
    Except FieldError (Option ScaleSetRunnerId) :=
  match s.runnerId, observedRunnerId with
  | some current, some observed =>
    if current ≠ observed then
      .error (identityDrift "terminal runner identity differs from the bound runner")
    else .ok (some current)
  | some current, none => .ok (some current)
  | none, observed => .ok observed

/-- **The job ended.** The runner may be unknown only when the job is
already bound. In the cleanup phases the evidence is late and recorded
without leaving the phase. -/
def recordTerminal (runner : Option ScaleSetRunnerReference) (jobId : ScaleSetJobId)
    (result : ScaleSetJobResult) : Except FieldError DisposableAttemptState := do
  let observedRunnerId ← s.observeRunner runner
  s.validateJob jobId
  refuseIf (observedRunnerId.isNone ∧ s.githubJobId.isNone)
    (identityDrift "runnerless terminal evidence requires an already-bound job identity")
  match s.result with
  | some currentResult =>
    if s.githubJobId = some jobId ∧ currentResult = result
        ∧ (∀ id ∈ observedRunnerId, s.runnerId = some id) then return s
    else throw (identityDrift
      "terminal evidence conflicts with the bound disposable attempt")
  | none =>
    refuseIf (s.phase = .terminal)
      (identityDrift "terminal attempt is missing its validated result")
    refuseIf (isCleanup s.phase ∧ s.githubJobId.isNone ∧ ¬ s.hasCloneStartedHistory)
      (invalidTransition
        "late terminal evidence requires a durable clone-start checkpoint")
    refuseIf (¬ isCleanup s.phase ∧ ¬ (s.phase = .cloneStarted ∨ s.phase = .registering
        ∨ s.phase = .waiting ∨ s.phase = .assigned ∨ s.phase = .running))
      (invalidTransition "terminal evidence cannot advance the current attempt phase")
    let runnerId ← s.terminalRunner observedRunnerId
    s.advanceWith (if isCleanup s.phase then s.phase else .terminal)
      runnerId (some jobId) (some result)

/-- The attempt is to be cleaned up. -/
def beginCleanup : Except FieldError DisposableAttemptState :=
  match s.phase with
  | .reserved | .cloneAuthorized | .unprovisionedReleasing | .provisioning =>
    .error (invalidTransition
      "cleanup requires durable clone or later external-object authority")
  | .cloneStarted | .registering | .waiting | .assigned | .running | .terminal =>
    s.advanceWith .destroying s.runnerId s.githubJobId s.result
  | .destroying | .deregistering | .releasing | .complete => .ok s

/-- Move through the cleanup phases. Naming the phase the attempt is already
in changes nothing, whatever that phase is. -/
def advanceCleanup : Except FieldError DisposableAttemptState := do
  if s.phase = phase then
    return s
  refuseIf ((s.phase, phase) ∉ [(.destroying, .deregistering),
      (.deregistering, .releasing), (.releasing, .complete)])
    (invalidTransition "cleanup phase does not follow the durable attempt order")
  s.advanceWith phase s.runnerId s.githubJobId s.result

end Transitions

end DisposableAttemptState

/-! ## Actions -/

/-- **The actions a caller may ask for**, one per public transition. The
binding of the machine identity is not among them: only the clone runtime
performs it. -/
inductive DisposableAttemptCatalogAction where
  | beginProvisioning
  | authorizeClone
  | recordCloneStarted
  | beginUnprovisionedRelease
  | completeUnprovisioned
  | beginRegistration
  | recordJitGenerationStarted
  | recordRegistration (runner : ScaleSetRunnerReference)
  | recordRunnerStartStarted
  | recordRunnerReady (runner : ScaleSetRunnerReference)
  | recordAssigned (jobId : ScaleSetJobId)
  | recordRunning (runner : ScaleSetRunnerReference) (jobId : ScaleSetJobId)
  | recordTerminal (runner : Option ScaleSetRunnerReference) (jobId : ScaleSetJobId)
      (result : ScaleSetJobResult)
  | beginCleanup
  | advanceCleanup (phase : DisposableAttemptPhase)
deriving DecidableEq, Repr

namespace DisposableAttemptState

/-- The transition an action stands for. The catalog and the reconciler both
dispatch on actions this way and differ in how they report a refusal. -/
def perform (s : DisposableAttemptState) :
    DisposableAttemptCatalogAction → Except FieldError DisposableAttemptState
  | .beginProvisioning => s.beginProvisioning
  | .authorizeClone => s.authorizeClone
  | .recordCloneStarted => s.recordCloneStarted
  | .beginUnprovisionedRelease => s.beginUnprovisionedRelease
  | .completeUnprovisioned => s.completeUnprovisioned
  | .beginRegistration => s.beginRegistration
  | .recordJitGenerationStarted => s.recordJitGenerationStarted
  | .recordRegistration runner => s.recordRegistration runner
  | .recordRunnerStartStarted => s.recordRunnerStartStarted
  | .recordRunnerReady runner => s.recordRunnerReady runner
  | .recordAssigned jobId => s.recordAssigned jobId
  | .recordRunning runner jobId => s.recordRunning runner jobId
  | .recordTerminal runner jobId result => s.recordTerminal runner jobId result
  | .beginCleanup => s.beginCleanup
  | .advanceCleanup phase => s.advanceCleanup phase

/-- **The successor check** a store makes on two attempts it did not derive
itself: the arguments of the transition are guessed from the later attempt,
and every transition is tried with them. -/
def isExactSuccessorOf (self current : DisposableAttemptState) : Bool :=
  let isSelf (candidate : Except FieldError DisposableAttemptState) : Bool :=
    candidate = .ok self
  let runner := self.runnerId.map (fun id => ScaleSetRunnerReference.mk id self.runnerName)
  isSelf current.authorizeClone
    || isSelf current.recordCloneStarted
    || isSelf current.beginUnprovisionedRelease
    || isSelf current.completeUnprovisioned
    || isSelf current.beginRegistration
    || isSelf current.recordJitGenerationStarted
    || isSelf current.recordRunnerStartStarted
    || isSelf current.beginCleanup
    || isSelf (current.advanceCleanup self.phase)
    || runner.any (fun runner =>
      isSelf (current.recordRegistration runner) || isSelf (current.recordRunnerReady runner))
    || self.githubJobId.any (fun jobId =>
      isSelf (current.recordAssigned jobId)
        || runner.any (fun runner => isSelf (current.recordRunning runner jobId))
        || self.result.any (fun result =>
          isSelf (current.recordTerminal none jobId result)
            || runner.any (fun runner =>
              isSelf (current.recordTerminal (some runner) jobId result))))

end DisposableAttemptState

end Glaeda
