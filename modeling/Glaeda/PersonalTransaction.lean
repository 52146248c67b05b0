import Glaeda.PersonalPublication

/-!
# Mutations of the personal worker store

Everything that happens to the queue of the personal worker is one of eleven
mutations. A mutation is computed from the current document, advances its
revision and its queue generation by one, and is published if the store
still holds the document it was computed from.

A caller that does not know whether its mutation was applied repeats it. Each
kind recognizes its own repetition by the evidence it left behind – the
request in the queue, the admission of the active one, the tombstone of the
ended one, the time of an observation – so that **a repeated mutation is a
duplicate and changes nothing** (`mutation_repeated`).

Each kind is one function from the document to the change it makes, or to
none where it finds itself repeated; the activity and the observation are
recorded for all of them in the same way afterwards.
-/

namespace Glaeda

open Checked Transaction List Option KeyedList Except Tx PersonalWorkerQueueInput
  PersonalWorkerStore

/-! ## Mutations and their errors -/

/-- **The mutations.** -/
inductive PersonalWorkerStoreMutation where
  | submit (request : PersonalWorkerJobRequest) (observedAt : EpochMillis)
  | cancel (requestId : ExecutionRequestId) (cancelledAt : EpochMillis)
      (drainingAdmission : Option ExecutionAdmissionRecord)
  | recordReservationAndAcquireCacheLease (requestId : ExecutionRequestId)
      (admission : ExecutionAdmissionRecord) (cacheLease : PersonalWorkerDurableCacheLease)
  | markStarting (requestId : ExecutionRequestId) (admission : ExecutionAdmissionRecord)
      (startedAt : EpochMillis)
  | markRunning (requestId : ExecutionRequestId) (admission : ExecutionAdmissionRecord)
  | markDraining (requestId : ExecutionRequestId) (admission : ExecutionAdmissionRecord)
  | releaseCompletionAndCacheLease (requestId : ExecutionRequestId)
      (terminalAdmission : ExecutionAdmissionRecord)
  | setProfileIntent (target : PersonalWorkerProfile) (requestedAt observedAt : EpochMillis)
  | cancelProfileIntent (observedAt : EpochMillis)
  | observeProfile (profile : PersonalWorkerProfile) (observedAt : EpochMillis)
  | updateLastActivity (lastActivityAt observedAt : EpochMillis)
deriving DecidableEq, Repr

/-- The kinds of change. -/
inductive PersonalWorkerStoreMutationClass where
  | submit | cancel | recordReservationAndAcquireCacheLease | markStarting | markRunning
  | markDraining | releaseCompletionAndCacheLease | setProfileIntent | cancelProfileIntent
  | observeProfile | updateLastActivity
deriving DecidableEq, Repr

/-- The kind of a change. -/
def PersonalWorkerStoreMutation.mutationClass :
    PersonalWorkerStoreMutation → PersonalWorkerStoreMutationClass
  | .submit .. => .submit
  | .cancel .. => .cancel
  | .recordReservationAndAcquireCacheLease .. => .recordReservationAndAcquireCacheLease
  | .markStarting .. => .markStarting
  | .markRunning .. => .markRunning
  | .markDraining .. => .markDraining
  | .releaseCompletionAndCacheLease .. => .releaseCompletionAndCacheLease
  | .setProfileIntent .. => .setProfileIntent
  | .cancelProfileIntent .. => .cancelProfileIntent
  | .observeProfile .. => .observeProfile
  | .updateLastActivity .. => .updateLastActivity

/-- The kinds of refusal. -/
inductive PersonalWorkerStoreMutationErrorKind where
  | missingState | staleRevision | staleQueueGeneration | notFound | conflict | capacityReached
  | invalidMutation | busy | io | unsafeFilesystem | versionIncompatible | corruptState
deriving DecidableEq, Repr

/-- A refusal, with its text. -/
structure PersonalWorkerStoreMutationError where
  kind : PersonalWorkerStoreMutationErrorKind
  publicMessage : String
deriving DecidableEq, Repr

namespace PersonalWorkerStoreMutationError

/-- The change is not valid. -/
def invalid (message : String) : PersonalWorkerStoreMutationError := ⟨.invalidMutation, message⟩

/-- The change does not go with the document. -/
def conflict (message : String) : PersonalWorkerStoreMutationError := ⟨.conflict, message⟩

/-- There is no such request. -/
def notFound : PersonalWorkerStoreMutationError :=
  ⟨.notFound, "personal worker mutation target does not exist"⟩

end PersonalWorkerStoreMutationError

open PersonalWorkerStoreMutationError

/-- A refusal of the store, as a change gives it. -/
def mapStoreError (error : PersonalWorkerStoreError) : PersonalWorkerStoreMutationError :=
  match error.kind with
  | .revisionConflict =>
    ⟨.staleRevision, "durable personal worker state changed before mutation publication"⟩
  | .busy => ⟨.busy, "durable personal worker state is busy"⟩
  | .missing => ⟨.missingState, "durable personal worker state does not exist"⟩
  | .io => ⟨.io, "durable personal worker mutation could not be read or published"⟩
  | .unsafeFilesystem =>
    ⟨.unsafeFilesystem, "durable personal worker state contains an unsafe filesystem object"⟩
  | .versionIncompatible => ⟨.versionIncompatible,
      "durable personal worker state schema is incompatible; explicit migration is required"⟩
  | .corruptState =>
    ⟨.corruptState, "durable personal worker state is corrupt or noncanonical"⟩
  | .invalidDocument =>
    invalid "personal worker mutation does not produce a valid durable document"

/-! ## What each mutation changes -/

/-- **A change** of the queue and what belongs to it: when it was observed,
and the activity it is, if it is one. -/
structure MutationChange where
  queue : PersonalWorkerQueueInput
  leases : List PersonalWorkerDurableCacheLease
  terminalTombstones : List PersonalWorkerTerminalTombstone
  observedAt : EpochMillis
  activityAt : Option EpochMillis
deriving DecidableEq, Repr

/-- A change, or nothing to change, or a refusal. -/
abbrev MutationResult := Except PersonalWorkerStoreMutationError (Option MutationChange)

variable (queue : PersonalWorkerQueueInput)

namespace PersonalWorkerQueueInput

variable (requestId : ExecutionRequestId)

/-- Where a request waits. -/
def queuedAt : Option (List PersonalWorkerJobRequest × PersonalWorkerJobRequest
      × List PersonalWorkerJobRequest) :=
  KeyedList.split PersonalWorkerJobRequest.id requestId queue.queued

/-- Where a request is active. -/
def activeAt : Option (List PersonalWorkerActiveReservation × PersonalWorkerActiveReservation
      × List PersonalWorkerActiveReservation) :=
  KeyedList.split PersonalWorkerActiveReservation.id requestId queue.active

end PersonalWorkerQueueInput

namespace PersonalWorkerStoreDocument

variable (d : PersonalWorkerStoreDocument)

/-- A change of the queue alone. -/
def changeQueue (queue : PersonalWorkerQueueInput) (observedAt : EpochMillis)
    (activityAt : Option EpochMillis) : MutationChange where
  queue := queue
  leases := d.cacheLeases
  terminalTombstones := d.terminalTombstones
  observedAt := observedAt
  activityAt := activityAt

variable (requestId : ExecutionRequestId)

/-- A request, waiting or active. -/
def findLive : Option PersonalWorkerJobRequest :=
  (KeyedList.lookup PersonalWorkerJobRequest.id requestId d.queue.queued).or
    (KeyedList.lookup PersonalWorkerJobRequest.id requestId
      (d.queue.active.map PersonalWorkerActiveReservation.request))

/-- **A request is submitted.** -/
def submit (request : PersonalWorkerJobRequest) (observedAt : EpochMillis) : MutationResult := do
  refuseIf (∃ tombstone ∈ d.terminalTombstones, tombstone.id = request.id)
    (conflict "personal worker request identity already has durable terminal evidence")
  match d.findLive request.id with
  | some existing => do
    refuseIf (existing ≠ request)
      (conflict "personal worker request identity is already bound to different semantics")
    return none
  | none => do
    refuseIf (d.queue.queued.length ≥ maxPersonalWorkerQueueEntries)
      ⟨.capacityReached, "personal worker queue has reached its accepted capacity"⟩
    return some (d.changeQueue { d.queue with queued := d.queue.queued ++ [request] } observedAt
      (some observedAt))

/-- The request was cancelled at another time. -/
def cancellationBound : PersonalWorkerStoreMutationError :=
  conflict "personal worker cancellation identity is already bound to different evidence"

variable (pre : List PersonalWorkerJobRequest)

/-- A waiting request is cancelled. -/
def cancelQueued (request : PersonalWorkerJobRequest)
    (after : List PersonalWorkerJobRequest) (cancelledAt : EpochMillis)
    (drainingAdmission : Option ExecutionAdmissionRecord) : MutationResult := do
  refuseIf drainingAdmission.isSome
    (invalid "queued cancellation must not include active drain evidence")
  match request.cancellation with
  | .active => do
    let cancelled := { request with cancellation := .cancelled cancelledAt }
    return some (d.changeQueue { d.queue with queued := pre ++ cancelled :: after } cancelledAt
      (some cancelledAt))
  | .cancelled existing => do
    refuseIf (existing ≠ cancelledAt) cancellationBound
    return none

/-- The record after a step. -/
def transitioned (active : PersonalWorkerActiveReservation) (next : ExecutionAdmissionRecord)
    (message : String) :
    Except PersonalWorkerStoreMutationError ExecutionAdmissionRecord := do
  let transition ← (active.admission.planTransition next).mapError (fun _ => invalid message)
  return transition.resultingRecord

/-- An active request is cancelled. -/
def cancelActive (before : List PersonalWorkerActiveReservation)
    (active : PersonalWorkerActiveReservation) (after : List PersonalWorkerActiveReservation)
    (cancelledAt : EpochMillis) (drainingAdmission : Option ExecutionAdmissionRecord) :
    MutationResult := do
  let next ← okOr drainingAdmission
    (invalid "active cancellation requires exact draining admission evidence")
  refuseIf (next.state ≠ .draining) (invalid "active cancellation admission must be draining")
  if active.request.cancellation = .cancelled cancelledAt ∧ active.admission = next then
    return none
  else do
    refuseIf (active.request.cancellation.isCancelled
      ∧ active.request.cancellation ≠ .cancelled cancelledAt) cancellationBound
    let admission ← transitioned active next
      "active cancellation violates admission transition ordering"
    let cancelled : PersonalWorkerActiveReservation := { active with
      request := { active.request with cancellation := .cancelled cancelledAt }
      admission := admission }
    return some (d.changeQueue { d.queue with active := before ++ cancelled :: after }
      admission.observedAt (some cancelledAt))

/-- **A request is cancelled.** -/
def cancel (cancelledAt : EpochMillis)
    (drainingAdmission : Option ExecutionAdmissionRecord) : MutationResult :=
  match d.queue.queuedAt requestId with
  | some (before, request, after) =>
    d.cancelQueued before request after cancelledAt drainingAdmission
  | none =>
    match d.queue.activeAt requestId with
    | some (before, active, after) =>
      d.cancelActive before active after cancelledAt drainingAdmission
    | none => .error notFound

/-- A waiting request becomes active. -/
def reserveQueued (request : PersonalWorkerJobRequest)
    (after : List PersonalWorkerJobRequest) (requestId : ExecutionRequestId)
    (admission : ExecutionAdmissionRecord) (cacheLease : PersonalWorkerDurableCacheLease) :
    MutationResult := do
  refuseIf request.cancellation.isCancelled
    (invalid "cancelled queued work cannot acquire a reservation")
  refuseIf (admission.identity ≠ request.identity ∨ cacheLease.requestId ≠ requestId)
    (conflict "reservation mutation identity does not match the queued request")
  return some
    { queue := { d.queue with
        queued := pre ++ after
        active := d.queue.active ++ [⟨request, admission, none⟩] }
      leases := d.cacheLeases ++ [cacheLease]
      terminalTombstones := d.terminalTombstones
      observedAt := admission.observedAt
      activityAt := some admission.observedAt }

variable (admission : ExecutionAdmissionRecord)

/-- **A request is reserved**, and its cache leased. -/
def recordReservationAndAcquireCacheLease (cacheLease : PersonalWorkerDurableCacheLease) :
    MutationResult := do
  refuseIf (admission.state ≠ .reserved)
    (invalid "reservation mutation requires reserved admission evidence")
  match d.queue.activeAt requestId with
  | some (_, active, _) => do
    let exactLease :=
      KeyedList.lookup PersonalWorkerDurableCacheLease.requestId requestId d.cacheLeases
    refuseIf (¬ (active.admission = admission ∧ active.startedAt = none
        ∧ exactLease = some cacheLease))
      (conflict "personal worker reservation identity is already bound to different evidence")
    return none
  | none =>
    match d.queue.queuedAt requestId with
    | some (before, request, after) =>
      d.reserveQueued before request after requestId admission cacheLease
    | none => .error notFound

/-- **A request starts.** -/
def markStarting (startedAt : EpochMillis) : MutationResult := do
  refuseIf (admission.state ≠ .starting)
    (invalid "starting mutation requires starting admission evidence")
  match d.queue.activeAt requestId with
  | some (before, active, after) =>
    if active.admission = admission ∧ active.startedAt = some startedAt then return none
    else do
      refuseIf (∃ existing ∈ active.startedAt, existing ≠ startedAt)
        (conflict "personal worker start time is already bound to different evidence")
      let admission ← transitioned active admission
        "starting mutation violates admission transition ordering"
      let started : PersonalWorkerActiveReservation :=
        { active with admission := admission, startedAt := some startedAt }
      return some (d.changeQueue { d.queue with active := before ++ started :: after }
        admission.observedAt (some admission.observedAt))
  | none => .error notFound

/-- An active request goes one step. -/
def applyActiveTransition
    (requiredState : ExecutionAdmissionState) (invalidMessage : String) : MutationResult := do
  refuseIf (admission.state ≠ requiredState)
    (invalid "personal worker mutation carries the wrong admission state")
  match d.queue.activeAt requestId with
  | some (before, active, after) =>
    if active.admission = admission then return none
    else do
      let admission ← transitioned active admission invalidMessage
      return some (d.changeQueue
        { d.queue with active := before ++ { active with admission := admission } :: after }
        admission.observedAt (some admission.observedAt))
  | none => .error notFound

/-- **A request runs.** -/
def markRunning : MutationResult :=
  d.applyActiveTransition requestId admission .running
    "running mutation violates admission transition ordering"

/-- **A request drains.** -/
def markDraining : MutationResult :=
  d.applyActiveTransition requestId admission .draining
    "draining mutation violates admission transition ordering"

/-- The newest ended request is kept, and for it the oldest one is dropped
when there are too many. -/
def pushTerminalTombstone (tombstones : List PersonalWorkerTerminalTombstone)
    (tombstone : PersonalWorkerTerminalTombstone) : List PersonalWorkerTerminalTombstone :=
  let pushed := tombstones ++ [tombstone]
  if pushed.length > maxPersonalWorkerTerminalTombstones then pushed.tail else pushed

/-- An active request has ended. -/
def releaseActive (before : List PersonalWorkerActiveReservation)
    (active : PersonalWorkerActiveReservation) (after : List PersonalWorkerActiveReservation)
    (requestId : ExecutionRequestId) (terminalAdmission : ExecutionAdmissionRecord) :
    MutationResult := do
  let admission ← transitioned active terminalAdmission
    "release mutation violates admission transition ordering"
  let (leasesBefore, lease, leasesAfter) ← okOr
    (KeyedList.split PersonalWorkerDurableCacheLease.requestId requestId d.cacheLeases)
    ⟨.corruptState, "active personal worker reservation is missing its durable cache lease"⟩
  let tombstone ← (PersonalWorkerTerminalTombstone.new active.request admission active.startedAt
    lease).mapError
      (fun _ => invalid "release mutation does not produce valid durable terminal evidence")
  return some
    { queue := { d.queue with active := before ++ after }
      leases := leasesBefore ++ leasesAfter
      terminalTombstones := pushTerminalTombstone d.terminalTombstones tombstone
      observedAt := tombstone.completedAt
      activityAt := some tombstone.completedAt }

/-- **A request ends.** -/
def releaseCompletionAndCacheLease (terminalAdmission : ExecutionAdmissionRecord) :
    MutationResult := do
  refuseIf (terminalAdmission.state ≠ .unavailable)
    (invalid "release mutation requires terminal unavailable admission evidence")
  refuseIf (terminalAdmission.identity.requestId ≠ requestId)
    (conflict "release mutation request identity does not match terminal admission evidence")
  match d.queue.activeAt requestId with
  | some (before, active, after) => d.releaseActive before active after requestId terminalAdmission
  | none =>
    match KeyedList.lookup PersonalWorkerTerminalTombstone.id requestId d.terminalTombstones with
    | some existing => do
      refuseIf (existing.terminalAdmission ≠ terminalAdmission)
        (conflict "personal worker terminal identity is already bound to different evidence")
      return none
    | none => .error notFound

/-- **A change of profile is asked for.** -/
def setProfileIntent (target : PersonalWorkerProfile) (requestedAt observedAt : EpochMillis) :
    MutationResult :=
  if d.queue.pendingProfileChange = some ⟨target, requestedAt⟩ then return none
  else do
    refuseIf (∃ current ∈ d.queue.pendingProfileChange, current.requestedAt.val > requestedAt.val)
      (invalid "profile intent evidence cannot move backwards")
    return some (d.changeQueue
      { d.queue with pendingProfileChange := some ⟨target, requestedAt⟩ } observedAt
      (some observedAt))

/-- **A change of profile is no longer asked for.** -/
def cancelProfileIntent (observedAt : EpochMillis) : MutationResult :=
  if d.queue.pendingProfileChange = none then return none
  else return some (d.changeQueue { d.queue with pendingProfileChange := none } observedAt
    (some observedAt))

/-- **The profile of the machine is observed.** This is no activity. -/
def observeProfile (profile : PersonalWorkerProfile) (observedAt : EpochMillis) : MutationResult :=
  if d.queue.profileObservation = .observed profile ∧ d.queue.observedAt = observedAt then
    return none
  else return some (d.changeQueue { d.queue with profileObservation := .observed profile }
    observedAt none)

/-- **An activity is recorded.** -/
def updateLastActivity (lastActivityAt observedAt : EpochMillis) : MutationResult := do
  refuseIf (∃ current ∈ d.queue.activityEvidence.lastActivityAt, lastActivityAt.val < current.val)
    (invalid "last-activity evidence cannot move backwards")
  if d.queue.activityEvidence.lastActivityAt = some lastActivityAt
      ∧ observedAt = d.queue.observedAt then
    return none
  else return some (d.changeQueue d.queue observedAt (some lastActivityAt))

/-- **What a mutation changes.** -/
def change : PersonalWorkerStoreMutation → MutationResult
  | .submit request observedAt => d.submit request observedAt
  | .cancel requestId cancelledAt drainingAdmission =>
    d.cancel requestId cancelledAt drainingAdmission
  | .recordReservationAndAcquireCacheLease requestId admission cacheLease =>
    d.recordReservationAndAcquireCacheLease requestId admission cacheLease
  | .markStarting requestId admission startedAt => d.markStarting requestId admission startedAt
  | .markRunning requestId admission => d.markRunning requestId admission
  | .markDraining requestId admission => d.markDraining requestId admission
  | .releaseCompletionAndCacheLease requestId terminalAdmission =>
    d.releaseCompletionAndCacheLease requestId terminalAdmission
  | .setProfileIntent target requestedAt observedAt =>
    d.setProfileIntent target requestedAt observedAt
  | .cancelProfileIntent observedAt => d.cancelProfileIntent observedAt
  | .observeProfile profile observedAt => d.observeProfile profile observedAt
  | .updateLastActivity lastActivityAt observedAt =>
    d.updateLastActivity lastActivityAt observedAt

end PersonalWorkerStoreDocument

/-! ## Recording and publishing a change -/

namespace MutationChange

/-- There was work now. -/
def recordActivity (change : MutationChange) :
    Except PersonalWorkerStoreMutationError MutationChange :=
  match change.activityAt with
  | some activityAt => do
    refuseIf (∃ current ∈ change.queue.activityEvidence.lastActivityAt,
        activityAt.val < current.val)
      (invalid "personal worker activity evidence cannot move backwards")
    return { change with queue := { change.queue with activityEvidence := .observed activityAt } }
  | none => return change

end MutationChange

namespace PersonalWorkerStoreDocument

variable (d : PersonalWorkerStoreDocument)

/-- **Apply a mutation to a document**, without storing anything. -/
def applyToSnapshot (mutation : PersonalWorkerStoreMutation) : MutationResult := do
  let changed ← d.change mutation
  match changed with
  | some change => return some (← change.recordActivity)
  | none => return none

/-- The next document. -/
def advanceBy (change : MutationChange) :
    Except PersonalWorkerStoreMutationError PersonalWorkerStoreDocument := do
  refuseIf (change.observedAt.val < change.queue.observedAt.val)
    (invalid "personal worker mutation observation cannot move backwards")
  let generation ← (PersonalWorkerQueueGeneration.next change.queue.generation).mapError
    (fun _ => invalid "personal worker queue generation cannot advance for this mutation")
  let queue := { change.queue with observedAt := change.observedAt, generation := generation }
  (d.advanceWithTerminalTombstones queue change.leases change.terminalTombstones).mapError
    (fun _ => invalid "personal worker mutation does not produce a valid durable successor")

end PersonalWorkerStoreDocument

/-- Whether anything changed. -/
inductive PersonalWorkerStoreMutationDisposition where
  | applied
  | duplicate
deriving DecidableEq, Repr

/-- The answer to a change. -/
structure PersonalWorkerStoreMutationReceipt where
  schemaVersion : Nat
  disposition : PersonalWorkerStoreMutationDisposition
  mutation : PersonalWorkerStoreMutationClass
  oldRevision : PersonalWorkerStoreRevision
  newRevision : PersonalWorkerStoreRevision
  oldQueueGeneration : PersonalWorkerQueueGeneration
  newQueueGeneration : PersonalWorkerQueueGeneration
deriving DecidableEq, Repr

/-- The version of a receipt. -/
def personalWorkerStoreTransactionSchemaVersion : Nat := 1

/-- The answer to a change. -/
def mutationReceipt (disposition : PersonalWorkerStoreMutationDisposition)
    (mutation : PersonalWorkerStoreMutation) (old new : PersonalWorkerStoreDocument) :
    PersonalWorkerStoreMutationReceipt where
  schemaVersion := personalWorkerStoreTransactionSchemaVersion
  disposition := disposition
  mutation := mutation.mutationClass
  oldRevision := old.revision
  newRevision := new.revision
  oldQueueGeneration := old.queue.generation
  newQueueGeneration := new.queue.generation

/-- A transaction that changes the document. -/
abbrev PersonalMutationTx (α : Type) :=
  Tx PersonalStoreFiles.apply PersonalWorkerStoreMutationError α

/-- The document, if it is the expected one. -/
def loadExpected (expectedRevision : PersonalWorkerStoreRevision)
    (expectedQueueGeneration : PersonalWorkerQueueGeneration) :
    PersonalMutationTx PersonalWorkerStoreDocument := do
  PersonalWorkerStore.recover.mapError mapStoreError
  let loaded ← PersonalWorkerStore.load.mapError mapStoreError
  let current ← Tx.check (okOr loaded
    ⟨.missingState, "durable personal worker state does not exist"⟩)
  Tx.check (refuseIf (current.revision ≠ expectedRevision) ⟨.staleRevision,
    "personal worker store revision does not match the exact expected revision"⟩)
  Tx.check (refuseIf (current.queue.generation ≠ expectedQueueGeneration)
    ⟨.staleQueueGeneration,
      "personal worker queue generation does not match the exact expected generation"⟩)
  return current

/-- The next document is published. -/
def publishMutation (expectedRevision : PersonalWorkerStoreRevision)
    (next : PersonalWorkerStoreDocument) : PersonalMutationTx Unit := do
  let write ← (PersonalWorkerStore.replaceIfRevision expectedRevision next).mapError mapStoreError
  Tx.check (refuseIf (write.disposition ≠ .replaced ∨ write.revision ≠ next.revision)
    ⟨.corruptState, "personal worker store returned an invalid mutation publication receipt"⟩)

/-- The change is published, if there is one. -/
def publishChange (expectedRevision : PersonalWorkerStoreRevision)
    (mutation : PersonalWorkerStoreMutation) (current : PersonalWorkerStoreDocument)
    (change : MutationChange) : PersonalMutationTx PersonalWorkerStoreMutationReceipt := do
  let next ← Tx.check (current.advanceBy change)
  publishMutation expectedRevision next
  return mutationReceipt .applied mutation current next

/-- **Apply a mutation to the store.** -/
def applyPersonalWorkerStoreMutation (expectedRevision : PersonalWorkerStoreRevision)
    (expectedQueueGeneration : PersonalWorkerQueueGeneration)
    (mutation : PersonalWorkerStoreMutation) :
    PersonalMutationTx PersonalWorkerStoreMutationReceipt := do
  let current ← loadExpected expectedRevision expectedQueueGeneration
  let application ← Tx.check (current.applyToSnapshot mutation)
  match application with
  | none => return mutationReceipt .duplicate mutation current current
  | some change => publishChange expectedRevision mutation current change

/-! ## Repeated mutations -/

/-- **A document shows a change**: the queue and what belongs to it are the
changed ones, and the observation and the activity are recorded. -/
structure MutationChange.ShownBy (change : MutationChange) (n : PersonalWorkerStoreDocument) :
    Prop where
  queued : n.queue.queued = change.queue.queued
  active : n.queue.active = change.queue.active
  profileObservation : n.queue.profileObservation = change.queue.profileObservation
  pendingProfileChange : n.queue.pendingProfileChange = change.queue.pendingProfileChange
  leases : n.cacheLeases = change.leases
  terminalTombstones : n.terminalTombstones = change.terminalTombstones
  observedAt : n.queue.observedAt = change.observedAt
  activityAt : ∀ at_ ∈ change.activityAt, n.queue.activityEvidence = .observed at_

namespace PersonalWorkerStoreDocument

variable {d n : PersonalWorkerStoreDocument} {chg recorded : MutationChange}
variable {request : PersonalWorkerJobRequest} {now when : EpochMillis}
variable {draining : Option ExecutionAdmissionRecord} {requestId : ExecutionRequestId}
variable {act : PersonalWorkerActiveReservation}
variable {admission tadm : ExecutionAdmissionRecord} {message : String}
variable {pre post : List PersonalWorkerActiveReservation}
variable {mu : PersonalWorkerStoreMutation}

theorem recordActivity_eq_ok (h : chg.recordActivity = .ok recorded) :
    recorded = { chg with queue := { chg.queue with
        activityEvidence := recorded.queue.activityEvidence } }
      ∧ ∀ at_ ∈ chg.activityAt, recorded.queue.activityEvidence = .observed at_ := by
  unfold MutationChange.recordActivity at h
  split at h
  · rename_i activityAt ha
    rw [guard_bind_eq_ok, pure_eq_ok_iff] at h
    obtain ⟨-, rfl⟩ := h
    refine ⟨rfl, ?_⟩
    rintro at_ hat
    obtain rfl := mem_unique hat ha
    rfl
  · rename_i ha
    rw [pure_eq_ok_iff] at h
    subst h
    refine ⟨rfl, ?_⟩
    rintro at_ hat
    rw [ha] at hat
    cases hat

/-- **The document after a change shows it.** -/
theorem shownBy_of_advanceBy (hr : chg.recordActivity = .ok recorded)
    (h : d.advanceBy recorded = .ok n) : chg.ShownBy n := by
  obtain ⟨hs, ha⟩ := recordActivity_eq_ok hr
  unfold advanceBy advanceWithTerminalTombstones fromParts at h
  simp only [bind_eq_ok, mapError_eq_ok, accept_eq_ok] at h
  obtain ⟨_, -, generation, -, _, -, _, -, _, -, _, -, history, -, revision, -, hrec⟩ := h
  rw [hs] at hrec
  constructor
  · rw [hrec]
  · rw [hrec]
  · rw [hrec]
  · rw [hrec]
  · rw [hrec]
  · rw [hrec]
  · rw [hrec]
  · intro at_ hat
    rw [hrec, ← ha at_ hat]

/-- **What a submission does**: the request is new and comes last. -/
theorem submit_eq_ok (h : d.submit request now = .ok (some chg)) :
    (∀ tombstone ∈ d.terminalTombstones, tombstone.id ≠ request.id) ∧ d.findLive request.id = none
      ∧ d.queue.queued.length < maxPersonalWorkerQueueEntries
      ∧ chg = d.changeQueue { d.queue with queued := d.queue.queued ++ [request] } now
        (some now) := by
  unfold submit at h
  rw [refuseIf_bind_eq_ok] at h
  obtain ⟨he, h⟩ := h
  split at h
  · rw [guard_bind_eq_ok] at h
    cases h.2
  · rename_i hl
    rw [refuseIf_bind_eq_ok, not_le, pure_eq_ok_iff, some.injEq] at h
    exact ⟨fun tombstone hm hid => he ⟨tombstone, hm, hid⟩, hl, h.1, h.2.symm⟩

theorem submit_repeated (h : d.submit request now = .ok (some chg)) (hn : chg.ShownBy n) :
    n.submit request now = .ok none := by
  obtain ⟨he, hl, -, rfl⟩ := submit_eq_ok h
  have hnew : lookup PersonalWorkerJobRequest.id request.id d.queue.queued = none :=
    (or_eq_none_iff.mp hl).1
  have hf : n.findLive request.id = some request := by
    unfold findLive
    rw [hn.queued]
    show (lookup _ _ (d.queue.queued ++ [request])).or _ = _
    rw [lookup_concat hnew, if_pos rfl]
    rfl
  unfold submit
  rw [hn.terminalTombstones, hf]
  refine guard_bind_eq_ok.mpr ⟨refuseIf_of_not ?_, guard_bind_eq_ok.mpr ⟨refuseIf_not rfl, rfl⟩⟩
  rintro ⟨tombstone, hm, hid⟩
  exact he tombstone hm hid

/-- **What the cancellation of a waiting request does.** -/
theorem cancelQueued_eq_ok {pre post : List PersonalWorkerJobRequest}
    (h : d.cancelQueued pre request post when draining = .ok (some chg)) :
    draining.isSome = false ∧ request.cancellation = .active
      ∧ chg = d.changeQueue { d.queue with
          queued := pre ++ { request with cancellation := .cancelled when } :: post }
        when (some when) := by
  unfold cancelQueued at h
  rw [refuseIf_bind_eq_ok, Bool.not_eq_true] at h
  obtain ⟨hd, h⟩ := h
  split at h
  · rename_i ha
    rw [pure_eq_ok_iff, some.injEq] at h
    exact ⟨hd, ha, h.symm⟩
  · rw [guard_bind_eq_ok] at h
    cases h.2

theorem cancelQueued_repeated {pre post : List PersonalWorkerJobRequest}
    (hp : d.queue.queuedAt requestId = some (pre, request, post))
    (h : d.cancelQueued pre request post when draining = .ok (some chg))
    (hn : chg.ShownBy n) : n.cancel requestId when draining = .ok none := by
  obtain ⟨hd, -, rfl⟩ := cancelQueued_eq_ok h
  have hp' : n.queue.queuedAt requestId
      = some (pre, { request with cancellation := .cancelled when }, post) := by
    unfold queuedAt at hp ⊢
    rw [hn.queued]
    exact split_replace hp rfl
  unfold cancel
  rw [hp']
  exact guard_bind_eq_ok.mpr ⟨refuseIf_of_not (Bool.not_eq_true _ ▸ hd),
    guard_bind_eq_ok.mpr ⟨refuseIf_not rfl, rfl⟩⟩

theorem transitioned_eq_ok {next : ExecutionAdmissionRecord}
    (h : transitioned act next message = .ok admission) :
    admission = next ∧ ExecutionAdmissionRecord.Step act.admission next := by
  unfold transitioned at h
  simp only [bind_eq_ok, mapError_eq_ok, pure_eq_ok_iff] at h
  obtain ⟨transition, ht, rfl⟩ := h
  obtain ⟨-, -, -, -, -, -, -, -, -, -, hr⟩ :=
    ExecutionAdmissionRecord.planTransition_eq_ok ht
  exact ⟨hr, transition, ht⟩

/-- An active request that was replaced by one with its identity is found in
its place. -/
theorem activeAt_of_shownBy {act' : PersonalWorkerActiveReservation}
    (hp : d.queue.activeAt requestId = some (pre, act, post))
    (ha : n.queue.active = pre ++ act' :: post) (hid : act'.id = act.id) :
    n.queue.activeAt requestId = some (pre, act', post) := by
  unfold activeAt at hp ⊢
  rw [ha]
  exact split_replace hp hid

/-- **What the cancellation of an active request does**: it drains. -/
theorem cancelActive_eq_ok (h : d.cancelActive pre act post when draining = .ok (some chg)) :
    ∃ next, draining = some next ∧ next.state = .draining
      ∧ chg = d.changeQueue { d.queue with
          active := pre ++ { act with
            request := { act.request with cancellation := .cancelled when }
            admission := next } :: post } next.observedAt (some when) := by
  unfold cancelActive at h
  simp only [bind_eq_ok, okOr_eq_ok, refuseIf_eq_ok, ne_eq, not_not] at h
  obtain ⟨next, hn, _, hd, h⟩ := h
  split at h
  · cases h
  · simp only [bind_eq_ok, pure_eq_ok_iff, some.injEq] at h
    obtain ⟨_, -, admission, ha, rfl⟩ := h
    obtain ⟨rfl, -⟩ := transitioned_eq_ok ha
    exact ⟨admission, hn, hd, rfl⟩

theorem cancelActive_repeated (hq : d.queue.queuedAt requestId = none)
    (hp : d.queue.activeAt requestId = some (pre, act, post))
    (h : d.cancelActive pre act post when draining = .ok (some chg))
    (hn : chg.ShownBy n) : n.cancel requestId when draining = .ok none := by
  obtain ⟨next, rfl, hd, rfl⟩ := cancelActive_eq_ok h
  have hq' : n.queue.queuedAt requestId = none := by
    unfold queuedAt at hq ⊢
    rw [hn.queued]
    exact hq
  unfold cancel
  rw [hq', activeAt_of_shownBy hp hn.active rfl]
  show cancelActive n _ _ _ _ _ = _
  unfold cancelActive
  rw [okOr, ok_bind, refuseIf_not hd, ok_bind, if_pos ⟨rfl, rfl⟩]
  rfl

/-- **A cancellation is recognized.** -/
theorem cancel_repeated
    (h : d.cancel requestId when draining = .ok (some chg)) (hn : chg.ShownBy n) :
    n.cancel requestId when draining = .ok none := by
  unfold cancel at h
  split at h
  · rename_i pre request post hp
    exact cancelQueued_repeated hp h hn
  · rename_i hq
    split at h
    · rename_i pre act post hp
      exact cancelActive_repeated hq hp h hn
    · cases h

section

variable {cacheLease : PersonalWorkerDurableCacheLease}
    (h : d.recordReservationAndAcquireCacheLease requestId admission cacheLease = .ok (some chg))
include h

/-- **What a reservation does**: a waiting request goes to the end of the
active ones, and its lease to the end of the leases. -/
theorem recordReservation_eq_ok :
    ∃ pre request post, admission.state = .reserved ∧ d.queue.activeAt requestId = none
      ∧ d.queue.queuedAt requestId = some (pre, request, post)
      ∧ cacheLease.requestId = requestId ∧ request.cancellation.isCancelled = false
      ∧ chg = ⟨{ d.queue with
          queued := pre ++ post
          active := d.queue.active ++ [⟨request, admission, none⟩] },
          d.cacheLeases ++ [cacheLease], d.terminalTombstones, admission.observedAt,
          some admission.observedAt⟩ := by
  unfold recordReservationAndAcquireCacheLease at h
  rw [refuseIf_bind_eq_ok, not_not] at h
  obtain ⟨hst, h⟩ := h
  split at h
  · rw [guard_bind_eq_ok] at h
    cases h.2
  · rename_i ha
    split at h
    · rename_i pre request post hp
      unfold reserveQueued at h
      simp only [refuseIf_bind_eq_ok, pure_eq_ok_iff, some.injEq, not_or, ne_eq, not_not,
        Bool.not_eq_true] at h
      obtain ⟨hc, ⟨-, hl⟩, rfl⟩ := h
      exact ⟨pre, request, post, hst, ha, hp, hl, hc, rfl⟩
    · cases h

/-- **A reservation is recognized**: the request is active at the end of the
list, and its lease is the only one with its identity. -/
theorem recordReservation_repeated (hn : chg.ShownBy n) :
    n.recordReservationAndAcquireCacheLease requestId admission cacheLease = .ok none := by
  obtain ⟨pre, request, post, hst, ha, hp, hl, -, rfl⟩ :=
    recordReservation_eq_ok h
  obtain ⟨-, hid, -⟩ := split_eq_some.mp hp
  have ha' : n.queue.activeAt requestId
      = some (d.queue.active, ⟨request, admission, none⟩, []) := by
    unfold activeAt at ha ⊢
    rw [hn.active]
    exact split_eq_some.mpr ⟨rfl, hid, split_eq_none.mp ha⟩
  have hl' : lookup PersonalWorkerDurableCacheLease.requestId requestId
      n.cacheLeases = some cacheLease := by
    refine (lookup_eq_some (leases_distinct n).2.1).mpr ⟨?_, hl⟩
    rw [hn.leases]
    exact mem_append_right _ mem_cons_self
  unfold recordReservationAndAcquireCacheLease
  rw [refuseIf_not hst, ok_bind, ha']
  exact guard_bind_eq_ok.mpr ⟨refuseIf_of_not (not_not.mpr ⟨rfl, rfl, hl'⟩), rfl⟩

end

section

variable {startedAt : EpochMillis}
    (h : d.markStarting requestId admission startedAt = .ok (some chg))
include h

/-- **What a start does.** -/
theorem markStarting_eq_ok :
    ∃ pre act post, admission.state = .starting
      ∧ d.queue.activeAt requestId = some (pre, act, post)
      ∧ chg = d.changeQueue { d.queue with
          active := pre ++ { act with admission, startedAt := some startedAt } :: post }
        admission.observedAt (some admission.observedAt) := by
  unfold markStarting at h
  rw [refuseIf_bind_eq_ok, not_not] at h
  obtain ⟨hst, h⟩ := h
  split at h
  · rename_i pre act post hp
    split at h
    · cases h
    · simp only [bind_eq_ok, pure_eq_ok_iff, some.injEq] at h
      obtain ⟨_, -, next, hn, rfl⟩ := h
      obtain ⟨rfl, -⟩ := transitioned_eq_ok hn
      exact ⟨pre, act, post, hst, hp, rfl⟩
  · cases h

/-- **A start is recognized.** -/
theorem markStarting_repeated (hn : chg.ShownBy n) :
    n.markStarting requestId admission startedAt = .ok none := by
  obtain ⟨pre, act, post, hst, hp, rfl⟩ := markStarting_eq_ok h
  unfold markStarting
  rw [refuseIf_not hst, ok_bind, activeAt_of_shownBy hp hn.active rfl]
  exact if_pos ⟨rfl, rfl⟩

end

section

variable {requiredState : ExecutionAdmissionState}
    (h : d.applyActiveTransition requestId admission requiredState message = .ok (some chg))
include h

/-- **What a transition of an active request does.** -/
theorem applyActiveTransition_eq_ok :
    ∃ pre act post, admission.state = requiredState
      ∧ d.queue.activeAt requestId = some (pre, act, post)
      ∧ chg = d.changeQueue
          { d.queue with active := pre ++ { act with admission } :: post }
        admission.observedAt (some admission.observedAt) := by
  unfold applyActiveTransition at h
  rw [refuseIf_bind_eq_ok, not_not] at h
  obtain ⟨hst, h⟩ := h
  split at h
  · rename_i pre act post hp
    split at h
    · cases h
    · simp only [bind_eq_ok, pure_eq_ok_iff, some.injEq] at h
      obtain ⟨next, hn, rfl⟩ := h
      obtain ⟨rfl, -⟩ := transitioned_eq_ok hn
      exact ⟨pre, act, post, hst, hp, rfl⟩
  · cases h

/-- **A transition of an active request is recognized.** -/
theorem applyActiveTransition_repeated (hn : chg.ShownBy n) :
    n.applyActiveTransition requestId admission requiredState message = .ok none := by
  obtain ⟨pre, act, post, hst, hp, rfl⟩ := applyActiveTransition_eq_ok h
  unfold applyActiveTransition
  rw [refuseIf_not hst, ok_bind, activeAt_of_shownBy hp hn.active rfl]
  exact if_pos rfl

end

variable (tombstones : List PersonalWorkerTerminalTombstone)
    (tombstone : PersonalWorkerTerminalTombstone)

theorem pushTerminalTombstone_cases :
    pushTerminalTombstone tombstones tombstone = tombstones ++ [tombstone]
      ∨ ∃ oldest rest, tombstones = oldest :: rest
        ∧ pushTerminalTombstone tombstones tombstone = rest ++ [tombstone] := by
  obtain _ | ⟨oldest, rest⟩ := tombstones
  · exact .inl rfl
  · by_cases h : (oldest :: rest ++ [tombstone]).length > maxPersonalWorkerTerminalTombstones
    · exact .inr ⟨oldest, rest, rfl, if_pos h⟩
    · exact .inl (if_neg h)

theorem mem_pushTerminalTombstone : tombstone ∈ pushTerminalTombstone tombstones tombstone := by
  obtain h | ⟨oldest, rest, -, h⟩ := pushTerminalTombstone_cases tombstones tombstone
  · rw [h]
    exact mem_append_right _ mem_cons_self
  · rw [h]
    exact mem_append_right _ mem_cons_self

section

variable {tombstone : PersonalWorkerTerminalTombstone} (h : tombstone ∈ n.terminalTombstones)
include h

theorem not_mem_liveIds : tombstone.id ∉ n.queue.liveIds := by
  intro hl
  exact (nodup_append'.mp n.ids_nodup).2.2 hl (mem_map_of_mem h)

theorem lookup_tombstone :
    KeyedList.lookup PersonalWorkerTerminalTombstone.id tombstone.id n.terminalTombstones
      = some tombstone :=
  (lookup_eq_some (nodup_append'.mp n.ids_nodup).2.1).mpr ⟨h, rfl⟩

end

/-- **What a release does**: the active request goes with its lease, and the
tombstone is made of the two. -/
theorem releaseActive_eq_ok (h : d.releaseActive pre act post requestId tadm = .ok (some chg)) :
    ∃ tombstone leasesBefore leasesAfter, ExecutionAdmissionRecord.Step act.admission tadm
        ∧ KeyedList.split PersonalWorkerDurableCacheLease.requestId requestId d.cacheLeases
          = some (leasesBefore, tombstone.cacheLease, leasesAfter)
        ∧ tombstone.request = act.request ∧ tombstone.terminalAdmission = tadm
        ∧ tombstone.startedAt = act.startedAt
        ∧ chg = ⟨{ d.queue with active := pre ++ post }, leasesBefore ++ leasesAfter,
            pushTerminalTombstone d.terminalTombstones tombstone, tombstone.completedAt,
            some tombstone.completedAt⟩ := by
  unfold releaseActive at h
  simp only [bind_eq_ok, okOr_eq_ok, mapError_eq_ok, pure_eq_ok_iff, some.injEq] at h
  obtain ⟨admission, ha, ⟨leasesBefore, lease, leasesAfter⟩, hl, tombstone, htm, rfl⟩ := h
  obtain ⟨rfl, hst⟩ := transitioned_eq_ok ha
  obtain ⟨hr, ht, hs, hc⟩ :=
    PersonalWorkerTerminalTombstone.new_eq_ok htm
  exact ⟨tombstone, leasesBefore, leasesAfter, hst, hc ▸ hl, hr, ht, hs, rfl⟩

section

variable (h : d.releaseCompletionAndCacheLease requestId tadm = .ok (some chg))
include h

theorem release_eq_ok :
    ∃ pre act post, tadm.state = .unavailable
      ∧ tadm.identity.requestId = requestId
      ∧ d.queue.activeAt requestId = some (pre, act, post)
      ∧ d.releaseActive pre act post requestId tadm = .ok (some chg) := by
  unfold releaseCompletionAndCacheLease at h
  rw [refuseIf_bind_eq_ok, not_not, refuseIf_bind_eq_ok, not_not] at h
  obtain ⟨hst, hi, h⟩ := h
  split at h
  · rename_i pre act post hp
    exact ⟨pre, act, post, hst, hi, hp, h⟩
  · split at h
    · rw [guard_bind_eq_ok] at h
      cases h.2
    · cases h

/-- **An end is recognized**: its tombstone is the only one with its identity,
and the request is gone. -/
theorem release_repeated (hn : chg.ShownBy n) :
    n.releaseCompletionAndCacheLease requestId tadm = .ok none := by
  obtain ⟨pre, act, post, hst, hi, hp, h⟩ := release_eq_ok h
  obtain ⟨tombstone, leasesBefore, leasesAfter, -, -, hr, ht, -, rfl⟩ :=
    releaseActive_eq_ok h
  obtain ⟨-, hid, -⟩ := split_eq_some.mp hp
  have hk : tombstone ∈ n.terminalTombstones := by
    rw [hn.terminalTombstones]
    exact mem_pushTerminalTombstone _ _
  obtain rfl : tombstone.id = requestId := by
    rw [PersonalWorkerTerminalTombstone.id, hr]
    exact hid
  have hg : n.queue.activeAt tombstone.id = none := by
    refine split_eq_none.mpr fun a ha heq => not_mem_liveIds hk ?_
    exact mem_liveIds.mpr (.inr ⟨a, ha, heq⟩)
  unfold releaseCompletionAndCacheLease
  rw [refuseIf_not hst, ok_bind, refuseIf_not hi, ok_bind, hg, lookup_tombstone hk]
  exact guard_bind_eq_ok.mpr ⟨refuseIf_not ht, rfl⟩

end

/-- **What asking for a change of profile does.** -/
theorem setProfileIntent_eq_ok {target : PersonalWorkerProfile} {requestedAt : EpochMillis}
    (h : d.setProfileIntent target requestedAt now = .ok (some chg)) :
    chg = d.changeQueue { d.queue with pendingProfileChange := some ⟨target, requestedAt⟩ }
      now (some now) := by
  unfold setProfileIntent at h
  split at h
  · cases h
  · rw [guard_bind_eq_ok, pure_eq_ok_iff, some.injEq] at h
    exact h.2.symm

/-- **What taking it back does.** -/
theorem cancelProfileIntent_eq_ok (h : d.cancelProfileIntent now = .ok (some chg)) :
    chg = d.changeQueue { d.queue with pendingProfileChange := none } now
      (some now) := by
  unfold cancelProfileIntent at h
  split at h
  · cases h
  · rw [pure_eq_ok_iff, some.injEq] at h
    exact h.symm

/-- **What an observation of the profile does.** -/
theorem observeProfile_eq_ok {profile : PersonalWorkerProfile}
    (h : d.observeProfile profile now = .ok (some chg)) :
    chg = d.changeQueue { d.queue with profileObservation := .observed profile } now
      none := by
  unfold observeProfile at h
  split at h
  · cases h
  · rw [pure_eq_ok_iff, some.injEq] at h
    exact h.symm

section

variable {lastActivityAt : EpochMillis}
    (h : d.updateLastActivity lastActivityAt now = .ok (some chg))
include h

/-- **What recording an activity does.** -/
theorem updateLastActivity_eq_ok : chg = d.changeQueue d.queue now (some lastActivityAt) := by
  unfold updateLastActivity at h
  rw [guard_bind_eq_ok] at h
  obtain ⟨-, h⟩ := h
  split at h
  · cases h
  · rw [pure_eq_ok_iff, some.injEq] at h
    exact h.symm

theorem updateLastActivity_repeated (hn : chg.ShownBy n) :
    n.updateLastActivity lastActivityAt now = .ok none := by
  obtain rfl := updateLastActivity_eq_ok h
  unfold updateLastActivity
  rw [hn.activityAt lastActivityAt rfl]
  refine guard_bind_eq_ok.mpr ⟨refuseIf_of_not ?_, if_pos ⟨rfl, hn.observedAt.symm⟩⟩
  rintro ⟨current, hc, hlt⟩
  obtain rfl := some.inj hc
  exact absurd hlt (lt_irrefl _)

end

/-- **A mutation is recognized when it is repeated.** -/
theorem change_repeated (h : d.change mu = .ok (some chg)) (hn : chg.ShownBy n) :
    n.change mu = .ok none := by
  cases mu with
  | submit request now => exact submit_repeated h hn
  | cancel requestId when draining => exact cancel_repeated h hn
  | recordReservationAndAcquireCacheLease requestId admission lease =>
    exact recordReservation_repeated h hn
  | markStarting requestId admission startedAt => exact markStarting_repeated h hn
  | markRunning requestId admission | markDraining requestId admission =>
    exact applyActiveTransition_repeated h hn
  | releaseCompletionAndCacheLease requestId admission => exact release_repeated h hn
  | setProfileIntent target requestedAt now =>
    obtain rfl := setProfileIntent_eq_ok h
    exact if_pos hn.pendingProfileChange
  | cancelProfileIntent now =>
    obtain rfl := cancelProfileIntent_eq_ok h
    exact if_pos hn.pendingProfileChange
  | observeProfile profile now =>
    obtain rfl := observeProfile_eq_ok h
    exact if_pos ⟨hn.profileObservation, hn.observedAt⟩
  | updateLastActivity lastActivityAt now => exact updateLastActivity_repeated h hn

/-- **A document a mutation led to.** -/
def MutatesTo (d : PersonalWorkerStoreDocument) (mutation : PersonalWorkerStoreMutation)
    (n : PersonalWorkerStoreDocument) : Prop :=
  ∃ chg, d.applyToSnapshot mutation = .ok (some chg) ∧ d.advanceBy chg = .ok n

theorem MutatesTo.exists_change (h : d.MutatesTo mu n) :
    ∃ chg, d.change mu = .ok (some chg) ∧ chg.ShownBy n := by
  obtain ⟨recorded, ha, hadv⟩ := h
  unfold applyToSnapshot at ha
  rw [bind_eq_ok] at ha
  obtain ⟨changed, hc, ha⟩ := ha
  cases changed with
  | none => cases ha
  | some chg =>
    simp only [bind_eq_ok, pure_eq_ok_iff, some.injEq] at ha
    obtain ⟨_, hr, rfl⟩ := ha
    exact ⟨chg, hc, shownBy_of_advanceBy hr hadv⟩

/-- **A repeated mutation is a duplicate.** -/
theorem MutatesTo.applyToSnapshot_repeated
    (h : d.MutatesTo mu n) : n.applyToSnapshot mu = .ok none := by
  obtain ⟨chg, hc, hs⟩ := h.exists_change
  unfold applyToSnapshot
  rw [change_repeated hc hs, ok_bind]
  rfl

end PersonalWorkerStoreDocument

/-! ## Mutations of the store -/

section Store

variable {files : PersonalStoreFiles} {d : PersonalWorkerStoreDocument}
variable {rev : PersonalWorkerStoreRevision}
variable {expectedGeneration : PersonalWorkerQueueGeneration}
variable {mu : PersonalWorkerStoreMutation}

/-- The document, if it is the expected one. -/
def expectedDocument (files : PersonalStoreFiles) (expectedRevision : PersonalWorkerStoreRevision)
    (expectedGeneration : PersonalWorkerQueueGeneration) :
    Except PersonalWorkerStoreMutationError PersonalWorkerStoreDocument := do
  let current ← okOr files.current
    ⟨.missingState, "durable personal worker state does not exist"⟩
  refuseIf (current.revision ≠ expectedRevision) ⟨.staleRevision,
    "personal worker store revision does not match the exact expected revision"⟩
  refuseIf (current.queue.generation ≠ expectedGeneration) ⟨.staleQueueGeneration,
    "personal worker queue generation does not match the exact expected generation"⟩
  return current

theorem expectedDocument_eq_ok :
    expectedDocument files rev expectedGeneration = .ok d
      ↔ files.current = some d ∧ d.revision = rev
        ∧ d.queue.generation = expectedGeneration := by
  unfold expectedDocument
  simp only [bind_eq_ok, okOr_eq_ok, refuseIf_eq_ok, ne_eq, not_not, pure_eq_ok_iff]
  constructor
  · rintro ⟨current, hc, _, hr, _, hg, rfl⟩
    exact ⟨hc, hr, hg⟩
  · rintro ⟨hc, hr, hg⟩
    exact ⟨d, hc, (), hr, (), hg, rfl⟩

theorem run_loadExpected (hc : files.staged = none) (ha : files.access = .ok ()) :
    (loadExpected rev expectedGeneration).run files
      = ([], expectedDocument files rev expectedGeneration) := by
  have hr : (recover.mapError mapStoreError).run files = ([], .ok ()) := by
    refine run_mapError_of_ok ?_
    rw [run_recover ha, run_recoverLocked hc]
  have hl : (load.mapError mapStoreError).run files = ([], .ok files.current) := rfl
  unfold loadExpected
  rw [run_bind_of_quiet hr, run_bind_of_quiet hl]
  simp only [pure_eq_check, check_bind_check]
  rfl

theorem settles_loadExpected (hc : files.staged = none) :
    Settles (loadExpected rev expectedGeneration) files fun effects d =>
      effects = [] ∧ files.access = .ok () ∧ files.current = some d := by
  refine .quiet_bind ((settles_recover hc).mapError.imp fun _ _ ⟨he, ha⟩ =>
    ⟨he, .quiet_bind (.of_run rfl ⟨rfl, ?_⟩)⟩)
  refine .check_bind fun d hcur => .check_bind fun _ _ => .check_bind fun _ _ => ?_
  exact .of_run run_pure ⟨rfl, ha, okOr_eq_ok.mp hcur⟩

/-- The document a mutation leads to is published, or the store is left
alone. -/
theorem settles_publishMutation (next : PersonalWorkerStoreDocument) (hc : files.staged = none) :
    Settles (publishMutation rev next) files fun effects _ =>
      effects = [.stage next, .publish] := by
  refine .bind ((settles_replaceIfRevision rev next hc).mapError.imp ?_)
  rintro _ receipt ⟨rfl, hd, hrev, -⟩
  have hr : ¬ (receipt.disposition ≠ .replaced ∨ receipt.revision ≠ next.revision) := by
    simp [hd, hrev]
  rw [refuseIf_of_not hr]
  exact ⟨[], (), run_check, rfl⟩

/-- **A mutation of a clean store** is refused, or is a duplicate, or is
published – and only then changes anything. -/
theorem settles_applyMutation (rev : PersonalWorkerStoreRevision)
    (expectedGeneration : PersonalWorkerQueueGeneration) (mu : PersonalWorkerStoreMutation)
    (hc : files.staged = none) :
    Settles (applyPersonalWorkerStoreMutation rev expectedGeneration mu) files
      fun effects receipt => ∃ d, files.access = .ok () ∧ files.current = some d
        ∧ ((d.applyToSnapshot mu = .ok none ∧ effects = []
            ∧ receipt = mutationReceipt .duplicate mu d d)
          ∨ ∃ n, d.MutatesTo mu n ∧ effects = [.stage n, .publish]
            ∧ receipt = mutationReceipt .applied mu d n) := by
  refine .quiet_bind ((settles_loadExpected hc).imp fun _ d ⟨he, ha, hcur⟩ =>
    ⟨he, .check_bind fun application hap => ?_⟩)
  cases application with
  | none => exact .of_run run_pure ⟨d, ha, hcur, .inl ⟨hap, rfl, rfl⟩⟩
  | some chg =>
    -- what the change makes of the document is published, or the store is left alone
    refine .check_bind fun n hadv => .bind ((settles_publishMutation n hc).imp ?_)
    rintro _ _ rfl
    exact ⟨[], _, run_pure, d, ha, hcur, .inr ⟨n, ⟨chg, hap, hadv⟩, rfl, rfl⟩⟩

theorem run_duplicate (hc : files.staged = none) (ha : files.access = .ok ())
    (hcur : files.current = some d) (hd : d.applyToSnapshot mu = .ok none) :
    (applyPersonalWorkerStoreMutation d.revision d.queue.generation mu).run files
      = ([], .ok (mutationReceipt .duplicate mu d d)) := by
  have he : expectedDocument files d.revision d.queue.generation = .ok d :=
    expectedDocument_eq_ok.mpr ⟨hcur, rfl, rfl⟩
  unfold applyPersonalWorkerStoreMutation
  rw [run_bind_of_quiet ((run_loadExpected hc ha).trans (by rw [he])),
    hd, run_check_ok_bind]
  rfl

/-- **A repeated mutation changes nothing, and neither does a refused one.**
When a mutation was applied to a clean store, repeating it at the revision
and the generation it led to is a duplicate and takes no durable step; and a
mutation that is refused takes none either. -/
theorem mutation_repeated (rev : PersonalWorkerStoreRevision)
    (expectedGeneration : PersonalWorkerQueueGeneration) (mu : PersonalWorkerStoreMutation)
    (files : PersonalStoreFiles) (hcln : files.staged = none) :
    (∀ effects receipt, (applyPersonalWorkerStoreMutation rev expectedGeneration mu).run files
        = (effects, .ok receipt) → receipt.disposition = .applied →
      ∃ again, (applyPersonalWorkerStoreMutation receipt.newRevision receipt.newQueueGeneration
          mu).run (replay PersonalStoreFiles.apply files effects) = ([], .ok again)
        ∧ again.disposition = .duplicate)
      ∧ ∀ effects e, (applyPersonalWorkerStoreMutation rev expectedGeneration mu).run files
          = (effects, .error e) → replay PersonalStoreFiles.apply files effects = files := by
  obtain ⟨e, hrun⟩ | ⟨_, _, hrun, d, ha, -, ⟨-, rfl, rfl⟩ | ⟨n, hmut, rfl, rfl⟩⟩ :=
    settles_applyMutation rev expectedGeneration mu hcln
  · rw [hrun]
    refine ⟨fun _ _ h => ?_, fun _ _ h => ?_⟩
    · cases h
    · cases h
      rfl
  · rw [hrun]
    refine ⟨fun _ _ h hd => ?_, fun _ _ h => ?_⟩
    · cases h
      cases hd
    · cases h
  · rw [hrun]
    refine ⟨fun _ _ h _ => ?_, fun _ _ h => ?_⟩
    · cases h
      -- the store now holds the document the mutation led to
      have hag : (applyPersonalWorkerStoreMutation n.revision n.queue.generation mu).run
          (published files n)
          = ([], .ok (mutationReceipt .duplicate mu n n)) :=
        run_duplicate rfl ha rfl hmut.applyToSnapshot_repeated
      exact ⟨_, hag, rfl⟩
    · cases h

end Store

/-! ## A submitted request -/

theorem applied_sampleRequest :
    ((applyPersonalWorkerStoreMutation sampleDocument.revision
      sampleQueue.generation (.submit sampleRequest firstMilli)).run
      sampleFiles).2.map (·.disposition) = .ok .applied := by
  decide +kernel

theorem run_sampleRequest :
    ∃ effects receipt, (applyPersonalWorkerStoreMutation sampleDocument.revision
        sampleQueue.generation (.submit sampleRequest firstMilli)).run sampleFiles
        = (effects, .ok receipt)
      ∧ receipt.disposition = .applied := by
  have ha := applied_sampleRequest
  rcases hr : (applyPersonalWorkerStoreMutation sampleDocument.revision
    sampleQueue.generation (.submit sampleRequest firstMilli)).run sampleFiles
    with ⟨effects, result⟩
  rw [hr] at ha
  cases result with
  | error e => cases ha
  | ok receipt => exact ⟨effects, receipt, rfl, ok.inj ha⟩

theorem mutation_repeated_sampleRequest :
    ∃ effects receipt again, (applyPersonalWorkerStoreMutation sampleDocument.revision
        sampleQueue.generation (.submit sampleRequest firstMilli)).run sampleFiles
        = (effects, .ok receipt)
      ∧ receipt.disposition = .applied
      ∧ (applyPersonalWorkerStoreMutation receipt.newRevision receipt.newQueueGeneration
        (.submit sampleRequest firstMilli)).run
          (replay PersonalStoreFiles.apply sampleFiles effects) = ([], .ok again)
      ∧ again.disposition = .duplicate := by
  obtain ⟨effects, receipt, hr, hd⟩ := run_sampleRequest
  obtain ⟨again, ha, hdup⟩ := (mutation_repeated _ _ _ sampleFiles rfl).1 effects
    receipt hr hd
  exact ⟨effects, receipt, again, hr, hd, ha, hdup⟩

end Glaeda
