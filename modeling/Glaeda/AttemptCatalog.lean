import Glaeda.AttemptHistory

/-!
# The attempt catalog

The catalog is the one durable document about all attempts: the active
reservations, each with the host resources and the prepared template it
owns, and a bounded history of completed attempts. It is changed by three
operations only – a fresh attempt is reserved, an active attempt is replaced
by what an action makes of it, a completed attempt moves to the history –
and every one of them raises the catalog revision by one and validates the
document it built.

As for attempts, a `DisposableAttemptCatalogDocument` is **a record together
with the proof that it validates**. Validation ties the revision to the
represented history: as long as no completed attempt was evicted, the
catalog revision is one more than everything the attempts have been through,
so **two catalogs that differ by an operation differ in their revision**.
That is what lets a recovery tell an old catalog from a new one.
-/

namespace Glaeda

open Checked

/-! ## Errors and bounded sums -/

/-- The kinds of refusal. -/
inductive DisposableAttemptCatalogErrorKind where
  | alreadyExists
  | missing
  | conflict
  | identityDrift
  | invalidAction
  | limitExceeded
  | corruptState
  | busy
  | io
  | unsafeFilesystem
  | versionIncompatible
  | recoveryRequired
deriving DecidableEq, Repr

/-- A refusal, with its text. -/
structure DisposableAttemptCatalogError where
  kind : DisposableAttemptCatalogErrorKind
  message : String
deriving DecidableEq, Repr

/-- Two attempts share a name. -/
def duplicateIdentity : DisposableAttemptCatalogError :=
  ⟨.corruptState, "disposable attempt catalog contains duplicate ownership identity"⟩

/-- The usage is beyond its bounds. -/
def resourceOverflow : DisposableAttemptCatalogError :=
  ⟨.limitExceeded, "durable disposable resource usage exceeds the bounded host envelope"⟩

/-- The catalog is not the next one. -/
def invalidStoreSuccessor : DisposableAttemptCatalogError :=
  ⟨.conflict, "replacement catalog is not one exact authorized successor"⟩

/-- The attempt has changed since. -/
def staleAttemptRevision : DisposableAttemptCatalogError :=
  ⟨.conflict, "stale disposable attempt revision"⟩

/-- There is no such attempt. -/
def missingAttempt : DisposableAttemptCatalogError :=
  ⟨.missing, "disposable attempt does not exist"⟩

/-! ## Revisions -/

/-- The bound of a revision. -/
def maxDisposableAttemptCatalogRevision : Nat := 1000000000000

/-- How often a catalog was changed. -/
abbrev DisposableAttemptCatalogRevision :=
  BoundedRevision maxDisposableAttemptCatalogRevision

namespace DisposableAttemptCatalogRevision

/-- A revision within its bounds. -/
def new : Nat → Except DisposableAttemptCatalogError DisposableAttemptCatalogRevision :=
  BoundedRevision.new _ ⟨.corruptState,
    "disposable attempt catalog revision is outside the bounded positive range"⟩

/-- The first revision. -/
def first : DisposableAttemptCatalogRevision := BoundedRevision.first (by decide)

/-- The revision after this one. -/
def next (r : DisposableAttemptCatalogRevision) :
    Except DisposableAttemptCatalogError DisposableAttemptCatalogRevision :=
  BoundedRevision.new _ ⟨.conflict, "disposable attempt catalog revision cannot advance"⟩
    (r.val + 1)

/-- **The next catalog revision is one larger**, and determined by that. -/
theorem next_eq_ok {r s : DisposableAttemptCatalogRevision} : r.next = .ok s ↔ s.val = r.val + 1 :=
  BoundedRevision.new_eq_ok

end DisposableAttemptCatalogRevision

/-! ## Resources -/

/-- What a worker takes of the host. -/
structure ResourceAmounts where
  cpuMillis : Nat
  memoryBytes : Nat
  diskBytes : Nat
deriving DecidableEq, Repr

/-- The most workers. -/
def maxWorkers : Nat := 64

/-- The most processor time. -/
def maxCpuMillis : Nat := 1000000

/-- The most memory, or disk. -/
def maxBytes : Nat := 2 ^ 50

/-- **The resources of a worker**: positive and bounded amounts. -/
structure DisposableWorkerResources extends ResourceAmounts where
  cpu_bounds : 1 ≤ cpuMillis ∧ cpuMillis ≤ maxCpuMillis
  memory_bounds : 1 ≤ memoryBytes ∧ memoryBytes ≤ maxBytes
  disk_bounds : 1 ≤ diskBytes ∧ diskBytes ≤ maxBytes
deriving DecidableEq, Repr

/-- Amounts within their bounds. -/
def DisposableWorkerResources.new (amounts : ResourceAmounts) :
    Except FieldError DisposableWorkerResources :=
  if hcpu : 1 ≤ amounts.cpuMillis ∧ amounts.cpuMillis ≤ maxCpuMillis then
    if hmemy : 1 ≤ amounts.memoryBytes ∧ amounts.memoryBytes ≤ maxBytes then
      if hdisk : 1 ≤ amounts.diskBytes ∧ amounts.diskBytes ≤ maxBytes then
        .ok ⟨amounts, hcpu, hmemy, hdisk⟩
      else .error ⟨"resources.disk_bytes", "invalid_disk_limit",
        "disk must be within the bounded positive range"⟩
    else .error ⟨"resources.memory_bytes", "invalid_memory_limit",
      "memory must be within the bounded positive range"⟩
  else .error ⟨"resources.cpu_millis", "invalid_cpu_limit",
    "CPU must be within the bounded positive range"⟩

/-- What the active workers take together. -/
structure DisposableHostUsage where
  workers : Nat
  resources : ResourceAmounts
deriving DecidableEq, Repr

/-- No usage. -/
def DisposableHostUsage.zero : DisposableHostUsage := ⟨0, ⟨0, 0, 0⟩⟩

/-- The usage of some workers. -/
def DisposableHostUsage.new (workers : Nat) (resources : DisposableWorkerResources) :
    Except FieldError DisposableHostUsage :=
  if workers > maxWorkers then
    .error ⟨"usage.workers", "invalid_worker_usage",
      "observed worker usage exceeds the implementation bound"⟩
  else .ok ⟨workers, resources.toResourceAmounts⟩

/-! ## The record and its validation -/

/-- **An active reservation**: the attempt and what it owns until it
completes. -/
structure DisposableAttemptReservation where
  attempt : DisposableAttemptState
  resources : DisposableWorkerResources
  preparedTemplateIdentity : DisposablePreparedTemplateIdentity
deriving DecidableEq, Repr

/-- A reservation of a fresh attempt. -/
def DisposableAttemptReservation.new (attempt : DisposableAttemptState)
    (resources : DisposableWorkerResources)
    (preparedTemplateIdentity : DisposablePreparedTemplateIdentity) :
    Except DisposableAttemptCatalogError DisposableAttemptReservation := do
  refuseIf (attempt.phase ≠ .reserved ∨ attempt.revision.val ≠ 1)
    ⟨.corruptState,
      "new disposable reservation must begin at reserved attempt revision one"⟩
  return ⟨attempt, resources, preparedTemplateIdentity⟩

/-- The version of a catalog. -/
def disposableAttemptCatalogSchemaVersion : Nat := 7

/-- The most active attempts. -/
def maxActiveDisposableAttempts : Nat := 64

/-- How many past attempts are kept. -/
def maxDisposableAttemptTombstones : Nat := 64

/-- **The fields of a catalog**, before they are validated. -/
structure CatalogRecord where
  schemaVersion : Nat
  revision : DisposableAttemptCatalogRevision
  active : List DisposableAttemptReservation
  tombstones : List DisposableAttemptState
deriving DecidableEq, Repr

namespace CatalogRecord

variable (c : CatalogRecord)

/-- The attempts, active and past. -/
def attempts : List DisposableAttemptState :=
  c.active.map (·.attempt) ++ c.tombstones

/-- The usage with one more reservation. -/
def addUsage (usage : DisposableHostUsage) (reservation : DisposableAttemptReservation) :
    Except DisposableAttemptCatalogError DisposableHostUsage :=
  if reservation.attempt.phase = .complete then .ok usage
  else do
    let workers ← okOr (checkedAdd (2 ^ 16) usage.workers 1) resourceOverflow
    let cpuMillis ← okOr
      (checkedAdd (2 ^ 32) usage.resources.cpuMillis reservation.resources.cpuMillis)
      resourceOverflow
    let memoryBytes ← okOr
      (checkedAdd u64Size usage.resources.memoryBytes reservation.resources.memoryBytes)
      resourceOverflow
    let diskBytes ← okOr
      (checkedAdd u64Size usage.resources.diskBytes reservation.resources.diskBytes)
      resourceOverflow
    return ⟨workers, ⟨cpuMillis, memoryBytes, diskBytes⟩⟩

/-- **The host usage the active reservations add up to.** -/
def hostUsage : Except DisposableAttemptCatalogError DisposableHostUsage := do
  let usage ← c.active.foldlM addUsage .zero
  if usage.workers = 0 then
    return .zero
  let resources ← (DisposableWorkerResources.new usage.resources).mapError
    (fun _ => resourceOverflow)
  (DisposableHostUsage.new usage.workers resources).mapError (fun _ => resourceOverflow)

/-- **The revision the represented history accounts for**: one for the empty
catalog, every transition of every attempt – its reservation included – and
one more for every retirement. -/
def representedRevision : Option Nat := do
  let revision ← c.active.foldlM
    (fun revision reservation => checkedAdd u64Size revision reservation.attempt.revision.val) 1
  c.tombstones.foldlM
    (fun revision attempt => do
      let revision ← checkedAdd u64Size revision attempt.revision.val
      checkedAdd u64Size revision 1) revision

/-- No identity occurs twice. The program inserts the identities of one
attempt after the other into eight sets and refuses at the first clash,
always with the same error. -/
def IdentitiesDistinct (attempts : List DisposableAttemptState) : Prop :=
  (attempts.map (·.attemptId)).Nodup ∧ (attempts.map (·.capacityClaimId)).Nodup
    ∧ (attempts.map (·.vmId)).Nodup ∧ (attempts.map (·.runnerName)).Nodup
    ∧ (attempts.map (·.runnerRequestId)).Nodup
    ∧ (attempts.filterMap (·.vmIdentity)).Nodup ∧ (attempts.filterMap (·.runnerId)).Nodup
    ∧ (attempts.filterMap (·.githubJobId)).Nodup

instance (attempts : List DisposableAttemptState) : Decidable (IdentitiesDistinct attempts) :=
  inferInstanceAs (Decidable (_ ∧ _))

/-- **The validation of a catalog.** -/
def validate : Except DisposableAttemptCatalogError Unit := do
  refuseIf (c.schemaVersion ≠ disposableAttemptCatalogSchemaVersion)
    ⟨.corruptState, "disposable attempt catalog schema version is unsupported"⟩
  refuseIf (c.active.length > maxActiveDisposableAttempts
      ∨ c.tombstones.length > maxDisposableAttemptTombstones)
    ⟨.corruptState, "disposable attempt catalog exceeds a reviewed entry bound"⟩
  let representedRevision ← okOr c.representedRevision
    ⟨.corruptState, "disposable attempt catalog represented revision overflows"⟩
  refuseIf (¬ if c.tombstones.length < maxDisposableAttemptTombstones then
      c.revision.val = representedRevision else representedRevision ≤ c.revision.val)
    ⟨.corruptState,
      "disposable attempt catalog revision conflicts with represented history"⟩
  refuseIf (∃ r ∈ c.active, r.attempt.phase = .reserved ∧ r.attempt.revision.val ≠ 1)
    ⟨.corruptState, "reserved disposable attempt must remain at attempt revision one"⟩
  refuseIf (¬ IdentitiesDistinct c.attempts) duplicateIdentity
  refuseIf (∃ a ∈ c.tombstones, a.phase ≠ .complete)
    ⟨.corruptState, "disposable attempt replay history contains an incomplete attempt"⟩
  let _ ← c.hostUsage

end CatalogRecord

/-- **A catalog**: a record that validates. -/
structure DisposableAttemptCatalogDocument extends CatalogRecord where
  valid : toCatalogRecord.validate = .ok ()
deriving DecidableEq, Repr

/-- **What an action makes of an attempt**, with the refusal reported as a
catalog error. -/
def applyAction (current : DisposableAttemptState) (action : DisposableAttemptCatalogAction) :
    Except DisposableAttemptCatalogError DisposableAttemptState :=
  (current.perform action).mapError (fun error =>
    ⟨if error.code = "identity_drift" then .identityDrift else .invalidAction,
      if error.code = "identity_drift" then
        "disposable attempt action conflicts with durable identity"
      else if error.code = "invalid_transition" then
        "disposable attempt action is invalid for the current phase"
      else "disposable attempt action produced invalid durable state"⟩)

theorem applyAction_eq_ok {s n : DisposableAttemptState} {action : DisposableAttemptCatalogAction} :
    applyAction s action = .ok n ↔ s.perform action = .ok n :=
  mapError_eq_ok

namespace DisposableAttemptCatalogDocument

/-- A catalog that passes its checks. -/
def accept (r : CatalogRecord) :
    Except DisposableAttemptCatalogError DisposableAttemptCatalogDocument :=
  match h : r.validate with
  | .ok () => .ok ⟨r, h⟩
  | .error e => .error e

/-- **An accepted catalog is the record that was accepted.** -/
theorem accept_eq_ok {r : CatalogRecord} {c : DisposableAttemptCatalogDocument} :
    accept r = .ok c ↔ c.toCatalogRecord = r := by
  unfold accept
  constructor
  · intro h
    split at h <;> simp at h
    rw [← h]
  · intro h
    subst h
    split
    · rfl
    · rename_i e he
      rw [c.valid] at he
      cases he

/-- **The empty catalog.** -/
def empty : DisposableAttemptCatalogDocument where
  schemaVersion := disposableAttemptCatalogSchemaVersion
  revision := .first
  active := []
  tombstones := []
  valid := by decide

section Operations

variable (c : DisposableAttemptCatalogDocument) (attemptId : DisposableAttemptId)

/-- The active attempt of a name. -/
def findActive : Option DisposableAttemptReservation :=
  c.active.find? (fun reservation => reservation.attempt.attemptId = attemptId)

/-- The past attempt of a name. -/
def findTombstone : Option DisposableAttemptState :=
  c.tombstones.find? (fun attempt => attempt.attemptId = attemptId)

variable (requestId : ScaleSetRunnerRequestId)

/-- The active attempt of a request. -/
def findActiveByRunnerRequestId : Option DisposableAttemptReservation :=
  c.active.find? (fun reservation => reservation.attempt.runnerRequestId = requestId)

/-- The past attempt of a request. -/
def findTombstoneByRunnerRequestId : Option DisposableAttemptState :=
  c.tombstones.find? (fun attempt => attempt.runnerRequestId = requestId)

/-- Where an active attempt is. -/
def position : Option (Fin c.active.length) :=
  c.active.findFinIdx? (fun reservation => reservation.attempt.attemptId = attemptId)

/-- **Reserve a fresh attempt.** Reserving the same reservation again
changes nothing. -/
def reserve (reservation : DisposableAttemptReservation) :
    Except DisposableAttemptCatalogError DisposableAttemptCatalogDocument :=
  match c.findActive reservation.attempt.attemptId with
  | some existing =>
    if existing = reservation then .ok c
    else .error ⟨.alreadyExists,
      "disposable attempt already exists with different durable evidence"⟩
  | none => do
    refuseIf (c.findTombstone reservation.attempt.attemptId).isSome
      ⟨.alreadyExists, "completed disposable attempt identity remains in replay history"⟩
    refuseIf (c.active.length ≥ maxActiveDisposableAttempts)
      ⟨.limitExceeded, "active disposable attempt limit is reached"⟩
    let revision ← c.revision.next
    accept { c.toCatalogRecord with revision, active := c.active ++ [reservation] }

variable (expectedAttemptRevision : DisposableAttemptRevision)

/-- **Replace an active attempt by what an action makes of it.** An action
that changes nothing changes nothing. -/
def replaceAttempt (action : DisposableAttemptCatalogAction) :
    Except DisposableAttemptCatalogError DisposableAttemptCatalogDocument := do
  let index ← okOr (c.position attemptId) missingAttempt
  let current := c.active.get index
  refuseIf (current.attempt.revision ≠ expectedAttemptRevision) staleAttemptRevision
  let successor ← applyAction current.attempt action
  if successor = current.attempt then
    return c
  let revision ← c.revision.next
  accept { c.toCatalogRecord with
    revision, active := c.active.set index { current with attempt := successor } }

/-- Remember a completed attempt, and forget the oldest one when there are
too many. -/
def pushTombstone (tombstones : List DisposableAttemptState)
    (retired : DisposableAttemptState) : List DisposableAttemptState :=
  let pushed := tombstones ++ [retired]
  if pushed.length > maxDisposableAttemptTombstones then pushed.tail else pushed

/-- **Move a completed attempt to the history.** -/
def retireComplete : Except DisposableAttemptCatalogError DisposableAttemptCatalogDocument := do
  let index ← okOr (c.position attemptId) missingAttempt
  let current := c.active.get index
  refuseIf (current.attempt.revision ≠ expectedAttemptRevision) staleAttemptRevision
  refuseIf (current.attempt.phase ≠ .complete)
    ⟨.invalidAction, "only a complete disposable attempt may enter replay history"⟩
  let revision ← c.revision.next
  accept { c.toCatalogRecord with
    revision
    active := c.active.eraseIdx index
    tombstones := pushTombstone c.tombstones current.attempt }

/-- **Bind the machine identity after the clone.** Only the private runtime
transaction does this; it is no action of the catalog. -/
def bindVmIdentityAfterClone (attemptId : DisposableAttemptId)
    (expectedAttemptRevision : DisposableAttemptRevision) (identity : DisposableVmIdentity) :
    Except DisposableAttemptCatalogError DisposableAttemptCatalogDocument := do
  let index ← okOr (c.position attemptId) missingAttempt
  let current := c.active.get index
  refuseIf (current.attempt.revision ≠ expectedAttemptRevision) staleAttemptRevision
  let successor ← (current.attempt.bindVmIdentityAfterClone identity).mapError
    (fun _ => ⟨.invalidAction, "clone completion cannot bind VM identity"⟩)
  let revision ← c.revision.next
  accept { c.toCatalogRecord with
    revision, active := c.active.set index { current with attempt := successor } }

/-- **Release an attempt that never had a machine**: it gives its capacity
up, completes and moves to the history, each step through the catalog. The
program writes these steps out in three places, which differ in how the
attempt is looked up again between them and in how a step is refused. -/
def releaseUnprovisioned {ε : Type}
    (find : DisposableAttemptCatalogDocument → Option DisposableAttemptReservation)
    (conflict missing : ε) (reservation : DisposableAttemptReservation) :
    Except ε DisposableAttemptCatalogDocument := do
  let attemptId := reservation.attempt.attemptId
  let releasing ← (c.replaceAttempt attemptId reservation.attempt.revision
    .beginUnprovisionedRelease).mapError (fun _ => conflict)
  let releasingAttempt ← okOr (find releasing) missing
  let complete ← (releasing.replaceAttempt attemptId releasingAttempt.attempt.revision
    .completeUnprovisioned).mapError (fun _ => conflict)
  let completeAttempt ← okOr (find complete) missing
  (complete.retireComplete attemptId completeAttempt.attempt.revision).mapError
    (fun _ => conflict)

end Operations

/-! ## Successors the store accepts -/

section Successors

variable (c current : DisposableAttemptCatalogDocument)

/-- The reservations that differ from those at the same place of the current
catalog, each with the one it replaces. -/
def changes : List (DisposableAttemptReservation × DisposableAttemptReservation) :=
  (c.active.zip current.active).filter (fun pair => pair.1 ≠ pair.2)

/-- One attempt was added. -/
def isReservationOf : Bool :=
  match c.active.getLast? with
  | some reservation =>
    c.active.length = current.active.length + 1 && okIs (current.reserve reservation) c
  | none => false

/-- One attempt went one step. -/
def isTransitionOf : Bool :=
  c.active.length = current.active.length && c.tombstones = current.tombstones
    && match c.changes current with
      | [(next, prior)] => next.resources = prior.resources
          && next.preparedTemplateIdentity = prior.preparedTemplateIdentity
          && next.attempt.isExactSuccessorOf prior.attempt
      | _ => false

/-- One attempt was retired. -/
def isRetirementOf : Bool :=
  current.active.any (fun reservation =>
    okIs (current.retireComplete reservation.attempt.attemptId reservation.attempt.revision) c)

/-- **A replacement of the current catalog**: one reservation, one step or one
retirement. -/
def validateSuccessorOf : Except DisposableAttemptCatalogError Unit := do
  current.validate
  c.validate
  let revision ← current.revision.next
  refuseIf (c.revision ≠ revision) invalidStoreSuccessor
  refuseIf (¬ (c.isReservationOf current ∨ c.isTransitionOf current ∨ c.isRetirementOf current))
    invalidStoreSuccessor

/-- One attempt that had started its clone learnt the identity of the
machine, and nothing else changed. -/
def isIdentityBind (next prior : DisposableAttemptReservation) : Bool :=
  next.resources = prior.resources
    && next.preparedTemplateIdentity = prior.preparedTemplateIdentity
    && prior.attempt.phase = .cloneStarted && prior.attempt.revision.val = 3
    && prior.attempt.vmIdentity.isNone
    && next.attempt.phase = .cloneStarted && next.attempt.revision.val = 4
    && next.attempt.vmIdentity.isSome
    && next.attempt.attemptId = prior.attempt.attemptId
    && next.attempt.capacityClaimId = prior.attempt.capacityClaimId
    && next.attempt.vmId = prior.attempt.vmId
    && next.attempt.runnerName = prior.attempt.runnerName
    && next.attempt.runnerRequestId = prior.attempt.runnerRequestId
    && next.attempt.runnerId = prior.attempt.runnerId
    && next.attempt.githubJobId = prior.attempt.githubJobId
    && next.attempt.result = prior.attempt.result
    && next.attempt.notAfter = prior.attempt.notAfter

/-- **What may be left staged beside the current catalog**: a replacement, or
the bind of a machine identity. -/
def validateRecoverySuccessorOf : Except DisposableAttemptCatalogError Unit :=
  if (c.validateSuccessorOf current).isOk then .ok ()
  else do
    current.validate
    c.validate
    let revision ← current.revision.next
    refuseIf (c.revision ≠ revision ∨ c.active.length ≠ current.active.length
      ∨ c.tombstones ≠ current.tombstones) invalidStoreSuccessor
    match c.changes current with
    | [(next, prior)] => refuseIf (¬ isIdentityBind next prior) invalidStoreSuccessor
    | _ => throw invalidStoreSuccessor

end Successors

end DisposableAttemptCatalogDocument

end Glaeda
