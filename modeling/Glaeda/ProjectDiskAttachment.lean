import Glaeda.ProjectDiskLease

/-!
# Attaching a project disk

A disk is attached by a process outside of the program, and nobody knows what
became of it when the program is interrupted. So an attachment is a
transaction with a record of its own: it is authorised for one plan of the
lease, started once, and then either **observed** – and the attached lease is
published – or found not to have happened. Everything the record is told comes
with evidence, and the evidence has to name the disk, the transaction and the
attachment.

The record carries a plan of the lease without looking at all of it. It checks
the revision of the plan, but neither the disk the plan is about nor the
generation of its attachment. Those are checked at the very end, when the
attached lease is published: so **a plan of another lease is started and
observed, and then cannot be published** (`publishes_iff`).
-/

namespace Glaeda

open Checked ProjectDiskLeaseRecord

/-! ## The record of an attachment -/

/-- How often a record was changed. -/
abbrev ProjectDiskAttachmentRevision := PositiveU64 "project_disk_attachment_revision"

/-- The number of a transaction. -/
abbrev ProjectDiskAttachTransactionGeneration :=
  PositiveU64 "project_disk_attach_transaction_generation"

/-- How often a disk was formatted. -/
abbrev ProjectDiskFilesystemGeneration := PositiveU64 "project_disk_filesystem_generation"

/-- The version of a format. -/
abbrev ProjectDiskFilesystemFormatProfileGeneration :=
  PositiveU64 "project_disk_filesystem_format_profile_generation"

/-- The filesystem of a disk. -/
inductive ProjectDiskFilesystemKind where
  | ext4
  | xfs
deriving DecidableEq, Repr

/-- **A filesystem on a disk.** -/
structure ProjectDiskFilesystemBinding where
  schemaVersion : Nat
  project : ProjectIdentity
  diskId : ProjectDiskId
  diskGeneration : ProjectDiskGeneration
  filesystemGeneration : ProjectDiskFilesystemGeneration
  formatProfileGeneration : ProjectDiskFilesystemFormatProfileGeneration
  kind : ProjectDiskFilesystemKind

/-- The filesystem is on this disk. -/
def ProjectDiskFilesystemBinding.matchesProjectDisk (binding : ProjectDiskFilesystemBinding)
    (record : ProjectDiskLeaseRecord) : Bool :=
  record.project = binding.project ∧ record.diskId = binding.diskId
    ∧ record.diskGeneration = binding.diskGeneration

/-- **The authority to track a disk**: it was formatted and is detached. -/
structure ProjectDiskFormattedDetachedAuthority where
  filesystem : ProjectDiskFilesystemBinding
  physicalIdentityDigest : Sha256Digest
  backingIdentityDigest : Sha256Digest
  formatOutcomeDigest : Sha256Digest

/-- Why a disk is set aside. -/
inductive ProjectDiskAttachQuarantineReason where
  | conflictingPhysicalState
  | wrongResidentAttachment
deriving DecidableEq, Repr

/-- **What was observed of an attachment.** -/
structure ProjectDiskAttachmentReceipt where
  transactionGeneration : ProjectDiskAttachTransactionGeneration
  diskRevision : ProjectDiskRevision
  attachmentGeneration : ProjectDiskAttachmentGeneration
  sandboxId : ResidentSandboxId
  sandboxGeneration : ResidentSandboxGeneration
  filesystemGeneration : ProjectDiskFilesystemGeneration
  formatProfileGeneration : ProjectDiskFilesystemFormatProfileGeneration
  filesystemKind : ProjectDiskFilesystemKind
  physicalIdentityDigest : Sha256Digest
  backingIdentityDigest : Sha256Digest
  correlationDigest : Sha256Digest

/-- **A transaction**, from when it is authorised on: the fields three of the
states have in common. -/
structure ProjectDiskAttachTransaction where
  transactionGeneration : ProjectDiskAttachTransactionGeneration
  expectedDiskRevision : ProjectDiskRevision
  attachment : ProjectDiskAttachmentLease

/-- How far an attachment is. -/
inductive ProjectDiskAttachmentState where
  | formattedDetached
  | attachAuthorized (transaction : ProjectDiskAttachTransaction)
  | attachStarted (transaction : ProjectDiskAttachTransaction)
  | attachRecoveryRequired (transaction : ProjectDiskAttachTransaction)
  | attachmentObserved (receipt : ProjectDiskAttachmentReceipt)
  | quarantined (transactionGeneration : ProjectDiskAttachTransactionGeneration)
    (reason : ProjectDiskAttachQuarantineReason)

/-- **The record of the attachments of a disk.** -/
structure ProjectDiskAttachmentRecord where
  schemaVersion : Nat
  project : ProjectIdentity
  diskId : ProjectDiskId
  diskGeneration : ProjectDiskGeneration
  filesystem : ProjectDiskFilesystemBinding
  physicalIdentityDigest : Sha256Digest
  backingIdentityDigest : Sha256Digest
  formatOutcomeDigest : Sha256Digest
  revision : ProjectDiskAttachmentRevision
  lastTransactionGeneration : Option ProjectDiskAttachTransactionGeneration
  state : ProjectDiskAttachmentState

/-! ## Errors -/

/-- The kinds of refusal. -/
inductive ProjectDiskAttachmentStateErrorKind where
  | invalidGeneration
  | invalidInput
  | invalidState
  | planMismatch
  | evidenceMismatch
  | generationExhausted
  | p1
deriving DecidableEq, Repr

/-- A refusal, with its code and text. -/
structure ProjectDiskAttachmentStateError where
  kind : ProjectDiskAttachmentStateErrorKind
  code : String
  message : String
deriving DecidableEq, Repr

namespace ProjectDiskAttachmentStateError

/-- The plan is for something else. -/
def planMismatch : ProjectDiskAttachmentStateError :=
  ⟨.planMismatch, "project_disk_attachment_plan_mismatch",
    "project disk attachment plan does not match current authority"⟩

/-- The proof is about something else. -/
def evidenceMismatch : ProjectDiskAttachmentStateError :=
  ⟨.evidenceMismatch, "project_disk_attachment_evidence_mismatch",
    "project disk attachment evidence does not match the active transaction"⟩

/-- Nothing was started. -/
def startedRequired : ProjectDiskAttachmentStateError :=
  ⟨.invalidState, "project_disk_attachment_started_required",
    "project disk attachment recovery requires a started transaction"⟩

/-- The numbers have run out. -/
def exhausted : ProjectDiskAttachmentStateError :=
  ⟨.generationExhausted, "project_disk_attachment_generation_exhausted",
    "project disk attachment generation is exhausted"⟩

/-- The disk is not detached. -/
def requiresFormattedDetached : ProjectDiskAttachmentStateError :=
  ⟨.invalidState, "project_disk_p4_attach_requires_formatted_detached",
    "project disk attachment requires formatted-detached state"⟩

/-- The start was not allowed. -/
def startRequiresAuthorized : ProjectDiskAttachmentStateError :=
  ⟨.invalidState, "project_disk_p4_attach_start_requires_authorized",
    "project disk attach start requires an authorized transaction"⟩

/-- The attachment was not seen. -/
def observationRequired : ProjectDiskAttachmentStateError :=
  ⟨.invalidState, "project_disk_p4_attach_observation_required",
    "P1 attach publication requires exact P4 attachment observation"⟩

/-- The lease refused. -/
def ofLease (_ : ProjectDiskLeaseError) : ProjectDiskAttachmentStateError :=
  ⟨.p1, "project_disk_attachment_p1_rejected",
    "P1 project disk lease rejected the attachment publication"⟩

end ProjectDiskAttachmentStateError

open ProjectDiskAttachmentStateError

/-! ## Plans and evidence -/

/-- **The intent to attach.** -/
structure ProjectDiskAttachmentIntent where
  project : ProjectIdentity
  diskId : ProjectDiskId
  diskGeneration : ProjectDiskGeneration
  expectedRecordRevision : ProjectDiskAttachmentRevision
  expectedDiskRevision : ProjectDiskRevision
  transactionGeneration : ProjectDiskAttachTransactionGeneration
  attachment : ProjectDiskAttachmentLease

/-- **The plan to start a transaction.** -/
structure ProjectDiskAttachmentStartPlan where
  project : ProjectIdentity
  diskId : ProjectDiskId
  diskGeneration : ProjectDiskGeneration
  attachmentRecordRevision : ProjectDiskAttachmentRevision
  transactionGeneration : ProjectDiskAttachTransactionGeneration
  expectedDiskRevision : ProjectDiskRevision
  attachment : ProjectDiskAttachmentLease
  filesystemGeneration : ProjectDiskFilesystemGeneration
  formatProfileGeneration : ProjectDiskFilesystemFormatProfileGeneration
  filesystemKind : ProjectDiskFilesystemKind
  formatOutcomeDigest : Sha256Digest

/-- The disk can be attached. -/
structure ProjectDiskAttachPreconditionProof where
  project : ProjectIdentity
  diskId : ProjectDiskId
  diskGeneration : ProjectDiskGeneration
  physicalIdentityDigest : Sha256Digest
  backingIdentityDigest : Sha256Digest
  diskRevision : ProjectDiskRevision
  attachment : ProjectDiskAttachmentLease
  filesystemGeneration : ProjectDiskFilesystemGeneration
  formatProfileGeneration : ProjectDiskFilesystemFormatProfileGeneration
  filesystemKind : ProjectDiskFilesystemKind
  formatOutcomeDigest : Sha256Digest
  physicalExactDetachedUnused : Bool

/-- The disk is attached. -/
structure ProjectDiskAttachmentSuccessProof where
  project : ProjectIdentity
  diskId : ProjectDiskId
  diskGeneration : ProjectDiskGeneration
  transactionGeneration : ProjectDiskAttachTransactionGeneration
  physicalIdentityDigest : Sha256Digest
  backingIdentityDigest : Sha256Digest
  diskRevision : ProjectDiskRevision
  attachment : ProjectDiskAttachmentLease
  filesystemGeneration : ProjectDiskFilesystemGeneration
  formatProfileGeneration : ProjectDiskFilesystemFormatProfileGeneration
  filesystemKind : ProjectDiskFilesystemKind
  hostPhysicalIdentityBound : Bool
  residentHostIdentityBound : Bool
  guestFilesystemDeviceBound : Bool
  wholeBlockDeviceBound : Bool
  correlationDigest : Sha256Digest

/-- The disk is still detached. -/
structure ProjectDiskAttachDetachedProof where
  project : ProjectIdentity
  diskId : ProjectDiskId
  diskGeneration : ProjectDiskGeneration
  transactionGeneration : ProjectDiskAttachTransactionGeneration
  physicalIdentityDigest : Sha256Digest
  backingIdentityDigest : Sha256Digest
  diskRevision : ProjectDiskRevision
  attachment : ProjectDiskAttachmentLease
  exactDetachedUnused : Bool

/-- The earlier attempt does nothing any more. -/
structure ProjectDiskPriorAttachQuiescentProof where
  project : ProjectIdentity
  diskId : ProjectDiskId
  diskGeneration : ProjectDiskGeneration
  transactionGeneration : ProjectDiskAttachTransactionGeneration
  physicalIdentityDigest : Sha256Digest
  backingIdentityDigest : Sha256Digest
  attachment : ProjectDiskAttachmentLease

/-! ## Transitions -/

/-- The version of a record. -/
def projectDiskAttachmentStateSchemaVersion : Nat := 1

/-- The digest of nothing. -/
def zeroDigest : String := "sha256:0000000000000000000000000000000000000000000000000000000000000000"

namespace ProjectDiskAttachmentRecord

/-- **The record of a formatted disk.** -/
def fromFormattedDetached (authority : ProjectDiskFormattedDetachedAuthority) :
    ProjectDiskAttachmentRecord where
  schemaVersion := projectDiskAttachmentStateSchemaVersion
  project := authority.filesystem.project
  diskId := authority.filesystem.diskId
  diskGeneration := authority.filesystem.diskGeneration
  filesystem := authority.filesystem
  physicalIdentityDigest := authority.physicalIdentityDigest
  backingIdentityDigest := authority.backingIdentityDigest
  formatOutcomeDigest := authority.formatOutcomeDigest
  revision := .first _
  lastTransactionGeneration := none
  state := .formattedDetached

variable (r : ProjectDiskAttachmentRecord)

/-- The number of the next transaction. -/
def nextTransactionGeneration :
    Except ProjectDiskAttachmentStateError ProjectDiskAttachTransactionGeneration :=
  match r.lastTransactionGeneration with
  | some generation => generation.next exhausted
  | none => .ok (.first _)

/-- The next record. -/
def successor (state : ProjectDiskAttachmentState)
    (lastTransactionGeneration : Option ProjectDiskAttachTransactionGeneration) :
    Except ProjectDiskAttachmentStateError ProjectDiskAttachmentRecord := do
  let revision ← r.revision.next exhausted
  return { r with revision, lastTransactionGeneration, state }

/-- The plan is for this disk, still detached. -/
def confirmCurrentDetachedPlan (current : ProjectDiskLeaseRecord) (plan : ProjectDiskAttachPlan) :
    Except ProjectDiskAttachmentStateError Unit :=
  refuseIf (current.project ≠ r.project ∨ current.diskId ≠ r.diskId
    ∨ current.diskGeneration ≠ r.diskGeneration
    ∨ current.revision ≠ plan.identity.expectedRevision ∨ current.state ≠ .detached
    ∨ r.filesystem.matchesProjectDisk current = false) planMismatch

/-- The disk is detached. -/
def requireFormattedDetached : Except ProjectDiskAttachmentStateError Unit :=
  match r.state with
  | .formattedDetached => .ok ()
  | _ => .error requiresFormattedDetached

/-- The transaction that may start. -/
def authorizedTransaction : Except ProjectDiskAttachmentStateError ProjectDiskAttachTransaction :=
  match r.state with
  | .attachAuthorized transaction => .ok transaction
  | _ => .error startRequiresAuthorized

/-- The transaction that was started. -/
def startedTransaction : Except ProjectDiskAttachmentStateError ProjectDiskAttachTransaction :=
  match r.state with
  | .attachStarted transaction | .attachRecoveryRequired transaction => .ok transaction
  | _ => .error startedRequired

end ProjectDiskAttachmentRecord

/-- The proof is about this disk and plan. -/
def ProjectDiskAttachPreconditionProof.confirm (proof : ProjectDiskAttachPreconditionProof)
    (record : ProjectDiskAttachmentRecord) (current : ProjectDiskLeaseRecord)
    (plan : ProjectDiskAttachPlan) : Except ProjectDiskAttachmentStateError Unit :=
  refuseIf (proof.project ≠ record.project ∨ proof.diskId ≠ record.diskId
    ∨ proof.diskGeneration ≠ record.diskGeneration
    ∨ proof.physicalIdentityDigest ≠ record.physicalIdentityDigest
    ∨ proof.backingIdentityDigest ≠ record.backingIdentityDigest
    ∨ proof.diskRevision ≠ current.revision ∨ proof.attachment ≠ plan.attachment
    ∨ proof.filesystemGeneration ≠ record.filesystem.filesystemGeneration
    ∨ proof.formatProfileGeneration ≠ record.filesystem.formatProfileGeneration
    ∨ proof.filesystemKind ≠ record.filesystem.kind
    ∨ proof.formatOutcomeDigest ≠ record.formatOutcomeDigest
    ∨ proof.physicalExactDetachedUnused = false) evidenceMismatch

/-- The intent is for this disk and plan. -/
def ProjectDiskAttachmentIntent.confirm (intent : ProjectDiskAttachmentIntent)
    (record : ProjectDiskAttachmentRecord) (current : ProjectDiskLeaseRecord)
    (plan : ProjectDiskAttachPlan) : Except ProjectDiskAttachmentStateError Unit := do
  -- the fields before the generation are compared first: a mismatch there is
  -- reported even when there is no next generation
  refuseIf (intent.project ≠ record.project ∨ intent.diskId ≠ record.diskId
    ∨ intent.diskGeneration ≠ record.diskGeneration
    ∨ intent.expectedRecordRevision ≠ record.revision
    ∨ intent.expectedDiskRevision ≠ current.revision) planMismatch
  let generation ← record.nextTransactionGeneration
  refuseIf (intent.transactionGeneration ≠ generation ∨ intent.attachment ≠ plan.attachment)
    planMismatch

/-- The start is that of the transaction. -/
def ProjectDiskAttachmentStartPlan.confirm (start : ProjectDiskAttachmentStartPlan)
    (record : ProjectDiskAttachmentRecord) (transaction : ProjectDiskAttachTransaction) :
    Except ProjectDiskAttachmentStateError Unit :=
  refuseIf (start.project ≠ record.project ∨ start.diskId ≠ record.diskId
    ∨ start.diskGeneration ≠ record.diskGeneration
    ∨ start.attachmentRecordRevision ≠ record.revision
    ∨ start.transactionGeneration ≠ transaction.transactionGeneration
    ∨ start.expectedDiskRevision ≠ transaction.expectedDiskRevision
    ∨ start.attachment ≠ transaction.attachment
    ∨ start.filesystemGeneration ≠ record.filesystem.filesystemGeneration
    ∨ start.formatProfileGeneration ≠ record.filesystem.formatProfileGeneration
    ∨ start.filesystemKind ≠ record.filesystem.kind
    ∨ start.formatOutcomeDigest ≠ record.formatOutcomeDigest) planMismatch

/-- The proof is about the transaction. -/
def ProjectDiskAttachmentSuccessProof.confirm (proof : ProjectDiskAttachmentSuccessProof)
    (record : ProjectDiskAttachmentRecord) (transaction : ProjectDiskAttachTransaction) :
    Except ProjectDiskAttachmentStateError Unit :=
  refuseIf (proof.project ≠ record.project ∨ proof.diskId ≠ record.diskId
    ∨ proof.diskGeneration ≠ record.diskGeneration
    ∨ proof.transactionGeneration ≠ transaction.transactionGeneration
    ∨ proof.physicalIdentityDigest ≠ record.physicalIdentityDigest
    ∨ proof.backingIdentityDigest ≠ record.backingIdentityDigest
    ∨ proof.diskRevision ≠ transaction.expectedDiskRevision
    ∨ proof.attachment ≠ transaction.attachment
    ∨ proof.filesystemGeneration ≠ record.filesystem.filesystemGeneration
    ∨ proof.formatProfileGeneration ≠ record.filesystem.formatProfileGeneration
    ∨ proof.filesystemKind ≠ record.filesystem.kind ∨ proof.hostPhysicalIdentityBound = false
    ∨ proof.residentHostIdentityBound = false ∨ proof.guestFilesystemDeviceBound = false
    ∨ proof.wholeBlockDeviceBound = false ∨ proof.correlationDigest.value = zeroDigest)
    evidenceMismatch

/-- The proof is about the transaction. -/
def ProjectDiskAttachDetachedProof.confirm (proof : ProjectDiskAttachDetachedProof)
    (record : ProjectDiskAttachmentRecord) (transaction : ProjectDiskAttachTransaction) :
    Except ProjectDiskAttachmentStateError Unit :=
  refuseIf (proof.project ≠ record.project ∨ proof.diskId ≠ record.diskId
    ∨ proof.diskGeneration ≠ record.diskGeneration
    ∨ proof.transactionGeneration ≠ transaction.transactionGeneration
    ∨ proof.physicalIdentityDigest ≠ record.physicalIdentityDigest
    ∨ proof.backingIdentityDigest ≠ record.backingIdentityDigest
    ∨ proof.diskRevision ≠ transaction.expectedDiskRevision
    ∨ proof.attachment ≠ transaction.attachment ∨ proof.exactDetachedUnused = false)
    evidenceMismatch

/-- The proof is about the transaction. -/
def ProjectDiskPriorAttachQuiescentProof.confirm (proof : ProjectDiskPriorAttachQuiescentProof)
    (record : ProjectDiskAttachmentRecord) (transaction : ProjectDiskAttachTransaction) :
    Except ProjectDiskAttachmentStateError Unit :=
  refuseIf (proof.project ≠ record.project ∨ proof.diskId ≠ record.diskId
    ∨ proof.diskGeneration ≠ record.diskGeneration
    ∨ proof.transactionGeneration ≠ transaction.transactionGeneration
    ∨ proof.physicalIdentityDigest ≠ record.physicalIdentityDigest
    ∨ proof.backingIdentityDigest ≠ record.backingIdentityDigest
    ∨ proof.attachment ≠ transaction.attachment) evidenceMismatch

namespace ProjectDiskAttachmentRecord

variable (r : ProjectDiskAttachmentRecord)
variable (cur : ProjectDiskLeaseRecord) (plan : ProjectDiskAttachPlan)

/-- **Plan an attachment.** -/
def planAttach (precondition : ProjectDiskAttachPreconditionProof) :
    Except ProjectDiskAttachmentStateError ProjectDiskAttachmentIntent := do
  r.requireFormattedDetached
  r.confirmCurrentDetachedPlan cur plan
  precondition.confirm r cur plan
  let transactionGeneration ← r.nextTransactionGeneration
  return {
    project := r.project
    diskId := r.diskId
    diskGeneration := r.diskGeneration
    expectedRecordRevision := r.revision
    expectedDiskRevision := cur.revision
    transactionGeneration
    attachment := plan.attachment }

/-- **Authorise a transaction.** -/
def recordAttachAuthorized (intent : ProjectDiskAttachmentIntent) :
    Except ProjectDiskAttachmentStateError ProjectDiskAttachmentRecord := do
  r.requireFormattedDetached
  r.confirmCurrentDetachedPlan cur plan
  intent.confirm r cur plan
  r.successor
    (.attachAuthorized ⟨intent.transactionGeneration, intent.expectedDiskRevision,
      intent.attachment⟩)
    (some intent.transactionGeneration)

/-- **Plan the start** of the transaction that is authorised. -/
def planAttachStart : Except ProjectDiskAttachmentStateError ProjectDiskAttachmentStartPlan := do
  let transaction ← r.authorizedTransaction
  return {
    project := r.project
    diskId := r.diskId
    diskGeneration := r.diskGeneration
    attachmentRecordRevision := r.revision
    transactionGeneration := transaction.transactionGeneration
    expectedDiskRevision := transaction.expectedDiskRevision
    attachment := transaction.attachment
    filesystemGeneration := r.filesystem.filesystemGeneration
    formatProfileGeneration := r.filesystem.formatProfileGeneration
    filesystemKind := r.filesystem.kind
    formatOutcomeDigest := r.formatOutcomeDigest }

/-- **Start it.** From here on it may have happened. -/
def recordAttachStarted (start : ProjectDiskAttachmentStartPlan) :
    Except ProjectDiskAttachmentStateError ProjectDiskAttachmentRecord := do
  let transaction ← r.authorizedTransaction
  start.confirm r transaction
  r.successor (.attachStarted transaction) r.lastTransactionGeneration

/-- The outcome is not known. -/
def requireAttachRecovery : Except ProjectDiskAttachmentStateError ProjectDiskAttachmentRecord :=
  match r.state with
  | .attachStarted transaction =>
    r.successor (.attachRecoveryRequired transaction) r.lastTransactionGeneration
  | _ => .error startedRequired

/-- What is kept of an attachment. -/
def receipt (transaction : ProjectDiskAttachTransaction)
    (proof : ProjectDiskAttachmentSuccessProof) : ProjectDiskAttachmentReceipt where
  transactionGeneration := transaction.transactionGeneration
  diskRevision := transaction.expectedDiskRevision
  attachmentGeneration := transaction.attachment.generation
  sandboxId := transaction.attachment.sandboxId
  sandboxGeneration := transaction.attachment.sandboxGeneration
  filesystemGeneration := r.filesystem.filesystemGeneration
  formatProfileGeneration := r.filesystem.formatProfileGeneration
  filesystemKind := r.filesystem.kind
  physicalIdentityDigest := r.physicalIdentityDigest
  backingIdentityDigest := r.backingIdentityDigest
  correlationDigest := proof.correlationDigest

/-- **The attachment was observed.** -/
def recordAttachmentObserved (proof : ProjectDiskAttachmentSuccessProof) :
    Except ProjectDiskAttachmentStateError ProjectDiskAttachmentRecord := do
  let transaction ← r.startedTransaction
  proof.confirm r transaction
  r.successor (.attachmentObserved (r.receipt transaction proof))
    r.lastTransactionGeneration

/-- **Publish the attached lease.** -/
def acceptP1AttachSuccess (proof : ProjectDiskAttachmentSuccessProof) :
    Except ProjectDiskAttachmentStateError ProjectDiskLeaseRecord :=
  match r.state with
  | .attachmentObserved receipt => do
    r.confirmCurrentDetachedPlan cur plan
    refuseIf (receipt.diskRevision ≠ cur.revision
      ∨ receipt.attachmentGeneration ≠ plan.attachment.generation
      ∨ receipt.sandboxId ≠ plan.attachment.sandboxId
      ∨ receipt.sandboxGeneration ≠ plan.attachment.sandboxGeneration
      ∨ receipt.correlationDigest ≠ proof.correlationDigest) evidenceMismatch
    proof.confirm r ⟨receipt.transactionGeneration, receipt.diskRevision, plan.attachment⟩
    (cur.recordAttachSuccess plan ProjectDiskLeaseRecord.exactCurrentAttachment).mapError ofLease
  | _ => .error observationRequired

/-- **It is over and did not happen**: the disk may be attached again. -/
def recordPriorAttachQuiescentDetached (quiescent : ProjectDiskPriorAttachQuiescentProof)
    (detached : ProjectDiskAttachDetachedProof) :
    Except ProjectDiskAttachmentStateError ProjectDiskAttachmentRecord := do
  let transaction ← r.startedTransaction
  quiescent.confirm r transaction
  detached.confirm r transaction
  r.successor .formattedDetached r.lastTransactionGeneration

/-- The disk is set aside. -/
def quarantineStartedConflict (reason : ProjectDiskAttachQuarantineReason) :
    Except ProjectDiskAttachmentStateError ProjectDiskAttachmentRecord := do
  let transaction ← r.startedTransaction
  r.successor (.quarantined transaction.transactionGeneration reason)
    r.lastTransactionGeneration

/-! ## What the transitions do -/

section Transitions

variable {r} {next : ProjectDiskAttachmentRecord} {cur : ProjectDiskLeaseRecord}
variable {plan : ProjectDiskAttachPlan} {intent : ProjectDiskAttachmentIntent}
variable {state : ProjectDiskAttachmentState} {transaction : ProjectDiskAttachTransaction}
variable {last : Option ProjectDiskAttachTransactionGeneration}
variable {proof : ProjectDiskAttachmentSuccessProof} {start : ProjectDiskAttachmentStartPlan}

theorem successor_eq_ok : r.successor state last = .ok next ↔
    ∃ revision : ProjectDiskAttachmentRevision, revision.val = r.revision.val + 1
      ∧ next = { r with revision, lastTransactionGeneration := last, state } := by
  unfold successor
  rw [bind_eq_ok]
  refine exists_congr fun revision => and_congr PositiveU64.next_eq_ok ?_
  exact ⟨fun h => (Except.ok.inj h).symm, fun h => congrArg Except.ok h.symm⟩

theorem exists_successor (h : r.revision.val + 1 < u64Size) :
    ∃ next, r.successor state last = .ok next :=
  ⟨_, successor_eq_ok.mpr ⟨⟨_, Nat.succ_pos _, h⟩, rfl, rfl⟩⟩

theorem requireFormattedDetached_eq_ok :
    r.requireFormattedDetached = .ok () ↔ r.state = .formattedDetached := by
  unfold requireFormattedDetached
  cases r.state <;> simp

theorem authorizedTransaction_eq_ok :
    r.authorizedTransaction = .ok transaction ↔ r.state = .attachAuthorized transaction := by
  unfold authorizedTransaction
  cases r.state <;> simp

/-- **The states of a transaction that was started.** -/
def Started (state : ProjectDiskAttachmentState) (transaction : ProjectDiskAttachTransaction) :
    Prop :=
  state = .attachStarted transaction ∨ state = .attachRecoveryRequired transaction

theorem startedTransaction_eq_ok :
    r.startedTransaction = .ok transaction ↔ Started r.state transaction := by
  unfold startedTransaction Started
  cases r.state <;> simp

/-- **A transaction is authorised** for the plan, at the revision of the lease. -/
theorem recordAttachAuthorized_eq_ok (h : r.recordAttachAuthorized cur plan intent = .ok next) :
    r.state = .formattedDetached ∧ r.confirmCurrentDetachedPlan cur plan = .ok ()
      ∧ r.nextTransactionGeneration = .ok intent.transactionGeneration
      ∧ r.successor (.attachAuthorized
          ⟨intent.transactionGeneration, cur.revision, plan.attachment⟩)
        (some intent.transactionGeneration) = .ok next := by
  unfold recordAttachAuthorized ProjectDiskAttachmentIntent.confirm at h
  rw [guard_bind_eq_ok, guard_bind_eq_ok, guard_bind_eq_ok, guard_bind_eq_ok, bind_eq_ok,
    requireFormattedDetached_eq_ok, refuseIf_eq_ok] at h
  obtain ⟨hst, hc, ⟨hf, generation, hg, hr⟩, hn⟩ := h
  rw [refuseIf_eq_ok] at hr
  simp only [not_or, not_not] at hf hr
  obtain ⟨rfl, ha⟩ := hr
  rw [ha, hf.2.2.2.2] at hn
  exact ⟨hst, hc, hg, hn⟩

/-- **It is started** from where it was authorised, by a plan for this very
revision. -/
theorem recordAttachStarted_eq_ok (h : r.recordAttachStarted start = .ok next) :
    ∃ transaction, r.state = .attachAuthorized transaction
      ∧ start.confirm r transaction = .ok ()
      ∧ r.successor (.attachStarted transaction) r.lastTransactionGeneration
        = .ok next := by
  obtain ⟨transaction, hst, h⟩ := bind_eq_ok.mp h
  exact ⟨transaction, authorizedTransaction_eq_ok.mp hst, guard_bind_eq_ok.mp h⟩

theorem requireAttachRecovery_eq_ok (h : r.requireAttachRecovery = .ok next) :
    ∃ transaction, r.state = .attachStarted transaction
      ∧ r.successor (.attachRecoveryRequired transaction) r.lastTransactionGeneration
        = .ok next := by
  unfold requireAttachRecovery at h
  split at h
  · exact ⟨_, ‹_›, h⟩
  · cases h

/-- **It is observed** with the evidence for it. -/
theorem recordAttachmentObserved_eq_ok (h : r.recordAttachmentObserved proof = .ok next) :
    ∃ transaction, Started r.state transaction ∧ proof.confirm r transaction = .ok ()
      ∧ r.successor (.attachmentObserved (r.receipt transaction proof))
        r.lastTransactionGeneration = .ok next := by
  obtain ⟨transaction, hst, h⟩ := bind_eq_ok.mp h
  exact ⟨transaction, startedTransaction_eq_ok.mp hst, guard_bind_eq_ok.mp h⟩

/-! ## Publication -/

variable (authorized : ProjectDiskAttachmentRecord)

/-- **A transaction comes to be observed**: it is started and, perhaps after a
recovery, observed with this evidence. -/
def ComesTo (proof : ProjectDiskAttachmentSuccessProof)
    (observed : ProjectDiskAttachmentRecord) : Prop :=
  ∃ start started, authorized.recordAttachStarted start = .ok started
    ∧ (started.recordAttachmentObserved proof = .ok observed
      ∨ ∃ recovering, started.requireAttachRecovery = .ok recovering
        ∧ recovering.recordAttachmentObserved proof = .ok observed)

/-- **A transaction is published**: the lease confirms its plan, and whenever
it is observed, what is published is the attached successor of the lease. -/
def Publishes (current : ProjectDiskLeaseRecord) (plan : ProjectDiskAttachPlan) : Prop :=
  current.confirmAttachPlan plan = .ok () ∧ ∀ observed proof, authorized.ComesTo proof observed →
    ∃ attached,
      current.recordAttachSuccess plan ProjectDiskLeaseRecord.exactCurrentAttachment = .ok attached
        ∧ observed.acceptP1AttachSuccess current plan proof = .ok attached

/-- **Two records of the same disk**, apart from how far they are. -/
def SameDisk (record next : ProjectDiskAttachmentRecord) : Prop :=
  ∃ revision last state,
    next = { record with revision, lastTransactionGeneration := last, state }

theorem SameDisk.of_successor (h : r.successor state last = .ok next) :
    r.SameDisk next ∧ next.state = state ∧ next.lastTransactionGeneration = last
      ∧ next.revision.val = r.revision.val + 1 := by
  obtain ⟨revision, hr, rfl⟩ := successor_eq_ok.mp h
  exact ⟨⟨_, _, _, rfl⟩, rfl, rfl, hr⟩

theorem SameDisk.trans {third : ProjectDiskAttachmentRecord} (h : r.SameDisk next)
    (h' : next.SameDisk third) : r.SameDisk third := by
  obtain ⟨_, _, _, rfl⟩ := h
  obtain ⟨_, _, _, rfl⟩ := h'
  exact ⟨_, _, _, rfl⟩

theorem Started.unique {t t' : ProjectDiskAttachTransaction} (h : Started state t)
    (h' : Started state t') : t = t' := by
  obtain rfl | rfl := h
  · obtain h' | h' := h'
    · exact ProjectDiskAttachmentState.attachStarted.inj h'
    · cases h'
  · obtain h' | h' := h'
    · cases h'
    · exact ProjectDiskAttachmentState.attachRecoveryRequired.inj h'

theorem observed_of_started {started observed : ProjectDiskAttachmentRecord}
    (hs : r.SameDisk started) (hsr : Started started.state transaction)
    (h : started.recordAttachmentObserved proof = .ok observed) :
    r.SameDisk observed ∧ proof.confirm r transaction = .ok ()
      ∧ observed.state = .attachmentObserved (r.receipt transaction proof)
      ∧ observed.revision.val = started.revision.val + 1 := by
  obtain ⟨t, ht, hp, hsc⟩ := recordAttachmentObserved_eq_ok h
  obtain rfl := hsr.unique ht
  obtain ⟨hd, hst, -, hr⟩ := SameDisk.of_successor hsc
  refine ⟨hs.trans hd, ?_, ?_, hr⟩
  · obtain ⟨_, _, _, rfl⟩ := hs
    exact hp
  · obtain ⟨_, _, _, rfl⟩ := hs
    exact hst

/-- **What is observed of a transaction**: its own receipt, with evidence that
confirms it. -/
theorem ComesTo.observed {observed : ProjectDiskAttachmentRecord}
    (h : r.ComesTo proof observed) (hst : r.state = .attachAuthorized transaction) :
    r.SameDisk observed ∧ proof.confirm r transaction = .ok ()
      ∧ observed.state = .attachmentObserved (r.receipt transaction proof)
      ∧ r.revision.val + 2 ≤ observed.revision.val := by
  obtain ⟨start, started, hsr, h⟩ := h
  obtain ⟨t, ht, -, hsc⟩ := recordAttachStarted_eq_ok hsr
  obtain rfl := ProjectDiskAttachmentState.attachAuthorized.inj (hst.symm.trans ht)
  obtain ⟨hsm, hs, -, hrev⟩ := SameDisk.of_successor hsc
  obtain h | ⟨recovering, hr, h⟩ := h
  · obtain ⟨hd, hp, ho, hn⟩ := observed_of_started hsm (.inl hs) h
    exact ⟨hd, hp, ho, by omega⟩
  · obtain ⟨t', ht', hsc'⟩ := requireAttachRecovery_eq_ok hr
    obtain rfl := ProjectDiskAttachmentState.attachStarted.inj (hs.symm.trans ht')
    obtain ⟨hsm', hs', -, hrev'⟩ := SameDisk.of_successor hsc'
    obtain ⟨hd, hp, ho, hn⟩ :=
      observed_of_started (hsm.trans hsm') (.inr hs') h
    exact ⟨hd, hp, ho, by omega⟩

/-- **What is published** of an observed transaction is what the lease makes
of it. -/
theorem acceptP1AttachSuccess_of_observed {observed : ProjectDiskAttachmentRecord}
    {generation : ProjectDiskAttachTransactionGeneration} (hs : r.SameDisk observed)
    (hc : r.confirmCurrentDetachedPlan cur plan = .ok ())
    (hp : proof.confirm r ⟨generation, cur.revision, plan.attachment⟩ = .ok ())
    (hst : observed.state = .attachmentObserved
      (r.receipt ⟨generation, cur.revision, plan.attachment⟩ proof)) :
    observed.acceptP1AttachSuccess cur plan proof
      = (cur.recordAttachSuccess plan
          exactCurrentAttachment).mapError ofLease := by
  obtain ⟨_, _, state, rfl⟩ := hs
  obtain rfl : state = _ := hst
  show (r.confirmCurrentDetachedPlan cur plan >>= fun _ => _) = _
  rw [hc, ok_bind, refuseIf_bind (by simp [receipt])]
  show (proof.confirm r ⟨generation, cur.revision, plan.attachment⟩ >>= fun _ => _) = _
  rw [hp, ok_bind]

/-- A proof about the transaction. -/
def evidence (record : ProjectDiskAttachmentRecord) (transaction : ProjectDiskAttachTransaction)
    (correlationDigest : Sha256Digest) : ProjectDiskAttachmentSuccessProof where
  project := record.project
  diskId := record.diskId
  diskGeneration := record.diskGeneration
  transactionGeneration := transaction.transactionGeneration
  physicalIdentityDigest := record.physicalIdentityDigest
  backingIdentityDigest := record.backingIdentityDigest
  diskRevision := transaction.expectedDiskRevision
  attachment := transaction.attachment
  filesystemGeneration := record.filesystem.filesystemGeneration
  formatProfileGeneration := record.filesystem.formatProfileGeneration
  filesystemKind := record.filesystem.kind
  hostPhysicalIdentityBound := true
  residentHostIdentityBound := true
  guestFilesystemDeviceBound := true
  wholeBlockDeviceBound := true
  correlationDigest := correlationDigest

/-- **Every authorised transaction can be observed**, as long as there are
revisions left. -/
theorem exists_comesTo {digest : Sha256Digest} (hd : digest.value ≠ zeroDigest)
    (hst : r.state = .attachAuthorized transaction)
    (hr : r.revision.val + 2 < u64Size) :
    ∃ observed, r.ComesTo (r.evidence transaction digest) observed := by
  obtain ⟨start, hp, hc⟩ : ∃ start, r.planAttachStart = .ok start
      ∧ start.confirm r transaction = .ok () := by
    unfold planAttachStart
    rw [authorizedTransaction_eq_ok.mpr hst]
    exact ⟨_, rfl, refuseIf_of_not (by simp)⟩
  obtain ⟨started, hs⟩ : ∃ started, r.successor (.attachStarted transaction)
      r.lastTransactionGeneration = .ok started := exists_successor (by omega)
  have hsr : r.recordAttachStarted start = .ok started := by
    unfold recordAttachStarted
    rw [authorizedTransaction_eq_ok.mpr hst, ok_bind, hc, ok_bind, hs]
  obtain ⟨hsm, hn, -, hrev⟩ := SameDisk.of_successor hs
  obtain ⟨observed, ho⟩ : ∃ observed, started.successor
      (.attachmentObserved (started.receipt transaction (r.evidence transaction digest)))
      started.lastTransactionGeneration = .ok observed := exists_successor (by omega)
  refine ⟨observed, start, started, hsr, .inl ?_⟩
  unfold recordAttachmentObserved
  rw [startedTransaction_eq_ok.mpr (.inl hn), ok_bind]
  have hprf : (r.evidence transaction digest).confirm started transaction = .ok () := by
    obtain ⟨_, _, _, rfl⟩ := hsm
    exact refuseIf_of_not (by simp [evidence, hd])
  rw [hprf, ok_bind, ho]

/-- A digest. -/
def sampleDigest : Sha256Digest :=
  ⟨"sha256:1111111111111111111111111111111111111111111111111111111111111111", by decide +kernel⟩

theorem sampleDigest_ne_zeroDigest : sampleDigest.value ≠ zeroDigest := by decide +kernel

/-- **A transaction is published exactly when its plan is one of the lease
itself**, and the lease has another revision – unless the transaction cannot be
observed, because its own record has none. -/
theorem publishes_iff {precondition : ProjectDiskAttachPreconditionProof}
    {authorized : ProjectDiskAttachmentRecord}
    (_hplan : r.planAttach cur plan precondition = .ok intent)
    (h : r.recordAttachAuthorized cur plan intent = .ok authorized) :
    authorized.Publishes cur plan ↔ cur.Plans plan
      ∧ (cur.revision.val + 1 < u64Size ∨ u64Size ≤ r.revision.val + 3) := by
  obtain ⟨-, hcur, -, hsc⟩ := recordAttachAuthorized_eq_ok h
  obtain ⟨hs, hst, -, hrev⟩ := SameDisk.of_successor hsc
  have hcur' : authorized.confirmCurrentDetachedPlan cur plan = .ok () := by
    obtain ⟨_, _, _, rfl⟩ := hs
    exact hcur
  constructor
  · rintro ⟨hcon, hpub⟩
    have hp := confirmAttachPlan_iff.mp hcon
    refine ⟨hp, ?_⟩
    by_contra hr
    rw [not_or, not_le] at hr
    obtain ⟨observed, hc⟩ := exists_comesTo sampleDigest_ne_zeroDigest hst (by omega)
    obtain ⟨attached, hatd, -⟩ := hpub observed _ hc
    exact hr.1 ((exists_recordAttachSuccess hp).mp ⟨_, hatd⟩)
  · rintro ⟨hp, hr⟩
    refine ⟨confirmAttachPlan_iff.mpr hp, fun observed proof hc => ?_⟩
    obtain ⟨hd, hprf, hobs, hl⟩ := hc.observed hst
    have hr' : cur.revision.val + 1 < u64Size := by
      have := observed.revision.lt_size
      omega
    obtain ⟨attached, hatd⟩ :=
      (exists_recordAttachSuccess hp).mpr hr'
    refine ⟨attached, hatd, ?_⟩
    rw [acceptP1AttachSuccess_of_observed hd hcur' hprf hobs, hatd]
    rfl

/-- A disk that was formatted. -/
def sampleAuthority : ProjectDiskFormattedDetachedAuthority where
  filesystem := {
    schemaVersion := 1
    project := ⟨"github.com/owner/project", by decide +kernel⟩
    diskId := ⟨"project-disk", by decide +kernel⟩
    diskGeneration := .first _
    filesystemGeneration := .first _
    formatProfileGeneration := .first _
    kind := .ext4 }
  physicalIdentityDigest := sampleDigest
  backingIdentityDigest := sampleDigest
  formatOutcomeDigest := sampleDigest

/-- The record of that disk. -/
def sampleRecord : ProjectDiskAttachmentRecord := fromFormattedDetached sampleAuthority

/-- The lease of that disk. -/
def sampleLease : ProjectDiskLeaseRecord :=
  .newDetached sampleRecord.project sampleRecord.diskId sampleRecord.diskGeneration

/-- The lease of another disk. -/
def otherLease : ProjectDiskLeaseRecord :=
  .newDetached sampleRecord.project ⟨"other-disk", by decide +kernel⟩ sampleRecord.diskGeneration

/-- An attachment to a sandbox. -/
def sampleAttachment : ProjectDiskAttachmentLease :=
  ⟨.first _, ⟨"sandbox", by decide +kernel⟩, .first _⟩

/-- That disk can be attached. -/
def samplePrecondition : ProjectDiskAttachPreconditionProof where
  project := sampleRecord.project
  diskId := sampleRecord.diskId
  diskGeneration := sampleRecord.diskGeneration
  physicalIdentityDigest := sampleDigest
  backingIdentityDigest := sampleDigest
  diskRevision := sampleLease.revision
  attachment := sampleAttachment
  filesystemGeneration := .first _
  formatProfileGeneration := .first _
  filesystemKind := .ext4
  formatOutcomeDigest := sampleDigest
  physicalExactDetachedUnused := true

/-- The transaction that attaches it. -/
def sampleTransaction : ProjectDiskAttachTransaction :=
  ⟨.first _, sampleLease.revision, sampleAttachment⟩

/-- The intent of that transaction. -/
def sampleIntent : ProjectDiskAttachmentIntent :=
  ⟨sampleRecord.project, sampleRecord.diskId, sampleRecord.diskGeneration, sampleRecord.revision,
    sampleLease.revision, .first _, sampleAttachment⟩

/-- The transaction may start. -/
def sampleAuthorized : ProjectDiskAttachmentRecord :=
  { sampleRecord with
    revision := .second _
    lastTransactionGeneration := some (.first _)
    state := .attachAuthorized sampleTransaction }

theorem publishes_iff_sampleLease :
    sampleAuthorized.Publishes sampleLease ⟨sampleLease.planIdentity, sampleAttachment⟩ := by
  have hp : sampleRecord.planAttach sampleLease ⟨sampleLease.planIdentity, sampleAttachment⟩
      samplePrecondition = .ok sampleIntent := rfl
  have ha : sampleRecord.recordAttachAuthorized sampleLease
      ⟨sampleLease.planIdentity, sampleAttachment⟩ sampleIntent = .ok sampleAuthorized := rfl
  exact (publishes_iff hp ha).mpr
    ⟨⟨_, _, ⟨.exact, .unused, .unlocked, .unknown⟩, rfl⟩, .inl (by decide)⟩

/-- A plan for the other disk. -/
def otherPlan : ProjectDiskAttachPlan := ⟨otherLease.planIdentity, sampleAttachment⟩

/-- **A plan of another lease is authorised, started and observed, and then not
published.** -/
theorem not_publishes_otherPlan :
    otherLease.planAttach sampleAttachment.sandboxId sampleAttachment.sandboxGeneration
        ⟨.exact, .unused, .unlocked, .unknown⟩ = .ok otherPlan
      ∧ sampleRecord.planAttach sampleLease otherPlan samplePrecondition = .ok sampleIntent
      ∧ sampleRecord.recordAttachAuthorized sampleLease otherPlan sampleIntent
        = .ok sampleAuthorized
      ∧ sampleLease.confirmAttachPlan otherPlan = .error ProjectDiskLeaseError.planMismatch
      ∧ ∃ proof observed, sampleAuthorized.ComesTo proof observed
        ∧ observed.acceptP1AttachSuccess sampleLease otherPlan proof
          = .error (ofLease ProjectDiskLeaseError.planMismatch) := by
  refine ⟨rfl, rfl, rfl, rfl, sampleAuthorized.evidence sampleTransaction sampleDigest, ?_⟩
  obtain ⟨observed, hc⟩ : ∃ observed, sampleAuthorized.ComesTo
      (sampleAuthorized.evidence sampleTransaction sampleDigest) observed :=
    exists_comesTo sampleDigest_ne_zeroDigest rfl (by decide)
  have ha : sampleAuthorized.state = .attachAuthorized sampleTransaction := rfl
  obtain ⟨hs, hp, hst, -⟩ := hc.observed ha
  have hcur : sampleAuthorized.confirmCurrentDetachedPlan sampleLease otherPlan = .ok () := rfl
  refine ⟨observed, hc, ?_⟩
  rw [acceptP1AttachSuccess_of_observed hs hcur hp hst]
  rfl

end Transitions

end ProjectDiskAttachmentRecord

end Glaeda
