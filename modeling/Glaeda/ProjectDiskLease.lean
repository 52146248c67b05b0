import Glaeda.ResidentConfig

/-!
# The lease of a project disk

A project disk is attached to one resident sandbox at a time. The lease says
to which, and every change of it makes the next revision. Changes are planned
first: a plan names the disk and the revision it was made from, and the lease
takes the result only while it still is at that revision.

Here is the part of the lease that attaches: the plan, the confirmation that a
plan **still belongs to the lease**, and the attached successor. The plans a
lease confirms are exactly those it makes itself (`confirmAttachPlan_iff`).
-/

namespace Glaeda

open Checked PositiveU64

/-! ## Counters -/

/-- The number after this one. -/
def PositiveU64.next {ε : Type} {tag : String} (exhausted : ε) (n : PositiveU64 tag) :
    Except ε (PositiveU64 tag) :=
  okOr (PositiveU64.ofNat? tag (n.val + 1)) exhausted

theorem PositiveU64.next_eq_ok {ε : Type} {tag : String} {exhausted : ε} {n m : PositiveU64 tag} :
    n.next exhausted = .ok m ↔ m.val = n.val + 1 := by
  rw [next, okOr_eq_ok, ofNat?_eq_some]

theorem PositiveU64.exists_next {ε : Type} {tag : String} (exhausted : ε) {n : PositiveU64 tag} :
    (∃ m, n.next exhausted = .ok m) ↔ n.val + 1 < u64Size := by
  constructor
  · rintro ⟨m, hm⟩
    exact next_eq_ok.mp hm ▸ m.lt_size
  · intro h
    exact ⟨⟨n.val + 1, Nat.succ_pos _, h⟩, next_eq_ok.mpr rfl⟩

/-- How often a lease was changed. -/
abbrev ProjectDiskRevision := PositiveU64 "project_disk_revision"

/-- The number of an attachment. -/
abbrev ProjectDiskAttachmentGeneration := PositiveU64 "project_disk_attachment_generation"

/-! ## Leases -/

/-- **An attachment**: to which sandbox, and the how-manieth it is. -/
structure ProjectDiskAttachmentLease where
  generation : ProjectDiskAttachmentGeneration
  sandboxId : ResidentSandboxId
  sandboxGeneration : ResidentSandboxGeneration
deriving DecidableEq, Repr

/-- What is known of a disk. -/
inductive ProjectDiskLeaseState where
  | detached
  | attached (attachment : ProjectDiskAttachmentLease)
  | revalidateRequired (attachment : Option ProjectDiskAttachmentLease)
  | unlockRequired (predecessor : ProjectDiskAttachmentLease)
  | quarantined
  | retireRequested
  | retired
deriving DecidableEq, Repr

/-- Whether the disk is there. -/
inductive ProjectDiskPhysicalObservation where
  | exact
  | absent
  | foreign
  | conflicting
  | unknown
deriving DecidableEq, Repr

/-- Who uses the disk. -/
inductive ProjectDiskUseObservation where
  | unused
  | currentAttachment
  | other
  | unknown
deriving DecidableEq, Repr

/-- Who has locked the disk. -/
inductive ProjectDiskLockObservation where
  | unlocked
  | currentAttachment
  | expectedPredecessor
  | other
  | unknown
deriving DecidableEq, Repr

/-- Whether the contents can be made again. -/
inductive ProjectDiskRecoverability where
  | rebuildable
  | uniqueLocalWork
  | unknown
deriving DecidableEq, Repr

/-- **What was observed of a disk.** -/
structure ProjectDiskObservation where
  physical : ProjectDiskPhysicalObservation
  useState : ProjectDiskUseObservation
  lockState : ProjectDiskLockObservation
  recoverability : ProjectDiskRecoverability
deriving DecidableEq, Repr

/-- **The lease of a disk.** -/
@[ext] structure ProjectDiskLeaseRecord where
  schemaVersion : Nat
  project : ProjectIdentity
  diskId : ProjectDiskId
  diskGeneration : ProjectDiskGeneration
  revision : ProjectDiskRevision
  lastAttachmentGeneration : Option ProjectDiskAttachmentGeneration
  state : ProjectDiskLeaseState
deriving DecidableEq, Repr

/-- The lease a plan was made for. -/
@[ext] structure ProjectDiskPlanIdentity where
  project : ProjectIdentity
  diskId : ProjectDiskId
  diskGeneration : ProjectDiskGeneration
  expectedRevision : ProjectDiskRevision
deriving DecidableEq, Repr

/-- **A plan to attach a disk.** -/
@[ext] structure ProjectDiskAttachPlan where
  identity : ProjectDiskPlanIdentity
  attachment : ProjectDiskAttachmentLease
deriving DecidableEq, Repr

namespace ProjectDiskLeaseError

/-- The numbers have run out. -/
def generationExhausted : ProjectDiskLeaseError :=
  ⟨"project_disk_generation_exhausted", "project disk generation counter is exhausted"⟩

/-- The plan is for something else. -/
def planMismatch : ProjectDiskLeaseError :=
  ⟨"project_disk_plan_mismatch", "project disk plan does not match the current lease"⟩

/-- The disk is not to be touched. -/
def protectedPhysicalState : ProjectDiskLeaseError :=
  ⟨"project_disk_physical_state_protected",
    "foreign, conflicting, absent, or unknown project disk state cannot authorize this mutation"⟩

/-- The disk is not detached. -/
def attachRequiresDetached : ProjectDiskLeaseError :=
  ⟨"project_disk_attach_requires_detached", "project disk attach requires detached state"⟩

end ProjectDiskLeaseError

open ProjectDiskLeaseError

variable (observation : ProjectDiskObservation)

/-- The disk is there and free. -/
def requireExactUnusedUnlocked : Except ProjectDiskLeaseError Unit := do
  refuseIf (observation.physical ≠ .exact) protectedPhysicalState
  refuseIf (observation.useState ≠ .unused ∨ observation.lockState ≠ .unlocked)
    ⟨"project_disk_not_detached", "project disk must be proven unused and unlocked"⟩

/-- The disk is seen to be attached as it should be. -/
def requireExactCurrentAttachment : Except ProjectDiskLeaseError Unit := do
  refuseIf (observation.physical ≠ .exact) protectedPhysicalState
  refuseIf (observation.useState ≠ .currentAttachment ∨ observation.lockState ≠ .currentAttachment)
    ⟨"project_disk_current_attachment_unproven", "project disk current attachment is not proven"⟩

namespace ProjectDiskLeaseRecord

/-- The version of a lease. -/
def projectDiskLeaseSchemaVersion : Nat := 1

/-- A new disk. -/
def newDetached (project : ProjectIdentity) (diskId : ProjectDiskId)
    (diskGeneration : ProjectDiskGeneration) : ProjectDiskLeaseRecord where
  schemaVersion := projectDiskLeaseSchemaVersion
  project := project
  diskId := diskId
  diskGeneration := diskGeneration
  revision := .first _
  lastAttachmentGeneration := none
  state := .detached

variable (record : ProjectDiskLeaseRecord)

/-- The disk is not retired. -/
def requireNonterminal : Except ProjectDiskLeaseError Unit :=
  refuseIf (record.state = .retired)
    ⟨"project_disk_terminal", "retired project disk state is terminal"⟩

/-- The lease, as a plan names it. -/
def planIdentity : ProjectDiskPlanIdentity :=
  ⟨record.project, record.diskId, record.diskGeneration, record.revision⟩

/-- The plan is for this lease. -/
def requirePlanIdentity (identity : ProjectDiskPlanIdentity) :
    Except ProjectDiskLeaseError Unit := do
  refuseIf (identity.project ≠ record.project ∨ identity.diskId ≠ record.diskId
    ∨ identity.diskGeneration ≠ record.diskGeneration) planMismatch
  refuseIf (identity.expectedRevision ≠ record.revision)
    ⟨"stale_project_disk_plan", "project disk plan revision is stale"⟩

/-- The number of the next attachment. -/
def nextAttachmentGeneration : Except ProjectDiskLeaseError ProjectDiskAttachmentGeneration :=
  match record.lastAttachmentGeneration with
  | some generation => generation.next generationExhausted
  | none => .ok (.first _)

/-- The next lease. -/
def successor (state : ProjectDiskLeaseState)
    (lastAttachmentGeneration : Option ProjectDiskAttachmentGeneration) :
    Except ProjectDiskLeaseError ProjectDiskLeaseRecord := do
  let revision ← record.revision.next generationExhausted
  return { record with revision, lastAttachmentGeneration, state }

/-- **Plan to attach the disk.** -/
def planAttach (sandboxId : ResidentSandboxId) (sandboxGeneration : ResidentSandboxGeneration)
    (observation : ProjectDiskObservation) :
    Except ProjectDiskLeaseError ProjectDiskAttachPlan := do
  record.requireNonterminal
  refuseIf (record.state ≠ .detached) attachRequiresDetached
  requireExactUnusedUnlocked observation
  let generation ← record.nextAttachmentGeneration
  return ⟨record.planIdentity, ⟨generation, sandboxId, sandboxGeneration⟩⟩

/-- **Confirm that a plan still belongs to the lease.** -/
def confirmAttachPlan (plan : ProjectDiskAttachPlan) : Except ProjectDiskLeaseError Unit := do
  record.requireNonterminal
  record.requirePlanIdentity plan.identity
  refuseIf (record.state ≠ .detached) attachRequiresDetached
  let generation ← record.nextAttachmentGeneration
  refuseIf (plan.attachment.generation ≠ generation) planMismatch

/-- **The attached successor.** -/
def recordAttachSuccess (plan : ProjectDiskAttachPlan) (post : ProjectDiskObservation) :
    Except ProjectDiskLeaseError ProjectDiskLeaseRecord := do
  record.confirmAttachPlan plan
  requireExactCurrentAttachment post
  record.successor (.attached plan.attachment) (some plan.attachment.generation)

/-! ## The plans of a lease -/

variable {record} {plan : ProjectDiskAttachPlan}

theorem requirePlanIdentity_eq_ok {identity : ProjectDiskPlanIdentity} :
    record.requirePlanIdentity identity = .ok () ↔ identity = record.planIdentity := by
  unfold requirePlanIdentity
  rw [refuseIf_bind_eq_ok, refuseIf_eq_ok, ProjectDiskPlanIdentity.ext_iff]
  simp only [not_or, not_not, and_assoc]
  rfl

/-- **What it takes for a plan to be confirmed.** -/
theorem confirmAttachPlan_eq_ok :
    record.confirmAttachPlan plan = .ok () ↔ plan.identity = record.planIdentity
      ∧ record.state = .detached
      ∧ record.nextAttachmentGeneration = .ok plan.attachment.generation := by
  unfold confirmAttachPlan requireNonterminal
  rw [guard_bind_eq_ok, guard_bind_eq_ok, refuseIf_bind_eq_ok, refuseIf_eq_ok,
    requirePlanIdentity_eq_ok, not_not]
  constructor
  · rintro ⟨-, hi, hst, hg⟩
    obtain ⟨generation, hn, hs⟩ := bind_eq_ok.mp hg
    rw [refuseIf_eq_ok, not_not] at hs
    exact ⟨hi, hst, hs ▸ hn⟩
  · rintro ⟨hi, hst, hn⟩
    refine ⟨fun hr => ?_, hi, hst, ?_⟩
    · rw [hst] at hr
      cases hr
    · rw [hn, ok_bind]
      exact refuseIf_not rfl

/-- **A plan of the lease itself**, for some sandbox and after some
observation. -/
def Plans (record : ProjectDiskLeaseRecord) (plan : ProjectDiskAttachPlan) : Prop :=
  ∃ sandboxId sandboxGeneration observation,
    record.planAttach sandboxId sandboxGeneration observation = .ok plan

/-- **A lease confirms the plans it makes itself, and no others.** -/
theorem confirmAttachPlan_iff : record.confirmAttachPlan plan = .ok () ↔ record.Plans plan := by
  rw [confirmAttachPlan_eq_ok]
  unfold Plans planAttach requireNonterminal
  constructor
  · rintro ⟨hi, hst, hn⟩
    refine ⟨plan.attachment.sandboxId, plan.attachment.sandboxGeneration,
      ⟨.exact, .unused, .unlocked, .unknown⟩, ?_⟩
    have hl : ¬record.state = .retired := fun hr => by
      rw [hst] at hr
      cases hr
    rw [refuseIf_bind hl, refuseIf_not hst, ok_bind, hn, ← hi]
    rfl
  · rintro ⟨sandboxId, sandboxGeneration, observation, hp⟩
    rw [guard_bind_eq_ok, guard_bind_eq_ok, guard_bind_eq_ok, bind_eq_ok] at hp
    obtain ⟨-, hst, -, generation, hn, hp⟩ := hp
    rw [refuseIf_eq_ok, not_not] at hst
    obtain rfl := Except.ok.inj hp
    exact ⟨rfl, hst, hn⟩

/-- The disk is attached as it should be. -/
def exactCurrentAttachment : ProjectDiskObservation :=
  ⟨.exact, .currentAttachment, .currentAttachment, .unknown⟩

/-- **A lease takes its own plan** as long as it has another revision. -/
theorem exists_recordAttachSuccess (hp : record.Plans plan) :
    (∃ attached, record.recordAttachSuccess plan exactCurrentAttachment = .ok attached)
      ↔ record.revision.val + 1 < u64Size := by
  unfold recordAttachSuccess successor
  rw [confirmAttachPlan_iff.mpr hp, ok_bind, ← exists_next generationExhausted]
  constructor
  · rintro ⟨attached, ha⟩
    obtain ⟨-, ha⟩ := guard_bind_eq_ok.mp ha
    obtain ⟨revision, hr, -⟩ := bind_eq_ok.mp ha
    exact ⟨revision, hr⟩
  · rintro ⟨revision, hr⟩
    rw [hr]
    exact ⟨_, rfl⟩

end ProjectDiskLeaseRecord

end Glaeda
