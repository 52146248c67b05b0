import Glaeda.CatalogHistory

/-!
# The accounts of the catalog

Validation keeps two accounts of a catalog. The **revision account** adds up
what the attempts in it have been through – every attempt its own revision,
every completed one one more for its retirement – and compares the sum with
the catalog revision. The **usage account** adds up what the attempts that
are not complete yet hold of the host. The program computes both with
additions that refuse to wrap around, one entry after the other; the lemmas
here turn them into plain sums once and for all.

With the sums at hand it is a matter of arithmetic that *no operation is ever
refused because of an account*: a transition raises one attempt revision and
the catalog revision by one, a retirement turns an attempt into a completed
one that counts for one more, and an evicted attempt only leaves the sum.
The one thing that can stop a catalog is its own revision: it is bounded, and
at the bound nothing can be written any more.

The last sections follow whole runs from the empty catalog: the revision is
*exactly* the account until the first eviction, and never below it
afterwards.
-/

namespace Glaeda

open Checked KeyedList List DisposableHostUsage CatalogRecord

/-! ## Checked sums -/

section CheckedSums

variable {α : Type} {size : Nat} {f : α → Nat}

theorem checkedAdd_bind_checkedAdd {a b d : Nat} :
    (checkedAdd size a b >>= fun s => checkedAdd size s d) = checkedAdd size a (b + d) := by
  unfold checkedAdd
  by_cases h : a + (b + d) < size
  · have hf : a + b < size := by omega
    rw [if_pos hf, if_pos h]
    show (if a + b + d < size then _ else _) = _
    rw [add_assoc, if_pos h]
  · rw [if_neg h]
    by_cases hf : a + b < size
    · rw [if_pos hf]
      show (if a + b + d < size then _ else _) = _
      rw [add_assoc, if_neg h]
    · rw [if_neg hf]
      rfl

/-- **A checked sum is the sum**, and it is refused exactly when the sum does
not fit. -/
theorem foldlM_checkedAdd {entries : List α} {start total : Nat} (hs : start < size) :
    entries.foldlM (fun sum a => checkedAdd size sum (f a)) start = some total
      ↔ start + (entries.map f).sum = total ∧ total < size := by
  induction entries generalizing start with
  | nil =>
    constructor
    · intro h
      obtain rfl := Option.some.inj h
      exact ⟨rfl, hs⟩
    · rintro ⟨rfl, -⟩
      rfl
  | cons a entries ih =>
    rw [foldlM_cons, map_cons, sum_cons, ← add_assoc]
    by_cases h : start + f a < size
    · show (checkedAdd size start (f a)).bind _ = _ ↔ _
      rw [checkedAdd, if_pos h]
      exact ih h
    · show (checkedAdd size start (f a)).bind _ = _ ↔ _
      rw [checkedAdd, if_neg h]
      constructor
      · intro hn
        cases hn
      · rintro ⟨ht, hsz⟩
        omega

end CheckedSums

namespace CatalogRecord

variable {c : CatalogRecord}

/-! ## The revision account -/

/-- The revisions of the active attempts, summed. -/
def activeRevisions (active : List DisposableAttemptReservation) : Nat :=
  (active.map (fun r => r.attempt.revision.val)).sum

/-- What the completed attempts have been through, their retirements
included. -/
def tombstoneRevisions (tombstones : List DisposableAttemptState) : Nat :=
  (tombstones.map (fun a => a.revision.val + 1)).sum

/-- **The revision account**: one, and everything the attempts in the catalog
have been through. -/
def accountedRevision (c : CatalogRecord) : Nat :=
  1 + activeRevisions c.active + tombstoneRevisions c.tombstones

/-- **The program computes the account**, as long as it fits. -/
theorem representedRevision_eq_some {total : Nat} :
    c.representedRevision = some total ↔ c.accountedRevision = total ∧ total < u64Size := by
  unfold representedRevision
  simp only [checkedAdd_bind_checkedAdd]
  show Option.bind _ _ = _ ↔ _
  rw [Option.bind_eq_some_iff]
  constructor
  · rintro ⟨middle, ha, htm⟩
    obtain ⟨rfl, hm⟩ := (foldlM_checkedAdd (by decide)).mp ha
    exact (foldlM_checkedAdd hm).mp htm
  · rintro ⟨rfl, ht⟩
    have hm : 1 + activeRevisions c.active < u64Size :=
      Nat.lt_of_le_of_lt (Nat.le_add_right _ _) ht
    exact ⟨_, (foldlM_checkedAdd (by decide)).mpr ⟨rfl, hm⟩,
      (foldlM_checkedAdd hm).mpr ⟨rfl, ht⟩⟩

/-- **The revision agrees with the account**: exactly while the history has
room, and from above once it is full. -/
def RevisionAgrees (c : CatalogRecord) : Prop :=
  if c.tombstones.length < maxDisposableAttemptTombstones then
    c.revision.val = c.accountedRevision else c.accountedRevision ≤ c.revision.val

theorem RevisionAgrees.accounted_le (h : c.RevisionAgrees) :
    c.accountedRevision ≤ c.revision.val := by
  unfold RevisionAgrees at h
  split at h
  · exact le_of_eq h.symm
  · exact h

/-- **The account keeps up with the revision** when nothing is evicted. -/
theorem RevisionAgrees.succ {n : CatalogRecord} (h : c.RevisionAgrees)
    (ht : n.tombstones = c.tombstones) (hr : n.revision.val = c.revision.val + 1)
    (ha : n.accountedRevision = c.accountedRevision + 1) : n.RevisionAgrees := by
  unfold RevisionAgrees at h ⊢
  rw [ht, hr, ha]
  split at h
  · rename_i hroom
    rw [if_pos hroom, h]
  · rename_i hroom
    rw [if_neg hroom]
    exact Nat.succ_le_succ h

/-- The check of the program is the agreement; the account fits because the
revision does. -/
theorem exists_representedRevision_iff :
    (∃ represented, c.representedRevision = some represented
      ∧ if c.tombstones.length < maxDisposableAttemptTombstones then
          c.revision.val = represented else represented ≤ c.revision.val)
      ↔ c.RevisionAgrees := by
  constructor
  · rintro ⟨total, ht, h⟩
    obtain ⟨rfl, -⟩ := representedRevision_eq_some.mp ht
    exact h
  · intro h
    refine ⟨_, representedRevision_eq_some.mpr ⟨rfl, ?_⟩, h⟩
    have hbd : maxDisposableAttemptCatalogRevision < u64Size := by decide
    exact lt_of_le_of_lt (h.accounted_le.trans c.revision.le_max) hbd

/-! ## The usage account -/

/-- What the attempts that are not complete hold. -/
def heldResources (active : List DisposableAttemptReservation) : List DisposableWorkerResources :=
  (active.filter (fun r => r.attempt.phase ≠ .complete)).map (·.resources)

/-- The sum of one amount. -/
def total (amount : ResourceAmounts → Nat) (held : List DisposableWorkerResources) : Nat :=
  (held.map (fun r => amount r.toResourceAmounts)).sum

/-- The usage with some more workers. -/
def usageWith (usage : DisposableHostUsage) (held : List DisposableWorkerResources) :
    DisposableHostUsage :=
  ⟨usage.workers + held.length, ⟨usage.resources.cpuMillis + total (·.cpuMillis) held,
      usage.resources.memoryBytes + total (·.memoryBytes) held,
      usage.resources.diskBytes + total (·.diskBytes) held⟩⟩

/-- The usage fits the machine integers. -/
def Machine (usage : DisposableHostUsage) : Prop :=
  usage.workers < 2 ^ 16 ∧ usage.resources.cpuMillis < 2 ^ 32
    ∧ usage.resources.memoryBytes < u64Size ∧ usage.resources.diskBytes < u64Size

/-- **The held resources fit one host.** -/
def UsageFits (held : List DisposableWorkerResources) : Prop :=
  held.length ≤ maxWorkers ∧ total (·.cpuMillis) held ≤ maxCpuMillis
    ∧ total (·.memoryBytes) held ≤ maxBytes ∧ total (·.diskBytes) held ≤ maxBytes

section Usage

variable {usage next : DisposableHostUsage} {r : DisposableAttemptReservation}
variable {active : List DisposableAttemptReservation}
variable {held more : List DisposableWorkerResources}

theorem heldResources_cons_of_complete (h : r.attempt.phase = .complete) :
    heldResources (r :: active) = heldResources active := by
  rw [heldResources, filter_cons_of_neg (by simpa using h)]
  rfl

theorem heldResources_cons_of_ne (h : r.attempt.phase ≠ .complete) :
    heldResources (r :: active) = r.resources :: heldResources active := by
  rw [heldResources, filter_cons_of_pos (by simpa using h)]
  rfl

theorem heldResources_append {before after : List DisposableAttemptReservation} :
    heldResources (before ++ after) = heldResources before ++ heldResources after := by
  rw [heldResources, filter_append, map_append]
  rfl

theorem usageWith_cons {resources : DisposableWorkerResources} :
    usageWith usage (resources :: held) = usageWith (usageWith usage [resources]) held := by
  simp only [usageWith, total, map_cons, map_nil, sum_cons, sum_nil,
    length_cons, length_nil, add_zero, add_assoc, zero_add,
    add_comm 1]

theorem Machine.of_usageWith (h : Machine (usageWith usage held)) : Machine usage :=
  ⟨Nat.lt_of_le_of_lt (Nat.le_add_right _ _) h.1, Nat.lt_of_le_of_lt (Nat.le_add_right _ _) h.2.1,
    Nat.lt_of_le_of_lt (Nat.le_add_right _ _) h.2.2.1,
    Nat.lt_of_le_of_lt (Nat.le_add_right _ _) h.2.2.2⟩

/-- **Counting one reservation** that is not complete. -/
theorem addUsage_eq_ok (h : r.attempt.phase ≠ .complete) :
    addUsage usage r = .ok next ↔ usageWith usage [r.resources] = next ∧ Machine next := by
  unfold addUsage
  rw [if_neg h]
  simp only [bind_eq_ok, okOr_eq_ok, checkedAdd_eq_some, pure_eq_ok_iff]
  constructor
  · rintro ⟨_, ⟨hw, rfl⟩, _, ⟨hc, rfl⟩, _, ⟨hm, rfl⟩, _, ⟨hd, rfl⟩, rfl⟩
    exact ⟨rfl, hw, hc, hm, hd⟩
  · rintro ⟨rfl, hw, hc, hm, hd⟩
    exact ⟨_, ⟨hw, rfl⟩, _, ⟨hc, rfl⟩, _, ⟨hm, rfl⟩, _, ⟨hd, rfl⟩, rfl⟩

/-- **Counting all reservations.** -/
theorem foldlM_addUsage (hm : Machine usage) :
    active.foldlM addUsage usage = .ok next
      ↔ usageWith usage (heldResources active) = next ∧ Machine next := by
  induction active generalizing usage with
  | nil =>
    rw [foldlM_nil, pure_eq_ok_iff]
    exact ⟨fun h => ⟨h, h ▸ hm⟩, fun h => h.1⟩
  | cons r active ih =>
    rw [foldlM_cons, bind_eq_ok]
    by_cases hc : r.attempt.phase = .complete
    · have hsk : addUsage usage r = .ok usage := if_pos hc
      rw [heldResources_cons_of_complete hc, ← ih hm, hsk]
      exact ⟨fun ⟨_, hs, h⟩ => Except.ok.inj hs ▸ h, fun h => ⟨_, rfl, h⟩⟩
    · rw [heldResources_cons_of_ne hc, usageWith_cons]
      constructor
      · rintro ⟨_, hadd, h⟩
        obtain ⟨rfl, ha⟩ := (addUsage_eq_ok hc).mp hadd
        exact (ih ha).mp h
      · rintro ⟨rfl, h⟩
        have ha := h.of_usageWith
        exact ⟨_, (addUsage_eq_ok hc).mpr ⟨rfl, ha⟩, (ih ha).mpr ⟨rfl, h⟩⟩

theorem UsageFits.machine (h : UsageFits held) : Machine (usageWith .zero held) := by
  obtain ⟨hw, hc, hm, hd⟩ := h
  simp only [Machine, usageWith, zero, zero_add]
  exact ⟨lt_of_le_of_lt hw (by decide), lt_of_le_of_lt hc (by decide),
    lt_of_le_of_lt hm (by decide), lt_of_le_of_lt hd (by decide)⟩

theorem one_le_total {amount : ResourceAmounts → Nat} (hne : held ≠ [])
    (ha : ∀ r : DisposableWorkerResources, 1 ≤ amount r.toResourceAmounts) :
    1 ≤ total amount held := by
  obtain ⟨resources, held, rfl⟩ := exists_cons_of_ne_nil hne
  exact (ha resources).trans (Nat.le_add_right _ _)

/-- Amounts are the resources of a worker exactly when each is in its
range. -/
theorem exists_new_iff {amounts : ResourceAmounts} :
    (∃ resources, DisposableWorkerResources.new amounts = .ok resources)
      ↔ (1 ≤ amounts.cpuMillis ∧ amounts.cpuMillis ≤ maxCpuMillis)
        ∧ (1 ≤ amounts.memoryBytes ∧ amounts.memoryBytes ≤ maxBytes)
        ∧ (1 ≤ amounts.diskBytes ∧ amounts.diskBytes ≤ maxBytes) := by
  unfold DisposableWorkerResources.new
  split
  · split
    · split <;> simp_all
    · simp_all
  · simp_all

/-- **The usage is accepted exactly when the held resources fit.** -/
theorem exists_hostUsage_iff :
    (∃ usage, c.hostUsage = .ok usage) ↔ UsageFits (heldResources c.active) := by
  have hz : Machine .zero := by unfold Machine; decide
  unfold hostUsage
  simp only [bind_eq_ok, foldlM_addUsage hz]
  generalize heldResources c.active = held
  have hw : (usageWith .zero held).workers = held.length := Nat.zero_add _
  by_cases hn : held = []
  · subst hn
    exact ⟨fun _ => ⟨Nat.zero_le _, Nat.zero_le _, Nat.zero_le _, Nat.zero_le _⟩,
      fun _ => ⟨_, _, ⟨rfl, hz⟩, rfl⟩⟩
  · have hs : (usageWith .zero held).workers ≠ 0 := by
      rw [hw]
      exact fun h => hn (length_eq_zero_iff.mp h)
    constructor
    · rintro ⟨usage, _, ⟨rfl, -⟩, h⟩
      rw [if_neg hs] at h
      simp only [bind_eq_ok, mapError_eq_ok] at h
      obtain ⟨resources, hrsc, h⟩ := h
      obtain ⟨⟨-, hcpu⟩, ⟨-, hm⟩, -, hd⟩ := exists_new_iff.mp ⟨_, hrsc⟩
      unfold new at h
      split at h
      · cases h
      · rename_i hcnt
        simp only [usageWith, zero, Nat.zero_add] at hcpu hm hd
        exact ⟨hw ▸ Nat.le_of_not_lt hcnt, hcpu, hm, hd⟩
    · intro hf
      obtain ⟨hcnt, hcpu, hm, hd⟩ := hf
      obtain ⟨resources, hrsc⟩ : ∃ resources,
          DisposableWorkerResources.new (usageWith .zero held).resources = .ok resources := by
        rw [exists_new_iff]
        simp only [usageWith, zero, Nat.zero_add]
        exact ⟨⟨one_le_total hn (·.cpu_bounds.1), hcpu⟩,
          ⟨one_le_total hn (·.memory_bounds.1), hm⟩,
          one_le_total hn (·.disk_bounds.1), hd⟩
      refine ⟨⟨(usageWith .zero held).workers, resources.toResourceAmounts⟩, _,
        ⟨rfl, UsageFits.machine ⟨hcnt, hcpu, hm, hd⟩⟩, ?_⟩
      rw [if_neg hs, hrsc]
      show Except.mapError _ (new _ _) = _
      rw [new, if_neg (Nat.not_lt.mpr (hw ▸ hcnt))]
      rfl

theorem UsageFits.sublist (h : UsageFits more) (hs : held.Sublist more) : UsageFits held :=
  have hle (amount : ResourceAmounts → Nat) : total amount held ≤ total amount more :=
    (hs.map _).sum_le_sum (fun _ _ => Nat.zero_le _)
  ⟨hs.length_le.trans h.1, (hle _).trans h.2.1, (hle _).trans h.2.2.1, (hle _).trans h.2.2.2⟩

theorem UsageFits.perm (h : UsageFits more) (hp : more.Perm held) : UsageFits held :=
  have hs (amount : ResourceAmounts → Nat) : total amount held = total amount more :=
    (hp.symm.map _).sum_eq
  ⟨hp.length_eq ▸ h.1, hs _ ▸ h.2.1, hs _ ▸ h.2.2.1, hs _ ▸ h.2.2.2⟩

end Usage

/-! ## Validation by accounts -/

/-- The second check on reserved attempts is one the attempts passed
already. -/
theorem revision_of_reserved {a : DisposableAttemptState} (h : a.phase = .reserved) :
    a.revision.val = 1 := by
  have hs := a.revision_shape
  rw [h] at hs
  exact hs

/-- **A catalog validates exactly when its accounts agree**, its lists are
bounded, its identities distinct and its history completed. -/
theorem validate_iff_accounts :
    c.validate = .ok () ↔ c.schemaVersion = disposableAttemptCatalogSchemaVersion
        ∧ (c.active.length ≤ maxActiveDisposableAttempts
          ∧ c.tombstones.length ≤ maxDisposableAttemptTombstones)
        ∧ c.RevisionAgrees ∧ IdentitiesDistinct c.attempts
        ∧ (∀ a ∈ c.tombstones, a.phase = .complete)
        ∧ UsageFits (heldResources c.active) := by
  rw [validate_eq_ok_iff, exists_representedRevision_iff, exists_hostUsage_iff]
  constructor
  · rintro ⟨hs, hb, hr, -, hi, hc, hu⟩
    exact ⟨hs, hb, hr, hi, hc, hu⟩
  · rintro ⟨hs, hb, hr, hi, hc, hu⟩
    exact ⟨hs, hb, hr, fun _ _ => revision_of_reserved, hi, hc, hu⟩

/-- **Fewer attempts, in whatever order, have distinct identities too.** -/
theorem IdentitiesDistinct.of_subperm {attempts more : List DisposableAttemptState}
    (h : IdentitiesDistinct more) (hs : attempts.Subperm more) :
    IdentitiesDistinct attempts := by
  obtain ⟨kept, hp, hkp⟩ := hs
  have hm {κ : Type} (key : DisposableAttemptState → κ) (hk : (more.map key).Nodup) :
      (attempts.map key).Nodup :=
    (hp.map key).nodup_iff.mp (hk.sublist (hkp.map key))
  have hf {κ : Type} (key : DisposableAttemptState → Option κ)
      (hk : (more.filterMap key).Nodup) : (attempts.filterMap key).Nodup :=
    (hp.filterMap key).nodup_iff.mp (hk.sublist (hkp.filterMap key))
  obtain ⟨ha, hc, hvm, hn, hr, hi, hrnr, hj⟩ := h
  exact ⟨hm _ ha, hm _ hc, hm _ hvm, hm _ hn, hm _ hr,
    hf _ hi, hf _ hrnr, hf _ hj⟩

/-- **Two attempts share no identity they learnt**: no machine identity, no
runner and no job. -/
def SharesNothing (a b : DisposableAttemptState) : Prop :=
  (∀ v, a.vmIdentity = some v → b.vmIdentity ≠ some v)
    ∧ (∀ v, a.runnerId = some v → b.runnerId ≠ some v)
    ∧ ∀ v, a.githubJobId = some v → b.githubJobId ≠ some v

/-- **Replacing an attempt by one that extends it** keeps the identities
distinct, when what it learnt is not known elsewhere. -/
theorem IdentitiesDistinct.replace {attempts others : List DisposableAttemptState}
    {s a : DisposableAttemptState} (h : IdentitiesDistinct (attempts ++ s :: others))
    (he : DisposableAttemptState.Extends s a)
    (hnew : ∀ b ∈ attempts ++ others, SharesNothing a b) :
    IdentitiesDistinct (attempts ++ a :: others) := by
  have hm {κ : Type} (key : DisposableAttemptState → κ) (hkey : key a = key s)
      (hk : ((attempts ++ s :: others).map key).Nodup) :
      ((attempts ++ a :: others).map key).Nodup := by
    rw [map_append, map_cons, hkey, ← map_cons, ← map_append]
    exact hk
  obtain ⟨ha, hc, hvm, hn, hr, hi, hrnr, hj⟩ := h
  exact ⟨hm _ he.attemptId ha, hm _ he.capacityClaimId hc,
    hm _ he.vmId hvm, hm _ he.runnerName hn,
    hm _ he.runnerRequestId hr,
    nodup_filterMap_middle.mpr ⟨(nodup_filterMap_middle.mp hi).1,
      fun v hv b hb => (hnew b hb).1 v hv⟩,
    nodup_filterMap_middle.mpr ⟨(nodup_filterMap_middle.mp hrnr).1,
      fun v hv b hb => (hnew b hb).2.1 v hv⟩,
    nodup_filterMap_middle.mpr ⟨(nodup_filterMap_middle.mp hj).1,
      fun v hv b hb => (hnew b hb).2.2 v hv⟩⟩

end CatalogRecord

namespace DisposableAttemptCatalogDocument

open CatalogRecord

variable {c n : DisposableAttemptCatalogDocument}
variable {r : DisposableAttemptReservation} {a : DisposableAttemptState}
variable {before after : List DisposableAttemptReservation}
variable {tombs : List DisposableAttemptState}
variable {revision : DisposableAttemptCatalogRevision}

theorem revisionAgrees (c : DisposableAttemptCatalogDocument) : c.RevisionAgrees :=
  (validate_iff_accounts.mp c.valid).2.2.1

theorem usageFits (c : DisposableAttemptCatalogDocument) : UsageFits (heldResources c.active) :=
  (validate_iff_accounts.mp c.valid).2.2.2.2.2

theorem schemaVersion_eq (c : DisposableAttemptCatalogDocument) :
    c.schemaVersion = disposableAttemptCatalogSchemaVersion :=
  (validate_iff_accounts.mp c.valid).1

/-! ### What an operation does to the accounts -/

theorem activeRevisions_split :
    activeRevisions (before ++ r :: after)
      = activeRevisions (before ++ after) + r.attempt.revision.val := by
  simp only [activeRevisions, map_append, map_cons, sum_append, sum_cons]
  omega

theorem pushTombstone_of_lt (h : tombs.length < maxDisposableAttemptTombstones) :
    pushTombstone tombs a = tombs ++ [a] := by
  refine if_neg ?_
  rw [length_append, length_singleton]
  exact not_lt.mpr h

theorem pushTombstone_of_full (h : tombs.length = maxDisposableAttemptTombstones) :
    pushTombstone tombs a = tombs.tail ++ [a] := by
  unfold pushTombstone
  have hne : tombs ≠ [] := by
    rintro rfl
    cases h
  rw [if_pos (by rw [length_append, h]; exact Nat.lt_succ_self _)]
  exact tail_append_of_ne_nil hne

theorem tombstoneRevisions_concat :
    tombstoneRevisions (tombs ++ [a])
      = tombstoneRevisions tombs + (a.revision.val + 1) := by
  simp [tombstoneRevisions]

/-- The history after a retirement is the old one with the attempt, less
what was evicted. -/
theorem pushTombstone_sublist : (pushTombstone tombs a).Sublist (tombs ++ [a]) := by
  show (if _ then (tombs ++ [a]).tail else tombs ++ [a]).Sublist _
  split
  · exact tail_sublist _
  · exact List.Sublist.refl _

theorem tombstoneRevisions_push_le :
    tombstoneRevisions (pushTombstone tombs a)
      ≤ tombstoneRevisions tombs + (a.revision.val + 1) := by
  rw [← tombstoneRevisions_concat]
  exact (pushTombstone_sublist.map _).sum_le_sum (fun _ _ => Nat.zero_le _)

theorem length_pushTombstone (h : tombs.length ≤ maxDisposableAttemptTombstones) :
    (pushTombstone tombs a).length
      = min (tombs.length + 1) maxDisposableAttemptTombstones := by
  rcases Nat.lt_or_eq_of_le h with hlt | heq
  · rw [pushTombstone_of_lt hlt, length_append, length_singleton, Nat.min_eq_left hlt]
  · rw [pushTombstone_of_full heq, length_append, length_tail, heq]
    rfl

theorem subperm_retired :
    ((before ++ after).map (·.attempt) ++ pushTombstone tombs r.attempt).Subperm
      ((before ++ r :: after).map (·.attempt) ++ tombs) := by
  refine (List.Sublist.append_left pushTombstone_sublist _).subperm.trans (List.Perm.subperm ?_)
  rw [map_append, map_append, map_cons, ← append_assoc]
  exact (perm_append_singleton _ _).trans (perm_middle.symm.append_right _)

theorem accounted_retired_le :
    1 + activeRevisions (before ++ after) + tombstoneRevisions (pushTombstone tombs r.attempt)
      ≤ 1 + activeRevisions (before ++ r :: after) + tombstoneRevisions tombs + 1 := by
  have hp : tombstoneRevisions (pushTombstone tombs r.attempt) ≤ _ :=
    tombstoneRevisions_push_le
  rw [activeRevisions_split]
  omega

theorem accounted_retired_eq (h : tombs.length < maxDisposableAttemptTombstones) :
    1 + activeRevisions (before ++ after) + tombstoneRevisions (pushTombstone tombs r.attempt)
      = 1 + activeRevisions (before ++ r :: after) + tombstoneRevisions tombs + 1 := by
  rw [activeRevisions_split, pushTombstone_of_lt h, tombstoneRevisions_concat]
  omega

/-- **The record a retirement builds validates.** -/
theorem validate_retired
    (hs : c.active = before ++ r :: after) (hc : r.attempt.phase = .complete)
    (hrev : revision.val = c.revision.val + 1) :
    validate { c.toCatalogRecord with
      revision
      active := before ++ after
      tombstones := pushTombstone c.tombstones r.attempt } = .ok () := by
  have hagr := c.revisionAgrees
  have hlen := c.length_tombstones_le
  refine validate_iff_accounts.mpr ⟨c.schemaVersion_eq, ⟨?_, ?_⟩, ?_, ?_, ?_, ?_⟩
  · have hact := c.length_active_le
    rw [hs, length_append, length_cons] at hact
    show (before ++ after).length ≤ _
    rw [length_append]
    omega
  · show (pushTombstone c.tombstones r.attempt).length ≤ _
    rw [length_pushTombstone hlen]
    exact Nat.min_le_right _ _
  · -- with room left the account grows by exactly one, without by at most one
    unfold RevisionAgrees accountedRevision at hagr ⊢
    rw [hrev, length_pushTombstone hlen]
    rw [hs] at hagr
    by_cases hroom : c.tombstones.length < maxDisposableAttemptTombstones
    · rw [if_pos hroom] at hagr
      rw [accounted_retired_eq hroom, hagr]
      split
      · rfl
      · exact le_refl _
    · rw [if_neg hroom] at hagr
      rw [if_neg (by omega)]
      exact accounted_retired_le.trans (Nat.succ_le_succ hagr)
  · have hd := c.identitiesDistinct
    rw [attempts, hs] at hd
    exact hd.of_subperm subperm_retired
  · intro a ha
    obtain ha | ha := mem_append.mp (pushTombstone_sublist.subset ha)
    · exact complete_of_mem_tombstones ha
    · exact mem_singleton.mp ha ▸ hc
  · have hu := c.usageFits
    rw [hs, heldResources_append, heldResources_cons_of_complete hc,
      ← heldResources_append] at hu
    exact hu

theorem complete_of_extends {s : DisposableAttemptState} (h : s.Extends a)
    (hc : s.phase = .complete) : a.phase = .complete := by
  have hr := h.phase
  rw [hc] at hr
  revert hr
  cases a.phase <;> decide

theorem accounted_replaced (h : a.revision.val = r.attempt.revision.val + 1) :
    activeRevisions (before ++ { r with attempt := a } :: after)
      = activeRevisions (before ++ r :: after) + 1 := by
  rw [activeRevisions_split, activeRevisions_split]
  dsimp only
  omega

theorem heldResources_replaced (h : r.attempt.phase = .complete → a.phase = .complete) :
    (heldResources (before ++ { r with attempt := a } :: after)).Sublist
      (heldResources (before ++ r :: after)) := by
  rw [heldResources_append, heldResources_append]
  refine List.Sublist.append_left ?_ _
  by_cases hc : a.phase = .complete
  · rw [heldResources_cons_of_complete hc, heldResources, heldResources]
    exact ((sublist_cons_self r after).filter _).map _
  · rw [heldResources_cons_of_ne hc, heldResources_cons_of_ne (fun hr => hc (h hr))]

/-- **What the attempt learnt is not known elsewhere in the catalog.** -/
def UnusedElsewhere (c : DisposableAttemptCatalogDocument) (a : DisposableAttemptState) : Prop :=
  ∀ b ∈ c.attempts, b.attemptId ≠ a.attemptId → SharesNothing a b

/-- **The record a replacement builds validates.** -/
theorem validate_replaced (hs : c.active = before ++ r :: after)
    (hadv : DisposableAttemptState.Advances r.attempt a) (hun : c.UnusedElsewhere a)
    (hrev : revision.val = c.revision.val + 1) :
    validate { c.toCatalogRecord with
      revision
      active := before ++ { r with attempt := a } :: after } = .ok () := by
  have hd := c.identitiesDistinct
  have ha : c.attempts = before.map (·.attempt) ++ r.attempt
      :: (after.map (·.attempt) ++ c.tombstones) := by
    rw [attempts, hs, map_append, map_cons, append_assoc, cons_append]
  refine validate_iff_accounts.mpr ⟨c.schemaVersion_eq, ⟨?_, c.length_tombstones_le⟩, ?_, ?_,
    fun _ => complete_of_mem_tombstones, ?_⟩
  · have hact := c.length_active_le
    rw [hs, length_append, length_cons] at hact
    show (before ++ _ :: after).length ≤ _
    rw [length_append, length_cons]
    exact hact
  · refine c.revisionAgrees.succ rfl hrev ?_
    unfold accountedRevision
    dsimp only
    rw [accounted_replaced hadv.revision, hs]
    omega
  · show IdentitiesDistinct ((before ++ { r with attempt := a } :: after).map (·.attempt)
      ++ c.tombstones)
    rw [map_append, map_cons, append_assoc, cons_append]
    rw [ha] at hd
    refine hd.replace hadv.toExtends (fun b hb => hun b ?_ ?_)
    · rw [ha]
      exact mem_middle hb
    · -- another attempt has another name
      rw [hadv.attemptId]
      exact key_ne_of_nodup hd.1 b hb
  · have hu := c.usageFits
    rw [hs] at hu
    exact hu.sublist (heldResources_replaced (complete_of_extends hadv.toExtends))

/-! ### Redoing an operation -/

theorem next_of_succ (h : n.revision.val = c.revision.val + 1) : c.revision.next = .ok n.revision :=
  DisposableAttemptCatalogRevision.next_eq_ok.mpr h

theorem Appended.identitiesDistinct (h : Appended c r n) :
    IdentitiesDistinct (r.attempt :: c.attempts) := by
  refine n.identitiesDistinct.of_subperm (List.Perm.subperm ?_)
  rw [attempts, attempts, h.active, h.tombstones, map_append, append_assoc]
  exact perm_middle.symm

/-- **A reservation is redone** whatever the attempt has been through. -/
theorem reserve_of_appended (h : Appended c r n) : c.reserve r = .ok n := by
  have hd := h.identitiesDistinct.1
  rw [map_cons, nodup_cons] at hd
  have hn : ∀ b ∈ c.attempts, b.attemptId ≠ r.attempt.attemptId :=
    fun b hb heq => hd.1 (heq ▸ mem_map_of_mem hb)
  have ha : c.findActive r.attempt.attemptId = none :=
    lookup_eq_none.mpr (fun s hs => hn _ (mem_append_left _ (mem_map_of_mem hs)))
  have ht : c.findTombstone r.attempt.attemptId = none :=
    lookup_eq_none.mpr (fun b hb => hn b (mem_append_right _ hb))
  have hl := n.length_active_le
  rw [h.active, length_append, length_singleton] at hl
  unfold reserve
  rw [ha]
  dsimp only
  rw [ht, refuseIf_bind (by decide), refuseIf_bind (not_le.mpr hl),
    next_of_succ h.revision, ok_bind, accept_eq_ok, ← h.active, ← h.tombstones,
    c.schemaVersion_eq, ← n.schemaVersion_eq]

theorem position_of_split {before after : List DisposableAttemptReservation}
    (hs : c.active = before ++ r :: after) :
    ∃ i, c.position r.attempt.attemptId = some i ∧ c.active.get i = r
      ∧ c.active.take i = before ∧ c.active.drop (i + 1) = after := by
  have hm : r ∈ c.active := hs ▸ mem_append_right _ mem_cons_self
  obtain ⟨i, hi, hg⟩ := position_of_findActive
    ((lookup_eq_some c.nodup_activeIds).mpr ⟨hm, rfl⟩)
  refine ⟨i, hi, hg, ?_⟩
  -- the names are distinct, so the entry has one place only
  have hu := c.nodup_activeIds.of_map
  have hlt : before.length < c.active.length := by
    rw [hs, length_append, length_cons]
    omega
  have hp : c.active[before.length] = c.active[i.val] := by
    refine Eq.trans ?_ hg.symm
    simp [hs]
  have hin : i.val = before.length := (hu.getElem_inj_iff.mp hp).symm
  rw [hin, hs]
  exact ⟨take_left, by rw [drop_append]; simp⟩

variable {action : DisposableAttemptCatalogAction}

/-- **A step is redone** by its action. -/
theorem replaceAttempt_of_replaced
    (h : Replaced c r a n) (hp : r.attempt.perform action = .ok a) (hne : a ≠ r.attempt) :
    c.replaceAttempt r.attempt.attemptId r.attempt.revision action = .ok n := by
  obtain ⟨before, after, hs, ha⟩ := h.active
  obtain ⟨i, hi, rfl, rfl, rfl⟩ := position_of_split hs
  unfold replaceAttempt
  rw [hi]
  simp only [okOr, ok_bind, ne_eq, not_true_eq_false, refuseIf, if_false,
    applyAction_eq_ok.mpr hp, if_neg hne, next_of_succ h.revision]
  rw [accept_eq_ok, set_at, ← ha, ← h.tombstones, c.schemaVersion_eq, ← n.schemaVersion_eq]

/-- **A retirement is redone.** -/
theorem retireComplete_of_retired (h : Retired c r n) (hc : r.attempt.phase = .complete) :
    c.retireComplete r.attempt.attemptId r.attempt.revision = .ok n := by
  obtain ⟨before, after, hs, ha⟩ := h.active
  obtain ⟨i, hi, rfl, rfl, rfl⟩ := position_of_split hs
  unfold retireComplete
  rw [hi]
  simp only [okOr, ok_bind, ne_eq, not_true_eq_false, refuseIf, if_false, hc,
    next_of_succ h.revision]
  rw [accept_eq_ok, eraseIdx_eq_take_drop_succ, ← ha, ← h.tombstones,
    c.schemaVersion_eq, ← n.schemaVersion_eq]

/-! ### What is never refused -/

theorem exists_next (h : revision.val < maxDisposableAttemptCatalogRevision) :
    ∃ next, DisposableAttemptCatalogRevision.next revision = .ok next
      ∧ next.val = revision.val + 1 :=
  ⟨⟨revision.val + 1, Nat.le_add_left _ _, h⟩,
    DisposableAttemptCatalogRevision.next_eq_ok.mpr rfl, rfl⟩

variable (hroom : c.revision.val < maxDisposableAttemptCatalogRevision)
include hroom

/-- **Retiring a complete attempt is never refused** below the bound of the
revision. -/
theorem exists_retireComplete (hm : r ∈ c.active) (hc : r.attempt.phase = .complete) :
    ∃ n, c.retireComplete r.attempt.attemptId r.attempt.revision = .ok n := by
  obtain ⟨before, after, hs⟩ := append_of_mem hm
  obtain ⟨next, -, hsc⟩ := exists_next hroom
  exact ⟨⟨_, validate_retired hs hc hsc⟩,
    retireComplete_of_retired ⟨⟨before, after, hs, rfl⟩, rfl, hsc⟩ hc⟩

/-- **A transition the attempt accepts is never refused** below the bound of
the revision, unless what the attempt learnt is known elsewhere. -/
theorem exists_replaceAttempt (hm : r ∈ c.active)
    (hp : r.attempt.perform action = .ok a) (hu : c.UnusedElsewhere a) :
    ∃ n, c.replaceAttempt r.attempt.attemptId r.attempt.revision action = .ok n := by
  obtain ⟨before, after, hsp⟩ := append_of_mem hm
  obtain ⟨next, -, hsc⟩ := exists_next hroom
  by_cases hs : a = r.attempt
  · exact ⟨c, replaceAttempt_of_perform_self ((lookup_eq_some c.nodup_activeIds).mpr ⟨hm, rfl⟩)
      (hs ▸ hp)⟩
  · have ha := (DisposableAttemptState.eq_or_advances_of_perform hp).resolve_left hs
    exact ⟨⟨_, validate_replaced hsp ha hu hsc⟩, replaceAttempt_of_replaced
      ⟨⟨before, after, hsp, rfl⟩, rfl, hsc⟩ hp hs⟩

/-- **A bind the attempt accepts is never refused** either. -/
theorem exists_bindVmIdentityAfterClone {identity : DisposableVmIdentity} (hm : r ∈ c.active)
    (hb : r.attempt.bindVmIdentityAfterClone identity = .ok a) (hu : c.UnusedElsewhere a) :
    ∃ n, c.bindVmIdentityAfterClone r.attempt.attemptId r.attempt.revision identity = .ok n := by
  obtain ⟨i, hi, rfl⟩ := position_of_findActive ((lookup_eq_some c.nodup_activeIds).mpr ⟨hm, rfl⟩)
  obtain ⟨next, hn, hs⟩ := exists_next hroom
  have ha := DisposableAttemptState.advances_of_bindVmIdentityAfterClone hb
  unfold bindVmIdentityAfterClone
  rw [hi]
  simp only [okOr, ok_bind, ne_eq, not_true_eq_false, refuseIf, if_false,
    mapError_eq_ok.mpr hb, hn, set_at]
  exact ⟨⟨_, validate_replaced (split_at c.active i) ha hu hs⟩, accept_eq_ok.mpr rfl⟩

/-- **A fresh reservation is accepted** when there is room, its identities are
new and its resources fit. -/
theorem exists_reserve (hf : r.attempt.phase = .reserved)
    (hl : c.active.length < maxActiveDisposableAttempts)
    (hd : IdentitiesDistinct (r.attempt :: c.attempts))
    (hu : UsageFits (r.resources :: heldResources c.active)) :
    ∃ n, c.reserve r = .ok n := by
  obtain ⟨next, hn, hs⟩ := exists_next hroom
  have hv : validate { c.toCatalogRecord with
      revision := next, active := c.active ++ [r] } = .ok () := by
    refine validate_iff_accounts.mpr ⟨c.schemaVersion_eq, ⟨?_, c.length_tombstones_le⟩, ?_, ?_,
      fun _ => complete_of_mem_tombstones, ?_⟩
    · show (c.active ++ [r]).length ≤ _
      rw [length_append]
      exact hl
    · refine c.revisionAgrees.succ rfl hs ?_
      unfold accountedRevision
      dsimp only
      rw [activeRevisions_split, append_nil, revision_of_reserved hf]
      omega
    · show IdentitiesDistinct ((c.active ++ [r]).map (·.attempt) ++ c.tombstones)
      refine hd.of_subperm (List.Perm.subperm ?_)
      rw [map_append, append_assoc]
      exact perm_middle
    · show UsageFits (heldResources (c.active ++ [r]))
      rw [heldResources_append, heldResources_cons_of_ne (by rw [hf]; decide)]
      exact hu.perm (perm_append_singleton _ _).symm
  exact ⟨⟨_, hv⟩, reserve_of_appended ⟨rfl, rfl, hs⟩⟩

end DisposableAttemptCatalogDocument

end Glaeda
