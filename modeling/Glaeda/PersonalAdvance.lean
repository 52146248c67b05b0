import Glaeda.PersonalTransaction

/-!
# When a change leads to a document

`PersonalTransaction` says what a mutation that was applied did. This module
says the opposite: **which changes can be applied**. A document carries a
bounded history of summaries and a bounded list of ended requests, and both
are checked again as a whole with every change; neither ever stands in the way
of a change. What is left to check is the changed part itself – the queue, the
leases and the ended requests (`exists_advanceBy`) – and room to count one
further.
-/

namespace Glaeda

open Checked List PersonalWorkerQueueInput PersonalWorkerStoreDocument PersonalWorkerStoreRecord
open PersonalWorkerQueueGeneration

variable {observedAt : EpochMillis} {queue : PersonalWorkerQueueInput}
variable {tombs : List PersonalWorkerTerminalTombstone}
variable {last : Option PersonalWorkerHistoryEntry}
variable {request : PersonalWorkerJobRequest}

/-- **The check of one request, taken apart.** -/
theorem validateRequest_iff :
    validateRequest observedAt request = .ok () ↔ request.submittedAt.val ≤ observedAt.val
        ∧ (∀ deadline ∈ request.operatorDeadline, request.submittedAt.val < deadline.val)
        ∧ (∀ cancelledAt, request.cancellation = .cancelled cancelledAt →
          request.submittedAt.val ≤ cancelledAt.val ∧ cancelledAt.val ≤ observedAt.val)
        ∧ validateLimits request.requestedLimits = .ok ()
        ∧ request.cacheNamespace.validateForSource request.source = .ok ()
        ∧ validateFallback request.identity request.fallbackEligibility = .ok () := by
  unfold validateRequest PersonalWorkerJobRequest.validateCancellation
  rw [guard_bind_eq_ok, guard_bind_eq_ok, guard_bind_eq_ok, guard_bind_eq_ok, guard_bind_eq_ok,
    refuseIf_eq_ok, refuseIf_eq_ok, not_lt]
  refine and_congr_right fun _ => and_congr ?_ (and_congr_left fun _ => ?_)
  · simp
  · cases request.cancellation with
    | active => simp
    | cancelled cancelledAt => simp

theorem validateRequest_mono {later : EpochMillis}
    (h : validateRequest observedAt request = .ok ()) (hle : observedAt.val ≤ later.val) :
    validateRequest later request = .ok () := by
  rw [validateRequest_iff] at h ⊢
  obtain ⟨hs, hd, hc, hr⟩ := h
  refine ⟨hs.trans hle, hd, fun cancelledAt hcn => ?_, hr⟩
  obtain ⟨ha, hb⟩ := hc cancelledAt hcn
  exact ⟨ha, hb.trans hle⟩

/-! ## At most one active request -/

variable {active : PersonalWorkerActiveReservation}

/-- **One request fits.** -/
theorem aggregateActiveLimits_singleton
    (h : validateLimits active.request.requestedLimits = .ok ()) :
    ∃ usage, aggregateActiveLimits [active] = .ok usage := by
  have hl := refuseIf_eq_ok.mp h
  rw [not_or, not_or, not_lt, not_lt, not_lt] at hl
  obtain ⟨hcpu, hm, hp⟩ := hl
  have hadd : ActiveUsage.add ⟨0, 0, 0, 0⟩ active
      = .ok ⟨active.request.requestedLimits.cpuMillis.toNat,
        active.request.requestedLimits.memoryBytes.toNat,
        active.request.requestedLimits.pids.toNat,
        if active.request.jobClass = .heavy then 0 + 1 else 0⟩ := by
    have ha : ∀ size n : Nat, n < size → checkedAdd size 0 n = some n := fun size n hn =>
      checkedAdd_eq_some.mpr ⟨by rwa [zero_add], zero_add n⟩
    unfold ActiveUsage.add
    dsimp only
    rw [ha _ _ (UInt32.toNat_lt _), ha u64Size _ (UInt64.toNat_lt _),
      ha _ _ (UInt32.toNat_lt _)]
    rfl
  unfold aggregateActiveLimits
  rw [foldlM_cons, hadd, ok_bind, foldlM_nil, pure_eq_ok, ok_bind, refuseIf_of_not]
  · exact ⟨_, rfl⟩
  · rintro (ho | ho | ho | ho | ⟨-, ho⟩)
    · exact absurd hcpu (not_le.mpr ho)
    · exact absurd hm (not_le.mpr ho)
    · exact absurd hp (not_le.mpr ho)
    · dsimp only at ho
      split_ifs at ho <;> omega
    · exact absurd ho (lt_irrefl _)

/-- **At most one active request** fits, and holds its cache alone. -/
theorem fits_of_length_le_one
    {active : List PersonalWorkerActiveReservation} (hlen : active.length ≤ 1)
    (ha : ∀ a ∈ active, validateActive observedAt a = .ok ()) :
    (∃ usage, aggregateActiveLimits active = .ok usage) ∧ validateActiveLeases active = .ok () := by
  cases active with
  | nil => exact ⟨⟨_, rfl⟩, rfl⟩
  | cons a rest =>
    obtain rfl : rest = [] := length_eq_zero_iff.mp (by simpa using hlen)
    have hr := (guard_bind_eq_ok.mp (ha a mem_cons_self)).1
    exact ⟨aggregateActiveLimits_singleton (validateRequest_iff.mp hr).2.2.2.1, rfl⟩

/-! ## The ended requests -/

theorem pushTerminalTombstone_sublist (tombs : List PersonalWorkerTerminalTombstone)
    (tombstone : PersonalWorkerTerminalTombstone) :
    (PersonalWorkerStoreDocument.pushTerminalTombstone tombs tombstone).Sublist
      (tombs ++ [tombstone]) := by
  unfold pushTerminalTombstone
  dsimp only
  split
  · exact tail_sublist _
  · exact List.Sublist.refl _

section

variable {tombstone : PersonalWorkerTerminalTombstone}
    (hlen : tombs.length ≤ maxPersonalWorkerTerminalTombstones)
include hlen

/-- **One more ended request is accepted**, after the others. -/
theorem validateTerminalTombstones_push (hl : ∀ t ∈ tombs ++ [tombstone], t.id ∉ queue.liveIds)
    (hnd : ((tombs ++ [tombstone]).map PersonalWorkerTerminalTombstone.id).Nodup)
    (hsrt : (tombs ++ [tombstone]).Pairwise (fun s t => s.completedAt.val ≤ t.completedAt.val)) :
    validateTerminalTombstones queue
      (PersonalWorkerStoreDocument.pushTerminalTombstone tombs tombstone) = .ok () := by
  have hs := pushTerminalTombstone_sublist tombs tombstone
  refine validateTerminalTombstones_iff.mpr ⟨?_, fun t ht => hl t (hs.subset ht),
    (hs.map _).nodup hnd, hsrt.sublist hs⟩
  unfold pushTerminalTombstone
  dsimp only
  split
  · rw [length_tail, length_append, length_singleton, Nat.add_sub_cancel]
    exact hlen
  · omega

theorem validateTerminalTombstoneLedgerShape_push :
    validateTerminalTombstoneLedgerShape tombs
      (PersonalWorkerStoreDocument.pushTerminalTombstone tombs tombstone) = .ok () := by
  unfold validateTerminalTombstoneLedgerShape pushTerminalTombstone
  refine refuseIf_of_not fun hs => hs.2 ?_
  dsimp only
  rw [length_append, length_singleton]
  by_cases hf : tombs.length + 1 > maxPersonalWorkerTerminalTombstones
  · have hf' : tombs.length = maxPersonalWorkerTerminalTombstones := by omega
    right
    rw [if_pos hf]
    refine ⟨hf', by simp [hf'], ?_⟩
    cases tombs with
    | nil => cases hf'
    | cons t tombs =>
      rw [cons_append, tail_cons, tail_cons, ← hf', length_cons, Nat.add_sub_cancel, take_left]
  · left
    rw [if_neg hf]
    exact ⟨by omega, by simp, take_left⟩

end

/-! ## The history -/

variable (first : Nat) (previous : Option PersonalWorkerHistoryEntry)

theorem passHistory_succ (entry : PersonalWorkerHistoryEntry) (i : Nat) :
    passHistory first previous (entry, i + 1) = passHistory (first + 1) previous (entry, i) := by
  unfold passHistory
  rw [add_right_comm first 1 i, add_assoc]

theorem foldlM_passHistory_succ (history : List PersonalWorkerHistoryEntry) (i : Nat) :
    (history.zipIdx (i + 1)).foldlM (passHistory first) previous
      = (history.zipIdx i).foldlM (passHistory (first + 1)) previous := by
  induction history generalizing previous i with
  | nil => rfl
  | cons entry history ih =>
    rw [zipIdx_cons, zipIdx_cons, foldlM_cons, foldlM_cons, passHistory_succ]
    refine congrArg _ (funext fun last => ih last (i + 1))

/-- **A summary follows** where it is one revision and one generation further
and not earlier. -/
theorem passHistory_eq_ok {first : Nat} {previous : Option PersonalWorkerHistoryEntry}
    {entry : PersonalWorkerHistoryEntry} {i : Nat} :
    passHistory first previous (entry, i) = .ok last ↔ entry.revision.val = first + i
        ∧ (∀ p ∈ previous, entry.queueGeneration.val = p.queueGeneration.val + 1
          ∧ p.observedAt.val ≤ entry.observedAt.val)
        ∧ last = some entry := by
  unfold passHistory
  rw [guard_bind_eq_ok, guard_bind_eq_ok, refuseIf_bind_eq_ok, refuseIf_eq_ok,
    refuseIf_eq_ok, not_not, pure_eq_ok_iff]
  cases previous with
  | none => simp [eq_comm]
  | some p => simp [eq_comm, and_assoc]

variable {history : List PersonalWorkerHistoryEntry}

/-- **The oldest summary can be dropped.** -/
theorem foldlM_passHistory_tail {first : Nat} {entry next : PersonalWorkerHistoryEntry}
    (h : (entry :: next :: history).zipIdx.foldlM (passHistory first) none = .ok last) :
    (next :: history).zipIdx.foldlM (passHistory (first + 1)) none = .ok last := by
  rw [zipIdx_cons, foldlM_cons, bind_eq_ok] at h
  obtain ⟨_, he, h⟩ := h
  rw [foldlM_passHistory_succ, zipIdx_cons, foldlM_cons, bind_eq_ok] at h
  obtain ⟨_, hn, h⟩ := h
  obtain ⟨hr, -, rfl⟩ := passHistory_eq_ok.mp hn
  rw [zipIdx_cons, foldlM_cons, bind_eq_ok]
  exact ⟨some next, passHistory_eq_ok.mpr ⟨hr, fun _ h => (Option.not_mem_none _ h).elim, rfl⟩, h⟩

theorem validateFollows_eq_ok :
    validateFollows queue last = .ok ()
      ↔ ∀ entry ∈ last, queue.generation.val = entry.queueGeneration.val + 1
        ∧ entry.observedAt.val ≤ queue.observedAt.val := by
  cases last with
  | none => simp [validateFollows]
  | some entry =>
    unfold validateFollows
    rw [bind_eq_ok]
    simp only [mapError_eq_ok, next_eq_ok, guard_bind_eq_ok,
      refuseIf_eq_ok, not_not, not_lt, Option.mem_def, Option.some.injEq, forall_eq',
      ne_eq]
    constructor
    · rintro ⟨generation, hg, rfl, ho⟩
      exact ⟨hg, ho⟩
    · rintro ⟨hg, ho⟩
      exact ⟨_, hg, rfl, ho⟩

variable {rev : PersonalWorkerStoreRevision}

/-- **The check of a history, taken apart.** -/
theorem validateHistory_iff : validateHistory rev queue history = .ok ()
      ↔ history.length = min (rev.val - 1) maxPersonalWorkerHistoryEntries
        ∧ ∃ last, history.zipIdx.foldlM (passHistory (rev.val - history.length)) none = .ok last
          ∧ ∀ entry ∈ last, queue.generation.val = entry.queueGeneration.val + 1
            ∧ entry.observedAt.val ≤ queue.observedAt.val := by
  unfold validateHistory
  rw [refuseIf_bind_eq_ok, not_not, bind_eq_ok]
  simp only [validateFollows_eq_ok]

namespace PersonalWorkerStoreDocument

variable {d n : PersonalWorkerStoreDocument}

/-- **Every document can be summarized.** -/
theorem exists_summary (d : PersonalWorkerStoreDocument) : ∃ entry, d.summary = .ok entry
    ∧ entry.revision = d.revision ∧ entry.queueGeneration = d.queue.generation
    ∧ entry.observedAt = d.queue.observedAt := by
  have ha := d.accepted
  have hc : ∀ m, m ≤ 256 → boundedCount m = .ok m := fun m hm => by
    unfold boundedCount
    rw [refuseIf_bind (by omega), pure_eq_ok]
  have hq := hc _ ha.queued_le
  have hact := hc _ (ha.active_le.trans (by decide))
  have hl := hc d.cacheLeases.length
    ((leases_distinct d).2.2 ▸ ha.active_le.trans (by decide))
  have ht := hc _ (d.ledger.1.trans (by decide))
  obtain ⟨digest, hd⟩ : ∃ digest,
      snapshotDigest d.queue d.cacheLeases d.terminalTombstones = .ok digest := by
    obtain ⟨digest, hd⟩ := Sha256Digest.exists_parse_hexDigest _
    exact ⟨digest, mapError_eq_ok.mpr hd⟩
  unfold summary
  rw [hq, ok_bind, hact, ok_bind, hl, ok_bind, ht, ok_bind, hd, ok_bind]
  exact ⟨_, rfl, rfl, rfl, rfl⟩

/-- **The extended history covers the next revision**, whatever the queue is
that follows. -/
theorem validateHistory_extended
    {queue : PersonalWorkerQueueInput} (hrev : rev.val = d.revision.val + 1)
    (hgen : queue.generation.val = d.queue.generation.val + 1)
    (hobs : d.queue.observedAt.val ≤ queue.observedAt.val) :
    ∃ history, d.extendedHistory = .ok history ∧ validateHistory rev queue history = .ok () := by
  obtain ⟨entry, hsum, hen, hent, hentr⟩ := exists_summary d
  obtain ⟨hlen, last, hl, hfol⟩ := validateHistory_iff.mp (validate_eq_ok d).2.2.2.2.2
  have hone := d.revision.one_le
  -- the summary follows the ones there are
  have ha : (d.history ++ [entry]).zipIdx.foldlM
      (passHistory (d.revision.val - d.history.length)) none = .ok (some entry) := by
    rw [zipIdx_append, foldlM_append, hl, ok_bind]
    show (passHistory _ last (entry, 0 + d.history.length) >>= _) = _
    rw [passHistory_eq_ok.mpr ⟨?_, ?_, rfl⟩]
    · rfl
    · rw [hen]
      omega
    · intro p hp
      rw [hent, hentr]
      exact hfol p hp
  have hend : ∀ e ∈ some entry, queue.generation.val = e.queueGeneration.val + 1
      ∧ e.observedAt.val ≤ queue.observedAt.val := by
    rintro e he
    obtain rfl := Option.some.inj he
    rw [hent, hentr]
    exact ⟨hgen, hobs⟩
  unfold extendedHistory
  rw [hsum, ok_bind]
  refine ⟨_, rfl, validateHistory_iff.mpr ?_⟩
  have happ : (d.history ++ [entry]).length = d.history.length + 1 := by simp
  rw [happ]
  split
  · rename_i hf
    -- the window is full: the oldest summary goes, and the first revision moves up
    cases hh : d.history with
    | nil =>
      rw [hh] at hf
      exact absurd hf (by decide)
    | cons oldest rest =>
      rw [hh, length_cons] at hlen hf
      rw [hh] at ha
      refine ⟨?_, some entry, ?_, hend⟩
      · rw [cons_append, tail_cons, length_append, length_singleton]
        omega
      · rw [cons_append, tail_cons, length_append, length_singleton]
        have hfst : rev.val - (rest.length + 1)
            = d.revision.val - (oldest :: rest).length + 1 := by
          rw [length_cons]
          omega
        rw [hfst]
        cases rest with
        | nil | cons next rest => exact foldlM_passHistory_tail ha
  · refine ⟨by rw [happ]; omega, some entry, ?_, hend⟩
    convert ha using 3
    omega

end PersonalWorkerStoreDocument

/-! ## Changes that can be applied -/

/-- The change with its activity. -/
def MutationChange.recorded (change : MutationChange) : MutationChange :=
  { change with
    queue := { change.queue with
      activityEvidence := match change.activityAt with
        | some activityAt => .observed activityAt
        | none => change.queue.activityEvidence } }

/-- The queue after the change. -/
def MutationChange.nextQueue (change : MutationChange) : PersonalWorkerQueueInput :=
  { change.recorded.queue with observedAt := change.observedAt }

namespace PersonalWorkerStoreDocument

variable {d n : PersonalWorkerStoreDocument} {chg : MutationChange}
variable {mutation : PersonalWorkerStoreMutation}

/-- So many changes can still be counted. -/
def HasRoom (d : PersonalWorkerStoreDocument) (changes : Nat) : Prop :=
  d.revision.val + changes ≤ maxPersonalWorkerStoreRevision
    ∧ d.queue.generation.val + changes ≤ maxQueueGeneration

theorem HasRoom.le {j k : Nat} (h : d.HasRoom k) (hle : j ≤ k) : d.HasRoom j :=
  ⟨(Nat.add_le_add_left hle _).trans h.1, (Nat.add_le_add_left hle _).trans h.2⟩

/-- **A change can be applied to a document**: it starts from its queue, time
and activity do not move backwards, and the changed parts are accepted. -/
structure Admits (d : PersonalWorkerStoreDocument) (change : MutationChange) : Prop where
  generation : change.queue.generation = d.queue.generation
  base : change.queue.observedAt = d.queue.observedAt
  observed : d.queue.observedAt.val ≤ change.observedAt.val
  activity : ∀ activityAt ∈ change.activityAt,
    ∀ current ∈ change.queue.activityEvidence.lastActivityAt, current.val ≤ activityAt.val
  queue : change.nextQueue.Accepted
  leases : validateCacheLeases change.nextQueue change.leases = .ok ()
  shape : validateTerminalTombstoneLedgerShape d.terminalTombstones change.terminalTombstones
    = .ok ()
  tombstones : validateTerminalTombstones change.nextQueue change.terminalTombstones = .ok ()
  evidence : change.nextQueue.activityEvidence = .never → change.terminalTombstones = []

theorem recordActivity_of_admits (h : d.Admits chg) : chg.recordActivity = .ok chg.recorded := by
  unfold MutationChange.recordActivity MutationChange.recorded
  cases ha : chg.activityAt with
  | none =>
    dsimp only
    rw [← ha]
    rfl
  | some activityAt =>
    dsimp only
    rw [refuseIf_of_not, ok_bind]
    · rfl
    · rintro ⟨current, hc, hlt⟩
      exact absurd (h.activity activityAt ha current hc) (not_le.mpr hlt)

/-- **A change that can be applied leads to a document.** -/
theorem exists_advanceBy (h : d.Admits chg) (hr : d.HasRoom 1) :
    ∃ n, d.advanceBy chg.recorded = .ok n := by
  obtain ⟨generation, hgen⟩ : ∃ generation : PersonalWorkerQueueGeneration,
      generation.val = d.queue.generation.val + 1 :=
    ⟨⟨d.queue.generation.val + 1, Nat.le_add_left 1 _, hr.2⟩, rfl⟩
  obtain ⟨rev, hrev⟩ : ∃ rev : PersonalWorkerStoreRevision, rev.val = d.revision.val + 1 :=
    ⟨⟨d.revision.val + 1, Nat.le_add_left 1 _, hr.1⟩, rfl⟩
  have hnx : ∃ history, d.extendedHistory = .ok history
      ∧ validateHistory rev { chg.nextQueue with generation := generation } history
        = .ok () :=
    validateHistory_extended hrev hgen h.observed
  obtain ⟨history, hh, hval⟩ := hnx
  have hq : validateInput
      { chg.nextQueue with generation := generation } = .ok () :=
    validateInput_iff.mpr
      { queued_le := h.queue.queued_le, active_le := h.queue.active_le
        activity_le := h.queue.activity_le, never := h.queue.never, profile := h.queue.profile
        pending := h.queue.pending, queued := h.queue.queued, active := h.queue.active
        distinct := h.queue.distinct, fits := h.queue.fits, leases := h.queue.leases }
  have hrec : validate
      ⟨personalWorkerStoreSchemaVersion, rev, { chg.nextQueue with generation := generation },
        chg.leases, chg.terminalTombstones, history⟩ = .ok () := by
    unfold validate
    rw [guard_bind_eq_ok, guard_bind_eq_ok, guard_bind_eq_ok, guard_bind_eq_ok, guard_bind_eq_ok]
    refine ⟨refuseIf_not rfl, mapError_eq_ok.mpr hq, h.leases, h.tombstones,
      refuseIf_of_not ?_, hval⟩
    rintro ⟨hne, hn⟩
    exact hne (h.evidence hn)
  unfold advanceBy advanceWithTerminalTombstones fromParts
  have hs : ¬ chg.recorded.observedAt.val < chg.recorded.queue.observedAt.val := by
    show ¬ chg.observedAt.val < chg.queue.observedAt.val
    rw [h.base]
    exact Nat.not_lt.mpr h.observed
  have hcnt : chg.recorded.queue.generation = d.queue.generation := h.generation
  refine ⟨⟨_, hrec⟩, ?_⟩
  rw [refuseIf_bind hs, hcnt, mapError_eq_ok.mpr (next_eq_ok.mpr hgen), ok_bind,
    mapError_eq_ok, nextQueueGeneration_eq_ok.mpr hgen, ok_bind,
    refuseIf_not rfl, ok_bind, guard_bind_eq_ok, guard_bind_eq_ok]
  refine ⟨refuseIf_of_not (Nat.not_lt.mpr h.observed), h.shape, ?_⟩
  rw [hh, ok_bind, PersonalWorkerStoreRevision.next_eq_ok.mpr hrev, ok_bind, accept_eq_ok]
  rfl

/-- **A mutation whose change can be applied leads to a document** that shows
it, one revision and one generation further. -/
theorem exists_mutatesTo
    (hc : d.change mutation = .ok (some chg)) (h : d.Admits chg) (hrm : d.HasRoom 1) :
    ∃ n, d.MutatesTo mutation n ∧ chg.ShownBy n := by
  obtain ⟨n, hn⟩ := exists_advanceBy h hrm
  have hr := recordActivity_of_admits h
  refine ⟨n, ⟨chg.recorded, ?_, hn⟩, shownBy_of_advanceBy hr hn⟩
  unfold applyToSnapshot
  rw [hc, ok_bind]
  show (chg.recordActivity >>= _) = _
  rw [hr]
  rfl

/-- **A document a mutation led to replaces the one before it**, where its ended
requests do. -/
theorem MutatesTo.validateSuccessorOf
    (h : d.MutatesTo mutation n) (he : d.validateTerminalTombstoneSuccessor n = .ok ()) :
    n.validateSuccessorOf d = .ok () := by
  obtain ⟨recorded, -, ha⟩ := h
  unfold advanceBy advanceWithTerminalTombstones fromParts at ha
  simp only [bind_eq_ok, mapError_eq_ok, refuseIf_eq_ok, accept_eq_ok, not_not, ne_eq,
    not_lt] at ha
  obtain ⟨_, -, generation, -, _, hexp, _, rfl, _, ho, _, -, history, hh,
    rev, hrev, hr⟩ := ha
  have hq := congrArg queue hr
  unfold PersonalWorkerStoreDocument.validateSuccessorOf
  rw [hrev, ok_bind, refuseIf_bind (not_not.mpr
    (congrArg PersonalWorkerStoreRecord.revision hr)), hexp, ok_bind,
    refuseIf_not (congrArg PersonalWorkerQueueInput.generation hq), ok_bind,
    refuseIf_of_not, ok_bind, he, ok_bind, hh, ok_bind, refuseIf_of_not (not_not.mpr
      (congrArg PersonalWorkerStoreRecord.history hr))]
  rw [hq]
  exact not_lt.mpr ho

/-- **A mutation is applied**: it leads to a document, which replaces the one
before it. -/
def Applies (d : PersonalWorkerStoreDocument) (mutation : PersonalWorkerStoreMutation)
    (n : PersonalWorkerStoreDocument) : Prop :=
  d.MutatesTo mutation n ∧ n.validateSuccessorOf d = .ok ()

theorem Applies.hasRoom {changes : Nat}
    (h : d.Applies mutation n) (hroom : d.HasRoom (changes + 1)) : n.HasRoom changes := by
  obtain ⟨hrev, hg, -⟩ := counts_of_validateSuccessorOf h.2
  obtain ⟨hrm, hr⟩ := hroom
  constructor <;> omega

/-- A change that leaves the ended requests alone, and no active request out,
is accepted as a replacement. -/
theorem validateTerminalTombstoneSuccessor_of_kept
    (ht : n.terminalTombstones = d.terminalTombstones)
    (hact : ∀ a ∈ d.queue.active, ∃ kept ∈ n.queue.active, kept.id = a.id) :
    d.validateTerminalTombstoneSuccessor n = .ok () := by
  unfold validateTerminalTombstoneSuccessor removedActive
  rw [if_pos ht, refuseIf_of_not]
  rw [not_not, filter_eq_nil_iff]
  intro a ha hr
  exact of_decide_eq_true hr (hact a ha)

/-- **Where there are as many leases as active requests, at most one, each of
them of its owner, they are accepted.** -/
theorem validateCacheLeases_of_le_one {queue : PersonalWorkerQueueInput}
    {leases : List PersonalWorkerDurableCacheLease} (hlen : leases.length = queue.active.length)
    (hone : leases.length ≤ 1) (ho : ∀ lease ∈ leases, checkOwner queue lease = .ok ()) :
    validateCacheLeases queue leases = .ok () := by
  unfold validateCacheLeases
  rw [refuseIf_not hlen, ok_bind]
  cases leases with
  | nil => rfl
  | cons lease rest =>
    obtain rfl : rest = [] := length_eq_zero_iff.mp (by simpa using hone)
    have hown := ho lease mem_cons_self
    unfold checkOwner at hown
    rw [bind_eq_ok] at hown
    obtain ⟨reservation, hr, hl⟩ := hown
    rw [foldlM_cons, takeLease, refuseIf_bind not_mem_nil, hr, ok_bind, hl]
    rfl

end PersonalWorkerStoreDocument

end Glaeda
