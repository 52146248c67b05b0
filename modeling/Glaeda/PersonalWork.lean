import Glaeda.PersonalTransaction
import Mathlib.Algebra.Order.Group.Multiset
import Mathlib.Tactic.Abel

/-!
# Work is neither lost nor duplicated

A request that was submitted waits in the queue, is served, and ends; what
ended is remembered for a while and then forgotten, the oldest first. The
four lists involved are changed by eleven kinds of mutation, and no list
says by itself where a request went.

This module says once what a mutation can do to the lists
(`PersonalWorkerStoreDocument.Moves`) – let a request in, rewrite one in its
place, move one from the queue to the active ones with a lease, or from
there to the ended ones without it – and reads everything else off: **each
submission is in exactly one place** along every run (`work_conserved`).

The cancellation of a request is the one part of it that is rewritten while
it is in the store, so requests are compared without it.
-/

namespace Glaeda

open Checked Transaction List KeyedList PersonalWorkerStoreDocument

/-! ## Where the work is -/

/-- **The work of a request**: all of it but its cancellation. -/
def PersonalWorkerJobRequest.work (request : PersonalWorkerJobRequest) : PersonalWorkerJobRequest :=
  { request with cancellation := .active }

theorem PersonalWorkerJobRequest.id_eq_of_work_eq {old new : PersonalWorkerJobRequest}
    (h : new.work = old.work) : new.id = old.id :=
  show new.work.id = old.work.id from congrArg PersonalWorkerJobRequest.id h

/-- The requests of some entries. -/
def workOf {α : Type} (request : α → PersonalWorkerJobRequest) (entries : List α) :
    Multiset PersonalWorkerJobRequest :=
  entries.map (fun entry => (request entry).work)

section WorkOf

variable {α : Type} {request : α → PersonalWorkerJobRequest}

@[simp] theorem workOf_nil : workOf request [] = 0 := rfl

@[simp] theorem workOf_cons (entry : α) (entries : List α) :
    workOf request (entry :: entries) = {(request entry).work} + workOf request entries := by
  simp [workOf]

@[simp] theorem workOf_append (before after : List α) :
    workOf request (before ++ after) = workOf request before + workOf request after := by
  simp [workOf]

end WorkOf

namespace PersonalWorkerStoreDocument

variable {d n : PersonalWorkerStoreDocument} {chg : MutationChange}
variable {rid : ExecutionRequestId}

/-- The requests of a document. -/
def work (d : PersonalWorkerStoreDocument) : Multiset PersonalWorkerJobRequest :=
  workOf id d.queue.queued + workOf PersonalWorkerActiveReservation.request d.queue.active
    + workOf (fun tombstone => tombstone.request) d.terminalTombstones

/-- The ended requests that are forgotten. -/
def evictedBy (d n : PersonalWorkerStoreDocument) : List PersonalWorkerTerminalTombstone :=
  d.terminalTombstones.filter (fun tombstone => tombstone ∉ n.terminalTombstones)

/-! ## What a mutation does to the lists -/

/-- **The moves**: what a change can do to the queue, the active requests, the
leases and the ended requests, and which requests it lets in. -/
inductive Moves (d : PersonalWorkerStoreDocument) (change : MutationChange) :
    List PersonalWorkerJobRequest → Prop
  | kept (hque : change.queue.queued = d.queue.queued)
      (hact : change.queue.active = d.queue.active)
      (htombs : change.terminalTombstones = d.terminalTombstones) : Moves d change []
  | submitted (request : PersonalWorkerJobRequest)
      (hque : change.queue.queued = d.queue.queued ++ [request])
      (hact : change.queue.active = d.queue.active)
      (htombs : change.terminalTombstones = d.terminalTombstones) : Moves d change [request]
  | queuedRewritten (before after : List PersonalWorkerJobRequest)
      (old new : PersonalWorkerJobRequest)
      (hplace : d.queue.queued = before ++ old :: after)
      (hque : change.queue.queued = before ++ new :: after) (hwork : new.work = old.work)
      (hact : change.queue.active = d.queue.active)
      (htombs : change.terminalTombstones = d.terminalTombstones) : Moves d change []
  | activeRewritten (before after : List PersonalWorkerActiveReservation)
      (old new : PersonalWorkerActiveReservation)
      (hplace : d.queue.active = before ++ old :: after)
      (hact : change.queue.active = before ++ new :: after)
      (hwork : new.request.work = old.request.work)
      (hque : change.queue.queued = d.queue.queued)
      (htombs : change.terminalTombstones = d.terminalTombstones) : Moves d change []
  | reserved (before after : List PersonalWorkerJobRequest) (request : PersonalWorkerJobRequest)
      (active : PersonalWorkerActiveReservation)
      (hplace : d.queue.queued = before ++ request :: after)
      (hque : change.queue.queued = before ++ after) (hreq : active.request = request)
      (hact : change.queue.active = d.queue.active ++ [active])
      (htombs : change.terminalTombstones = d.terminalTombstones) : Moves d change []
  | released (before after : List PersonalWorkerActiveReservation)
      (active : PersonalWorkerActiveReservation) (tombstone : PersonalWorkerTerminalTombstone)
      (hplace : d.queue.active = before ++ active :: after)
      (hact : change.queue.active = before ++ after)
      (hque : change.queue.queued = d.queue.queued)
      (hlease : KeyedList.lookup PersonalWorkerDurableCacheLease.requestId active.id d.cacheLeases
        = some tombstone.cacheLease)
      (hreq : tombstone.request = active.request)
      (hstar : tombstone.startedAt = active.startedAt)
      (htombs : change.terminalTombstones
        = pushTerminalTombstone d.terminalTombstones tombstone) : Moves d change []

theorem moves_cancel {cancelledAt : EpochMillis} {draining : Option ExecutionAdmissionRecord}
    (h : d.cancel rid cancelledAt draining = .ok (some chg)) : d.Moves chg [] := by
  unfold cancel at h
  split at h
  · rename_i before request after hp
    obtain ⟨-, -, rfl⟩ := cancelQueued_eq_ok h
    exact .queuedRewritten before after request _ (split_eq_some.mp hp).1 rfl rfl rfl rfl
  · split at h
    · rename_i before act after hp
      obtain ⟨next, -, -, rfl⟩ := cancelActive_eq_ok h
      exact .activeRewritten before after act _ (split_eq_some.mp hp).1 rfl rfl rfl rfl
    · cases h

theorem moves_applyActiveTransition
    {adm : ExecutionAdmissionRecord} {requiredState : ExecutionAdmissionState}
    {message : String}
    (h : d.applyActiveTransition rid adm requiredState message = .ok (some chg)) :
    d.Moves chg [] := by
  obtain ⟨before, act, after, -, hp, rfl⟩ := applyActiveTransition_eq_ok h
  exact .activeRewritten before after act _ (split_eq_some.mp hp).1 rfl rfl rfl rfl

theorem moves_release {terminalAdmission : ExecutionAdmissionRecord}
    (h : d.releaseCompletionAndCacheLease rid terminalAdmission = .ok (some chg)) :
    d.Moves chg [] := by
  obtain ⟨before, act, after, -, -, hp, h⟩ := release_eq_ok h
  obtain ⟨tombstone, leasesBefore, leasesAfter, -, hls, hr, -, hs, rfl⟩ :=
    releaseActive_eq_ok h
  obtain ⟨ha, rfl, -⟩ := split_eq_some.mp hp
  obtain ⟨hl, hid, -⟩ := split_eq_some.mp hls
  have hmem : tombstone.cacheLease ∈ d.cacheLeases := by
    rw [hl]
    exact mem_append_right _ mem_cons_self
  exact .released before after act tombstone ha rfl rfl
    ((lookup_eq_some (leases_distinct d).2.1).mpr ⟨hmem, hid⟩) hr hs rfl

end PersonalWorkerStoreDocument

/-- The request a change submits. -/
def PersonalWorkerStoreMutation.submitted :
    PersonalWorkerStoreMutation → List PersonalWorkerJobRequest
  | .submit request _ => [request]
  | _ => []

namespace PersonalWorkerStoreDocument

variable {d n : PersonalWorkerStoreDocument} {chg : MutationChange}
variable {came : List PersonalWorkerJobRequest}

/-- **Every mutation is one of the moves.** -/
theorem moves_of_change {mu : PersonalWorkerStoreMutation}
    (h : d.change mu = .ok (some chg)) : d.Moves chg mu.submitted := by
  cases mu with
  | submit request observedAt =>
    obtain ⟨-, -, -, rfl⟩ := submit_eq_ok h
    exact .submitted request rfl rfl rfl
  | cancel rid cancelledAt draining => exact moves_cancel h
  | recordReservationAndAcquireCacheLease rid adm lease =>
    obtain ⟨before, request, after, -, -, hp, -, -, rfl⟩ := recordReservation_eq_ok h
    exact .reserved before after request _ (split_eq_some.mp hp).1 rfl rfl rfl rfl
  | markStarting rid adm startedAt =>
    obtain ⟨before, act, after, -, hp, rfl⟩ := markStarting_eq_ok h
    exact .activeRewritten before after act _ (split_eq_some.mp hp).1 rfl rfl rfl rfl
  | markRunning rid adm | markDraining rid adm =>
    exact moves_applyActiveTransition h
  | releaseCompletionAndCacheLease rid adm => exact moves_release h
  | setProfileIntent target requestedAt observedAt =>
    obtain rfl := setProfileIntent_eq_ok h
    exact .kept rfl rfl rfl
  | cancelProfileIntent observedAt =>
    obtain rfl := cancelProfileIntent_eq_ok h
    exact .kept rfl rfl rfl
  | observeProfile profile observedAt =>
    obtain rfl := observeProfile_eq_ok h
    exact .kept rfl rfl rfl
  | updateLastActivity lastActivityAt observedAt =>
    obtain rfl := updateLastActivity_eq_ok h
    exact .kept rfl rfl rfl

/-! ## One step -/

theorem getLast_pushTerminalTombstone (tombstones : List PersonalWorkerTerminalTombstone)
    (tombstone : PersonalWorkerTerminalTombstone) :
    (pushTerminalTombstone tombstones tombstone).getLast? = some tombstone := by
  obtain h | ⟨oldest, rest, -, h⟩ := pushTerminalTombstone_cases tombstones tombstone
  · rw [h, getLast?_concat]
  · rw [h, getLast?_concat]

theorem evictedBy_eq_nil (h : d.terminalTombstones ⊆ n.terminalTombstones) :
    d.evictedBy n = [] := by
  refine filter_eq_nil_iff.mpr fun tombstone hmem he => ?_
  exact of_decide_eq_true he (h hmem)

theorem work_pushTerminalTombstone {tombstone : PersonalWorkerTerminalTombstone}
    (hnew : tombstone.id ∈ d.queue.liveIds)
    (hn : n.terminalTombstones = pushTerminalTombstone d.terminalTombstones tombstone) :
    workOf (fun t : PersonalWorkerTerminalTombstone => t.request) n.terminalTombstones
        + workOf (fun t => t.request) (d.evictedBy n)
      = workOf (fun t => t.request) d.terminalTombstones + {tombstone.request.work} := by
  obtain h | ⟨oldest, rest, hd, h⟩ := pushTerminalTombstone_cases d.terminalTombstones tombstone
  · have hk : d.evictedBy n = [] := by
      refine evictedBy_eq_nil ?_
      rw [hn, h]
      exact subset_append_left _ _
    rw [hk, hn, h]
    simp
  · have hnd : ((oldest :: rest).map PersonalWorkerTerminalTombstone.id).Nodup :=
      hd ▸ (nodup_append'.mp d.ids_nodup).2.1
    have he : d.evictedBy n = [oldest] := by
      unfold evictedBy
      rw [hn, h, hd, filter_cons_of_pos, filter_eq_nil_iff.mpr]
      · intro t ht hnot
        exact of_decide_eq_true hnot (mem_append_left _ ht)
      · refine decide_eq_true fun hmem => ?_
        obtain hmem | hmem := mem_append.mp hmem
        · exact (nodup_cons.mp hnd).1 (mem_map_of_mem hmem)
        · obtain rfl := mem_singleton.mp hmem
          exact not_mem_liveIds (hd ▸ mem_cons_self) hnew
    rw [he, hn, h, hd]
    simp only [workOf_append, workOf_cons, workOf_nil]
    abel

theorem work_eq_of_live (hn : chg.ShownBy n)
    (ht : chg.terminalTombstones = d.terminalTombstones)
    (hl : workOf id chg.queue.queued
        + workOf PersonalWorkerActiveReservation.request chg.queue.active
      = workOf id d.queue.queued + workOf PersonalWorkerActiveReservation.request d.queue.active
        + workOf id came) :
    n.work + workOf (fun tombstone => tombstone.request) (d.evictedBy n)
      = d.work + workOf id came := by
  have hs := hn.terminalTombstones.trans ht
  have hk : d.evictedBy n = [] := evictedBy_eq_nil (hs ▸ List.Subset.refl _)
  unfold work
  rw [hk, hn.queued, hn.active, hl, hs, workOf_nil]
  abel

section

variable (h : d.Moves chg came) (hn : chg.ShownBy n)
include h hn

/-- **A step keeps all work**: what came in is there, and what is not there
any more was evicted. -/
theorem Moves.work_eq :
    n.work + workOf (fun tombstone => tombstone.request) (d.evictedBy n)
      = d.work + workOf id came := by
  cases h with
  | kept hque hact ht =>
    refine work_eq_of_live hn ht ?_
    rw [hque, hact, workOf_nil, add_zero]
  | submitted request hque hact ht =>
    refine work_eq_of_live hn ht ?_
    rw [hque, hact, workOf_append]
    abel
  | queuedRewritten before after old new hp hque hw hact ht =>
    refine work_eq_of_live hn ht ?_
    rw [hque, hact, hp]
    simp only [workOf_append, workOf_cons, workOf_nil, id, hw, add_zero]
  | activeRewritten before after old new hp hact hw hque ht =>
    refine work_eq_of_live hn ht ?_
    rw [hque, hact, hp]
    simp only [workOf_append, workOf_cons, workOf_nil, hw, add_zero]
  | reserved before after request act hp hque hreq hact ht =>
    refine work_eq_of_live hn ht ?_
    rw [hque, hact, hp]
    simp only [workOf_append, workOf_cons, workOf_nil, id, hreq]
    abel
  | released before after act tombstone hp hact hque hls hreq hs
      ht =>
    have hl : tombstone.id ∈ d.queue.liveIds := by
      refine PersonalWorkerQueueInput.mem_liveIds.mpr (.inr ⟨act, ?_, ?_⟩)
      · rw [hp]
        exact mem_append_right _ mem_cons_self
      · rw [PersonalWorkerTerminalTombstone.id, hreq]
    have hpus := work_pushTerminalTombstone hl (hn.terminalTombstones.trans ht)
    unfold work
    rw [hn.queued, hn.active, hque, hact, hp, add_assoc, hpus, hreq]
    simp only [workOf_append, workOf_cons, workOf_nil]
    abel

theorem Moves.active_of_queued {request : PersonalWorkerJobRequest}
    (hmem : request ∈ d.queue.queued)
    (hg : request.id ∉ n.queue.queued.map PersonalWorkerJobRequest.id) :
    ∃ act ∈ n.queue.active, act.request = request := by
  rw [hn.queued] at hg
  cases h with
  | kept hq | activeRewritten _ _ _ _ _ _ _ hq | released _ _ _ _ _ _ hq =>
    rw [hq] at hg
    exact absurd (mem_map_of_mem hmem) hg
  | submitted new hq =>
    rw [hq] at hg
    exact absurd (mem_map_of_mem (mem_append_left _ hmem)) hg
  | queuedRewritten before after old new hp hq hw =>
    -- the request that was rewritten keeps its identity
    have hid : new.id = old.id := PersonalWorkerJobRequest.id_eq_of_work_eq hw
    rw [hq, map_replace hid, ← hp] at hg
    exact absurd (mem_map_of_mem hmem) hg
  | reserved before after reserved act hp hq hr ha =>
    rw [hp] at hmem
    rw [hq] at hg
    refine ⟨act, ?_, ?_⟩
    · rw [hn.active, ha]
      exact mem_append_right _ mem_cons_self
    · rw [hr]
      exact (eq_of_mem_middle hmem hg).symm

/-- An active request that is gone has ended: its tombstone is the newest, and
it was made of the request and its lease. -/
theorem Moves.tombstone_of_active {act : PersonalWorkerActiveReservation}
    (hmem : act ∈ d.queue.active)
    (hg : act.id ∉ n.queue.active.map PersonalWorkerActiveReservation.id) :
    ∃ tombstone, n.terminalTombstones.getLast? = some tombstone
      ∧ tombstone.request = act.request ∧ tombstone.startedAt = act.startedAt
      ∧ KeyedList.lookup PersonalWorkerDurableCacheLease.requestId act.id d.cacheLeases
        = some tombstone.cacheLease := by
  rw [hn.active] at hg
  cases h with
  | kept _ hact | submitted _ _ hact | queuedRewritten _ _ _ _ _ _ _ hact =>
    rw [hact] at hg
    exact absurd (mem_map_of_mem hmem) hg
  | activeRewritten before after old new hp hact hw =>
    have hid : new.id = old.id := PersonalWorkerJobRequest.id_eq_of_work_eq hw
    rw [hact, map_replace hid, ← hp] at hg
    exact absurd (mem_map_of_mem hmem) hg
  | reserved _ _ _ _ _ _ _ hact =>
    rw [hact] at hg
    exact absurd (mem_map_of_mem (mem_append_left _ hmem)) hg
  | released before after ended tombstone hp hact hque hl hreq hs
      ht =>
    rw [hp] at hmem
    rw [hact] at hg
    obtain rfl := eq_of_mem_middle hmem hg
    refine ⟨tombstone, ?_, hreq, hs, hl⟩
    rw [hn.terminalTombstones, ht]
    exact getLast_pushTerminalTombstone _ _

end

/-- **Where requests go in a step.** -/
structure Keeps (d n : PersonalWorkerStoreDocument) : Prop where
  queued : ∀ request ∈ d.queue.queued, request.id ∉ n.queue.queued.map PersonalWorkerJobRequest.id →
      ∃ active ∈ n.queue.active, active.request = request
        ∧ (n.cacheLeases.map PersonalWorkerDurableCacheLease.requestId).count request.id = 1
  /-- A request leaves the active ones only by ending. Its tombstone is the
  newest, it is made of the request, its start and its lease, and the lease is
  gone. -/
  active : ∀ reservation ∈ d.queue.active,
    reservation.id ∉ n.queue.active.map PersonalWorkerActiveReservation.id →
      reservation.id ∉ n.cacheLeases.map PersonalWorkerDurableCacheLease.requestId
        ∧ ∃ tombstone, n.terminalTombstones.getLast? = some tombstone
          ∧ tombstone.request = reservation.request
          ∧ tombstone.startedAt = reservation.startedAt
          ∧ KeyedList.lookup PersonalWorkerDurableCacheLease.requestId reservation.id d.cacheLeases
            = some tombstone.cacheLease

theorem Moves.keeps (h : d.Moves chg came) (hn : chg.ShownBy n) : d.Keeps n := by
  constructor
  · intro request hmem hg
    obtain ⟨act, ha, rfl⟩ := h.active_of_queued hn hmem hg
    refine ⟨act, ha, rfl, count_eq_one_of_mem (leases_distinct n).2.1 ?_⟩
    exact (perm_leases n).mem_iff.mpr (mem_map_of_mem ha)
  · intro reservation hmem hg
    exact ⟨fun hl => hg ((perm_leases n).mem_iff.mp hl),
      h.tombstone_of_active hn hmem hg⟩

end PersonalWorkerStoreDocument

/-! ## Ended requests do not come back -/

/-- The request a change lets in. -/
def PersonalWorkerStoreMutation.admits : PersonalWorkerStoreMutation → Option ExecutionRequestId
  | .submit request _ => some request.id
  | .recordReservationAndAcquireCacheLease requestId _ _ => some requestId
  | _ => none

namespace PersonalWorkerStoreDocument

variable {d : PersonalWorkerStoreDocument} {tombstone : PersonalWorkerTerminalTombstone}

section

variable (hmem : tombstone ∈ d.terminalTombstones)
include hmem

theorem submit_ended {request : PersonalWorkerJobRequest} {observedAt : EpochMillis}
    (hid : tombstone.id = request.id) : ∃ e, d.submit request observedAt = .error e := by
  unfold submit
  rw [refuseIf_of ⟨tombstone, hmem, hid⟩]
  exact ⟨_, rfl⟩

theorem recordReservation_ended {adm : ExecutionAdmissionRecord}
    {cacheLease : PersonalWorkerDurableCacheLease} :
    ∃ e, d.recordReservationAndAcquireCacheLease tombstone.id adm cacheLease = .error e := by
  have hl := not_mem_liveIds hmem
  rw [PersonalWorkerQueueInput.mem_liveIds, not_or] at hl
  have hact : d.queue.activeAt tombstone.id = none :=
    split_eq_none.mpr fun act ha hid => hl.2 ⟨act, ha, hid⟩
  have hq : d.queue.queuedAt tombstone.id = none :=
    split_eq_none.mpr fun request hr hid => hl.1 ⟨request, hr, hid⟩
  unfold recordReservationAndAcquireCacheLease
  rw [hact, hq]
  by_cases hst : adm.state ≠ .reserved
  · rw [refuseIf_of hst]
    exact ⟨_, rfl⟩
  · rw [refuseIf_of_not hst]
    exact ⟨_, rfl⟩

/-- **What ended does not come back** while it is remembered. -/
theorem applyToSnapshot_ended {mu : PersonalWorkerStoreMutation}
    (ha : mu.admits = some tombstone.id) :
    ∃ e, d.applyToSnapshot mu = .error e := by
  have hc : ∃ e, d.change mu = .error e := by
    cases mu with
    | submit request observedAt => exact submit_ended hmem (Option.some.inj ha).symm
    | recordReservationAndAcquireCacheLease rid adm lease =>
      obtain rfl := Option.some.inj ha
      exact recordReservation_ended hmem
    | _ => cases ha
  obtain ⟨e, he⟩ := hc
  unfold applyToSnapshot
  rw [he]
  exact ⟨e, rfl⟩

end

end PersonalWorkerStoreDocument

/-! ## Runs of the store -/

/-- The change was applied to the store. -/
def PersonalStoreFiles.AppliedTo (files : PersonalStoreFiles)
    (mutation : PersonalWorkerStoreMutation) (files' : PersonalStoreFiles) : Prop :=
  ∃ expectedRevision expectedGeneration effects receipt,
    (applyPersonalWorkerStoreMutation expectedRevision expectedGeneration mutation).run files
      = (effects, .ok receipt)
    ∧ receipt.disposition = .applied ∧ replay PersonalStoreFiles.apply files effects = files'

/-- **A run of applied mutations** from a clean store with a document: the
store it reaches, the work that was submitted on the way – that of the first
document included – and the tombstones that were evicted. -/
inductive WorkRun : PersonalStoreFiles → Multiset PersonalWorkerJobRequest →
    List PersonalWorkerTerminalTombstone → Prop
  | start (files : PersonalStoreFiles) (document : PersonalWorkerStoreDocument)
      (hcln : files.staged = none) (hcur : files.current = some document) :
      WorkRun files document.work []
  | step {files files' : PersonalStoreFiles} {submitted : Multiset PersonalWorkerJobRequest}
      {evicted : List PersonalWorkerTerminalTombstone} {d n : PersonalWorkerStoreDocument}
      (mutation : PersonalWorkerStoreMutation) (hrun : WorkRun files submitted evicted)
      (happd : files.AppliedTo mutation files') (hbef : files.current = some d)
      (hafter : files'.current = some n) :
      WorkRun files' (submitted + workOf id mutation.submitted) (evicted ++ d.evictedBy n)

section Runs

variable {files files' : PersonalStoreFiles} {mu : PersonalWorkerStoreMutation}

/-- **An applied mutation publishes a document it led to.** -/
theorem PersonalStoreFiles.AppliedTo.exists_mutatesTo (hc : files.staged = none)
    (h : files.AppliedTo mu files') :
    ∃ d n, files.current = some d ∧ d.MutatesTo mu n
      ∧ files' = PersonalWorkerStore.published files n := by
  obtain ⟨expectedRevision, expectedGeneration, effects, receipt, hr, hds, rfl⟩ := h
  have hs := settles_applyMutation expectedRevision expectedGeneration mu hc
  have hd := hs.of_ok (congrArg Prod.snd hr)
  rw [hr] at hd
  obtain ⟨d, -, hcur, ⟨-, -, rfl⟩ | ⟨n, hm, rfl, -⟩⟩ := hd
  · cases hds
  · exact ⟨d, n, hcur, hm, rfl⟩

variable {submitted : Multiset PersonalWorkerJobRequest}
variable {evicted : List PersonalWorkerTerminalTombstone}

/-- **The invariant of a run**: the store is clean, and what was submitted is
in the document or was evicted. -/
theorem WorkRun.invariant (h : WorkRun files submitted evicted) :
    files.staged = none ∧ ∃ d, files.current = some d
      ∧ submitted = d.work + workOf (fun tombstone => tombstone.request) evicted := by
  induction h with
  | start files document hcln hc =>
    exact ⟨hcln, document, hc, by rw [workOf_nil, add_zero]⟩
  | step mu hr hap hb ha ih =>
    obtain ⟨hcln, d, hc, hw⟩ := ih
    obtain ⟨d', n, hc', hm, rfl⟩ := hap.exists_mutatesTo hcln
    obtain rfl := Option.some.inj (hb.symm.trans hc)
    obtain rfl := Option.some.inj (hb.symm.trans hc')
    obtain rfl := Option.some.inj ha
    obtain ⟨chg, hchg, hs⟩ := hm.exists_change
    have hst := (moves_of_change hchg).work_eq hs
    refine ⟨rfl, n, rfl, ?_⟩
    rw [hw, workOf_append, add_right_comm, ← hst]
    abel

/-- **Work is conserved.** At every moment of a run of applied mutations, the
submissions are exactly the requests that wait, are active, ended or were
evicted after they ended, and no request stands twice among the first three.
In a further step, a request leaves the queue only by becoming active with
one lease, and the active ones only with its lease, by ending as the newest
tombstone; and a mutation that would submit or reserve a request that ended
is refused. -/
theorem work_conserved (h : WorkRun files submitted evicted) :
    ∃ d, files.current = some d ∧ submitted = workOf id d.queue.queued
        + workOf PersonalWorkerActiveReservation.request d.queue.active
        + workOf (fun tombstone => tombstone.request) d.terminalTombstones
        + workOf (fun tombstone => tombstone.request) evicted ∧ d.ids.Nodup
      ∧ (∀ mu files', files.AppliedTo mu files' → ∃ n, files'.current = some n ∧ d.Keeps n)
      ∧ ∀ tombstone ∈ d.terminalTombstones, ∀ mu : PersonalWorkerStoreMutation,
        mu.admits = some tombstone.id → ∀ expectedRevision expectedGeneration,
        ∃ e, (applyPersonalWorkerStoreMutation expectedRevision expectedGeneration mu).run
          files = ([], .error e) := by
  obtain ⟨hcln, d, hcur, hw⟩ := h.invariant
  refine ⟨d, hcur, hw, d.ids_nodup, ?_, ?_⟩
  · intro mu files' ha
    obtain ⟨d', n, hcur', hmut, rfl⟩ := ha.exists_mutatesTo hcln
    obtain rfl := Option.some.inj (hcur.symm.trans hcur')
    obtain ⟨chg, hchg, hsh⟩ := hmut.exists_change
    exact ⟨n, rfl, (moves_of_change hchg).keeps hsh⟩
  · intro tombstone hmem mu hadm expectedRevision expectedGeneration
    obtain ⟨e, he⟩ := applyToSnapshot_ended hmem hadm
    obtain href | ⟨_, _, -, d', -, hcur', ⟨hnone, -⟩ | ⟨n, ⟨chg, hs, -⟩, -⟩⟩ :=
      settles_applyMutation expectedRevision expectedGeneration mu hcln
    · exact href
    · obtain rfl := Option.some.inj (hcur.symm.trans hcur')
      rw [he] at hnone
      cases hnone
    · obtain rfl := Option.some.inj (hcur.symm.trans hcur')
      rw [he] at hs
      cases hs

end Runs

/-! ## A request that waits and is reserved -/

/-- A record that is reserved. -/
def reservedRecord : ExecutionAdmissionRecord := ⟨sampleObserved .reserved none none, by decide⟩

/-- A lease for the sample. -/
def sampleLease : PersonalWorkerDurableCacheLease :=
  ⟨sampleRequest.id, sampleRequest.cacheNamespace, sampleRequest.cacheAccess,
    ⟨"sample", isSafeIdentifier_sample⟩, .first _, firstMilli⟩

/-- A document in whose queue the request waits. -/
def waitingDocument : PersonalWorkerStoreDocument :=
  ⟨⟨personalWorkerStoreSchemaVersion, .first, idleQueue [sampleRequest], [], [], []⟩,
    by decide +kernel⟩

theorem work_conserved_sampleRequest :
    ∃ files evicted d, WorkRun files {sampleRequest.work} evicted ∧ files.current = some d
      ∧ {sampleRequest.work} = workOf id d.queue.queued
          + workOf PersonalWorkerActiveReservation.request d.queue.active
          + workOf (fun tombstone => tombstone.request) d.terminalTombstones
          + workOf (fun tombstone => tombstone.request) evicted := by
  let mu := PersonalWorkerStoreMutation.recordReservationAndAcquireCacheLease
    sampleRequest.id reservedRecord sampleLease
  let files : PersonalStoreFiles := { sampleFiles with current := some waitingDocument }
  have hrs : ((applyPersonalWorkerStoreMutation waitingDocument.revision
      waitingDocument.queue.generation mu).run files).2.map (·.disposition)
      = .ok .applied := by
    decide +kernel
  obtain ⟨receipt, hr, hds⟩ := map_eq_ok.mp hrs
  have ha : files.AppliedTo mu _ :=
    ⟨_, _, _, receipt, Prod.ext rfl hr, hds, rfl⟩
  obtain ⟨_, n, -, -, hf⟩ := ha.exists_mutatesTo rfl
  rw [hf] at ha
  have hrun := WorkRun.step mu (.start files waitingDocument rfl rfl) ha rfl rfl
  have hw : waitingDocument.work + workOf id mu.submitted = {sampleRequest.work} := by
    decide
  rw [hw] at hrun
  obtain ⟨d, hd, hc, -⟩ := work_conserved hrun
  exact ⟨_, _, d, hrun, hd, hc⟩

end Glaeda
