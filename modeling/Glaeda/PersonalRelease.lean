import Glaeda.PersonalAdvance
import Glaeda.PersonalWork

/-!
# An active request can always be ended

A request that is being served holds one of two slots and a cache. Whatever
state its admission is in, there is evidence that ends it now: where it was
draining the end is what it drained for, and elsewhere the host was
unavailable (`ExecutionAdmissionRecord.ended`). The reservation of an active
request has not expired at the time of the document, so no time has to pass.

`PersonalWorkerStoreDocument.exists_release` turns that into a mutation: the
request, its lease and its slot are given up, and the document that results
replaces the one before it.
-/

namespace Glaeda

open Checked List KeyedList PersonalWorkerQueueInput ExecutionAdmissionInput
  ExecutionAdmissionRecord Option PersonalWorkerTerminalTombstone
open DrainAcknowledgement
open PersonalWorkerDurableCacheLease

/-! ## Ending an admission -/

/-- Why a drained request is over. -/
def DrainAcknowledgement.endReason : Option DrainAcknowledgement → UnavailableReason
  | none => .hostUnavailable
  | some .cancellation => .cancelled
  | some .drain => .drained

namespace ExecutionAdmissionRecord

/-- **What a record under a reservation shows.** -/
structure UnderReservation (record : ExecutionAdmissionRecord) (host : HostCapacityObservation)
    (held : ReservationEvidence) (applied : ExecutionResourceLimits) : Prop where
  fallback : record.validateFallback = .ok ()
  hostCapacity : record.hostCapacity = some host
  hostObserved : host.observedAt.val ≤ record.observedAt.val
  reservation : record.reservation = some held
  appliedLimits : record.appliedLimits = some applied
  appliedFits : applied.fitsWithin record.requestedLimits = true
  queuePosition : record.queuePosition = none
  expires : held.reservedAt.val < held.expiresAt.val
  lifetime : held.expiresAt.val - held.reservedAt.val ≤ maxReservationLifetimeMillis
  reserved : held.reservedAt.val ≤ record.observedAt.val
  acknowledgement : record.state ≠ .draining → record.acknowledgement = none

theorem exists_underReservation {r : ExecutionAdmissionRecord}
    (hst : r.state.requiresReservation = true) :
    ∃ host held applied, r.UnderReservation host held applied := by
  have h := r.valid
  unfold validate validateStateEvidence at h
  simp only [guard_bind_eq_ok, refuseIf_eq_ok, ne_eq, not_not] at h
  obtain ⟨hf, hhs, hv, hpos, hrs, -, -, hval, hack, -⟩ := h
  have hr : r.state ≠ .requested := fun heq => by
    rw [heq] at hst
    cases hst
  have hque : r.state ≠ .queued := fun heq => by
    rw [heq] at hst
    cases hst
  obtain ⟨host, hhs⟩ := isSome_iff_exists.mp (r.hostCapacity_isSome_iff.mpr hr)
  rw [not_and, not_or] at hrs
  obtain ⟨hh, ha⟩ := hrs hst
  obtain ⟨held, hh⟩ := ne_none_iff_exists'.mp hh
  obtain ⟨applied, ha⟩ := ne_none_iff_exists'.mp ha
  rw [not_or, not_not, decide_eq_false hque] at hpos
  unfold validateHost validateApplied at hv
  rw [hhs, ha] at hv
  simp only [guard_bind_eq_ok, refuseIf_eq_ok, not_lt, not_not] at hv
  unfold validateReservation at hval
  rw [hh] at hval
  simp only [guard_bind_eq_ok, refuseIf_eq_ok, not_lt, not_or] at hval
  obtain ⟨he, ⟨hp, hlif⟩, hrv, -⟩ := hval
  refine ⟨host, held, applied, hf, hhs, hv.1, hh, ha, hv.2.2.1,
    not_isSome_iff_eq_none.mp (by simp [← hpos.1]), by omega, hlif, hrv, ?_⟩
  intro hdrn
  unfold validateAcknowledgement at hack
  cases hc : r.state with
  | draining => exact absurd hc hdrn
  | reserved | starting | running =>
    rw [hc] at hack
    exact not_isSome_iff_eq_none.mp (refuseIf_eq_ok.mp hack)
  | requested | admitted | queued | unavailable =>
    rw [hc] at hst
    cases hst

/-- The record of a request that is over. -/
def endedInput (record : ExecutionAdmissionRecord) (observedAt : EpochMillis) :
    ExecutionAdmissionInput :=
  { record.toExecutionAdmissionInput with
    state := .unavailable
    observedAt := observedAt
    unavailableReason := some (DrainAcknowledgement.endReason record.acknowledgement) }

variable {r : ExecutionAdmissionRecord} {host : HostCapacityObservation}
  {held : ReservationEvidence} {applied : ExecutionResourceLimits} {now : EpochMillis}

theorem validateReason_endedInput (h : r.UnderReservation host held applied) :
    (r.endedInput now).validateReason
      (endReason r.acknowledgement) = .ok () := by
  have hr : (r.endedInput now).reservation = some held := h.reservation
  have ha :
      (r.endedInput now).acknowledgement = r.acknowledgement := rfl
  unfold validateReason endReason
  cases hack : r.acknowledgement with
  | none => simp [ha, hack]
  | some acknowledgement => cases acknowledgement <;> simp [ha, hack, hr]

variable (h : r.UnderReservation host held applied)
    (hlater : r.observedAt.val ≤ now.val) (hlasts : now.val < held.expiresAt.val)
include h hlater hlasts

/-- **A record under a reservation can end** while the reservation lasts. -/
theorem validate_endedInput : (r.endedInput now).validate = .ok () := by
  have hcap : (r.endedInput now).hostCapacity = some host := h.hostCapacity
  have hh : (r.endedInput now).reservation = some held := h.reservation
  have ha : (r.endedInput now).appliedLimits = some applied := h.appliedLimits
  have hpos : (r.endedInput now).queuePosition = none := h.queuePosition
  have hf : applied.fitsWithin (r.endedInput now).requestedLimits = true :=
    h.appliedFits
  have hlif := h.lifetime
  have hrs := h.reserved.trans hlater
  have hobs := h.hostObserved.trans hlater
  have hhs : (r.endedInput now).validateHost = .ok () := by
    unfold validateHost validateApplied
    rw [hcap, ha]
    simp only [guard_bind_eq_ok, refuseIf_eq_ok, hf, not_true_eq_false, not_false_eq_true,
      true_and]
    exact ⟨not_lt.mpr hobs, fun hact => absurd hact.1 Bool.false_ne_true,
      fun hact => absurd hact.1 Bool.false_ne_true⟩
  have hr : (r.endedInput now).validateReservation = .ok () := by
    -- the reservation lasts, and its end is not the reason
    have hrsn : endReason r.acknowledgement ≠ .reservationExpired := by
      unfold endReason
      split <;> decide
    unfold validateReservation
    rw [hh]
    simp only [guard_bind_eq_ok, refuseIf_eq_ok, not_not, ne_eq]
    refine ⟨by omega, by omega, not_lt.mpr hrs, ?_⟩
    show decide (held.expiresAt.val ≤ now.val) = _
    rw [decide_eq_false (not_le.mpr hlasts), eq_comm, decide_eq_false_iff_not]
    exact fun hexp => hrsn (some.inj hexp.2)
  unfold validate validateStateEvidence
  simp only [guard_bind_eq_ok, refuseIf_eq_ok, not_not, ne_eq]
  refine ⟨h.fallback, by rw [hcap]; rfl, hhs, ?_,
    fun hn => absurd hn.1 Bool.false_ne_true, by rw [hh, ha]; rfl,
    fun he => absurd he.1 Bool.false_ne_true, hr, rfl, ?_⟩
  · rw [hpos]
    simp [endedInput]
  · unfold validateUnavailableReason
    exact validateReason_endedInput h

/-- **The record that ends another one.** -/
def ended : ExecutionAdmissionRecord :=
  ⟨r.endedInput now, validate_endedInput h hlater hlasts⟩

/-- **The end is a step.** -/
theorem step_ended (hst : r.state.requiresReservation = true) : Step r (ended h hlater hlasts) := by
  have hh : (ended h hlater hlasts).reservation = some held := h.reservation
  have hcap : (ended h hlater hlasts).hostCapacity = some host := h.hostCapacity
  have hpr : r.validateReservationProgress (ended h hlater hlasts) = .ok () := by
    unfold validateReservationProgress validateSameReservation
    rw [h.reservation, hh]
    simp [ended, endedInput]
  have hp : validateTransitionPair r.state .unavailable = .ok () := by
    revert hst
    cases r.state <;> decide
  have hrsn : r.validateTerminalTransitionReason (ended h hlater hlasts) = .ok () := by
    refine refuseIf_of_not fun hend => ?_
    obtain ⟨-, hrsn, hdrn⟩ := hend
    have hn : (ended h hlater hlasts).unavailableReason
        = some (endReason r.acknowledgement) := rfl
    rw [hn, h.acknowledgement hdrn] at hrsn
    revert hrsn
    decide
  have ht : ¬ r.state.isTerminal = true := by
    revert hst
    cases r.state <;> decide
  unfold Step planTransition
  simp only [guard_bind_eq_ok, refuseIf_eq_ok, not_not, ne_eq]
  refine ⟨_, ht, not_lt.mpr hlater, rfl, rfl, rfl, ?_, hp, hpr,
    refuseIf_of_not fun hd => hd.2 rfl, hrsn, rfl⟩
  rw [h.hostCapacity, hcap]
  exact refuseIf_of_not (lt_irrefl _)

end ExecutionAdmissionRecord

/-! ## Ending an active request -/

/-- **What an active request shows.** -/
structure PersonalWorkerActiveReservation.Shows (active : PersonalWorkerActiveReservation)
    (observedAt : EpochMillis) (held : ReservationEvidence) : Prop where
  observed : active.admission.observedAt.val ≤ observedAt.val
  identity : active.admission.identity = active.request.identity
  limits : active.admission.requestedLimits = active.request.requestedLimits
  fallback : active.admission.fallbackEligibility = active.request.fallbackEligibility
  state : active.admission.state.requiresReservation = true
  reservation : active.admission.reservation = some held
  lasts : observedAt.val < held.expiresAt.val
  started : ∀ started ∈ active.startedAt,
    held.reservedAt.val ≤ started.val ∧ started.val ≤ active.admission.observedAt.val

theorem exists_shows {now : EpochMillis} {act : PersonalWorkerActiveReservation}
    (h : validateActive now act = .ok ()) : ∃ held, act.Shows now held := by
  unfold validateActive at h
  simp only [bind_eq_ok, refuseIf_eq_ok, okOr_eq_ok, not_not, ne_eq] at h
  obtain ⟨_, -, _, ht, _, -, _, -, _, hi, _, hl, _, hf, _, hst, held,
    hh, _, hlasts, applied, -, _, -, _, -, hs⟩ := h
  refine ⟨held, ⟨by omega, hi, hl, hf, hst, hh, by omega, ?_⟩⟩
  intro started hsr
  unfold PersonalWorkerActiveReservation.validateStart at hs
  cases hc : act.admission.state with
  | reserved =>
    rw [hc, hsr] at hs
    exact absurd rfl (refuseIf_eq_ok.mp hs)
  | starting | running | draining =>
    rw [hc, hsr] at hs
    have hb := refuseIf_eq_ok.mp hs
    simp only [mem_def, some.injEq, forall_eq', not_or, not_lt] at hb
    exact hb
  | requested | admitted | queued | unavailable =>
    rw [hc] at hst
    cases hst

namespace PersonalWorkerStoreDocument

variable {d n : PersonalWorkerStoreDocument}

/-- What is over was over by the time of the queue. -/
def EndedBefore (d : PersonalWorkerStoreDocument) : Prop :=
  ∀ t ∈ d.terminalTombstones, t.completedAt.val ≤ d.queue.observedAt.val

variable {act : PersonalWorkerActiveReservation}

theorem exists_lease (h : act ∈ d.queue.active) :
    ∃ before lease after, KeyedList.split requestId act.id
        d.cacheLeases = some (before, lease, after)
      ∧ validateLease lease act = .ok () := by
  have hid : act.id ∈ d.cacheLeases.map requestId :=
    (perm_leases d).mem_iff.mpr (mem_map_of_mem h)
  cases hsplit : split requestId act.id d.cacheLeases with
  | none =>
    obtain ⟨lease, hl, heq⟩ := mem_map.mp hid
    exact absurd heq (split_eq_none.mp hsplit lease hl)
  | some parts =>
    obtain ⟨before, lease, after⟩ := parts
    obtain ⟨hls, hk, -⟩ := split_eq_some.mp hsplit
    have ho := (leases_distinct d).1 lease (by rw [hls]; simp)
    unfold checkOwner at ho
    rw [bind_eq_ok] at ho
    obtain ⟨owner, hlk, hl⟩ := ho
    rw [okOr_eq_ok, hk] at hlk
    have hnd := nodup_active d.accepted.distinct
    obtain rfl := some.inj (hlk.symm.trans ((lookup_eq_some hnd).mpr ⟨h, rfl⟩))
    exact ⟨before, lease, after, rfl, hl⟩

/-- The tombstone of an active request, of its lease and of a record that ends
it, is accepted. -/
theorem exists_new_tombstone {now : EpochMillis} {held : ReservationEvidence}
    {lease : PersonalWorkerDurableCacheLease} {r : ExecutionAdmissionRecord}
    (hs : act.Shows now held) (hown : lease.requestId = act.id)
    (hl : validateLease lease act = .ok ())
    (hsp : ExecutionAdmissionRecord.Step act.admission r)
    (hst : r.state = .unavailable) :
    ∃ tombstone, PersonalWorkerTerminalTombstone.new act.request r act.startedAt lease
      = .ok tombstone := by
  obtain ⟨transition, hsp⟩ := hsp
  have hk := keeps_of_planTransition hsp
  unfold validateLease at hl
  simp only [bind_eq_ok, refuseIf_eq_ok, okOr_eq_ok, not_or, not_not, ne_eq, not_lt] at hl
  obtain ⟨_, ⟨hc, ha⟩, evidence, he, _, ⟨hid, hgen⟩, hr, hacq⟩ :=
    hl
  obtain rfl := some.inj (he.symm.trans hs.reservation)
  obtain ⟨digest, hdig⟩ : ∃ digest, terminalEvidenceDigest
      ⟨.releaseCompletionAndCacheLease, act.request, r, act.startedAt, lease⟩
        = .ok digest := by
    obtain ⟨digest, hdig⟩ := Sha256Digest.exists_parse_hexDigest _
    exact ⟨digest, mapError_eq_ok.mpr hdig⟩
  have hv : TombstoneRecord.validate ⟨⟨.releaseCompletionAndCacheLease, act.request, r,
      act.startedAt, lease⟩, digest⟩ = .ok () := by
    unfold TombstoneRecord.validate TombstoneRecord.validateTimes
    simp only [bind_eq_ok, refuseIf_eq_ok, okOr_eq_ok, not_or, not_not, ne_eq, not_lt]
    refine ⟨(), hst, (), ⟨hk.identity.trans hs.identity, hown⟩, (),
      ⟨hk.requestedLimits.trans hs.limits,
        hk.fallbackEligibility.trans hs.fallback⟩, (), ⟨hc, ha⟩, evidence,
      hk.reservation evidence he, (), ⟨hid, hgen⟩, (),
      ⟨(), ⟨hr, hacq.trans hk.observedAt⟩, ?_⟩, digest, hdig, rfl⟩
    rintro ⟨started, hsr, hbds⟩
    obtain ⟨haf, hbef⟩ := hs.started started hsr
    have hls := hbef.trans hk.observedAt
    omega
  refine ⟨⟨_, hv⟩, ?_⟩
  unfold new
  dsimp only
  rw [hdig, ok_bind, PersonalWorkerTerminalTombstone.accept_eq_ok]

/-- **An active request can end now**: with a record, its lease, and the
tombstone of both. -/
theorem exists_tombstone (h : act ∈ d.queue.active) :
    ∃ r before lease after tombstone, KeyedList.split requestId act.id d.cacheLeases
        = some (before, lease, after)
      ∧ r.state = .unavailable ∧ r.observedAt = d.queue.observedAt
      ∧ ExecutionAdmissionRecord.Step act.admission r
      ∧ PersonalWorkerTerminalTombstone.new act.request r act.startedAt lease
        = .ok tombstone := by
  have ha := d.accepted
  obtain ⟨held, hs⟩ := exists_shows (ha.active act h)
  obtain ⟨host, held', applied, hu⟩ := exists_underReservation hs.state
  obtain rfl := some.inj (hu.reservation.symm.trans hs.reservation)
  obtain ⟨before, lease, after, hsplit, hl⟩ := exists_lease h
  have hst := step_ended hu hs.observed hs.lasts hs.state
  obtain ⟨tombstone, ht⟩ := exists_new_tombstone hs
    (split_eq_some.mp hsplit).2.1 hl hst rfl
  exact ⟨_, before, lease, after, tombstone, hsplit, rfl, rfl, hst, ht⟩

/-- The change that ends a request. -/
def releaseChange (d : PersonalWorkerStoreDocument) (rest : List PersonalWorkerActiveReservation)
    (leases : List PersonalWorkerDurableCacheLease)
    (tombstone : PersonalWorkerTerminalTombstone) : MutationChange :=
  ⟨{ d.queue with active := rest }, leases, pushTerminalTombstone d.terminalTombstones tombstone,
    d.queue.observedAt, some d.queue.observedAt⟩

variable {act : PersonalWorkerActiveReservation} {rest : List PersonalWorkerActiveReservation}
  {before after : List PersonalWorkerDurableCacheLease} {lease : PersonalWorkerDurableCacheLease}
  {r : ExecutionAdmissionRecord} {tombstone : PersonalWorkerTerminalTombstone}

section

variable (hact : d.queue.active = act :: rest)
include hact

theorem accepted_releaseChange :
    (d.releaseChange rest (before ++ after) tombstone).nextQueue.Accepted := by
  have hacc := d.accepted
  have hlen := hacc.active_le
  rw [hact, length_cons] at hlen
  have hr : ∀ a ∈ rest, validateActive d.queue.observedAt a = .ok () := fun a ha =>
    hacc.active a (by rw [hact]; exact mem_cons_of_mem _ ha)
  have ho : rest.length ≤ 1 := Nat.le_of_succ_le_succ hlen
  obtain ⟨hf, hl⟩ := fits_of_length_le_one ho hr
  have hd := hacc.distinct
  unfold liveIds at hd
  rw [hact, map_cons] at hd
  refine ⟨hacc.queued_le, ho.trans (by decide), ?_, (fun hn => by cases hn),
    fun _ => hacc.profile (by rw [hact]; exact cons_ne_nil _ _), hacc.pending,
    hacc.queued, hr, ?_, hf, hl⟩
  · rintro last hls
    obtain rfl := some.inj hls
    exact le_refl _
  · exact hd.sublist ((sublist_cons_self _ _).append_left _)

variable (hsplit : KeyedList.split requestId act.id d.cacheLeases = some (before, lease, after))
include hsplit

theorem validateCacheLeases_releaseChange :
    validateCacheLeases (d.releaseChange rest (before ++ after) tombstone).nextQueue
      (before ++ after) = .ok () := by
  have hacc := d.accepted
  obtain ⟨how, hnd, hlen⟩ := leases_distinct d
  obtain ⟨hl, hk, -⟩ := split_eq_some.mp hsplit
  have ha := hacc.active_le
  rw [hact, length_cons] at hlen ha
  rw [hl, length_append, length_cons] at hlen
  have hr : (before ++ after).length = rest.length := by
    rw [length_append]
    omega
  refine validateCacheLeases_of_le_one hr (hr ▸ Nat.le_of_succ_le_succ ha) ?_
  intro other ho
  have hm : other ∈ d.cacheLeases := by
    rw [hl]
    exact mem_middle ho
  have hne : act.id ≠ other.requestId := by
    rw [hl] at hnd
    exact hk ▸ (key_ne_of_nodup hnd other ho).symm
  have hown := how other hm
  unfold checkOwner at hown ⊢
  rw [hact, lookup_cons_of_ne hne] at hown
  exact hown

/-- **The end of the first active request can be applied.** -/
theorem admits_releaseChange (he : d.EndedBefore) (hid : tombstone.id = act.id)
    (hc : tombstone.completedAt = d.queue.observedAt) :
    d.Admits (d.releaseChange rest (before ++ after) tombstone) := by
  have hacc := d.accepted
  obtain ⟨hlen, hl, hnd, hsrt⟩ := d.ledger
  have hliv : d.queue.liveIds = d.queue.queued.map PersonalWorkerJobRequest.id
      ++ act.id :: rest.map PersonalWorkerActiveReservation.id := by
    unfold liveIds
    rw [hact, map_cons]
  have hd := hacc.distinct
  rw [hliv, nodup_middle, nodup_cons] at hd
  have hp : validateTerminalTombstones
      (d.releaseChange rest (before ++ after) tombstone).nextQueue
      (pushTerminalTombstone d.terminalTombstones tombstone) = .ok () := by
    refine validateTerminalTombstones_push hlen ?_ ?_ ?_
    · intro t ht hmem
      obtain ht | ht := mem_append.mp ht
      · refine hl t ht ?_
        rw [hliv]
        exact mem_middle hmem
      · obtain rfl := mem_singleton.mp ht
        exact hd.1 (hid ▸ hmem)
    · rw [map_append, map_singleton, nodup_append']
      refine ⟨hnd, nodup_singleton _, ?_⟩
      intro id hmem hnew
      obtain ⟨t, ht, rfl⟩ := mem_map.mp hmem
      refine hl t ht ?_
      rw [mem_singleton.mp hnew, hid, hliv]
      exact mem_append_right _ mem_cons_self
    · refine pairwise_append.mpr ⟨hsrt, pairwise_singleton _ _, ?_⟩
      intro t ht s hs
      rw [mem_singleton.mp hs, hc]
      exact he t ht
  exact
    { generation := rfl
      base := rfl
      observed := le_refl _
      activity := fun activityAt ha current hcur => by
        obtain rfl := some.inj ha
        exact hacc.activity_le current hcur
      queue := accepted_releaseChange hact
      leases := validateCacheLeases_releaseChange hact hsplit
      shape := validateTerminalTombstoneLedgerShape_push hlen
      tombstones := hp
      evidence := fun hn => by cases hn }

theorem validateTerminalTombstoneSuccessor_release
    (hst : ExecutionAdmissionRecord.Step act.admission r)
    (hnew : PersonalWorkerTerminalTombstone.new act.request r act.startedAt lease
      = .ok tombstone)
    (hc : tombstone.completedAt = d.queue.observedAt)
    (hn : (d.releaseChange rest (before ++ after) tombstone).ShownBy n) :
    d.validateTerminalTombstoneSuccessor n = .ok () := by
  obtain ⟨hreq, htr, hs, hls⟩ := new_eq_ok hnew
  obtain ⟨transition, ht⟩ := hst
  obtain ⟨-, -, -, -, -, -, -, -, -, -, hres⟩ := planTransition_eq_ok ht
  have hacc := d.accepted
  obtain ⟨hlen, hlv, -, -⟩ := d.ledger
  obtain ⟨hl, hkey, -⟩ := split_eq_some.mp hsplit
  have hid : tombstone.id = act.id := congrArg PersonalWorkerJobRequest.id hreq
  have hky := nodup_active hacc.distinct
  have hk := (leases_distinct d).2.1
  rw [hact] at hky
  rw [hl] at hk
  have hac : d.queue.active.filter (fun a => a.id ≠ tombstone.id) = rest := by
    rw [hact, hid]
    exact filter_key_ne
      (show (([] ++ act :: rest).map PersonalWorkerActiveReservation.id).Nodup from hky)
  have hkp : d.cacheLeases.filter (fun l => l.requestId ≠ tombstone.id) = before ++ after := by
    rw [hl, hid, ← hkey]
    exact filter_key_ne hk
  have hrem : d.removedActive n = [act] := by
    rw [map_cons, nodup_cons] at hky
    unfold removedActive
    rw [hact, hn.active, filter_cons_of_pos, filter_eq_nil_iff.mpr]
    · exact fun a ha hg => of_decide_eq_true hg ⟨a, ha, rfl⟩
    · rw [decide_eq_true_eq]
      rintro ⟨kept, hkep, heq⟩
      exact hky.1 (heq ▸ mem_map_of_mem hkep)
  have hf : n.terminalTombstones ≠ d.terminalTombstones := by
    intro heq
    have hmem : tombstone ∈ d.terminalTombstones := by
      rw [← heq, hn.terminalTombstones]
      exact mem_pushTerminalTombstone _ _
    refine hlv tombstone hmem (mem_liveIds.mpr (.inr ⟨act, ?_, hid.symm⟩))
    rw [hact]
    exact mem_cons_self
  have hlk : lookup requestId tombstone.id
      d.cacheLeases = some lease := by
    rw [hl, hid, ← hkey]
    exact lookup_split_self hk
  have hsh : validateTerminalTombstoneLedgerShape d.terminalTombstones n.terminalTombstones
      = .ok () := by
    rw [hn.terminalTombstones]
    exact validateTerminalTombstoneLedgerShape_push hlen
  have hlt : n.terminalTombstones.getLast? = some tombstone := by
    rw [hn.terminalTombstones]
    exact getLast_pushTerminalTombstone _ _
  unfold validateTerminalTombstoneSuccessor
  rw [if_neg hf, hsh, ok_bind, hlt, okOr, ok_bind, hrem]
  show (refuseIf (act.id ≠ tombstone.id) _ >>= fun _ => d.validateRelease n act tombstone) = _
  rw [refuseIf_not hid.symm, ok_bind]
  unfold validateRelease
  rw [htr, mapError_eq_ok.mpr ht, hlk]
  simp only [guard_bind_eq_ok, ok_bind, okOr, refuseIf_eq_ok, not_or, not_not, ne_eq]
  refine ⟨⟨hreq.symm, hs.symm⟩, hres, ⟨hls.symm, ?_⟩,
    ⟨hn.queued, hn.profileObservation, hn.pendingProfileChange⟩, ?_, ?_, ?_, ?_⟩
  · rintro ⟨other, ho, heq⟩
    rw [hn.leases] at ho
    have ho : other ∈ before ++ after := ho
    rw [← hkp, mem_filter, decide_eq_true_eq] at ho
    exact ho.2 heq
  · rw [hc]
    exact hn.activityAt _ rfl
  · rw [hc]
    exact hn.observedAt
  · exact hn.active.trans hac.symm
  · exact hn.leases.trans hkp.symm

end

/-- **The first active request can be ended**: its slot, its lease and nothing
else are given up, and no time passes. -/
theorem exists_release (he : d.EndedBefore) (hr : d.HasRoom 1)
    (hact : d.queue.active = act :: rest) :
    ∃ mutation n, d.Applies mutation n ∧ n.queue.active = rest
      ∧ n.queue.queued = d.queue.queued ∧ n.queue.observedAt = d.queue.observedAt
      ∧ n.EndedBefore := by
  have hacc := d.accepted
  have hmem : act ∈ d.queue.active := by
    rw [hact]
    exact mem_cons_self
  obtain ⟨r, before, lease, after, tombstone, hsplit, hst, hobs, hsp, hnew⟩ :=
    exists_tombstone hmem
  obtain ⟨hreq, htm, -, -⟩ := new_eq_ok hnew
  have hc : tombstone.completedAt = d.queue.observedAt := by
    rw [completedAt, htm, hobs]
  have hid : tombstone.id = act.id := congrArg PersonalWorkerJobRequest.id hreq
  have hchg : d.change (.releaseCompletionAndCacheLease act.id r)
      = .ok (some (d.releaseChange rest (before ++ after) tombstone)) := by
    obtain ⟨transition, htr⟩ := hsp
    have hk := keeps_of_planTransition htr
    obtain ⟨-, -, -, -, -, -, -, -, -, -, hres⟩ := planTransition_eq_ok htr
    obtain ⟨held, hsh⟩ := exists_shows (hacc.active act hmem)
    have hi : r.identity.requestId = act.id :=
      congrArg ExecutionAdmissionIdentity.requestId (hk.identity.trans hsh.identity)
    have hp : d.queue.activeAt act.id = some ([], act, rest) := by
      unfold activeAt
      rw [hact, split, if_pos rfl]
    show d.releaseCompletionAndCacheLease act.id r = _
    unfold releaseCompletionAndCacheLease
    rw [refuseIf_not hst, ok_bind, refuseIf_not hi, ok_bind, hp]
    show d.releaseActive [] act rest act.id r = _
    unfold releaseActive transitioned
    rw [mapError_eq_ok.mpr htr, ok_bind, pure_eq_ok, ok_bind, hsplit, okOr, ok_bind, hres]
    dsimp only
    rw [mapError_eq_ok.mpr hnew, ok_bind, hc]
    rfl
  obtain ⟨n, hmut, hs⟩ := exists_mutatesTo hchg
    (admits_releaseChange hact hsplit he hid hc) hr
  refine ⟨_, n, ⟨hmut, hmut.validateSuccessorOf
    (validateTerminalTombstoneSuccessor_release hact hsplit hsp hnew hc hs)⟩,
    hs.active, hs.queued, hs.observedAt, ?_⟩
  intro t ht
  rw [hs.terminalTombstones] at ht
  rw [hs.observedAt]
  obtain ht | ht := mem_append.mp ((pushTerminalTombstone_sublist _ _).subset ht)
  · exact he t ht
  · rw [mem_singleton.mp ht, hc]
    exact le_refl _

end PersonalWorkerStoreDocument

end Glaeda
