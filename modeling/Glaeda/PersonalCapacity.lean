import Glaeda.PersonalRelease

/-!
# The slots of the queue

The queue of the personal worker has 256 slots. A waiting request leaves its
slot in one way: it is reserved, and ends. **A cancelled request cannot be
reserved**, and nothing else removes it, so it keeps its slot for ever
(`Reaches.cancelled_stays`).

For every other request there is a way out. Active requests can be ended where
they are (`PersonalRelease`), a request that waits can be reserved once they
are gone, and ended at once. So a document with a slot that is free, or taken
by a request that was not cancelled, leads to one that accepts every new
request; and a document whose slots are all taken by cancelled ones never
accepts another (`capacity_of_reaches`).
-/

namespace Glaeda

open Checked List PersonalWorkerQueueInput PersonalWorkerJobRequest KeyedList

namespace PersonalWorkerStoreDocument

variable {d n : PersonalWorkerStoreDocument}

/-- Changes lead from one document to the other. -/
def Reaches : PersonalWorkerStoreDocument → PersonalWorkerStoreDocument → Prop :=
  Relation.ReflTransGen fun d n => ∃ mutation, d.Applies mutation n

/-- **The first document** of a store: nothing has ended. -/
def Initial (d : PersonalWorkerStoreDocument) : Prop :=
  d.revision.val = 1 ∧ d.terminalTombstones = []

/-- **The document accepts new requests**: every one that is well formed and
has an identity the document does not know. -/
def Accepts (d : PersonalWorkerStoreDocument) : Prop :=
  ∀ req now, req.id ∉ d.ids → validateRequest now req = .ok () →
    d.queue.observedAt.val ≤ now.val → ∃ n, d.Applies (.submit req now) n

/-! ## Documents without active requests -/

/-- **A queue without active requests** is accepted for what waits in it. -/
theorem accepted_of_idle {q : PersonalWorkerQueueInput} (hact : q.active = [])
    (hlen : q.queued.length ≤ maxPersonalWorkerQueueEntries)
    (ha : ∀ last ∈ q.activityEvidence.lastActivityAt, last.val ≤ q.observedAt.val)
    (hnv : q.activityEvidence = .never → q.queued = [] ∧ q.pendingProfileChange = none)
    (hp : ∀ pending ∈ q.pendingProfileChange,
      q.profileObservation.profile ≠ none ∧ pending.requestedAt.val ≤ q.observedAt.val)
    (hq : ∀ req ∈ q.queued, validateRequest q.observedAt req = .ok ())
    (hd : (q.queued.map PersonalWorkerJobRequest.id).Nodup) : q.Accepted := by
  have hn : ∀ a ∈ q.active, validateActive q.observedAt a = .ok () := by
    rw [hact]
    exact forall_mem_nil _
  obtain ⟨hf, hl⟩ := fits_of_length_le_one (by rw [hact]; exact Nat.zero_le 1) hn
  refine ⟨hlen, by rw [hact]; exact Nat.zero_le _, ha, ?_,
    fun hne => absurd hact hne, hp, hq, hn, ?_, hf, hl⟩
  · intro hev
    obtain ⟨he, hnop⟩ := hnv hev
    exact ⟨he, hact, hnop⟩
  · unfold liveIds
    rw [hact, map_nil, append_nil]
    exact hd

/-- What an idle document has: no leases, and ended requests that do not
wait. -/
theorem cacheLeases_of_idle (hidle : d.queue.active = []) : d.cacheLeases = [] := by
  have hl := (leases_distinct d).2.2
  rw [hidle] at hl
  exact length_eq_zero_iff.mp hl

variable {now : EpochMillis} {queued : List PersonalWorkerJobRequest}

/-- **A change of what waits** in an idle document can be applied, where what
waits then is in order and new to the ended requests. -/
theorem admits_queued (hidle : d.queue.active = []) (hobs : d.queue.observedAt.val ≤ now.val)
    (hlen : queued.length ≤ maxPersonalWorkerQueueEntries)
    (hque : ∀ req ∈ queued, validateRequest now req = .ok ())
    (hd : (queued.map PersonalWorkerJobRequest.id).Nodup)
    (hend : ∀ t ∈ d.terminalTombstones, t.id ∉ queued.map PersonalWorkerJobRequest.id) :
    d.Admits (d.changeQueue { d.queue with queued := queued } now (some now)) := by
  have hacc := d.accepted
  obtain ⟨htm, -, hnd, hsrt⟩ := d.ledger
  have hp : ∀ pending ∈ d.queue.pendingProfileChange,
      d.queue.profileObservation.profile ≠ none ∧ pending.requestedAt.val ≤ now.val :=
    fun pending hmem => ⟨(hacc.pending pending hmem).1, (hacc.pending pending hmem).2.trans hobs⟩
  refine
    { generation := rfl
      base := rfl
      observed := hobs
      activity := fun activityAt ha current hcur => by
        obtain rfl := Option.some.inj ha
        exact (hacc.activity_le current hcur).trans hobs
      queue := accepted_of_idle hidle hlen ?_ (fun hn => by cases hn) hp hque
        hd
      leases := validateCacheLeases_of_le_one (by
        show d.cacheLeases.length = d.queue.active.length
        exact (leases_distinct d).2.2) ?_ ?_
      shape := refuseIf_of_not fun hne => hne.1 rfl
      tombstones := validateTerminalTombstones_iff.mpr ⟨htm, ?_, hnd, hsrt⟩
      evidence := fun hn => by cases hn }
  · rintro last hls
    obtain rfl := Option.some.inj hls
    exact Nat.le_refl _
  · show d.cacheLeases.length ≤ 1
    rw [cacheLeases_of_idle hidle]
    exact Nat.zero_le _
  · show ∀ lease ∈ d.cacheLeases, _
    rw [cacheLeases_of_idle hidle]
    exact forall_mem_nil _
  · intro t ht hl
    refine hend t ht ?_
    unfold liveIds at hl
    rw [mem_append] at hl
    obtain hl | hl := hl
    · exact hl
    · have hl : t.id ∈ d.queue.active.map PersonalWorkerActiveReservation.id := hl
      rw [hidle] at hl
      exact (not_mem_nil hl).elim

section

variable (hidle : d.queue.active = [])
include hidle

variable {mutation : PersonalWorkerStoreMutation}

/-- **A change of an idle document that leaves the ended requests alone is
applied.** -/
theorem exists_applies {change : MutationChange}
    (hc : d.change mutation = .ok (some change)) (ha : d.Admits change)
    (hk : change.terminalTombstones = d.terminalTombstones) (hr : d.HasRoom 1) :
    ∃ n, d.Applies mutation n ∧ change.ShownBy n := by
  obtain ⟨n, hm, hs⟩ := exists_mutatesTo hc ha hr
  refine ⟨n, ⟨hm, hm.validateSuccessorOf (validateTerminalTombstoneSuccessor_of_kept
    (hs.terminalTombstones.trans hk) ?_)⟩, hs⟩
  rw [hidle]
  exact forall_mem_nil _

variable {req : PersonalWorkerJobRequest}

/-- **A new request is submitted** to an idle document with a free slot. -/
theorem exists_submit (hr : d.HasRoom 1)
    (hf : d.queue.queued.length < maxPersonalWorkerQueueEntries) (hnew : req.id ∉ d.ids)
    (hval : validateRequest now req = .ok ())
    (hobs : d.queue.observedAt.val ≤ now.val) :
    ∃ n, d.Applies (.submit req now) n ∧ n.queue.active = []
      ∧ n.queue.queued = d.queue.queued ++ [req] ∧ n.queue.observedAt = now
      ∧ n.terminalTombstones = d.terminalTombstones := by
  have hacc := d.accepted
  unfold ids at hnew
  rw [mem_append, not_or] at hnew
  obtain ⟨hl, htm⟩ := hnew
  have hq : req.id ∉ d.queue.queued.map PersonalWorkerJobRequest.id :=
    fun hmem => hl (mem_append_left _ hmem)
  have hfn : d.findLive req.id = none := by
    unfold findLive
    rw [hidle, lookup_eq_none.mpr]
    · rfl
    · exact fun other ho heq => hq (heq ▸ mem_map_of_mem ho)
  have hchg : d.change (.submit req now) = .ok (some (d.changeQueue
      { d.queue with queued := d.queue.queued ++ [req] } now (some now))) := by
    show d.submit req now = _
    unfold submit
    rw [refuseIf_of_not, ok_bind, hfn]
    · show (refuseIf (d.queue.queued.length ≥ maxPersonalWorkerQueueEntries) _ >>= _) = _
      rw [refuseIf_of_not (not_le.mpr hf)]
      rfl
    · rintro ⟨t, ht, heq⟩
      exact htm (heq ▸ mem_map_of_mem ht)
  have hadm : d.Admits (d.changeQueue { d.queue with queued := d.queue.queued ++ [req] }
      now (some now)) := by
    refine admits_queued hidle hobs ?_ ?_ ?_ ?_
    · rw [length_append, length_singleton]
      exact hf
    · rintro other ho
      obtain ho | ho := mem_append.mp ho
      · exact validateRequest_mono (hacc.queued other ho) hobs
      · rw [mem_singleton.mp ho]
        exact hval
    · rw [map_append, map_singleton, nodup_append']
      refine ⟨nodup_queued hacc.distinct, nodup_singleton _, ?_⟩
      intro id hid hsm
      exact hq (mem_singleton.mp hsm ▸ hid)
    · intro t ht hmem
      rw [map_append, map_singleton, mem_append, mem_singleton] at hmem
      obtain hmem | hmem := hmem
      · exact d.ledger.2.1 t ht (mem_append_left _ hmem)
      · exact htm (hmem ▸ mem_map_of_mem ht)
  obtain ⟨n, ha, hs⟩ := exists_applies hidle hchg hadm rfl hr
  exact ⟨n, ha, hs.active.trans hidle, hs.queued, hs.observedAt,
    hs.terminalTombstones⟩

/-- **An idle document with a free slot accepts new requests.** -/
theorem accepts_of_free (hr : d.HasRoom 1)
    (hf : d.queue.queued.length < maxPersonalWorkerQueueEntries) : d.Accepts := by
  intro req now hn hv ho
  obtain ⟨n, ha, -⟩ := exists_submit hidle hr hf hn hv ho
  exact ⟨n, ha⟩

end

/-! ## Making room -/

/-- **All active requests can be ended.** -/
theorem exists_idle (he : d.EndedBefore) {changes : Nat}
    (hr : d.HasRoom (d.queue.active.length + changes)) :
    ∃ n, d.Reaches n ∧ n.queue.active = [] ∧ n.queue.queued = d.queue.queued
      ∧ n.queue.observedAt = d.queue.observedAt ∧ n.EndedBefore ∧ n.HasRoom changes := by
  generalize hact : d.queue.active = active at hr
  induction active generalizing d with
  | nil => exact ⟨d, .refl, hact, rfl, rfl, he, by simpa using hr⟩
  | cons a rest ih =>
    have hr' : d.HasRoom (rest.length + changes + 1) := by
      rw [length_cons, add_right_comm] at hr
      exact hr
    have hone : d.HasRoom 1 := hr'.le (by omega)
    obtain ⟨mutation, m, ha, hrs, hq, ho, he'⟩ :=
      exists_release he hone hact
    obtain ⟨n, hrch, hidle, hq', ho', he'', hr''⟩ :=
      ih he' hrs (ha.hasRoom hr')
    exact ⟨n, .head ⟨mutation, ha⟩ hrch, hidle, hq'.trans hq,
      ho'.trans ho, he'', hr''⟩

theorem exists_work (hidle : d.queue.active = []) (hend : d.EndedBefore) {changes : Nat}
    (hr : d.HasRoom (changes + 1)) :
    ∃ n, d.Reaches n ∧ n.queue.active = [] ∧ n.queue.queued = d.queue.queued
      ∧ n.queue.observedAt = d.queue.observedAt ∧ n.queue.profileObservation = .observed .work
      ∧ n.EndedBefore ∧ n.HasRoom changes := by
  by_cases hw : d.queue.profileObservation = .observed .work
  · exact ⟨d, .refl, hidle, rfl, rfl, hw, hend, hr.le (by omega)⟩
  have hacc := d.accepted
  have hchg : d.change (.observeProfile .work d.queue.observedAt) = .ok (some (d.changeQueue
      { d.queue with profileObservation := .observed .work } d.queue.observedAt none)) :=
    if_neg fun h => hw h.1
  have hadm : d.Admits (d.changeQueue
      { d.queue with profileObservation := .observed .work } d.queue.observedAt none) :=
    { generation := rfl
      base := rfl
      observed := le_refl _
      activity := fun activityAt hac => by cases hac
      queue := accepted_of_idle hidle hacc.queued_le hacc.activity_le
        (fun hn => ⟨(hacc.never hn).1, (hacc.never hn).2.2⟩)
        (fun pending hp => ⟨Option.some_ne_none _, (hacc.pending pending hp).2⟩)
        hacc.queued (nodup_queued hacc.distinct)
      leases := (validate_eq_ok d).2.2.1
      shape := refuseIf_of_not fun hne => hne.1 rfl
      tombstones := (validate_eq_ok d).2.2.2.1
      evidence := (validate_eq_ok d).2.2.2.2.1 }
  obtain ⟨n, ha, hs⟩ := exists_applies hidle hchg hadm rfl (hr.le (by omega))
  refine ⟨n, .single ⟨_, ha⟩, hs.active.trans hidle, hs.queued, hs.observedAt,
    hs.profileObservation, ?_, ha.hasRoom hr⟩
  intro t ht
  rw [hs.terminalTombstones] at ht
  rw [hs.observedAt]
  exact hend t ht

end PersonalWorkerStoreDocument

/-! ## Reserving a request -/

namespace PersonalWorkerJobRequest

variable (req : PersonalWorkerJobRequest) (since till : EpochMillis)

/-- A reservation for the request. -/
def reservation : ReservationEvidence :=
  ⟨⟨req.id.value, req.id.valid⟩, .first _, since, till⟩

/-- The observation of a request that was just reserved, on a host that gives
what it needs. -/
def reservedInput : ExecutionAdmissionInput where
  identity := req.identity
  state := .reserved
  observedAt := since
  requestedLimits := req.requestedLimits
  hostCapacity := some ⟨since, req.requestedLimits⟩
  appliedLimits := some req.requestedLimits
  queuePosition := none
  reservation := some (req.reservation since till)
  acknowledgement := none
  fallbackEligibility := req.fallbackEligibility
  unavailableReason := none

/-- A lease for the request. -/
def lease : PersonalWorkerDurableCacheLease :=
  ⟨req.id, req.cacheNamespace, req.cacheAccess, (req.reservation since till).id,
    (req.reservation since till).generation, since⟩

variable {req since till} (h : validateRequest since req = .ok ())
    (hexpr : till.val = since.val + 1)
include h hexpr

theorem validate_reservedInput : (req.reservedInput since till).validate = .ok () := by
  have hf : (req.reservedInput since till).validateFallback = .ok () := by
    have hreq := (validateRequest_iff.mp h).2.2.2.2.2
    have hs : (req.reservedInput since till).fallbackEligibility
        = req.fallbackEligibility := rfl
    unfold ExecutionAdmissionInput.validateFallback
    rw [hs]
    cases hc : req.fallbackEligibility with
    | ineligible => rfl
    | eligible runnerProfileId =>
      rw [hc] at hreq
      exact refuseIf_of_not (refuseIf_eq_ok.mp hreq)
  have hft : req.requestedLimits.fitsWithin req.requestedLimits = true := by
    simp [ExecutionResourceLimits.fitsWithin]
  have hh : (req.reservedInput since till).validateHost = .ok () := by
    simp [ExecutionAdmissionInput.validateHost, ExecutionAdmissionInput.validateApplied,
      reservedInput, hft, refuseIf]
  have hr : (req.reservedInput since till).validateReservation = .ok () := by
    show (refuseIf (till.val < since.val) _ >>= _) = _
    simp only [guard_bind_eq_ok, refuseIf_eq_ok]
    refine ⟨by omega, ?_, lt_irrefl _, ?_⟩
    · show ¬ (till.val - since.val = 0
        ∨ till.val - since.val > maxReservationLifetimeMillis)
      rw [hexpr, Nat.add_sub_cancel_left]
      decide
    · show ¬ decide (till.val ≤ since.val) ≠ decide (_ ∧ _)
      rw [decide_eq_false (by omega), not_not, eq_comm, decide_eq_false_iff_not]
      exact fun hend => by cases hend.1
  unfold ExecutionAdmissionInput.validate ExecutionAdmissionInput.validateStateEvidence
  simp only [guard_bind_eq_ok, refuseIf_eq_ok]
  exact ⟨hf, not_not.mpr rfl, hh, by simp [reservedInput], by simp [reservedInput],
    not_not.mpr rfl, fun he => absurd he.1 Bool.false_ne_true, hr, rfl, rfl⟩

variable (req since till) in
/-- **The admission of a request that was just reserved.** -/
def reserved : ExecutionAdmissionRecord :=
  ⟨req.reservedInput since till, validate_reservedInput h hexpr⟩

/-- **A request that was just reserved is in order.** -/
theorem validateActive_reserved (ha : req.cancellation = .active) :
    validateActive since ⟨req, req.reserved since till h hexpr, none⟩
      = .ok () := by
  obtain ⟨hs, -, -, hl, -⟩ := validateRequest_iff.mp h
  unfold validateActive
  simp only [bind_eq_ok, refuseIf_eq_ok, okOr_eq_ok]
  refine ⟨(), h, (), ?_, (), ?_, (), ?_, (), not_not.mpr rfl, (), not_not.mpr rfl, (),
    not_not.mpr rfl, (), not_not.mpr rfl, req.reservation since till, rfl, (), ?_,
    req.requestedLimits, rfl, (), hl, (), not_not.mpr rfl, rfl⟩
  · show ¬ (since.val < req.submittedAt.val ∨ since.val > since.val)
    omega
  · unfold PersonalWorkerActiveReservation.validateCancellation
    rw [ha]
  · rintro ⟨hc, -⟩
    rw [ha] at hc
    cases hc
  · show ¬ till.val ≤ since.val
    omega

end PersonalWorkerJobRequest

namespace PersonalWorkerStoreDocument

variable {d n : PersonalWorkerStoreDocument}

/-- The change that makes a request active. -/
def reserveChange (d : PersonalWorkerStoreDocument) (queued : List PersonalWorkerJobRequest)
    (active : PersonalWorkerActiveReservation) (lease : PersonalWorkerDurableCacheLease) :
    MutationChange :=
  ⟨{ d.queue with queued := queued, active := d.queue.active ++ [active] },
    d.cacheLeases ++ [lease], d.terminalTombstones, d.queue.observedAt, some d.queue.observedAt⟩

variable {before after : List PersonalWorkerJobRequest} {req : PersonalWorkerJobRequest}

/-- **The reservation of a waiting request can be applied** to an idle document
seen on the work profile. -/
theorem admits_reserveChange (hidle : d.queue.active = [])
    (hw : d.queue.profileObservation = .observed .work)
    (hp : d.queue.queued = before ++ req :: after)
    {active : PersonalWorkerActiveReservation} (hreq : active.request = req)
    (hact : validateActive d.queue.observedAt active = .ok ())
    {lease : PersonalWorkerDurableCacheLease} (hown : lease.requestId = req.id)
    (hls : validateLease lease active = .ok ()) :
    d.Admits (d.reserveChange (before ++ after) active lease) := by
  have hacc := d.accepted
  obtain ⟨htm, hlv, hnd, hsrt⟩ := d.ledger
  have hn : (d.reserveChange (before ++ after) active lease).nextQueue.active = [active] := by
    show d.queue.active ++ [active] = [active]
    rw [hidle, nil_append]
  have hall : ∀ a ∈ (d.reserveChange (before ++ after) active lease).nextQueue.active,
      validateActive d.queue.observedAt a = .ok () := by
    rw [hn]
    exact fun a ha => mem_singleton.mp ha ▸ hact
  obtain ⟨hf, hl⟩ := fits_of_length_le_one (by rw [hn]; exact le_refl _) hall
  -- the identities are the same ones, in another order
  have hids : (d.reserveChange (before ++ after) active lease).nextQueue.liveIds.Perm
      d.queue.liveIds := by
    show ((before ++ after).map PersonalWorkerJobRequest.id
      ++ (d.queue.active ++ [active]).map PersonalWorkerActiveReservation.id).Perm _
    unfold liveIds
    rw [hidle, hp, nil_append, map_nil, append_nil, map_singleton,
      map_append, map_append, map_cons, PersonalWorkerActiveReservation.id, hreq]
    exact (perm_append_singleton _ _).trans perm_middle.symm
  have hsub : before ++ after ⊆ d.queue.queued := by
    rw [hp]
    exact fun _ => mem_middle
  have hlen : (before ++ after).length ≤ maxPersonalWorkerQueueEntries := by
    have hle := hacc.queued_le
    rw [hp, length_append, length_cons] at hle
    rw [length_append]
    omega
  refine
    { generation := rfl
      base := rfl
      observed := le_refl _
      activity := fun activityAt hac current hcur => by
        obtain rfl := Option.some.inj hac
        exact hacc.activity_le current hcur
      queue := ⟨hlen, by rw [hn]; exact Nat.le_succ 1, ?_, (fun hnv => by cases hnv),
        fun _ => hw, hacc.pending, fun r hr => hacc.queued r (hsub hr), hall,
        hids.nodup_iff.mpr hacc.distinct, hf, hl⟩
      leases := validateCacheLeases_of_le_one ?_ ?_ ?_
      shape := refuseIf_of_not fun hne => hne.1 rfl
      tombstones := validateTerminalTombstones_iff.mpr
        ⟨htm, fun t ht hmem => hlv t ht (hids.mem_iff.mp hmem), hnd, hsrt⟩
      evidence := fun hnv => by cases hnv }
  · rintro last hlt
    obtain rfl := Option.some.inj hlt
    exact le_refl _
  · rw [hn]
    show (d.cacheLeases ++ [lease]).length = 1
    rw [cacheLeases_of_idle hidle]
    rfl
  · show (d.cacheLeases ++ [lease]).length ≤ 1
    rw [cacheLeases_of_idle hidle]
    exact le_refl _
  · show ∀ other ∈ d.cacheLeases ++ [lease], _
    rw [cacheLeases_of_idle hidle, nil_append]
    intro other ho
    obtain rfl := mem_singleton.mp ho
    unfold checkOwner
    rw [hn, lookup_cons_self (by rw [hown, PersonalWorkerActiveReservation.id, hreq])]
    exact hls

/-- **A waiting request that was not cancelled can be reserved.** -/
theorem exists_reserve (hidle : d.queue.active = [])
    (hw : d.queue.profileObservation = .observed .work) (hr : d.HasRoom 1)
    (ht : d.queue.observedAt.val + 1 < u64Size)
    (hp : d.queue.queued = before ++ req :: after)
    (hact : req.cancellation = .active) :
    ∃ mutation n, d.Applies mutation n ∧ n.queue.active.length = 1
      ∧ n.queue.queued = before ++ after ∧ n.queue.observedAt = d.queue.observedAt
      ∧ n.terminalTombstones = d.terminalTombstones := by
  have hacc := d.accepted
  have hval := hacc.queued req (by rw [hp]; simp)
  obtain ⟨till, hexpr⟩ : ∃ till : EpochMillis, till.val = d.queue.observedAt.val + 1 :=
    ⟨⟨d.queue.observedAt.val + 1, Nat.succ_pos _, ht⟩, rfl⟩
  have hk := nodup_queued hacc.distinct
  have hsp : d.queue.queuedAt req.id = some (before, req, after) :=
    split_of_nodup hk hp
  have hn : d.queue.activeAt req.id = none := by
    unfold activeAt
    rw [hidle]
    rfl
  have hl : validateLease (req.lease d.queue.observedAt till)
      ⟨req, req.reserved d.queue.observedAt till hval hexpr, none⟩ = .ok () := by
    unfold validateLease
    simp [lease, reserved, reservedInput, reservation, refuseIf, okOr]
  have hchg : d.change (.recordReservationAndAcquireCacheLease req.id
      (req.reserved d.queue.observedAt till hval hexpr)
      (req.lease d.queue.observedAt till))
      = .ok (some (d.reserveChange (before ++ after)
        ⟨req, req.reserved d.queue.observedAt till hval hexpr, none⟩
        (req.lease d.queue.observedAt till))) := by
    show d.recordReservationAndAcquireCacheLease _ _ _ = _
    unfold recordReservationAndAcquireCacheLease
    rw [guard_bind_eq_ok, hn, hsp]
    refine ⟨refuseIf_not rfl, ?_⟩
    show d.reserveQueued before req after req.id _ _ = _
    unfold reserveQueued
    rw [hact, guard_bind_eq_ok, guard_bind_eq_ok]
    exact ⟨rfl, refuseIf_of_not (not_or.mpr ⟨not_not.mpr rfl, not_not.mpr rfl⟩), rfl⟩
  obtain ⟨n, ha, hs⟩ := exists_applies hidle hchg (admits_reserveChange hidle hw
    hp rfl (validateActive_reserved hval hexpr hact) rfl hl) rfl hr
  refine ⟨_, n, ha, ?_, hs.queued, hs.observedAt, hs.terminalTombstones⟩
  rw [hs.active]
  show (d.queue.active ++ [_]).length = 1
  rw [hidle]
  rfl

/-- **A slot can be freed** that is taken by a request that was not cancelled. -/
theorem exists_freed (hidle : d.queue.active = []) (he : d.EndedBefore) {changes : Nat}
    (hr : d.HasRoom (changes + 3)) (htime : d.queue.observedAt.val + 1 < u64Size)
    {req : PersonalWorkerJobRequest} (hm : req ∈ d.queue.queued)
    (hact : req.cancellation = .active) :
    ∃ n, d.Reaches n ∧ n.queue.active = []
      ∧ n.queue.queued.length < maxPersonalWorkerQueueEntries ∧ n.HasRoom changes := by
  obtain ⟨w, hrch, hidle, hq, ho, hw, he, hr⟩ :=
    exists_work hidle he hr
  obtain ⟨before, after, hp⟩ := append_of_mem (hq ▸ hm)
  obtain ⟨mutation, r, ha, hone, hq, ho', htm⟩ := exists_reserve hidle hw
    (hr.le (by omega)) (ho ▸ htime) hp hact
  have he' : r.EndedBefore := by
    intro t ht
    rw [ho']
    exact he t (htm ▸ ht)
  have hr' : r.HasRoom (r.queue.active.length + changes) := by
    rw [hone, add_comm]
    exact ha.hasRoom hr
  obtain ⟨n, hrch', hidle', hq', -, -, hr''⟩ := exists_idle he' hr'
  refine ⟨n, (hrch.tail ⟨mutation, ha⟩).trans hrch', hidle', ?_, hr''⟩
  have hle := w.accepted.queued_le
  rw [hp, length_append, length_cons] at hle
  rw [hq', hq, length_append]
  omega

/-! ## Cancelled requests -/

/-- **What a change does to what waits and to what ended**: a request comes in
while there is a free slot, one that was not cancelled is rewritten or goes, or
one that was active is added to those that ended. -/
inductive Changes (d : PersonalWorkerStoreDocument) (change : MutationChange) : Prop
  | kept (hque : change.queue.queued = d.queue.queued)
      (htombs : change.terminalTombstones = d.terminalTombstones)
  | submitted (request : PersonalWorkerJobRequest)
      (hfree : d.queue.queued.length < maxPersonalWorkerQueueEntries)
      (hque : change.queue.queued = d.queue.queued ++ [request])
      (htombs : change.terminalTombstones = d.terminalTombstones)
  | taken (before middle after : List PersonalWorkerJobRequest) (request : PersonalWorkerJobRequest)
      (hplace : d.queue.queued = before ++ request :: after)
      (hact : request.cancellation.isCancelled = false)
      (hque : change.queue.queued = before ++ middle ++ after)
      (htombs : change.terminalTombstones = d.terminalTombstones)
  | ended (tombstone : PersonalWorkerTerminalTombstone)
      (hque : change.queue.queued = d.queue.queued)
      (htombs : change.terminalTombstones
        = pushTerminalTombstone d.terminalTombstones tombstone)
      (hobs : change.observedAt = tombstone.completedAt)

variable {change : MutationChange}

theorem changes_cancel {requestId : ExecutionRequestId} {cancelledAt : EpochMillis}
    {draining : Option ExecutionAdmissionRecord}
    (h : d.cancel requestId cancelledAt draining = .ok (some change)) : d.Changes change := by
  unfold cancel at h
  split at h
  · rename_i before req after hp
    obtain ⟨-, ha, rfl⟩ := cancelQueued_eq_ok h
    exact .taken before [{ req with cancellation := .cancelled cancelledAt }] after req
      (split_eq_some.mp hp).1 (by rw [ha]; rfl) (append_cons _ _ _) rfl
  · split at h
    · obtain ⟨next, -, -, rfl⟩ := cancelActive_eq_ok h
      exact .kept rfl rfl
    · cases h

variable {mutation : PersonalWorkerStoreMutation}

/-- **Every mutation is one of the changes.** -/
theorem changes_of_change (h : d.change mutation = .ok (some change)) : d.Changes change := by
  cases mutation with
  | submit req now =>
    obtain ⟨-, -, hf, rfl⟩ := submit_eq_ok h
    exact .submitted req hf rfl rfl
  | cancel requestId cancelledAt draining => exact changes_cancel h
  | recordReservationAndAcquireCacheLease requestId admission lease =>
    obtain ⟨before, req, after, -, -, hp, -, hact, rfl⟩ := recordReservation_eq_ok h
    exact .taken before [] after req (split_eq_some.mp hp).1 hact (by simp) rfl
  | markStarting requestId admission startedAt =>
    obtain ⟨before, active, after, -, -, rfl⟩ := markStarting_eq_ok h
    exact .kept rfl rfl
  | markRunning requestId admission | markDraining requestId admission =>
    obtain ⟨before, active, after, -, -, rfl⟩ := applyActiveTransition_eq_ok h
    exact .kept rfl rfl
  | releaseCompletionAndCacheLease requestId admission =>
    obtain ⟨before, active, after, -, -, -, hr⟩ := release_eq_ok h
    obtain ⟨tombstone, leasesBefore, leasesAfter, -, -, -, -, -, rfl⟩ := releaseActive_eq_ok hr
    exact .ended tombstone rfl rfl rfl
  | setProfileIntent target requestedAt now =>
    obtain rfl := setProfileIntent_eq_ok h
    exact .kept rfl rfl
  | cancelProfileIntent now =>
    obtain rfl := cancelProfileIntent_eq_ok h
    exact .kept rfl rfl
  | observeProfile profile now =>
    obtain rfl := observeProfile_eq_ok h
    exact .kept rfl rfl
  | updateLastActivity lastActivityAt now =>
    obtain rfl := updateLastActivity_eq_ok h
    exact .kept rfl rfl

/-- **A mutation leaves a cancelled request where it waits.** -/
theorem Applies.cancelled_stays (h : d.Applies mutation n) {req : PersonalWorkerJobRequest}
    (hm : req ∈ d.queue.queued) (hc : req.cancellation.isCancelled = true) :
    req ∈ n.queue.queued := by
  obtain ⟨change, hchg, hs⟩ := h.1.exists_change
  rw [hs.queued]
  cases changes_of_change hchg with
  | kept hq ht => rwa [hq]
  | ended tombstone hq ht ho => rwa [hq]
  | submitted other hf hq ht =>
    rw [hq]
    exact mem_append_left _ hm
  | taken before middle after other hp ha hq ht =>
    rw [hp] at hm
    rw [hq]
    obtain hm | hm := mem_append.mp hm
    · exact mem_append_left _ (mem_append_left _ hm)
    · obtain rfl | hm := mem_cons.mp hm
      · rw [hc] at ha
        cases ha
      · exact mem_append_right _ hm

theorem Applies.endedBefore (h : d.Applies mutation n) (he : d.EndedBefore) : n.EndedBefore := by
  obtain ⟨change, hc, hs⟩ := h.1.exists_change
  obtain ⟨-, -, hle⟩ := counts_of_validateSuccessorOf h.2
  have hk : change.terminalTombstones = d.terminalTombstones → n.EndedBefore := by
    intro heq t ht
    rw [hs.terminalTombstones, heq] at ht
    exact (he t ht).trans hle
  cases changes_of_change hc with
  | kept hq htm | submitted other hf hq htm
  | taken before middle after other hp ha hq htm => exact hk htm
  | ended tombstone hq htm ho =>
    intro t ht
    rw [hs.terminalTombstones, htm] at ht
    obtain ht | ht := mem_append.mp ((pushTerminalTombstone_sublist _ _).subset ht)
    · exact (he t ht).trans hle
    · rw [mem_singleton.mp ht, hs.observedAt, ho]

/-! ## Runs -/

/-- **A cancelled request keeps its slot for ever.** -/
theorem Reaches.cancelled_stays (h : d.Reaches n) {req : PersonalWorkerJobRequest}
    (hm : req ∈ d.queue.queued) (hc : req.cancellation.isCancelled = true) :
    req ∈ n.queue.queued := by
  induction h with
  | refl => exact hm
  | tail _ hs ih =>
    obtain ⟨mutation, ha⟩ := hs
    exact ha.cancelled_stays ih hc

variable {start : PersonalWorkerStoreDocument}

theorem Reaches.endedBefore (h : start.Reaches d) (hs : start.Initial) : d.EndedBefore := by
  induction h with
  | refl =>
    intro t ht
    rw [hs.2] at ht
    exact (not_mem_nil ht).elim
  | tail _ hst ih =>
    obtain ⟨mutation, ha⟩ := hst
    exact ha.endedBefore ih

/-- **A queue full of cancelled requests accepts no other.** -/
theorem Reaches.not_applies_submit (h : d.Reaches n)
    (hfl : d.queue.queued.length = maxPersonalWorkerQueueEntries)
    (hc : ∀ req ∈ d.queue.queued, req.cancellation.isCancelled = true)
    (req : PersonalWorkerJobRequest) (now : EpochMillis)
    (m : PersonalWorkerStoreDocument) : ¬ n.Applies (.submit req now) m := by
  rintro ⟨hm, -⟩
  have ha := d.accepted
  have hnd := (nodup_queued ha.distinct).of_map
  -- the cancelled requests are all still there, and they fill the queue
  have hs : d.queue.queued ⊆ n.queue.queued := fun r hr =>
    h.cancelled_stays hr (hc r hr)
  have hl := (hnd.subperm hs).length_le
  obtain ⟨change, hchg, -⟩ := hm.exists_change
  obtain ⟨-, -, hf, -⟩ := submit_eq_ok hchg
  omega

/-- **The slots of the queue along every run.** A cancelled request keeps its
slot. Where some slot is free, or taken by a request that was not cancelled,
and there is room for six more changes and one more millisecond, a document
is reached that accepts every new request. Where all slots are taken by
cancelled requests, no request is ever accepted again. -/
theorem capacity_of_reaches (hs : start.Initial) (h : start.Reaches d) :
    (∀ req ∈ d.queue.queued, req.cancellation.isCancelled = true →
        ∀ n, d.Reaches n → req ∈ n.queue.queued)
      ∧ (d.queue.queued.length < maxPersonalWorkerQueueEntries
          ∨ (∃ req ∈ d.queue.queued, req.cancellation.isCancelled = false) →
        d.HasRoom 6 → d.queue.observedAt.val + 1 < u64Size → ∃ n, d.Reaches n ∧ n.Accepts)
      ∧ (d.queue.queued.length = maxPersonalWorkerQueueEntries →
        (∀ req ∈ d.queue.queued, req.cancellation.isCancelled = true) →
        ∀ n, d.Reaches n → ∀ req now m, ¬ n.Applies (.submit req now) m) := by
  refine ⟨fun req hmem hc n hn => hn.cancelled_stays hmem hc, ?_,
    fun hfl hc n hn => hn.not_applies_submit hfl hc⟩
  intro hsl hr ht
  have hacc := d.accepted
  have ha : d.queue.active.length ≤ 2 := hacc.active_le
  have hr : d.HasRoom (d.queue.active.length + 4) := hr.le (by omega)
  obtain ⟨i, hrch, hidle, hque, hobs, hend, hr⟩ :=
    exists_idle (h.endedBefore hs) hr
  obtain hf | ⟨req, hmem, hact⟩ := hsl
  · exact ⟨i, hrch, accepts_of_free hidle (hr.le (by omega)) (hque ▸ hf)⟩
  · have hact : req.cancellation = .active := by
      cases hcs : req.cancellation with
      | active => rfl
      | cancelled cancelledAt =>
        rw [hcs] at hact
        cases hact
    obtain ⟨n, hrch', hidle', hf, hr'⟩ := exists_freed hidle hend
      (show i.HasRoom (1 + 3) from hr) (hobs ▸ ht) (hque ▸ hmem) hact
    exact ⟨n, hrch.trans hrch', accepts_of_free hidle' hr' hf⟩

end PersonalWorkerStoreDocument

/-! ## Full queues -/

variable (slot : Nat)

/-- A text of two letters for each slot. -/
def slotText : String :=
  String.ofList [Char.ofNat (97 + slot / 16 % 16), Char.ofNat (97 + slot % 16)]

theorem isSafeIdentifier_slotText : isSafeIdentifier (slotText slot) = true := by
  have hl : ∀ hi < 16, ∀ low < 16, isSafeIdentifier
      (String.ofList [Char.ofNat (97 + hi), Char.ofNat (97 + low)]) = true := by decide +kernel
  exact hl _ (Nat.mod_lt _ (by decide)) _ (Nat.mod_lt _ (by decide))

/-- The slot a text is for. -/
def slotOf (text : String) : Nat :=
  match text.toList with
  | [high, low] => (high.toNat - 97) * 16 + (low.toNat - 97)
  | _ => 0

theorem slotOf_slotText : ∀ slot < 256, slotOf (slotText slot) = slot := by decide +kernel

/-- A request of a slot. -/
def slotRequest : PersonalWorkerJobRequest :=
  { sampleRequest with identity := { sampleIdentity with
      requestId := ⟨slotText slot, isSafeIdentifier_slotText slot⟩ } }

/-- The same, cancelled. -/
def cancelledRequest : PersonalWorkerJobRequest :=
  { slotRequest slot with cancellation := .cancelled firstMilli }

namespace PersonalWorkerStoreDocument

variable {requests : Nat → PersonalWorkerJobRequest}

/-- **Requests fill the queue**, live ones and ones that were cancelled before
they are submitted. -/
theorem exists_filled
    (hrq : ∀ slot, requests slot = slotRequest slot ∨ requests slot = cancelledRequest slot)
    (slots : Nat) (hsl : slots ≤ 256) : ∃ d, sampleDocument.Reaches d
    ∧ d.queue.active = [] ∧ d.queue.queued = (List.range slots).map requests
    ∧ d.queue.observedAt = firstMilli ∧ d.terminalTombstones = []
    ∧ d.HasRoom (256 - slots + 6) := by
  have hid : ∀ slot, (requests slot).id = ⟨slotText slot, isSafeIdentifier_slotText slot⟩ := by
    intro slot
    obtain h | h := hrq slot <;> rw [h] <;> rfl
  induction slots with
  | zero => exact ⟨sampleDocument, .refl, rfl, rfl, rfl, rfl, by decide, by decide⟩
  | succ slots ih =>
    obtain ⟨d, hrch, hidle, hque, hobs, ht, hr⟩ := ih (by omega)
    have heq : 256 - slots + 6 = 256 - (slots + 1) + 6 + 1 := by omega
    rw [heq] at hr
    have hf : d.queue.queued.length < maxPersonalWorkerQueueEntries := by
      rw [hque, length_map, length_range]
      exact hsl
    have hnew : (requests slots).id ∉ d.ids := by
      unfold ids liveIds
      rw [hidle, ht, hque, map_nil, map_nil, append_nil, append_nil, map_map]
      intro hmem
      obtain ⟨other, ho, heq⟩ := mem_map.mp hmem
      have hlt := mem_range.mp ho
      rw [Function.comp_apply, hid, hid, AdmissionIdentifier.mk.injEq] at heq
      have hst := congrArg slotOf heq
      rw [slotOf_slotText other (by omega), slotOf_slotText slots (by omega)] at hst
      omega
    have hval : validateRequest firstMilli (requests slots) = .ok () := by
      obtain h | h := hrq slots <;> rw [h] <;> rfl
    obtain ⟨n, hs, hidle, hque', hobs', ht'⟩ := exists_submit hidle
      (hr.le (by omega)) hf hnew hval (by rw [hobs])
    refine ⟨n, hrch.tail ⟨_, hs⟩, hidle, ?_, hobs', ht'.trans ht, hs.hasRoom hr⟩
    rw [hque', hque, range_succ, map_append]
    rfl

/-- A queue with one live request among the cancelled ones, and no slot free. -/
theorem capacity_of_reaches_oneLive : ∃ d, sampleDocument.Reaches d
    ∧ d.queue.queued.length = maxPersonalWorkerQueueEntries ∧ ∃ n, d.Reaches n ∧ n.Accepts := by
  let requests (slot : Nat) := if slot = 0 then slotRequest slot else cancelledRequest slot
  obtain ⟨d, hrch, -, hq, ho, -, hr⟩ :=
    @exists_filled requests (fun slot => ite_eq_or_eq _ _ _) 256 (le_refl _)
  have hl : slotRequest 0 ∈ d.queue.queued := by
    rw [hq]
    exact mem_map_of_mem (f := requests) (mem_range.mpr (by decide : 0 < 256))
  refine ⟨d, hrch, ?_, (capacity_of_reaches ⟨rfl, rfl⟩ hrch).2.1
    (.inr ⟨_, hl, rfl⟩) hr ?_⟩
  · rw [hq, length_map, length_range]
    rfl
  · rw [ho]
    decide

/-- **A store that accepts nothing any more.** 256 requests were submitted, each
of them cancelled before. There is room for further changes, and none of them
ever makes room for another request. -/
theorem full_of_cancelled : ∃ d, sampleDocument.Initial ∧ sampleDocument.Reaches d ∧ d.HasRoom 6
    ∧ ∀ n, d.Reaches n → ∀ req now m, ¬ n.Applies (.submit req now) m := by
  obtain ⟨d, hrch, -, hq, -, -, hr⟩ := exists_filled (fun _ => .inr rfl) 256 (le_refl _)
  refine ⟨d, ⟨rfl, rfl⟩, hrch, hr, fun n hn => hn.not_applies_submit ?_ ?_⟩
  · rw [hq, length_map, length_range]
    rfl
  · rw [hq]
    intro req hreq
    obtain ⟨slot, -, rfl⟩ := mem_map.mp hreq
    rfl

end PersonalWorkerStoreDocument

end Glaeda
