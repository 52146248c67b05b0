import Glaeda.DeliveryReplay
import Glaeda.DeliveryState

/-!
# Two readings of a later message

An ambiguous acquisition is resolved in two steps. The consumer derives the
next catalog from the later message, and the recovery state validates what
it is given by deriving it again, from the two messages and the catalog in
between. The two were written independently, so **the second may refuse what
the first derived**.

They agree on everything but the job. The consumer compares the identities
that are derived from a job, in which labels are sorted; the recovery state
compares the jobs field by field. So `prepareLifecycleResolution_iff` says
exactly when a message the consumer accepted is accepted again: it is later,
and its jobs are the original ones with their labels in the original order.
-/

namespace Glaeda

open Checked DisposableAttemptState List Except RecoveryRecord ScaleSetDeliveryRecoveryState

/-! ## Catalog digests -/

/-- **Every catalog has a digest.** -/
theorem exists_catalogDigest (c : DisposableAttemptCatalogDocument) :
    ∃ digest, catalogDigest c = .ok digest := by
  obtain ⟨bytes, hb⟩ := exists_encodeDisposableAttemptCatalog c
  have hl : bytes.length < u64Size := lt_of_le_of_lt
    (length_encodeDisposableAttemptCatalog_le hb) (by decide)
  unfold catalogDigest
  rw [mapError_eq_ok.mpr hb, ok_bind, refuseIf_not hl, ok_bind]
  obtain ⟨digest, hd⟩ := Sha256Digest.exists_parse_hexDigest
    (catalogBindingDomain ++ Sha256.beBytes 8 bytes.length ++ bytes)
  exact ⟨digest, mapError_eq_ok.mpr hd⟩

theorem bindsCatalog_iff {revision : DisposableAttemptCatalogRevision} {digest : Sha256Digest}
    {c : DisposableAttemptCatalogDocument} :
    bindsCatalog revision digest c = true
      ↔ revision = c.revision ∧ catalogDigest c = .ok digest := by
  unfold bindsCatalog
  rw [Bool.and_eq_true, decide_eq_true_eq, decide_eq_true_eq]

/-! ## Releasing a reservation -/

section Reconstruct

variable {policy : ScaleSetDeliveryConsumerPolicy}
variable {orig : List ScaleSetDeliveryLifecycleEvent}
variable {event : ScaleSetDeliveryLifecycleEvent}
variable {c n : DisposableAttemptCatalogDocument} {r : DisposableAttemptReservation}
variable {q : ScaleSetRunnerRequestId}
variable {events : List ScaleSetDeliveryLifecycleEvent}

open DisposableAttemptCatalogDocument ScaleSetDeliveryConsumerPolicy

/-- **The two releases agree.** One looks the attempt up by its identity and
the other by its request, and both find the same reservation. -/
theorem reconstructRelease_of_retire (hf : c.findActiveByRunnerRequestId q = some r)
    (h : retireUnprovisionedCancellation c r = .ok n) : reconstructRelease c q r = .ok n := by
  unfold retireUnprovisionedCancellation releaseUnprovisioned at h
  simp only [bind_eq_ok, mapError_eq_ok, okOr_eq_ok] at h
  obtain ⟨d, hd, s, hs, e, he, t, ht, h⟩ := h
  have hact := findActive_of_findActiveByRunnerRequestId hf
  obtain ⟨a, ha, hs', -⟩ := released_of_replaceAttempt hact hd
  obtain ⟨b, hb, ht', -⟩ := released_of_replaceAttempt hs' he
  rw [hs] at hs'
  rw [ht] at ht'
  have hr := runnerRequestId_of_findActive hf
  have hsq : d.findActiveByRunnerRequestId q = some s := by
    rw [← hr, ← (extends_of_perform ha).runnerRequestId]
    rw [Option.some.inj hs'] at hs ⊢
    exact findActiveByRunnerRequestId_of_findActive hs
  have htq : e.findActiveByRunnerRequestId q = some t := by
    rw [← hr, ← (extends_of_perform ha).runnerRequestId,
      ← (extends_of_perform hb).runnerRequestId]
    rw [Option.some.inj ht'] at ht ⊢
    exact findActiveByRunnerRequestId_of_findActive ht
  unfold reconstructRelease releaseUnprovisioned
  simp only [bind_eq_ok, mapError_eq_ok, okOr_eq_ok]
  exact ⟨d, hd, s, hsq, e, he, t, htq, h⟩

/-- What the consumer makes of an event that resolves a request, the
recovery state makes of it too. -/
theorem reconstructStep_of_resolveEvent (hf : c.findActiveByRunnerRequestId q = some r)
    (h : resolveEvent event c r = .ok n) : reconstructStep event c q r = .ok n := by
  unfold resolveEvent at h
  split at h
  · exact congrArg ok (ok.inj h)
  · split at h
    · rename_i hc
      rw [mapError_eq_ok] at h
      show (if _ = "canceled" then reconstructRelease c q r else _) = _
      rw [if_pos hc]
      exact reconstructRelease_of_retire hf h
    · cases h
  all_goals cases h

theorem lifecycleJob_of_resolveEvent (h : resolveEvent event c r = .ok n) :
    lifecycleJob event = .ok event.job := by
  cases event with
  | available job => cases h
  | _ => rfl

variable {ambiguous : List ScaleSetRunnerRequestId}
variable {st st' : DisposableAttemptCatalogDocument × List ScaleSetRunnerRequestId}

/-- **What one event of a later message does**, with every check it
passed. -/
theorem reconcileResolutionEvent_cases
    (h : policy.reconcileResolutionEvent ambiguous st event = .ok st') :
    event.job.runnerRequestId ∈ ambiguous
      ∧ ∃ r, st.1.findActiveByRunnerRequestId event.job.runnerRequestId = some r
        ∧ r.attempt.phase = .reserved ∧ resolveEvent event st.1 r = .ok st'.1
        ∧ st'.2 = st.2 ++ [event.job.runnerRequestId] := by
  unfold reconcileResolutionEvent at h
  simp only [bind_eq_ok, refuseIf_eq_ok, okOr_eq_ok, not_not, ne_eq, pure_eq_ok, ok.injEq] at h
  obtain ⟨_, hm, _, _, _, _, r, hr, _, _, _, hph, next, hn, rfl⟩ := h
  exact ⟨hm, r, hr, hph, hn, rfl⟩

/-- **The recovery state repeats the step** when the job is the original
one. -/
theorem reconstructEvent_of_reconcileResolutionEvent
    (hj : originalJob orig event.job.runnerRequestId = some event.job)
    (h : policy.reconcileResolutionEvent ambiguous st event = .ok st') :
    reconstructEvent orig st event = .ok st' := by
  obtain ⟨-, r, hr, hph, hn, ha⟩ := reconcileResolutionEvent_cases h
  unfold reconstructEvent
  rw [lifecycleJob_of_resolveEvent hn, ok_bind, hj, okOr, ok_bind,
    refuseIf_not rfl, ok_bind, hr, okOr, ok_bind,
    refuseIf_not hph, ok_bind, reconstructStep_of_resolveEvent hr hn,
    ok_bind, ← ha]
  rfl

theorem originalJob_of_reconstructEvent (h : reconstructEvent orig st event = .ok st') :
    originalJob orig event.job.runnerRequestId = some event.job := by
  unfold reconstructEvent at h
  simp only [bind_eq_ok, refuseIf_eq_ok, okOr_eq_ok, not_not, ne_eq] at h
  obtain ⟨job, hj, found, hf, _, hs, _⟩ := h
  have : job = event.job := by
    cases event with
    | available job' => cases hj
    | _ => exact (ok.inj hj).symm
  rw [← this, hf, hs]

/-- **The recovery state repeats a whole message** when every job of it is
the original one. -/
theorem foldlM_reconstructEvent
    (hj : ∀ e ∈ events, originalJob orig e.job.runnerRequestId = some e.job)
    (h : events.foldlM (policy.reconcileResolutionEvent ambiguous) st = .ok st') :
    events.foldlM (reconstructEvent orig) st = .ok st' := by
  induction events generalizing st with
  | nil => exact congrArg ok (ok.inj h)
  | cons event events ih =>
    rw [foldlM_cons, bind_eq_ok] at h
    obtain ⟨mid, hm, h⟩ := h
    obtain ⟨hjob, hj⟩ := forall_mem_cons.mp hj
    rw [foldlM_cons, reconstructEvent_of_reconcileResolutionEvent hjob hm, ok_bind]
    exact ih hj h

theorem originalJob_of_foldlM (h : events.foldlM (reconstructEvent orig) st = .ok st') :
    ∀ e ∈ events, originalJob orig e.job.runnerRequestId = some e.job := by
  induction events generalizing st with
  | nil => exact forall_mem_nil _
  | cons event events ih =>
    rw [foldlM_cons, bind_eq_ok] at h
    obtain ⟨mid, hm, h⟩ := h
    exact forall_mem_cons.mpr ⟨originalJob_of_reconstructEvent hm, ih h⟩

theorem evolves_of_reconcileResolutionEvent
    (h : policy.reconcileResolutionEvent ambiguous st event = .ok st') :
    st.1.Evolves st'.1 := by
  obtain ⟨-, r, hr, -, hn, -⟩ := reconcileResolutionEvent_cases h
  unfold resolveEvent at hn
  split at hn
  · exact .inl (ok.inj hn).symm
  · split at hn
    · rw [mapError_eq_ok] at hn
      obtain ⟨a, -, -, -, hrel⟩ := retireUnprovisionedCancellation_cases
        (findActive_of_findActiveByRunnerRequestId hr) hn
      exact .inr hrel.revision
    · cases hn
  all_goals cases hn

/-- **What the consumer made of a later message.** -/
theorem reconcileScaleSetAcquisitionResolution_cases {delivery : ScaleSetDelivery}
    {tgt : DisposableAttemptCatalogDocument} {acquired : List ScaleSetRunnerRequestId}
    (h : policy.reconcileScaleSetAcquisitionResolution ambiguous delivery c
      = .ok (tgt, acquired)) :
    delivery.availableRequestIds = .ok [] ∧ ∃ events out, delivery.retainedEvents = .ok events
        ∧ events.foldlM (policy.reconcileResolutionEvent ambiguous) (c, []) = .ok (tgt, out)
        ∧ out ≠ [] ∧ acquired = orderedIds out := by
  unfold reconcileScaleSetAcquisitionResolution at h
  simp only [bind_eq_ok, refuseIf_eq_ok, mapError_eq_ok, not_not, pure_eq_ok,
    ok.injEq, Prod.mk.injEq] at h
  obtain ⟨_, -, available, ha, _, he, _, -, events, hevs, ⟨next, out⟩, hf,
    _, ho, rfl, rfl⟩ := h
  rw [List.isEmpty_iff] at he ho
  exact ⟨he ▸ ha, events, out, hevs, hf, ho, rfl⟩

/-- The requests of a message are collected in order, and all are
ambiguous. -/
theorem foldlM_reconcileResolutionEvent_requests
    (h : events.foldlM (policy.reconcileResolutionEvent ambiguous) st = .ok st') :
    st'.2 = st.2 ++ events.map (fun e => e.job.runnerRequestId)
      ∧ (∀ e ∈ events, e.job.runnerRequestId ∈ ambiguous
        ∧ lifecycleJob e = .ok e.job) ∧ st.1.Evolves st'.1 := by
  induction events generalizing st with
  | nil =>
    obtain rfl := ok.inj h
    exact ⟨(append_nil _).symm, forall_mem_nil _, .refl _⟩
  | cons event events ih =>
    rw [foldlM_cons, bind_eq_ok] at h
    obtain ⟨mid, hm, h⟩ := h
    obtain ⟨hr, hmem, he⟩ := ih h
    obtain ⟨hamb, r, -, -, hn, ha⟩ := reconcileResolutionEvent_cases hm
    refine ⟨?_, forall_mem_cons.mpr
      ⟨⟨hamb, lifecycleJob_of_resolveEvent hn⟩, hmem⟩,
      (evolves_of_reconcileResolutionEvent hm).trans he⟩
    rw [hr, ha, append_assoc, map_cons]
    rfl

end Reconstruct

/-! ## Ordered sets of requests -/

theorem mem_orderedIds {ids : List ScaleSetRunnerRequestId} {id : ScaleSetRunnerRequestId} :
    id ∈ orderedIds ids ↔ id ∈ ids := by
  unfold orderedIds
  rw [mem_insertionSort, mem_dedup]

variable (ids : List ScaleSetRunnerRequestId)

theorem nodup_orderedIds : (orderedIds ids).Nodup :=
  (perm_insertionSort _ _).nodup_iff.mpr (nodup_dedup _)

theorem orderedIds_orderedIds : orderedIds (orderedIds ids) = orderedIds ids := by
  have hs : (orderedIds ids).Pairwise (fun a b => a.val ≤ b.val) := pairwise_insertionSort _ _
  rw [orderedIds, (nodup_orderedIds ids).dedup]
  exact hs.insertionSort_eq

/-! ## What validation says of a resolution -/

namespace ScaleSetLifecycleResolution

/-- **The checks a valid resolution passed**, and what they computed. -/
structure Derives (resolution : ScaleSetLifecycleResolution) (state : RecoveryRecord)
    (expected : Nat) (digest : Sha256Digest)
    (original events : List ScaleSetDeliveryLifecycleEvent)
    (reconstructed : DisposableAttemptCatalogDocument × List ScaleSetRunnerRequestId) :
    Prop where
  expected_eq : expectedRevision state.phase = some expected
  revision : state.revision = 3 + expected
  baseRevision : resolution.baseRevision = 3
  later : state.delivery.messageId < resolution.delivery.messageId
  available : resolution.delivery.availableRequestIds = .ok []
  acquired_ne : resolution.acquired ≠ []
  catalog : state.catalogRevision = resolution.catalogRevision
    ∧ state.catalogDigest = resolution.catalogDigest
  revision_le : resolution.priorCatalog.revision.val ≤ resolution.catalogRevision.val
  digest_eq : Glaeda.catalogDigest resolution.priorCatalog = .ok digest
  header : (resolution.predecessor state digest).validateHeader = .ok ()
  observed : (resolution.predecessor state digest).validateAcquisitionRecoveryObserved []
    = .ok ()
  prior : (resolution.predecessor state digest).matchesCatalog resolution.priorCatalog = true
  acquired : state.validateAcquired resolution.acquired = .ok ()
  original_eq : state.delivery.retainedEvents = .ok original
  events_eq : resolution.delivery.retainedEvents = .ok events
  fold : events.foldlM (reconstructEvent original) (resolution.priorCatalog, [])
    = .ok reconstructed
  acquired_eq : orderedIds reconstructed.2 = resolution.acquired
  target : state.matchesCatalog reconstructed.1 = true

/-- **A resolution validates exactly when it passes these checks.** -/
theorem validate_eq_ok_iff {resolution : ScaleSetLifecycleResolution} {state : RecoveryRecord} :
    resolution.validate state = .ok () ↔ ∃ expected digest orig events reconstructed,
      Derives resolution state expected digest orig events reconstructed := by
  unfold validate
  simp only [bind_eq_ok, refuseIf_eq_ok, okOr_eq_ok, mapError_eq_ok, checkedAdd_eq_some,
    not_or, not_not, ne_eq, not_lt, gt_iff_lt, UInt32.not_le]
  constructor
  · rintro ⟨expected, hexp, _, ⟨-, rfl⟩, available, ha, _,
      ⟨hrev, hb, hlater, he, hne, hcat, hle⟩, digest, hdig, _, hhdr, _,
      hobs, _, hp, _, hacq, orig, ho, events, hevs, reconstructed,
      hf, heq, htgt⟩
    rw [List.isEmpty_iff] at he hne
    exact ⟨expected, digest, orig, events, reconstructed, hexp, hb ▸ hrev,
      hb, hlater, he ▸ ha, hne, hcat, hle, hdig, hhdr, hobs,
      hp, hacq, ho, hevs, hf, heq, htgt⟩
  · rintro ⟨expected, digest, orig, events, reconstructed, h⟩
    have hexp : expected ≤ 3 := by
      have heq := h.expected_eq
      unfold expectedRevision at heq
      split at heq <;> simp at heq <;> omega
    have hb := h.baseRevision
    have hrev := h.revision
    refine ⟨expected, h.expected_eq, _, ⟨?_, rfl⟩, [], h.available, (), ⟨?_, hb, h.later, rfl,
      ?_, h.catalog, h.revision_le⟩, digest, h.digest_eq, (), h.header, (), h.observed, (),
      h.prior, (), h.acquired, orig, h.original_eq, events, h.events_eq, reconstructed,
      h.fold, h.acquired_eq, h.target⟩
    · unfold u64Size
      omega
    · omega
    · rw [List.isEmpty_iff]
      exact h.acquired_ne

end ScaleSetLifecycleResolution

/-! ## What validation says of a state -/

namespace RecoveryRecord

variable {s : RecoveryRecord}

/-- **What holds in every phase.** -/
theorem validateHeader_eq_ok_iff :
    s.validateHeader = .ok () ↔ s.schemaVersion = scaleSetDeliveryRecoverySchemaVersion
      ∧ (1 ≤ s.revision ∧ s.revision ≤ maxDeliveryRecoveryRevision)
      ∧ s.priorCatalogRevision.val ≤ s.catalogRevision.val
      ∧ (s.priorCatalogRevision = s.catalogRevision → s.priorCatalogDigest = s.catalogDigest)
      ∧ ∃ bytes, encodeScaleSetDelivery s.delivery = .ok bytes := by
  unfold validateHeader
  simp only [bind_eq_ok, refuseIf_eq_ok, mapError_eq_ok, not_or, not_not, not_and,
    not_lt, ne_eq, gt_iff_lt, pure_eq_ok, and_true, and_assoc, Classical.not_imp,
    exists_const]

theorem validatedAcquired_eq_ok {acquired out available : List ScaleSetRunnerRequestId}
    (ha : s.delivery.availableRequestIds = .ok available) :
    s.validatedAcquired acquired = .ok out
      ↔ ((∀ id ∈ acquired, id ∈ available) ∧ acquired.Nodup) ∧ orderedIds acquired = out := by
  unfold validatedAcquired
  rw [mapError_eq_ok.mpr ha, ok_bind, refuseIf_bind_eq_ok, not_not, pure_eq_ok_iff]

theorem validateAcquired_orderedIds {ids available : List ScaleSetRunnerRequestId}
    (ha : s.delivery.availableRequestIds = .ok available)
    (h : ∀ id ∈ orderedIds ids, id ∈ available) :
    s.validateAcquired (orderedIds ids) = .ok () := by
  unfold validateAcquired
  rw [(validatedAcquired_eq_ok ha).mpr
    ⟨⟨h, nodup_orderedIds ids⟩, orderedIds_orderedIds ids⟩, ok_bind]
  exact refuseIf_not rfl

end RecoveryRecord

namespace ScaleSetDeliveryRecoveryState

variable {s : ScaleSetDeliveryRecoveryState}

theorem header (s : ScaleSetDeliveryRecoveryState) : s.validateHeader = .ok () :=
  (guard_bind_eq_ok.mp s.valid).1

/-- **An empty answer is the first one.** -/
theorem revision_of_empty (h : s.phase = .acquisitionRecoveryObserved []) :
    s.revision = 3 ∧ s.validateAcquisitionRecoveryObserved [] = .ok () := by
  have hv := (guard_bind_eq_ok.mp s.valid).2
  rw [h] at hv
  refine ⟨?_, hv⟩
  unfold validateAcquisitionRecoveryObserved at hv
  rw [refuseIf_bind_eq_ok, not_not] at hv
  exact hv.1.2.resolve_left (by simp)

/-! ## A later message, accepted twice -/

section Resolution

variable {policy : ScaleSetDeliveryConsumerPolicy} {delivery : ScaleSetDelivery}
variable {c tgt : DisposableAttemptCatalogDocument}
variable {ambiguous acquired : List ScaleSetRunnerRequestId} {digest : Sha256Digest}

/-- The resolution a later message gives. -/
def resolutionOf (delivery : ScaleSetDelivery) (acquired : List ScaleSetRunnerRequestId)
    (c target : DisposableAttemptCatalogDocument) (digest : Sha256Digest) :
    ScaleSetLifecycleResolution where
  baseRevision := 3
  delivery := delivery
  acquired := acquired
  priorCatalog := c
  catalogRevision := target.revision
  catalogDigest := digest

/-- The state with that resolution. -/
def resolvedRecord (s : ScaleSetDeliveryRecoveryState) (delivery : ScaleSetDelivery)
    (acquired : List ScaleSetRunnerRequestId)
    (c target : DisposableAttemptCatalogDocument) (digest : Sha256Digest) : RecoveryRecord :=
  { s.toRecoveryRecord with
    revision := 4
    catalogRevision := target.revision
    catalogDigest := digest
    phase := .lifecycleReconciled (resolutionOf delivery acquired c target digest) }

/-- The state after a later message has a valid header: the catalog only
evolved. -/
theorem header_resolvedRecord (hmat : s.matchesCatalog c = true) (he : c.Evolves tgt)
    (hd : catalogDigest tgt = .ok digest) :
    (resolvedRecord s delivery acquired c tgt digest).validateHeader = .ok () := by
  obtain ⟨hver, -, hp, hs, hb⟩ := validateHeader_eq_ok_iff.mp s.header
  obtain ⟨hcat, hc⟩ := bindsCatalog_iff.mp hmat
  rw [hcat] at hp hs
  refine validateHeader_eq_ok_iff.mpr
    ⟨hver, (by decide : 1 ≤ 4 ∧ 4 ≤ maxDeliveryRecoveryRevision),
      hp.trans he.revision_le, ?_, hb⟩
  intro heq
  -- the prior catalog has the revision of the target, so nothing changed in between
  change s.priorCatalogRevision = tgt.revision at heq
  have hv : tgt.revision = c.revision := by
    refine BoundedRevision.ext (le_antisymm ?_ he.revision_le)
    rw [← heq]
    exact hp
  rw [he.eq_of_revision_eq hv] at heq hd
  exact (hs heq).trans (ok.inj (hc.symm.trans hd))

section

variable {out : List ScaleSetRunnerRequestId} (hph : s.phase = .acquisitionRecoveryObserved [])
    (hmat : s.matchesCatalog c = true) (hlater : s.delivery.messageId < delivery.messageId)
    (hamb : s.delivery.availableRequestIds = .ok ambiguous)
    (hnone : delivery.availableRequestIds = .ok [])
include hph hmat hlater hamb hnone

/-- **The state after a later message validates when its jobs are the
original ones.** -/
theorem validate_resolvedRecord {orig events : List ScaleSetDeliveryLifecycleEvent}
    (ho : s.delivery.retainedEvents = .ok orig)
    (hevs : delivery.retainedEvents = .ok events)
    (hf : events.foldlM (policy.reconcileResolutionEvent ambiguous) (c, []) = .ok (tgt, out))
    (hout : out ≠ []) (hdig : catalogDigest tgt = .ok digest)
    (hj : ∀ e ∈ events, originalJob orig e.job.runnerRequestId = some e.job) :
    (resolvedRecord s delivery (orderedIds out) c tgt digest).validate = .ok () := by
  obtain ⟨hr, hmem, hevo⟩ := foldlM_reconcileResolutionEvent_requests hf
  obtain ⟨hrev, hobs⟩ := revision_of_empty hph
  obtain ⟨hcat, hc⟩ := bindsCatalog_iff.mp hmat
  unfold validate
  rw [guard_bind_eq_ok]
  have hord : orderedIds out ≠ [] := by
    obtain ⟨id, hid⟩ := exists_mem_of_ne_nil out hout
    exact ne_nil_of_mem (mem_orderedIds.mpr hid)
  have hacq : ∀ id ∈ orderedIds out, id ∈ ambiguous := by
    intro id hid
    change out = [] ++ _ at hr
    rw [mem_orderedIds, hr, nil_append] at hid
    obtain ⟨e, he, rfl⟩ := mem_map.mp hid
    exact (hmem e he).1
  -- the state the resolution started from is found again in it
  have hp : (resolutionOf delivery (orderedIds out) c tgt digest).predecessor
      (resolvedRecord s delivery (orderedIds out) c tgt digest) s.catalogDigest
        = s.toRecoveryRecord := by
    unfold ScaleSetLifecycleResolution.predecessor resolvedRecord resolutionOf
    rw [← hph, ← hcat, ← hrev]
  refine ⟨header_resolvedRecord hmat hevo hdig, ScaleSetLifecycleResolution.validate_eq_ok_iff.mpr
      ⟨1, s.catalogDigest, orig, events, (tgt, out), ?_⟩⟩
  exact {
    expected_eq := rfl
    revision := rfl
    baseRevision := rfl
    later := hlater
    available := hnone
    acquired_ne := hord
    catalog := ⟨rfl, rfl⟩
    revision_le := hevo.revision_le
    digest_eq := hc
    header := hp ▸ s.header
    observed := hp ▸ hobs
    prior := hp ▸ hmat
    acquired := validateAcquired_orderedIds hamb hacq
    original_eq := ho
    events_eq := hevs
    fold := foldlM_reconstructEvent hj hf
    acquired_eq := rfl
    target := bindsCatalog_iff.mpr ⟨rfl, hdig⟩ }

/-- **The other checks pass**: what is left is to validate the record. -/
theorem prepareLifecycleResolution_eq {events : List ScaleSetDeliveryLifecycleEvent}
    (hevs : delivery.retainedEvents = .ok events)
    (hfl : events.foldlM (policy.reconcileResolutionEvent ambiguous) (c, []) = .ok (tgt, out))
    (hout : out ≠ []) (hdig : catalogDigest tgt = .ok digest) :
    s.prepareLifecycleResolution delivery (orderedIds out) c tgt
      = accept (resolvedRecord s delivery (orderedIds out) c tgt digest) := by
  obtain ⟨hr, hmem, -⟩ := foldlM_reconcileResolutionEvent_requests hfl
  change out = [] ++ _ at hr
  have hrev := (revision_of_empty hph).1
  have hreq : ∀ id ∈ orderedIds out, ∃ e ∈ events, e.job.runnerRequestId = id := by
    intro id hid
    rw [mem_orderedIds, hr] at hid
    exact mem_map.mp hid
  have hacq : ∀ id ∈ orderedIds out, id ∈ ambiguous := by
    intro id hid
    obtain ⟨e, he, rfl⟩ := hreq id hid
    exact (hmem e he).1
  have hl : ¬ ∃ id ∈ orderedIds out, id ∉ lifecycleRequests events := by
    rintro ⟨id, hid, hnot⟩
    obtain ⟨e, he, rfl⟩ := hreq id hid
    refine hnot (mem_filterMap.mpr ⟨e, he, ?_⟩)
    have hjob := (hmem e he).2
    cases e with
    | available job => cases hjob
    | _ => rfl
  have hord : ¬ (orderedIds out).isEmpty = true := by
    obtain ⟨id, hid⟩ := exists_mem_of_ne_nil out hout
    rw [List.isEmpty_iff]
    exact List.ne_nil_of_mem (mem_orderedIds.mpr hid)
  have hf : ¬ (s.phase ≠ .acquisitionRecoveryObserved [] ∨ ¬ s.matchesCatalog c
      ∨ delivery.messageId ≤ s.delivery.messageId
      ∨ ¬ ([] : List ScaleSetRunnerRequestId).isEmpty) := by
    simp [hph, hmat, hlater]
  unfold prepareLifecycleResolution
  rw [mapError_eq_ok.mpr hnone, ok_bind, refuseIf_bind hf, (validatedAcquired_eq_ok hamb).mpr
      ⟨⟨hacq, nodup_orderedIds out⟩, orderedIds_orderedIds out⟩, ok_bind,
    refuseIf_bind hord, mapError_eq_ok.mpr hevs, ok_bind,
    refuseIf_bind hl, hdig, ok_bind, successorWithCatalog, nextRevision,
    hrev, hdig]
  rfl

end

/-- The jobs of the later message are, field by field, the ones the original
message made available. -/
def SameJobs (original later : ScaleSetDelivery) : Prop :=
  ∃ originalEvents laterEvents, original.retainedEvents = .ok originalEvents
    ∧ later.retainedEvents = .ok laterEvents
    ∧ ∀ e ∈ laterEvents, originalJob originalEvents e.job.runnerRequestId = some e.job

section

variable {n : ScaleSetDeliveryRecoveryState}
    (h : s.prepareLifecycleResolution delivery acquired c tgt = .ok n)
include h

/-- **What an accepted resolution is**, with the checks on the later
message. -/
theorem prepareLifecycleResolution_eq_ok :
    s.phase = .acquisitionRecoveryObserved [] ∧ s.matchesCatalog c = true
      ∧ s.delivery.messageId < delivery.messageId
      ∧ ∃ digest, catalogDigest tgt = .ok digest ∧ n.toRecoveryRecord
        = resolvedRecord s delivery (orderedIds acquired) c tgt digest := by
  obtain ⟨ambiguous, hamb⟩ := s.delivery.exists_availableRequestIds
  unfold prepareLifecycleResolution at h
  simp only [bind_eq_ok, refuseIf_eq_ok, not_or, not_not, ne_eq, UInt32.not_le,
    validatedAcquired_eq_ok hamb] at h
  obtain ⟨_, _, _, ⟨hph, hmat, hlater, _⟩, _, ⟨_, rfl⟩, _, _, _, _, _, _, digest, hd, h⟩ := h
  refine ⟨hph, hmat, hlater, digest, hd, ?_⟩
  have hr := (revision_of_empty hph).1
  rw [successorWithCatalog, nextRevision, hr, hd] at h
  exact accept_eq_ok.mp h

/-- **The recovery state accepts original jobs only.** -/
theorem sameJobs_of_prepareLifecycleResolution : SameJobs s.delivery delivery := by
  obtain ⟨-, -, -, digest, -, hn⟩ := prepareLifecycleResolution_eq_ok h
  have hv := n.valid
  rw [hn] at hv
  obtain ⟨_, _, orig, events, reconstructed, hd⟩ :=
    ScaleSetLifecycleResolution.validate_eq_ok_iff.mp (guard_bind_eq_ok.mp hv).2
  exact ⟨orig, events, hd.original_eq, hd.events_eq, originalJob_of_foldlM hd.fold⟩

end

/-- **A later message the consumer accepted is accepted by the recovery
state exactly when it is later and its jobs are the original ones.** -/
theorem prepareLifecycleResolution_iff
    (hph : s.phase = .acquisitionRecoveryObserved []) (hmat : s.matchesCatalog c = true)
    (hamb : s.delivery.availableRequestIds = .ok ambiguous)
    (h : policy.reconcileScaleSetAcquisitionResolution ambiguous delivery c
      = .ok (tgt, acquired)) :
    (∃ n, s.prepareLifecycleResolution delivery acquired c tgt = .ok n)
      ↔ s.delivery.messageId < delivery.messageId ∧ SameJobs s.delivery delivery := by
  constructor
  · rintro ⟨n, hn⟩
    obtain ⟨-, -, hlater, -⟩ := prepareLifecycleResolution_eq_ok hn
    exact ⟨hlater, sameJobs_of_prepareLifecycleResolution hn⟩
  · rintro ⟨hlater, orig, events', ho, he', hj⟩
    obtain ⟨hnone, events, out, he, hf, hout, rfl⟩ :=
      reconcileScaleSetAcquisitionResolution_cases h
    obtain rfl : events' = events := ok.inj (he'.symm.trans he)
    obtain ⟨digest, hd⟩ := exists_catalogDigest tgt
    rw [prepareLifecycleResolution_eq hph hmat hlater hamb hnone he hf hout
      hd]
    exact exists_accept (validate_resolvedRecord hph hmat hlater hamb hnone ho
      he hf hout hd hj)

end Resolution

end ScaleSetDeliveryRecoveryState

/-! ## A message with its labels in another order -/

/-- A job is offered. -/
def offeredDelivery : ScaleSetDelivery where
  toDeliveryRecord := sampleMessage 1 [1] [.available (sampleJob 1)]
  valid := by decide

/-- The state of that message after an empty answer to the second
acquisition. -/
def observedState : ScaleSetDeliveryRecoveryState where
  schemaVersion := scaleSetDeliveryRecoverySchemaVersion
  revision := 3
  priorCatalogRevision := DisposableAttemptCatalogDocument.empty.revision
  priorCatalogDigest :=
    ⟨"sha256:aa9cf38dc47cd9ea0570b87d76fed2efde989abab3ba5aa213f3fb6d3cdbbb34", by decide⟩
  catalogRevision := reservedCatalog.revision
  catalogDigest :=
    ⟨"sha256:c7e01a96e331ccddee594cee67d076536f1622402a959ced3bd46192dfd61982", by decide⟩
  delivery := offeredDelivery
  phase := .acquisitionRecoveryObserved []
  valid := by decide +kernel

/-- Its state once the acknowledgement was started. -/
def startedState : ScaleSetDeliveryRecoveryState where
  toRecoveryRecord :=
    { observedState.toRecoveryRecord with revision := 2, phase := .acknowledgementStarted }
  valid := by decide +kernel

theorem matchesCatalog_observedState : observedState.matchesCatalog reservedCatalog = true := by
  decide +kernel

/-- A job is assigned, with some labels. -/
def assignedRecord (labels : List String) : DeliveryRecord :=
  sampleMessage 2 [] [.assigned { sampleJob 1 with requestLabels := labels }]

/-- The labels are in order. -/
def assignedDelivery : ScaleSetDelivery where
  toDeliveryRecord := assignedRecord ["linux", "x64"]
  valid := by decide

/-- The labels are not in order. -/
def reorderedDelivery : ScaleSetDelivery where
  toDeliveryRecord := assignedRecord ["x64", "linux"]
  valid := by decide

theorem prepareLifecycleResolution_assignedDelivery :
    ∃ n, observedState.prepareLifecycleResolution assignedDelivery
      [⟨1, by decide, by decide⟩] reservedCatalog reservedCatalog = .ok n := by
  have hc : samplePolicy.reconcileScaleSetAcquisitionResolution
      [⟨1, by decide, by decide⟩] assignedDelivery reservedCatalog
      = .ok (reservedCatalog, [⟨1, by decide, by decide⟩]) := by decide +kernel
  refine (prepareLifecycleResolution_iff rfl
    matchesCatalog_observedState rfl hc).mpr ⟨by decide, ?_⟩
  refine ⟨_, _, rfl, rfl, ?_⟩
  decide

/-- **The consumer accepts the labels in another order, the recovery state
does not.** -/
theorem prepareLifecycleResolution_reorderedDelivery :
    observedState.phase = .acquisitionRecoveryObserved []
      ∧ observedState.matchesCatalog reservedCatalog = true
      ∧ observedState.delivery.messageId < reorderedDelivery.messageId
      ∧ observedState.delivery.availableRequestIds = .ok [⟨1, by decide, by decide⟩]
      ∧ samplePolicy.reconcileScaleSetAcquisitionResolution [⟨1, by decide, by decide⟩]
        reorderedDelivery reservedCatalog
        = .ok (reservedCatalog, [⟨1, by decide, by decide⟩])
      ∧ ∀ n, observedState.prepareLifecycleResolution reorderedDelivery
        [⟨1, by decide, by decide⟩] reservedCatalog reservedCatalog ≠ .ok n := by
  refine ⟨rfl, matchesCatalog_observedState, by decide, rfl, by decide +kernel, ?_⟩
  intro n hn
  obtain ⟨orig, events, ho, he, hj⟩ :=
    sameJobs_of_prepareLifecycleResolution hn
  obtain rfl := ok.inj ho
  obtain rfl := ok.inj he
  revert hj
  decide

end Glaeda
