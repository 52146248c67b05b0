import Glaeda.CatalogDecoder
import Glaeda.DeliveryResolution

/-!
# The document of a recovery state fits

A recovery document carries the document of its message, and in some phases
those of a later message and of catalogs, each as a text inside the text. The
limit is made for this: a text inside a text at most doubles. Apart from the
phase, a recovery document takes the doubled message and less than a
kilobyte, so it fits whenever what its phase carries leaves that much room.
-/

namespace Glaeda

variable {bytes : List UInt8} {r : RecoveryRecord} {acq : List ScaleSetRunnerRequestId}
variable {res : ScaleSetLifecycleResolution}

open Checked Json List Except RecoveryRecord

/-! ## Texts inside the text -/

/-- A message as text. -/
def deliveryText (d : ScaleSetDelivery) : String := String.ofList (render d.toJson)

variable (c : DisposableAttemptCatalogDocument)

/-- A catalog as text. -/
def catalogText : String :=
  String.ofList (render (.obj c.wireFields))

/-- A message can be written. -/
def HasDocument (d : ScaleSetDelivery) : Prop := ∃ bytes, encodeScaleSetDelivery d = .ok bytes

theorem cost_text_le {value : Value} {limit : Nat} (h : (encode value).length ≤ limit) :
    cost (.str (String.ofList (render value))) ≤ 2 * limit + 2 :=
  le_trans (cost_str_render_le value) (Nat.add_le_add_right (Nat.mul_le_mul_left 2 h) 2)

/-- **A message stands inside another document** when it has a document, as
the text of that. -/
theorem embedDelivery_eq_ok_iff {d : ScaleSetDelivery} {text : String} :
    embedDelivery d = .ok text ↔ HasDocument d ∧ text = deliveryText d := by
  unfold embedDelivery HasDocument
  simp only [bind_eq_ok, mapError_eq_ok, encodeScaleSetDelivery_eq_ok, okOr_eq_ok]
  constructor
  · rintro ⟨_, ⟨hl, rfl⟩, ht⟩
    rw [encode, textOfUtf8_utf8] at ht
    exact ⟨⟨_, hl, rfl⟩, (Option.some.inj ht).symm⟩
  · rintro ⟨⟨_, hl, rfl⟩, rfl⟩
    exact ⟨_, ⟨hl, rfl⟩, textOfUtf8_utf8 _⟩

theorem cost_deliveryText_le {d : ScaleSetDelivery} (h : HasDocument d) :
    cost (.str (deliveryText d)) ≤ 2 * maxScaleSetDeliveryBytes + 2 := by
  obtain ⟨bytes, hb⟩ := h
  exact cost_text_le (encodeScaleSetDelivery_eq_ok.mp hb).1

theorem embedCatalog_eq_ok : embedCatalog c = .ok (catalogText c) := by
  unfold embedCatalog
  rw [mapError_eq_ok.mpr c.encodeDisposableAttemptCatalog_eq_ok, ok_bind]
  show okOr (textOfUtf8 (utf8 (render (.obj c.wireFields)))) _ = _
  rw [textOfUtf8_utf8]
  rfl

theorem cost_catalogText_le :
    cost (.str (catalogText c)) ≤ 2 * maxDisposableAttemptCatalogDocumentBytes + 2 :=
  cost_text_le (length_encodeDisposableAttemptCatalog_le c.encodeDisposableAttemptCatalog_eq_ok)

/-! ## What a phase is written as -/

/-- The later message of a phase. -/
def carriedResolution : ScaleSetDeliveryRecoveryPhase → Option ScaleSetLifecycleResolution
  | .lifecycleReconciled resolution | .lifecycleAcknowledgementStarted resolution
  | .lifecycleAcknowledged resolution
  | .settlementPrepared (.lifecycleEvidence resolution) _ _ _ _ => some resolution
  | _ => none

/-- The later message can be written. -/
def CarriedHasDocument (phase : ScaleSetDeliveryRecoveryPhase) : Prop :=
  ∀ res, carriedResolution phase = some res → HasDocument res.delivery

theorem exists_and_eq_iff {α β : Type} {p : Prop} {a : α} {f : α → β} {b : β} :
    (∃ x, (p ∧ x = a) ∧ f x = b) ↔ p ∧ b = f a := by
  constructor
  · rintro ⟨_, ⟨hp, rfl⟩, rfl⟩
    exact ⟨hp, rfl⟩
  · rintro ⟨hp, rfl⟩
    exact ⟨a, ⟨hp, rfl⟩, rfl⟩

namespace ScaleSetLifecycleResolution

/-- A resolution as JSON. -/
def value (resolution : ScaleSetLifecycleResolution) : Value :=
  .obj [("base_revision", .num resolution.baseRevision),
    ("delivery_json", .str (deliveryText resolution.delivery)),
    ("acquired_request_ids", requestsJson resolution.acquired),
    ("prior_catalog_json", .str (catalogText resolution.priorCatalog)),
    ("catalog_revision", .num resolution.catalogRevision.val),
    ("catalog_digest", .str resolution.catalogDigest.value)]

theorem toJson_eq_ok_iff {value : Value} :
    res.toJson = .ok value ↔ HasDocument res.delivery ∧ value = res.value := by
  simp only [toJson, bind_eq_ok, pure_eq_ok, ok.injEq, embedDelivery_eq_ok_iff,
    embedCatalog_eq_ok, exists_eq_left']
  exact exists_and_eq_iff

end ScaleSetLifecycleResolution

/-- What a settlement rests on, as JSON. -/
def ScaleSetDeliverySettlementProof.value : ScaleSetDeliverySettlementProof → Value
  | .acknowledged => .str "acknowledged"
  | .acquisitionRecovery => .str "acquisition_recovery"
  | .lifecycleEvidence resolution =>
    .obj [("lifecycle_evidence", .obj [("resolution", resolution.value)])]

namespace ScaleSetDeliveryRecoveryPhase

/-- A phase as JSON. -/
def value : ScaleSetDeliveryRecoveryPhase → Value
  | .reconciled => .obj [("phase", .str "reconciled")]
  | .acknowledgementStarted => .obj [("phase", .str "acknowledgement_started")]
  | .acknowledged acquired =>
    .obj [("phase", .str "acknowledged"), ("acquired_request_ids", requestsJson acquired)]
  | .acquisitionRecoveryObserved acquired =>
    .obj [("phase", .str "acquisition_recovery_observed"),
      ("acquired_request_ids", requestsJson acquired)]
  | .lifecycleReconciled resolution =>
    .obj [("phase", .str "lifecycle_reconciled"), ("resolution", resolution.value)]
  | .lifecycleAcknowledgementStarted resolution =>
    .obj [("phase", .str "lifecycle_acknowledgement_started"), ("resolution", resolution.value)]
  | .lifecycleAcknowledged resolution =>
    .obj [("phase", .str "lifecycle_acknowledged"), ("resolution", resolution.value)]
  | .settlementPrepared proof acquired priorCatalog catalogRevision catalogDigest =>
    .obj [("phase", .str "settlement_prepared"), ("proof", proof.value),
      ("acquired_request_ids", requestsJson acquired),
      ("prior_catalog_json", .str (catalogText priorCatalog)),
      ("catalog_revision", .num catalogRevision.val),
      ("catalog_digest", .str catalogDigest.value)]

variable {phase : ScaleSetDeliveryRecoveryPhase}

/-- **A phase is written exactly when the later message it carries has a
document.** -/
theorem toJson_eq_ok_iff {value : Value} :
    phase.toJson = .ok value ↔ CarriedHasDocument phase ∧ value = phase.value := by
  have hl {res : ScaleSetLifecycleResolution} {name : String}
      (hcarr : carriedResolution phase = some res) :
      (do
        let res ← res.toJson
        return Value.obj [("phase", .str name), ("resolution", res)] :
        Except ScaleSetDeliveryRecoveryError Value) = .ok value
      ↔ CarriedHasDocument phase
        ∧ value = .obj [("phase", .str name), ("resolution", res.value)] := by
    unfold CarriedHasDocument
    simp only [bind_eq_ok, pure_eq_ok, ok.injEq,
      ScaleSetLifecycleResolution.toJson_eq_ok_iff, hcarr, Option.some.injEq, forall_eq']
    exact exists_and_eq_iff
  have hp (hcarr : carriedResolution phase = none) : CarriedHasDocument phase :=
    fun res h => by rw [hcarr] at h; cases h
  cases phase with
  | reconciled | acknowledgementStarted | acknowledged acq
  | acquisitionRecoveryObserved acq =>
    simp only [toJson, ScaleSetDeliveryRecoveryPhase.value, ok.injEq, hp rfl, true_and, eq_comm]
  | lifecycleReconciled res | lifecycleAcknowledgementStarted res
  | lifecycleAcknowledged res => exact hl rfl
  | settlementPrepared proof acq priorCatalog catalogRevision catalogDigest =>
    have hprf : ∀ v, proof.toJson = .ok v ↔ CarriedHasDocument (.settlementPrepared proof acq
        priorCatalog catalogRevision catalogDigest) ∧ v = proof.value := by
      intro v
      cases proof with
      | acknowledged | acquisitionRecovery =>
        simp only [ScaleSetDeliverySettlementProof.toJson, ScaleSetDeliverySettlementProof.value,
          ok.injEq, hp rfl, true_and, eq_comm]
      | lifecycleEvidence res =>
        unfold CarriedHasDocument
        simp only [ScaleSetDeliverySettlementProof.toJson, ScaleSetDeliverySettlementProof.value,
          bind_eq_ok, pure_eq_ok, ok.injEq, ScaleSetLifecycleResolution.toJson_eq_ok_iff,
          carriedResolution, Option.some.injEq, forall_eq']
        exact exists_and_eq_iff
    simp only [toJson, bind_eq_ok, pure_eq_ok, ok.injEq, hprf, embedCatalog_eq_ok, exists_eq_left']
    exact exists_and_eq_iff

end ScaleSetDeliveryRecoveryPhase

/-! ## What a phase takes -/

theorem length_le_of_validateAcquired (h : r.validateAcquired acq = .ok ()) :
    acq.length ≤ maxScaleSetDeliveryEvents := by
  obtain ⟨available, ha⟩ := r.delivery.exists_availableRequestIds
  obtain ⟨events, he⟩ := r.delivery.exists_retainedEvents
  unfold validateAcquired at h
  simp only [bind_eq_ok, validatedAcquired_eq_ok ha] at h
  obtain ⟨_, ⟨⟨hs, hnd⟩, -⟩, -⟩ := h
  refine le_trans (hnd.subperm hs).length_le ?_
  rw [r.delivery.availableRequestIds_eq_filterMap ha he]
  exact le_trans (length_filterMap_le _ _) (r.delivery.length_retainedEvents_le he)

theorem cost_catalogRevision_le (revision : DisposableAttemptCatalogRevision) :
    cost (.num revision.val) ≤ 13 :=
  cost_num_le (by decide) (lt_of_le_of_lt revision.le_max (by decide))

theorem cost_requestsJson_le
    (h : acq.length ≤ maxScaleSetDeliveryEvents) : cost (requestsJson acq) ≤ 1100 := by
  have hc := cost_arr_map_le (fun id : ScaleSetRunnerRequestId => cost_num_u64_le id.lt_size)
    acq
  have he : maxScaleSetDeliveryEvents = 50 := rfl
  unfold requestsJson
  omega

/-- A valid resolution starts from the third revision, and its requests are
requests of the message. -/
theorem resolution_bounds (h : res.validate r = .ok ()) :
    res.baseRevision = 3 ∧ res.acquired.length ≤ maxScaleSetDeliveryEvents := by
  obtain ⟨_, _, _, _, _, hd⟩ := ScaleSetLifecycleResolution.validate_eq_ok_iff.mp h
  exact ⟨hd.baseRevision, length_le_of_validateAcquired hd.acquired⟩

/-- **A resolution fits** when its message does. -/
theorem ScaleSetLifecycleResolution.cost_value_le (h : res.validate r = .ok ())
    (hd : HasDocument res.delivery) : cost res.value
      ≤ 2 * maxScaleSetDeliveryBytes + 2 * maxDisposableAttemptCatalogDocumentBytes + 2048 := by
  obtain ⟨hb, ha⟩ := resolution_bounds h
  have hdel := cost_deliveryText_le hd
  have hc := cost_catalogText_le res.priorCatalog
  have hn : cost (.num res.baseRevision) ≤ 1 := by
    rw [hb]
    decide
  have hr := cost_requestsJson_le ha
  have hrev := cost_catalogRevision_le res.catalogRevision
  have hdig := cost_str_digest_le res.catalogDigest
  refine le_trans (cost_obj_le_of_names 24 (by simp only [forall_mem_cons]; decide)) ?_
  simp only [map_cons, map_nil, sum_cons, sum_nil]
  omega

theorem cost_lifecycleJson_le (name : String) (hn : cost (.str name) ≤ 40)
    (h : res.validate r = .ok ()) (hd : HasDocument res.delivery) :
    cost (.obj [("phase", .str name), ("resolution", res.value)])
      ≤ 2 * maxScaleSetDeliveryBytes + 4 * maxDisposableAttemptCatalogDocumentBytes + 8192 := by
  have hc := res.cost_value_le h hd
  refine le_trans (cost_obj_le_of_names 24 (by simp only [forall_mem_cons]; decide)) ?_
  simp only [map_cons, map_nil, sum_cons, sum_nil]
  omega

theorem cost_answerJson_le (name : String)
    (hn : cost (.str name) ≤ 40) (h : acq.length ≤ maxScaleSetDeliveryEvents) :
    cost (.obj [("phase", .str name), ("acquired_request_ids", requestsJson acq)]) ≤ 4096 := by
  have hr := cost_requestsJson_le h
  refine le_trans (cost_obj_le_of_names 24 (by simp only [forall_mem_cons]; decide)) ?_
  simp only [map_cons, map_nil, sum_cons, sum_nil]
  omega

theorem ScaleSetDeliverySettlementProof.cost_value_le {proof : ScaleSetDeliverySettlementProof}
    (h : r.validateProof acq proof = .ok ())
    (hcarr : ∀ res, proof = .lifecycleEvidence res → HasDocument res.delivery) : cost proof.value
      ≤ 2 * maxScaleSetDeliveryBytes + 2 * maxDisposableAttemptCatalogDocumentBytes + 4096 := by
  cases proof with
  | acknowledged | acquisitionRecovery => decide
  | lifecycleEvidence res =>
    unfold validateProof at h
    simp only [bind_eq_ok] at h
    obtain ⟨_, -, _, -, _, -, hv⟩ := h
    have hc := res.cost_value_le hv (hcarr res rfl)
    have hi : cost (.obj [("resolution", res.value)]) ≤ _ :=
      cost_obj_le_of_names 24 (by simp only [forall_mem_cons]; decide)
    refine le_trans (cost_obj_le_of_names 24 (by simp only [forall_mem_cons]; decide)) ?_
    simp only [map_cons, map_nil, sum_cons, sum_nil] at hi ⊢
    omega

variable (s : ScaleSetDeliveryRecoveryState)

theorem ScaleSetDeliveryRecoveryState.hasDocument : HasDocument s.delivery := by
  obtain ⟨-, -, -, -, bytes, hb⟩ := validateHeader_eq_ok_iff.mp s.header
  exact ⟨bytes, hb⟩

section

variable (hcarr : CarriedHasDocument s.phase)
include hcarr

/-- **Every phase fits**, when the later message it carries does. -/
theorem ScaleSetDeliveryRecoveryState.cost_phase_le : cost s.phase.value
    ≤ 2 * maxScaleSetDeliveryBytes + 4 * maxDisposableAttemptCatalogDocumentBytes + 8192 := by
  have hval := (guard_bind_eq_ok.mp s.valid).2
  cases hph : s.phase with
  | reconciled | acknowledgementStarted => decide
  | acknowledged acq | acquisitionRecoveryObserved acq =>
    rw [hph] at hval
    refine le_trans (cost_answerJson_le _ (by decide) ?_) (by decide)
    exact length_le_of_validateAcquired (guard_bind_eq_ok.mp hval).2
  | lifecycleReconciled res | lifecycleAcknowledgementStarted res
  | lifecycleAcknowledged res =>
    rw [hph] at hval hcarr
    exact cost_lifecycleJson_le _ (by decide) hval (hcarr res rfl)
  | settlementPrepared proof acq priorCatalog catalogRevision catalogDigest =>
    rw [hph] at hval hcarr
    simp only [bind_eq_ok] at hval
    obtain ⟨_, hacq, _, -, _, -, _, -, _, hprf, -⟩ := hval
    have hc := proof.cost_value_le hprf (by
      rintro res rfl
      exact hcarr res rfl)
    have hcat := cost_catalogText_le priorCatalog
    have hr := cost_requestsJson_le (length_le_of_validateAcquired hacq)
    have hrev := cost_catalogRevision_le catalogRevision
    have hdig := cost_str_digest_le catalogDigest
    have hn : cost (.str "settlement_prepared") ≤ 40 := by decide
    refine le_trans (cost_obj_le_of_names 24 (by simp only [forall_mem_cons]; decide)) ?_
    simp only [map_cons, map_nil, sum_cons, sum_nil]
    omega

/-- **Every state has a document**, when the later message it carries has
one. -/
theorem exists_encodeScaleSetDeliveryRecovery :
    ∃ bytes, encodeScaleSetDeliveryRecovery s = .ok bytes := by
  obtain ⟨hs, hr, -⟩ := validateHeader_eq_ok_iff.mp s.header
  have hph := s.cost_phase_le hcarr
  have hd := cost_deliveryText_le s.hasDocument
  have hv : cost (.num s.schemaVersion) ≤ 1 := by
    rw [hs]
    decide
  have hr : cost (.num s.revision) ≤ 13 :=
    cost_num_le (by decide) (lt_of_le_of_lt hr.2 (by decide))
  have hpr := cost_catalogRevision_le s.priorCatalogRevision
  have hc := cost_catalogRevision_le s.catalogRevision
  have hp := cost_str_digest_le s.priorCatalogDigest
  have hdig := cost_str_digest_le s.catalogDigest
  unfold encodeScaleSetDeliveryRecovery
  rw [s.valid, ok_bind, embedDelivery_eq_ok_iff.mpr ⟨s.hasDocument, rfl⟩, ok_bind,
    ScaleSetDeliveryRecoveryPhase.toJson_eq_ok_iff.mpr ⟨hcarr, rfl⟩, ok_bind]
  refine ⟨_, encodeWithin_eq_ok.mpr ⟨le_trans (cost_obj_le_of_names 24 ?_) ?_, rfl⟩⟩
  · simp only [forall_mem_cons]
    decide
  simp only [map_cons, map_nil, sum_cons, sum_nil]
  unfold maxScaleSetDeliveryRecoveryBytes
  omega

end

end Glaeda
