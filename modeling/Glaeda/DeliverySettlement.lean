import Glaeda.DeliverySteps

/-!
# Settling a delivery

Once it is known which requests of a message were acquired, the catalog is
settled: an acquired request keeps its attempt, and a request that was only
available gives its reservation back, unless later evidence says that the
attempt is in use after all.

Settling is **derived, never stored**: the prepared state carries the catalog
before the settlement and a binding of the one after it, so that a recovery
can derive the settled catalog again. What makes this work is that the
prepared state settles exactly as the state it was prepared from, and that a
settled catalog – unless it is the catalog it started from – no longer matches
the prepared state, so it cannot be settled a second time.
-/

namespace Glaeda

open Checked Except

/-- A refusal, by its code. -/
structure ScaleSetDeliverySettlementError where
  code : String
deriving DecidableEq, Repr

/-- The attempt does not go with the answer. -/
def settlementAttemptConflict : ScaleSetDeliverySettlementError :=
  ⟨"scale_set_settlement_attempt_conflict"⟩

/-- There is no attempt for the answer. -/
def settlementAttemptMissing : ScaleSetDeliverySettlementError :=
  ⟨"scale_set_settlement_attempt_missing"⟩

/-- The catalog is another one. -/
def settlementCatalogDrift : ScaleSetDeliverySettlementError :=
  ⟨"scale_set_settlement_catalog_drift"⟩

variable (recovery : ScaleSetDeliveryRecoveryState)

/-- What the phase says was acquired. -/
def settlementEvidenceOf : Except ScaleSetDeliverySettlementError (List ScaleSetRunnerRequestId) :=
  let incomplete := ⟨"scale_set_settlement_evidence_incomplete"⟩
  match recovery.phase with
  | .acknowledged acquired => .ok acquired
  | .acquisitionRecoveryObserved acquired =>
    if acquired.isEmpty then .error incomplete else .ok acquired
  | .lifecycleAcknowledged resolution => .ok resolution.acquired
  | .settlementPrepared _ acquired _ _ _ => .ok acquired
  | _ => .error incomplete

/-- **Settle one request.** -/
def settleRequest (acquired : List ScaleSetRunnerRequestId)
    (next : DisposableAttemptCatalogDocument) (requestId : ScaleSetRunnerRequestId) :
    Except ScaleSetDeliverySettlementError DisposableAttemptCatalogDocument :=
  if requestId ∈ acquired then do
    refuseIf (next.findActiveByRunnerRequestId requestId = none
      ∧ next.findTombstoneByRunnerRequestId requestId = none) settlementAttemptMissing
    return next
  else
    match next.findActiveByRunnerRequestId requestId with
    | none => do
      refuseIf (next.findTombstoneByRunnerRequestId requestId = none) settlementAttemptMissing
      return next
    | some reservation =>
      if reservation.attempt.phase ≠ .reserved then do
        -- later evidence wins over an answer that did not name the request
        refuseIf (¬ (reservation.attempt.githubJobId.isSome
          ∨ reservation.attempt.phase = .complete)) settlementAttemptConflict
        return next
      else
        next.releaseUnprovisioned (fun c => c.findActiveByRunnerRequestId requestId)
          settlementAttemptConflict settlementAttemptMissing reservation

/-- **The catalog after the settlement.** -/
def settleScaleSetDeliveryCatalog (catalog : DisposableAttemptCatalogDocument) :
    Except ScaleSetDeliverySettlementError DisposableAttemptCatalogDocument := do
  refuseIf (¬ recovery.matchesCatalog catalog) settlementCatalogDrift
  let acquired ← settlementEvidenceOf recovery
  let available ← recovery.delivery.availableRequestIds.mapError
    (fun _ => ⟨"scale_set_settlement_delivery_invalid"⟩)
  available.foldlM (settleRequest acquired) catalog

section Settle

variable {s p : ScaleSetDeliveryRecoveryState} {c target : DisposableAttemptCatalogDocument}
variable {acquired : List ScaleSetRunnerRequestId} {id : ScaleSetRunnerRequestId}

open DisposableAttemptCatalogDocument ScaleSetDeliveryRecoveryState

theorem evolves_of_settleRequest {n : DisposableAttemptCatalogDocument}
    (h : settleRequest acquired c id = .ok n) : c.Evolves n := by
  unfold settleRequest at h
  split at h
  · rw [guard_bind_eq_ok] at h
    exact .inl (ok.inj h.2).symm
  · split at h
    · rw [guard_bind_eq_ok] at h
      exact .inl (ok.inj h.2).symm
    · split at h
      · rw [guard_bind_eq_ok] at h
        exact .inl (ok.inj h.2).symm
      · exact evolves_of_releaseUnprovisioned h

/-- **Settling lets the catalog evolve**: it is left as it is, or its
revision grows. -/
theorem evolves_of_settle (h : settleScaleSetDeliveryCatalog s c = .ok target) :
    c.Evolves target := by
  unfold settleScaleSetDeliveryCatalog at h
  simp only [bind_eq_ok] at h
  obtain ⟨_, -, acquired, -, available, -, hf⟩ := h
  exact foldlM_invariant
    (fun a id b _ ha hb => ha.trans (evolves_of_settleRequest hb)) (.refl c) hf

/-! ## The prepared state -/

/-- **What a prepared settlement is.** -/
theorem prepareSettlement_eq_ok (h : s.prepareSettlement c target = .ok p) :
    s.matchesCatalog c = true ∧ s.Follows p
      ∧ ∃ proof acquired digest, s.settlementEvidence = .ok (proof, acquired)
        ∧ catalogDigest target = .ok digest
        ∧ p.phase = .settlementPrepared proof acquired c target.revision digest := by
  unfold prepareSettlement prepareSettlementBinding at h
  simp only [bind_eq_ok, refuseIf_eq_ok, not_not] at h
  obtain ⟨_, hm, digest, hd, ⟨proof, acquired⟩, he, h⟩ := h
  obtain ⟨hf, hph⟩ := successor_eq_ok h
  exact ⟨hm, hf, proof, acquired, digest, he, hd, hph⟩

theorem settlementEvidenceOf_of_settlementEvidence {proof : ScaleSetDeliverySettlementProof}
    (h : s.settlementEvidence = .ok (proof, acquired)) :
    settlementEvidenceOf s = .ok acquired := by
  unfold settlementEvidence at h
  unfold settlementEvidenceOf
  cases hph : s.phase with
  | acknowledged a | lifecycleAcknowledged resolution =>
    rw [hph] at h
    exact congrArg ok (Prod.mk.inj (ok.inj h)).2
  | acquisitionRecoveryObserved a =>
    rw [hph] at h
    dsimp only at h ⊢
    split at h
    · cases h
    · rename_i hn
      rw [if_neg hn]
      exact congrArg ok (Prod.mk.inj (ok.inj h)).2
  | _ =>
    rw [hph] at h
    cases h

/-- **The prepared state settles as the state it was prepared from.** -/
theorem settle_prepared (h : s.prepareSettlement c target = .ok p)
    (catalog : DisposableAttemptCatalogDocument) :
    settleScaleSetDeliveryCatalog p catalog = settleScaleSetDeliveryCatalog s catalog := by
  obtain ⟨-, hf, proof, acquired, digest, he, -, hph⟩ := prepareSettlement_eq_ok h
  have hp : settlementEvidenceOf p = .ok acquired := by
    unfold settlementEvidenceOf
    rw [hph]
  unfold settleScaleSetDeliveryCatalog
  rw [hf.matchesCatalog, hf.delivery, hp, settlementEvidenceOf_of_settlementEvidence he]

/-- **A settled catalog is not settled again**: unless the settlement changes
nothing, the prepared state refuses it. -/
theorem settle_prepared_target (hs : settleScaleSetDeliveryCatalog s c = .ok target)
    (h : s.prepareSettlement c target = .ok p) (hne : target ≠ c) :
    settleScaleSetDeliveryCatalog p target = .error settlementCatalogDrift := by
  obtain ⟨hm, hf, -⟩ := prepareSettlement_eq_ok h
  have hd : ¬ p.matchesCatalog target = true := by
    rw [hf.matchesCatalog]
    intro hm'
    have hr := (bindsCatalog_iff.mp hm).1
    have hr' := (bindsCatalog_iff.mp hm').1
    exact hne ((evolves_of_settle hs).eq_of_revision_eq (hr'.symm.trans hr))
  unfold settleScaleSetDeliveryCatalog
  rw [refuseIf_eq_error.mpr ⟨hd, rfl⟩, error_bind]

end Settle

end Glaeda
