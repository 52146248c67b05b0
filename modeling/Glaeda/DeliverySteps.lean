import Glaeda.DeliveryResolution

/-!
# The steps of a delivery

Every operation on a recovery state keeps the message and its catalog, adds
one to the revision and moves the phase along one arrow of a small graph –
`PhaseStep` – or changes nothing at all. The store relies on this when it
finds a staged state beside the current one: `exactRecoverySuccessor` runs
the operation that leads to the staged phase again, and compares.

The resolution by a later message is not among these steps, because it moves
the catalog too; it is treated with the message it resolves.
-/

namespace Glaeda

open Checked Except

/-- **The arrows of the phase graph** along which a delivery moves while its
catalog stays. -/
inductive PhaseStep : ScaleSetDeliveryRecoveryPhase → ScaleSetDeliveryRecoveryPhase → Prop
  | started : PhaseStep .reconciled .acknowledgementStarted
  | acknowledged (acquired : List ScaleSetRunnerRequestId) :
    PhaseStep .acknowledgementStarted (.acknowledged acquired)
  | observed (acquired : List ScaleSetRunnerRequestId) :
    PhaseStep .acknowledgementStarted (.acquisitionRecoveryObserved acquired)
  | observedMore (before acquired : List ScaleSetRunnerRequestId) :
    PhaseStep (.acquisitionRecoveryObserved before) (.acquisitionRecoveryObserved acquired)
  | lifecycleStarted (resolution : ScaleSetLifecycleResolution) :
    PhaseStep (.lifecycleReconciled resolution) (.lifecycleAcknowledgementStarted resolution)
  | lifecycleAcknowledged (resolution : ScaleSetLifecycleResolution) :
    PhaseStep (.lifecycleAcknowledgementStarted resolution) (.lifecycleAcknowledged resolution)
  | prepared {phase : ScaleSetDeliveryRecoveryPhase} (proof : ScaleSetDeliverySettlementProof)
      (acquired : List ScaleSetRunnerRequestId) (prior : DisposableAttemptCatalogDocument)
      (revision : DisposableAttemptCatalogRevision) (digest : Sha256Digest)
      (conclusive : phase ≠ .reconciled) :
    PhaseStep phase (.settlementPrepared proof acquired prior revision digest)

namespace ScaleSetDeliveryRecoveryState

variable {s n : ScaleSetDeliveryRecoveryState} {phase : ScaleSetDeliveryRecoveryPhase}
variable {acquired : List ScaleSetRunnerRequestId}

/-- **The next revision of the same delivery over the same catalog.** -/
def Follows (s n : ScaleSetDeliveryRecoveryState) : Prop :=
  n.toRecoveryRecord = { s.toRecoveryRecord with revision := s.revision + 1, phase := n.phase }

theorem Follows.revision (h : s.Follows n) : n.revision = s.revision + 1 := by rw [h]

theorem Follows.delivery (h : s.Follows n) : n.delivery = s.delivery := by rw [h]

theorem Follows.matchesCatalog (h : s.Follows n) (c : DisposableAttemptCatalogDocument) :
    n.matchesCatalog c = s.matchesCatalog c := by rw [h]; rfl

theorem Follows.ne (h : s.Follows n) : n ≠ s := by
  rintro rfl
  exact Nat.succ_ne_self _ h.revision.symm

/-- **A step keeps everything but the revision and the phase.** -/
theorem successor_eq_ok (h : s.successor phase = .ok n) : s.Follows n ∧ n.phase = phase := by
  unfold successor nextRevision at h
  simp only [bind_eq_ok, okOr_eq_ok, Option.filter_eq_some_iff, checkedAdd_eq_some,
    accept_eq_ok] at h
  obtain ⟨revision, ⟨⟨-, rfl⟩, -⟩, h⟩ := h
  have hph : n.phase = phase := by rw [h]
  exact ⟨by rw [Follows, hph, h], hph⟩

/-- **What an operation makes of a state**: nothing, or the next state along
an arrow of the phase graph. -/
def Steps (s n : ScaleSetDeliveryRecoveryState) : Prop :=
  n = s ∨ (s.Follows n ∧ PhaseStep s.phase n.phase)

theorem steps_of_successor (h : s.successor phase = .ok n) (hs : PhaseStep s.phase phase) :
    s.Steps n := by
  obtain ⟨hf, hph⟩ := successor_eq_ok h
  exact .inr ⟨hf, hph ▸ hs⟩

theorem steps_of_beginAck (h : s.beginAck = .ok n) : s.Steps n := by
  unfold beginAck at h
  split at h
  · rename_i hph
    exact steps_of_successor h (hph ▸ .started)
  · exact .inl (ok.inj h).symm
  · cases h

theorem steps_of_recordAckResponse (h : s.recordAckResponse acquired = .ok n) : s.Steps n := by
  unfold recordAckResponse at h
  rw [bind_eq_ok] at h
  obtain ⟨ordered, -, h⟩ := h
  split at h
  · rename_i hph
    exact steps_of_successor h (hph ▸ .acknowledged ordered)
  · split at h
    · exact .inl (ok.inj h).symm
    · cases h
  · cases h

theorem steps_of_recordRecoveryAcquire (h : s.recordRecoveryAcquire acquired = .ok n) :
    s.Steps n := by
  unfold recordRecoveryAcquire at h
  simp only [bind_eq_ok] at h
  obtain ⟨observed, ho, _, -, h⟩ := h
  split at h
  · exact .inl (ok.inj h).symm
  · refine steps_of_successor h ?_
    -- the answer is recorded before or after another answer
    unfold observedAcquired at ho
    split at ho
    · rename_i hph
      exact hph ▸ .observed _
    · rename_i hph
      exact hph ▸ .observedMore _ _
    · cases ho

theorem steps_of_beginLifecycleAck (h : s.beginLifecycleAck = .ok n) : s.Steps n := by
  unfold beginLifecycleAck at h
  split at h
  · rename_i hph
    exact steps_of_successor h (hph ▸ .lifecycleStarted _)
  · exact .inl (ok.inj h).symm
  · cases h

theorem steps_of_recordLifecycleAck (h : s.recordLifecycleAck = .ok n) : s.Steps n := by
  unfold recordLifecycleAck at h
  split at h
  · rename_i hph
    exact steps_of_successor h (hph ▸ .lifecycleAcknowledged _)
  · exact .inl (ok.inj h).symm
  · cases h

theorem steps_of_prepareSettlementBinding {prior : DisposableAttemptCatalogDocument}
    {revision : DisposableAttemptCatalogRevision} {digest : Sha256Digest}
    (h : s.prepareSettlementBinding prior revision digest = .ok n) : s.Steps n := by
  unfold prepareSettlementBinding at h
  rw [bind_eq_ok] at h
  obtain ⟨⟨proof, acquired⟩, he, h⟩ := h
  refine steps_of_successor h (.prepared _ _ _ _ _ ?_)
  intro hph
  unfold settlementEvidence at he
  rw [hph] at he
  cases he

/-! ## Recognizing a step -/

/-- **A staged state is one step after the current one**: the operation that
leads to its phase makes exactly this state of the current one. -/
def exactRecoverySuccessor (current candidate : ScaleSetDeliveryRecoveryState) : Bool :=
  candidate.revision = min (current.revision + 1) (u64Size - 1)
    && candidate.catalogRevision = current.catalogRevision
    && candidate.delivery = current.delivery
    && match candidate.phase with
      | .acknowledgementStarted => okIs current.beginAck candidate
      | .acknowledged acquired => okIs (current.recordAckResponse acquired) candidate
      | .acquisitionRecoveryObserved acquired =>
        okIs (current.recordRecoveryAcquire acquired) candidate
      | .lifecycleAcknowledgementStarted _ => okIs current.beginLifecycleAck candidate
      | .lifecycleAcknowledged _ => okIs current.recordLifecycleAck candidate
      | .settlementPrepared _ _ priorCatalog catalogRevision catalogDigest =>
        okIs (current.prepareSettlementBinding priorCatalog catalogRevision catalogDigest)
          candidate
      | .reconciled | .lifecycleReconciled _ => false

theorem revision_le (s : ScaleSetDeliveryRecoveryState) :
    s.revision ≤ maxDeliveryRecoveryRevision :=
  (RecoveryRecord.validateHeader_eq_ok_iff.mp s.header).2.1.2

/-- **What is recognized is a step.** -/
theorem follows_of_exactRecoverySuccessor (h : exactRecoverySuccessor s n = true) :
    s.Follows n ∧ PhaseStep s.phase n.phase := by
  unfold exactRecoverySuccessor at h
  simp only [Bool.and_eq_true, decide_eq_true_eq] at h
  obtain ⟨⟨⟨hr, -⟩, -⟩, h⟩ := h
  have hs : s.Steps n := by
    split at h
    · exact steps_of_beginAck (okIs_eq_true.mp h)
    · exact steps_of_recordAckResponse (okIs_eq_true.mp h)
    · exact steps_of_recordRecoveryAcquire (okIs_eq_true.mp h)
    · exact steps_of_beginLifecycleAck (okIs_eq_true.mp h)
    · exact steps_of_recordLifecycleAck (okIs_eq_true.mp h)
    · exact steps_of_prepareSettlementBinding (okIs_eq_true.mp h)
    · cases h
    · cases h
  refine hs.resolve_left ?_
  rintro rfl
  have hbd := n.revision_le
  simp only [maxDeliveryRecoveryRevision, u64Size] at hbd hr
  omega

/-- **Only a freshly reconciled state has the first revision.** -/
theorem revision_of_reconciled (h : s.phase = .reconciled) : s.revision = 1 := by
  have hv := (guard_bind_eq_ok.mp s.valid).2
  rw [h] at hv
  exact not_not.mp (refuseIf_eq_ok.mp hv)

end ScaleSetDeliveryRecoveryState

end Glaeda
