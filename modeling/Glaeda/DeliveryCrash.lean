import Glaeda.StoreRecovery

/-!
# Crashes in the life of one delivery

Between its publication and its settlement a delivery is published again and
again over itself: one phase after the other, with the catalog left alone.
Such a step stages the next state and renames it over the current one, so a
crash leaves the staged state beside the current one – or no trace at all.

The recovery that finds a staged delivery beside a current one first asks
whether the staged one *resolves* the current one, and asks it with the
catalog of the resolution. A staged state that has no resolution is refused
right there, although the check that would recognize it stands a few lines
below. So the store can be reopened after a crash in **a step of a resolved
delivery**, and cannot after a crash that leaves the stage of any other step
(`reopen_successor_iff`).

The settlement is the last step. It is prepared, both documents are published
and the delivery is removed; the recovery derives the settled catalog again
where it has to.
-/

namespace Glaeda

open Checked Transaction List StoreFiles Except Tx RecoveryRecord

namespace ScaleSetDeliveryRecoveryState

variable {s n : ScaleSetDeliveryRecoveryState}

theorem not_prepared_of_phaseStep {p q : ScaleSetDeliveryRecoveryPhase} (h : PhaseStep p q)
    (hq : q.isSettlementPrepared = false) : p.isSettlementPrepared = false := by
  cases h with
  | prepared => cases hq
  | _ => rfl

theorem not_prepared_of_settlementEvidence {proof : ScaleSetDeliverySettlementProof}
    {acquired : List ScaleSetRunnerRequestId}
    (h : s.settlementEvidence = .ok (proof, acquired)) : s.phase.isSettlementPrepared = false := by
  unfold settlementEvidence at h
  cases hph : s.phase with
  | settlementPrepared => rw [hph] at h; cases h
  | _ => rfl

theorem revision_of_lifecycleResolution {resolution : ScaleSetLifecycleResolution}
    (h : n.lifecycleResolution = some resolution) :
    ∃ expected, expectedRevision n.phase = some expected
      ∧ n.revision = resolution.baseRevision + expected := by
  have hv : resolution.validate n.toRecoveryRecord = .ok () := by
    have hv := n.valid
    unfold validate at hv
    rw [guard_bind_eq_ok] at hv
    unfold lifecycleResolution at h
    split at h
    all_goals first
      | (rename_i hph
         rw [hph] at hv
         obtain rfl := Option.some.inj h
         exact hv.2)
      | cases h
  obtain ⟨expected, _, _, _, _, hd⟩ :=
    ScaleSetLifecycleResolution.validate_eq_ok_iff.mp hv
  refine ⟨expected, hd.expected_eq, ?_⟩
  rw [hd.baseRevision]
  exact hd.revision

/-- **A step of a resolved delivery does not look like the resolution.** -/
theorem not_isLifecycleResolutionOf {c : DisposableAttemptCatalogDocument}
    (h : exactRecoverySuccessor s n = true) : n.isLifecycleResolutionOf s c = false := by
  obtain ⟨hf, hs⟩ := follows_of_exactRecoverySuccessor h
  unfold isLifecycleResolutionOf
  cases hr : n.lifecycleResolution with
  | none => rfl
  | some resolution =>
    obtain ⟨expected, he, hrev⟩ := revision_of_lifecycleResolution hr
    have ht : 2 ≤ expected := by
      cases hph : n.phase with
      | lifecycleReconciled r =>
        rw [hph] at hs
        generalize s.phase = before at hs
        cases hs
      | lifecycleAcknowledgementStarted r | lifecycleAcknowledged r =>
        rw [hph] at he
        cases he
        decide
      | _ =>
        rw [hph] at he
        cases he
    have hne : ¬ resolution.baseRevision = s.revision := by
      rw [hf.revision] at hrev
      omega
    simp [hne]

end ScaleSetDeliveryRecoveryState

open ScaleSetDeliveryRecoveryState

/-! ## Reopening beside a delivery -/

section Successor

variable {files t : StoreFiles} {c : DisposableAttemptCatalogDocument}
variable {s n : ScaleSetDeliveryRecoveryState}

section Unprepared

variable (hdel : ∀ state, files.delivery = some state → state.phase.isSettlementPrepared = false)
    (hstg : ∀ state, files.stagedDelivery = some state → state.phase.isSettlementPrepared = false)
include hdel hstg

theorem run_recoverSettlement_absent :
    recoverScaleSetSettlementLocked.run files = ([], .ok none) := by
  have ha : settlementIsPresent files = false := by
    unfold settlementIsPresent
    rw [Bool.or_eq_false_iff, Option.any_eq_false, Option.any_eq_false]
    exact ⟨fun state h => by simp [hdel state h], fun state h => by simp [hstg state h]⟩
  unfold recoverScaleSetSettlementLocked
  rw [run_read_bind, ha]
  rfl

theorem run_open_unprepared :
    openOrCreateScaleSetDeliveryController.run files
      = recoverScaleSetReconcileTransactionLocked.run files := by
  unfold openOrCreateScaleSetDeliveryController
  rw [run_bind_of_quiet (run_recoverSettlement_absent hdel hstg)]

end Unprepared

section Unsettled

variable (hcln : files.Clean) (hcat : files.catalog = some c)
    (hdel : files.delivery = some s) (hmat : s.matchesCatalog c = true)
    (hown : s.phase.isSettlementPrepared = false)
include hcln hcat hdel hmat hown

theorem run_recover_before_settlement :
    recoverScaleSetSettlementLocked.run files = ([], .ok none)
      ∧ recoverScaleSetReconcileTransactionLocked.run files = ([], .ok ()) := by
  refine ⟨run_recoverSettlement_absent (fun state hst => ?_) (fun state hst => ?_),
    run_recover_matching hcln hcat hdel hmat⟩
  · rw [hdel] at hst
    cases hst
    exact hown
  · rw [hcln.stagedDelivery] at hst
    cases hst

theorem run_open_clean : openOrCreateScaleSetDeliveryController.run files = ([], .ok ()) := by
  obtain ⟨ha, hq⟩ := run_recover_before_settlement hcln hcat hdel hmat hown
  unfold openOrCreateScaleSetDeliveryController
  rw [run_bind_of_quiet ha, hq]

theorem completes_open_clean : Tx.Completes openOrCreateScaleSetDeliveryController files files :=
  Tx.Completes.of_run (run_open_clean hcln hcat hdel hmat hown)

end Unsettled

theorem run_publishSuccessor (hstg : files.stagedDelivery = none) :
    (∃ e, (publishScaleSetDeliverySuccessorLocked s n).run files = ([], .error e))
      ∨ (publishScaleSetDeliverySuccessorLocked s n).run files
        = ([.stageDelivery n, .publishDelivery], .ok ()) := by
  unfold publishScaleSetDeliverySuccessorLocked
  by_cases h : s.exactRecoverySuccessor n = true
  · rw [refuseIf_not h, run_check_ok_bind]
    obtain ⟨e, hs⟩ | hs := run_stageScaleSetDelivery n hstg
    · exact .inl ⟨e, run_bind_of_error hs⟩
    · have hp : (publishDelivery false).run (files.deliveryStaged n)
          = ([.publishDelivery], .ok ()) := run_publishDelivery rfl replaces
      exact .inr (run_then hs rfl (run_onFailure_of_ok hp))
  · rw [refuseIf_of h]
    exact .inl ⟨_, run_check_error_bind⟩

/-- **A staged state without a resolution is refused.** -/
theorem run_recoverBeside_unresolved (hcat : files.catalog = some c)
    (hstg : files.stagedDelivery = some n) (hr : n.lifecycleResolution = none) :
    (recoverBesideDelivery files s).run files = ([], .error corruptState) := by
  unfold recoverBesideDelivery
  rw [hcat, hstg, run_some_bind]
  dsimp only
  rw [hr]
  exact run_check_error_bind

/-- **A staged step of a delivery is published** by the recovery of the
delivery alone. -/
theorem run_recoverScaleSetDelivery (hdel : files.delivery = some s)
    (hstg : files.stagedDelivery = some n)
    (hs : s.exactRecoverySuccessor n = true) :
    recoverScaleSetDeliveryLocked.run files = ([.publishDelivery], .ok ()) := by
  have hne : n ≠ s :=
    (follows_of_exactRecoverySuccessor hs).1.ne
  have hp : scaleSetDeliveryRecoveryPlan files = .ok (.publishStaged false) := by
    unfold scaleSetDeliveryRecoveryPlan
    rw [hstg, hdel]
    dsimp only
    rw [if_neg hne, if_pos hs]
  unfold recoverScaleSetDeliveryLocked
  rw [run_read_bind, hp, run_check_ok_bind, hstg, run_some_bind,
    run_bind_of_quiet (run_synchronizeDelivery hstg)]
  exact run_publishDelivery hstg replaces

/-- **A staged step of a resolved delivery is published.** -/
theorem run_recoverBeside_resolved {resolution : ScaleSetLifecycleResolution}
    (hcat : files.catalog = some c) (hst : files.stagedCatalog = none)
    (hdel : files.delivery = some s) (hstg : files.stagedDelivery = some n)
    (hmat : s.matchesCatalog c = true)
    (hs : s.exactRecoverySuccessor n = true)
    (hr : n.lifecycleResolution = some resolution) :
    (recoverBesideDelivery files s).run files = ([.publishDelivery], .ok ()) := by
  unfold recoverBesideDelivery
  rw [hcat, hstg, run_some_bind]
  dsimp only
  rw [hr, run_some_bind, if_neg (by simp [not_isLifecycleResolutionOf hs])]
  unfold recoverOwnSuccessor
  rw [refuseIf_not hmat, run_check_ok_bind, hst, run_refuseIf_bind (by simp), hstg]
  exact run_recoverScaleSetDelivery hdel hstg hs

/-- **When a store can be reopened after a crash in a step of its delivery.**
It can exactly if the crash did not leave the staged state, or the state
carries a resolution; what is current then is the old state or the new
one. -/
theorem reopen_successor_iff (hcln : files.Clean) (hcat : files.catalog = some c)
    (hdel : files.delivery = some s) (hmat : s.matchesCatalog c = true)
    (hs : s.exactRecoverySuccessor n = true)
    (hown : n.phase.isSettlementPrepared = false)
    (h : Tx.Crash (publishScaleSetDeliverySuccessorLocked s n) files t) :
    (∃ u, Tx.Completes openOrCreateScaleSetDeliveryController t u
        ∧ (u = files ∨ u = { files with delivery := some n }))
      ↔ t.stagedDelivery = none ∨ n.lifecycleResolution.isSome = true := by
  obtain ⟨hfol, hst⟩ :=
    follows_of_exactRecoverySuccessor hs
  have hp := not_prepared_of_phaseStep hst hown
  have hold := completes_open_clean hcln hcat hdel hmat hp
  obtain ⟨catalog, stagedCatalog, delivery, stagedDelivery, neighbors⟩ := files
  obtain ⟨rfl, rfl, hnbr⟩ := hcln
  obtain rfl := hcat
  obtain rfl := hdel
  obtain ⟨e, hrun⟩ | hrun := @run_publishSuccessor ⟨some c, none, some s, none, neighbors⟩
    s n rfl
  · obtain rfl := h.of_quiet hrun
    exact ⟨fun _ => .inl rfl, fun _ => ⟨_, hold, .inl rfl⟩⟩
  rw [crash_iff (congrArg Prod.fst hrun)] at h
  simp only [worlds, apply, mem_cons, not_mem_nil, or_false] at h
  rcases h with rfl | rfl | rfl
  · exact ⟨fun _ => .inl rfl, fun _ => ⟨_, hold, .inl rfl⟩⟩
  · have ho {result : List StoreEffect × Except PersonalWorkerStoreError Unit}
        (hrun : (recoverBesideDelivery ⟨some c, none, some s, some n, neighbors⟩ s).run
          ⟨some c, none, some s, some n, neighbors⟩ = result) :
        openOrCreateScaleSetDeliveryController.run ⟨some c, none, some s, some n, neighbors⟩
          = result := by
      rw [run_open_unprepared]
      · exact Eq.trans (run_recover_beside hnbr rfl) hrun
      · rintro _ ⟨⟩
        exact hp
      · rintro _ ⟨⟩
        exact hown
    cases hr : n.lifecycleResolution with
    | none =>
      refine ⟨?_, ?_⟩
      · rintro ⟨u, ⟨a, hok, -⟩, -⟩
        rw [ho (run_recoverBeside_unresolved rfl rfl hr)] at hok
        cases hok
      · rintro (hstg | hstg)
        · cases hstg
        · cases hstg
    | some resolution =>
      refine ⟨fun _ => .inr rfl, fun _ => ⟨_, ?_, .inr rfl⟩⟩
      exact Tx.Completes.of_run (ho (run_recoverBeside_resolved rfl rfl rfl rfl hmat
        hs hr))
  · refine ⟨fun _ => .inl rfl, fun _ => ⟨_, ?_, .inr rfl⟩⟩
    exact completes_open_clean ⟨rfl, rfl, hnbr⟩ rfl rfl
      ((hfol.matchesCatalog c).trans hmat) hown

end Successor

/-! ## Settlement -/

namespace StoreFiles

variable (files : StoreFiles) (p : ScaleSetDeliveryRecoveryState)
variable (target : DisposableAttemptCatalogDocument)

/-- The settlement is prepared. -/
def prepared : StoreFiles := { files with delivery := some p }

/-- The settlement is prepared, its catalog staged. -/
def preparedStaged : StoreFiles :=
  { files with delivery := some p, stagedCatalog := some target }

/-- The settlement is done. -/
def settled : StoreFiles := { files with delivery := none, catalog := some target }

end StoreFiles

section Settlement

variable {files t w : StoreFiles} {c target : DisposableAttemptCatalogDocument}
variable {s p : ScaleSetDeliveryRecoveryState}


/-- **A settlement that was prepared**: the catalog after it is known, and the
state says so. -/
structure Prepares (s : ScaleSetDeliveryRecoveryState) (c target : DisposableAttemptCatalogDocument)
    (p : ScaleSetDeliveryRecoveryState) : Prop where
  settle : settleScaleSetDeliveryCatalog s c = .ok target
  prepare : s.prepareSettlement c target = .ok p

namespace Prepares

section

variable (h : Prepares s c target p)
include h

theorem isPrepared : p.phase.isSettlementPrepared = true := by
  obtain ⟨-, -, proof, acquired, digest, -, -, hph⟩ := prepareSettlement_eq_ok h.prepare
  rw [hph]
  rfl

theorem matchesCatalog : p.matchesCatalog c = true := by
  obtain ⟨hmat, hf, -⟩ := prepareSettlement_eq_ok h.prepare
  rw [hf.matchesCatalog, hmat]

theorem matchesSettlementCatalog : p.matchesSettlementCatalog target = true := by
  obtain ⟨-, -, proof, acquired, digest, -, hd, hph⟩ := prepareSettlement_eq_ok h.prepare
  unfold ScaleSetDeliveryRecoveryState.matchesSettlementCatalog
  rw [hph]
  exact bindsCatalog_iff.mpr ⟨rfl, hd⟩

/-- The catalog after the settlement is not the one before it, unless nothing
changed. -/
theorem not_matchesCatalog_target (hne : target ≠ c) : ¬ p.matchesCatalog target = true :=
  fun hmat => hne (eq_of_bindsCatalog h.matchesCatalog hmat (evolves_of_settle h.settle))

theorem settlementPriorCatalog : p.settlementPriorCatalog = some c := by
  obtain ⟨-, -, proof, acquired, digest, -, -, hph⟩ := prepareSettlement_eq_ok h.prepare
  unfold ScaleSetDeliveryRecoveryState.settlementPriorCatalog
  rw [hph]

theorem exists_settlementAcquired : ∃ acquired, p.settlementAcquired = some acquired := by
  obtain ⟨-, -, proof, acquired, digest, -, -, hph⟩ := prepareSettlement_eq_ok h.prepare
  unfold settlementAcquired
  rw [hph]
  exact ⟨acquired, rfl⟩

theorem settle_prepared : settleScaleSetDeliveryCatalog p c = .ok target := by
  rw [Glaeda.settle_prepared h.prepare, h.settle]

/-- **The recovery recognizes the prepared state.** -/
theorem exactRecoverySuccessor : s.exactRecoverySuccessor p = true := by
  obtain ⟨-, hf, proof, acquired, digest, -, hd, hph⟩ :=
    prepareSettlement_eq_ok h.prepare
  have hb : s.prepareSettlementBinding c target.revision digest = .ok p := by
    have hp := h.prepare
    unfold prepareSettlement at hp
    rw [guard_bind_eq_ok, hd, ok_bind] at hp
    exact hp.2
  have hr : p.revision = min (s.revision + 1) (u64Size - 1) := by
    have hbd := p.revision_le
    rw [hf.revision] at hbd ⊢
    unfold maxDeliveryRecoveryRevision at hbd
    unfold u64Size
    omega
  unfold ScaleSetDeliveryRecoveryState.exactRecoverySuccessor
  rw [hph]
  simp only [Bool.and_eq_true, decide_eq_true_eq, okIs_eq_true]
  exact ⟨⟨⟨hr, by rw [hf]⟩, hf.delivery⟩, hb⟩

end

end Prepares

section

variable (h : Prepares s c target p)
include h

theorem run_removeSettledDelivery (hdel : w.delivery = some p) :
    (removeSettledDelivery p).run w = ([.removeDelivery], .ok ()) := by
  unfold removeSettledDelivery
  rw [run_read_bind, hdel, run_some_bind, run_refuseIf_bind (by simp [h.isPrepared]), run_perform]

theorem run_finishRecoveredSettlement (hdel : w.delivery = some p) :
    ∃ set, (finishRecoveredSettlement p target).run w
      = ([.removeDelivery], .ok (some set)) := by
  obtain ⟨acquired, ha⟩ := h.exists_settlementAcquired
  unfold finishRecoveredSettlement
  rw [ha, run_some_bind]
  exact ⟨_, run_then (run_removeSettledDelivery h hdel) rfl run_pure⟩

variable {effects : List StoreEffect}

theorem run_recoverSettlementForward (hstg : (target ≠ c ∧ w.stagedCatalog = none
      ∧ effects = [.stageCatalog target, .publishCatalog])
      ∨ (target ≠ c ∧ w.stagedCatalog = some target ∧ effects = [.publishCatalog])
      ∨ (target = c ∧ w.stagedCatalog = none ∧ effects = [])) :
    (recoverSettlementForward p c w.stagedCatalog).run w = (effects, .ok target) := by
  unfold recoverSettlementForward
  rw [h.settle_prepared, mapError_ok, run_check_ok_bind, refuseIf_not h.matchesSettlementCatalog,
    run_check_ok_bind]
  obtain ⟨hne, hn, rfl⟩ | ⟨hne, hs, rfl⟩ | ⟨heq, hn, rfl⟩ := hstg
  · rw [if_pos hne, hn]
    have hp : (publishCatalog false).run (w.apply (.stageCatalog target))
        = ([.publishCatalog], .ok ()) := run_publishCatalog rfl replaces
    exact run_then (run_mapError_of_ok (run_stageCatalog hn)) rfl
      (run_then (run_onFailure_of_ok hp) rfl run_pure)
  · rw [if_pos hne, hs]
    have hsy : ((synchronizeExistingCatalogStage target).mapError
        mapSettlementCatalogError).run w = ([], .ok ()) :=
      run_mapError_of_ok (run_synchronizeCatalog hs)
    dsimp only
    rw [refuseIf_not rfl, run_check_ok_bind, run_bind_of_quiet hsy]
    exact run_then (run_publishCatalog hs replaces) rfl run_pure
  · rw [if_neg (not_not.mpr heq), hn]
    rfl

theorem run_recoverPrepared_forward (hdel : w.delivery = some p) (hcat : w.catalog = some c)
    (hfwd : (recoverSettlementForward p c w.stagedCatalog).run w = (effects, .ok target))
    (hk : (replay StoreFiles.apply w effects).delivery = some p) :
    ∃ set, recoverPreparedSettlement.run w = (effects ++ [.removeDelivery], .ok set) := by
  obtain ⟨set, hf⟩ := run_finishRecoveredSettlement h hk
  refine ⟨some set, ?_⟩
  unfold recoverPreparedSettlement
  rw [run_read_bind, hdel, hcat, run_some_bind, refuseIf_not h.isPrepared,
    run_check_ok_bind, run_some_bind, if_pos h.matchesCatalog]
  exact run_then hfwd rfl hf

theorem run_recoverPrepared_done (hne : target ≠ c) (hdel : w.delivery = some p)
    (hcat : w.catalog = some target) (hstg : w.stagedCatalog = none) :
    ∃ set, recoverPreparedSettlement.run w = ([.removeDelivery], .ok set) := by
  obtain ⟨set, hf⟩ := run_finishRecoveredSettlement h hdel
  refine ⟨some set, ?_⟩
  have hd : (recoverSettlementDone p target w.stagedCatalog).run w = ([], .ok target) := by
    unfold recoverSettlementDone
    rw [h.settlementPriorCatalog, run_some_bind, h.settle_prepared, mapError_ok, run_check_ok_bind,
      run_refuseIf_bind (by simp [h.matchesSettlementCatalog]), hstg]
    rfl
  unfold recoverPreparedSettlement
  rw [run_read_bind, hdel, hcat, run_some_bind, refuseIf_not h.isPrepared,
    run_check_ok_bind, run_some_bind, if_neg (h.not_matchesCatalog_target hne),
    if_pos h.matchesSettlementCatalog]
  exact run_then hd rfl hf

theorem run_recoverSettlement_current (hn : w.neighbors.Settled)
    (hdel : w.delivery = some p) (hstg : w.stagedDelivery = none) :
    recoverScaleSetSettlementLocked.run w = recoverPreparedSettlement.run w := by
  have hp : settlementIsPresent w = true := by
    unfold settlementIsPresent
    rw [hdel]
    simp [h.isPrepared]
  unfold recoverScaleSetSettlementLocked
  rw [run_read_bind, if_pos hp, hn.refuse, run_check_ok_bind, hstg]
  rfl

/-- Where it is staged beside the state it was prepared from, it is published
first. -/
theorem run_recoverSettlement_staged (hn : w.neighbors.Settled)
    (hdel : w.delivery = some s) (hstg : w.stagedDelivery = some p)
    {set : Option ScaleSetDeliverySettlement}
    (hr : recoverPreparedSettlement.run (w.apply .publishDelivery) = (effects, .ok set)) :
    recoverScaleSetSettlementLocked.run w = (.publishDelivery :: effects, .ok set) := by
  have hp : settlementIsPresent w = true := by
    unfold settlementIsPresent
    rw [hstg]
    simp [h.isPrepared]
  have hpub := run_recoverScaleSetDelivery hdel hstg h.exactRecoverySuccessor
  unfold recoverScaleSetSettlementLocked
  rw [run_read_bind, if_pos hp, hn.refuse, run_check_ok_bind, hstg]
  exact run_then hpub rfl hr

end

/-- **What a settlement passes through** once its delivery is staged, and what
its recovery passes through. -/
inductive Settling (files : StoreFiles) (c target : DisposableAttemptCatalogDocument)
    (p : ScaleSetDeliveryRecoveryState) : StoreFiles → Prop
  | deliveryStaged : Settling files c target p (files.deliveryStaged p)
  | pairStaged (hne : target ≠ c) : Settling files c target p (files.pairStaged p target)
  | prepared : Settling files c target p (files.prepared p)
  | preparedStaged (hne : target ≠ c) : Settling files c target p (files.preparedStaged p target)
  | published (hne : target ≠ c) : Settling files c target p (files.pairPublished p target)
  | settled : Settling files c target p (files.settled target)

/-- A transaction finishes the settlement: it succeeds, leaves the settled
store, and leaves the way nowhere. -/
def Finishes {α : Type} (x : StoreTx α) (files : StoreFiles)
    (c target : DisposableAttemptCatalogDocument) (p : ScaleSetDeliveryRecoveryState)
    (w : StoreFiles) : Prop :=
  ∃ effects a, x.run w = (effects, .ok a)
    ∧ (∀ u ∈ Tx.worlds StoreFiles.apply w effects, Settling files c target p u)
    ∧ replay StoreFiles.apply w effects = files.settled target

theorem Finishes.of_run {α : Type} {x : StoreTx α} {effects : List StoreEffect}
    (hrun : ∃ a, x.run w = (effects, .ok a))
    (hw : ∀ u ∈ Tx.worlds StoreFiles.apply w effects, Settling files c target p u)
    (hr : replay StoreFiles.apply w effects = files.settled target) :
    Finishes x files c target p w := by
  obtain ⟨a, hrun⟩ := hrun
  exact ⟨effects, a, hrun, hw, hr⟩

theorem finishes_of_staged (h : Prepares s c target p) (hn : w.neighbors.Settled)
    (hdel : w.delivery = some s) (hstg : w.stagedDelivery = some p)
    (hw : Settling files c target p w)
    (hrs : Finishes recoverPreparedSettlement files c target p (w.apply .publishDelivery)) :
    Finishes recoverScaleSetSettlementLocked files c target p w := by
  obtain ⟨effects, set, hrun, hwor, hr⟩ := hrs
  refine ⟨_, _, run_recoverSettlement_staged h hn hdel hstg hrun, ?_, hr⟩
  exact forall_mem_cons.mpr ⟨hw, hwor⟩

theorem run_publishSettlement (hcln : files.Clean) :
    Publishes (publishSettlement c target p) files c target p
      [.stageCatalog target, .publishDelivery, .publishCatalog] := by
  refine .of_pair hcln.stagedDelivery replaces ?_
  have hcat : (((stageCatalog target).mapError mapSettlementCatalogError).onFailure
      [.removeDeliveryStage]).run (files.deliveryStaged p) = ([.stageCatalog target], .ok ()) :=
    run_onFailure_of_ok (run_mapError_of_ok (run_stageCatalog hcln.stagedCatalog))
  have hf : ((publishDelivery false).onFailure [.removeCatalogStage,
      .removeDeliveryStage]).run (files.pairStaged p target) = ([.publishDelivery], .ok ()) :=
    run_onFailure_of_ok (run_publishDelivery rfl replaces)
  have hs : ((publishCatalog false).onFailure [.removeCatalogStage]).run
      ((files.pairStaged p target).apply .publishDelivery) = ([.publishCatalog], .ok ()) :=
    run_onFailure_of_ok (run_publishCatalog rfl replaces)
  exact run_then hcat rfl (run_then hf rfl hs)

theorem run_removeSettled (h : Prepares s c target p) (hdel : w.delivery = some p) :
    ∃ set, (do
      removeSettledDelivery p
      let acquired ← Tx.check (okOr p.settlementAcquired corruptState)
      return (⟨target, p, acquired.length⟩ : ScaleSetDeliverySettlement) : StoreTx _).run w
      = ([.removeDelivery], .ok set) := by
  obtain ⟨acquired, ha⟩ := h.exists_settlementAcquired
  refine ⟨⟨target, p, acquired.length⟩, ?_⟩
  rw [ha]
  exact run_then (run_removeSettledDelivery h hdel) rfl run_check_ok_bind

section

variable (h : Prepares s c target p) (hcln : files.Clean) (hcat : files.catalog = some c)
include h hcln hcat

theorem finishes_recoverPrepared
    (hw : w = files.prepared p ∨ (target ≠ c ∧ w = files.preparedStaged p target)
      ∨ (target ≠ c ∧ w = files.pairPublished p target)) :
    Finishes recoverPreparedSettlement files c target p w := by
  obtain ⟨catalog, stagedCatalog, delivery, stagedDelivery, neighbors⟩ := files
  obtain ⟨rfl, rfl, -⟩ := hcln
  obtain rfl := hcat
  obtain rfl | ⟨hne, rfl⟩ | ⟨hne, rfl⟩ := hw
  · by_cases heq : target = c
    · subst heq
      refine .of_run (run_recoverPrepared_forward h rfl rfl
        (run_recoverSettlementForward h (.inr (.inr ⟨rfl, rfl, rfl⟩))) rfl) ?_ rfl
      simp only [nil_append, worlds, forall_mem_cons]
      exact ⟨.prepared, .settled, forall_mem_nil _⟩
    · refine .of_run (run_recoverPrepared_forward h rfl rfl
        (run_recoverSettlementForward h (.inl ⟨heq, rfl, rfl⟩)) rfl) ?_ rfl
      simp only [cons_append, nil_append, worlds, forall_mem_cons]
      exact ⟨.prepared, .preparedStaged heq, .published heq, .settled, forall_mem_nil _⟩
  · refine .of_run (run_recoverPrepared_forward h rfl rfl
      (run_recoverSettlementForward h (.inr (.inl ⟨hne, rfl, rfl⟩))) rfl) ?_ rfl
    simp only [cons_append, nil_append, worlds, forall_mem_cons]
    exact ⟨.preparedStaged hne, .published hne, .settled, forall_mem_nil _⟩
  · refine .of_run (run_recoverPrepared_done h hne rfl rfl rfl) ?_ rfl
    simp only [worlds, forall_mem_cons]
    exact ⟨.published hne, .settled, forall_mem_nil _⟩

/-- **Reopening finishes the settlement**, from everything it passes
through. -/
theorem finishes_open (hdel : files.delivery = some s) (hw : Settling files c target p w) :
    Finishes openOrCreateScaleSetDeliveryController files c target p w := by
  have hcln' : (files.settled target).Clean :=
    ⟨hcln.stagedCatalog, hcln.stagedDelivery, hcln.neighbors⟩
  have hq : recoverScaleSetReconcileTransactionLocked.run (files.settled target)
      = ([], .ok ()) :=
    run_recover_clean hcln' rfl
  -- what is left after the settlement has nothing to recover
  suffices hs : w = files.settled target
      ∨ Finishes recoverScaleSetSettlementLocked files c target p w by
    obtain rfl | ⟨effects, set, hrun, hwor, hr⟩ := hs
    · refine ⟨[], (), ?_, ?_, rfl⟩
      · rw [run_open_unprepared (fun state hst => by cases hst)
          (fun state hst => by
            rw [hcln'.stagedDelivery] at hst
            cases hst), hq]
      · exact forall_mem_singleton.mpr .settled
    · refine ⟨effects, (), ?_, hwor, hr⟩
      unfold openOrCreateScaleSetDeliveryController
      rw [run_then hrun hr hq, append_nil]
  have hcur {u : StoreFiles} (hnbr : u.neighbors.Settled) (hp : u.delivery = some p)
      (hn : u.stagedDelivery = none)
      (hf : Finishes recoverPreparedSettlement files c target p u) :
      Finishes recoverScaleSetSettlementLocked files c target p u := by
    unfold Finishes at hf ⊢
    rwa [run_recoverSettlement_current h hnbr hp hn]
  obtain ⟨catalog, stagedCatalog, delivery, stagedDelivery, neighbors⟩ := files
  obtain rfl := hcln.stagedDelivery
  cases hw with
  | deliveryStaged =>
    exact .inr (finishes_of_staged h hcln.neighbors hdel rfl .deliveryStaged
      (finishes_recoverPrepared h hcln hcat (.inl rfl)))
  | pairStaged hne =>
    exact .inr (finishes_of_staged h hcln.neighbors hdel rfl (.pairStaged hne)
      (finishes_recoverPrepared h hcln hcat (.inr (.inl ⟨hne, rfl⟩))))
  | prepared =>
    exact .inr (hcur hcln.neighbors rfl hcln.stagedDelivery
      (finishes_recoverPrepared h hcln hcat (.inl rfl)))
  | preparedStaged hne =>
    exact .inr (hcur hcln.neighbors rfl hcln.stagedDelivery
      (finishes_recoverPrepared h hcln hcat (.inr (.inl ⟨hne, rfl⟩))))
  | published hne =>
    exact .inr (hcur hcln.neighbors rfl hcln.stagedDelivery
      (finishes_recoverPrepared h hcln hcat (.inr (.inr ⟨hne, rfl⟩))))
  | settled => exact .inl rfl

/-- **What a crash leaves of a settlement.** -/
theorem crash_publishSettlement (hc : Tx.Crash (do
      publishSettlement c target p
      removeSettledDelivery p
      let acquired ← Tx.check (okOr p.settlementAcquired corruptState)
      return (⟨target, p, acquired.length⟩ : ScaleSetDeliverySettlement) : StoreTx _) files t) :
    t = files ∨ Settling files c target p t := by
  have hrun := @run_publishSettlement files c target p hcln
  obtain ⟨_, hpb⟩ := run_removeSettled h (w := files.pairPublished p target) rfl
  obtain ⟨_, hp⟩ := run_removeSettled h (w := files.prepared p) rfl
  obtain ⟨catalog, stagedCatalog, delivery, stagedDelivery, neighbors⟩ := files
  obtain ⟨rfl, rfl, -⟩ := hcln
  obtain rfl := hcat
  obtain ⟨error, hrun⟩ | ⟨hne, hrun⟩ | ⟨rfl, hrun⟩ := hrun
  · exact .inl (hc.of_quiet (run_bind_of_error hrun))
  · rw [crash_iff (congrArg Prod.fst (run_then hrun rfl hpb))] at hc
    simp only [cons_append, nil_append, worlds, apply, mem_cons, not_mem_nil, or_false] at hc
    obtain rfl | rfl | rfl | rfl | rfl | rfl := hc
    · exact .inl rfl
    · exact .inr .deliveryStaged
    · exact .inr (.pairStaged hne)
    · exact .inr (.preparedStaged hne)
    · exact .inr (.published hne)
    · exact .inr .settled
  · rw [crash_iff (congrArg Prod.fst (run_then hrun rfl hp))] at hc
    simp only [cons_append, nil_append, worlds, apply, mem_cons, not_mem_nil, or_false] at hc
    obtain rfl | rfl | rfl | rfl := hc
    · exact .inl rfl
    · exact .inr .deliveryStaged
    · exact .inr .prepared
    · exact .inr .settled

end

variable {expected : ScaleSetDeliveryRecoveryState}

theorem crash_settle (hcln : files.Clean) (hcat : files.catalog = some c)
    (hdel : files.delivery = some s) (hmat : s.matchesCatalog c = true)
    (hown : s.phase.isSettlementPrepared = false)
    (hcr : Tx.Crash (settleScaleSetDeliveryLocked expected) files t) :
    t = files ∨ ∃ target p, Prepares s c target p ∧ Settling files c target p t := by
  obtain ⟨ha, hq⟩ := run_recover_before_settlement hcln hcat hdel hmat hown
  have hcr := (hcr.of_quiet_bind ha).of_quiet_bind hq
  have hcr := hcr.of_read_bind
  rw [hdel, hcat] at hcr
  refine crash_check_bind (fun _ hs => crash_check_bind fun _ _ => crash_check_bind fun _ hc =>
    crash_check_bind fun target ht => crash_check_bind fun p hp hcr => ?_) hcr
  cases hs
  cases hc
  have hpr : Prepares s c target p := ⟨mapError_eq_ok.mp ht, mapError_eq_ok.mp hp⟩
  exact (crash_publishSettlement hpr hcln hcat hcr).imp id
    fun hset => ⟨target, p, hpr, hset⟩

/-- **A settlement is atomic.** Wherever it is cut off, and however often the
reopening after it is cut off, a complete reopening leaves the store as it was
– which it only does when nothing of the settlement was durable – or it leaves
the settled store, and always the same of the two. A settled catalog is not
settled again. -/
theorem settleScaleSetDelivery_atomic
    {proof : ScaleSetDeliverySettlementProof} {acquired : List ScaleSetRunnerRequestId}
    (hcln : files.Clean) (hcat : files.catalog = some c)
    (hdel : files.delivery = some s) (hmat : s.matchesCatalog c = true)
    (hst : s.settlementEvidence = .ok (proof, acquired))
    (hc : Tx.Crash (settleScaleSetDeliveryLocked expected) files t) :
    ∃ goal, (goal = files ∧ t = files ∨ t ≠ files ∧ ∃ target p,
        settleScaleSetDeliveryCatalog s c = .ok target ∧ s.prepareSettlement c target = .ok p
          ∧ goal = { files with catalog := some target, delivery := none } ∧ (target ≠ c →
            settleScaleSetDeliveryCatalog s target = .error settlementCatalogDrift
              ∧ settleScaleSetDeliveryCatalog p target = .error settlementCatalogDrift))
      ∧ goal.Clean
      ∧ ∀ u, Relation.ReflTransGen (Tx.Crash openOrCreateScaleSetDeliveryController) t u →
        Tx.Completes openOrCreateScaleSetDeliveryController u goal := by
  have hown := not_prepared_of_settlementEvidence hst
  by_cases hs : t = files
  · subst hs
    refine ⟨t, .inl ⟨rfl, rfl⟩, hcln, fun u => completes_of_quiet (a := ()) ?_⟩
    exact run_open_clean hcln hcat hdel hmat hown
  obtain hf | ⟨target, p, hp, hset⟩ :=
    crash_settle hcln hcat hdel hmat hown hc
  · exact absurd hf hs
  refine ⟨files.settled target, .inr ⟨hs, target, p, hp.settle, hp.prepare, rfl,
    fun hne => ?_⟩, ⟨hcln.stagedCatalog, hcln.stagedDelivery, hcln.neighbors⟩, fun u hu => ?_⟩
  · have hd := settle_prepared_target hp.settle hp.prepare hne
    rw [← settle_prepared hp.prepare]
    exact ⟨hd, hd⟩
  · exact completes_of_runs (I := Settling files c target p)
      (fun w hw => finishes_open hp hcln hcat hdel hw) hset hu

end Settlement

/-! ## An acknowledgement that was started -/

theorem crash_publishSuccessor_staged {files : StoreFiles} {s n : ScaleSetDeliveryRecoveryState}
    (hstg : files.stagedDelivery = none)
    (hs : s.exactRecoverySuccessor n = true)
    (he : ∃ bytes, encodeScaleSetDeliveryRecovery n = .ok bytes) :
    Tx.Crash (publishScaleSetDeliverySuccessorLocked s n) files (files.deliveryStaged n) := by
  unfold publishScaleSetDeliverySuccessorLocked
  rw [refuseIf_not hs, crash_congr run_check_ok_bind]
  exact crash_stage_bind hstg he

/-- A store with one message. -/
def reconciledFiles : StoreFiles :=
  { initialFiles with catalog := some reservedCatalog, delivery := some reconciledState }

theorem clean_reconciledFiles : reconciledFiles.Clean := ⟨rfl, rfl, settled_settledNeighbors⟩

theorem reservedCatalog_ne_empty : reservedCatalog ≠ .empty := by
  intro heq
  have hr := congrArg (fun c => c.revision.val) heq
  exact absurd hr (by decide)

theorem completes_reconciledFiles :
    Tx.Completes (publishScaleSetReconciledDelivery
      DisposableAttemptCatalogDocument.empty.revision samplePolicy offeredDelivery sampleTime)
      initialFiles reconciledFiles := by
  have hcat : initialFiles.catalog = some .empty := rfl
  have hr := run_publishScaleSetReconciledDelivery clean_initialFiles hcat rfl
    reconcile_offeredDelivery reconciled_offeredDelivery
  obtain ⟨e, hp⟩ | ⟨-, hp⟩ | ⟨heq, -⟩ :=
    run_publishPair .empty reservedCatalog reconciledState clean_initialFiles
      (fun _ : true = true => rfl)
  · -- the document of the delivery fits, so something happens
    have hc : Tx.Crash (publishPair .empty reservedCatalog reconciledState true >>= fun _ =>
        pure (reservedCatalog, reconciledState)) initialFiles
        (initialFiles.deliveryStaged reconciledState) :=
      crash_publishPair_staged rfl encode_reconciledState
    cases congrArg stagedDelivery (hc.of_quiet (run_bind_of_error hp))
  · refine ⟨(reservedCatalog, reconciledState), ?_, ?_⟩
    · rw [hr, run_bind_of_ok hp, run_pure]
    · rw [hr, run_bind_of_ok hp, run_pure]
      rfl
  · exact absurd heq reservedCatalog_ne_empty

theorem successor_startedState : reconciledState.exactRecoverySuccessor startedState = true := by
  decide +kernel

theorem encode_startedState : ∃ bytes, encodeScaleSetDeliveryRecovery startedState = .ok bytes :=
  exists_encodeScaleSetDeliveryRecovery _ (fun _ h => by cases h)

theorem matchesCatalog_reconciledState : reconciledState.matchesCatalog reservedCatalog = true :=
  matchesCatalog_observedState

/-- **The store cannot be reopened** after a crash that leaves the start of the
acknowledgement staged. -/
theorem reopen_startedState_refused :
    Tx.Completes (publishScaleSetReconciledDelivery
        DisposableAttemptCatalogDocument.empty.revision samplePolicy offeredDelivery sampleTime)
        initialFiles reconciledFiles
      ∧ reconciledFiles.Clean ∧ reconciledState.matchesCatalog reservedCatalog = true
      ∧ reconciledState.exactRecoverySuccessor startedState = true
      ∧ startedState.phase = .acknowledgementStarted
      ∧ Tx.Crash (publishScaleSetDeliverySuccessorLocked reconciledState startedState)
        reconciledFiles (reconciledFiles.deliveryStaged startedState)
      ∧ (openOrCreateScaleSetDeliveryController.run
        (reconciledFiles.deliveryStaged startedState)).2 = .error corruptState := by
  refine ⟨completes_reconciledFiles, clean_reconciledFiles, matchesCatalog_reconciledState,
    successor_startedState, rfl,
    crash_publishSuccessor_staged rfl successor_startedState encode_startedState, ?_⟩
  have ho := @run_open_unprepared (reconciledFiles.deliveryStaged startedState)
    (fun state hst => by obtain rfl := Option.some.inj hst; rfl)
    (fun state hst => by obtain rfl := Option.some.inj hst; rfl)
  rw [ho, run_recover_beside settled_settledNeighbors rfl,
    run_recoverBeside_unresolved rfl rfl rfl]

theorem reopen_successor_iff_startedState :
    (∃ u, Tx.Completes openOrCreateScaleSetDeliveryController reconciledFiles u
        ∧ (u = reconciledFiles ∨ u = { reconciledFiles with delivery := some startedState }))
      ∧ ¬ ∃ u, Tx.Completes openOrCreateScaleSetDeliveryController
          (reconciledFiles.deliveryStaged startedState) u
        ∧ (u = reconciledFiles ∨ u = { reconciledFiles with delivery := some startedState }) := by
  refine ⟨?_, ?_⟩
  · exact (reopen_successor_iff clean_reconciledFiles rfl rfl matchesCatalog_reconciledState
      successor_startedState rfl ⟨[], nil_prefix, rfl⟩).mpr (.inl rfl)
  · intro h
    have hstg := (reopen_successor_iff clean_reconciledFiles rfl rfl
      matchesCatalog_reconciledState successor_startedState rfl
      (crash_publishSuccessor_staged rfl successor_startedState encode_startedState)).mp h
    obtain hstg | hstg := hstg
    · cases hstg
    · cases hstg

/-! ## A settlement that releases a reservation -/

/-- The state of the offered message when its acknowledgement named no
request. -/
def declinedState : ScaleSetDeliveryRecoveryState where
  toRecoveryRecord :=
    { observedState.toRecoveryRecord with revision := 3, phase := .acknowledged [] }
  valid := by decide +kernel

/-- A store with one message that acquired nothing. -/
def declinedFiles : StoreFiles :=
  { initialFiles with catalog := some reservedCatalog, delivery := some declinedState }

theorem clean_declinedFiles : declinedFiles.Clean := ⟨rfl, rfl, settled_settledNeighbors⟩

theorem matchesCatalog_declinedState : declinedState.matchesCatalog reservedCatalog = true :=
  matchesCatalog_observedState

theorem exists_prepares_declinedState :
    ∃ target p, Prepares declinedState reservedCatalog target p ∧ target ≠ reservedCatalog := by
  have hpr : ((settleScaleSetDeliveryCatalog declinedState reservedCatalog).toOption.bind
      fun target => if target = reservedCatalog then none
        else (declinedState.prepareSettlement reservedCatalog target).toOption).isSome := by
    decide +kernel
  obtain ⟨p, hp⟩ := Option.isSome_iff_exists.mp hpr
  obtain ⟨target, ht, hp⟩ := Option.bind_eq_some_iff.mp hp
  split_ifs at hp with hne
  exact ⟨target, p, ⟨eq_ok_of_mem_toOption ht, eq_ok_of_mem_toOption hp⟩, hne⟩

theorem settleScaleSetDelivery_atomic_declined :
    ∃ target p, Prepares declinedState reservedCatalog target p ∧ target ≠ reservedCatalog
      ∧ Tx.Crash (settleScaleSetDeliveryLocked declinedState) declinedFiles
        (declinedFiles.deliveryStaged p)
      ∧ Tx.Completes openOrCreateScaleSetDeliveryController (declinedFiles.deliveryStaged p)
        { declinedFiles with catalog := some target, delivery := none } := by
  obtain ⟨target, p, hp, hne⟩ := exists_prepares_declinedState
  have henc : ∃ bytes, encodeScaleSetDeliveryRecovery p = .ok bytes := by
    obtain ⟨-, -, proof, acquired, digest, he, -, hph⟩ :=
      prepareSettlement_eq_ok hp.prepare
    obtain ⟨rfl, rfl⟩ := Prod.mk.inj (ok.inj he)
    refine exists_encodeScaleSetDeliveryRecovery p (fun resolution hcr => ?_)
    rw [hph] at hcr
    cases hcr
  have hc : Tx.Crash (settleScaleSetDeliveryLocked declinedState) declinedFiles
      (declinedFiles.deliveryStaged p) := by
    have hcat : declinedFiles.catalog = some reservedCatalog := rfl
    have hdel : declinedFiles.delivery = some declinedState := rfl
    obtain ⟨habs, hq⟩ := run_recover_before_settlement clean_declinedFiles hcat hdel
      matchesCatalog_declinedState rfl
    unfold settleScaleSetDeliveryLocked
    rw [crash_congr (run_bind_of_quiet habs), crash_congr (run_bind_of_quiet hq)]
    unfold settleCurrentDelivery
    rw [crash_congr run_read_bind, hdel, hcat, crash_congr run_some_bind,
      refuseIf_not rfl, crash_congr run_check_ok_bind, crash_congr run_some_bind, hp.settle,
      mapError_ok,
      crash_congr run_check_ok_bind, hp.prepare, mapError_ok, crash_congr run_check_ok_bind]
    unfold publishSettlement
    rw [bind_assoc]
    exact crash_stage_bind rfl henc
  obtain ⟨goal, hg, -, hcm⟩ := settleScaleSetDelivery_atomic clean_declinedFiles rfl rfl
    matchesCatalog_declinedState rfl hc
  refine ⟨target, p, hp, hne, hc, ?_⟩
  obtain ⟨-, hs⟩ | ⟨-, target', p', htgt', -, rfl, -⟩ := hg
  · cases congrArg stagedDelivery hs
  · obtain rfl := ok.inj (hp.settle.symm.trans htgt')
    exact hcm _ .refl

end Glaeda
