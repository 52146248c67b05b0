import Glaeda.DeliveryStore
import Glaeda.RecoveryCodec

/-!
# Recovery of paired publications

Every transaction of the store changes its documents by a handful of durable
steps. For each of them the files that a crash can leave are listed, the
recovery is run from every one of them, and the list falls into two parts:
the files from which the recovery goes **back** to the documents before the
transaction, and those from which it goes **forward** to the documents after
it. Since a recovery that is cut off leaves files of the same part, the
outcome is decided by the first crash alone – `Tx.completes_of_interrupted`.

What tells the files of the two parts apart is the binding of a delivery to
its catalogs. A catalog that changed has a larger revision, so a delivery
bound to the new catalog does not match the old one.
-/

namespace Glaeda

open Checked Transaction List ScaleSetDeliveryRecoveryState StoreFiles Except Tx Tx.Completes

/-- The other files of the store are in order. -/
structure StoreNeighbors.Settled (neighbors : StoreNeighbors) : Prop where
  recoveryPlan : neighbors.recoveryPlan = .ok .clean
  templateGeneration : neighbors.templateGeneration = .ok ()
  limaAuthority : neighbors.limaAuthority = .ok ()

/-- **A clean store**: nothing is staged, and the other documents are
settled. -/
structure StoreFiles.Clean (files : StoreFiles) : Prop where
  stagedCatalog : files.stagedCatalog = none
  stagedDelivery : files.stagedDelivery = none
  neighbors : files.neighbors.Settled

theorem StoreNeighbors.Settled.refuse {neighbors : StoreNeighbors} (h : neighbors.Settled)
    (message : String) : refuseUnsettledNeighbors neighbors message = .ok () := by
  unfold refuseUnsettledNeighbors
  rw [h.recoveryPlan, ok_bind, refuseIf_not rfl, ok_bind, h.templateGeneration,
    ok_bind, h.limaAuthority]

/-! ## Bindings -/

section Bindings

variable {s d : ScaleSetDeliveryRecoveryState} {c tgt : DisposableAttemptCatalogDocument}
variable {revision : DisposableAttemptCatalogRevision} {digest : Sha256Digest}

/-- **A binding tells a catalog from what it evolves into.** -/
theorem eq_of_bindsCatalog (h : bindsCatalog revision digest c = true)
    (h' : bindsCatalog revision digest tgt = true) (he : c.Evolves tgt) :
    tgt = c :=
  he.eq_of_revision_eq ((bindsCatalog_iff.mp h').1.symm.trans (bindsCatalog_iff.mp h).1)

/-- **A reconciled state is bound to both its catalogs.** -/
theorem reconciled_eq_ok {del : ScaleSetDelivery} (h : reconciled del c tgt = .ok d) :
    d.phase = .reconciled ∧ d.matchesPriorCatalog c = true ∧ d.matchesCatalog tgt = true := by
  unfold reconciled at h
  simp only [bind_eq_ok, accept_eq_ok] at h
  obtain ⟨priorDigest, hp, digest, hd, h⟩ := h
  rw [h]
  exact ⟨rfl, bindsCatalog_iff.mpr ⟨rfl, hp⟩, bindsCatalog_iff.mpr ⟨rfl, hd⟩⟩

end Bindings

/-! ## Running the parts of a transaction -/

section Parts

variable {files : StoreFiles} {st : ScaleSetDeliveryRecoveryState}
variable {document : DisposableAttemptCatalogDocument} {nr : Bool}

theorem replaces {p : Prop} (h : false = true) : p := absurd h Bool.false_ne_true

theorem run_publishNamedStaged {current : Bool} {effect : StoreEffect}
    (hf : nr = true → current = false) :
    (publishNamedStaged true current nr effect).run files = ([effect], .ok ()) := by
  unfold publishNamedStaged
  rw [run_refuseIf_bind (by simpa using hf), run_refuseIf_bind (by simp), run_perform]

theorem run_publishDelivery (hstg : files.stagedDelivery = some st)
    (hf : nr = true → files.delivery = none) :
    (publishDelivery nr).run files = ([.publishDelivery], .ok ()) := by
  unfold publishDelivery
  rw [run_read_bind, hstg]
  exact run_publishNamedStaged fun hno => by rw [hf hno]; rfl

theorem run_publishCatalog (hstg : files.stagedCatalog = some document)
    (hf : nr = true → files.catalog = none) :
    (publishCatalog nr).run files = ([.publishCatalog], .ok ()) := by
  unfold publishCatalog
  rw [run_read_bind, hstg]
  exact run_publishNamedStaged fun hno => by rw [hf hno]; rfl

theorem run_synchronizeDelivery (hstg : files.stagedDelivery = some st) :
    (synchronizeExistingScaleSetDeliveryStage st).run files = ([], .ok ()) := by
  unfold synchronizeExistingScaleSetDeliveryStage
  rw [run_read_bind, refuseIf_not hstg, run_check]

theorem run_synchronizeCatalog (hstg : files.stagedCatalog = some document) :
    (synchronizeExistingCatalogStage document).run files = ([], .ok ()) := by
  unfold synchronizeExistingCatalogStage
  rw [run_read_bind, refuseIf_not hstg, run_check]

/-- **Every catalog can be staged.** -/
theorem run_stageCatalog (hstg : files.stagedCatalog = none) :
    (stageCatalog document).run files = ([.stageCatalog document], .ok ()) := by
  obtain ⟨bytes, hb⟩ := exists_encodeDisposableAttemptCatalog document
  unfold stageCatalog
  rw [mapError_eq_ok.mpr hb, run_check_ok_bind, run_read_bind, hstg,
    run_refuseIf_bind (by simp), run_perform]

theorem run_stageScaleSetDelivery_of_encode (hstg : files.stagedDelivery = none)
    (henc : ∃ bytes, encodeScaleSetDeliveryRecovery st = .ok bytes) :
    (stageScaleSetDelivery st).run files = ([.stageDelivery st], .ok ()) := by
  obtain ⟨bytes, hb⟩ := henc
  unfold stageScaleSetDelivery
  rw [hb, mapError_ok, run_check_ok_bind, run_read_bind, hstg, run_refuseIf_bind (by simp),
    run_perform]

theorem run_stageScaleSetDelivery (st : ScaleSetDeliveryRecoveryState)
    (hstg : files.stagedDelivery = none) :
    (∃ error, (stageScaleSetDelivery st).run files = ([], .error error))
      ∨ (stageScaleSetDelivery st).run files = ([.stageDelivery st], .ok ()) := by
  cases henc : encodeScaleSetDeliveryRecovery st with
  | error error =>
    unfold stageScaleSetDelivery
    rw [henc]
    exact .inl ⟨_, run_check_error_bind⟩
  | ok bytes => exact .inr (run_stageScaleSetDelivery_of_encode hstg ⟨bytes, henc⟩)

end Parts

/-! ## Publishing a pair -/

namespace StoreFiles

variable (files : StoreFiles) (st : ScaleSetDeliveryRecoveryState)
variable (tgt : DisposableAttemptCatalogDocument)

/-- The message is staged. -/
def deliveryStaged : StoreFiles := { files with stagedDelivery := some st }

/-- The message and the catalog are staged. -/
def pairStaged : StoreFiles :=
  { files with stagedDelivery := some st, stagedCatalog := some tgt }

/-- The catalog is published. -/
def catalogPublished : StoreFiles :=
  { files with stagedDelivery := some st, catalog := some tgt }

/-- The message and the catalog are published. -/
def pairPublished : StoreFiles :=
  { files with delivery := some st, catalog := some tgt }

end StoreFiles

section Pair

variable {files t : StoreFiles} {nr : Bool}
variable (c tgt : DisposableAttemptCatalogDocument) (st : ScaleSetDeliveryRecoveryState)

/-- **The durable steps of a publication**: none, when the delivery does not
fit; those of a pair, when the catalog changes; two, when it does not. -/
def Publishes (x : StoreTx Unit) (files : StoreFiles)
    (c target : DisposableAttemptCatalogDocument) (state : ScaleSetDeliveryRecoveryState)
    (pair : List StoreEffect) : Prop :=
  (∃ error, x.run files = ([], .error error))
    ∨ (target ≠ c ∧ x.run files = (.stageDelivery state :: pair, .ok ()))
    ∨ (target = c ∧ x.run files = ([.stageDelivery state, .publishDelivery], .ok ()))

variable {c tgt st}

theorem Publishes.of_pair {x : StoreTx Unit} {effects : List StoreEffect}
    (hstg : files.stagedDelivery = none) (hf : nr = true → files.delivery = none)
    (hp : x.run (files.deliveryStaged st) = (effects, .ok ())) :
    Publishes (do
      stageScaleSetDelivery st
      if tgt ≠ c then x else (publishDelivery nr).onFailure [.removeDeliveryStage])
      files c tgt st effects := by
  obtain ⟨error, hs⟩ | hs := run_stageScaleSetDelivery st hstg
  · exact .inl ⟨error, run_bind_of_error hs⟩
  refine .inr ?_
  by_cases ht : tgt = c
  · have hpub : ((publishDelivery nr).onFailure [.removeDeliveryStage]).run
        (files.deliveryStaged st) = ([.publishDelivery], .ok ()) :=
      run_onFailure_of_ok (run_publishDelivery rfl hf)
    rw [if_neg (not_not.mpr ht)]
    exact .inr ⟨ht, run_then hs rfl hpub⟩
  · rw [if_pos ht]
    exact .inl ⟨ht, run_then hs rfl hp⟩

variable (c tgt st)

theorem run_publishPair (hcln : files.Clean) (hf : nr = true → files.delivery = none) :
    Publishes (publishPair c tgt st nr) files c tgt st
      [.stageCatalog tgt, .publishCatalog, .publishDelivery] := by
  refine .of_pair hcln.stagedDelivery hf ?_
  have hcat : ((stageCatalog tgt).mapError mapCatalogError).run
      (files.deliveryStaged st) = ([.stageCatalog tgt], .ok ()) :=
    run_mapError_of_ok (run_stageCatalog hcln.stagedCatalog)
  have hfst : ((publishCatalog false).onFailure [.removeCatalogStage]).run
      (files.pairStaged st tgt) = ([.publishCatalog], .ok ()) :=
    run_onFailure_of_ok (run_publishCatalog rfl replaces)
  have hs : (publishDelivery nr).run
      { files.pairStaged st tgt with catalog := some tgt, stagedCatalog := none }
        = ([.publishDelivery], .ok ()) :=
    run_publishDelivery rfl hf
  exact run_then hcat rfl (run_then hfst rfl hs)

variable {c tgt st}

/-- The files a recovery completes. -/
def GoesForward (files : StoreFiles) (c target : DisposableAttemptCatalogDocument)
    (state : ScaleSetDeliveryRecoveryState) (t : StoreFiles) : Prop :=
  (target = c ∧ t = files.deliveryStaged state)
    ∨ (target ≠ c ∧ (t = files.pairStaged state target ∨ t = files.catalogPublished state target))
    ∨ t = files.pairPublished state target

/-- **What a crash leaves of a pair.** -/
theorem crash_publishPair (hcln : files.Clean) (hcat : files.catalog = some c)
    (hf : nr = true → files.delivery = none)
    (h : Tx.Crash (publishPair c tgt st nr) files t) :
    (t = files ∨ (tgt ≠ c ∧ t = files.deliveryStaged st))
      ∨ GoesForward files c tgt st t := by
  have hr := run_publishPair c tgt st hcln hf
  obtain ⟨catalog, stagedCatalog, del, stagedDelivery, neighbors⟩ := files
  obtain ⟨rfl, rfl, -⟩ := hcln
  obtain rfl := hcat
  obtain ⟨error, hr⟩ | ⟨ht, hr⟩ | ⟨rfl, hr⟩ := hr
  · rw [crash_iff (congrArg Prod.fst hr)] at h
    exact .inl (.inl (mem_singleton.mp h))
  · rw [crash_iff (congrArg Prod.fst hr)] at h
    simp only [worlds, apply, mem_cons, not_mem_nil, or_false] at h
    obtain h | h | h | h | h := h
    · exact .inl (.inl h)
    · exact .inl (.inr ⟨ht, h⟩)
    · exact .inr (.inr (.inl ⟨ht, .inl h⟩))
    · exact .inr (.inr (.inl ⟨ht, .inr h⟩))
    · exact .inr (.inr (.inr h))
  · rw [crash_iff (congrArg Prod.fst hr)] at h
    simp only [worlds, apply, mem_cons, not_mem_nil, or_false] at h
    obtain h | h | h := h
    · exact .inl (.inl h)
    · exact .inr (.inl ⟨rfl, h⟩)
    · exact .inr (.inr (.inr h))

/-- **A recovery of pairs**: what it does from each of the files that a crash
can leave. -/
structure RecoversPair (recovery : StoreTx Unit) (files : StoreFiles)
    (c target : DisposableAttemptCatalogDocument) (state : ScaleSetDeliveryRecoveryState) :
    Prop where
  untouched : recovery.run files = ([], .ok ())
  undo : target ≠ c → recovery.run (files.deliveryStaged state) = ([.removeDeliveryStage], .ok ())
  finish : target = c → recovery.run (files.deliveryStaged state) = ([.publishDelivery], .ok ())
  both : target ≠ c →
    recovery.run (files.pairStaged state target) = ([.publishCatalog, .publishDelivery], .ok ())
  second : target ≠ c →
    recovery.run (files.catalogPublished state target) = ([.publishDelivery], .ok ())
  finished : recovery.run (files.pairPublished state target) = ([], .ok ())

variable {recovery : StoreTx Unit} {u : StoreFiles}

/-- **Going back**: no catalog was staged yet, and the documents before the
transaction are reached. -/
theorem RecoversPair.back (h : RecoversPair recovery files c tgt st)
    (hcln : files.Clean) (ht : t = files ∨ (tgt ≠ c ∧ t = files.deliveryStaged st))
    (hi : Relation.ReflTransGen (Tx.Crash recovery) t u) :
    Tx.Completes recovery u files := by
  obtain ⟨catalog, stagedCatalog, del, stagedDelivery, neighbors⟩ := files
  obtain ⟨rfl, rfl, -⟩ := hcln
  refine completes_of_runs (I := fun t => t = _ ∨ (tgt ≠ c ∧ t = _)) ?_ ht hi
  rintro s (rfl | ⟨htgt, rfl⟩)
  · exact ⟨_, _, h.untouched, forall_mem_singleton.mpr (.inl rfl), rfl⟩
  · refine ⟨_, _, h.undo htgt, ?_, rfl⟩
    exact forall_mem_cons.mpr ⟨.inr ⟨htgt, rfl⟩, forall_mem_singleton.mpr (.inl rfl)⟩

section

variable (h : RecoversPair recovery files c tgt st) (hcln : files.Clean)
    (hcat : files.catalog = some c)
include h hcln hcat

/-- **Going forward**: everything that is needed is there, and the documents
after the transaction are reached. -/
theorem RecoversPair.forward (ht : GoesForward files c tgt st t)
    (hi : Relation.ReflTransGen (Tx.Crash recovery) t u) :
    Tx.Completes recovery u (files.pairPublished st tgt) := by
  obtain ⟨catalog, stagedCatalog, del, stagedDelivery, neighbors⟩ := files
  obtain ⟨rfl, rfl, -⟩ := hcln
  obtain rfl := hcat
  refine completes_of_runs (I := GoesForward _ c tgt st) ?_ ht hi
  rintro s (⟨rfl, rfl⟩ | ⟨htgt, rfl | rfl⟩ | rfl)
  · refine ⟨_, _, h.finish rfl, ?_, rfl⟩
    simp only [worlds, forall_mem_cons]
    exact ⟨.inl ⟨rfl, rfl⟩, .inr (.inr rfl), forall_mem_nil _⟩
  · refine ⟨_, _, h.both htgt, ?_, rfl⟩
    simp only [worlds, forall_mem_cons]
    exact ⟨.inr (.inl ⟨htgt, .inl rfl⟩), .inr (.inl ⟨htgt, .inr rfl⟩), .inr (.inr rfl),
      forall_mem_nil _⟩
  · refine ⟨_, _, h.second htgt, ?_, rfl⟩
    simp only [worlds, forall_mem_cons]
    exact ⟨.inr (.inl ⟨htgt, .inr rfl⟩), .inr (.inr rfl), forall_mem_nil _⟩
  · exact ⟨_, _, h.finished, forall_mem_singleton.mpr (.inr (.inr rfl)), rfl⟩

/-- **A pair is recovered**: every crash of its publication is one from which
the recovery goes back, or one from which it goes forward. -/
theorem RecoversPair.completes (hf : nr = true → files.delivery = none)
    (hc : Tx.Crash (publishPair c tgt st nr) files t) :
    ∃ goal, (goal = files ∨ goal = files.pairPublished st tgt)
      ∧ ∀ u, Relation.ReflTransGen (Tx.Crash recovery) t u → Tx.Completes recovery u goal := by
  obtain ht | ht := crash_publishPair hcln hcat hf hc
  · exact ⟨files, .inl rfl, fun u => h.back hcln ht⟩
  · exact ⟨_, .inr rfl, fun u => h.forward hcln hcat ht⟩

end

end Pair

/-! ## A reconciled delivery -/

section Reconciled

variable {files t : StoreFiles} {c tgt : DisposableAttemptCatalogDocument}
variable {s d : ScaleSetDeliveryRecoveryState}
variable {del : ScaleSetDelivery}

theorem run_recover_fresh (hn : files.neighbors.Settled) (hdel : files.delivery = none) :
    recoverScaleSetReconcileTransactionLocked.run files
      = (recoverFreshDelivery files).run files := by
  unfold recoverScaleSetReconcileTransactionLocked refuseUnsettledScaleSetNeighbors
  rw [run_read_bind, hn.refuse, run_check_ok_bind, hdel]

theorem run_recover_beside (hn : files.neighbors.Settled) (hdel : files.delivery = some s) :
    recoverScaleSetReconcileTransactionLocked.run files
      = (recoverBesideDelivery files s).run files := by
  unfold recoverScaleSetReconcileTransactionLocked refuseUnsettledScaleSetNeighbors
  rw [run_read_bind, hn.refuse, run_check_ok_bind, hdel]

/-- **There is nothing to recover in a clean store** without a delivery. -/
theorem run_recover_clean (hcln : files.Clean) (hdel : files.delivery = none) :
    recoverScaleSetReconcileTransactionLocked.run files = ([], .ok ()) := by
  rw [run_recover_fresh hcln.neighbors hdel]
  unfold recoverFreshDelivery
  rw [hcln.stagedDelivery, hcln.stagedCatalog]
  rfl

/-- Nor is there in one whose delivery matches its catalog. -/
theorem run_recover_matching (hcln : files.Clean) (hcat : files.catalog = some c)
    (hdel : files.delivery = some s) (hmat : s.matchesCatalog c = true) :
    recoverScaleSetReconcileTransactionLocked.run files = ([], .ok ()) := by
  rw [run_recover_beside hcln.neighbors hdel]
  unfold recoverBesideDelivery recoverOwnSuccessor
  rw [hcat, hcln.stagedDelivery, hcln.stagedCatalog, run_some_bind,
    refuseIf_not hmat, run_check_ok_bind, run_refuseIf_bind (by simp)]
  rfl

theorem run_recoverFreshDelivery_matching (hph : d.phase = .reconciled)
    (hcat : files.catalog = some c) (hs : files.stagedCatalog = none)
    (hstg : files.stagedDelivery = some d) (hdel : files.delivery = none)
    (hmat : d.matchesCatalog c = true) :
    (recoverFreshDelivery files).run files = ([.publishDelivery], .ok ()) := by
  have hf : ¬ (d.revision ≠ 1 ∨ d.phase ≠ .reconciled) := by
    simp [hph, revision_of_reconciled hph]
  unfold recoverFreshDelivery
  rw [hstg, hcat, hs]
  rw [run_refuseIf_bind hf, run_some_bind, if_pos hmat]
  exact run_then (run_synchronizeDelivery hstg) rfl
    (run_publishDelivery hstg (fun _ => hdel))

variable {policy : ScaleSetDeliveryConsumerPolicy}

section

variable (hcln : files.Clean) (hcat : files.catalog = some c) (hdel : files.delivery = none)
include hcln hcat hdel

/-- **The recovery of a reconciled delivery.** -/
theorem recoversPair_reconciled (hevo : c.Evolves tgt) (hd : reconciled del c tgt = .ok d) :
    RecoversPair recoverScaleSetReconcileTransactionLocked files c tgt d := by
  obtain ⟨hph, hp, hmat⟩ := reconciled_eq_ok hd
  have hfst : ¬ (d.revision ≠ 1 ∨ d.phase ≠ .reconciled) := by
    simp [hph, revision_of_reconciled hph]
  -- the delivery is bound to the new catalog, not to the old one
  have hold : tgt ≠ c → ¬ d.matchesCatalog c = true :=
    fun htgt h => htgt (eq_of_bindsCatalog h hmat hevo)
  constructor
  · exact run_recover_clean hcln hdel
  · intro htgt
    refine Eq.trans (run_recover_fresh hcln.neighbors hdel) ?_
    unfold recoverFreshDelivery deliveryStaged
    rw [run_refuseIf_bind hfst, hcat, hcln.stagedCatalog, run_some_bind]
    rw [if_neg (hold htgt), if_pos hp]
    rfl
  · rintro rfl
    refine Eq.trans (run_recover_fresh hcln.neighbors hdel) ?_
    exact run_recoverFreshDelivery_matching hph hcat hcln.stagedCatalog rfl hdel
      hmat
  · intro htgt
    refine Eq.trans (run_recover_fresh hcln.neighbors hdel) ?_
    unfold recoverFreshDelivery pairStaged
    dsimp only
    rw [run_refuseIf_bind hfst, hcat, run_some_bind, if_neg (fun h => htgt h.2),
      run_refuseIf_bind (by simp [hp, hmat])]
    exact run_then (run_synchronizeDelivery rfl) rfl
      (run_then (run_mapError_of_ok (run_synchronizeCatalog rfl)) rfl
        (run_then (run_publishCatalog rfl replaces) rfl
          (run_publishDelivery rfl (fun _ => hdel))))
  · intro htgt
    refine Eq.trans (run_recover_fresh hcln.neighbors hdel) ?_
    exact run_recoverFreshDelivery_matching hph rfl hcln.stagedCatalog rfl hdel hmat
  · exact run_recover_matching ⟨hcln.stagedCatalog, hcln.stagedDelivery, hcln.neighbors⟩ rfl
      rfl hmat

/-- **What a crash leaves of the publication of a new delivery**: the store as
it was, or what a crash leaves of its pair. -/
theorem crash_publishScaleSetReconciledDelivery {observedAt : EpochMillis}
    {expected : DisposableAttemptCatalogRevision}
    (h : Tx.Crash (publishScaleSetReconciledDelivery expected policy del observedAt) files t) :
    t = files ∨ ∃ tgt d, policy.reconcileScaleSetDelivery del c observedAt = .ok tgt
      ∧ reconciled del c tgt = .ok d ∧ Tx.Crash (publishPair c tgt d true) files t := by
  have hq := run_recover_clean hcln hdel
  replace h := (h.of_quiet_bind hq).of_read_bind
  rw [hcat, hdel] at h
  refine crash_check_bind (fun c' hc' => ?_) h
  obtain rfl : c = c' := ok.inj hc'
  refine crash_check_bind fun _ _ => crash_check_bind fun tgt ht =>
    crash_check_bind fun d hd h => ?_
  exact .inr ⟨tgt, d, mapError_eq_ok.mp ht, mapError_eq_ok.mp hd, h.of_bind_pure⟩

/-- A delivery that is not in the store is published with the catalog it is
reconciled into. -/
theorem run_publishScaleSetReconciledDelivery {observedAt : EpochMillis}
    (ht : policy.reconcileScaleSetDelivery del c observedAt = .ok tgt)
    (hd : reconciled del c tgt = .ok d) :
    (publishScaleSetReconciledDelivery c.revision policy del observedAt).run files
      = (publishPair c tgt d true >>= fun _ => pure (tgt, d)).run files := by
  have hq := run_recover_clean hcln hdel
  unfold publishScaleSetReconciledDelivery
  rw [run_bind_of_quiet hq, run_read_bind, hcat, hdel, run_some_bind]
  show (publishFreshDelivery c c.revision policy del observedAt).run files = _
  unfold publishFreshDelivery
  rw [refuseIf_not rfl, run_check_ok_bind, ht, mapError_ok, run_check_ok_bind, hd, mapError_ok,
    run_check_ok_bind]

end

/-- **The publication of a reconciled delivery is atomic.** Wherever it is cut
off, and however often the recovery is cut off after it, a complete recovery
leaves the old pair or the new one, and always the same of the two. -/
theorem publishScaleSetReconciledDelivery_atomic {del : ScaleSetDelivery} {observedAt : EpochMillis}
    {expected : DisposableAttemptCatalogRevision} (hcln : files.Clean)
    (hcat : files.catalog = some c) (hdel : files.delivery = none)
    (h : Tx.Crash (publishScaleSetReconciledDelivery expected policy del observedAt) files t) :
    ∃ goal, (goal = files ∨ ∃ tgt d, policy.reconcileScaleSetDelivery del c observedAt = .ok tgt
          ∧ ScaleSetDeliveryRecoveryState.reconciled del c tgt = .ok d
          ∧ d.phase = .reconciled ∧ d.matchesCatalog tgt = true
          ∧ goal = { files with catalog := some tgt, delivery := some d })
      ∧ ∀ u, Relation.ReflTransGen (Tx.Crash recoverScaleSetReconcileTransactionLocked) t u →
        Tx.Completes recoverScaleSetReconcileTransactionLocked u goal := by
  obtain rfl | ⟨tgt, d, ht, hd, hcr⟩ :=
    crash_publishScaleSetReconciledDelivery hcln hcat hdel h
  · refine ⟨t, .inl rfl, fun u => completes_of_quiet (a := ()) ?_⟩
    exact run_recover_clean hcln hdel
  · obtain ⟨hph, -, hmat⟩ := reconciled_eq_ok hd
    obtain ⟨goal, hg, hc⟩ := (recoversPair_reconciled hcln hcat hdel
      (evolves_of_reconcileScaleSetDelivery ht) hd).completes
      hcln hcat (fun _ => hdel) hcr
    refine ⟨goal, hg.imp id fun h => ?_, hc⟩
    exact ⟨tgt, d, ht, hd, hph, hmat, h⟩

end Reconciled

/-! ## A resolution by a later message -/

section Resolved

variable {files t : StoreFiles} {c c' tgt : DisposableAttemptCatalogDocument}
variable {s n : ScaleSetDeliveryRecoveryState} {del : ScaleSetDelivery}
variable {acquired : List ScaleSetRunnerRequestId} {resolution : ScaleSetLifecycleResolution}

/-- **What a resolved state says about the one it resolves**, and about the two
catalogs. -/
theorem resolution_of_prepareLifecycleResolution
    (h : s.prepareLifecycleResolution del acquired c tgt = .ok n) :
    ∃ resolution, n.lifecycleResolution = some resolution
      ∧ n.isLifecycleResolutionOf s resolution.priorCatalog = true
      ∧ resolution.matchesCatalog tgt = true ∧ n.matchesCatalog tgt = true := by
  obtain ⟨hph, hmat, -, digest, hd, hn⟩ := prepareLifecycleResolution_eq_ok h
  have hr := (revision_of_empty hph).1
  have hl : n.lifecycleResolution
      = some (resolutionOf del (orderedIds acquired) c tgt digest) := by
    rw [hn]
    rfl
  refine ⟨_, hl, ?_, bindsCatalog_iff.mpr ⟨rfl, hd⟩, ?_⟩
  · unfold isLifecycleResolutionOf
    rw [hl]
    show (decide (3 = s.revision) && s.matchesCatalog c && decide (c = c)
      && decide (n.priorCatalogRevision = s.priorCatalogRevision)
      && decide (n.priorCatalogDigest = s.priorCatalogDigest)
      && decide (n.delivery = s.delivery)) = true
    rw [hn, hr, hmat]
    simp [resolvedRecord]
  · unfold RecoveryRecord.matchesCatalog
    rw [hn]
    exact bindsCatalog_iff.mpr ⟨rfl, hd⟩

theorem run_recover_resolution (hn : files.neighbors.Settled)
    (hcat : files.catalog = some c) (hdel : files.delivery = some s)
    (hstg : files.stagedDelivery = some n) (hr : n.lifecycleResolution = some resolution)
    (hof : n.isLifecycleResolutionOf s resolution.priorCatalog = true) :
    recoverScaleSetReconcileTransactionLocked.run files
      = (recoverLifecycleResolution files s n c resolution).run files := by
  rw [run_recover_beside hn hdel]
  unfold recoverBesideDelivery
  rw [hcat, hstg, run_some_bind]
  dsimp only
  rw [hr, run_some_bind, if_pos hof]

section

variable (hcln : files.Clean) (hcat : files.catalog = some c)
    (hdel : files.delivery = some s) (hmat : s.matchesCatalog c = true)
include hcln hcat hdel hmat

/-- **The recovery of a resolution.** -/
theorem recoversPair_resolved (hevo : c.Evolves tgt)
    (hn : s.prepareLifecycleResolution del acquired c tgt = .ok n) :
    RecoversPair recoverScaleSetReconcileTransactionLocked files c tgt n := by
  obtain ⟨resolution, hr, hof, ht, hnm⟩ :=
    resolution_of_prepareLifecycleResolution hn
  -- neither binding holds across the change of the catalog
  have hrs : tgt ≠ c → ¬ resolution.matchesCatalog c = true :=
    fun htgt h => htgt (eq_of_bindsCatalog h ht hevo)
  have hs : tgt ≠ c → ¬ s.matchesCatalog tgt = true :=
    fun htgt h => htgt (eq_of_bindsCatalog hmat h hevo)
  constructor
  · exact run_recover_matching hcln hcat hdel hmat
  · intro htgt
    refine Eq.trans (run_recover_resolution hcln.neighbors hcat hdel rfl hr
      hof) ?_
    unfold recoverLifecycleResolution deliveryStaged
    rw [if_pos hmat, hcln.stagedCatalog, if_neg (hrs htgt)]
    rfl
  · rintro rfl
    refine Eq.trans (run_recover_resolution hcln.neighbors hcat hdel rfl hr
      hof) ?_
    unfold recoverLifecycleResolution deliveryStaged
    rw [if_pos hmat, hcln.stagedCatalog, if_pos ht]
    exact run_then (run_synchronizeDelivery rfl) rfl (run_publishDelivery rfl replaces)
  · intro htgt
    refine Eq.trans (run_recover_resolution hcln.neighbors hcat hdel rfl hr
      hof) ?_
    unfold recoverLifecycleResolution pairStaged
    rw [if_pos hmat]
    dsimp only
    rw [if_pos ht]
    exact run_then (run_synchronizeDelivery rfl) rfl
      (run_then (run_mapError_of_ok (run_synchronizeCatalog rfl)) rfl
        (run_then (run_publishCatalog rfl replaces) rfl (run_publishDelivery rfl replaces)))
  · intro htgt
    refine Eq.trans (run_recover_resolution hcln.neighbors rfl hdel rfl hr hof) ?_
    unfold recoverLifecycleResolution catalogPublished
    rw [if_neg (hs htgt), if_pos ht, hcln.stagedCatalog]
    exact run_then (run_synchronizeDelivery rfl) rfl (run_publishDelivery rfl replaces)
  · exact run_recover_matching ⟨hcln.stagedCatalog, hcln.stagedDelivery, hcln.neighbors⟩ rfl
      rfl hnm

/-- **What a crash leaves of the publication of a resolution.** -/
theorem crash_publishScaleSetLifecycleResolution {policy : ScaleSetDeliveryConsumerPolicy}
    {expected : ScaleSetDeliveryRecoveryState}
    (h : Tx.Crash (publishScaleSetLifecycleResolution expected policy del) files t) :
    t = files ∨ ∃ ambiguous tgt acquired n, s.delivery.availableRequestIds = .ok ambiguous
      ∧ policy.reconcileScaleSetAcquisitionResolution ambiguous del c = .ok (tgt, acquired)
      ∧ s.prepareLifecycleResolution del acquired c tgt = .ok n
      ∧ Tx.Crash (publishPair c tgt n false) files t := by
  have hq := run_recover_matching hcln hcat hdel hmat
  replace h := (h.of_quiet_bind hq).of_read_bind
  rw [hcat, hdel] at h
  refine crash_check_bind (fun s' hs' => crash_check_bind fun _ _ =>
    crash_check_bind fun c' hc' => crash_check_bind fun _ _ =>
    crash_check_bind fun ambiguous ha => crash_check_bind fun ⟨tgt, acquired⟩ ht =>
    crash_check_bind fun n hn h => ?_) h
  obtain rfl : s = s' := ok.inj hs'
  obtain rfl : c = c' := ok.inj hc'
  exact .inr ⟨ambiguous, tgt, acquired, n, mapError_eq_ok.mp ha,
    mapError_eq_ok.mp ht, mapError_eq_ok.mp hn, h.of_bind_pure⟩

end

/-- **The publication of a resolution is atomic.** -/
theorem publishScaleSetLifecycleResolution_atomic {policy : ScaleSetDeliveryConsumerPolicy}
    {expected : ScaleSetDeliveryRecoveryState} (hcln : files.Clean)
    (hcat : files.catalog = some c) (hdel : files.delivery = some s)
    (hmat : s.matchesCatalog c = true)
    (h : Tx.Crash (publishScaleSetLifecycleResolution expected policy del) files t) :
    ∃ goal, (goal = files ∨ ∃ ambiguous tgt acquired n,
        s.delivery.availableRequestIds = .ok ambiguous
          ∧ policy.reconcileScaleSetAcquisitionResolution ambiguous del c
            = .ok (tgt, acquired)
          ∧ s.prepareLifecycleResolution del acquired c tgt = .ok n
          ∧ goal = { files with catalog := some tgt, delivery := some n })
      ∧ ∀ u, Relation.ReflTransGen (Tx.Crash recoverScaleSetReconcileTransactionLocked) t u →
        Tx.Completes recoverScaleSetReconcileTransactionLocked u goal := by
  obtain rfl | ⟨ambiguous, tgt, acquired, n, ha, ht, hn, hcr⟩ :=
    crash_publishScaleSetLifecycleResolution hcln hcat hdel hmat h
  · refine ⟨t, .inl rfl, fun u => completes_of_quiet (a := ()) ?_⟩
    exact run_recover_matching hcln hcat hdel hmat
  · obtain ⟨-, events, out, -, hf, -⟩ := reconcileScaleSetAcquisitionResolution_cases ht
    obtain ⟨goal, hg, hc⟩ := (recoversPair_resolved hcln hcat hdel hmat
      (foldlM_reconcileResolutionEvent_requests hf).2.2 hn).completes
      hcln hcat replaces hcr
    refine ⟨goal, hg.imp id fun h => ?_, hc⟩
    exact ⟨ambiguous, tgt, acquired, n, ha, ht, hn, h⟩

end Resolved

/-! ## A delivery on its way -/

/-- The other files are in order. -/
def settledNeighbors : StoreNeighbors := ⟨.ok .clean, .ok (), .ok ()⟩

theorem settled_settledNeighbors : settledNeighbors.Settled := ⟨rfl, rfl, rfl⟩

/-- A store with an empty catalog. -/
def initialFiles : StoreFiles := ⟨some .empty, none, none, none, settledNeighbors⟩

theorem clean_initialFiles : initialFiles.Clean := ⟨rfl, rfl, settled_settledNeighbors⟩

theorem reconcile_offeredDelivery :
    samplePolicy.reconcileScaleSetDelivery offeredDelivery .empty sampleTime
      = .ok reservedCatalog := by
  decide +kernel

theorem matchesPriorCatalog_observedState : observedState.matchesPriorCatalog .empty = true := by
  decide +kernel

/-- The state of the sample. -/
def reconciledState : ScaleSetDeliveryRecoveryState where
  toRecoveryRecord := { observedState.toRecoveryRecord with revision := 1, phase := .reconciled }
  valid := by decide +kernel

theorem reconciled_offeredDelivery :
    reconciled offeredDelivery .empty reservedCatalog
      = .ok reconciledState := by
  have hp := (bindsCatalog_iff.mp matchesPriorCatalog_observedState).2
  have hd := (bindsCatalog_iff.mp matchesCatalog_observedState).2
  unfold reconciled
  rw [hp, ok_bind, hd, ok_bind]
  exact accept_eq_ok.mpr rfl

theorem encode_reconciledState :
    ∃ bytes, encodeScaleSetDeliveryRecovery reconciledState = .ok bytes :=
  exists_encodeScaleSetDeliveryRecovery _ (fun _ h => by cases h)

section

variable {files : StoreFiles} {st : ScaleSetDeliveryRecoveryState} {α : Type}
    (hstg : files.stagedDelivery = none)
    (henc : ∃ bytes, encodeScaleSetDeliveryRecovery st = .ok bytes)
include hstg henc

/-- **A crash can leave a delivery staged**, whatever comes after it. -/
theorem crash_stage_bind {f : Unit → StoreTx α} :
    Tx.Crash (stageScaleSetDelivery st >>= f) files (files.deliveryStaged st) := by
  refine ⟨[.stageDelivery st], ?_, rfl⟩
  rw [run_bind_of_ok (run_stageScaleSetDelivery_of_encode hstg henc)]
  exact cons_prefix_cons.mpr ⟨rfl, nil_prefix⟩

theorem crash_publishPair_staged {nr : Bool} {c tgt : DisposableAttemptCatalogDocument}
    {f : Unit → StoreTx α} :
    Tx.Crash (publishPair c tgt st nr >>= f) files (files.deliveryStaged st) := by
  unfold publishPair
  rw [bind_assoc]
  exact crash_stage_bind hstg henc

end

theorem publishScaleSetReconciledDelivery_atomic_offered :
    Tx.Crash (publishScaleSetReconciledDelivery DisposableAttemptCatalogDocument.empty.revision
        samplePolicy offeredDelivery sampleTime) initialFiles
        (initialFiles.deliveryStaged reconciledState)
      ∧ ∃ goal, Tx.Completes recoverScaleSetReconcileTransactionLocked
        (initialFiles.deliveryStaged reconciledState) goal := by
  have hc : Tx.Crash (publishScaleSetReconciledDelivery
      DisposableAttemptCatalogDocument.empty.revision samplePolicy offeredDelivery sampleTime)
      initialFiles (initialFiles.deliveryStaged reconciledState) :=
    (crash_congr (run_publishScaleSetReconciledDelivery clean_initialFiles rfl rfl
      reconcile_offeredDelivery reconciled_offeredDelivery)).mpr
      (crash_publishPair_staged rfl encode_reconciledState)
  obtain ⟨goal, -, hcm⟩ :=
    publishScaleSetReconciledDelivery_atomic clean_initialFiles rfl rfl hc
  exact ⟨hc, goal, hcm _ .refl⟩

/-- A store with the offered message, after an empty answer to the second
acquisition. -/
def observedFiles : StoreFiles :=
  { initialFiles with catalog := some reservedCatalog, delivery := some observedState }

theorem clean_observedFiles : observedFiles.Clean := ⟨rfl, rfl, settled_settledNeighbors⟩

theorem exists_encode_assignedDelivery :
    ∃ bytes, encodeScaleSetDelivery assignedDelivery = .ok bytes := by
  have hok : (encodeScaleSetDelivery assignedDelivery).isOk = true := by decide +kernel
  cases henc : encodeScaleSetDelivery assignedDelivery with
  | error e =>
    rw [henc] at hok
    cases hok
  | ok bytes => exact ⟨bytes, rfl⟩

theorem resolution_assignedDelivery :
    samplePolicy.reconcileScaleSetAcquisitionResolution [⟨1, by decide, by decide⟩]
      assignedDelivery reservedCatalog = .ok (reservedCatalog, [⟨1, by decide, by decide⟩]) := by
  decide +kernel

theorem publishScaleSetLifecycleResolution_atomic_assigned :
    ∃ n, Tx.Crash (publishScaleSetLifecycleResolution observedState samplePolicy assignedDelivery)
        observedFiles (observedFiles.deliveryStaged n)
      ∧ ∃ goal, Tx.Completes recoverScaleSetReconcileTransactionLocked
        (observedFiles.deliveryStaged n) goal := by
  obtain ⟨n, hn⟩ := prepareLifecycleResolution_assignedDelivery
  have henc : ∃ bytes, encodeScaleSetDeliveryRecovery n = .ok bytes := by
    refine exists_encodeScaleSetDeliveryRecovery n fun resolution hcr => ?_
    obtain ⟨-, -, -, digest, -, hrec⟩ := prepareLifecycleResolution_eq_ok hn
    rw [hrec] at hcr
    obtain rfl := Option.some.inj hcr
    exact exists_encode_assignedDelivery
  have hrun : (publishScaleSetLifecycleResolution observedState samplePolicy assignedDelivery).run
      observedFiles = (publishPair reservedCatalog reservedCatalog n false >>= fun _ => pure n).run
        observedFiles := by
    have hcat : observedFiles.catalog = some reservedCatalog := rfl
    have hdel : observedFiles.delivery = some observedState := rfl
    have hamb : observedState.delivery.availableRequestIds
      = .ok [⟨1, by decide, by decide⟩] := rfl
    unfold publishScaleSetLifecycleResolution
    rw [run_bind_of_quiet (run_recover_matching clean_observedFiles rfl rfl
        matchesCatalog_observedState), run_read_bind, hcat, hdel, run_some_bind,
      run_refuseIf_bind (by decide), run_some_bind, refuseIf_not matchesCatalog_observedState,
      run_check_ok_bind, hamb, mapError_ok, run_check_ok_bind, resolution_assignedDelivery,
      mapError_ok, run_check_ok_bind]
    dsimp only
    rw [hn, mapError_ok, run_check_ok_bind]
  have hc := (crash_congr hrun).mpr (crash_publishPair_staged rfl henc)
  obtain ⟨goal, -, hcm⟩ := publishScaleSetLifecycleResolution_atomic clean_observedFiles
    rfl rfl matchesCatalog_observedState hc
  exact ⟨n, hc, goal, hcm _ .refl⟩

end Glaeda
