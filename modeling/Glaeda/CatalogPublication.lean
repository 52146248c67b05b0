import Glaeda.CatalogSuccessor
import Glaeda.StoreRecovery

/-!
# Publishing one document

The catalog and the document of the personal worker are published in the same
way: staged, then renamed over the current one. A crash in between leaves a
staged document, and the recovery that follows has to decide about it with
nothing but the two documents in hand – it checks the staged one against the
current one *again*, with a relation of successors that was written apart from
the operations. Whatever an operation leads to and this relation does not
know could never be recovered.

For the catalog there are two such relations. The one a replacement has to
pass knows the operations of the catalog; the one a staged document has to
pass also knows the bind of a machine identity, which only the clone
transaction publishes. With it, **both stores are recovered to the old
document or to the new one** wherever a publication is cut off
(`publication_atomic`).
-/

namespace Glaeda

open Checked Transaction Tx DisposableAttemptCatalogDocument PersonalStoreFiles

/-! ## The store of the catalog -/

/-- What a write did. -/
inductive DisposableAttemptCatalogWriteDisposition where
  | created
  | replaced
  | satisfied
deriving DecidableEq, Repr

/-- The answer to a write. -/
structure DisposableAttemptCatalogWriteReceipt where
  disposition : DisposableAttemptCatalogWriteDisposition
  catalogRevision : DisposableAttemptCatalogRevision
  attemptRevision : Option DisposableAttemptRevision
deriving DecidableEq, Repr

/-- A refusal of the store, as the catalog gives it. -/
def mapUnsettledError (message : String) (error : PersonalWorkerStoreError) :
    DisposableAttemptCatalogError :=
  if error.kind = .revisionConflict then ⟨.recoveryRequired, message⟩
  else mapPersonalError error

/-- There is no message to settle. -/
def refuseUnsettledScaleSetDelivery (files : StoreFiles) : Except PersonalWorkerStoreError Unit :=
  refuseIf (files.stagedDelivery.isSome ∨ files.delivery.isSome)
    (storeConflict "Scale Set delivery reconciliation must settle before unrelated mutation")

/-- The other files are in order. -/
def refuseUnsettledCatalogNeighbors (files : StoreFiles) :
    Except DisposableAttemptCatalogError Unit := do
  files.neighbors.templateGeneration.mapError mapPersonalError
  files.neighbors.limaAuthority.mapError (mapUnsettledError
    "Lima lifecycle recovery must complete before disposable-attempt mutation")
  (refuseUnsettledScaleSetDelivery files).mapError (mapUnsettledError
    "Scale Set delivery reconciliation must complete before disposable-attempt mutation")

namespace CatalogStore

/-- **Recover the catalog.** Opening the store does this. -/
def recover : CatalogTx Unit := do
  let files ← Tx.read
  Tx.check (refuseUnsettledCatalogNeighbors files)
  recoverCatalogLocked

/-- A catalog is staged and published. -/
def write (noReplace : Bool) (document : DisposableAttemptCatalogDocument) : CatalogTx Unit := do
  stageCatalog document
  ((publishCatalog noReplace).mapError mapPersonalError).onFailure [.removeCatalogStage]

/-- **Write the first catalog.** -/
def create (document : DisposableAttemptCatalogDocument) :
    CatalogTx DisposableAttemptCatalogWriteReceipt := do
  Tx.check (refuseIf (document ≠ .empty)
    ⟨.conflict, "initial disposable-attempt catalog must be empty revision one"⟩)
  recover
  let files ← Tx.read
  Tx.check (refuseIf files.catalog.isSome
    ⟨.alreadyExists, "disposable-attempt catalog already exists"⟩)
  write true document
  return ⟨.created, document.revision, none⟩

/-- **Replace the catalog** of an expected revision by a successor of it. -/
def replaceIfRevision (expectedRevision : DisposableAttemptCatalogRevision)
    (document : DisposableAttemptCatalogDocument) :
    CatalogTx DisposableAttemptCatalogWriteReceipt := do
  recover
  let files ← Tx.read
  let current ← Tx.check (okOr files.catalog
    ⟨.missing, "disposable-attempt catalog does not exist"⟩)
  Tx.check (refuseIf (current.revision ≠ expectedRevision)
    ⟨.conflict, "disposable-attempt catalog revision changed before publication"⟩)
  Tx.check (document.validateSuccessorOf current)
  write false document
  return ⟨.replaced, document.revision, none⟩

end CatalogStore

/-! ## The clone transaction -/

/-- The kinds of failure. -/
inductive DisposableCloneRuntimeErrorKind where
  | invalidConfiguration | durableState | observation | command | recoveryRequired
deriving DecidableEq, Repr

/-- A failure, with its code and text. -/
structure DisposableCloneRuntimeError where
  kind : DisposableCloneRuntimeErrorKind
  code : String
  message : String
deriving DecidableEq, Repr

namespace DisposableCloneRuntimeError

/-- The state on disk is not usable. -/
def durable (code : String) : DisposableCloneRuntimeError :=
  ⟨.durableState, code, "durable disposable-clone state is unavailable or inconsistent"⟩

/-- The clone has to be recovered. -/
def recovery (code : String) : DisposableCloneRuntimeError :=
  ⟨.recoveryRequired, code, "the disposable clone requires recovery before it can advance"⟩

end DisposableCloneRuntimeError

/-- A transaction of the clone runtime. -/
abbrev CloneTx (α : Type) := Tx StoreFiles.apply DisposableCloneRuntimeError α

/-- **Publish a checkpoint of the clone transaction.** -/
def publishCloneCatalog (document : DisposableAttemptCatalogDocument)
    (stageCode publishCode : String) : CloneTx Unit := do
  (stageCatalog document).mapError (fun _ => .durable stageCode)
  ((publishCatalog false).mapError (fun _ => .recovery publishCode)).onFailure
    [.removeCatalogStage]

/-! ## Runs from a clean store -/

/-- **A store in which the catalog may be changed**: its neighbors are settled
and nothing is staged. -/
structure StoreFiles.CatalogReady (files : StoreFiles) : Prop where
  /-- The template generation, the machine authority and the delivery are
  settled. -/
  neighbors : refuseUnsettledCatalogNeighbors files = .ok ()
  personalWorker : refuseUnsettledPersonalWorkerState files.neighbors = .ok ()

namespace CatalogStore

variable {files t : StoreFiles} {c d : DisposableAttemptCatalogDocument}
variable {noReplace : Bool}

/-- The files with another catalog. -/
def published (files : StoreFiles) (document : DisposableAttemptCatalogDocument) : StoreFiles :=
  { files with catalog := some document, stagedCatalog := none }

theorem run_recover (hr : files.CatalogReady) :
    recover.run files = recoverCatalogLocked.run files := by
  unfold recover
  rw [run_read_bind, hr.neighbors, run_check_ok_bind]

theorem run_recover_clean (hr : files.CatalogReady) (hc : files.stagedCatalog = none) :
    recover.run files = ([], .ok ()) := by
  rw [run_recover hr]
  unfold recoverCatalogLocked
  rw [run_read_bind, hr.personalWorker, run_check_ok_bind, catalogRecoveryPlan, hc,
    run_check_ok_bind]
  rfl

theorem run_recover_staged (hr : files.CatalogReady) (hs : files.stagedCatalog = some d)
    (hp : catalogRecoveryPlan files = .ok (.publishStaged noReplace))
    (hf : noReplace = true → files.catalog = none) :
    recover.run files = ([.publishCatalog], .ok ()) := by
  rw [run_recover hr]
  unfold recoverCatalogLocked
  rw [run_read_bind, hr.personalWorker, run_check_ok_bind, hp, run_check_ok_bind, hs]
  rw [run_some_bind, run_bind_of_quiet (run_synchronizeCatalog hs)]
  exact run_mapError_of_ok (run_publishCatalog hs hf)

theorem settles_recover (hc : files.stagedCatalog = none) :
    Settles recover files fun effects _ => effects = [] ∧ files.CatalogReady := by
  refine .read_bind (.check_bind fun _ hn => .read_bind (.check_bind fun _ hp => ?_))
  rw [catalogRecoveryPlan, hc]
  exact .of_run rfl ⟨rfl, hn, hp⟩

theorem run_write (hc : files.stagedCatalog = none)
    (hf : noReplace = true → files.catalog = none) :
    (write noReplace d).run files = ([.stageCatalog d, .publishCatalog], .ok ()) := by
  have hp : (publishCatalog noReplace).run (files.apply (.stageCatalog d))
      = ([.publishCatalog], .ok ()) := run_publishCatalog rfl hf
  exact run_then (run_stageCatalog hc) rfl (run_onFailure_of_ok (run_mapError_of_ok hp))

theorem run_publishCloneCatalog {stageCode publishCode : String}
    (hc : files.stagedCatalog = none) :
    (publishCloneCatalog d stageCode publishCode).run files
      = ([.stageCatalog d, .publishCatalog], .ok ()) := by
  have hp : (publishCatalog false).run (files.apply (.stageCatalog d))
      = ([.publishCatalog], .ok ()) := run_publishCatalog rfl replaces
  exact run_then (run_mapError_of_ok (run_stageCatalog hc)) rfl
    (run_onFailure_of_ok (run_mapError_of_ok hp))

/-- **The first catalog of a clean store** is refused and changes nothing, or
published where there was none. -/
theorem settles_create (d : DisposableAttemptCatalogDocument) (hcln : files.stagedCatalog = none) :
    Settles (create d) files fun effects _ =>
      effects = [.stageCatalog d, .publishCatalog] ∧ files.CatalogReady
        ∧ files.catalog = none ∧ d = .empty := by
  refine .check_bind fun _ he => .quiet_bind ((settles_recover hcln).imp
    fun _ _ ⟨hef, hr⟩ => ⟨hef, .read_bind (.check_bind fun _ hc => ?_)⟩)
  rw [refuseIf_eq_ok, not_not] at he
  rw [refuseIf_eq_ok, Option.not_isSome_iff_eq_none] at hc
  exact .of_run (run_then (run_write hcln fun _ => hc) rfl rfl)
    ⟨rfl, hr, hc, he⟩

/-- **A replacement of the catalog of a clean store** is refused and changes
nothing, or publishes a successor of the current catalog. -/
theorem settles_replaceIfRevision (expected : DisposableAttemptCatalogRevision)
    (d : DisposableAttemptCatalogDocument) (hc : files.stagedCatalog = none) :
    Settles (replaceIfRevision expected d) files fun effects _ =>
      effects = [.stageCatalog d, .publishCatalog] ∧ ∃ cur, files.CatalogReady
        ∧ files.catalog = some cur ∧ d.validateSuccessorOf cur = .ok () := by
  refine .quiet_bind ((settles_recover hc).imp
    fun _ _ ⟨he, hr⟩ => ⟨he, .read_bind (.check_bind fun cur hcat => ?_)⟩)
  refine .check_bind fun _ _ => .check_bind fun _ hs => ?_
  exact .of_run (run_then (run_write hc replaces) rfl rfl)
    ⟨rfl, cur, hr, okOr_eq_ok.mp hcat, hs⟩

/-! ## Crashes -/

/-- **A publication is atomic**: wherever it is cut off, the recovery leaves the
old catalog or the new one. -/
theorem completes_recover_of_crash {ε α : Type} {x : Tx StoreFiles.apply ε α}
    (hr : files.CatalogReady) (hc : files.stagedCatalog = none)
    (hrun : (x.run files).1 = [.stageCatalog d, .publishCatalog])
    (hp : catalogRecoveryPlan (files.apply (.stageCatalog d))
      = .ok (.publishStaged noReplace))
    (hf : noReplace = true → files.catalog = none) (h : Tx.Crash x files t) :
    Tx.Completes recover t files ∨ Tx.Completes recover t (published files d) := by
  have hs : (files.apply (.stageCatalog d)).CatalogReady :=
    ⟨hr.neighbors, hr.personalWorker⟩
  have hpb : (published files d).CatalogReady :=
    ⟨hr.neighbors, hr.personalWorker⟩
  exact completes_of_two_steps hrun (Tx.Completes.of_run (run_recover_clean hr hc))
    (Tx.Completes.of_run (run_recover_staged hs rfl hp hf))
    (Tx.Completes.of_run (run_recover_clean hpb rfl)) h

theorem plan_create (hc : files.catalog = none) :
    catalogRecoveryPlan (files.apply (.stageCatalog .empty)) = .ok (.publishStaged true) := by
  unfold catalogRecoveryPlan StoreFiles.apply
  rw [hc]
  exact if_neg (not_not.mpr rfl)

theorem plan_successor (hc : files.catalog = some c)
    (hs : d.validateRecoverySuccessorOf c = .ok ()) :
    catalogRecoveryPlan (files.apply (.stageCatalog d)) = .ok (.publishStaged false) := by
  have hr := revision_of_validateRecoverySuccessorOf hs
  have hne : d ≠ c := by
    rintro rfl
    omega
  have hn : checkedAdd u64Size c.revision.val 1 = some d.revision.val :=
    BoundedRevision.checkedAdd_of_succ (by decide) hr
  unfold catalogRecoveryPlan StoreFiles.apply
  rw [hc]
  dsimp only
  rw [if_neg hne, if_pos hn, hs]
  rfl

/-- **An accepted write of the catalog is atomic.** -/
theorem completes_of_write {x : CatalogTx DisposableAttemptCatalogWriteReceipt}
    {receipt : DisposableAttemptCatalogWriteReceipt} (hc : files.stagedCatalog = none)
    (hx : x = create d ∨ ∃ expected, x = replaceIfRevision expected d)
    (ha : (x.run files).2 = .ok receipt) (h : Tx.Crash x files t) :
    Tx.Completes recover t files ∨ Tx.Completes recover t (published files d) := by
  obtain rfl | ⟨expected, rfl⟩ := hx
  · obtain ⟨hrun, hr, hn, rfl⟩ := (settles_create d hc).of_ok ha
    exact completes_recover_of_crash hr hc hrun (plan_create hn) (fun _ => hn) h
  · obtain ⟨hrun, cur, hr, hcat, hs⟩ :=
      (settles_replaceIfRevision expected d hc).of_ok ha
    exact completes_recover_of_crash hr hc hrun
      (plan_successor hcat (validateRecoverySuccessorOf_of_successor hs)) replaces h

end CatalogStore

namespace PersonalWorkerStore

variable {files t : PersonalStoreFiles} {d : PersonalWorkerStoreDocument}

theorem plan_create (hc : files.current = none) (hr : d.revision.val = 1)
    (hh : d.history = []) :
    (files.apply (.stage d)).recoveryPlan = .ok (.publishStaged true) := by
  unfold recoveryPlan apply
  rw [hc]
  exact if_neg (by simp [hr, hh])

theorem plan_successor {cur : PersonalWorkerStoreDocument} (hc : files.current = some cur)
    (hs : d.validateSuccessorOf cur = .ok ()) :
    (files.apply (.stage d)).recoveryPlan = .ok (.publishStaged false) := by
  have hr : ¬ d.revision.val ≤ cur.revision.val := by
    obtain ⟨hn, -⟩ := PersonalWorkerStoreDocument.counts_of_validateSuccessorOf hs
    omega
  unfold recoveryPlan apply
  rw [hc]
  dsimp only
  rw [if_neg hr, hs]
  rfl

/-- **An accepted write of the personal worker is atomic.** -/
theorem completes_of_write {x : PersonalStoreTx PersonalWorkerStoreWriteReceipt}
    {receipt : PersonalWorkerStoreWriteReceipt} (hc : files.staged = none)
    (hx : x = create d ∨ ∃ expected, x = replaceIfRevision expected d)
    (hacc : (x.run files).2 = .ok receipt) (h : Tx.Crash x files t) :
    Tx.Completes recover t files ∨ Tx.Completes recover t (published files d) := by
  obtain rfl | ⟨expected, rfl⟩ := hx
  · obtain ⟨hr, ha, hn, hrev, hh⟩ :=
      (settles_create d hc).of_ok hacc
    exact completes_recover_of_crash ha hc hr (plan_create hn hrev hh)
      (fun hf => by simp [hn] at hf) h
  · obtain ⟨hr, -, -, cur, ha, hcur, hs⟩ :=
      (settles_replaceIfRevision expected d hc).of_ok hacc
    exact completes_recover_of_crash ha hc hr (plan_successor hcur hs)
      (fun hf => Bool.false_ne_true hf.1) h

end PersonalWorkerStore

/-! ## Both stores -/

/-- **Publishing one document is atomic**, for the personal worker and for the
catalog. From a clean store, an accepted write that is cut off anywhere is
recovered without error to the old document or to the new one, and nothing is
left staged. The catalogs that are published this way are those of every
operation, the bind of a machine identity among them – which is no successor
for a replacement, and one for the recovery. -/
theorem publication_atomic :
    (∀ (files t : PersonalStoreFiles) (d : PersonalWorkerStoreDocument)
        (x : PersonalStoreTx PersonalWorkerStoreWriteReceipt)
        (receipt : PersonalWorkerStoreWriteReceipt), files.staged = none →
      (x = PersonalWorkerStore.create d
        ∨ ∃ expected, x = PersonalWorkerStore.replaceIfRevision expected d) →
      (x.run files).2 = .ok receipt → Tx.Crash x files t →
      Tx.Completes PersonalWorkerStore.recover t files ∨ Tx.Completes PersonalWorkerStore.recover t
          { files with current := some d, staged := none })
    ∧ (∀ (files t : StoreFiles) (d : DisposableAttemptCatalogDocument)
        (x : CatalogTx DisposableAttemptCatalogWriteReceipt)
        (receipt : DisposableAttemptCatalogWriteReceipt), files.stagedCatalog = none →
      (x = CatalogStore.create d
        ∨ ∃ expected, x = CatalogStore.replaceIfRevision expected d) →
      (x.run files).2 = .ok receipt → Tx.Crash x files t →
      Tx.Completes CatalogStore.recover t files ∨ Tx.Completes CatalogStore.recover t
          { files with catalog := some d, stagedCatalog := none })
    ∧ (∀ (files t : StoreFiles) (c n : DisposableAttemptCatalogDocument)
        (operation : CatalogOperation) (stageCode publishCode : String),
      files.CatalogReady → files.stagedCatalog = none → files.catalog = some c →
      c.operate operation = .ok n → n ≠ c →
      Tx.Crash (publishCloneCatalog n stageCode publishCode) files t →
      Tx.Completes CatalogStore.recover t files ∨ Tx.Completes CatalogStore.recover t
          { files with catalog := some n, stagedCatalog := none })
    ∧ ∀ (c n : DisposableAttemptCatalogDocument) (attemptId : DisposableAttemptId)
        (revision : DisposableAttemptRevision) (identity : DisposableVmIdentity),
      c.bindVmIdentityAfterClone attemptId revision identity = .ok n →
      n.validateSuccessorOf c ≠ .ok () ∧ n.validateRecoverySuccessorOf c = .ok () := by
  refine ⟨?_, ?_, ?_, ?_⟩
  · intro files t d x receipt hcln hx hacc h
    exact PersonalWorkerStore.completes_of_write hcln hx hacc h
  · intro files t d x receipt hcln hx hacc h
    exact CatalogStore.completes_of_write hcln hx hacc h
  · intro files t c n operation stageCode publishCode hrdy hcln hcat ho hne h
    -- so is the publication of whatever an operation leads to
    exact CatalogStore.completes_recover_of_crash hrdy hcln
      (congrArg Prod.fst (CatalogStore.run_publishCloneCatalog hcln))
      (CatalogStore.plan_successor hcat
        (validateRecoverySuccessorOf_operate ho hne)) replaces h
  · intro c n attemptId revision identity h
    exact ⟨not_validateSuccessorOf_bind h, validateRecoverySuccessorOf_bind h⟩

/-- A store with this catalog, or with none. -/
def sampleStore (catalog : Option DisposableAttemptCatalogDocument) : StoreFiles :=
  ⟨catalog, none, none, none, ⟨.ok .clean, .ok (), .ok ()⟩⟩

/-- The first catalog, and the first document of the personal worker, are staged
and never published; and a machine is bound to an attempt, which is cut off
anywhere. -/
theorem publication_atomic_samples :
    (Tx.Completes CatalogStore.recover { sampleStore none with stagedCatalog := some .empty }
        (sampleStore none)
      ∨ Tx.Completes CatalogStore.recover { sampleStore none with stagedCatalog := some .empty }
        (sampleStore (some .empty)))
    ∧ (Tx.Completes PersonalWorkerStore.recover
        { sampleFiles with current := none, staged := some sampleDocument }
        { sampleFiles with current := none }
      ∨ Tx.Completes PersonalWorkerStore.recover
        { sampleFiles with current := none, staged := some sampleDocument } sampleFiles)
    ∧ ∃ n, clonedCatalog.bindVmIdentityAfterClone (numberedReserved ⟨1, by decide⟩).attemptId
        ⟨3, by decide, by decide⟩ sampleVmIdentity = .ok n
      ∧ n.validateSuccessorOf clonedCatalog ≠ .ok ()
      ∧ ∀ t, Tx.Crash (publishCloneCatalog n "stage" "publish")
          (sampleStore (some clonedCatalog)) t →
        Tx.Completes CatalogStore.recover t (sampleStore (some clonedCatalog))
          ∨ Tx.Completes CatalogStore.recover t (sampleStore (some n)) := by
  refine ⟨?_, ?_, ?_⟩
  · have hacc : ((CatalogStore.create .empty).run (sampleStore none)).2.isOk = true := by
      decide +kernel
    obtain ⟨e, hrun⟩ | ⟨_, receipt, hrun, rfl, -⟩ :=
      @CatalogStore.settles_create (sampleStore none) .empty rfl
    · rw [hrun] at hacc
      cases hacc
    · refine publication_atomic.2.1 _ _ _ _ _ rfl (.inl rfl) (congrArg Prod.snd hrun) ?_
      rw [crash_iff (congrArg Prod.fst hrun)]
      exact List.mem_cons_of_mem _ List.mem_cons_self
  · have hacc : ((PersonalWorkerStore.create sampleDocument).run
        { sampleFiles with current := none }).2.isOk = true := by
      decide +kernel
    obtain ⟨e, hrun⟩ | ⟨_, receipt, hrun, rfl, -⟩ :=
      @PersonalWorkerStore.settles_create { sampleFiles with current := none } sampleDocument rfl
    · rw [hrun] at hacc
      cases hacc
    · refine publication_atomic.1 _ _ _ _ _ rfl (.inl rfl) (congrArg Prod.snd hrun) ?_
      rw [crash_iff (congrArg Prod.fst hrun)]
      exact List.mem_cons_of_mem _ List.mem_cons_self
  · have hb : ∃ n ∈ (clonedCatalog.bindVmIdentityAfterClone
        (numberedReserved ⟨1, by decide⟩).attemptId ⟨3, by decide, by decide⟩
        sampleVmIdentity).toOption, n ≠ clonedCatalog := by decide +kernel
    obtain ⟨n, hn, hne⟩ := hb
    have hn := eq_ok_of_mem_toOption hn
    refine ⟨n, hn, (publication_atomic.2.2.2 _ _ _ _ _ hn).1, fun t hc => ?_⟩
    exact publication_atomic.2.2.1 (sampleStore (some clonedCatalog)) t clonedCatalog n
      (.bind _ _ _) "stage" "publish" ⟨rfl, rfl⟩ rfl rfl hn hne hc

end Glaeda
