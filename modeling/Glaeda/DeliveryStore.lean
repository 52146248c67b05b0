import Glaeda.DeliverySettlement
import Glaeda.PersonalPublication

/-!
# The store of deliveries

A delivery is kept in a private directory beside the catalog. Each of the two
has a current document and, while a change is on its way, a **staged** one:
a change is written and synchronized under the staged name, and renamed over
the current one. A rename is atomic, so each document is either the old one
or the new one; what has to be recovered is a change of both.

The four files are modelled by the documents they hold, and the transactions
on them by the effects they have: staging a document, publishing it, removing
a file. A staged document is removed again when the transaction that wrote it
fails before it is published, unless the staged delivery was **disarmed**: it
then stands for the intent to change both documents, and only a recovery may
decide about it.

Three kinds of change are published here: a new delivery together with the
catalog it was reconciled into, the resolution of a delivery by a later
message together with its catalog, and a settlement, which publishes the
prepared delivery first, the catalog second and removes the delivery last.
Reopening the store runs the recoveries for all of them.
-/

namespace Glaeda

open Checked Transaction

/-! ## Errors -/

/-- A refusal, as the store gives it. -/
def mapRecoveryError (error : ScaleSetDeliveryRecoveryError) : PersonalWorkerStoreError :=
  ⟨match error.kind with
    | .versionIncompatible => .versionIncompatible
    | .conflict => .revisionConflict
    | .invalidDocument | .documentTooLarge | .nonCanonical | .corruptState => .corruptState,
    "Scale Set delivery recovery state is invalid"⟩

/-- A kind of refusal, as the store gives it. -/
def catalogErrorKind : DisposableAttemptCatalogErrorKind → PersonalWorkerStoreErrorKind
  | .corruptState => .corruptState
  | .busy => .busy
  | .missing => .missing
  | .io => .io
  | .unsafeFilesystem => .unsafeFilesystem
  | .versionIncompatible => .versionIncompatible
  | .alreadyExists | .conflict | .identityDrift | .invalidAction | .limitExceeded
  | .recoveryRequired => .revisionConflict

variable (error : DisposableAttemptCatalogError)

/-- A refusal of the catalog, as the store gives it. -/
def mapCatalogError : PersonalWorkerStoreError :=
  ⟨catalogErrorKind error.kind, error.message⟩

/-- The same, with another text. -/
def mapSettlementCatalogError : PersonalWorkerStoreError :=
  ⟨catalogErrorKind error.kind, "disposable-attempt catalog is invalid"⟩

/-- A refusal of the store, as the catalog gives it. -/
def mapPersonalError (error : PersonalWorkerStoreError) : DisposableAttemptCatalogError :=
  ⟨match error.kind with
    | .invalidDocument | .corruptState => .corruptState
    | .revisionConflict => .conflict
    | .busy => .busy
    | .missing => .missing
    | .io => .io
    | .unsafeFilesystem => .unsafeFilesystem
    | .versionIncompatible => .versionIncompatible,
    error.publicMessage⟩

/-- A refusal of the codec, as the catalog gives it. -/
def mapCodecError (error : DisposableAttemptCatalogCodecError) : DisposableAttemptCatalogError :=
  ⟨if error.kind = .versionIncompatible then .versionIncompatible else .corruptState,
    "disposable-attempt catalog is invalid or noncanonical"⟩

/-- The catalog makes no sense. -/
def corruptCatalog : DisposableAttemptCatalogError :=
  ⟨.corruptState, "disposable-attempt catalog is corrupt or noncanonical"⟩

/-! ## Files and effects -/

/-- What to do with a staged catalog. -/
inductive StoreRecoveryPlan where
  | clean
  | publishStaged
  | removeStaleStaged
deriving DecidableEq, Repr

/-- **What the other documents of the directory answer** when they are asked
whether they are settled. The transactions on deliveries never change them. -/
structure StoreNeighbors where
  recoveryPlan : Except PersonalWorkerStoreError StoreRecoveryPlan
  templateGeneration : Except PersonalWorkerStoreError Unit
  limaAuthority : Except PersonalWorkerStoreError Unit
deriving DecidableEq

/-- **The files of the store.** -/
structure StoreFiles where
  catalog : Option DisposableAttemptCatalogDocument
  stagedCatalog : Option DisposableAttemptCatalogDocument
  delivery : Option ScaleSetDeliveryRecoveryState
  stagedDelivery : Option ScaleSetDeliveryRecoveryState
  neighbors : StoreNeighbors
deriving DecidableEq

/-- **The durable steps.** -/
inductive StoreEffect where
  | stageDelivery (state : ScaleSetDeliveryRecoveryState)
  | stageCatalog (document : DisposableAttemptCatalogDocument)
  | publishDelivery
  | publishCatalog
  | removeDeliveryStage
  | removeCatalogStage
  | removeDelivery
deriving DecidableEq

variable (files : StoreFiles)

/-- What an effect does to the files. -/
def StoreFiles.apply : StoreEffect → StoreFiles
  | .stageDelivery state => { files with stagedDelivery := some state }
  | .stageCatalog document => { files with stagedCatalog := some document }
  | .publishDelivery => { files with delivery := files.stagedDelivery, stagedDelivery := none }
  | .publishCatalog => { files with catalog := files.stagedCatalog, stagedCatalog := none }
  | .removeDeliveryStage => { files with stagedDelivery := none }
  | .removeCatalogStage => { files with stagedCatalog := none }
  | .removeDelivery => { files with delivery := none }

/-- A transaction of the store. -/
abbrev StoreTx (α : Type) := Tx StoreFiles.apply PersonalWorkerStoreError α

/-- A transaction that refuses as the catalog does. -/
abbrev CatalogTx (α : Type) := Tx StoreFiles.apply DisposableAttemptCatalogError α

/-- What to do with a staged message. -/
inductive RecoveryPlan where
  | clean
  | publishStaged (noReplace : Bool)
  | removeStaleStaged
deriving DecidableEq, Repr

/-- Rename a staged file, unless it is not there or must not replace the
current one. -/
def publishNamedStaged (staged current : Bool) (noReplace : Bool) (effect : StoreEffect) :
    StoreTx Unit := do
  Tx.check (refuseIf (noReplace ∧ current)
    (storeConflict "personal worker state already exists"))
  Tx.check (refuseIf (¬ staged)
    ⟨.io, "could not atomically publish the personal worker state document"⟩)
  Tx.perform effect

/-- The staged message is published. -/
def publishDelivery (noReplace : Bool) : StoreTx Unit := do
  let files ← Tx.read
  publishNamedStaged files.stagedDelivery.isSome files.delivery.isSome noReplace .publishDelivery

/-- The staged catalog is published. -/
def publishCatalog (noReplace : Bool) : StoreTx Unit := do
  let files ← Tx.read
  publishNamedStaged files.stagedCatalog.isSome files.catalog.isSome noReplace .publishCatalog

/-- **Stage a delivery**: its document has to fit. -/
def stageScaleSetDelivery (state : ScaleSetDeliveryRecoveryState) : StoreTx Unit := do
  let _ ← Tx.check ((encodeScaleSetDeliveryRecovery state).mapError mapRecoveryError)
  let files ← Tx.read
  Tx.check (refuseIf files.stagedDelivery.isSome stageExists)
  Tx.perform (.stageDelivery state)

/-- **Stage a catalog.** -/
def stageCatalog (document : DisposableAttemptCatalogDocument) : CatalogTx Unit := do
  let _ ← Tx.check ((encodeDisposableAttemptCatalog document).mapError mapCodecError)
  let files ← Tx.read
  Tx.check (refuseIf files.stagedCatalog.isSome (mapPersonalError stageExists))
  Tx.perform (.stageCatalog document)

/-- The staged message is the expected one. -/
def synchronizeExistingScaleSetDeliveryStage (expected : ScaleSetDeliveryRecoveryState) :
    StoreTx Unit := do
  let files ← Tx.read
  Tx.check (refuseIf (files.stagedDelivery ≠ some expected) corruptState)

/-- The staged catalog is the expected one. -/
def synchronizeExistingCatalogStage (expected : DisposableAttemptCatalogDocument) :
    CatalogTx Unit := do
  let files ← Tx.read
  Tx.check (refuseIf (files.stagedCatalog ≠ some expected) corruptCatalog)

/-- The staged message is removed. -/
def removeUncommittedDeliveryStage : StoreTx Unit := Tx.perform .removeDeliveryStage

/-- The staged catalog is removed. -/
def removeCatalogStage : CatalogTx Unit := Tx.perform .removeCatalogStage

/-! ## One document at a time -/

/-- What to do with a staged message. -/
def scaleSetDeliveryRecoveryPlan : Except PersonalWorkerStoreError RecoveryPlan :=
  match files.stagedDelivery, files.delivery with
  | none, _ => .ok .clean
  | some staged, none =>
    if staged.revision = 1 ∧ staged.phase = .reconciled then .ok (.publishStaged true)
    else .error corruptState
  | some staged, some current =>
    if staged = current then .ok .removeStaleStaged
    else if ScaleSetDeliveryRecoveryState.exactRecoverySuccessor current staged then
      .ok (.publishStaged false)
    else .error corruptState

/-- **Finish or undo the publication of a delivery.** -/
def recoverScaleSetDeliveryLocked : StoreTx Unit := do
  let files ← Tx.read
  let plan ← Tx.check (scaleSetDeliveryRecoveryPlan files)
  match plan with
  | .clean => pure ()
  | .publishStaged noReplace => do
    let staged ← Tx.check (okOr files.stagedDelivery corruptState)
    synchronizeExistingScaleSetDeliveryStage staged
    publishDelivery noReplace
  | .removeStaleStaged => removeUncommittedDeliveryStage

/-- What to do with a staged catalog. -/
def catalogRecoveryPlan : Except DisposableAttemptCatalogError RecoveryPlan :=
  match files.stagedCatalog, files.catalog with
  | none, _ => .ok .clean
  | some staged, none =>
    if staged ≠ .empty then .error corruptCatalog else .ok (.publishStaged true)
  | some staged, some current =>
    if staged = current then .ok .removeStaleStaged
    else if checkedAdd u64Size current.revision.val 1 = some staged.revision.val then do
      (staged.validateRecoverySuccessorOf current).mapError (fun _ => corruptCatalog)
      return .publishStaged false
    else .error corruptCatalog

variable (neighbors : StoreNeighbors)

/-- The personal worker is in order. -/
def refuseUnsettledPersonalWorkerState : Except DisposableAttemptCatalogError Unit := do
  let plan ← neighbors.recoveryPlan.mapError mapPersonalError
  refuseIf (plan ≠ .clean) ⟨.recoveryRequired,
    "personal-worker recovery must complete before disposable-attempt mutation"⟩

/-- **Finish or undo the publication of a catalog.** -/
def recoverCatalogLocked : CatalogTx Unit := do
  let files ← Tx.read
  Tx.check (refuseUnsettledPersonalWorkerState files.neighbors)
  let plan ← Tx.check (catalogRecoveryPlan files)
  match plan with
  | .clean => pure ()
  | .publishStaged noReplace => do
    let staged ← Tx.check (okOr files.stagedCatalog corruptCatalog)
    synchronizeExistingCatalogStage staged
    (publishCatalog noReplace).mapError mapPersonalError
  | .removeStaleStaged => removeCatalogStage

/-! ## A delivery and its catalog -/

/-- The other files are in order. -/
def refuseUnsettledNeighbors (message : String) : Except PersonalWorkerStoreError Unit := do
  let plan ← neighbors.recoveryPlan
  refuseIf (plan ≠ .clean) (storeConflict message)
  neighbors.templateGeneration
  neighbors.limaAuthority

/-- The other files are in order. -/
def refuseUnsettledScaleSetNeighbors : Except PersonalWorkerStoreError Unit :=
  refuseUnsettledNeighbors neighbors
    "personal-worker recovery must complete before Scale Set reconciliation"

/-- **Finish or undo the publication of a resolution.** The current delivery is
the one that is resolved. -/
def recoverLifecycleResolution (currentDelivery staged : ScaleSetDeliveryRecoveryState)
    (currentCatalog : DisposableAttemptCatalogDocument)
    (resolution : ScaleSetLifecycleResolution) : StoreTx Unit :=
  if currentDelivery.matchesCatalog currentCatalog then
    match files.stagedCatalog with
    | some stagedCatalog =>
      if resolution.matchesCatalog stagedCatalog then do
        synchronizeExistingScaleSetDeliveryStage staged
        (synchronizeExistingCatalogStage stagedCatalog).mapError mapCatalogError
        publishCatalog false
        publishDelivery false
      else Tx.fail corruptState
    | none =>
      if resolution.matchesCatalog currentCatalog then do
        synchronizeExistingScaleSetDeliveryStage staged
        publishDelivery false
      else removeUncommittedDeliveryStage
  else if resolution.matchesCatalog currentCatalog then do
    if let some stagedCatalog := files.stagedCatalog then
      Tx.check (refuseIf (stagedCatalog ≠ currentCatalog) corruptState)
      removeCatalogStage.mapError mapCatalogError
    synchronizeExistingScaleSetDeliveryStage staged
    publishDelivery false
  else Tx.fail corruptState

variable (currentDelivery : ScaleSetDeliveryRecoveryState)

/-- A staged successor of the message is published. -/
def recoverOwnSuccessor (currentCatalog : DisposableAttemptCatalogDocument) : StoreTx Unit := do
  Tx.check (refuseIf (¬ currentDelivery.matchesCatalog currentCatalog) corruptState)
  Tx.check (refuseIf files.stagedCatalog.isSome
    (storeConflict "disposable-attempt recovery conflicts with a live Scale Set delivery"))
  if files.stagedDelivery.isSome then
    recoverScaleSetDeliveryLocked

/-- **Recovery beside a current delivery.** Whether the staged delivery
resolves the current one is asked with the catalog of its resolution, so a
staged delivery that has no resolution is refused before it is looked at any
further. -/
def recoverBesideDelivery : StoreTx Unit := do
  let currentCatalog ← Tx.check (okOr files.catalog corruptState)
  match files.stagedDelivery with
  | none => recoverOwnSuccessor files currentDelivery currentCatalog
  | some staged => do
    let resolution ← Tx.check (okOr staged.lifecycleResolution corruptState)
    if staged.isLifecycleResolutionOf currentDelivery resolution.priorCatalog then
      recoverLifecycleResolution files currentDelivery staged currentCatalog resolution
    else recoverOwnSuccessor files currentDelivery currentCatalog

/-- **Recovery without a current delivery.** -/
def recoverFreshDelivery : StoreTx Unit :=
  match files.stagedDelivery with
  | none =>
    if files.stagedCatalog.isSome then recoverCatalogLocked.mapError mapCatalogError
    else pure ()
  | some staged => do
    Tx.check (refuseIf (staged.revision ≠ 1 ∨ staged.phase ≠ .reconciled) corruptState)
    let currentCatalog ← Tx.check (okOr files.catalog corruptState)
    match files.stagedCatalog with
    | some stagedCatalog =>
      if staged.matchesCatalog currentCatalog ∧ stagedCatalog = currentCatalog then do
        removeCatalogStage.mapError mapCatalogError
        synchronizeExistingScaleSetDeliveryStage staged
        publishDelivery true
      else do
        Tx.check (refuseIf (¬ staged.matchesPriorCatalog currentCatalog
          ∨ ¬ staged.matchesCatalog stagedCatalog) corruptState)
        synchronizeExistingScaleSetDeliveryStage staged
        (synchronizeExistingCatalogStage stagedCatalog).mapError mapCatalogError
        publishCatalog false
        publishDelivery true
    | none =>
      if staged.matchesCatalog currentCatalog then do
        -- the catalog is the new one already, or did not change
        synchronizeExistingScaleSetDeliveryStage staged
        publishDelivery true
      else if staged.matchesPriorCatalog currentCatalog then removeUncommittedDeliveryStage
      else Tx.fail corruptState

/-- **The recovery of a paired publication.** -/
def recoverScaleSetReconcileTransactionLocked : StoreTx Unit := do
  let files ← Tx.read
  Tx.check (refuseUnsettledScaleSetNeighbors files.neighbors)
  match files.delivery with
  | some currentDelivery => recoverBesideDelivery files currentDelivery
  | none => recoverFreshDelivery files

/-- **Publish a delivery with its catalog**: the delivery is staged first and
published last. When the catalog changes, the staged delivery is disarmed
before the catalog is staged. -/
def publishPair (currentCatalog target : DisposableAttemptCatalogDocument)
    (state : ScaleSetDeliveryRecoveryState) (noReplace : Bool) : StoreTx Unit := do
  stageScaleSetDelivery state
  if target ≠ currentCatalog then do
    (stageCatalog target).mapError mapCatalogError
    (publishCatalog false).onFailure [.removeCatalogStage]
    publishDelivery noReplace
  else (publishDelivery noReplace).onFailure [.removeDeliveryStage]

/-- The first message is published. -/
def publishFreshDelivery (currentCatalog : DisposableAttemptCatalogDocument)
    (expectedCatalogRevision : DisposableAttemptCatalogRevision)
    (policy : ScaleSetDeliveryConsumerPolicy) (delivery : ScaleSetDelivery)
    (observedAt : EpochMillis) :
    StoreTx (DisposableAttemptCatalogDocument × ScaleSetDeliveryRecoveryState) := do
  Tx.check (refuseIf (currentCatalog.revision ≠ expectedCatalogRevision) (storeConflict
    "disposable-attempt catalog revision changed before Scale Set reconciliation"))
  let catalogSuccessor ← Tx.check ((policy.reconcileScaleSetDelivery delivery currentCatalog
    observedAt).mapError (fun _ => storeConflict
      "Scale Set delivery conflicts with the disposable-attempt catalog"))
  let recovery ← Tx.check ((ScaleSetDeliveryRecoveryState.reconciled delivery currentCatalog
    catalogSuccessor).mapError mapRecoveryError)
  publishPair currentCatalog catalogSuccessor recovery true
  return (catalogSuccessor, recovery)

/-- **Publish a reconciled delivery.** One that is in the store already is
returned as it is. -/
def publishScaleSetReconciledDelivery (expectedCatalogRevision : DisposableAttemptCatalogRevision)
    (policy : ScaleSetDeliveryConsumerPolicy) (delivery : ScaleSetDelivery)
    (observedAt : EpochMillis) :
    StoreTx (DisposableAttemptCatalogDocument × ScaleSetDeliveryRecoveryState) := do
  recoverScaleSetReconcileTransactionLocked
  let files ← Tx.read
  let currentCatalog ← Tx.check (okOr files.catalog
    ⟨.missing, "disposable-attempt catalog is not initialized"⟩)
  match files.delivery with
  | some currentDelivery =>
    if (expectedCatalogRevision = currentCatalog.revision
        ∨ expectedCatalogRevision = currentDelivery.priorCatalogRevision)
        ∧ currentDelivery.matchesCatalog currentCatalog ∧ currentDelivery.delivery = delivery then
      return (currentCatalog, currentDelivery)
    else Tx.fail (storeConflict "a different Scale Set delivery remains unsettled")
  | none =>
    publishFreshDelivery currentCatalog expectedCatalogRevision policy delivery observedAt

variable (expected : ScaleSetDeliveryRecoveryState)

/-- **Publish the resolution of a delivery by a later message.** -/
def publishScaleSetLifecycleResolution
    (policy : ScaleSetDeliveryConsumerPolicy) (delivery : ScaleSetDelivery) :
    StoreTx ScaleSetDeliveryRecoveryState := do
  recoverScaleSetReconcileTransactionLocked
  let files ← Tx.read
  let current ← Tx.check (okOr files.delivery
    ⟨.missing, "ambiguous Scale Set delivery recovery state does not exist"⟩)
  Tx.check (refuseIf (current ≠ expected ∨ current.phase ≠ .acquisitionRecoveryObserved [])
    (storeConflict "Scale Set delivery is not the exact lifecycle-resolution candidate"))
  let currentCatalog ← Tx.check (okOr files.catalog corruptState)
  Tx.check (refuseIf (¬ current.matchesCatalog currentCatalog) corruptState)
  let ambiguous ← Tx.check (current.delivery.availableRequestIds.mapError
    (fun _ => corruptState))
  let (targetCatalog, acquired) ← Tx.check ((policy.reconcileScaleSetAcquisitionResolution
    ambiguous delivery currentCatalog).mapError (fun _ => storeConflict
      "later Scale Set lifecycle evidence conflicts with acquisition recovery"))
  let successor ← Tx.check ((current.prepareLifecycleResolution delivery acquired currentCatalog
    targetCatalog).mapError mapRecoveryError)
  publishPair currentCatalog targetCatalog successor false
  return successor

/-! ## Settlement -/

/-- A settlement: the catalog after it, the state it was prepared in, and how
many requests were acquired. -/
structure ScaleSetDeliverySettlement where
  catalog : DisposableAttemptCatalogDocument
  prepared : ScaleSetDeliveryRecoveryState
  acquired : Nat
deriving DecidableEq

/-- The settlement is that of the message. -/
def ScaleSetDeliverySettlement.matchesExpected (settled : ScaleSetDeliverySettlement)
    (expected : ScaleSetDeliveryRecoveryState) : Bool :=
  expected = settled.prepared
    || match settled.prepared.settlementPriorCatalog with
      | some prior => okIs (expected.prepareSettlement prior settled.catalog) settled.prepared
      | none => false

/-- A settlement is prepared. -/
def ScaleSetDeliveryRecoveryPhase.isSettlementPrepared : ScaleSetDeliveryRecoveryPhase → Bool
  | .settlementPrepared _ _ _ _ _ => true
  | _ => false

/-- There is a settlement, published or staged. -/
def settlementIsPresent (files : StoreFiles) : Bool :=
  files.delivery.any (fun state => state.phase.isSettlementPrepared)
    || files.stagedDelivery.any (fun state => state.phase.isSettlementPrepared)

/-- A settled message is removed. -/
def removeSettledDelivery : StoreTx Unit := do
  let files ← Tx.read
  let current ← Tx.check (okOr files.delivery corruptState)
  Tx.check (refuseIf (current ≠ expected ∨ ¬ current.phase.isSettlementPrepared) corruptState)
  Tx.perform .removeDelivery

variable (prepared : ScaleSetDeliveryRecoveryState)

/-- The answer of a recovered settlement. -/
def finishRecoveredSettlement
    (target : DisposableAttemptCatalogDocument) : StoreTx (Option ScaleSetDeliverySettlement) := do
  let acquired ← Tx.check (okOr prepared.settlementAcquired corruptState)
  removeSettledDelivery prepared
  return some ⟨target, prepared, acquired.length⟩

variable (catalog : DisposableAttemptCatalogDocument)
variable (stagedCatalog : Option DisposableAttemptCatalogDocument)

/-- A stale catalog is removed. -/
def removeStaleCatalogStage : StoreTx Unit :=
  match stagedCatalog with
  | none => pure ()
  | some staged => do
    Tx.check (refuseIf (staged ≠ catalog) corruptState)
    removeCatalogStage.mapError mapSettlementCatalogError

/-- **The catalog of a prepared settlement is the one before it**: derive the
one after it and publish that. A staged catalog that was lost is staged
again. -/
def recoverSettlementForward : StoreTx DisposableAttemptCatalogDocument := do
  let target ← Tx.check ((settleScaleSetDeliveryCatalog prepared catalog).mapError
    (fun _ => corruptState))
  Tx.check (refuseIf (¬ prepared.matchesSettlementCatalog target) corruptState)
  if target ≠ catalog then
    match stagedCatalog with
    | some staged => do
      Tx.check (refuseIf (staged ≠ target) corruptState)
      (synchronizeExistingCatalogStage staged).mapError mapSettlementCatalogError
      publishCatalog false
    | none => do
      (stageCatalog target).mapError mapSettlementCatalogError
      (publishCatalog false).onFailure [.removeCatalogStage]
  else removeStaleCatalogStage catalog stagedCatalog
  return target

/-- **The catalog of a prepared settlement is the one after it**: check that it
is what the catalog before it settles into. -/
def recoverSettlementDone : StoreTx DisposableAttemptCatalogDocument := do
  let prior ← Tx.check (okOr prepared.settlementPriorCatalog corruptState)
  let derived ← Tx.check ((settleScaleSetDeliveryCatalog prepared prior).mapError
    (fun _ => corruptState))
  Tx.check (refuseIf (derived ≠ catalog ∨ ¬ prepared.matchesSettlementCatalog derived)
    corruptState)
  removeStaleCatalogStage catalog stagedCatalog
  return catalog

/-- A prepared settlement is completed. -/
def recoverPreparedSettlement : StoreTx (Option ScaleSetDeliverySettlement) := do
  let files ← Tx.read
  let prepared ← Tx.check (okOr files.delivery corruptState)
  Tx.check (refuseIf (¬ prepared.phase.isSettlementPrepared) corruptState)
  let catalog ← Tx.check (okOr files.catalog corruptState)
  let target ←
    if prepared.matchesCatalog catalog then
      recoverSettlementForward prepared catalog files.stagedCatalog
    else if prepared.matchesSettlementCatalog catalog then
      recoverSettlementDone prepared catalog files.stagedCatalog
    else Tx.fail corruptState
  finishRecoveredSettlement prepared target

/-- **The recovery of a settlement.** -/
def recoverScaleSetSettlementLocked : StoreTx (Option ScaleSetDeliverySettlement) := do
  let files ← Tx.read
  if settlementIsPresent files then
    Tx.check (refuseUnsettledNeighbors files.neighbors
      "personal-worker recovery conflicts with Scale Set settlement")
    if files.stagedDelivery.isSome then
      recoverScaleSetDeliveryLocked
    recoverPreparedSettlement
  else return none

/-- **Reopen the store of the delivery controller**: both recoveries, in this
order. -/
def openOrCreateScaleSetDeliveryController : StoreTx Unit := do
  let _ ← recoverScaleSetSettlementLocked
  recoverScaleSetReconcileTransactionLocked

/-- **Publish a settlement**: both documents are staged, the delivery is
published first and the catalog second. -/
def publishSettlement (catalog target : DisposableAttemptCatalogDocument)
    (prepared : ScaleSetDeliveryRecoveryState) : StoreTx Unit := do
  stageScaleSetDelivery prepared
  if target ≠ catalog then do
    ((stageCatalog target).mapError mapSettlementCatalogError).onFailure [.removeDeliveryStage]
    (publishDelivery false).onFailure [.removeCatalogStage, .removeDeliveryStage]
    (publishCatalog false).onFailure [.removeCatalogStage]
  else (publishDelivery false).onFailure [.removeDeliveryStage]

/-- The message is settled and removed. -/
def settleCurrentDelivery (expected : ScaleSetDeliveryRecoveryState) :
    StoreTx ScaleSetDeliverySettlement := do
  let files ← Tx.read
  let current ← Tx.check (okOr files.delivery
    (storeConflict "Scale Set delivery was already settled"))
  Tx.check (refuseIf (current ≠ expected)
    (storeConflict "Scale Set delivery changed before settlement"))
  let catalog ← Tx.check (okOr files.catalog corruptState)
  let target ← Tx.check ((settleScaleSetDeliveryCatalog current catalog).mapError
    (fun _ => corruptState))
  let prepared ← Tx.check ((current.prepareSettlement catalog target).mapError mapRecoveryError)
  publishSettlement catalog target prepared
  removeSettledDelivery prepared
  let acquired ← Tx.check (okOr prepared.settlementAcquired corruptState)
  return ⟨target, prepared, acquired.length⟩

/-- **Settle a delivery**, unless a recovery just did. -/
def settleScaleSetDeliveryLocked (expected : ScaleSetDeliveryRecoveryState) :
    StoreTx ScaleSetDeliverySettlement := do
  match ← recoverScaleSetSettlementLocked with
  | some settled =>
    if settled.matchesExpected expected then return settled
    else Tx.fail (storeConflict "a different Scale Set delivery settlement was recovered")
  | none => do
    recoverScaleSetReconcileTransactionLocked
    settleCurrentDelivery expected

/-! ## One step of a delivery -/

/-- **Publish the next state of a delivery** over the current one. -/
def publishScaleSetDeliverySuccessorLocked
    (current successor : ScaleSetDeliveryRecoveryState) : StoreTx Unit := do
  Tx.check (refuseIf (¬ ScaleSetDeliveryRecoveryState.exactRecoverySuccessor current successor)
    (storeConflict "Scale Set delivery recovery successor is invalid"))
  stageScaleSetDelivery successor
  (publishDelivery false).onFailure [.removeDeliveryStage]

end Glaeda
