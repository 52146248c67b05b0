import Glaeda.ResidentCatalog

/-!
# Operations on the catalog of resident sandboxes

A catalog grows in two ways. **Accepting** a request allocates the next
generation of its sandbox, derives its locator and writes a record and three
claims. A **checkpoint** advances one record: an operation is authorized,
fails before it starts, is started, or is found to need recovery. There is
no way back from the last, and nothing else ever changes a record.

The store does not run these operations when it publishes a catalog; it
compares the new catalog with the old one
(`ResidentSandboxCatalog.validateSuccessorOf`).
-/

namespace Glaeda

open Checked Json SortedList

/-! ## Checkpoints of a record -/

/-- The steps of an operation. -/
inductive ResidentSandboxCheckpoint where
  | materializeAuthorized
  | materializePrestartFailed
  | materializeStarted
  | materializeRecoveryRequired
  | startAuthorized
  | startPrestartFailed
  | startStarted
  | startRecoveryRequired
  | stopAuthorized
  | stopPrestartFailed
  | stopStarted
  | stopRecoveryRequired
deriving DecidableEq, Repr

namespace ResidentSandboxRecord

variable (record : ResidentSandboxRecord)

/-- The number of the next operation. -/
def nextOperationGenerationValue : Nat :=
  record.lastOperationGeneration.elim 1 (fun generation => saturatingAdd u64Size generation.val 1)

/-- The same, checked. -/
def nextOperationGeneration :
    Except ResidentSandboxCatalogError ResidentSandboxOperationGeneration :=
  ResidentSandboxOperationGeneration.new record.nextOperationGenerationValue

/-- The number and the policy identity of an operation that is authorized
now. -/
def authorize (kind : ResidentSandboxOperationKind) :
    Except ResidentSandboxCatalogError (ResidentSandboxOperationGeneration × Sha256Digest) := do
  let generation ← record.nextOperationGeneration
  let policyIdentity ← deriveOperationPolicyIdentity record kind generation
  return (generation, policyIdentity)

variable (checkpoint : ResidentSandboxCheckpoint)

/-- What a checkpoint makes of an operation. -/
def operationAfter : Except ResidentSandboxCatalogError
      (ResidentSandboxActiveOperation × Option ResidentSandboxOperationGeneration) :=
  match checkpoint, record.physical, record.activeOperation with
  | .materializeAuthorized, .unmaterialized, .none => do
    let (generation, policyIdentity) ← record.authorize .materialize
    return (.materialize generation policyIdentity .authorized, some generation)
  | .startAuthorized, .stoppedBound _, .none => do
    let (generation, policyIdentity) ← record.authorize .start
    return (.start generation policyIdentity .authorized, some generation)
  | .stopAuthorized, .runningBound _, .none => do
    let (generation, policyIdentity) ← record.authorize .stop
    return (.stop generation policyIdentity .authorized, some generation)
  | .materializePrestartFailed, .unmaterialized, .materialize _ _ .authorized =>
    .ok (.none, record.lastOperationGeneration)
  | .materializeStarted, .unmaterialized, .materialize generation policyIdentity .authorized =>
    .ok (.materialize generation policyIdentity .started, record.lastOperationGeneration)
  | .materializeRecoveryRequired, .unmaterialized,
      .materialize generation policyIdentity .started =>
    .ok (.materialize generation policyIdentity .recoveryRequired, record.lastOperationGeneration)
  | .startPrestartFailed, .stoppedBound _, .start _ _ .authorized =>
    .ok (.none, record.lastOperationGeneration)
  | .startStarted, .stoppedBound _, .start generation policyIdentity .authorized =>
    .ok (.start generation policyIdentity .started, record.lastOperationGeneration)
  | .startRecoveryRequired, .stoppedBound _, .start generation policyIdentity .started =>
    .ok (.start generation policyIdentity .recoveryRequired, record.lastOperationGeneration)
  | .stopPrestartFailed, .runningBound _, .stop _ _ .authorized =>
    .ok (.none, record.lastOperationGeneration)
  | .stopStarted, .runningBound _, .stop generation policyIdentity .authorized =>
    .ok (.stop generation policyIdentity .started, record.lastOperationGeneration)
  | .stopRecoveryRequired, .runningBound _, .stop generation policyIdentity .started =>
    .ok (.stop generation policyIdentity .recoveryRequired, record.lastOperationGeneration)
  | _, _, _ => .error ⟨.invalidSuccessor,
      "resident checkpoint does not exactly follow the current physical/operation state"⟩

/-- **The record after a checkpoint**, if the checkpoint follows the state the
record is in. -/
def applyCheckpoint : Except ResidentSandboxCatalogError ResidentSandboxRecord := do
  refuseIf (record.physical.isTerminal = true)
    ⟨.conflict, "terminal resident sandbox cannot advance a checkpoint"⟩
  let (nextOperation, lastOperationGeneration) ← record.operationAfter checkpoint
  let value ← okOr (checkedAdd u64Size record.revision.val 1)
    ⟨.conflict, "resident record revision cannot advance"⟩
  let revision ← ResidentSandboxRecordRevision.new value
  return { record with revision, lastOperationGeneration, activeOperation := nextOperation }

end ResidentSandboxRecord

/-! ## Accepting a request -/

/-- **A request for a sandbox.** -/
structure ResidentSandboxAcceptanceRequest where
  requestId : ResidentSandboxAcceptanceRequestId
  project : ProjectIdentity
  sandboxId : ResidentSandboxId
  sourceIdentity : ProjectDiskLimaSourceIdentity
  locatorPolicyGeneration : ResidentPolicyGeneration
  config : ResidentSandboxConfig
deriving DecidableEq, Repr

/-- Whether a sandbox is new. -/
inductive ResidentSandboxAcceptanceDisposition where
  | created
  | satisfied
deriving DecidableEq, Repr

/-- **The answer to a request.** -/
structure ResidentSandboxAcceptanceReceipt where
  disposition : ResidentSandboxAcceptanceDisposition
  catalogRevision : ResidentSandboxCatalogRevision
  key : ResidentSandboxKey
  locator : ResidentSandboxLocator
deriving DecidableEq, Repr

namespace ResidentSandboxAcceptanceRequest

variable (request : ResidentSandboxAcceptanceRequest)

/-- The lineage of a request. -/
def lineage : ResidentSandboxLineage :=
  ⟨request.project, request.sandboxId⟩

variable (generation : ResidentSandboxGeneration) (locator : ResidentSandboxLocator)

/-- The record of a new sandbox. -/
def record (configDigest : Sha256Digest) : ResidentSandboxRecord where
  project := request.project
  sandboxId := request.sandboxId
  generation := generation
  revision := firstResidentRevision
  sourceIdentity := request.sourceIdentity
  locator := locator
  config := request.config
  configDigest := configDigest
  physical := .unmaterialized
  lastOperationGeneration := none
  activeOperation := .none

/-- What is remembered of a request. -/
def claim (configDigest : Sha256Digest) : AcceptanceRequestClaim where
  requestId := request.requestId
  project := request.project
  sandboxId := request.sandboxId
  sourceIdentity := request.sourceIdentity
  locatorPolicyGeneration := request.locatorPolicyGeneration
  configDigest := configDigest
  generation := generation
  locator := locator

end ResidentSandboxAcceptanceRequest

namespace ResidentSandboxCatalog

variable (c : ResidentSandboxCatalog) (request : ResidentSandboxAcceptanceRequest)

/-- The answer to a request whose key was used before: the generation it made,
if it is the same request. -/
def acceptAgain (configDigest : Sha256Digest) (existing : AcceptanceRequestClaim) :
    Except ResidentSandboxCatalogError
      (ResidentSandboxCatalog × ResidentSandboxAcceptanceReceipt) :=
  if existing.project = request.project ∧ existing.sandboxId = request.sandboxId
      ∧ existing.sourceIdentity = request.sourceIdentity
      ∧ existing.locatorPolicyGeneration = request.locatorPolicyGeneration
      ∧ existing.configDigest = configDigest then
    .ok (c, ⟨.satisfied, c.revision, existing.key, existing.locator⟩)
  else
    .error ⟨.conflict, "acceptance request ID is already bound to different resident evidence"⟩

variable (lineage : ResidentSandboxLineage)

/-- The generation a new sandbox gets. -/
def nextGeneration : Except ResidentSandboxCatalogError Nat :=
  match KeyedList.lookup GenerationMaximum.lineage lineage c.generationMaxima with
  | some maximum => okOr (checkedAdd u64Size maximum.maximum.val 1)
      ⟨.conflict, "resident sandbox generation cannot advance"⟩
  | none => .ok 1

/-- The maxima with that generation. -/
def maximaWith (generation : ResidentSandboxGeneration) : List GenerationMaximum :=
  match KeyedList.split GenerationMaximum.lineage lineage c.generationMaxima with
  | some (before, maximum, after) => before ++ { maximum with maximum := generation } :: after
  | none => insertSorted (fun maximum => maximum.lineage.order) c.generationMaxima
      ⟨lineage, generation⟩

/-- The catalog with a new sandbox. -/
def withAccepted
    (revision : ResidentSandboxCatalogRevision) (generation : ResidentSandboxGeneration)
    (locator : ResidentSandboxLocator) (configDigest : Sha256Digest) : ResidentSandboxCatalog where
  schemaVersion := c.schemaVersion
  revision := revision
  acceptanceRequests := insertSorted (fun claim => claim.requestId.value) c.acceptanceRequests
    (request.claim generation locator configDigest)
  generationMaxima := c.maximaWith request.lineage generation
  locatorClaims := insertSorted (fun claim => claim.locator.value) c.locatorClaims
    ⟨request.sourceIdentity, locator, (request.record generation locator configDigest).key⟩
  entries := insertSorted (fun entry => entry.key.order) c.entries
    (request.record generation locator configDigest)

/-- **Accept a request whose key is new**: allocate the next generation of its
sandbox and derive its locator. -/
def acceptNew (configDigest : Sha256Digest) : Except ResidentSandboxCatalogError
      (ResidentSandboxCatalog × ResidentSandboxAcceptanceReceipt) := do
  refuseIf (c.acceptanceRequests.length ≥ maxResidentSandboxAcceptanceRequests
      ∨ c.entries.length ≥ maxResidentSandboxEntries
      ∨ c.locatorClaims.length ≥ maxResidentSandboxLocatorClaims)
    ⟨.limitExceeded, "resident catalog acceptance bound is exhausted"⟩
  refuseIf ((∀ maximum ∈ c.generationMaxima, maximum.lineage ≠ request.lineage)
      ∧ c.generationMaxima.length ≥ maxResidentSandboxLineages)
    ⟨.limitExceeded, "resident catalog lineage bound is exhausted"⟩
  let value ← c.nextGeneration request.lineage
  refuseIf (value > maxResidentSandboxGeneration)
    ⟨.limitExceeded, "resident sandbox generation bound is exhausted"⟩
  let generation ← (ResidentSandboxGeneration.new value).mapError
    (fun _ => ⟨.conflict, "resident sandbox generation cannot advance"⟩)
  let locator ← deriveLocator request.project request.sandboxId generation request.sourceIdentity
    request.locatorPolicyGeneration request.config.trustClass
    request.config.limaLayoutPolicyGeneration
  refuseIf (∃ claim ∈ c.locatorClaims,
      claim.sourceIdentity = request.sourceIdentity ∧ claim.locator = locator)
    ⟨.conflict, "derived Lima locator is already permanently claimed"⟩
  let revisionValue ← okOr (checkedAdd u64Size c.revision.val 1)
    ⟨.conflict, "resident catalog revision cannot advance"⟩
  let revision ← ResidentSandboxCatalogRevision.new revisionValue
  let next := c.withAccepted request revision generation locator configDigest
  next.validate
  let _ ← encodeResidentSandboxCatalog next
  return (next, ⟨.created, next.revision,
    ⟨request.project, request.sandboxId, generation⟩, locator⟩)

/-- **Accept a request.** The same request twice makes one generation. -/
def accept : Except ResidentSandboxCatalogError
      (ResidentSandboxCatalog × ResidentSandboxAcceptanceReceipt) := do
  c.validate
  let configDigest ← request.config.digest
  refuseIf (request.config.projectDisk.any
      (fun disk => disk.sourceIdentity ≠ request.sourceIdentity))
    ⟨.invalidInput, "resident project-disk declaration uses a different Lima source"⟩
  match KeyedList.lookup AcceptanceRequestClaim.requestId request.requestId
      c.acceptanceRequests with
  | some existing => c.acceptAgain request configDigest existing
  | none => c.acceptNew request configDigest

end ResidentSandboxCatalog

/-! ## Comparing two catalogs -/

/-- **One record may follow another**: an operation is authorized under the
next number, fails before it starts, starts, or needs recovery. -/
def validOperationSuccessor (prior next : ResidentSandboxRecord) : Bool :=
  match prior.activeOperation, next.activeOperation with
  | .materialize generation _ .authorized, .none
  | .start generation _ .authorized, .none
  | .stop generation _ .authorized, .none =>
    decide (prior.lastOperationGeneration = some generation
      ∧ next.lastOperationGeneration = some generation)
  | .none, .materialize generation _ .authorized
  | .none, .start generation _ .authorized
  | .none, .stop generation _ .authorized =>
    decide (next.lastOperationGeneration = some generation
      ∧ generation.val = prior.nextOperationGenerationValue)
  | .materialize priorGeneration priorPolicy .authorized,
      .materialize nextGeneration nextPolicy .started
  | .start priorGeneration priorPolicy .authorized, .start nextGeneration nextPolicy .started
  | .stop priorGeneration priorPolicy .authorized, .stop nextGeneration nextPolicy .started
  | .materialize priorGeneration priorPolicy .started,
      .materialize nextGeneration nextPolicy .recoveryRequired
  | .start priorGeneration priorPolicy .started, .start nextGeneration nextPolicy .recoveryRequired
  | .stop priorGeneration priorPolicy .started, .stop nextGeneration nextPolicy .recoveryRequired =>
    decide (priorGeneration = nextGeneration ∧ priorPolicy = nextPolicy
      ∧ prior.lastOperationGeneration = next.lastOperationGeneration)
  | _, _ => false

namespace ResidentSandboxCatalog

variable (current next : ResidentSandboxCatalog) (entry : ResidentSandboxRecord)

/-- The last generations of two catalogs differ by the generation of the
record, and by nothing else. -/
def maximaFollow : Bool :=
  let lineage : ResidentSandboxLineage := ⟨entry.project, entry.sandboxId⟩
  match KeyedList.lookup GenerationMaximum.lineage lineage current.generationMaxima with
  | some prior => decide (next.generationMaxima.length = current.generationMaxima.length
      ∧ checkedAdd u64Size prior.maximum.val 1 = some entry.generation.val
      ∧ ∀ maximum ∈ current.generationMaxima,
        (KeyedList.lookup GenerationMaximum.lineage maximum.lineage next.generationMaxima).any
          (fun candidate => if maximum.lineage = lineage then
            candidate.maximum = entry.generation else candidate = maximum))
  | none => decide (entry.generation.val = 1
      ∧ next.generationMaxima.length = current.generationMaxima.length + 1
      ∧ (∀ maximum ∈ current.generationMaxima, maximum ∈ next.generationMaxima)
      ∧ ∃ maximum ∈ next.generationMaxima,
        maximum.lineage = lineage ∧ maximum.maximum = entry.generation)

/-- The record, the request and the locator that were added belong together,
and the record has no history. -/
def addedTogether (request : AcceptanceRequestClaim) (locator : LocatorClaim) : Bool :=
  decide (entry.revision.val = 1 ∧ entry.physical = .unmaterialized
    ∧ entry.lastOperationGeneration.isNone ∧ entry.activeOperation = .none
    ∧ request.project = entry.project ∧ request.sandboxId = entry.sandboxId
    ∧ request.sourceIdentity = entry.sourceIdentity ∧ request.configDigest = entry.configDigest
    ∧ request.generation = entry.generation ∧ request.locator = entry.locator
    ∧ locator.key = entry.key ∧ locator.sourceIdentity = entry.sourceIdentity
    ∧ locator.locator = entry.locator)

/-- **One catalog follows another by an acceptance**: everything that was there
is there unchanged, and one record, one request and one locator are new. -/
def isExactAcceptanceSuccessor : Bool :=
  if next.acceptanceRequests.length ≠ current.acceptanceRequests.length + 1
      ∨ next.locatorClaims.length ≠ current.locatorClaims.length + 1
      ∨ next.entries.length ≠ current.entries.length + 1
      ∨ ¬ (∀ entry ∈ current.entries, next.find entry.key = some entry)
      ∨ ¬ (∀ request ∈ current.acceptanceRequests,
        KeyedList.lookup AcceptanceRequestClaim.requestId request.requestId
          next.acceptanceRequests = some request)
      ∨ ¬ (∀ claim ∈ current.locatorClaims,
        KeyedList.lookup LocatorClaim.key claim.key next.locatorClaims = some claim) then
    false
  else
    match next.entries.filter (fun entry => (current.find entry.key).isNone),
      next.acceptanceRequests.filter (fun request => !current.acceptanceRequests.any
        (fun candidate => candidate.requestId = request.requestId)),
      next.locatorClaims.filter (fun claim => !current.locatorClaims.any
        (fun candidate => candidate.key = claim.key)) with
    | [entry], [request], [locator] =>
      addedTogether entry request locator && maximaFollow current next entry
    | _, _, _ => false

/-- The record that changed is the same generation as before, one revision
later, and its operation advanced by one step. -/
def recordFollows (prior next : ResidentSandboxRecord) : Bool :=
  decide (next.key = prior.key ∧ next.project = prior.project
    ∧ next.sandboxId = prior.sandboxId ∧ next.generation = prior.generation
    ∧ next.sourceIdentity = prior.sourceIdentity ∧ next.locator = prior.locator
    ∧ next.config = prior.config ∧ next.configDigest = prior.configDigest
    ∧ next.physical = prior.physical ∧ next.revision.val = prior.revision.val + 1)
    && validOperationSuccessor prior next

/-- **A catalog follows another by one step**: an acceptance when the permanent
claims differ, and a checkpoint of one record otherwise. -/
def validateSuccessorOf (next current : ResidentSandboxCatalog) :
    Except ResidentSandboxCatalogError Unit := do
  current.validate
  next.validate
  let value ← okOr (checkedAdd u64Size current.revision.val 1)
    ⟨.invalidSuccessor, "resident catalog revision cannot advance"⟩
  refuseIf (next.revision.val ≠ value)
    ⟨.invalidSuccessor, "resident catalog successor revision is not exactly one step"⟩
  if next.acceptanceRequests ≠ current.acceptanceRequests
      ∨ next.generationMaxima ≠ current.generationMaxima
      ∨ next.locatorClaims ≠ current.locatorClaims then
    refuseIf (isExactAcceptanceSuccessor current next = false)
      ⟨.invalidSuccessor,
        "resident catalog acceptance successor changes the wrong permanent claims"⟩
  else do
    refuseIf (next.entries.length ≠ current.entries.length)
      ⟨.invalidSuccessor, "resident catalog entry count changed without acceptance"⟩
    match (next.entries.zip current.entries).filter (fun pair => pair.1 ≠ pair.2) with
    | [] => .error ⟨.invalidSuccessor, "resident catalog successor has no semantic change"⟩
    | (nextRecord, prior) :: others =>
      refuseIf (others ≠ [] ∨ recordFollows prior nextRecord = false)
        ⟨.invalidSuccessor, "resident catalog record is not an exact checkpoint successor"⟩

/-! ## Checkpoints of a catalog -/

/-- **Apply a checkpoint to one record**, if the caller has seen its latest
revision. The result is compared with the catalog it came from. -/
def checkpoint (c : ResidentSandboxCatalog) (key : ResidentSandboxKey)
    (expectedRecordRevision : ResidentSandboxRecordRevision)
    (checkpoint : ResidentSandboxCheckpoint) :
    Except ResidentSandboxCatalogError ResidentSandboxCatalog := do
  let current ← okOr (c.find key)
    ⟨.missing, "resident sandbox generation is not catalogued"⟩
  refuseIf (current.revision ≠ expectedRecordRevision)
    ⟨.conflict, "resident sandbox record revision is stale"⟩
  let successor ← current.applyCheckpoint checkpoint
  let (before, _, after) ← okOr (KeyedList.split ResidentSandboxRecord.key key c.entries)
    ⟨.missing, "resident sandbox generation disappeared"⟩
  let value ← okOr (checkedAdd u64Size c.revision.val 1)
    ⟨.conflict, "resident catalog revision cannot advance"⟩
  let revision ← ResidentSandboxCatalogRevision.new value
  let next := { c with revision, entries := before ++ successor :: after }
  next.validateSuccessorOf c
  let _ ← encodeResidentSandboxCatalog next
  return next

end ResidentSandboxCatalog

end Glaeda
