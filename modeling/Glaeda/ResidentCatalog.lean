import Glaeda.KeyedList
import Glaeda.ResidentConfig
import Glaeda.SortedList
import Mathlib.Data.Prod.Lex
import Mathlib.Data.String.Basic

/-!
# The catalog of resident sandboxes

The catalog is one document. It keeps a record of every generation of every
sandbox that was ever accepted, and three lists of permanent claims beside
them: which request asked for which generation, the last generation of each
sandbox, and who holds which machine locator. Nothing is ever removed, so
**the four lists describe one another**, and a catalog is valid when they
agree (`ResidentSandboxCatalog.validate`).

The locator of a sandbox and the policy identity of an operation on it are
not stored choices but digests of what they are about; validation derives
them again.
-/

namespace Glaeda

open Checked Json SortedList List

/-! ## Locators -/

/-- Bounded lowercase letters, digits and hyphens that start with a letter or
a digit. -/
def validLocator (value : String) : Bool :=
  !value.toList.isEmpty && value.toList.length ≤ maxResidentSandboxLocatorBytes
    && value.toList.head?.any Char.isAlphanum
    && value.toList.all (fun c => c.isLower || c.isDigit || c == '-')

/-- **The name of a machine**, derived by the catalog. -/
structure ResidentSandboxLocator where
  value : String
  valid : validLocator value = true
deriving DecidableEq, Repr

/-! ## Identities and their order -/

/-- **A sandbox through all its generations.** -/
structure ResidentSandboxLineage where
  project : ProjectIdentity
  sandboxId : ResidentSandboxId
deriving DecidableEq, Repr

/-- **One generation of a sandbox.** -/
structure ResidentSandboxKey where
  project : ProjectIdentity
  sandboxId : ResidentSandboxId
  generation : ResidentSandboxGeneration
deriving DecidableEq, Repr

/-- The order of lineages. -/
def ResidentSandboxLineage.order (lineage : ResidentSandboxLineage) : String ×ₗ String :=
  toLex (lineage.project.value, lineage.sandboxId.value)

/-- The order of keys. -/
def ResidentSandboxKey.order (key : ResidentSandboxKey) : String ×ₗ String ×ₗ Nat :=
  toLex (key.project.value, toLex (key.sandboxId.value, key.generation.val))

/-! ## Records -/

/-- How often a catalog was changed. -/
abbrev ResidentSandboxCatalogRevision := BoundedRevision maxResidentSandboxRevision

/-- How often a record was changed. -/
abbrev ResidentSandboxRecordRevision := BoundedRevision maxResidentSandboxRevision

/-- The number of an operation. -/
abbrev ResidentSandboxOperationGeneration := BoundedRevision maxResidentSandboxGeneration

/-- The revision of a new record, and of the catalog without records. -/
def firstResidentRevision : ResidentSandboxRecordRevision := BoundedRevision.first (by decide)

/-- A revision within its bounds. -/
def ResidentSandboxCatalogRevision.new :
    Nat → Except ResidentSandboxCatalogError ResidentSandboxCatalogRevision :=
  BoundedRevision.new maxResidentSandboxRevision
    ⟨.invalidInput, "resident catalog revision is outside the bounded positive range"⟩

/-- A revision within its bounds. -/
def ResidentSandboxRecordRevision.new :
    Nat → Except ResidentSandboxCatalogError ResidentSandboxRecordRevision :=
  BoundedRevision.new maxResidentSandboxRevision
    ⟨.invalidInput, "resident record revision is outside the bounded positive range"⟩

/-- A number within its bounds. -/
def ResidentSandboxOperationGeneration.new :
    Nat → Except ResidentSandboxCatalogError ResidentSandboxOperationGeneration :=
  BoundedRevision.new maxResidentSandboxGeneration
    ⟨.invalidInput, "resident operation generation is outside the bounded positive range"⟩

/-- The sandbox, as the host has it. -/
structure ResidentSandboxHostBinding where
  identityDigest : Sha256Digest
  configDigest : Sha256Digest
deriving DecidableEq, Repr

/-- **What is known about the machine** of a sandbox. -/
inductive ResidentSandboxPhysicalState where
  | unmaterialized
  | stoppedBound (host : ResidentSandboxHostBinding)
  | runningBound (host : ResidentSandboxHostBinding)
  | revalidateRequired
  | quarantined
  | retireRequested
  | retired
deriving DecidableEq, Repr

/-- The sandbox is gone. -/
def ResidentSandboxPhysicalState.isTerminal : ResidentSandboxPhysicalState → Bool
  | .retired => true
  | _ => false

/-- The sandbox, as the host has it. -/
def ResidentSandboxPhysicalState.host? :
    ResidentSandboxPhysicalState → Option ResidentSandboxHostBinding
  | .stoppedBound host => some host
  | .runningBound host => some host
  | _ => none

/-- How far an operation is. -/
inductive ResidentSandboxOperationPhase where
  | authorized
  | started
  | recoveryRequired
deriving DecidableEq, Repr

/-- **The operation in progress** on a sandbox: its number, the identity of
the policy it was authorized under, and how far it has come. -/
inductive ResidentSandboxActiveOperation where
  | none
  | materialize (generation : ResidentSandboxOperationGeneration)
      (policyIdentity : Sha256Digest) (phase : ResidentSandboxOperationPhase)
  | start (generation : ResidentSandboxOperationGeneration)
      (policyIdentity : Sha256Digest) (phase : ResidentSandboxOperationPhase)
  | stop (generation : ResidentSandboxOperationGeneration)
      (policyIdentity : Sha256Digest) (phase : ResidentSandboxOperationPhase)
deriving DecidableEq, Repr

/-- What is done to a sandbox. -/
inductive ResidentSandboxOperationKind where
  | materialize
  | start
  | stop
deriving DecidableEq, Repr

/-- A kind as text. -/
def ResidentSandboxOperationKind.name : ResidentSandboxOperationKind → String
  | .materialize => "materialize"
  | .start => "start"
  | .stop => "stop"

/-- **The record of one generation of a sandbox.** -/
@[ext] structure ResidentSandboxRecord where
  project : ProjectIdentity
  sandboxId : ResidentSandboxId
  generation : ResidentSandboxGeneration
  revision : ResidentSandboxRecordRevision
  sourceIdentity : ProjectDiskLimaSourceIdentity
  locator : ResidentSandboxLocator
  config : ResidentSandboxConfig
  configDigest : Sha256Digest
  physical : ResidentSandboxPhysicalState
  lastOperationGeneration : Option ResidentSandboxOperationGeneration
  activeOperation : ResidentSandboxActiveOperation
deriving DecidableEq, Repr

/-- The key of a record. -/
def ResidentSandboxRecord.key (record : ResidentSandboxRecord) : ResidentSandboxKey :=
  ⟨record.project, record.sandboxId, record.generation⟩

/-! ## The catalog -/

/-- **A request that was accepted**, and the generation it was accepted as. -/
structure AcceptanceRequestClaim where
  requestId : ResidentSandboxAcceptanceRequestId
  project : ProjectIdentity
  sandboxId : ResidentSandboxId
  sourceIdentity : ProjectDiskLimaSourceIdentity
  locatorPolicyGeneration : ResidentPolicyGeneration
  configDigest : Sha256Digest
  generation : ResidentSandboxGeneration
  locator : ResidentSandboxLocator
deriving DecidableEq, Repr

/-- The key of a claim. -/
def AcceptanceRequestClaim.key (claim : AcceptanceRequestClaim) : ResidentSandboxKey :=
  ⟨claim.project, claim.sandboxId, claim.generation⟩

/-- **The last generation of a sandbox.** -/
@[ext] structure GenerationMaximum where
  lineage : ResidentSandboxLineage
  maximum : ResidentSandboxGeneration
deriving DecidableEq, Repr

/-- **A locator and the generation that holds it.** -/
structure LocatorClaim where
  sourceIdentity : ProjectDiskLimaSourceIdentity
  locator : ResidentSandboxLocator
  key : ResidentSandboxKey
deriving DecidableEq, Repr

/-- **The catalog of resident sandboxes.** -/
@[ext] structure ResidentSandboxCatalog where
  schemaVersion : Nat
  revision : ResidentSandboxCatalogRevision
  acceptanceRequests : List AcceptanceRequestClaim
  generationMaxima : List GenerationMaximum
  locatorClaims : List LocatorClaim
  entries : List ResidentSandboxRecord
deriving DecidableEq, Repr

namespace ResidentSandboxCatalog

/-- A catalog with nothing in it. -/
def empty : ResidentSandboxCatalog :=
  ⟨residentSandboxCatalogSchemaVersion, firstResidentRevision, [], [], [], []⟩

/-- The record of a key. -/
def find (c : ResidentSandboxCatalog) (key : ResidentSandboxKey) : Option ResidentSandboxRecord :=
  KeyedList.lookup ResidentSandboxRecord.key key c.entries

end ResidentSandboxCatalog

/-! ## Derived identities -/

/-- What the digest of a locator starts with. -/
def locatorPolicyDomain : List UInt8 := residentText "smolrunner-resident-lima-locator-v1"

/-- What the digest of an operation starts with. -/
def operationPolicyDomain : List UInt8 :=
  residentText "smolrunner-resident-operation-policy-v1"

/-- A field with its length before it. -/
def residentHashField (value : List UInt8) : List UInt8 :=
  Sha256.beBytes 8 value.length ++ value

/-- **The locator of a generation**: the first digits of a digest of everything
the machine's name depends on. -/
def deriveLocator (project : ProjectIdentity) (sandboxId : ResidentSandboxId)
    (generation : ResidentSandboxGeneration) (sourceIdentity : ProjectDiskLimaSourceIdentity)
    (policyGeneration : ResidentPolicyGeneration) (trustClass : ResidentSandboxTrustClass)
    (limaLayoutPolicyGeneration : ResidentPolicyGeneration) :
    Except ResidentSandboxCatalogError ResidentSandboxLocator :=
  let digest := Sha256.hexDigest (locatorPolicyDomain
    ++ residentHashField (residentText project.value)
    ++ residentHashField (residentText sandboxId.value)
    ++ residentHashField (Sha256.beBytes 8 generation.val)
    ++ residentHashField (residentText sourceIdentity.digest.value)
    ++ residentHashField (Sha256.beBytes 8 policyGeneration.val)
    ++ residentHashField (residentText trustClass.name)
    ++ residentHashField (Sha256.beBytes 8 limaLayoutPolicyGeneration.val))
  let locator := String.ofList ("smolrunner-".toList ++ digest.take 52)
  if h : validLocator locator = true then .ok ⟨locator, h⟩
  else .error ⟨.corruptState, "derived Lima locator is not canonical"⟩

variable (record : ResidentSandboxRecord)

/-- **The identity of the policy an operation runs under**: a digest of the
record it is about, its number and its kind. -/
def deriveOperationPolicyIdentity
    (kind : ResidentSandboxOperationKind) (generation : ResidentSandboxOperationGeneration) :
    Except ResidentSandboxCatalogError Sha256Digest :=
  residentDigest "resident operation policy identity could not be constructed"
    (operationPolicyDomain
      ++ residentHashField (residentText record.project.value)
      ++ residentHashField (residentText record.sandboxId.value)
      ++ residentHashField (Sha256.beBytes 8 record.generation.val)
      ++ residentHashField (residentText record.sourceIdentity.digest.value)
      ++ residentHashField (residentText record.locator.value)
      ++ residentHashField (residentText record.configDigest.value)
      ++ (match record.physical.host? with
        | some host =>
          residentHashField (residentText "host_bound")
            ++ residentHashField (residentText host.identityDigest.value)
            ++ residentHashField (residentText host.configDigest.value)
        | none => residentHashField (residentText "host_unbound"))
      ++ residentHashField (Sha256.beBytes 8 generation.val)
      ++ residentHashField (residentText kind.name))

/-! ## Valid records -/

namespace ResidentSandboxRecord

/-- The operation in progress, if it is one that the state of the machine
admits: a missing machine is made, a stopped one started, a running one
stopped. -/
def active (record : ResidentSandboxRecord) : Except ResidentSandboxCatalogError
    (Option (ResidentSandboxOperationKind × ResidentSandboxOperationGeneration × Sha256Digest)) :=
  match record.physical, record.activeOperation with
  | _, .none => .ok none
  | .unmaterialized, .materialize generation policyIdentity _ =>
    .ok (some (.materialize, generation, policyIdentity))
  | .stoppedBound _, .start generation policyIdentity _ =>
    .ok (some (.start, generation, policyIdentity))
  | .runningBound _, .stop generation policyIdentity _ =>
    .ok (some (.stop, generation, policyIdentity))
  | _, _ => .error ⟨.corruptState, "resident active operation does not match physical state"⟩

/-- The operation in progress is the last one, and its policy identity is the
derived one. -/
def checkActive :
    Option (ResidentSandboxOperationKind × ResidentSandboxOperationGeneration × Sha256Digest) →
      Except ResidentSandboxCatalogError Unit
  | none => .ok ()
  | some (kind, generation, policyIdentity) => do
    refuseIf (record.lastOperationGeneration ≠ some generation
        ∨ generation.val > maxResidentSandboxGeneration)
      ⟨.corruptState, "resident active operation identity or generation is invalid"⟩
    let derived ← deriveOperationPolicyIdentity record kind generation
    refuseIf (derived ≠ policyIdentity)
      ⟨.corruptState, "resident active operation identity or generation is invalid"⟩

/-- **A record is valid by itself**: its configuration is the reviewed one and
has the stated digest, a first revision has no history, the locator is
canonical, and the operation in progress fits the machine. -/
def validateRecord : Except ResidentSandboxCatalogError Unit := do
  refuseIf (record.generation.val > maxResidentSandboxGeneration)
    ⟨.corruptState, "resident record config identity or required VZ policy is invalid"⟩
  let digest ← record.config.digest
  refuseIf (record.configDigest ≠ digest
      ∨ record.config.trustClass ≠ .ultraTrustedProject
      ∨ record.config.backend ≠ .vz
      ∨ record.config.architecture ≠ .aarch64
      ∨ record.config.autoFormat = true
      ∨ record.config.automount = true
      ∨ record.config.projectDisk.any (fun disk => disk.sourceIdentity ≠ record.sourceIdentity))
    ⟨.corruptState, "resident record config identity or required VZ policy is invalid"⟩
  refuseIf (record.revision.val = 1 ∧ (record.physical ≠ .unmaterialized
      ∨ record.lastOperationGeneration.isSome ∨ record.activeOperation ≠ .none))
    ⟨.corruptState, "initial resident generation contains fabricated lifecycle history"⟩
  refuseIf (record.locator.value.toList.length > maxResidentSandboxLocatorBytes
      ∨ validLocator record.locator.value = false)
    ⟨.corruptState, "resident Lima locator is not bounded canonical ASCII"⟩
  let active ← record.active
  record.checkActive active
  refuseIf (record.activeOperation = .none
      ∧ record.lastOperationGeneration.any (fun g => g.val > maxResidentSandboxGeneration))
    ⟨.corruptState, "resident operation generation exceeds its bound"⟩
  refuseIf (record.physical.host?.any (fun host => host.configDigest ≠ record.configDigest))
    ⟨.corruptState, "resident host binding config identity drifted"⟩

end ResidentSandboxRecord

/-! ## Valid catalogs -/

namespace ResidentSandboxCatalog

variable (c : ResidentSandboxCatalog)

/-- The revision a catalog must have: one, one more for each acceptance, and
one more for each checkpoint of each record. -/
def represented : Option Nat :=
  (checkedAdd u64Size 1 c.acceptanceRequests.length).bind
    (fun value => checkedAdd u64Size value
      ((c.entries.map (fun entry => entry.revision.val - 1)).sum))

/-- The keys and the sources met so far. -/
abbrev Met := List ResidentSandboxKey
  × List (ProjectDiskLimaSourceIdentity × ResidentSandboxLocator)

/-- One turn of the loop over the records: the record is valid, new, not beyond
the last generation of its sandbox, and holds its locator. -/
def validateEntry (met : Met) (entry : ResidentSandboxRecord) :
    Except ResidentSandboxCatalogError Met := do
  entry.validateRecord
  refuseIf (entry.key ∈ met.1 ∨ (entry.sourceIdentity, entry.locator) ∈ met.2)
    ⟨.duplicate, "resident catalog contains duplicate generation, lineage, or locator identity"⟩
  let maximum ← okOr
    (c.generationMaxima.find? (fun maximum => maximum.lineage.project = entry.project
      ∧ maximum.lineage.sandboxId = entry.sandboxId))
    ⟨.corruptState, "resident entry has no permanent generation maximum"⟩
  refuseIf (entry.generation.val > maximum.maximum.val)
    ⟨.corruptState, "resident entry exceeds its generation maximum"⟩
  let claim ← okOr (KeyedList.lookup LocatorClaim.key entry.key c.locatorClaims)
    ⟨.corruptState, "resident entry has no permanent locator claim"⟩
  refuseIf (claim.sourceIdentity ≠ entry.sourceIdentity ∨ claim.locator ≠ entry.locator)
    ⟨.corruptState, "resident locator claim conflicts with entry"⟩
  return (entry.key :: met.1, (entry.sourceIdentity, entry.locator) :: met.2)

variable (met : List ResidentSandboxKey)

/-- One turn of the loop over the locators: the holder is recorded, holds one
locator only, and is the one the record names. -/
def validateLocatorClaim
    (claim : LocatorClaim) : Except ResidentSandboxCatalogError (List ResidentSandboxKey) := do
  let entry ← okOr (c.find claim.key)
    ⟨.corruptState, "resident locator claim has no retained generation"⟩
  refuseIf (claim.key ∈ met ∨ claim.sourceIdentity ≠ entry.sourceIdentity
      ∨ claim.locator ≠ entry.locator)
    ⟨.duplicate, "resident locator claim conflicts with retained generation history"⟩
  return claim.key :: met

/-- One turn of the loop over the requests: the generation is recorded, was
asked for once only, agrees with the record, and has the derived locator. -/
def validateAcceptanceRequest (claim : AcceptanceRequestClaim) :
    Except ResidentSandboxCatalogError (List ResidentSandboxKey) := do
  let entry ← okOr (c.find claim.key)
    ⟨.corruptState, "acceptance request has no resident entry"⟩
  refuseIf (claim.key ∈ met ∨ entry.sourceIdentity ≠ claim.sourceIdentity
      ∨ entry.locator ≠ claim.locator ∨ entry.configDigest ≠ claim.configDigest)
    ⟨.corruptState, "acceptance request conflicts with resident entry"⟩
  let locator ← deriveLocator claim.project claim.sandboxId claim.generation
    claim.sourceIdentity claim.locatorPolicyGeneration entry.config.trustClass
    entry.config.limaLayoutPolicyGeneration
  refuseIf (locator ≠ claim.locator)
    ⟨.corruptState, "acceptance request conflicts with resident entry"⟩
  return claim.key :: met

/-- The maximum is that of the records. -/
def validateMaximum (maximum : GenerationMaximum) : Except ResidentSandboxCatalogError Unit :=
  let observed := ((c.entries.filter (fun entry => entry.project = maximum.lineage.project
    ∧ entry.sandboxId = maximum.lineage.sandboxId)).map (fun entry => entry.generation.val)).max?
  refuseIf (maximum.maximum.val > maxResidentSandboxGeneration
      ∨ observed ≠ some maximum.maximum.val)
    ⟨.corruptState, "resident generation maximum conflicts with retained history"⟩

/-- **A catalog is valid**: bounded, its revision accounts for its history, its
lists are sorted, and they describe one another. -/
def validate : Except ResidentSandboxCatalogError Unit := do
  refuseIf (c.schemaVersion ≠ residentSandboxCatalogSchemaVersion
      ∨ c.acceptanceRequests.length > maxResidentSandboxAcceptanceRequests
      ∨ c.generationMaxima.length > maxResidentSandboxLineages
      ∨ c.locatorClaims.length > maxResidentSandboxLocatorClaims
      ∨ c.entries.length > maxResidentSandboxEntries
      ∨ c.acceptanceRequests.length ≠ c.entries.length
      ∨ c.locatorClaims.length ≠ c.entries.length)
    ⟨.corruptState, "resident catalog schema or collection bound is invalid"⟩
  let represented ← okOr c.represented
    ⟨.corruptState, "resident catalog represented revision overflows"⟩
  refuseIf (c.revision.val ≠ represented)
    ⟨.corruptState, "resident catalog revision conflicts with represented history"⟩
  refuseIf (isSortedUnique (fun claim => claim.requestId.value) c.acceptanceRequests = false
      ∨ isSortedUnique (fun maximum => maximum.lineage.order) c.generationMaxima = false
      ∨ isSortedUnique (fun claim => claim.locator.value) c.locatorClaims = false
      ∨ isSortedUnique (fun entry => entry.key.order) c.entries = false)
    ⟨.duplicate, "resident catalog contains unsorted or duplicate permanent identity claims"⟩
  let _ ← c.entries.foldlM c.validateEntry ([], [])
  let _ ← c.locatorClaims.foldlM c.validateLocatorClaim []
  let _ ← c.acceptanceRequests.foldlM c.validateAcceptanceRequest []
  c.generationMaxima.forM c.validateMaximum

end ResidentSandboxCatalog

/-! ## What a valid catalog guarantees -/

namespace ResidentSandboxCatalog

variable {c : ResidentSandboxCatalog}

/-- **The lists of a valid catalog**: bounded, in strict order, of valid
records, with a record behind every claim. -/
structure WellFormed (c : ResidentSandboxCatalog) : Prop where
  schema : c.schemaVersion = residentSandboxCatalogSchemaVersion
  requests_le : c.acceptanceRequests.length ≤ maxResidentSandboxAcceptanceRequests
  maxima_le : c.generationMaxima.length ≤ maxResidentSandboxLineages
  locators_le : c.locatorClaims.length ≤ maxResidentSandboxLocatorClaims
  entries_le : c.entries.length ≤ maxResidentSandboxEntries
  requests_sorted : (c.acceptanceRequests.map (fun r => r.requestId.value)).Pairwise (· < ·)
  maxima_sorted : (c.generationMaxima.map (fun m => m.lineage.order)).Pairwise (· < ·)
  locators_sorted : (c.locatorClaims.map (fun l => l.locator.value)).Pairwise (· < ·)
  entries_sorted : (c.entries.map (fun e => e.key.order)).Pairwise (· < ·)
  records : ∀ entry ∈ c.entries, entry.validateRecord = .ok ()
  locator_keys : (c.locatorClaims.map LocatorClaim.key).Nodup
  request : ∀ claim ∈ c.acceptanceRequests, ∃ entry, c.find claim.key = some entry
    ∧ deriveLocator claim.project claim.sandboxId claim.generation claim.sourceIdentity
        claim.locatorPolicyGeneration entry.config.trustClass
        entry.config.limaLayoutPolicyGeneration = .ok claim.locator

variable {entry : ResidentSandboxRecord}

theorem validateEntry_eq_ok {met met' : Met} (h : c.validateEntry met entry = .ok met') :
    entry.validateRecord = .ok () := by
  exact (guard_bind_eq_ok.mp h).1

theorem validateLocatorClaim_eq_ok {met met' : List ResidentSandboxKey}
    {claim : LocatorClaim} (h : c.validateLocatorClaim met claim = .ok met') :
    claim.key ∉ met ∧ met' = claim.key :: met := by
  unfold validateLocatorClaim at h
  rw [bind_eq_ok] at h
  obtain ⟨entry, -, h⟩ := h
  rw [refuseIf_bind_eq_ok, not_or] at h
  exact ⟨h.1.1, (Except.ok.inj h.2).symm⟩

/-- **Every valid catalog is well formed.** -/
theorem wellFormed_of_validate (h : c.validate = .ok ()) : c.WellFormed := by
  unfold validate at h
  rw [guard_bind_eq_ok, bind_eq_ok, refuseIf_eq_ok] at h
  obtain ⟨hbds, represented, -, h⟩ := h
  rw [guard_bind_eq_ok, refuseIf_bind_eq_ok, refuseIf_eq_ok] at h
  obtain ⟨-, hsrt, h⟩ := h
  simp only [bind_eq_ok] at h
  obtain ⟨_, hen, _, hlc, _, hr, -⟩ := h
  simp only [not_or, not_not, not_lt, gt_iff_lt] at hbds
  simp only [not_or, Bool.not_eq_false, isSortedUnique_iff] at hsrt
  obtain ⟨hsch, hreq, hmax, hloc, hent, -, -⟩ := hbds
  have hd : ∀ met claim met', c.validateLocatorClaim met claim = .ok met' →
      insertDistinct (fun _ => .ok ()) LocatorClaim.key
        (⟨.duplicate, ""⟩ : ResidentSandboxCatalogError) met claim = .ok met' := by
    intro met claim met' hs
    obtain ⟨hnew, rfl⟩ := validateLocatorClaim_eq_ok hs
    exact insertDistinct_eq_ok.mpr ⟨rfl, hnew, rfl⟩
  have hk := foldlM_map id hd hlc
  exact {
    schema := hsch
    requests_le := hreq
    maxima_le := hmax
    locators_le := hloc
    entries_le := hent
    requests_sorted := hsrt.1
    maxima_sorted := hsrt.2.1
    locators_sorted := hsrt.2.2.1
    entries_sorted := hsrt.2.2.2
    records := foldlM_forall_mem (fun _ _ _ => validateEntry_eq_ok) hen
    locator_keys := (foldlM_insertDistinct_eq_ok.mp hk).2.1
    request := foldlM_forall_mem (fun _ _ _ hs => by
      unfold validateAcceptanceRequest at hs
      simp only [bind_eq_ok, refuseIf_eq_ok, okOr_eq_ok, not_not] at hs
      obtain ⟨entry, he, _, -, _, hl, _, rfl, -⟩ := hs
      exact ⟨entry, he, hl⟩) hr }

namespace WellFormed

variable {c : ResidentSandboxCatalog}

theorem nodup_keys (h : c.WellFormed) : (c.entries.map ResidentSandboxRecord.key).Nodup := by
  refine List.Nodup.of_map ResidentSandboxKey.order ?_
  rw [map_map]
  exact nodup_map_key h.entries_sorted

theorem nodup_requestIds (h : c.WellFormed) :
    (c.acceptanceRequests.map AcceptanceRequestClaim.requestId).Nodup := by
  refine List.Nodup.of_map ResidentIdentifier.value ?_
  rw [map_map]
  exact nodup_map_key h.requests_sorted

theorem nodup_lineages (h : c.WellFormed) :
    (c.generationMaxima.map GenerationMaximum.lineage).Nodup := by
  refine List.Nodup.of_map ResidentSandboxLineage.order ?_
  rw [map_map]
  exact nodup_map_key h.maxima_sorted

theorem find_eq_some (h : c.WellFormed) {key : ResidentSandboxKey} :
    c.find key = some entry ↔ entry ∈ c.entries ∧ entry.key = key :=
  KeyedList.lookup_eq_some h.nodup_keys

end WellFormed

end ResidentSandboxCatalog

/-! ## The document of a catalog -/

/-- A phase as text. -/
def ResidentSandboxOperationPhase.name : ResidentSandboxOperationPhase → String
  | .authorized => "authorized"
  | .started => "started"
  | .recoveryRequired => "recovery_required"

/-- A binding as JSON. -/
def ResidentSandboxHostBinding.toJson (host : ResidentSandboxHostBinding) : Value :=
  .obj [("identity_digest", .str host.identityDigest.value),
    ("config_digest", .str host.configDigest.value)]

/-- A state as JSON. -/
def ResidentSandboxPhysicalState.toJson : ResidentSandboxPhysicalState → Value
  | .unmaterialized => .obj [("state", .str "unmaterialized")]
  | .stoppedBound host => .obj [("state", .str "stopped_bound"), ("host", host.toJson)]
  | .runningBound host => .obj [("state", .str "running_bound"), ("host", host.toJson)]
  | .revalidateRequired => .obj [("state", .str "revalidate_required")]
  | .quarantined => .obj [("state", .str "quarantined")]
  | .retireRequested => .obj [("state", .str "retire_requested")]
  | .retired => .obj [("state", .str "retired")]

/-- An operation of a kind as JSON. -/
def operationJson (kind : ResidentSandboxOperationKind)
    (generation : ResidentSandboxOperationGeneration) (policyIdentity : Sha256Digest)
    (phase : ResidentSandboxOperationPhase) : Value :=
  .obj [("operation", .str kind.name), ("generation", .num generation.val),
    ("policy_identity", .str policyIdentity.value), ("phase", .str phase.name)]

/-- An operation as JSON. -/
def ResidentSandboxActiveOperation.toJson : ResidentSandboxActiveOperation → Value
  | .none => .obj [("operation", .str "none")]
  | .materialize generation policyIdentity phase =>
    operationJson .materialize generation policyIdentity phase
  | .start generation policyIdentity phase => operationJson .start generation policyIdentity phase
  | .stop generation policyIdentity phase => operationJson .stop generation policyIdentity phase

/-- A claim as JSON. -/
def AcceptanceRequestClaim.toJson (claim : AcceptanceRequestClaim) : Value :=
  .obj [("request_id", .str claim.requestId.value), ("project", .str claim.project.value),
    ("sandbox_id", .str claim.sandboxId.value),
    ("source_identity", .str claim.sourceIdentity.digest.value),
    ("locator_policy_generation", .num claim.locatorPolicyGeneration.val),
    ("config_digest", .str claim.configDigest.value), ("generation", .num claim.generation.val),
    ("locator", .str claim.locator.value)]

/-- A maximum as JSON. -/
def GenerationMaximum.toJson (maximum : GenerationMaximum) : Value :=
  .obj [("project", .str maximum.lineage.project.value),
    ("sandbox_id", .str maximum.lineage.sandboxId.value), ("maximum", .num maximum.maximum.val)]

/-- A locator as JSON. -/
def LocatorClaim.toJson (claim : LocatorClaim) : Value :=
  .obj [("source_identity", .str claim.sourceIdentity.digest.value),
    ("locator", .str claim.locator.value), ("project", .str claim.key.project.value),
    ("sandbox_id", .str claim.key.sandboxId.value), ("generation", .num claim.key.generation.val)]

/-- A record as JSON. -/
def ResidentSandboxRecord.toJson (record : ResidentSandboxRecord) : Value :=
  .obj [("project", .str record.project.value), ("sandbox_id", .str record.sandboxId.value),
    ("generation", .num record.generation.val), ("revision", .num record.revision.val),
    ("source_identity", .str record.sourceIdentity.digest.value),
    ("locator", .str record.locator.value), ("config", record.config.toJson),
    ("config_digest", .str record.configDigest.value), ("physical", record.physical.toJson),
    ("last_operation_generation",
      orNull (record.lastOperationGeneration.map (fun generation => .num generation.val))),
    ("active_operation", record.activeOperation.toJson)]

/-- A catalog as JSON. -/
def ResidentSandboxCatalog.toJson (c : ResidentSandboxCatalog) : Value :=
  .obj [("schema_version", .num c.schemaVersion), ("revision", .num c.revision.val),
    ("acceptance_requests", .arr (c.acceptanceRequests.map AcceptanceRequestClaim.toJson)),
    ("generation_maxima", .arr (c.generationMaxima.map GenerationMaximum.toJson)),
    ("locator_claims", .arr (c.locatorClaims.map LocatorClaim.toJson)),
    ("entries", .arr (c.entries.map ResidentSandboxRecord.toJson))]

/-- **The document of a catalog**, unless it is too long. -/
def encodeResidentSandboxCatalog (c : ResidentSandboxCatalog) :
    Except ResidentSandboxCatalogError (List UInt8) := do
  c.validate
  encodeWithin maxResidentSandboxCatalogDocumentBytes
    ⟨.limitExceeded, "resident catalog encoded document exceeds its bound"⟩ c.toJson

end Glaeda
