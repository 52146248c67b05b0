import Glaeda.Identity
import Glaeda.Json

/-!
# What a resident sandbox is made of

A resident sandbox is a long-lived virtual machine of one project. Its
catalog never looks at a machine: it keeps declarations, and each of them is
checked where it is made – names are bounded ASCII, generations are positive
and bounded, resources lie in a reviewed range. The values here carry the
check they passed.

The configuration of a sandbox is one record of such declarations. It is
identified by **its digest, the hash of its canonical document**
(`ResidentSandboxConfig.digest`), and the catalog compares digests where it
cannot compare configurations.
-/

namespace Glaeda

open Checked Json

/-! ## Bounds -/

/-- The version of a catalog. -/
def residentSandboxCatalogSchemaVersion : Nat := 1

/-- The largest catalog. -/
def maxResidentSandboxCatalogDocumentBytes : Nat := 1024 * 1024

/-- How many sandboxes there may be. -/
def maxResidentSandboxEntries : Nat := 512

/-- How many requests are remembered. -/
def maxResidentSandboxAcceptanceRequests : Nat := maxResidentSandboxEntries

/-- How many locators are remembered. -/
def maxResidentSandboxLocatorClaims : Nat := maxResidentSandboxEntries

/-- How many lineages there may be. -/
def maxResidentSandboxLineages : Nat := 512

/-- The bound of a generation. -/
def maxResidentSandboxGeneration : Nat := 1000000000000

/-- The bound of a revision. -/
def maxResidentSandboxRevision : Nat := 1000000000000

/-- The longest locator. -/
def maxResidentSandboxLocatorBytes : Nat := 64

/-- The bound of a policy's generation. -/
def maxPolicyGeneration : Nat := 1000000000000

/-- The most processor time. -/
def maxResidentCpuMillis : Nat := 1024000

/-- The most memory. -/
def maxResidentMemoryBytes : Nat := 2 ^ 50

/-- The largest root disk. -/
def maxResidentRootDiskBytes : Nat := 2 ^ 50

/-! ## Errors -/

/-- The kinds of refusal. -/
inductive ResidentSandboxCatalogErrorKind where
  | invalidInput
  | missing
  | conflict
  | corruptState
  | duplicate
  | limitExceeded
  | invalidSuccessor
  | unsupportedVersion
  | nonCanonical
deriving DecidableEq, Repr

/-- **A catalog error**: its kind and a message. -/
structure ResidentSandboxCatalogError where
  kind : ResidentSandboxCatalogErrorKind
  message : String
deriving DecidableEq, Repr

/-! ## Names -/

/-- A character of an identifier. -/
def isResidentIdentifierChar (c : Char) : Bool :=
  c.isLower || c.isDigit || c == '.' || c == '_' || c == '-' || c == ':'

variable (value : String)

/-- An identifier of a sandbox or a disk. -/
def isResidentIdentifier : Bool :=
  match value.toList with
  | [] => false
  | first :: rest =>
    (first :: rest).length ≤ maxIdentifierLen && (first.isLower || first.isDigit)
      && (first :: rest).all isResidentIdentifierChar

/-- **A name in the catalog.** The identifiers of requests, sandboxes and
disks are three copies of one type; the tag keeps them apart. -/
structure ResidentIdentifier (tag : String) where
  value : String
  valid : isResidentIdentifier value = true
deriving DecidableEq, Repr

/-- A request for a sandbox. -/
abbrev ResidentSandboxAcceptanceRequestId := ResidentIdentifier "acceptance request id"

/-- A sandbox. -/
abbrev ResidentSandboxId := ResidentIdentifier "resident sandbox id"

/-- A disk. -/
abbrev ProjectDiskId := ResidentIdentifier "project disk id"

/-- The owner of a project. -/
def isProjectOwner (value : List Char) : Bool :=
  !value.isEmpty && value.length ≤ 100
    && value.head?.any (fun c => c.isLower || c.isDigit)
    && value.all (fun c => c.isLower || c.isDigit || c == '-')
    && value.getLast? != some '-'

/-- The repository of a project. -/
def isProjectRepository (value : List Char) : Bool :=
  !value.isEmpty && value.length ≤ 100 && value != ['.'] && value != ['.', '.']
    && value.all (fun c => c.isLower || c.isDigit || c == '.' || c == '_' || c == '-')

/-- The canonical form `github.com/owner/repository`. Its alphabet leaves no
room for blanks and control characters. -/
def isProjectIdentity : Bool :=
  !value.toList.isEmpty && value.toList.length ≤ 256
    && match value.toList.splitOn '/' with
      | [host, owner, repository] =>
        host == "github.com".toList && isProjectOwner owner && isProjectRepository repository
          && repository.drop (repository.length - 4) != ".git".toList
      | _ => false

/-- **The identity of a project.** -/
structure ProjectIdentity where
  value : String
  valid : isProjectIdentity value = true
deriving DecidableEq, Repr

/-- **The identity of a configured machine namespace**, a digest of which
only equality is asked. -/
structure ProjectDiskLimaSourceIdentity where
  digest : Sha256Digest
deriving DecidableEq, Repr

/-- A disk, as the virtual machine names it. -/
def isLimaStandaloneDiskName : Bool :=
  match value.toList with
  | [] => false
  | first :: rest =>
    (first :: rest).length ≤ 64 && first.isAlphanum
      && rest.all (fun c => c.isAlphanum || c == '.' || c == '_' || c == '-')

/-- **The name of a standalone disk.** -/
structure LimaStandaloneDiskName where
  value : String
  valid : isLimaStandaloneDiskName value = true
deriving DecidableEq, Repr

/-! ## Generations -/

/-- How often a disk was made. -/
abbrev ProjectDiskGeneration := PositiveU64 "project_disk_generation"

/-- How often a sandbox was made. -/
abbrev ResidentSandboxGeneration := PositiveU64 "resident_sandbox_generation"

/-- A refusal, with its text. -/
structure ProjectDiskLeaseError where
  code : String
  message : String
deriving DecidableEq, Repr

/-- A generation that is not zero. -/
def ResidentSandboxGeneration.new (value : Nat) :
    Except ProjectDiskLeaseError ResidentSandboxGeneration :=
  Checked.okOr (PositiveU64.ofNat? "resident_sandbox_generation" value)
    ⟨"invalid_resident_sandbox_generation",
      "resident sandbox generation must be greater than zero"⟩

theorem ResidentSandboxGeneration.new_eq_ok {value : Nat} {generation : ResidentSandboxGeneration} :
    ResidentSandboxGeneration.new value = .ok generation ↔ generation.val = value := by
  rw [ResidentSandboxGeneration.new, Checked.okOr_eq_ok, PositiveU64.ofNat?_eq_some]

/-- **The generation of a reviewed policy**, positive and bounded. The
template, configuration, layout, resource, network, credential, guest
control, guest privilege, project integration and locator policies each
have one. -/
abbrev ResidentPolicyGeneration := BoundedRevision maxPolicyGeneration

/-! ## Reviewed choices

Each choice has one admitted value; a document that names another cannot be
read. -/

/-- What a sandbox runs on. -/
inductive ResidentSandboxBackend where
  | vz
deriving DecidableEq, Repr

/-- The processor of a sandbox. -/
inductive ResidentSandboxArchitecture where
  | aarch64
deriving DecidableEq, Repr

/-- How far a project is trusted. -/
inductive ResidentSandboxTrustClass where
  | ultraTrustedProject
deriving DecidableEq, Repr

/-- Whether a task has a password. -/
inductive ResidentTaskPasswordPolicy where
  | locked
deriving DecidableEq, Repr

/-- How the controller becomes root. -/
inductive ResidentControllerRootEscalation where
  | reviewedNonInteractiveSudo
deriving DecidableEq, Repr

/-- Whether a task becomes root. -/
inductive ResidentTaskRootEscalation where
  | denied
deriving DecidableEq, Repr

/-- Whether a task changes the controls. -/
inductive ResidentTaskControlMutation where
  | denied
deriving DecidableEq, Repr

/-- Whether the disk is written. -/
inductive ResidentProjectDiskAccess where
  | writable
deriving DecidableEq, Repr

/-! ## The configuration -/

/-- **The accounts inside the machine** and what they may do. -/
structure ResidentGuestPrivilegePolicy where
  generation : ResidentPolicyGeneration
  controllerAccount : String
  controllerIsSoleNormalLogin : Bool
  controllerRootEscalation : ResidentControllerRootEscalation
  taskAccount : String
  taskIsDistinctFromControllerAndRoot : Bool
  taskPasswordPolicy : ResidentTaskPasswordPolicy
  taskSupplementaryGroups : List String
  taskRootEscalation : ResidentTaskRootEscalation
  taskControlMutation : ResidentTaskControlMutation
deriving DecidableEq, Repr

variable (generation : ResidentPolicyGeneration)

/-- The reviewed policy. -/
def ResidentGuestPrivilegePolicy.reviewed : ResidentGuestPrivilegePolicy where
  generation := generation
  controllerAccount := "smolrunner-admin"
  controllerIsSoleNormalLogin := true
  controllerRootEscalation := .reviewedNonInteractiveSudo
  taskAccount := "smolrunner-runner"
  taskIsDistinctFromControllerAndRoot := true
  taskPasswordPolicy := .locked
  taskSupplementaryGroups := []
  taskRootEscalation := .denied
  taskControlMutation := .denied

/-- **The resources of a machine**, within the reviewed range. -/
structure ResidentResourceDeclaration where
  generation : ResidentPolicyGeneration
  cpuMillis : Nat
  memoryBytes : Nat
  rootDiskBytes : Nat
  bounded : (1 ≤ cpuMillis ∧ cpuMillis ≤ maxResidentCpuMillis)
    ∧ (1 ≤ memoryBytes ∧ memoryBytes ≤ maxResidentMemoryBytes)
    ∧ (1 ≤ rootDiskBytes ∧ rootDiskBytes ≤ maxResidentRootDiskBytes)
deriving DecidableEq, Repr

/-- **The project disk** of a configuration. Its source is repeated, so that a
disk of another namespace cannot be paired with the sandbox. -/
structure ResidentProjectDiskConfigBinding where
  sourceIdentity : ProjectDiskLimaSourceIdentity
  diskId : ProjectDiskId
  diskGeneration : ProjectDiskGeneration
  locator : LimaStandaloneDiskName
  createProvenanceIdentity : Sha256Digest
  access : ResidentProjectDiskAccess
deriving DecidableEq, Repr

/-- **The configuration of a sandbox.** -/
structure ResidentSandboxConfig where
  preparedTemplateGeneration : ResidentPolicyGeneration
  sandboxConfigGeneration : ResidentPolicyGeneration
  trustClass : ResidentSandboxTrustClass
  backend : ResidentSandboxBackend
  architecture : ResidentSandboxArchitecture
  limaLayoutPolicyGeneration : ResidentPolicyGeneration
  resources : ResidentResourceDeclaration
  networkPolicyGeneration : ResidentPolicyGeneration
  credentialPolicyGeneration : ResidentPolicyGeneration
  guestControlPolicyGeneration : ResidentPolicyGeneration
  guestPrivilegePolicy : ResidentGuestPrivilegePolicy
  projectIntegrationPolicyGeneration : ResidentPolicyGeneration
  autoFormat : Bool
  automount : Bool
  projectDisk : Option ResidentProjectDiskConfigBinding
deriving DecidableEq, Repr

/-! ## The document of a configuration -/

/-- A class as text. -/
def ResidentSandboxTrustClass.name : ResidentSandboxTrustClass → String
  | .ultraTrustedProject => "ultra_trusted_project"

/-- A backend as text. -/
def ResidentSandboxBackend.name : ResidentSandboxBackend → String
  | .vz => "vz"

/-- A processor as text. -/
def ResidentSandboxArchitecture.name : ResidentSandboxArchitecture → String
  | .aarch64 => "aarch64"

/-- A password policy as text. -/
def ResidentTaskPasswordPolicy.name : ResidentTaskPasswordPolicy → String
  | .locked => "locked"

/-- An escalation as text. -/
def ResidentControllerRootEscalation.name : ResidentControllerRootEscalation → String
  | .reviewedNonInteractiveSudo => "reviewed_non_interactive_sudo"

/-- A denial as text. -/
def ResidentTaskRootEscalation.name : ResidentTaskRootEscalation → String
  | .denied => "denied"

/-- A denial as text. -/
def ResidentTaskControlMutation.name : ResidentTaskControlMutation → String
  | .denied => "denied"

/-- An access as text. -/
def ResidentProjectDiskAccess.name : ResidentProjectDiskAccess → String
  | .writable => "writable"

/-- Resources as JSON. -/
def ResidentResourceDeclaration.toJson (r : ResidentResourceDeclaration) : Value :=
  .obj [("generation", .num r.generation.val), ("cpu_millis", .num r.cpuMillis),
    ("memory_bytes", .num r.memoryBytes), ("root_disk_bytes", .num r.rootDiskBytes)]

/-- A policy as JSON. -/
def ResidentGuestPrivilegePolicy.toJson (p : ResidentGuestPrivilegePolicy) : Value :=
  .obj [("generation", .num p.generation.val), ("controller_account", .str p.controllerAccount),
    ("controller_is_sole_normal_login", .bool p.controllerIsSoleNormalLogin),
    ("controller_root_escalation", .str p.controllerRootEscalation.name),
    ("task_account", .str p.taskAccount),
    ("task_is_distinct_from_controller_and_root", .bool p.taskIsDistinctFromControllerAndRoot),
    ("task_password_policy", .str p.taskPasswordPolicy.name),
    ("task_supplementary_groups", .arr (p.taskSupplementaryGroups.map .str)),
    ("task_root_escalation", .str p.taskRootEscalation.name),
    ("task_control_mutation", .str p.taskControlMutation.name)]

/-- A disk as JSON. -/
def ResidentProjectDiskConfigBinding.toJson (d : ResidentProjectDiskConfigBinding) : Value :=
  .obj [("source_identity", .str d.sourceIdentity.digest.value), ("disk_id", .str d.diskId.value),
    ("disk_generation", .num d.diskGeneration.val), ("locator", .str d.locator.value),
    ("create_provenance_identity", .str d.createProvenanceIdentity.value),
    ("access", .str d.access.name)]

/-- **A configuration, as the document writes it.** -/
def ResidentSandboxConfig.toJson (c : ResidentSandboxConfig) : Value :=
  .obj [("prepared_template_generation", .num c.preparedTemplateGeneration.val),
    ("sandbox_config_generation", .num c.sandboxConfigGeneration.val),
    ("trust_class", .str c.trustClass.name), ("backend", .str c.backend.name),
    ("architecture", .str c.architecture.name),
    ("lima_layout_policy_generation", .num c.limaLayoutPolicyGeneration.val),
    ("resources", c.resources.toJson),
    ("network_policy_generation", .num c.networkPolicyGeneration.val),
    ("credential_policy_generation", .num c.credentialPolicyGeneration.val),
    ("guest_control_policy_generation", .num c.guestControlPolicyGeneration.val),
    ("guest_privilege_policy", c.guestPrivilegePolicy.toJson),
    ("project_integration_policy_generation", .num c.projectIntegrationPolicyGeneration.val),
    ("auto_format", .bool c.autoFormat), ("automount", .bool c.automount),
    ("project_disk", orNull (c.projectDisk.map ResidentProjectDiskConfigBinding.toJson))]

/-! ## Digests -/

/-- The bytes of a text. -/
def residentText (value : String) : List UInt8 := utf8 value.toList

/-- What the digest of a configuration starts with. -/
def configDigestDomain : List UInt8 := residentText "smolrunner-resident-config-v1"

/-- A digest, as the catalog keeps it. -/
def residentDigest (message : String) (bytes : List UInt8) :
    Except ResidentSandboxCatalogError Sha256Digest :=
  (Sha256Digest.parse (String.ofList ("sha256:".toList ++ Sha256.hexDigest bytes))).mapError
    (fun _ => ⟨.corruptState, message⟩)

/-- **The identity of a configuration**: the digest of its document. -/
def ResidentSandboxConfig.digest (config : ResidentSandboxConfig) :
    Except ResidentSandboxCatalogError Sha256Digest :=
  let bytes := encode config.toJson
  residentDigest "resident config digest could not be constructed"
    (configDigestDomain ++ Sha256.beBytes 8 bytes.length ++ bytes)

end Glaeda
