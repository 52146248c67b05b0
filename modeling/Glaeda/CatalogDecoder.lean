import Glaeda.CatalogCodec
import Glaeda.CatalogRun
import Glaeda.JsonReader

/-!
# Reading the catalog document

A stored catalog is read in three stages. The text is read as JSON; the
values are taken apart into the fields of the document, each attempt through
its own document; and every field is rebuilt by the constructor that checks
it. The catalog is then validated as a whole, **written again and compared
with the text it came from**: a text that means a catalog but is not the one
the catalog is written as is refused.

The main result is the round trip (`decode_encode_and_encode_decode`): every
catalog is written, and read back as it was; and every text that is read as
a catalog is the one that catalog is written as. It holds for every reader
of JSON, so nothing depends on how texts are parsed.
-/

namespace Glaeda

open Checked Json List Except Option DisposableWorkerResources

/-! ## What was constructed is constructed again -/

theorem DisposableWorkerResources.new_toResourceAmounts (r : DisposableWorkerResources) :
    new r.toResourceAmounts = .ok r := by
  unfold new
  rw [dif_pos r.cpu_bounds, dif_pos r.memory_bounds, dif_pos r.disk_bounds]

theorem mapM_map_eq_ok {α β ε : Type} {parse : β → Except ε α} {view : α → β}
    (h : ∀ a, parse (view a) = .ok a) (value : Option α) :
    (value.map view).mapM parse = .ok value := by
  cases value with
  | none => rfl
  | some a =>
    show (parse (view a)).map some = .ok (some a)
    rw [h]
    rfl

/-! ## Attempts -/

/-- The phase of a text. -/
def parsePhase : String → Except FieldError DisposableAttemptPhase
  | "reserved" => .ok .reserved
  | "unprovisioned_releasing" => .ok .unprovisionedReleasing
  | "provisioning" => .ok .provisioning
  | "clone_authorized" => .ok .cloneAuthorized
  | "clone_started" => .ok .cloneStarted
  | "registering" => .ok .registering
  | "waiting" => .ok .waiting
  | "assigned" => .ok .assigned
  | "running" => .ok .running
  | "terminal" => .ok .terminal
  | "destroying" => .ok .destroying
  | "deregistering" => .ok .deregistering
  | "releasing" => .ok .releasing
  | "complete" => .ok .complete
  | _ => .error (invalidDocument "attempt phase is invalid")

theorem parsePhase_phaseName (phase : DisposableAttemptPhase) :
    parsePhase (phaseName phase) = .ok phase := by
  cases phase <;> rfl

/-- **The fields of an attempt document**, before any of them is checked. -/
structure OwnedAttemptWire where
  schemaVersion : Nat
  revision : Nat
  attemptId : String
  capacityClaimId : String
  vmId : String
  vmIdentityDigest : Option String
  runnerName : String
  runnerRequestId : Nat
  runnerId : Option Nat
  jitGenerationStarted : Bool
  runnerStartStarted : Bool
  phase : String
  githubJobId : Option String
  result : Option String
  notAfter : Nat
deriving DecidableEq, Repr

namespace OwnedAttemptWire

/-- The fields of an attempt. -/
def names : List String :=
  ["schema_version", "revision", "attempt_id", "capacity_claim_id", "vm_id",
    "vm_identity_digest", "runner_name", "runner_request_id", "runner_id",
    "jit_generation_started", "runner_start_started", "phase", "github_job_id", "result",
    "not_after"]

/-- An attempt of a document. -/
def ofJson (value : Value) : Option OwnedAttemptWire := do
  let fields ← recordFields names value
  let schemaVersion ← field fields "schema_version" (Value.asNat 256)
  let revision ← field fields "revision" (Value.asNat u64Size)
  let attemptId ← field fields "attempt_id" Value.asText
  let capacityClaimId ← field fields "capacity_claim_id" Value.asText
  let vmId ← field fields "vm_id" Value.asText
  let vmIdentityDigest ← optionalField fields "vm_identity_digest" Value.asText
  let runnerName ← field fields "runner_name" Value.asText
  let runnerRequestId ← field fields "runner_request_id" (Value.asNat u64Size)
  let runnerId ← optionalField fields "runner_id" (Value.asNat u64Size)
  let jitGenerationStarted ← field fields "jit_generation_started" Value.asBool
  let runnerStartStarted ← field fields "runner_start_started" Value.asBool
  let phase ← field fields "phase" Value.asText
  let githubJobId ← optionalField fields "github_job_id" Value.asText
  let result ← optionalField fields "result" Value.asText
  let notAfter ← field fields "not_after" (Value.asNat u64Size)
  return ⟨schemaVersion, revision, attemptId, capacityClaimId, vmId, vmIdentityDigest,
    runnerName, runnerRequestId, runnerId, jitGenerationStarted, runnerStartStarted, phase,
    githubJobId, result, notAfter⟩

/-- **Every field is rebuilt by its own constructor.** -/
def toRecord (wire : OwnedAttemptWire) : Except FieldError AttemptRecord := do
  let revision ← DisposableAttemptRevision.new wire.revision
  let attemptId ← (Identifier.parse "attempt_id" wire.attemptId).mapError
    (fun _ => invalidDocument "attempt ID is invalid")
  let capacityClaimId ← (Identifier.parse "capacity_claim_id" wire.capacityClaimId).mapError
    (fun _ => invalidDocument "capacity claim ID is invalid")
  let vmId ← (Identifier.parse "vm_id" wire.vmId).mapError
    (fun _ => invalidDocument "VM ID is invalid")
  let vmIdentity ← (wire.vmIdentityDigest.mapM
      (fun value => (Sha256Digest.parse value).map DisposableVmIdentity.mk)).mapError
    (fun _ => invalidDocument "VM identity digest is invalid")
  let runnerName ← (ScaleSetRunnerName.parse wire.runnerName).mapError
    (fun _ => invalidDocument "runner name is invalid")
  let runnerRequestId ← (ScaleSetRunnerRequestId.new wire.runnerRequestId).mapError
    (fun _ => invalidDocument "runner request ID is invalid")
  let runnerId ← (wire.runnerId.mapM ScaleSetRunnerId.new).mapError
    (fun _ => invalidDocument "runner ID is invalid")
  let phase ← parsePhase wire.phase
  let githubJobId ← (wire.githubJobId.mapM ScaleSetJobId.parse).mapError
    (fun _ => invalidDocument "Scale Set job ID is invalid")
  let result ← (wire.result.mapM ScaleSetJobResult.parse).mapError
    (fun _ => invalidDocument "Scale Set job result is invalid")
  let notAfter ← (EpochMillis.new wire.notAfter).mapError
    (fun _ => invalidDocument "attempt deadline is invalid")
  return ⟨wire.schemaVersion, revision, attemptId, capacityClaimId, vmId, vmIdentity, runnerName,
    runnerRequestId, runnerId, wire.jitGenerationStarted, wire.runnerStartStarted, phase,
    githubJobId, result, notAfter⟩

end OwnedAttemptWire

variable (serde : Reader)

/-- **Read and check one attempt document.** -/
def decodeDisposableAttemptState (bytes : List UInt8) :
    Except FieldError DisposableAttemptState := do
  refuseIf (bytes.length > maxDisposableAttemptStateBytes)
    ⟨"document", "document_too_large",
      "disposable attempt document exceeds the reviewed byte bound"⟩
  let version ← okOr ((serde.read bytes).bind (looseField "schema_version" (Value.asNat 256)))
    (invalidDocument "attempt JSON is invalid")
  refuseIf (version ≠ disposableAttemptStateSchemaVersion)
    ⟨"schema_version", "version_incompatible",
      "disposable attempt schema version is unsupported"⟩
  let wire ← okOr ((serde.read bytes).bind OwnedAttemptWire.ofJson)
    (invalidDocument "attempt JSON is invalid")
  let record ← wire.toRecord
  DisposableAttemptState.accept record

/-! ## Catalogs -/

/-- **The fields of a catalog document**, before any of them is checked. The
attempts are values without a type of their own. -/
structure CatalogWire where
  schemaVersion : Nat
  revision : Nat
  active : List (Value × ResourceAmounts × String)
  tombstones : List Value
deriving Repr

variable (value : Value)

/-- Amounts of a document. -/
def ResourceAmounts.ofJson : Option ResourceAmounts := do
  let fields ← recordFields ["cpu_millis", "memory_bytes", "disk_bytes"] value
  let cpuMillis ← field fields "cpu_millis" (Value.asNat (2 ^ 32))
  let memoryBytes ← field fields "memory_bytes" (Value.asNat u64Size)
  let diskBytes ← field fields "disk_bytes" (Value.asNat u64Size)
  return ⟨cpuMillis, memoryBytes, diskBytes⟩

/-- A reservation of a document. -/
def reservationWire : Option (Value × ResourceAmounts × String) := do
  let fields ← recordFields ["attempt", "resources", "prepared_template_digest"] value
  let attempt ← field fields "attempt" (fun v => some (dynamic v))
  let resources ← field fields "resources" ResourceAmounts.ofJson
  let digest ← field fields "prepared_template_digest" Value.asText
  return (attempt, resources, digest)

/-- A catalog of a document. -/
def CatalogWire.ofJson : Option CatalogWire := do
  let fields ← recordFields ["schema_version", "revision", "active", "tombstones"] value
  let schemaVersion ← field fields "schema_version" (Value.asNat 256)
  let revision ← field fields "revision" (Value.asNat u64Size)
  let active ← field fields "active" (Value.asList reservationWire)
  let tombstones ← field fields "tombstones" (Value.asList (fun v => some (dynamic v)))
  return ⟨schemaVersion, revision, active, tombstones⟩

/-- An attempt of a document, checked. -/
def decodeAttemptValue (value : Value) :
    Except DisposableAttemptCatalogCodecError DisposableAttemptState :=
  (decodeDisposableAttemptState serde (encode value)).mapError (fun error =>
    ⟨if error.code = "version_incompatible" then .versionIncompatible else .corruptState,
      "embedded disposable attempt state is invalid"⟩)

/-- A reservation, checked. -/
def decodeReservation (wire : Value × ResourceAmounts × String) :
    Except DisposableAttemptCatalogCodecError DisposableAttemptReservation := do
  let attempt ← decodeAttemptValue serde wire.1
  let resources ← (DisposableWorkerResources.new wire.2.1).mapError
    (fun _ => ⟨.corruptState, "disposable attempt reservation resources are invalid"⟩)
  let preparedTemplateIdentity ← ((Sha256Digest.parse wire.2.2).map
      DisposablePreparedTemplateIdentity.mk).mapError
    (fun _ => ⟨.corruptState, "disposable prepared-template digest is invalid"⟩)
  return ⟨attempt, resources, preparedTemplateIdentity⟩

/-- **Read and check one catalog document.** -/
def decodeDisposableAttemptCatalog (bytes : List UInt8) :
    Except DisposableAttemptCatalogCodecError DisposableAttemptCatalogDocument := do
  refuseIf (bytes.length > maxDisposableAttemptCatalogDocumentBytes)
    ⟨.documentTooLarge, "disposable attempt catalog exceeds the reviewed byte limit"⟩
  let version ← okOr ((serde.read bytes).bind (looseField "schema_version" (Value.asNat 256)))
    ⟨.invalidDocument, "disposable attempt catalog JSON is invalid"⟩
  refuseIf (version ≠ disposableAttemptCatalogSchemaVersion)
    ⟨.versionIncompatible, "disposable attempt catalog schema version is unsupported"⟩
  let wire ← okOr ((serde.read bytes).bind CatalogWire.ofJson)
    ⟨.invalidDocument, "disposable attempt catalog JSON is invalid"⟩
  refuseIf (wire.active.length > maxActiveDisposableAttempts
      ∨ wire.tombstones.length > maxDisposableAttemptTombstones)
    ⟨.corruptState, "disposable attempt catalog exceeds a reviewed entry bound"⟩
  let revision ← (DisposableAttemptCatalogRevision.new wire.revision).mapError
    (fun _ => ⟨.corruptState, "disposable attempt catalog revision is invalid"⟩)
  let active ← wire.active.mapM (decodeReservation serde)
  let tombstones ← wire.tombstones.mapM (decodeAttemptValue serde)
  let document ← (DisposableAttemptCatalogDocument.accept
      { schemaVersion := disposableAttemptCatalogSchemaVersion, revision, active,
        tombstones }).mapError
    (fun _ => ⟨.corruptState, "disposable attempt catalog invariants are invalid"⟩)
  let canonical ← encodeDisposableAttemptCatalog document
  refuseIf (canonical ≠ bytes)
    ⟨.nonCanonical, "disposable attempt catalog is not in canonical JSON form"⟩
  return document

/-! ## An attempt is read back -/

namespace DisposableAttemptState

variable (s : DisposableAttemptState)

theorem sublist_names : (s.wireFields.map Prod.fst).Sublist OwnedAttemptWire.names := by
  unfold wireFields
  cases s.vmIdentity <;> cases s.runnerId <;> cases s.githubJobId <;> cases s.result <;>
    simp only [Json.optional, map_none, map_some, map_cons, map_nil,
       append_nil, cons_append, nil_append] <;> decide

theorem nodup_names : (s.wireFields.map Prod.fst).Nodup := s.sublist_names.nodup (by decide)

theorem readable_and_isScalar_of_mem_wireFields {f : String × Value} (hf : f ∈ s.wireFields)
    (depth : Nat) : Readable depth f.2 ∧ f.2.isScalar = true := by
  have hver : s.schemaVersion < numberLimit := by
    rw [((validate_eq_ok_iff _).mp s.valid).1]
    decide
  have hrev : s.revision.val < numberLimit := lt_of_le_of_lt s.revision.le_max (by decide)
  have hopt {α : Type} {name : String} {write : α → Value} {value : Option α}
      (hf : f ∈ Json.optional name (value.map write))
      (hw : ∀ a, Readable depth (write a) ∧ (write a).isScalar = true) :
      Readable depth f.2 ∧ f.2.isScalar = true := by
    cases value with
    | none => cases hf
    | some a =>
      obtain rfl := mem_singleton.mp hf
      exact hw a
  simp only [wireFields, mem_append, mem_cons, not_mem_nil, or_false] at hf
  rcases hf with ((((((hf | hf) | hf) | hf) | hf) | hf) | hf) | hf
  · rcases hf with rfl | rfl | rfl | rfl | rfl
    · exact ⟨.num _ hver, rfl⟩
    · exact ⟨.num _ hrev, rfl⟩
    all_goals exact ⟨.str _ _, rfl⟩
  · exact hopt hf fun _ => ⟨.str _ _, rfl⟩
  · rcases hf with rfl | rfl
    · exact ⟨.str _ _, rfl⟩
    · exact ⟨.num _ s.runnerRequestId.lt_size, rfl⟩
  · exact hopt hf fun v => ⟨.num _ v.lt_size, rfl⟩
  · rcases hf with rfl | rfl | rfl
    · exact ⟨.bool _ _, rfl⟩
    · exact ⟨.bool _ _, rfl⟩
    · exact ⟨.str _ _, rfl⟩
  · exact hopt hf fun _ => ⟨.str _ _, rfl⟩
  · exact hopt hf fun _ => ⟨.str _ _, rfl⟩
  · rw [hf]
    exact ⟨.num _ s.notAfter.lt_size, rfl⟩

/-- The fields of an attempt, in order. -/
def sortedFields : List (String × Value) :=
  s.wireFields.insertionSort (fun f g => f.1 ≤ g.1)

theorem perm_sortedFields : s.sortedFields.Perm s.wireFields := perm_insertionSort _ _

theorem nodup_sortedNames : (s.sortedFields.map Prod.fst).Nodup :=
  ((s.perm_sortedFields.map Prod.fst).nodup_iff).mpr s.nodup_names

theorem lookup_sortedFields (name : String) :
    s.sortedFields.lookup name = s.wireFields.lookup name :=
  lookup_eq_of_perm s.perm_sortedFields s.nodup_sortedNames name

/-! The fields that may be missing. -/

theorem lookup_optionals :
    s.wireFields.lookup "vm_identity_digest"
        = s.vmIdentity.map (fun v => Value.str v.digest.value)
      ∧ s.wireFields.lookup "runner_id" = s.runnerId.map (fun v => Value.num v.val)
      ∧ s.wireFields.lookup "github_job_id" = s.githubJobId.map (fun v => Value.str v.value)
      ∧ s.wireFields.lookup "result" = s.result.map (fun v => Value.str v.value) := by
  simp [wireFields, List.lookup_append, lookup_cons, lookup_optional]

/-- An attempt, as it is read. -/
def wire : OwnedAttemptWire where
  schemaVersion := s.schemaVersion
  revision := s.revision.val
  attemptId := s.attemptId.value
  capacityClaimId := s.capacityClaimId.value
  vmId := s.vmId.value
  vmIdentityDigest := s.vmIdentity.map (fun v => v.digest.value)
  runnerName := s.runnerName.value
  runnerRequestId := s.runnerRequestId.val
  runnerId := s.runnerId.map (fun v => v.val)
  jitGenerationStarted := s.jitGenerationStarted
  runnerStartStarted := s.runnerStartStarted
  phase := phaseName s.phase
  githubJobId := s.githubJobId.map (fun v => v.value)
  result := s.result.map (fun v => v.value)
  notAfter := s.notAfter.val

/-- **The fields of an attempt are read back.** -/
theorem ofJson_sortedFields : OwnedAttemptWire.ofJson (.obj s.sortedFields) = some s.wire := by
  have hver : s.schemaVersion < 256 := by
    rw [((validate_eq_ok_iff _).mp s.valid).1]
    decide
  have hrev : s.revision.val < u64Size := lt_of_le_of_lt s.revision.le_max (by decide)
  have hrec : recordFields OwnedAttemptWire.names (.obj s.sortedFields)
      = some s.sortedFields := by
    refine recordFields_obj s.nodup_sortedNames fun f hf => ?_
    exact s.sublist_names.subset (mem_map_of_mem (s.perm_sortedFields.mem_iff.mp hf))
  have hfld {α : Type} {read : Value → Option α} (name : String) (value : Value)
      (h : (name, value) ∈ s.wireFields) : field s.sortedFields name read = read value :=
    field_of_lookup ((lookup_eq_some_iff_mem s.nodup_sortedNames).mpr
      (s.perm_sortedFields.mem_iff.mpr h))
  have hopt {α β : Type} {name : String} {read : Value → Option β} {write : α → Value}
      {view : α → β} {value : Option α} (h : s.wireFields.lookup name = value.map write)
      (hr : ∀ a, read (write a) = some (view a)) (hw : ∀ a, write a ≠ .null) :
      optionalField s.sortedFields name read = some (value.map view) :=
    optionalField_of_lookup ((s.lookup_sortedFields name).trans h) hr hw
  obtain ⟨hvm, hrnr, hjob, hres⟩ := s.lookup_optionals
  unfold OwnedAttemptWire.ofJson
  rw [hrec, bind_eq_bind, bind_some,
    hfld "schema_version" (.num s.schemaVersion) (by simp [wireFields]),
    hfld "revision" (.num s.revision.val) (by simp [wireFields]),
    hfld "attempt_id" (.str s.attemptId.value) (by simp [wireFields]),
    hfld "capacity_claim_id" (.str s.capacityClaimId.value) (by simp [wireFields]),
    hfld "vm_id" (.str s.vmId.value) (by simp [wireFields]),
    hopt hvm (fun _ => asText_str _) (fun _ => str_ne_null _),
    hfld "runner_name" (.str s.runnerName.value) (by simp [wireFields]),
    hfld "runner_request_id" (.num s.runnerRequestId.val) (by simp [wireFields]),
    hopt hrnr (fun v => asNat_num v.lt_size) (fun _ => num_ne_null _),
    hfld "jit_generation_started" (.bool s.jitGenerationStarted) (by simp [wireFields]),
    hfld "runner_start_started" (.bool s.runnerStartStarted) (by simp [wireFields]),
    hfld "phase" (.str (phaseName s.phase)) (by simp [wireFields]),
    hopt hjob (fun _ => asText_str _) (fun _ => str_ne_null _),
    hopt hres (fun _ => asText_str _) (fun _ => str_ne_null _),
    hfld "not_after" (.num s.notAfter.val) (by simp [wireFields]), asNat_num hver,
    asNat_num hrev, asNat_num s.runnerRequestId.lt_size, asNat_num s.notAfter.lt_size]
  rfl

/-- **The fields of an attempt are rebuilt.** -/
theorem toRecord_wire : s.wire.toRecord = .ok s.toAttemptRecord := by
  have hrev : DisposableAttemptRevision.new s.revision.val = .ok s.revision :=
    BoundedRevision.new_eq_ok.mpr rfl
  have hvm : (s.vmIdentity.map (fun v => v.digest.value)).mapM
      (fun value => (Sha256Digest.parse value).map DisposableVmIdentity.mk) = .ok s.vmIdentity :=
    mapM_map_eq_ok (fun v => by rw [Sha256Digest.parse_value]; rfl) _
  have hrnr : (s.runnerId.map (fun v => v.val)).mapM ScaleSetRunnerId.new = .ok s.runnerId :=
    mapM_map_eq_ok (fun v => PositiveU64.new_val v) _
  have hj : (s.githubJobId.map (fun v => v.value)).mapM ScaleSetJobId.parse = .ok s.githubJobId :=
    mapM_map_eq_ok ScaleSetJobId.parse_value _
  have hres : (s.result.map (fun v => v.value)).mapM ScaleSetJobResult.parse = .ok s.result :=
    mapM_map_eq_ok ScaleSetJobResult.parse_value _
  have hr : ScaleSetRunnerRequestId.new s.runnerRequestId.val = .ok s.runnerRequestId :=
    PositiveU64.new_val _
  have hn : EpochMillis.new s.notAfter.val = .ok s.notAfter := PositiveU64.new_val _
  simp only [OwnedAttemptWire.toRecord, wire, hrev, Identifier.parse_value, hvm,
    ScaleSetRunnerName.parse_value, hr, hrnr, parsePhase_phaseName, hj, hres,
    hn, ok_bind, Except.mapError]
  rfl

/-- **An embedded attempt is read back.** -/
theorem decode_encode_sortFields (serde : Reader) :
    decodeDisposableAttemptState serde (encode (sortFields s.toJson)) = .ok s := by
  have hr : Readable maxDepth (sortFields s.toJson) :=
    .obj fun f hf =>
      (s.readable_and_isScalar_of_mem_wireFields (s.perm_sortedFields.mem_iff.mp hf) _).1
  have hrd := serde.read_encode _ hr
  have hlen : ¬ (encode (sortFields s.toJson)).length > maxDisposableAttemptStateBytes :=
    not_lt.mpr (le_trans (cost_sortFields_toJson_le s) (by decide))
  have hv : s.schemaVersion = disposableAttemptStateSchemaVersion :=
    ((validate_eq_ok_iff _).mp s.valid).1
  have hl : looseField "schema_version" (Value.asNat 256) (sortFields s.toJson)
      = some disposableAttemptStateSchemaVersion := by
    refine looseField_num s.nodup_sortedNames ?_ (by decide)
    rw [← hv]
    exact s.lookup_sortedFields _
  have hw : OwnedAttemptWire.ofJson (sortFields s.toJson) = some s.wire := s.ofJson_sortedFields
  unfold decodeDisposableAttemptState
  rw [refuseIf_bind hlen, hrd, bind_some, bind_some, hl, hw]
  simp only [okOr, ok_bind, ne_eq, not_true_eq_false, refuseIf, if_false, toRecord_wire]
  exact accept_eq_ok.mpr rfl

end DisposableAttemptState

/-! ## A catalog is read back -/

namespace DisposableAttemptReservation

variable (r : DisposableAttemptReservation)

/-- A reservation, as it is read. -/
def wire : Value × ResourceAmounts × String :=
  (sortFields r.attempt.toJson, r.resources.toResourceAmounts,
    r.preparedTemplateIdentity.digest.value)

theorem ofJson_resources : ResourceAmounts.ofJson r.resources.toJson
    = some r.resources.toResourceAmounts := by
  have hc : r.resources.cpuMillis < 2 ^ 32 := lt_of_le_of_lt r.resources.cpu_bounds.2 (by decide)
  have hm : r.resources.memoryBytes < u64Size :=
    lt_of_le_of_lt r.resources.memory_bounds.2 (by decide)
  have hd : r.resources.diskBytes < u64Size :=
    lt_of_le_of_lt r.resources.disk_bounds.2 (by decide)
  unfold ResourceAmounts.ofJson ResourceAmounts.toJson
  rw [recordFields_bind (by simp) (by simp), field_of_lookup rfl, asNat_num hc,
    field_of_lookup rfl, asNat_num hm, field_of_lookup rfl, asNat_num hd]
  rfl

theorem dynamic_attempt (s : DisposableAttemptState) :
    dynamic (sortFields s.toJson) = sortFields s.toJson :=
  dynamic_sortFields s.nodup_names fun _ hf =>
    (s.readable_and_isScalar_of_mem_wireFields hf 0).2

/-- **The fields of a reservation are read back.** -/
theorem reservationWire_value : reservationWire r.value = some r.wire := by
  unfold reservationWire value
  rw [recordFields_bind (by simp) (by simp), field_of_lookup rfl, field_of_lookup rfl,
    field_of_lookup rfl, dynamic_attempt, ofJson_resources]
  rfl

/-- **A reservation is rebuilt.** -/
theorem decodeReservation_wire (serde : Reader) : decodeReservation serde r.wire = .ok r := by
  unfold decodeReservation decodeAttemptValue
  show (((decodeDisposableAttemptState serde (encode (sortFields r.attempt.toJson))).mapError _)
    >>= fun _ => _) = _
  simp only [wire, DisposableAttemptState.decode_encode_sortFields, Except.mapError, ok_bind,
    new_toResourceAmounts, Sha256Digest.parse_value]
  rfl

end DisposableAttemptReservation

namespace DisposableAttemptCatalogDocument

variable (c : DisposableAttemptCatalogDocument)

theorem readable_wireFields : Readable maxDepth (.obj c.wireFields) := by
  have ha (depth : Nat) (s : DisposableAttemptState) :
      Readable (depth + 1) (sortFields s.toJson) :=
    .obj fun f hf =>
      (s.readable_and_isScalar_of_mem_wireFields (s.perm_sortedFields.mem_iff.mp hf) _).1
  have hrsc (depth : Nat) (r : DisposableWorkerResources) :
      Readable (depth + 1) r.toJson := by
    refine .fields ⟨?_, ?_, ?_⟩
    · exact .num _ (lt_of_le_of_lt r.cpu_bounds.2 (by decide))
    · exact .num _ (lt_of_le_of_lt r.memory_bounds.2 (by decide))
    · exact .num _ (lt_of_le_of_lt r.disk_bounds.2 (by decide))
  have hr (depth : Nat) (r : DisposableAttemptReservation) :
      Readable (depth + 2) r.value :=
    .fields ⟨ha _ _, hrsc _ _, .str _ _⟩
  refine .fields ⟨.num _ ?_, .num _ (lt_of_le_of_lt c.revision.le_max (by decide)), ?_, ?_⟩
  · rw [c.schemaVersion_eq]
    decide
  · exact readable_arr_map _ (hr _)
  · exact readable_arr_map _ (ha _)

/-- A catalog, as it is read. -/
def wire : CatalogWire where
  schemaVersion := c.schemaVersion
  revision := c.revision.val
  active := c.active.map DisposableAttemptReservation.wire
  tombstones := c.tombstones.map (fun s => sortFields s.toJson)

/-- **The fields of a catalog are read back.** -/
theorem ofJson_wireFields : CatalogWire.ofJson (.obj c.wireFields) = some c.wire := by
  have hv : c.schemaVersion < 256 := by
    rw [c.schemaVersion_eq]
    decide
  have hr : c.revision.val < u64Size := lt_of_le_of_lt c.revision.le_max (by decide)
  have ht : (Value.arr (c.tombstones.map (fun s => sortFields s.toJson))).asList
      (fun v => some (dynamic v)) = some (c.tombstones.map (fun s => sortFields s.toJson)) :=
    asList_arr_map _ fun s _ => congrArg some (DisposableAttemptReservation.dynamic_attempt s)
  unfold CatalogWire.ofJson wireFields
  rw [recordFields_bind (by simp) (by simp), field_of_lookup rfl, asNat_num hv,
    field_of_lookup rfl, asNat_num hr, field_of_lookup rfl,
    asList_arr_map _ fun r _ => r.reservationWire_value, field_of_lookup rfl, ht]
  rfl

/-- **A catalog that was written is read back as it was.** -/
theorem decode_encode (serde : Reader) :
    decodeDisposableAttemptCatalog serde (encode (.obj c.wireFields)) = .ok c := by
  have henc := c.encodeDisposableAttemptCatalog_eq_ok
  have hlen : ¬ (encode (.obj c.wireFields)).length > maxDisposableAttemptCatalogDocumentBytes :=
    not_lt.mpr (length_encodeDisposableAttemptCatalog_le henc)
  have hl : looseField "schema_version" (Value.asNat 256) (.obj c.wireFields)
      = some disposableAttemptCatalogSchemaVersion :=
    looseField_num (by simp [wireFields]) (by rw [← c.schemaVersion_eq]; rfl) (by decide)
  have hbds : ¬ (c.wire.active.length > maxActiveDisposableAttempts
      ∨ c.wire.tombstones.length > maxDisposableAttemptTombstones) := by
    have hact := c.length_active_le
    have ht := c.length_tombstones_le
    simp only [wire, length_map]
    omega
  have hrev : DisposableAttemptCatalogRevision.new c.wire.revision = .ok c.revision :=
    BoundedRevision.new_eq_ok.mpr rfl
  have hact : c.wire.active.mapM (decodeReservation serde) = .ok c.active :=
    mapM_map_eq_self fun r _ => r.decodeReservation_wire serde
  have ht : c.wire.tombstones.mapM (decodeAttemptValue serde) = .ok c.tombstones := by
    have hatt (s : DisposableAttemptState) :
        decodeAttemptValue serde (sortFields s.toJson) = .ok s := by
      unfold decodeAttemptValue
      rw [s.decode_encode_sortFields]
      rfl
    exact mapM_map_eq_self fun s _ => hatt s
  have ha : DisposableAttemptCatalogDocument.accept
      { schemaVersion := disposableAttemptCatalogSchemaVersion, revision := c.revision,
        active := c.active, tombstones := c.tombstones } = .ok c := by
    rw [← c.schemaVersion_eq]
    exact accept_eq_ok.mpr rfl
  unfold decodeDisposableAttemptCatalog
  rw [refuseIf_bind hlen, serde.read_encode _ c.readable_wireFields,
    bind_some, bind_some, hl, c.ofJson_wireFields]
  simp only [okOr, ok_bind, ne_eq, not_true_eq_false, refuseIf, if_false, if_neg hbds,
    hrev, hact, ht, ha, henc, Except.mapError]
  rfl

end DisposableAttemptCatalogDocument

theorem encode_of_decode {serde : Reader} {bytes : List UInt8}
    {c : DisposableAttemptCatalogDocument}
    (h : decodeDisposableAttemptCatalog serde bytes = .ok c) :
    encodeDisposableAttemptCatalog c = .ok bytes := by
  unfold decodeDisposableAttemptCatalog at h
  simp only [bind_eq_ok, refuseIf_eq_ok, not_not, pure_eq_ok_iff] at h
  obtain ⟨_, -, _, -, _, -, _, -, _, -, _, -, _, -, _, -, _, -, _, hc, _, rfl, rfl⟩ := h
  exact hc

/-- **The round trip of the catalog file.** Every catalog is written, within
the limit, and read back as it was; and a text that is read as a catalog is
the one that catalog is written as, so that no two texts mean the same. -/
theorem decode_encode_and_encode_decode (serde : Reader) :
    (∀ c, ∃ bytes, encodeDisposableAttemptCatalog c = .ok bytes
        ∧ bytes.length ≤ maxDisposableAttemptCatalogDocumentBytes
        ∧ decodeDisposableAttemptCatalog serde bytes = .ok c)
      ∧ (∀ bytes c, decodeDisposableAttemptCatalog serde bytes = .ok c →
        encodeDisposableAttemptCatalog c = .ok bytes)
      ∧ ∀ bytes bytes' c, decodeDisposableAttemptCatalog serde bytes = .ok c →
        decodeDisposableAttemptCatalog serde bytes' = .ok c → bytes = bytes' := by
  refine ⟨fun c => ?_, fun _ _ => encode_of_decode, fun bytes bytes' c h h' => ?_⟩
  · have he := c.encodeDisposableAttemptCatalog_eq_ok
    exact ⟨_, he, length_encodeDisposableAttemptCatalog_le he, c.decode_encode serde⟩
  · exact ok.inj ((encode_of_decode h).symm.trans (encode_of_decode h'))

theorem decode_encode_clonedCatalog :
    clonedCatalog.active.length = 1 ∧ clonedCatalog.tombstones.length = 1
      ∧ ∃ bytes, encodeDisposableAttemptCatalog clonedCatalog = .ok bytes
        ∧ decodeDisposableAttemptCatalog compactReader bytes = .ok clonedCatalog := by
  obtain ⟨bytes, he, -, hd⟩ :=
    (decode_encode_and_encode_decode compactReader).1 clonedCatalog
  exact ⟨by decide +kernel, by decide +kernel, bytes, he, hd⟩

end Glaeda
