import Glaeda.CatalogHistory
import Glaeda.Json

/-!
# The catalog document

The catalog is stored as one compact JSON document with a byte limit. Each
attempt is written as its own document first, under a limit of its own, and
embedded as a dynamically typed value, which sorts its fields by name.

**Every catalog fits.** The bounds on the number of attempts and on the
texts inside them keep the document far below its limit, so encoding a
catalog never fails (`exists_encodeDisposableAttemptCatalog`). Everything
that hashes or stores a catalog rests on this.
-/

namespace Glaeda

open Checked Json List

/-! ## Attempts -/

/-- The largest attempt. -/
def maxDisposableAttemptStateBytes : Nat := 16384

/-- A phase as text. -/
def phaseName : DisposableAttemptPhase → String
  | .reserved => "reserved"
  | .unprovisionedReleasing => "unprovisioned_releasing"
  | .provisioning => "provisioning"
  | .cloneAuthorized => "clone_authorized"
  | .cloneStarted => "clone_started"
  | .registering => "registering"
  | .waiting => "waiting"
  | .assigned => "assigned"
  | .running => "running"
  | .terminal => "terminal"
  | .destroying => "destroying"
  | .deregistering => "deregistering"
  | .releasing => "releasing"
  | .complete => "complete"

namespace DisposableAttemptState

/-- The fields of an attempt document. Evidence that is not there is left
out. -/
def wireFields (s : DisposableAttemptState) : List (String × Value) :=
  [("schema_version", Value.num s.schemaVersion),
    ("revision", Value.num s.revision.val),
    ("attempt_id", Value.str s.attemptId.value),
    ("capacity_claim_id", Value.str s.capacityClaimId.value),
    ("vm_id", Value.str s.vmId.value)]
    ++ optional "vm_identity_digest" (s.vmIdentity.map (fun v => Value.str v.digest.value))
    ++ [("runner_name", Value.str s.runnerName.value),
      ("runner_request_id", Value.num s.runnerRequestId.val)]
    ++ optional "runner_id" (s.runnerId.map (fun v => Value.num v.val))
    ++ [("jit_generation_started", Value.bool s.jitGenerationStarted),
      ("runner_start_started", Value.bool s.runnerStartStarted),
      ("phase", Value.str (phaseName s.phase))]
    ++ optional "github_job_id" (s.githubJobId.map (fun v => Value.str v.value))
    ++ optional "result" (s.result.map (fun v => Value.str v.value))
    ++ [("not_after", Value.num s.notAfter.val)]

/-- An attempt as JSON. -/
def toJson (s : DisposableAttemptState) : Value := .obj s.wireFields

end DisposableAttemptState

/-- **The document of an attempt**, unless it is too long. -/
def encodeDisposableAttemptState (s : DisposableAttemptState) :
    Except FieldError (List UInt8) := do
  s.validate
  encodeWithin maxDisposableAttemptStateBytes
    ⟨"document", "document_too_large",
      "disposable attempt document exceeds the reviewed byte bound"⟩ s.toJson

/-! ## Catalogs -/

/-- The largest catalog. -/
def maxDisposableAttemptCatalogDocumentBytes : Nat := 1048576

/-- The kinds of refusal. -/
inductive DisposableAttemptCatalogCodecErrorKind where
  | invalidDocument
  | versionIncompatible
  | documentTooLarge
  | nonCanonical
  | corruptState
deriving DecidableEq, Repr

/-- A refusal, with its text. -/
structure DisposableAttemptCatalogCodecError where
  kind : DisposableAttemptCatalogCodecErrorKind
  message : String
deriving DecidableEq, Repr

/-- An attempt as a dynamically typed value: its document is written and
read back, and reading sorts the fields. -/
def encodeAttemptValue (attempt : DisposableAttemptState) :
    Except DisposableAttemptCatalogCodecError Value := do
  let _ ← (encodeDisposableAttemptState attempt).mapError
    (fun _ => ⟨.corruptState, "embedded disposable attempt cannot encode"⟩)
  return sortFields attempt.toJson

/-- Amounts as JSON. -/
def ResourceAmounts.toJson (r : ResourceAmounts) : Value :=
  .obj [("cpu_millis", .num r.cpuMillis), ("memory_bytes", .num r.memoryBytes),
    ("disk_bytes", .num r.diskBytes)]

/-- A reservation as JSON, if it fits. -/
def encodeReservation (r : DisposableAttemptReservation) :
    Except DisposableAttemptCatalogCodecError Value := do
  let attempt ← encodeAttemptValue r.attempt
  return .obj [("attempt", attempt), ("resources", r.resources.toJson),
    ("prepared_template_digest", .str r.preparedTemplateIdentity.digest.value)]

/-- **The document of a catalog**, unless it is too long. -/
def encodeDisposableAttemptCatalog (c : DisposableAttemptCatalogDocument) :
    Except DisposableAttemptCatalogCodecError (List UInt8) := do
  c.validate.mapError (fun _ => ⟨.corruptState, "catalog invariants are invalid"⟩)
  let active ← c.active.mapM encodeReservation
  let tombstones ← c.tombstones.mapM encodeAttemptValue
  encodeWithin maxDisposableAttemptCatalogDocumentBytes
    ⟨.documentTooLarge, "disposable attempt catalog exceeds the reviewed byte limit"⟩
    (.obj [("schema_version", .num c.schemaVersion), ("revision", .num c.revision.val),
      ("active", .arr active), ("tombstones", .arr tombstones)])

/-! ## Every catalog fits -/

theorem printable_of_isAsciiGraphic {c : Char} (h : isAsciiGraphic c = true) : Printable c := by
  simp only [isAsciiGraphic, Bool.and_eq_true, decide_eq_true_eq] at h
  exact ⟨by omega, by omega⟩

theorem printable_of_isNameChar {c : Char} (h : isNameChar c = true) : Printable c := by
  delta isNameChar Char.isLower at h
  simp only [Char.isDigit, Bool.or_eq_true, Bool.and_eq_true, decide_eq_true_eq, beq_iff_eq,
    UInt32.le_iff_toNat_le] at h
  rcases h with (h | h) | rfl
  · exact ⟨le_trans (by decide) h.1, lt_of_le_of_lt h.2 (by decide)⟩
  · exact ⟨le_trans (by decide) h.1, lt_of_le_of_lt h.2 (by decide)⟩
  · decide

theorem printable_of_isLowerHex {c : Char} (h : isLowerHex c = true) : Printable c := by
  simp only [isLowerHex, Char.isDigit, Bool.or_eq_true, Bool.and_eq_true,
    decide_eq_true_eq, UInt32.le_iff_toNat_le] at h
  rcases h with h | h
  · exact ⟨le_trans (by decide) h.1, lt_of_le_of_lt h.2 (by decide)⟩
  · exact ⟨by omega, by omega⟩

theorem cost_str_of_isBoundedName {value : String} {maxLen : Nat}
    (h : isBoundedName maxLen value = true) : cost (.str value) ≤ 2 * maxLen + 2 := by
  simp only [isBoundedName, Bool.and_eq_true, decide_eq_true_eq, all_eq_true] at h
  have hcs := cost_str_le (fun c hc => printable_of_isNameChar (h.1.1.2 c hc))
  exact le_trans hcs (Nat.add_le_add_right (Nat.mul_le_mul_left 2 h.1.1.1.2) 2)

theorem cost_str_of_isJobId {value : String} (h : isJobId value = true) :
    cost (.str value) ≤ 2 * maxJobIdLen + 2 := by
  simp only [isJobId, Bool.and_eq_true, decide_eq_true_eq, all_eq_true] at h
  have hcs := cost_str_le (fun c hc => printable_of_isAsciiGraphic (h.2 c hc))
  exact le_trans hcs (Nat.add_le_add_right (Nat.mul_le_mul_left 2 h.1.2) 2)

theorem cost_str_of_isJobResult {value : String} (h : isJobResult value = true) :
    cost (.str value) ≤ 2 * maxJobResultLen + 2 := by
  simp only [isJobResult, Bool.and_eq_true, decide_eq_true_eq, all_eq_true,
    Bool.or_eq_true, beq_iff_eq] at h
  have hp : ∀ c ∈ value.toList, Printable c := by
    intro c hc
    rcases h.2 c hc with hg | rfl
    · exact printable_of_isAsciiGraphic hg
    · decide
  exact le_trans (cost_str_le hp) (Nat.add_le_add_right (Nat.mul_le_mul_left 2 h.1.1.1.2) 2)

theorem cost_str_digest_le (digest : Sha256Digest) : cost (.str digest.value) ≤ 144 := by
  have h := digest.valid
  simp only [isSha256Digest, Bool.and_eq_true, beq_iff_eq, all_eq_true] at h
  obtain ⟨⟨hs, hl⟩, hh⟩ := h
  have hsha : "sha256:".toList.all (fun c => decide (Printable c)) = true := by decide
  have hp : ∀ c ∈ digest.value.toList, Printable c := by
    intro c hc
    rw [← take_append_drop 7 digest.value.toList, mem_append] at hc
    rcases hc with hc | hc
    · rw [hs] at hc
      exact of_decide_eq_true (all_eq_true.mp hsha c hc)
    · exact printable_of_isLowerHex (hh c hc)
  have hlen : digest.value.toList.length ≤ 71 := by
    rw [length_drop] at hl
    omega
  have := cost_str_le hp
  omega

theorem cost_num_u64_le {n : Nat} (h : n < u64Size) : cost (.num n) ≤ 20 :=
  cost_num_le (by decide) (lt_trans h (by decide))

theorem cost_phaseName_le (phase : DisposableAttemptPhase) :
    cost (.str (phaseName phase)) ≤ 25 := by
  cases phase <;> decide

variable (s : DisposableAttemptState)

/-- **The fields of an attempt fit.** -/
theorem fieldsCost_wireFields_le : fieldsCost s.wireFields ≤ 2300 := by
  have hvm := fieldsCost_optional_le "vm_identity_digest"
    (fun v : DisposableVmIdentity => Value.str v.digest.value)
    (fun v => cost_str_digest_le v.digest) s.vmIdentity
  have hrnr := fieldsCost_optional_le "runner_id" (fun v : ScaleSetRunnerId => Value.num v.val)
    (fun v => cost_num_u64_le v.lt_size) s.runnerId
  have hjob := fieldsCost_optional_le "github_job_id" (fun v : ScaleSetJobId => Value.str v.value)
    (fun v => cost_str_of_isJobId v.valid) s.githubJobId
  have hres := fieldsCost_optional_le "result" (fun v : ScaleSetJobResult => Value.str v.value)
    (fun v => cost_str_of_isJobResult v.valid) s.result
  have hver : cost (.num s.schemaVersion) ≤ 1 := by
    rw [((DisposableAttemptState.validate_eq_ok_iff _).mp s.valid).1]
    decide
  have hrev : cost (.num s.revision.val) ≤ 13 :=
    cost_num_le (by decide) (lt_of_le_of_lt s.revision.le_max (by decide))
  have hreq := cost_num_u64_le s.runnerRequestId.lt_size
  have hd := cost_num_u64_le s.notAfter.lt_size
  have hatt := cost_str_of_isBoundedName s.attemptId.valid
  have hclm := cost_str_of_isBoundedName s.capacityClaimId.valid
  have hv := cost_str_of_isBoundedName s.vmId.valid
  have hn := cost_str_of_isBoundedName s.runnerName.valid
  have hph := cost_phaseName_le s.phase
  have hjit := cost_bool_le s.jitGenerationStarted
  have hs := cost_bool_le s.runnerStartStarted
  have hk : ∀ name ∈ ["schema_version", "revision", "attempt_id", "capacity_claim_id", "vm_id",
      "vm_identity_digest", "runner_name", "runner_request_id", "runner_id",
      "jit_generation_started", "runner_start_started", "phase", "github_job_id", "result",
      "not_after"], (utf8 (quote name)).length ≤ 24 := by decide
  simp only [forall_mem_cons] at hk
  simp only [DisposableAttemptState.wireFields, fieldsCost_append, fieldsCost_cons, fieldsCost_nil]
  simp only [maxIdentifierLen, maxRunnerNameLen, maxJobIdLen, maxJobResultLen] at *
  omega

theorem encodeDisposableAttemptState_eq_ok :
    encodeDisposableAttemptState s = .ok (encode s.toJson) := by
  have hc : (encode s.toJson).length ≤ maxDisposableAttemptStateBytes :=
    le_trans (cost_obj_le s.wireFields)
      (le_trans (Nat.add_le_add_right (fieldsCost_wireFields_le s) 2) (by decide))
  unfold encodeDisposableAttemptState
  rw [s.valid, ok_bind]
  exact encodeWithin_eq_ok.mpr ⟨hc, rfl⟩

theorem encodeAttemptValue_eq_ok : encodeAttemptValue s = .ok (sortFields s.toJson) := by
  unfold encodeAttemptValue
  rw [encodeDisposableAttemptState_eq_ok]
  rfl

theorem cost_sortFields_toJson_le : cost (sortFields s.toJson) ≤ 2302 :=
  le_trans (cost_sortFields_obj_le s.wireFields)
    (Nat.add_le_add_right (fieldsCost_wireFields_le s) 2)

theorem cost_resources_le (r : DisposableWorkerResources) : cost r.toJson ≤ 130 := by
  have hc : cost (.num r.cpuMillis) ≤ 20 :=
    cost_num_le (by decide) (lt_of_le_of_lt r.cpu_bounds.2 (by decide))
  have hm : cost (.num r.memoryBytes) ≤ 20 :=
    cost_num_le (by decide) (lt_of_le_of_lt r.memory_bounds.2 (by decide))
  have hd : cost (.num r.diskBytes) ≤ 20 :=
    cost_num_le (by decide) (lt_of_le_of_lt r.disk_bounds.2 (by decide))
  refine le_trans (cost_obj_le_of_names 14 (by simp only [forall_mem_cons]; decide)) ?_
  simp only [map_cons, map_nil, sum_cons, sum_nil]
  omega

namespace DisposableAttemptReservation

variable (r : DisposableAttemptReservation)

/-- A reservation as JSON. -/
def value : Value :=
  .obj [("attempt", sortFields r.attempt.toJson), ("resources", r.resources.toJson),
    ("prepared_template_digest", .str r.preparedTemplateIdentity.digest.value)]

theorem encodeReservation_eq_ok : encodeReservation r = .ok r.value := by
  unfold encodeReservation
  rw [encodeAttemptValue_eq_ok]
  rfl

theorem cost_value_le : cost r.value ≤ 2700 := by
  refine le_trans (cost_obj_le_of_names 26 (by simp only [forall_mem_cons]; decide)) ?_
  have ha := cost_sortFields_toJson_le r.attempt
  have hr := cost_resources_le r.resources
  have hd := cost_str_digest_le r.preparedTemplateIdentity.digest
  simp only [map_cons, map_nil, sum_cons, sum_nil]
  omega

end DisposableAttemptReservation

namespace DisposableAttemptCatalogDocument

variable (c : DisposableAttemptCatalogDocument)

/-- The fields of a catalog. -/
def wireFields : List (String × Value) :=
  [("schema_version", .num c.schemaVersion), ("revision", .num c.revision.val),
    ("active", .arr (c.active.map DisposableAttemptReservation.value)),
    ("tombstones", .arr (c.tombstones.map (fun s => sortFields s.toJson)))]

theorem cost_wireFields_le :
    cost (.obj c.wireFields) ≤ maxDisposableAttemptCatalogDocumentBytes := by
  have ha := cost_arr_map_le DisposableAttemptReservation.cost_value_le c.active
  have ht := cost_arr_map_le cost_sortFields_toJson_le c.tombstones
  have hv : cost (.num c.schemaVersion) ≤ 1 := by
    rw [((CatalogRecord.validate_eq_ok_iff _).mp c.valid).1]
    decide
  have hr : cost (.num c.revision.val) ≤ 13 :=
    cost_num_le (by decide) (lt_of_le_of_lt c.revision.le_max (by decide))
  have hl : c.active.length ≤ 64 ∧ c.tombstones.length ≤ 64 :=
    ⟨c.length_active_le, c.length_tombstones_le⟩
  unfold wireFields
  refine le_trans (cost_obj_le_of_names 16 (by simp only [forall_mem_cons]; decide)) ?_
  simp only [map_cons, map_nil, sum_cons, sum_nil, maxDisposableAttemptCatalogDocumentBytes]
  omega

/-- **Every catalog has a document.** -/
theorem encodeDisposableAttemptCatalog_eq_ok :
    encodeDisposableAttemptCatalog c = .ok (encode (.obj c.wireFields)) := by
  unfold encodeDisposableAttemptCatalog
  rw [c.valid, mapM_eq_ok_map fun r _ => r.encodeReservation_eq_ok,
    mapM_eq_ok_map fun s _ => encodeAttemptValue_eq_ok s, mapError_eq_ok.mpr rfl, ok_bind, ok_bind,
    ok_bind]
  exact encodeWithin_eq_ok.mpr ⟨c.cost_wireFields_le, rfl⟩

end DisposableAttemptCatalogDocument

theorem exists_encodeDisposableAttemptCatalog (c : DisposableAttemptCatalogDocument) :
    ∃ bytes, encodeDisposableAttemptCatalog c = .ok bytes :=
  ⟨_, c.encodeDisposableAttemptCatalog_eq_ok⟩

theorem length_encodeDisposableAttemptCatalog_le {c : DisposableAttemptCatalogDocument}
    {bytes : List UInt8} (h : encodeDisposableAttemptCatalog c = .ok bytes) :
    bytes.length ≤ maxDisposableAttemptCatalogDocumentBytes := by
  obtain rfl := Except.ok.inj (h.symm.trans c.encodeDisposableAttemptCatalog_eq_ok)
  exact c.cost_wireFields_le

end Glaeda
