import Glaeda.Delivery
import Glaeda.JsonReader

/-!
# Reading a delivery document

A stored message is read back field by field, validated, **written again and
compared with the text it came from**. A delivery that has a document is
read back from it as it was (`decode_encode`), and whatever is read as a
delivery is the text that delivery is written as (`encode_of_decode`). Both
hold for every reader of JSON.
-/

namespace Glaeda

open Checked Json List

/-! ## Numbers of a fixed width -/

variable (value : Value)

/-- A number of 32 bits. -/
def asUInt32 : Option UInt32 := (value.asNat (2 ^ 32)).map UInt32.ofNat

/-- A number of 64 bits. -/
def asUInt64 : Option UInt64 := (value.asNat (2 ^ 64)).map UInt64.ofNat

theorem asUInt32_num (n : UInt32) : asUInt32 (.num n.toNat) = some n := by
  unfold asUInt32
  rw [asNat_num n.toNat_lt, Option.map_some, UInt32.ofNat_toNat]

theorem asUInt64_num (n : UInt64) : asUInt64 (.num n.toNat) = some n := by
  unfold asUInt64
  rw [asNat_num n.toNat_lt, Option.map_some, UInt64.ofNat_toNat]

/-! ## The parts of a message -/

/-- The statistics of a document. -/
def ScaleSetDeliveryStatistics.ofJson : Option ScaleSetDeliveryStatistics := do
  let fields ← recordFields ["available_jobs", "acquired_jobs", "assigned_jobs", "running_jobs",
    "registered_runners", "busy_runners", "idle_runners"] value
  let availableJobs ← field fields "available_jobs" asUInt32
  let acquiredJobs ← field fields "acquired_jobs" asUInt32
  let assignedJobs ← field fields "assigned_jobs" asUInt32
  let runningJobs ← field fields "running_jobs" asUInt32
  let registeredRunners ← field fields "registered_runners" asUInt32
  let busyRunners ← field fields "busy_runners" asUInt32
  let idleRunners ← field fields "idle_runners" asUInt32
  return ⟨availableJobs, acquiredJobs, assignedJobs, runningJobs, registeredRunners, busyRunners,
    idleRunners⟩

/-- A job of a document. -/
def ScaleSetDeliveryJob.ofJson : Option ScaleSetDeliveryJob := do
  let fields ← recordFields ["runner_request_id", "repository", "owner", "job_id",
    "workflow_run_id", "request_labels"] value
  let runnerRequestId ← field fields "runner_request_id" asUInt64
  let repository ← field fields "repository" Value.asText
  let owner ← field fields "owner" Value.asText
  let jobId ← field fields "job_id" Value.asText
  let workflowRunId ← field fields "workflow_run_id" asUInt64
  let requestLabels ← field fields "request_labels" (Value.asList Value.asText)
  return ⟨runnerRequestId, repository, owner, jobId, workflowRunId, requestLabels⟩

/-- A runner of a document. -/
def ScaleSetDeliveryRunner.ofJson : Option ScaleSetDeliveryRunner := do
  let fields ← recordFields ["id", "name"] value
  let id ← field fields "id" asUInt64
  let name ← field fields "name" Value.asText
  return ⟨id, name⟩

/-- An event of a document. -/
def ScaleSetDeliveryEvent.ofJson (value : Value) : Option ScaleSetDeliveryEvent := do
  match ← looseField "kind" Value.asText value with
  | "available" => do
    let fields ← recordFields ["kind", "job"] value
    let job ← field fields "job" ScaleSetDeliveryJob.ofJson
    return .available job
  | "assigned" => do
    let fields ← recordFields ["kind", "job"] value
    let job ← field fields "job" ScaleSetDeliveryJob.ofJson
    return .assigned job
  | "started" => do
    let fields ← recordFields ["kind", "job", "runner"] value
    let job ← field fields "job" ScaleSetDeliveryJob.ofJson
    let runner ← field fields "runner" ScaleSetDeliveryRunner.ofJson
    return .started job runner
  | "completed" => do
    let fields ← recordFields ["kind", "job", "runner", "result"] value
    let job ← field fields "job" ScaleSetDeliveryJob.ofJson
    let runner ← optionalField fields "runner" ScaleSetDeliveryRunner.ofJson
    let result ← field fields "result" Value.asText
    return .completed job runner result
  | _ => none

/-- A message of a document. -/
def DeliveryRecord.ofJson (value : Value) : Option DeliveryRecord := do
  let fields ← recordFields ["schema_version", "message_id", "statistics",
    "available_request_ids", "events"] value
  let schemaVersion ← field fields "schema_version" (Value.asNat 256)
  let messageId ← field fields "message_id" asUInt32
  let statistics ← field fields "statistics" ScaleSetDeliveryStatistics.ofJson
  let availableRequestNumbers ← field fields "available_request_ids" (Value.asList asUInt64)
  let events ← field fields "events" (Value.asList ScaleSetDeliveryEvent.ofJson)
  return ⟨schemaVersion, messageId, statistics, availableRequestNumbers, events⟩

/-- **Read and check one delivery document.** -/
def decodeScaleSetDelivery (serde : Reader) (bytes : List UInt8) :
    Except ScaleSetDeliveryError ScaleSetDelivery := do
  refuseIf (bytes.length > maxScaleSetDeliveryBytes)
    ⟨.documentTooLarge, "Scale Set delivery exceeds the reviewed byte limit"⟩
  let version ← okOr ((serde.read bytes).bind (looseField "schema_version" (Value.asNat 256)))
    ⟨.invalidDocument, "Scale Set delivery JSON is invalid"⟩
  refuseIf (version ≠ scaleSetDeliverySchemaVersion)
    ⟨.versionIncompatible, "Scale Set delivery schema version is unsupported"⟩
  let record ← okOr ((serde.read bytes).bind DeliveryRecord.ofJson)
    ⟨.invalidDocument, "Scale Set delivery JSON is invalid"⟩
  let delivery ← ScaleSetDelivery.accept record
  let canonical ← encodeScaleSetDelivery delivery
  refuseIf (canonical ≠ bytes)
    ⟨.nonCanonical, "Scale Set delivery is not in canonical JSON form"⟩
  return delivery

/-! ## The parts are read back -/

theorem ScaleSetDeliveryStatistics.ofJson_toJson (s : ScaleSetDeliveryStatistics) :
    ofJson s.toJson = some s := by
  unfold ofJson toJson
  rw [recordFields_bind (by simp) (by simp)]
  iterate 7 rw [field_of_lookup rfl, asUInt32_num]
  rfl

variable (job : ScaleSetDeliveryJob)

theorem ScaleSetDeliveryJob.ofJson_toJson : ofJson job.toJson = some job := by
  have hl : (Value.arr (job.requestLabels.map .str)).asList Value.asText
      = some (job.requestLabels.map id) :=
    asList_arr_map _ fun _ _ => rfl
  unfold ofJson toJson
  rw [recordFields_bind (by simp) (by simp),
    field_of_lookup rfl, asUInt64_num, field_of_lookup rfl, field_of_lookup rfl,
    field_of_lookup rfl, field_of_lookup rfl, asUInt64_num, field_of_lookup rfl, hl,
    map_id]
  rfl

variable (runner : ScaleSetDeliveryRunner)

theorem ScaleSetDeliveryRunner.ofJson_toJson : ofJson runner.toJson = some runner := by
  unfold ofJson toJson
  rw [recordFields_bind (by simp) (by simp), field_of_lookup rfl, asUInt64_num, field_of_lookup rfl]
  rfl

variable (event : ScaleSetDeliveryEvent)

/-- **An event is read back.** -/
theorem ScaleSetDeliveryEvent.ofJson_toJson : ofJson event.toJson = some event := by
  have hjob := ScaleSetDeliveryJob.ofJson_toJson
  have hrnr := ScaleSetDeliveryRunner.ofJson_toJson
  cases event with
  | available job | assigned job =>
    unfold ofJson toJson
    rw [looseField_of_lookup (by simp) rfl, asText_str, Option.bind_eq_bind, Option.bind_some]
    show (recordFields ["kind", "job"] _ >>= fun fields => _) = _
    rw [recordFields_bind (by simp) (by simp), field_of_lookup rfl, hjob]
    rfl
  | started job runner =>
    unfold ofJson toJson
    rw [looseField_of_lookup (by simp) rfl, asText_str, Option.bind_eq_bind, Option.bind_some]
    show (recordFields ["kind", "job", "runner"] _ >>= fun fields => _) = _
    rw [recordFields_bind (by simp) (by simp), field_of_lookup rfl, hjob, field_of_lookup rfl, hrnr]
    rfl
  | completed job runner result =>
    unfold ofJson toJson
    rw [looseField_of_lookup (by cases runner <;> simp [Json.optional]) rfl, asText_str,
      Option.bind_eq_bind, Option.bind_some]
    show (recordFields ["kind", "job", "runner", "result"] _ >>= fun fields => _) = _
    rw [recordFields_bind (by cases runner <;> simp [Json.optional])
      (by cases runner <;> simp [Json.optional]), field_of_lookup rfl, hjob]
    cases runner with
    | none => rfl
    | some runner =>
      show (Option.map some (ScaleSetDeliveryRunner.ofJson runner.toJson) >>= fun runner => _) = _
      rw [hrnr]
      rfl

/-! ## A delivery is read back -/

variable (depth : Nat)

theorem readable_uint32 (n : UInt32) : Readable depth (.num n.toNat) :=
  .num _ (lt_trans n.toNat_lt (by decide))

theorem readable_uint64 (n : UInt64) : Readable depth (.num n.toNat) :=
  .num _ n.toNat_lt

theorem ScaleSetDeliveryJob.readable (depth : Nat) : Readable (depth + 2) job.toJson := by
  refine .fields ⟨readable_uint64 _ _, .str _ _, .str _ _, .str _ _, readable_uint64 _ _, ?_⟩
  exact readable_arr_map _ fun _ => .str _ _

theorem ScaleSetDeliveryRunner.readable : Readable (depth + 1) runner.toJson := by
  exact .fields ⟨readable_uint64 _ _, .str _ _⟩

theorem ScaleSetDeliveryEvent.readable : Readable (depth + 3) event.toJson := by
  cases event with
  | available job | assigned job =>
    exact .fields ⟨.str _ _, job.readable _⟩
  | started job runner =>
    exact .fields ⟨.str _ _, job.readable _, runner.readable _⟩
  | completed job runner result =>
    refine .obj fun f hf => ?_
    simp only [mem_append, mem_cons, not_mem_nil, or_false] at hf
    obtain (hf | hf) | rfl := hf
    · obtain rfl | rfl := hf
      · exact .str _ _
      · exact job.readable _
    · cases runner with
      | none => cases hf
      | some runner =>
        obtain rfl := mem_singleton.mp hf
        exact runner.readable _
    · exact .str _ _

theorem ScaleSetDeliveryStatistics.readable (s : ScaleSetDeliveryStatistics) (depth : Nat) :
    Readable (depth + 1) s.toJson := by
  refine .fields ⟨?_, ?_, ?_, ?_, ?_, ?_, ?_⟩
  all_goals exact readable_uint32 _ _

namespace ScaleSetDelivery

variable (d : ScaleSetDelivery)

theorem schemaVersion_eq : d.schemaVersion = scaleSetDeliverySchemaVersion := by
  have h := d.valid
  unfold DeliveryRecord.validate at h
  simp only [refuseIf_bind_eq_ok, not_or, not_not] at h
  exact h.1.1

theorem schemaVersion_lt : d.schemaVersion < 256 := by
  rw [d.schemaVersion_eq]
  decide

theorem readable : Readable maxDepth d.toJson := by
  refine .fields ⟨.num _ (d.schemaVersion_lt.trans (by decide)), readable_uint32 _ _,
    d.statistics.readable _, ?_, ?_⟩
  · exact readable_arr_map _ fun _ => readable_uint64 _ _
  · exact readable_arr_map _ fun event => event.readable _

/-- **The fields of a delivery are read back.** -/
theorem ofJson_toJson : DeliveryRecord.ofJson d.toJson = some d.toDeliveryRecord := by
  have hn : (Value.arr (d.availableRequestNumbers.map
      (fun number => .num number.toNat))).asList asUInt64
      = some (d.availableRequestNumbers.map id) :=
    asList_arr_map _ fun _ _ => asUInt64_num _
  have he : (Value.arr (d.events.map ScaleSetDeliveryEvent.toJson)).asList
      ScaleSetDeliveryEvent.ofJson = some (d.events.map id) :=
    asList_arr_map _ fun event _ => event.ofJson_toJson
  unfold DeliveryRecord.ofJson toJson
  rw [recordFields_bind (by simp) (by simp),
    field_of_lookup rfl, asNat_num d.schemaVersion_lt, field_of_lookup rfl, asUInt32_num,
    field_of_lookup rfl, ScaleSetDeliveryStatistics.ofJson_toJson, field_of_lookup rfl, hn,
    field_of_lookup rfl, he, map_id, map_id]
  rfl

/-- **A delivery that has a document is read back from it.** -/
theorem decode_encode (serde : Reader) {bytes : List UInt8}
    (h : encodeScaleSetDelivery d = .ok bytes) : decodeScaleSetDelivery serde bytes = .ok d := by
  obtain ⟨hlen, rfl⟩ := encodeScaleSetDelivery_eq_ok.mp h
  have hl : looseField "schema_version" (Value.asNat 256) d.toJson
      = some scaleSetDeliverySchemaVersion :=
    (looseField_num (by simp) rfl d.schemaVersion_lt).trans (congrArg some d.schemaVersion_eq)
  have ha : accept d.toDeliveryRecord = .ok d := accept_eq_ok.mpr rfl
  have hbd : ¬ (encode d.toJson).length > maxScaleSetDeliveryBytes := not_lt.mpr hlen
  unfold decodeScaleSetDelivery
  rw [refuseIf_bind hbd, serde.read_encode _ d.readable,
    Option.bind_some, Option.bind_some, hl, d.ofJson_toJson]
  simp only [okOr, ok_bind, ne_eq, not_true_eq_false, refuseIf, if_false, ha, h]
  rfl

end ScaleSetDelivery

end Glaeda
