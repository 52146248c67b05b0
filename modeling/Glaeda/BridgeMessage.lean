import Glaeda.DeliveryDecoder

/-!
# Messages of the bridge

The runner service is reached through a bridge process that speaks one line
of JSON per answer. The client bounds the line, takes it apart, and checks
every event before it hands a message over; a delivery is then made from the
message, and stored as a document of its own.

**Two limits, one number, two texts.** The line and the document have the
same limit in bytes, but the document says the same events in more bytes: the
job of an event is an object of its own, the requests that became available
are listed once more, and the envelope is longer. `growth` counts the
difference. A message that the client accepts has a document exactly when
its compact line and the growth stay within the limit together
(`stored_iff`); a line that is accepted close to the limit cannot be stored.
-/

namespace Glaeda

open Checked Json List ScaleSetBridgeEvent ScaleSetDeliveryEvent ScaleSetJobResult
open ScaleSetBridgeJobEvidence

variable {messageId : UInt32} {statistics : ScaleSetDeliveryStatistics}
variable {events : List ScaleSetBridgeEvent} {labels : Nat}

/-! ## The target -/

/-- A refusal, by its code. -/
structure ScaleSetBridgeError where
  code : String
deriving DecidableEq, Repr

/-- **The scale set the client serves**, one runner at a time. -/
structure ScaleSetBridgeTarget where
  id : UInt32
  name : String
  runnerGroupId : UInt32
  labels : List String
  owner : String
  maxCapacity : Nat
  capacity_one : maxCapacity = 1
deriving DecidableEq, Repr

/-! ## The line -/

/-- The version of the protocol. -/
def protocolVersion : Nat := 2

/-- The longest line. -/
def maxProtocolLineBytes : Nat := 128 * 1024

/-- The most events of a message. -/
def maxBridgeEvents : Nat := 50

/-- The most labels of a job. -/
def maxBridgeLabels : Nat := 32

/-- The statistics, as they are read. -/
structure StatisticsWire where
  availableJobs : Nat
  acquiredJobs : Nat
  assignedJobs : Nat
  runningJobs : Nat
  registeredRunners : Nat
  busyRunners : Nat
  idleRunners : Nat
deriving DecidableEq, Repr

/-- An event, as it is read. -/
structure EventWire where
  kind : String
  runnerRequestId : UInt64
  repository : String
  owner : String
  jobId : String
  workflowRunId : UInt64
  requestLabels : List String
  runnerId : Option Nat
  runnerName : Option String
  result : Option String
deriving DecidableEq, Repr

/-- A runner, as it is read. -/
structure RunnerWire where
  id : Nat
  name : String
  scaleSetId : Nat
deriving DecidableEq, Repr

/-- **An answer of the bridge**, before any of it is checked. -/
structure BridgeResponse where
  version : Nat
  responseType : String
  code : Option String
  scaleSetId : Option Nat
  messageId : Option Nat
  statistics : Option StatisticsWire
  events : List EventWire
  acquiredRequests : List Nat
  runner : Option RunnerWire
  encodedJitConfig : Option Value
deriving Repr

variable (value : Value)

/-- The statistics of a line. -/
def StatisticsWire.ofJson : Option StatisticsWire := do
  let fields ← recordFields ["available_jobs", "acquired_jobs", "assigned_jobs", "running_jobs",
    "registered_runners", "busy_runners", "idle_runners"] value
  let availableJobs ← field fields "available_jobs" (Value.asNat u64Size)
  let acquiredJobs ← field fields "acquired_jobs" (Value.asNat u64Size)
  let assignedJobs ← field fields "assigned_jobs" (Value.asNat u64Size)
  let runningJobs ← field fields "running_jobs" (Value.asNat u64Size)
  let registeredRunners ← field fields "registered_runners" (Value.asNat u64Size)
  let busyRunners ← field fields "busy_runners" (Value.asNat u64Size)
  let idleRunners ← field fields "idle_runners" (Value.asNat u64Size)
  return ⟨availableJobs, acquiredJobs, assignedJobs, runningJobs, registeredRunners, busyRunners,
    idleRunners⟩

/-- An event of a line. -/
def EventWire.ofJson : Option EventWire := do
  let fields ← recordFields ["kind", "runner_request_id", "repository", "owner", "job_id",
    "workflow_run_id", "request_labels", "runner_id", "runner_name", "result"] value
  let kind ← field fields "kind" Value.asText
  let runnerRequestId ← field fields "runner_request_id" asUInt64
  let repository ← field fields "repository" Value.asText
  let owner ← field fields "owner" Value.asText
  let jobId ← field fields "job_id" Value.asText
  let workflowRunId ← field fields "workflow_run_id" asUInt64
  let requestLabels ← field fields "request_labels" (Value.asList Value.asText)
  let runnerId ← optionalField fields "runner_id" (Value.asNat u64Size)
  let runnerName ← optionalField fields "runner_name" Value.asText
  let result ← optionalField fields "result" Value.asText
  return ⟨kind, runnerRequestId, repository, owner, jobId, workflowRunId, requestLabels, runnerId,
    runnerName, result⟩

/-- A runner of a line. -/
def RunnerWire.ofJson : Option RunnerWire := do
  let fields ← recordFields ["id", "name", "scale_set_id"] value
  let id ← field fields "id" (Value.asNat u64Size)
  let name ← field fields "name" Value.asText
  let scaleSetId ← field fields "scale_set_id" (Value.asNat u64Size)
  return ⟨id, name, scaleSetId⟩

/-- A list that may be missing. -/
def defaultField {α : Type} (fields : List (String × Value)) (name : String)
    (read : Value → Option α) : Option (List α) :=
  match fields.lookup name with
  | none => some []
  | some value => value.asList read

/-- A line of the bridge. -/
def BridgeResponse.ofJson (value : Value) : Option BridgeResponse := do
  let fields ← recordFields ["version", "type", "code", "scale_set_id", "message_id",
    "statistics", "events", "acquired_requests", "runner", "encoded_jit_config"] value
  let version ← field fields "version" (Value.asNat 256)
  let responseType ← field fields "type" Value.asText
  let code ← optionalField fields "code" Value.asText
  let scaleSetId ← optionalField fields "scale_set_id" (Value.asNat u64Size)
  let messageId ← optionalField fields "message_id" (Value.asNat u64Size)
  let statistics ← optionalField fields "statistics" StatisticsWire.ofJson
  let events ← defaultField fields "events" EventWire.ofJson
  let acquiredRequests ← defaultField fields "acquired_requests" (Value.asNat u64Size)
  let runner ← optionalField fields "runner" RunnerWire.ofJson
  let encodedJitConfig ← optionalField fields "encoded_jit_config" some
  return ⟨version, responseType, code, scaleSetId, messageId, statistics, events,
    acquiredRequests, runner, encodedJitConfig⟩

/-- The line is not valid. -/
def invalidBridgeResponse : ScaleSetBridgeError := ⟨"invalid_bridge_response"⟩

/-- **Take a line apart**, without its newline. -/
def decodeResponse (serde : Reader) (bytes : List UInt8) :
    Except ScaleSetBridgeError BridgeResponse := do
  refuseIf (bytes = [] ∨ bytes.length > maxProtocolLineBytes) invalidBridgeResponse
  let response ← okOr ((serde.read bytes).bind BridgeResponse.ofJson) invalidBridgeResponse
  refuseIf (response.version ≠ protocolVersion) invalidBridgeResponse
  return response

/-! ## The answer to a poll -/

namespace BridgeResponse

variable (response : BridgeResponse)

/-- The line has the fields of an idle answer. -/
def requireIdleShape : Except ScaleSetBridgeError Unit :=
  refuseIf (response.code ≠ none ∨ response.scaleSetId ≠ none ∨ response.messageId ≠ none
      ∨ response.statistics = none ∨ response.events ≠ [] ∨ response.acquiredRequests ≠ []
      ∨ response.runner.isSome ∨ response.encodedJitConfig.isSome)
    invalidBridgeResponse

/-- The line has the fields of a message. -/
def requireMessageShape : Except ScaleSetBridgeError Unit :=
  refuseIf (response.code ≠ none ∨ response.scaleSetId ≠ none ∨ response.messageId = none
      ∨ response.statistics = none ∨ response.acquiredRequests ≠ []
      ∨ response.runner.isSome ∨ response.encodedJitConfig.isSome)
    invalidBridgeResponse

/-- A count of 32 bits. -/
def requireCount (n : Nat) : Except ScaleSetBridgeError UInt32 :=
  if n < 2 ^ 32 then .ok (UInt32.ofNat n) else .error invalidBridgeResponse

/-- **The statistics fit and agree with each other.** -/
def requireStatistics : Except ScaleSetBridgeError ScaleSetDeliveryStatistics := do
  let wire ← okOr response.statistics invalidBridgeResponse
  let availableJobs ← requireCount wire.availableJobs
  let acquiredJobs ← requireCount wire.acquiredJobs
  let assignedJobs ← requireCount wire.assignedJobs
  let runningJobs ← requireCount wire.runningJobs
  let registeredRunners ← requireCount wire.registeredRunners
  let busyRunners ← requireCount wire.busyRunners
  let idleRunners ← requireCount wire.idleRunners
  let classified := busyRunners.toNat + idleRunners.toNat
  refuseIf (¬ classified < 2 ^ 32) invalidBridgeResponse
  refuseIf (runningJobs > assignedJobs ∨ busyRunners > registeredRunners
      ∨ idleRunners > registeredRunners ∨ classified > registeredRunners.toNat)
    invalidBridgeResponse
  return ⟨availableJobs, acquiredJobs, assignedJobs, runningJobs, registeredRunners, busyRunners,
    idleRunners⟩

/-- The errors a bridge may name. -/
def knownBridgeErrors : List String :=
  ["unsupported_operation", "already_started", "invalid_start", "start_failed", "not_started",
    "ack_required", "poll_failed", "invalid_capacity", "invalid_recovery", "invalid_message",
    "message_mismatch", "ack_failed", "invalid_acquisition_request", "acquire_failed",
    "invalid_acquisition", "invalid_runner", "scale_set_drift", "jit_failed",
    "runner_unavailable", "remove_failed", "response_too_large"]

/-- The error a line stands for. -/
def bridgeError : ScaleSetBridgeError :=
  if response.responseType ≠ "error" ∨ response.scaleSetId ≠ none ∨ response.messageId ≠ none
      ∨ response.statistics ≠ none ∨ response.events ≠ [] ∨ response.acquiredRequests ≠ []
      ∨ response.runner.isSome ∨ response.encodedJitConfig.isSome then
    invalidBridgeResponse
  else
    match response.code with
    | some code => if code ∈ knownBridgeErrors then ⟨code⟩ else invalidBridgeResponse
    | none => invalidBridgeResponse

end BridgeResponse

/-- The event is not valid. -/
def invalidBridgeEvent : ScaleSetBridgeError := ⟨"invalid_bridge_event"⟩

/-- The message is not valid. -/
def invalidBridgeMessage : ScaleSetBridgeError := ⟨"invalid_bridge_message"⟩

/-- The runner is not valid. -/
def invalidBridgeRunner : ScaleSetBridgeError := ⟨"invalid_bridge_runner"⟩

/-- The runner of a line, checked. -/
def normalizeRunner (wire : RunnerWire) (scaleSetId : UInt32) (expectedName : Option String) :
    Except ScaleSetBridgeError ScaleSetRunnerReference := do
  refuseIf (wire.scaleSetId ≠ scaleSetId.toNat ∨ ∃ expected ∈ expectedName, expected ≠ wire.name)
    invalidBridgeRunner
  let id ← (ScaleSetRunnerId.new wire.id).mapError (fun _ => invalidBridgeRunner)
  let name ← (ScaleSetRunnerName.parse wire.name).mapError (fun _ => invalidBridgeRunner)
  return ⟨id, name⟩

variable (wire : EventWire)

/-- The runner of an event, checked. -/
def normalizeEventRunner (scaleSetId : UInt32) :
    Except ScaleSetBridgeError (Option ScaleSetRunnerReference) :=
  match wire.runnerId, wire.runnerName with
  | some id, some name => some <$> normalizeRunner ⟨id, name, scaleSetId.toNat⟩ scaleSetId none
  | none, none => .ok none
  | _, _ => .error invalidBridgeEvent

/-- The job of a line, checked. -/
def normalizeJob : Except ScaleSetBridgeError ScaleSetBridgeJobEvidence := do
  refuseIf (wire.runnerRequestId = 0 ∨ wire.workflowRunId = 0
      ∨ ¬ boundedToken wire.repository 100 ∨ ¬ boundedToken wire.owner 100
      ∨ wire.requestLabels.length > maxBridgeLabels
      ∨ ∃ label ∈ wire.requestLabels, ¬ boundedToken label 100)
    invalidBridgeEvent
  let jobId ← (ScaleSetJobId.parse wire.jobId).mapError (fun _ => invalidBridgeEvent)
  return ⟨wire.runnerRequestId, wire.repository, wire.owner, jobId, wire.workflowRunId,
    wire.requestLabels⟩

/-- **An event that is in order.** Its kind says whether it has a runner and a
result; a completion without a runner is a cancellation. -/
def normalizeEvent (scaleSetId : UInt32) : Except ScaleSetBridgeError ScaleSetBridgeEvent := do
  let job ← normalizeJob wire
  let runner ← normalizeEventRunner wire scaleSetId
  match wire.kind, runner, wire.result with
  | "available", none, none => return .available job
  | "assigned", none, none => return .assigned job
  | "started", some runner, none => return .started job runner
  | "completed", runner, result => do
    let text ← okOr result invalidBridgeEvent
    let result ← (ScaleSetJobResult.parse text).mapError (fun _ => invalidBridgeEvent)
    refuseIf (runner = none ∧ result.value ≠ "canceled") invalidBridgeEvent
    return .completed job runner result
  | _, _, _ => .error invalidBridgeEvent

/-- A number of 32 bits that is not zero. -/
def positiveU32 (value : Option Nat) (error : ScaleSetBridgeError) :
    Except ScaleSetBridgeError UInt32 :=
  match value with
  | some n => if 0 < n ∧ n < 2 ^ 32 then .ok (UInt32.ofNat n) else .error error
  | none => .error error

/-- A job is available. -/
def ScaleSetBridgeEvent.isAvailable : ScaleSetBridgeEvent → Bool
  | .available _ => true
  | _ => false

/-- **The answer to a poll** with room for so many runners. -/
def poll (serde : Reader) (target : ScaleSetBridgeTarget) (availableCapacity : Nat)
    (bytes : List UInt8) : Except ScaleSetBridgeError ScaleSetBridgePoll := do
  refuseIf (availableCapacity > target.maxCapacity) ⟨"invalid_bridge_capacity"⟩
  let response ← decodeResponse serde bytes
  match response.responseType with
  | "idle" => do
    response.requireIdleShape
    let statistics ← response.requireStatistics
    return .idle statistics
  | "message" => do
    response.requireMessageShape
    let messageId ← positiveU32 response.messageId invalidBridgeMessage
    refuseIf (response.events.length > maxBridgeEvents) invalidBridgeMessage
    let statistics ← response.requireStatistics
    let events ← response.events.mapM (fun event => normalizeEvent event target.id)
    refuseIf ((events.filter ScaleSetBridgeEvent.isAvailable).length > availableCapacity)
      invalidBridgeMessage
    return .message messageId statistics events
  | "error" => .error response.bridgeError
  | _ => .error invalidBridgeResponse

/-! ## What the client checked -/

theorem parseRunnerRequestId_of_ne_zero {num : UInt64} (h : num ≠ 0) :
    ∃ id, parseRunnerRequestId num = .ok id := by
  have hp : 0 < num.toNat := Nat.pos_of_ne_zero fun hz => h (UInt64.toNat_inj.mp hz)
  unfold parseRunnerRequestId ScaleSetRunnerRequestId.new PositiveU64.new
  rw [dif_pos ⟨hp, num.toNat_lt⟩]
  exact ⟨_, rfl⟩

theorem parseJobId_fromBridge (job : ScaleSetBridgeJobEvidence) :
    (ScaleSetDeliveryJob.fromBridge job).parseJobId = .ok job.jobId := by
  show (ScaleSetJobId.parse job.jobId.value).mapError _ = _
  rw [ScaleSetJobId.parse_value]
  rfl

/-- **A job the client accepts is one a delivery accepts.** -/
theorem validate_of_normalizeJob {wire : EventWire} {job : ScaleSetBridgeJobEvidence}
    (h : normalizeJob wire = .ok job) : (ScaleSetDeliveryJob.fromBridge job).validate = .ok () := by
  unfold normalizeJob at h
  simp only [bind_eq_ok, refuseIf_eq_ok, pure_eq_ok_iff] at h
  obtain ⟨_, hc, jobId, -, rfl⟩ := h
  obtain ⟨id, hid⟩ := parseRunnerRequestId_of_ne_zero (not_or.mp hc).1
  refine bind_eq_ok.mpr ⟨id, hid, bind_eq_ok.mpr ⟨_, parseJobId_fromBridge _, ?_⟩⟩
  exact refuseIf_eq_ok.mpr fun hb => hc (.inr hb)

theorem validate_fromBridge_runner (runner : ScaleSetRunnerReference) :
    (ScaleSetDeliveryRunner.fromBridge runner).validate = .ok () := by
  have hid : (UInt64.ofNat runner.id.val).toNat = runner.id.val :=
    UInt64.toNat_ofNat_of_lt' runner.id.lt_size
  have hn : ScaleSetRunnerId.new runner.id.val = .ok runner.id := PositiveU64.new_val _
  unfold ScaleSetDeliveryRunner.validate ScaleSetDeliveryRunner.parseId
    ScaleSetDeliveryRunner.parseName
  simp only [ScaleSetDeliveryRunner.fromBridge, hid, hn, ScaleSetRunnerName.parse_value,
    Except.mapError, ok_bind]
  rfl

variable {event : ScaleSetBridgeEvent}

/-- **An event the client accepts is one a delivery accepts.** -/
theorem validate_of_normalizeEvent {wire : EventWire} {scaleSetId : UInt32}
    (h : normalizeEvent wire scaleSetId = .ok event) :
    (fromBridge event).validate = .ok () := by
  unfold normalizeEvent at h
  simp only [bind_eq_ok] at h
  obtain ⟨job, hjob, runner, -, h⟩ := h
  have hjob := validate_of_normalizeJob hjob
  split at h
  · obtain rfl := Except.ok.inj h
    exact hjob
  · obtain rfl := Except.ok.inj h
    exact hjob
  · obtain rfl := Except.ok.inj h
    show (ScaleSetDeliveryJob.validate _ >>= fun _ => ScaleSetDeliveryRunner.validate _) = _
    rw [hjob, ok_bind]
    exact validate_fromBridge_runner _
  · rename_i runner _ _ _ _
    simp only [bind_eq_ok, refuseIf_eq_ok, pure_eq_ok_iff] at h
    obtain ⟨text, -, result, -, _, hcan, rfl⟩ := h
    show (ScaleSetDeliveryJob.validate _ >>= fun _ => parseCompletionResult result.value
      >>= fun _ => _) = _
    rw [hjob, ok_bind]
    unfold parseCompletionResult
    rw [parse_value, Except.mapError, ok_bind]
    cases runner with
    | none => exact refuseIf_eq_ok.mpr fun hne => hcan ⟨rfl, hne⟩
    | some runner => exact validate_fromBridge_runner _
  · cases h

theorem validate_of_requireStatistics {response : BridgeResponse}
    (h : response.requireStatistics = .ok statistics) : statistics.validate = .ok () := by
  unfold BridgeResponse.requireStatistics at h
  simp only [bind_eq_ok, refuseIf_eq_ok, pure_eq_ok, Except.ok.injEq] at h
  obtain ⟨_, -, _, -, _, -, _, -, _, -, _, -, _, -, _, -, _, hc, _, ha, rfl⟩ := h
  unfold ScaleSetDeliveryStatistics.validate
  simp only [guard_bind_eq_ok, refuseIf_eq_ok]
  exact ⟨hc, ha⟩

/-- **What is known of a message the client hands over.** -/
structure Accepted (messageId : UInt32) (statistics : ScaleSetDeliveryStatistics)
    (events : List ScaleSetBridgeEvent) : Prop where
  messageId : messageId ≠ 0
  length : events.length ≤ maxBridgeEvents
  statistics : statistics.validate = .ok ()
  valid : ∀ event ∈ events, (ScaleSetDeliveryEvent.fromBridge event).validate = .ok ()
  available : (events.filter ScaleSetBridgeEvent.isAvailable).length ≤ 1

/-- **The checks of the client.** -/
theorem accepted_of_poll {serde : Reader} {target : ScaleSetBridgeTarget} {capacity : Nat}
    {bytes : List UInt8}
    (h : poll serde target capacity bytes = .ok (.message messageId statistics events)) :
    Accepted messageId statistics events := by
  unfold poll at h
  rw [refuseIf_bind_eq_ok, target.capacity_one, bind_eq_ok] at h
  obtain ⟨hcap, response, -, h⟩ := h
  split at h
  · simp only [bind_eq_ok, pure_eq_ok_iff, reduceCtorEq, and_false] at h
    obtain ⟨_, _, _, hf⟩ := h
    exact hf.elim
  · simp only [bind_eq_ok, refuseIf_eq_ok, pure_eq_ok_iff, ScaleSetBridgePoll.message.injEq] at h
    obtain ⟨_, -, _, hnum, _, hlen, _, hs, _, hevs, _, ha, rfl, rfl, rfl⟩ := h
    refine ⟨?_, ?_, validate_of_requireStatistics hs, ?_, ?_⟩
    · unfold positiveU32 at hnum
      split at hnum
      · split at hnum
        · rename_i n hn
          obtain rfl := Except.ok.inj hnum
          intro hz
          have ht := congrArg UInt32.toNat hz
          rw [UInt32.toNat_ofNat_of_lt' hn.2] at ht
          exact absurd ht (Nat.ne_of_gt hn.1)
        · cases hnum
      · cases hnum
    · rw [← (mapM_eq_ok.mp hevs).length_eq]
      exact not_lt.mp hlen
    · intro event hev
      obtain ⟨i, hi, rfl⟩ := mem_iff_getElem.mp hev
      have hfor := mapM_eq_ok.mp hevs
      exact validate_of_normalizeEvent (hfor.get (hfor.length_eq ▸ hi) hi)
    · omega
  · cases h
  · cases h

/-! ## The delivery of an accepted message -/

/-- The requests of the available jobs. -/
def availableNumbers (events : List ScaleSetBridgeEvent) : List UInt64 :=
  (events.map ScaleSetDeliveryEvent.fromBridge).filterMap ScaleSetDeliveryEvent.available?

variable (messageId statistics events) in
/-- What is kept of a message of the bridge. -/
def bridgeRecord : DeliveryRecord where
  schemaVersion := scaleSetDeliverySchemaVersion
  messageId := messageId
  statistics := statistics
  availableRequestNumbers := availableNumbers events
  events := events.map ScaleSetDeliveryEvent.fromBridge

theorem foldlM_collectAvailable_eq_ok {events : List ScaleSetDeliveryEvent} {seen : List UInt64}
    (hval : ∀ event ∈ events, event.validate = .ok ())
    (hnd : (seen ++ events.filterMap available?).Nodup) :
    events.foldlM DeliveryRecord.collectAvailable seen
      = .ok (seen ++ events.filterMap available?) := by
  induction events generalizing seen with
  | nil => rw [filterMap_nil, append_nil]; rfl
  | cons event events ih =>
    obtain ⟨hev, hevs⟩ := forall_mem_cons.mp hval
    rw [foldlM_cons]
    cases event with
    | available job =>
      have hjob : job.validate = .ok () := hev
      unfold ScaleSetDeliveryJob.validate at hjob
      simp only [bind_eq_ok] at hjob
      obtain ⟨id, hid, -⟩ := hjob
      have hc : (available job :: events).filterMap available?
          = job.runnerRequestId :: events.filterMap available? :=
        filterMap_cons_some rfl
      rw [hc] at hnd ⊢
      have hnew : job.runnerRequestId ∉ seen := fun hmem =>
        (nodup_append.mp hnd).2.2 _ hmem _ mem_cons_self rfl
      have hs : seen ++ job.runnerRequestId :: events.filterMap available?
          = seen ++ [job.runnerRequestId] ++ events.filterMap available? := by simp
      rw [hs] at hnd ⊢
      have hcol : DeliveryRecord.collectAvailable seen (.available job)
          = .ok (seen ++ [job.runnerRequestId]) := by
        unfold DeliveryRecord.collectAvailable
        simp only [hev, hid, ok_bind, refuseIf_of_not hnew]
        rfl
      rw [hcol, ok_bind]
      exact ih hevs hnd
    | assigned job | started job runner | completed job runner result =>
      unfold DeliveryRecord.collectAvailable
      rw [hev, ok_bind]
      exact ih hevs hnd

theorem length_availableNumbers (events : List ScaleSetBridgeEvent) :
    (availableNumbers events).length = (events.filter ScaleSetBridgeEvent.isAvailable).length := by
  unfold availableNumbers
  induction events with
  | nil => rfl
  | cons event events ih =>
    cases event with
    | available job =>
      show (_ :: filterMap _ (events.map _)).length = _
      rw [filter_cons_of_pos rfl, length_cons, length_cons, ih]
    | assigned job | started job runner | completed job runner result =>
      show (filterMap _ (events.map _)).length = _
      rw [filter_cons_of_neg Bool.false_ne_true, ih]

namespace Accepted

variable (h : Accepted messageId statistics events)
include h

theorem length_availableNumbers_le : (availableNumbers events).length ≤ 1 := by
  rw [length_availableNumbers]
  exact h.available

/-- **An accepted message makes a delivery.** -/
theorem validate_bridgeRecord : (bridgeRecord messageId statistics events).validate = .ok () := by
  have hlen := h.length_availableNumbers_le
  have hnd : (availableNumbers events).Nodup := by
    match availableNumbers events, hlen with
    | [], _ => exact nodup_nil
    | [num], _ => exact nodup_singleton num
  have hval : ∀ event ∈ events.map fromBridge, event.validate = .ok () := by
    intro event hev
    obtain ⟨bridge, hb, rfl⟩ := mem_map.mp hev
    exact h.valid bridge hb
  have hf : (events.map fromBridge).foldlM
      DeliveryRecord.collectAvailable [] = .ok (availableNumbers events) :=
    foldlM_collectAvailable_eq_ok hval (show ([] ++ availableNumbers events).Nodup from hnd)
  have hn : ∃ ids, (availableNumbers events).mapM parseRunnerRequestId = .ok ids := by
    refine exists_mapM_eq_ok fun num hnum => ?_
    obtain ⟨event, hev, hs⟩ := mem_filterMap.mp hnum
    have hjob := hval event hev
    cases event with
    | available job =>
      obtain rfl := Option.some.inj hs
      unfold validate ScaleSetDeliveryJob.validate at hjob
      simp only [bind_eq_ok] at hjob
      obtain ⟨id, hid, -⟩ := hjob
      exact ⟨id, hid⟩
    | assigned job | started job runner | completed job runner result => cases hs
  obtain ⟨ids, hids⟩ := hn
  have hevs : (events.map fromBridge).length ≤ maxScaleSetDeliveryEvents := by
    rw [length_map]
    exact h.length
  refine guard_bind_eq_ok.mpr ⟨refuseIf_of_not ?_, guard_bind_eq_ok.mpr ⟨h.statistics,
    bind_eq_ok.mpr ⟨_, hf, guard_bind_eq_ok.mpr ⟨refuseIf_not rfl,
      bind_eq_ok.mpr ⟨ids, hids, rfl⟩⟩⟩⟩⟩
  rintro (hver | hz | hm | hm)
  · exact hver rfl
  · exact h.messageId hz
  · exact absurd hm (not_lt.mpr hevs)
  · exact absurd (lt_of_lt_of_le hm hlen) (by decide)

theorem fromBridgePoll_eq_ok :
    ScaleSetDelivery.fromBridgePoll (.message messageId statistics events)
      = .ok (some ⟨bridgeRecord messageId statistics events, h.validate_bridgeRecord⟩) := by
  have ha : ScaleSetDelivery.accept (bridgeRecord messageId statistics events)
      = .ok ⟨bridgeRecord messageId statistics events, h.validate_bridgeRecord⟩ :=
    ScaleSetDelivery.accept_eq_ok.mpr rfl
  show (ScaleSetDelivery.accept (bridgeRecord messageId statistics events) >>= fun _ => _) = _
  rw [ha]
  rfl

end Accepted

/-! ## The line and the document -/

variable (job : ScaleSetBridgeJobEvidence)

/-- A job, as a line has it. -/
def ScaleSetBridgeJobEvidence.lineFields : List (String × Value) :=
  [("runner_request_id", .num job.runnerRequestId.toNat),
    ("repository", .str job.repository),
    ("owner", .str job.owner),
    ("job_id", .str job.jobId.value),
    ("workflow_run_id", .num job.workflowRunId.toNat),
    ("request_labels", .arr (job.requestLabels.map .str))]

variable (runner : ScaleSetRunnerReference)

/-- A runner, as a line has it. -/
def ScaleSetRunnerReference.lineFields : List (String × Value) :=
  [("runner_id", .num runner.id.val), ("runner_name", .str runner.name.value)]

variable (kind : String) (job : ScaleSetBridgeJobEvidence)
  (runner : Option ScaleSetRunnerReference) (result : Option ScaleSetJobResult)

/-- An event, as a line has it. -/
def eventLine : Value :=
  .obj (("kind", .str kind) :: job.lineFields
    ++ (runner.map ScaleSetRunnerReference.lineFields).getD []
    ++ Json.optional "result" (result.map (fun r => .str r.value)))

/-- An event, as a line has it. -/
def ScaleSetBridgeEvent.toLine : ScaleSetBridgeEvent → Value
  | .available job => eventLine "available" job none none
  | .assigned job => eventLine "assigned" job none none
  | .started job runner => eventLine "started" job (some runner) none
  | .completed job runner result => eventLine "completed" job runner (some result)

variable (messageId statistics events) in
/-- **The line of a message**, with nothing in it that could be left out. -/
def messageLine : Value :=
  .obj [("version", .num protocolVersion),
    ("type", .str "message"),
    ("message_id", .num messageId.toNat),
    ("statistics", statistics.toJson),
    ("events", .arr (events.map ScaleSetBridgeEvent.toLine))]

/-- The bytes by which the document of an event is longer than its line: the
job becomes an object of its own, and so does the runner, whose two fields get
shorter names. -/
def ScaleSetBridgeEvent.growth : ScaleSetBridgeEvent → Nat
  | .available _ => 8
  | .assigned _ => 8
  | .started _ _ => 5
  | .completed _ runner _ => if runner.isSome then 5 else 8

/-- **The bytes by which the document of a message is longer than its line**:
the envelope, the numbers of the available requests, and the events. -/
def growth (events : List ScaleSetBridgeEvent) : Nat :=
  17 + ((availableNumbers events).map (fun number => cost (.num number.toNat))).sum
    + (events.map ScaleSetBridgeEvent.growth).sum

theorem cost_fromBridge_runner (runner : ScaleSetRunnerReference) :
    cost (ScaleSetDeliveryRunner.fromBridge runner).toJson + 13 = fieldsCost runner.lineFields := by
  have hid : (UInt64.ofNat runner.id.val).toNat = runner.id.val :=
    UInt64.toNat_ofNat_of_lt' runner.id.lt_size
  show cost (.obj [("id", .num (UInt64.ofNat runner.id.val).toNat),
    ("name", .str runner.name.value)]) + 13 = _
  rw [hid, cost_obj_eq (cons_ne_nil _ _)]
  simp only [ScaleSetRunnerReference.lineFields, fieldsCost_cons, fieldsCost_nil]
  show 4 + 2 + _ + (6 + 2 + _ + 0) + 1 + 13 = 11 + 2 + _ + (13 + 2 + _ + 0)
  ring

theorem cost_eventLine :
    cost (eventLine kind job runner result)
      = fieldsCost [("kind", .str kind)] + fieldsCost job.lineFields
        + fieldsCost ((runner.map ScaleSetRunnerReference.lineFields).getD [])
        + fieldsCost (Json.optional "result" (result.map (fun r => .str r.value))) + 1 := by
  rw [eventLine, cons_append, cons_append, cost_obj_eq (cons_ne_nil _ _)]
  simp only [fieldsCost_cons, fieldsCost_append, fieldsCost_nil]
  ring

/-- **The document of an event and its line.** -/
theorem cost_fromBridge_event (event : ScaleSetBridgeEvent) :
    cost (fromBridge event).toJson = cost event.toLine + event.growth := by
  have hj : ∀ job : ScaleSetBridgeJobEvidence,
      cost (ScaleSetDeliveryJob.fromBridge job).toJson = fieldsCost job.lineFields + 1 :=
    fun job => cost_obj_eq (cons_ne_nil _ _)
  have hn : (utf8 (quote "job")).length = 5 := by decide
  have hr : (utf8 (quote "runner")).length = 8 := by decide
  have ho : ∀ field fields, cost (.obj (field :: fields)) = fieldsCost (field :: fields) + 1 :=
    fun field fields => cost_obj_eq (cons_ne_nil _ _)
  -- What both sides write takes the same bytes; the names they do not share are counted.
  obtain job | job | ⟨job, runner⟩ | ⟨job, _ | runner, result⟩ := event
  all_goals
    simp only [fromBridge, toJson, toLine, ScaleSetBridgeEvent.growth, cost_eventLine,
      Option.map_none, Option.map_some, Option.getD_none, Option.getD_some, Option.isSome_none,
      Option.isSome_some, Bool.false_eq_true, if_false, if_true, Json.optional, append_nil,
      cons_append, nil_append, ho, fieldsCost_cons, fieldsCost_nil, hj, hn, hr,
      ← cost_fromBridge_runner]
    ring

theorem cost_arr_numbers {numbers : List UInt64} (h : numbers.length ≤ 1) :
    cost (.arr (numbers.map (fun num => .num num.toNat)))
      = 2 + (numbers.map (fun num => cost (.num num.toNat))).sum := by
  match numbers, h with
  | [], _ => rfl
  | [num], _ =>
    rw [map_cons, map_nil, cost_arr_eq (cons_ne_nil _ _)]
    show cost (.num num.toNat) + 1 + 0 + 1 = 2 + (cost (.num num.toNat) + 0)
    ring

/-- **The document of an accepted message is its line and the growth.** -/
theorem Accepted.cost_toJson (h : Accepted messageId statistics events) :
    cost (ScaleSetDelivery.toJson
        ⟨bridgeRecord messageId statistics events, h.validate_bridgeRecord⟩)
      = cost (messageLine messageId statistics events) + growth events := by
  have he : cost (.arr ((events.map fromBridge).map toJson)) = cost (.arr (events.map toLine))
        + (events.map ScaleSetBridgeEvent.growth).sum := by
    rw [map_map]
    exact cost_arr_map_eq_add fun event _ => cost_fromBridge_event event
  show cost (.obj [("schema_version", .num scaleSetDeliverySchemaVersion),
    ("message_id", .num messageId.toNat), ("statistics", statistics.toJson),
    ("available_request_ids", .arr ((availableNumbers events).map (fun num => .num num.toNat))),
    ("events", .arr ((events.map fromBridge).map toJson))]) = _
  rw [messageLine, growth, cost_obj_eq (cons_ne_nil _ _), cost_obj_eq (cons_ne_nil _ _)]
  simp only [fieldsCost_cons, fieldsCost_nil, he, cost_arr_numbers h.length_availableNumbers_le]
  have hn : (utf8 (quote "schema_version")).length = 16
      ∧ cost (.num scaleSetDeliverySchemaVersion) = 1
      ∧ (utf8 (quote "available_request_ids")).length = 23 ∧ (utf8 (quote "version")).length = 9
      ∧ cost (.num protocolVersion) = 1 ∧ (utf8 (quote "type")).length = 6
      ∧ cost (.str "message") = 9 := by decide
  obtain ⟨hs, ho, hi, hv, htwo, ht, hm⟩ := hn
  rw [hs, ho, hi, hv, htwo, ht, hm]
  ring

/-- **Which accepted messages can be stored.** The delivery of an accepted
message is always made; its document is accepted exactly when the line of the
message and the growth stay within the limit together. -/
theorem stored_iff (serde : Reader) (target : ScaleSetBridgeTarget) (capacity : Nat)
    (bytes : List UInt8) (messageId : UInt32) (statistics : ScaleSetDeliveryStatistics)
    (events : List ScaleSetBridgeEvent)
    (h : poll serde target capacity bytes = .ok (.message messageId statistics events)) :
    (∃ d document,
        ScaleSetDelivery.fromBridgePoll (.message messageId statistics events) = .ok (some d)
        ∧ encodeScaleSetDelivery d = .ok document)
      ↔ cost (messageLine messageId statistics events) + growth events
          ≤ maxScaleSetDeliveryBytes := by
  have ha := accepted_of_poll h
  rw [← ha.cost_toJson]
  constructor
  · rintro ⟨d, document, hd, hdoc⟩
    obtain rfl := Option.some.inj (Except.ok.inj
      (ha.fromBridgePoll_eq_ok.symm.trans hd))
    exact (encodeScaleSetDelivery_eq_ok.mp hdoc).1
  · intro hl
    exact ⟨_, _, ha.fromBridgePoll_eq_ok, encodeScaleSetDelivery_eq_ok.mpr ⟨hl, rfl⟩⟩

/-! ## A line that is accepted -/

/-- An event, as it is read. -/
def eventWire : EventWire :=
  ⟨kind, job.runnerRequestId, job.repository, job.owner, job.jobId.value, job.workflowRunId,
    job.requestLabels, runner.map (fun r => r.id.val), runner.map (fun r => r.name.value),
    result.map ScaleSetJobResult.value⟩

/-- An event, as it is read. -/
def ScaleSetBridgeEvent.toWire : ScaleSetBridgeEvent → EventWire
  | .available job => eventWire "available" job none none
  | .assigned job => eventWire "assigned" job none none
  | .started job runner => eventWire "started" job (some runner) none
  | .completed job runner result => eventWire "completed" job runner (some result)

/-- **An event is taken from its line.** -/
theorem EventWire.ofJson_eventLine :
    EventWire.ofJson (eventLine kind job runner result)
      = some (eventWire kind job runner result) := by
  have hl : (Value.arr (job.requestLabels.map .str)).asList Value.asText
      = some (job.requestLabels.map id) :=
    asList_arr_map _ fun _ _ => rfl
  have hid : ∀ r : ScaleSetRunnerReference, (Value.num r.id.val).asNat u64Size = some r.id.val :=
    fun r => asNat_num r.id.lt_size
  -- which fields there are depends on the runner and the result
  obtain ⟨runner, rfl⟩ | rfl := runner.eq_none_or_eq_some.symm
  all_goals cases result
  all_goals
    unfold EventWire.ofJson eventLine
    rw [recordFields_bind (by simp [Json.optional, lineFields, ScaleSetRunnerReference.lineFields])
      (by simp [Json.optional, lineFields, ScaleSetRunnerReference.lineFields]),
      field_of_lookup rfl, field_of_lookup rfl, asUInt64_num, field_of_lookup rfl,
      field_of_lookup rfl, field_of_lookup rfl, field_of_lookup rfl, asUInt64_num,
      field_of_lookup rfl, hl, map_id]
    first
      | rfl
      | (show (Option.map some ((Value.num runner.id.val).asNat u64Size) >>= fun num => _) = _
         rw [hid]
         rfl)

theorem EventWire.ofJson_toLine (event : ScaleSetBridgeEvent) :
    EventWire.ofJson event.toLine = some event.toWire := by
  cases event <;> exact EventWire.ofJson_eventLine _ _ _ _

variable (s : ScaleSetDeliveryStatistics)

/-- The statistics, as they are read. -/
def ScaleSetDeliveryStatistics.toWire : StatisticsWire :=
  ⟨s.availableJobs.toNat, s.acquiredJobs.toNat, s.assignedJobs.toNat, s.runningJobs.toNat,
    s.registeredRunners.toNat, s.busyRunners.toNat, s.idleRunners.toNat⟩

theorem StatisticsWire.ofJson_toJson : StatisticsWire.ofJson s.toJson = some s.toWire := by
  have hc : ∀ n : UInt32, (Value.num n.toNat).asNat u64Size = some n.toNat := fun n =>
    asNat_num (lt_trans n.toNat_lt (by decide))
  unfold StatisticsWire.ofJson ScaleSetDeliveryStatistics.toJson
  rw [recordFields_bind (by simp) (by simp)]
  iterate 7 rw [field_of_lookup rfl, hc]
  rfl

variable (messageId statistics events) in
/-- A message, as it is read. -/
def messageResponse : BridgeResponse where
  version := protocolVersion
  responseType := "message"
  code := none
  scaleSetId := none
  messageId := some messageId.toNat
  statistics := some statistics.toWire
  events := events.map ScaleSetBridgeEvent.toWire
  acquiredRequests := []
  runner := none
  encodedJitConfig := none

/-- **A message is taken from its line.** -/
theorem BridgeResponse.ofJson_messageLine :
    BridgeResponse.ofJson (messageLine messageId statistics events)
      = some (messageResponse messageId statistics events) := by
  have he : (Value.arr (events.map toLine)).asList EventWire.ofJson
      = some (events.map toWire) :=
    asList_arr_map _ fun event _ => EventWire.ofJson_toLine event
  have hn : (Value.num messageId.toNat).asNat u64Size = some messageId.toNat :=
    asNat_num (lt_trans messageId.toNat_lt (by decide))
  unfold BridgeResponse.ofJson messageLine
  show (Option.map some ((Value.num messageId.toNat).asNat u64Size) >>= fun num =>
    Option.map some (StatisticsWire.ofJson statistics.toJson) >>= fun statistics =>
      (Value.arr (events.map toLine)).asList EventWire.ofJson
        >>= fun events => _) = _
  rw [hn, StatisticsWire.ofJson_toJson, he]
  rfl

variable (messageId statistics events) in
theorem readable_messageLine : Readable maxDepth (messageLine messageId statistics events) := by
  have hj : ∀ (job : ScaleSetBridgeJobEvidence) (depth : Nat), ∀ f ∈ job.lineFields,
      Readable (depth + 1) f.2 := by
    intro job depth
    have ho := (ScaleSetDeliveryJob.fromBridge job).readable depth
    cases ho with
    | obj h => exact h
  have hev : ∀ event : ScaleSetBridgeEvent, ∀ depth, Readable (depth + 2) event.toLine := by
    intro event depth
    have hl : ∀ kind job runner result,
        Readable (depth + 2) (eventLine kind job runner result) := by
      intro kind job runner result
      refine .obj (forall_mem_append.mpr ⟨forall_mem_append.mpr
        ⟨forall_mem_cons.mpr ⟨.str _ _, hj job depth⟩, ?_⟩, ?_⟩)
      · cases runner with
        | none => exact forall_mem_nil _
        | some runner =>
          exact forall_mem_cons.mpr ⟨.num _ runner.id.lt_size, forall_mem_singleton.mpr (.str _ _)⟩
      · cases result with
        | none => exact forall_mem_nil _
        | some result => exact forall_mem_singleton.mpr (.str _ _)
    cases event <;> exact hl _ _ _ _
  refine .fields ⟨.num _ (by decide), .str _ _, readable_uint32 _ _, statistics.readable _, ?_⟩
  exact readable_arr_map _ fun event => hev event _

theorem normalizeJob_eventWire (h : (ScaleSetDeliveryJob.fromBridge job).validate = .ok ()) :
    normalizeJob (eventWire kind job runner result) = .ok job := by
  unfold ScaleSetDeliveryJob.validate at h
  simp only [bind_eq_ok, refuseIf_eq_ok] at h
  obtain ⟨id, hid, -, -, hc⟩ := h
  have hn : job.runnerRequestId ≠ 0 := by
    intro hz
    have hzer : parseRunnerRequestId 0 = .ok id := hz ▸ hid
    cases hzer
  refine guard_bind_eq_ok.mpr ⟨refuseIf_of_not (not_or.mpr ⟨hn, hc⟩), ?_⟩
  simp only [eventWire, ScaleSetJobId.parse_value, Except.mapError, ok_bind]
  rfl

theorem normalizeEventRunner_eventWire (scaleSetId : UInt32) :
    normalizeEventRunner (eventWire kind job runner result) scaleSetId = .ok runner := by
  cases runner with
  | none => rfl
  | some runner =>
    have hid : ScaleSetRunnerId.new runner.id.val = .ok runner.id := PositiveU64.new_val _
    have hm : ¬ (scaleSetId.toNat ≠ scaleSetId.toNat
        ∨ ∃ expected ∈ (none : Option String), expected ≠ runner.name.value) := by
      rintro (hne | ⟨_, hn, -⟩)
      · exact hne rfl
      · cases hn
    show (some <$> normalizeRunner ⟨runner.id.val, runner.name.value, scaleSetId.toNat⟩ scaleSetId
      none) = _
    unfold normalizeRunner
    rw [refuseIf_bind hm, hid, ScaleSetRunnerName.parse_value]
    rfl

/-- **An event a delivery accepts is one the client accepts from its
line.** -/
theorem normalizeEvent_toWire (scaleSetId : UInt32) (h : (fromBridge event).validate = .ok ()) :
    normalizeEvent event.toWire scaleSetId = .ok event := by
  unfold normalizeEvent
  cases event with
  | available job | assigned job =>
    have hjob : (ScaleSetDeliveryJob.fromBridge job).validate = .ok () := h
    rw [toWire, normalizeJob_eventWire _ _ _ _ hjob, ok_bind, normalizeEventRunner_eventWire,
      ok_bind]
    rfl
  | started job runner =>
    obtain ⟨hjob, -⟩ := guard_bind_eq_ok.mp h
    rw [toWire, normalizeJob_eventWire _ _ _ _ hjob, ok_bind, normalizeEventRunner_eventWire,
      ok_bind]
    rfl
  | completed job runner result =>
    obtain ⟨hjob, hres⟩ := guard_bind_eq_ok.mp h
    have hcan : ¬ (runner = none ∧ result.value ≠ "canceled") := by
      rintro ⟨rfl, hne⟩
      unfold parseCompletionResult at hres
      rw [parse_value, Except.mapError, ok_bind] at hres
      exact refuseIf_eq_ok.mp hres hne
    rw [toWire, normalizeJob_eventWire _ _ _ _ hjob, ok_bind, normalizeEventRunner_eventWire,
      ok_bind]
    show ((parse result.value).mapError _ >>= fun result =>
      refuseIf (runner = none ∧ result.value ≠ "canceled") _ >>= fun _ => _) = _
    rw [parse_value, Except.mapError, ok_bind, refuseIf_of_not hcan]
    rfl

theorem requireStatistics_messageResponse (h : statistics.validate = .ok ()) :
    (messageResponse messageId statistics events).requireStatistics = .ok statistics := by
  have hc : ∀ n : UInt32, BridgeResponse.requireCount n.toNat = .ok n := by
    intro n
    unfold BridgeResponse.requireCount
    rw [if_pos n.toNat_lt, UInt32.ofNat_toNat]
  unfold ScaleSetDeliveryStatistics.validate at h
  simp only [guard_bind_eq_ok, refuseIf_eq_ok] at h
  unfold BridgeResponse.requireStatistics
  simp only [messageResponse, okOr, ok_bind, ScaleSetDeliveryStatistics.toWire, hc]
  rw [refuseIf_of_not h.1, ok_bind, refuseIf_of_not h.2]
  rfl

/-- **Every message in order is accepted from its line**, if the line is within
the limit and there is room for what it makes available. -/
theorem Accepted.poll_messageLine (h : Accepted messageId statistics events)
    (serde : Reader) (target : ScaleSetBridgeTarget)
    (hlen : cost (messageLine messageId statistics events) ≤ maxProtocolLineBytes) :
    poll serde target 1 (encode (messageLine messageId statistics events))
      = .ok (.message messageId statistics events) := by
  have hcap : ¬ (1 > target.maxCapacity) := by
    rw [target.capacity_one]
    exact lt_irrefl 1
  have hb : ¬ (encode (messageLine messageId statistics events) = []
      ∨ (encode (messageLine messageId statistics events)).length > maxProtocolLineBytes) := by
    rintro (he | hl)
    · have hc : cost (messageLine messageId statistics events) = 0 := by rw [cost, he]; rfl
      exact absurd hc (Nat.succ_ne_zero _)
    · exact absurd hl (not_lt.mpr hlen)
  have hdec : decodeResponse serde (encode (messageLine messageId statistics events))
      = .ok (messageResponse messageId statistics events) := by
    unfold decodeResponse
    rw [refuseIf_bind hb, serde.read_encode _ (readable_messageLine _ _ _),
      Option.bind_some, BridgeResponse.ofJson_messageLine]
    rfl
  have hnum : positiveU32 (some messageId.toNat) invalidBridgeMessage = .ok messageId := by
    have hpos : 0 < messageId.toNat :=
      Nat.pos_of_ne_zero fun hz => h.messageId (UInt32.toNat_inj.mp hz)
    show (if 0 < messageId.toNat ∧ messageId.toNat < 2 ^ 32 then Except.ok _ else _) = _
    rw [if_pos ⟨hpos, messageId.toNat_lt⟩, UInt32.ofNat_toNat]
  have hevs : (events.map toWire).mapM
      (fun event => normalizeEvent event target.id) = .ok events :=
    mapM_map_eq_self fun event hev => normalizeEvent_toWire target.id (h.valid event hev)
  have hm : ¬ ((events.map toWire).length > maxBridgeEvents) := by
    rw [length_map]
    exact not_lt.mpr h.length
  unfold poll
  rw [refuseIf_bind hcap, hdec, ok_bind]
  show (positiveU32 _ _ >>= fun _ => _) = _
  exact bind_eq_ok.mpr ⟨_, hnum, guard_bind_eq_ok.mpr ⟨refuseIf_of_not hm,
    bind_eq_ok.mpr ⟨_, requireStatistics_messageResponse h.statistics, bind_eq_ok.mpr ⟨_, hevs,
        guard_bind_eq_ok.mpr ⟨refuseIf_of_not (not_lt.mpr h.available), rfl⟩⟩⟩⟩⟩

/-! ## Samples -/

/-- A target. -/
def sampleTarget : ScaleSetBridgeTarget :=
  ⟨1, "scale-set", 1, ["linux"], "owner", 1, rfl⟩

/-- One assigned job. -/
def oneAssigned : ScaleSetDeliveryStatistics := ⟨0, 0, 1, 0, 0, 0, 0⟩

theorem isJobId_sample : isJobId "job-0001" = true := by decide

/-- A job with some labels. -/
def labelledJob (labels : Nat) : ScaleSetBridgeJobEvidence where
  runnerRequestId := 1
  repository := "repository"
  owner := "owner"
  jobId := ⟨"job-0001", isJobId_sample⟩
  workflowRunId := 7
  requestLabels := List.replicate labels (String.ofList (List.replicate 100 'a'))

/-- Some assigned jobs with some labels. -/
def assignments (labels events : Nat) : List ScaleSetBridgeEvent :=
  List.replicate events (.assigned (labelledJob labels))

theorem validate_labelledJob (hl : labels ≤ maxBridgeLabels) :
    (ScaleSetDeliveryJob.fromBridge (labelledJob labels)).validate = .ok () := by
  have hlbl : boundedToken (String.ofList (replicate 100 'a')) maxTokenBytes = true := by
    decide
  refine bind_eq_ok.mpr ⟨_, rfl, bind_eq_ok.mpr ⟨_, parseJobId_fromBridge _, refuseIf_eq_ok.mpr ?_⟩⟩
  rintro (hrun | hr | ho | hm | ⟨label, hmem, hb⟩)
  · exact absurd hrun (show (7 : UInt64) ≠ 0 by decide)
  · exact hr (show boundedToken "repository" maxTokenBytes = true by decide)
  · exact ho (show boundedToken "owner" maxTokenBytes = true by decide)
  · exact absurd hm (not_lt.mpr (length_replicate.trans_le hl))
  · obtain rfl := eq_of_mem_replicate hmem
    exact hb hlbl

theorem accepted_assignments {events : Nat} (hl : labels ≤ maxBridgeLabels)
    (he : events ≤ maxBridgeEvents) : Accepted 2 oneAssigned (assignments labels events) := by
  refine ⟨by decide, length_replicate.trans_le he, by decide, ?_, ?_⟩
  · intro event hev
    obtain rfl := eq_of_mem_replicate hev
    exact validate_labelledJob hl
  · unfold assignments
    rw [filter_replicate_of_neg Bool.false_ne_true]
    exact Nat.zero_le 1

theorem cost_eventLine_labelledJob (kind : String) {labels : Nat} (hl : labels ≠ 0) :
    cost (eventLine kind (labelledJob labels) none none)
      = 132 + cost (.str kind) + labels * 103 := by
  have hlbl : cost (.str (String.ofList (replicate 100 'a'))) = 102 := by
    rw [cost_str_ofList, length_replicate]
    intro c hc
    obtain rfl := eq_of_mem_replicate hc
    decide
  rw [cost_eventLine]
  simp only [lineFields, labelledJob, map_replicate,
    Option.map_none, Option.getD_none, Json.optional, fieldsCost_cons, fieldsCost_nil,
    cost_arr_replicate hl, hlbl]
  show 6 + 2 + cost (.str kind) + 0 + (19 + 2 + 1 + (12 + 2 + 12 + (7 + 2 + 7 + (8 + 2 + 10
    + (17 + 2 + 1 + (16 + 2 + (labels * 103 + 1) + 0)))))) + 0 + 0 + 1 = _
  ring

theorem cost_messageLine_replicate (messageId : UInt32) (event : ScaleSetBridgeEvent)
    {events : Nat} (he : events ≠ 0) :
    cost (messageLine messageId oneAssigned (List.replicate events event))
      = 199 + cost (.num messageId.toNat) + events * (cost event.toLine + 1) := by
  have hs : cost oneAssigned.toJson = 130 := by decide +kernel
  unfold messageLine
  rw [map_replicate, cost_obj_eq (cons_ne_nil _ _)]
  simp only [fieldsCost_cons, fieldsCost_nil, cost_arr_replicate he, hs]
  show 9 + 2 + 1 + (6 + 2 + 9 + (12 + 2 + cost (.num messageId.toNat) + (12 + 2 + 130
    + (8 + 2 + (events * (cost event.toLine + 1) + 1) + 0)))) + 1 = _
  ring

theorem cost_assignments {events : Nat} (hl : labels ≠ 0) (he : events ≠ 0) :
    cost (messageLine 2 oneAssigned (assignments labels events))
      = 200 + events * (143 + labels * 103) := by
  rw [assignments, cost_messageLine_replicate _ _ he, toLine, cost_eventLine_labelledJob _ hl]
  show 199 + 1 + events * (132 + 10 + labels * 103 + 1) = _
  ring

theorem growth_assignments (labels events : Nat) :
    growth (assignments labels events) = 17 + events * 8 := by
  have hn : availableNumbers (assignments labels events) = [] := by
    rw [← length_eq_zero_iff, length_availableNumbers, assignments,
      filter_replicate_of_neg Bool.false_ne_true]
    rfl
  rw [growth, hn, assignments, map_replicate, sum_replicate, smul_eq_mul]
  rfl

theorem accepted_crowded : Accepted 2 oneAssigned (assignments 24 50) :=
  accepted_assignments (by decide) (by decide)

/-- Fifty jobs with 24 labels each. -/
def crowdedDelivery : ScaleSetDelivery where
  toDeliveryRecord := bridgeRecord 2 oneAssigned (assignments 24 50)
  valid := accepted_crowded.validate_bridgeRecord

theorem crowdedDelivery_not_encode (document : List UInt8) :
    encodeScaleSetDelivery crowdedDelivery ≠ .ok document := by
  intro h
  obtain ⟨hl, -⟩ := encodeScaleSetDelivery_eq_ok.mp h
  rw [crowdedDelivery, accepted_crowded.cost_toJson, cost_assignments (by decide) (by decide),
    growth_assignments] at hl
  exact absurd hl (by decide)

theorem stored_assignments :
    poll compactReader sampleTarget 1 (encode (messageLine 2 oneAssigned (assignments 1 1)))
        = .ok (.message 2 oneAssigned (assignments 1 1))
      ∧ ∃ d document,
        ScaleSetDelivery.fromBridgePoll (.message 2 oneAssigned (assignments 1 1)) = .ok (some d)
          ∧ encodeScaleSetDelivery d = .ok document := by
  have ha : Accepted 2 oneAssigned (assignments 1 1) :=
    accepted_assignments (by decide) (by decide)
  have hc : cost (messageLine 2 oneAssigned (assignments 1 1)) = 446 :=
    cost_assignments (by decide) (by decide)
  have hp : poll compactReader sampleTarget 1
      (encode (messageLine 2 oneAssigned (assignments 1 1)))
      = .ok (.message 2 oneAssigned (assignments 1 1)) :=
    ha.poll_messageLine _ _ (by rw [hc]; decide)
  refine ⟨hp, (stored_iff _ _ _ _ _ _ _ hp).mpr ?_⟩
  rw [hc, growth_assignments]
  decide

/-- **A line of 130950 bytes is accepted**, and its delivery is refused a
document. -/
theorem not_stored_assignments :
    (encode (messageLine 2 oneAssigned (assignments 24 50))).length = 130950
      ∧ poll compactReader sampleTarget 1 (encode (messageLine 2 oneAssigned (assignments 24 50)))
        = .ok (.message 2 oneAssigned (assignments 24 50))
      ∧ ¬ ∃ d document,
        ScaleSetDelivery.fromBridgePoll (.message 2 oneAssigned (assignments 24 50)) = .ok (some d)
          ∧ encodeScaleSetDelivery d = .ok document := by
  have hc : cost (messageLine 2 oneAssigned (assignments 24 50)) = 130950 :=
    cost_assignments (by decide) (by decide)
  refine ⟨hc, accepted_crowded.poll_messageLine _ _ (by rw [hc]; decide), ?_⟩
  rintro ⟨d, document, hd, hdoc⟩
  obtain rfl := Option.some.inj (Except.ok.inj
    (accepted_crowded.fromBridgePoll_eq_ok.symm.trans hd))
  exact crowdedDelivery_not_encode document hdoc

end Glaeda
