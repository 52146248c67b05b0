import Glaeda.Identity
import Glaeda.Json

/-!
# Deliveries

One message of the runner service is retained as a delivery: the message
number, the statistics that came with it, the runner requests it makes
available and every lifecycle event it reports, in order. The document keeps
the numbers and texts as they arrived; a consumer reads them back as typed
identities through `retainedEvents`.

A `ScaleSetDelivery` is **a record together with the proof that it
validates**, because a delivery is only ever made from a message of the
bridge or from a document, and both validate it. In particular the list of
available requests is exactly the list its events make available, without
repetition, and every event reads back.
-/

namespace Glaeda

open Checked Json List Except

/-! ## Errors -/

/-- The kinds of refusal. -/
inductive ScaleSetDeliveryErrorKind where
  | invalidDocument
  | versionIncompatible
  | documentTooLarge
  | nonCanonical
  | corruptEvidence
deriving DecidableEq, Repr

/-- A refusal, with its text. -/
structure ScaleSetDeliveryError where
  kind : ScaleSetDeliveryErrorKind
  message : String
deriving DecidableEq, Repr

/-- The evidence makes no sense. -/
def corruptEvidence (message : String) : ScaleSetDeliveryError := ⟨.corruptEvidence, message⟩

/-! ## The parts of a message -/

/-- The version of a message. -/
def scaleSetDeliverySchemaVersion : Nat := 1

/-- The largest message. -/
def maxScaleSetDeliveryBytes : Nat := 128 * 1024

/-- The most events of a message. -/
def maxScaleSetDeliveryEvents : Nat := 50

/-- The most labels of a job. -/
def maxScaleSetDeliveryLabels : Nat := 32

/-- The longest token. -/
def maxTokenBytes : Nat := 100

/-- A token: printable, and not too long. -/
def boundedToken (value : String) (maximum : Nat) : Bool :=
  let cs := value.toList
  !cs.isEmpty && cs.length ≤ maximum && cs.all isAsciiGraphic

/-- How many jobs and runners there are. -/
structure ScaleSetDeliveryStatistics where
  availableJobs : UInt32
  acquiredJobs : UInt32
  assignedJobs : UInt32
  runningJobs : UInt32
  registeredRunners : UInt32
  busyRunners : UInt32
  idleRunners : UInt32
deriving DecidableEq, Repr

/-- The counts fit together. -/
def ScaleSetDeliveryStatistics.validate (s : ScaleSetDeliveryStatistics) :
    Except ScaleSetDeliveryError Unit := do
  let classified := s.busyRunners.toNat + s.idleRunners.toNat
  refuseIf (¬ classified < 2 ^ 32) (corruptEvidence "Scale Set runner statistics overflow")
  refuseIf (s.runningJobs > s.assignedJobs ∨ s.busyRunners > s.registeredRunners
      ∨ s.idleRunners > s.registeredRunners ∨ classified > s.registeredRunners.toNat)
    (corruptEvidence "Scale Set delivery statistics are inconsistent")

/-- **A job as the message describes it.** -/
structure ScaleSetDeliveryJob where
  runnerRequestId : UInt64
  repository : String
  owner : String
  jobId : String
  workflowRunId : UInt64
  requestLabels : List String
deriving DecidableEq, Repr

/-- **A job read back**: its request and its identity are typed. -/
structure ScaleSetDeliveryJobEvidence where
  runnerRequestId : ScaleSetRunnerRequestId
  repository : String
  owner : String
  jobId : ScaleSetJobId
  workflowRunId : UInt64
  requestLabels : List String
deriving DecidableEq, Repr

/-- A request that is not zero. -/
def parseRunnerRequestId (value : UInt64) : Except ScaleSetDeliveryError ScaleSetRunnerRequestId :=
  (ScaleSetRunnerRequestId.new value.toNat).mapError
    (fun _ => corruptEvidence "Scale Set runner request identity is invalid")

namespace ScaleSetDeliveryJob

variable (job : ScaleSetDeliveryJob)

/-- The name of a job, checked. -/
def parseJobId : Except ScaleSetDeliveryError ScaleSetJobId :=
  (ScaleSetJobId.parse job.jobId).mapError
    (fun _ => corruptEvidence "Scale Set job identity is invalid")

/-- A job is valid. -/
def validate : Except ScaleSetDeliveryError Unit := do
  let _ ← parseRunnerRequestId job.runnerRequestId
  let _ ← job.parseJobId
  refuseIf (job.workflowRunId = 0 ∨ ¬ boundedToken job.repository maxTokenBytes
      ∨ ¬ boundedToken job.owner maxTokenBytes
      ∨ job.requestLabels.length > maxScaleSetDeliveryLabels
      ∨ ∃ label ∈ job.requestLabels, ¬ boundedToken label maxTokenBytes)
    (corruptEvidence "Scale Set job evidence is invalid")

/-- The job, checked. -/
def toJobEvidence : Except ScaleSetDeliveryError ScaleSetDeliveryJobEvidence := do
  job.validate
  let runnerRequestId ← parseRunnerRequestId job.runnerRequestId
  let jobId ← job.parseJobId
  return ⟨runnerRequestId, job.repository, job.owner, jobId, job.workflowRunId, job.requestLabels⟩

end ScaleSetDeliveryJob

/-- A runner, as a message names it. -/
structure ScaleSetDeliveryRunner where
  id : UInt64
  name : String
deriving DecidableEq, Repr

namespace ScaleSetDeliveryRunner

variable (runner : ScaleSetDeliveryRunner)

/-- The number of a runner, checked. -/
def parseId : Except ScaleSetDeliveryError ScaleSetRunnerId :=
  (ScaleSetRunnerId.new runner.id.toNat).mapError
    (fun _ => corruptEvidence "Scale Set runner ID is invalid")

/-- The name of a runner, checked. -/
def parseName : Except ScaleSetDeliveryError ScaleSetRunnerName :=
  (ScaleSetRunnerName.parse runner.name).mapError
    (fun _ => corruptEvidence "Scale Set runner name is invalid")

/-- A runner is valid. -/
def validate : Except ScaleSetDeliveryError Unit := do
  let _ ← runner.parseId
  let _ ← runner.parseName

/-- The runner, checked. -/
def toRunnerReference : Except ScaleSetDeliveryError ScaleSetRunnerReference := do
  runner.validate
  let id ← runner.parseId
  let name ← runner.parseName
  return ⟨id, name⟩

end ScaleSetDeliveryRunner

/-! ## Events -/

/-- **A lifecycle event as the message describes it.** -/
inductive ScaleSetDeliveryEvent where
  | available (job : ScaleSetDeliveryJob)
  | assigned (job : ScaleSetDeliveryJob)
  | started (job : ScaleSetDeliveryJob) (runner : ScaleSetDeliveryRunner)
  | completed (job : ScaleSetDeliveryJob) (runner : Option ScaleSetDeliveryRunner)
      (result : String)
deriving DecidableEq, Repr

/-- **A lifecycle event read back.** -/
inductive ScaleSetDeliveryLifecycleEvent where
  | available (job : ScaleSetDeliveryJobEvidence)
  | assigned (job : ScaleSetDeliveryJobEvidence)
  | started (job : ScaleSetDeliveryJobEvidence) (runner : ScaleSetRunnerReference)
  | completed (job : ScaleSetDeliveryJobEvidence) (runner : Option ScaleSetRunnerReference)
      (result : ScaleSetJobResult)
deriving DecidableEq, Repr

/-- The result of a job, checked. -/
def parseCompletionResult (result : String) : Except ScaleSetDeliveryError ScaleSetJobResult :=
  (ScaleSetJobResult.parse result).mapError
    (fun _ => corruptEvidence "Scale Set completion result is invalid")

namespace ScaleSetDeliveryEvent

/-- Only what was cancelled has no runner. -/
def validateCompletionRunner (result : ScaleSetJobResult) :
    Option ScaleSetDeliveryRunner → Except ScaleSetDeliveryError Unit
  | some runner => runner.validate
  | none => refuseIf (result.value ≠ "canceled")
      (corruptEvidence "runnerless completion must be an exact cancellation")

/-- An event is valid. -/
def validate : ScaleSetDeliveryEvent → Except ScaleSetDeliveryError Unit
  | .available job | .assigned job => job.validate
  | .started job runner => do
    job.validate
    runner.validate
  | .completed job runner result => do
    job.validate
    let result ← parseCompletionResult result
    validateCompletionRunner result runner

/-- The runner, if there is one. -/
def toOptionalReference : Option ScaleSetDeliveryRunner →
    Except ScaleSetDeliveryError (Option ScaleSetRunnerReference)
  | some runner => some <$> runner.toRunnerReference
  | none => .ok none

/-- The event of a message. -/
def readBack : ScaleSetDeliveryEvent → Except ScaleSetDeliveryError ScaleSetDeliveryLifecycleEvent
  | .available job => .available <$> job.toJobEvidence
  | .assigned job => .assigned <$> job.toJobEvidence
  | .started job runner => do
    let job ← job.toJobEvidence
    let runner ← runner.toRunnerReference
    return .started job runner
  | .completed job runner result => do
    let job ← job.toJobEvidence
    let runner ← toOptionalReference runner
    let result ← parseCompletionResult result
    return .completed job runner result

/-- The event, checked. -/
def toLifecycleEvent (event : ScaleSetDeliveryEvent) :
    Except ScaleSetDeliveryError ScaleSetDeliveryLifecycleEvent := do
  event.validate
  event.readBack

/-- The request of an available job. -/
def available? : ScaleSetDeliveryEvent → Option UInt64
  | .available job => some job.runnerRequestId
  | _ => none

end ScaleSetDeliveryEvent

/-- The request of an available job. -/
def ScaleSetDeliveryLifecycleEvent.available? :
    ScaleSetDeliveryLifecycleEvent → Option ScaleSetRunnerRequestId
  | .available job => some job.runnerRequestId
  | _ => none

/-! ## The record and its validation -/

/-- **The fields of a delivery**, before they are validated. -/
structure DeliveryRecord where
  schemaVersion : Nat
  messageId : UInt32
  statistics : ScaleSetDeliveryStatistics
  availableRequestNumbers : List UInt64
  events : List ScaleSetDeliveryEvent
deriving DecidableEq, Repr

namespace DeliveryRecord

/-- Validate one event and collect the request it makes available, unless
that request was seen before. -/
def collectAvailable (seen : List UInt64) (event : ScaleSetDeliveryEvent) :
    Except ScaleSetDeliveryError (List UInt64) := do
  event.validate
  match event with
  | .available job => do
    let _ ← parseRunnerRequestId job.runnerRequestId
    refuseIf (job.runnerRequestId ∈ seen)
      (corruptEvidence "Scale Set delivery repeats an available runner request")
    return seen ++ [job.runnerRequestId]
  | _ => return seen

/-- **The validation of a delivery.** -/
def validate (d : DeliveryRecord) : Except ScaleSetDeliveryError Unit := do
  refuseIf (d.schemaVersion ≠ scaleSetDeliverySchemaVersion ∨ d.messageId = 0
      ∨ d.events.length > maxScaleSetDeliveryEvents
      ∨ d.availableRequestNumbers.length > maxScaleSetDeliveryEvents)
    (corruptEvidence "Scale Set delivery metadata is invalid")
  d.statistics.validate
  let expectedAvailable ← d.events.foldlM collectAvailable []
  refuseIf (expectedAvailable ≠ d.availableRequestNumbers)
    (corruptEvidence "available runner requests differ from the retained message events")
  let _ ← d.availableRequestNumbers.mapM parseRunnerRequestId

end DeliveryRecord

/-- **A delivery**: a record that validates. -/
structure ScaleSetDelivery extends DeliveryRecord where
  valid : toDeliveryRecord.validate = .ok ()
deriving DecidableEq, Repr

namespace ScaleSetDelivery

/-- A message that passes its checks. -/
def accept (r : DeliveryRecord) : Except ScaleSetDeliveryError ScaleSetDelivery :=
  match h : r.validate with
  | .ok () => .ok ⟨r, h⟩
  | .error e => .error e

/-- **An accepted delivery is the record that was accepted.** -/
theorem accept_eq_ok {r : DeliveryRecord} {d : ScaleSetDelivery} :
    accept r = .ok d ↔ d.toDeliveryRecord = r := by
  unfold accept
  constructor
  · intro h
    split at h <;> simp at h
    rw [← h]
  · intro h
    subst h
    split
    · rfl
    · rename_i e he
      rw [d.valid] at he
      cases he

/-- **The requests a delivery makes available**, typed. -/
def availableRequestIds (d : ScaleSetDelivery) :
    Except ScaleSetDeliveryError (List ScaleSetRunnerRequestId) :=
  d.availableRequestNumbers.mapM parseRunnerRequestId

/-- **Every event of a delivery, read back.** -/
def retainedEvents (d : ScaleSetDelivery) :
    Except ScaleSetDeliveryError (List ScaleSetDeliveryLifecycleEvent) := do
  d.validate
  d.events.mapM ScaleSetDeliveryEvent.toLifecycleEvent

end ScaleSetDelivery

/-! ## What validation says -/

namespace ScaleSetDeliveryEvent

variable {event : ScaleSetDeliveryEvent} {typed : ScaleSetDeliveryLifecycleEvent}

theorem exists_toJobEvidence {job : ScaleSetDeliveryJob} (h : job.validate = .ok ()) :
    ∃ evidence, job.toJobEvidence = .ok evidence := by
  have hp := h
  unfold ScaleSetDeliveryJob.validate at hp
  simp only [bind_eq_ok] at hp
  obtain ⟨id, hid, jobId, hj, -⟩ := hp
  unfold ScaleSetDeliveryJob.toJobEvidence
  rw [h, ok_bind, hid, ok_bind, hj, ok_bind]
  exact ⟨_, rfl⟩

theorem exists_toRunnerReference {runner : ScaleSetDeliveryRunner}
    (h : runner.validate = .ok ()) : ∃ reference, runner.toRunnerReference = .ok reference := by
  have hp := h
  unfold ScaleSetDeliveryRunner.validate at hp
  simp only [bind_eq_ok] at hp
  obtain ⟨id, hid, name, hn, -⟩ := hp
  unfold ScaleSetDeliveryRunner.toRunnerReference
  rw [h, ok_bind, hid, ok_bind, hn, ok_bind]
  exact ⟨_, rfl⟩

/-- **An event that validates reads back.** -/
theorem exists_toLifecycleEvent (h : event.validate = .ok ()) :
    ∃ typed, event.toLifecycleEvent = .ok typed := by
  unfold toLifecycleEvent
  rw [h, ok_bind]
  cases event with
  | available job | assigned job =>
    obtain ⟨evidence, hj⟩ := exists_toJobEvidence h
    exact ⟨_, by rw [readBack, hj]; rfl⟩
  | started job runner =>
    simp only [validate, guard_bind_eq_ok] at h
    obtain ⟨evidence, hj⟩ := exists_toJobEvidence h.1
    obtain ⟨reference, hr⟩ := exists_toRunnerReference h.2
    exact ⟨_, by rw [readBack, hj, ok_bind, hr]; rfl⟩
  | completed job runner result =>
    simp only [validate, bind_eq_ok] at h
    obtain ⟨u, hv, parsed, hp, hc⟩ := h
    obtain ⟨evidence, hj⟩ := exists_toJobEvidence hv
    cases runner with
    | none => exact ⟨_, by rw [readBack, hj, ok_bind, toOptionalReference, ok_bind, hp]; rfl⟩
    | some runner =>
      obtain ⟨reference, hr⟩ := exists_toRunnerReference hc
      simp [readBack, hj, toOptionalReference, hr, hp]

theorem available?_of_toLifecycleEvent (h : event.toLifecycleEvent = .ok typed) :
    Option.Rel (fun number id => parseRunnerRequestId number = .ok id)
      event.available? typed.available? := by
  unfold toLifecycleEvent at h
  rw [guard_bind_eq_ok] at h
  replace h := h.2
  cases event with
  | available job =>
    rw [readBack, map_eq_ok] at h
    obtain ⟨evidence, hj, rfl⟩ := h
    unfold ScaleSetDeliveryJob.toJobEvidence at hj
    simp only [bind_eq_ok, pure_eq_ok_iff] at hj
    obtain ⟨-, -, id, hid, jobId, -, rfl⟩ := hj
    exact .some hid
  | assigned job | started job runner | completed job runner result =>
    simp only [readBack, map_eq_ok, bind_eq_ok, pure_eq_ok_iff] at h
    have hn : typed.available? = none := by
      grind [ScaleSetDeliveryLifecycleEvent.available?]
    rw [hn]
    exact .none

end ScaleSetDeliveryEvent

namespace DeliveryRecord

/-- Collecting keeps what was seen and adds the request of the event, which
is new. -/
theorem collectAvailable_spec {seen out : List UInt64} {event : ScaleSetDeliveryEvent}
    (h : collectAvailable seen event = .ok out) :
    event.validate = .ok () ∧ out = seen ++ event.available?.toList ∧ (seen.Nodup → out.Nodup) := by
  unfold collectAvailable at h
  rw [guard_bind_eq_ok] at h
  obtain ⟨hv, h⟩ := h
  refine ⟨hv, ?_⟩
  cases event with
  | available job =>
    simp only [bind_eq_ok, refuseIf_eq_ok, pure_eq_ok_iff] at h
    obtain ⟨-, -, -, hn, rfl⟩ := h
    refine ⟨rfl, fun hs => ?_⟩
    rw [nodup_append]
    refine ⟨hs, nodup_singleton _, fun a ha b hb heq => hn ?_⟩
    rw [← mem_singleton.mp hb, ← heq]
    exact ha
  | assigned job | started job runner | completed job runner result =>
    obtain rfl : seen = out := ok.inj h
    exact ⟨(append_nil _).symm, fun hs => hs⟩

/-- **What a message makes available** is what its events make available,
without repetition. -/
theorem foldlM_collectAvailable {seen out : List UInt64} {events : List ScaleSetDeliveryEvent}
    (h : events.foldlM collectAvailable seen = .ok out) :
    (∀ event ∈ events, event.validate = .ok ())
      ∧ out = seen ++ events.filterMap ScaleSetDeliveryEvent.available?
      ∧ (seen.Nodup → out.Nodup) := by
  induction events generalizing seen with
  | nil =>
    obtain rfl : seen = out := ok.inj h
    exact ⟨forall_mem_nil _, (append_nil _).symm, fun hs => hs⟩
  | cons event events ih =>
    rw [foldlM_cons, bind_eq_ok] at h
    obtain ⟨next, hn, h⟩ := h
    obtain ⟨hval, rfl, hnd⟩ := collectAvailable_spec hn
    obtain ⟨hv, rfl, hnds⟩ := ih h
    refine ⟨forall_mem_cons.mpr ⟨hval, hv⟩, ?_, fun hs => hnds (hnd hs)⟩
    rw [append_assoc]
    cases heq : event.available? with
    | none => rw [filterMap_cons_none heq]; rfl
    | some request => rw [filterMap_cons_some heq]; rfl

end DeliveryRecord

namespace ScaleSetDelivery

variable (d : ScaleSetDelivery)
variable {ids : List ScaleSetRunnerRequestId} {events : List ScaleSetDeliveryLifecycleEvent}

theorem validate_parts :
    d.events.length ≤ maxScaleSetDeliveryEvents ∧ (∀ event ∈ d.events, event.validate = .ok ())
      ∧ d.availableRequestNumbers = d.events.filterMap ScaleSetDeliveryEvent.available?
      ∧ d.availableRequestNumbers.Nodup
      ∧ ∃ ids, d.availableRequestIds = .ok ids := by
  have h := d.valid
  unfold DeliveryRecord.validate at h
  simp only [bind_eq_ok, refuseIf_eq_ok, pure_eq_ok, not_or, not_lt, gt_iff_lt, ne_eq, not_not] at h
  obtain ⟨-, ⟨-, -, hl, -⟩, -, -, expected, hexp, -, rfl, ids, hi, -⟩ := h
  obtain ⟨hv, he, hnd⟩ := DeliveryRecord.foldlM_collectAvailable hexp
  exact ⟨hl, hv, he, hnd nodup_nil, ids, hi⟩

theorem exists_availableRequestIds : ∃ ids, d.availableRequestIds = .ok ids :=
  d.validate_parts.2.2.2.2

/-- **Every event of a delivery reads back.** -/
theorem exists_retainedEvents : ∃ events, d.retainedEvents = .ok events := by
  unfold retainedEvents
  rw [d.valid, ok_bind]
  exact exists_mapM_eq_ok fun event hev =>
    ScaleSetDeliveryEvent.exists_toLifecycleEvent (d.validate_parts.2.1 event hev)

variable {d}

theorem forall₂_of_retainedEvents (h : d.retainedEvents = .ok events) :
    List.Forall₂ (fun event typed => event.toLifecycleEvent = .ok typed) d.events events := by
  unfold retainedEvents at h
  rw [guard_bind_eq_ok] at h
  exact mapM_eq_ok.mp h.2

theorem length_retainedEvents_le (h : d.retainedEvents = .ok events) :
    events.length ≤ maxScaleSetDeliveryEvents := by
  rw [← (forall₂_of_retainedEvents h).length_eq]
  exact d.validate_parts.1

/-- **The typed requests are those of the events read back.** -/
theorem availableRequestIds_eq_filterMap (hids : d.availableRequestIds = .ok ids)
    (hevs : d.retainedEvents = .ok events) :
    ids = events.filterMap ScaleSetDeliveryLifecycleEvent.available? := by
  have ht := mapM_eq_ok.mp hids
  rw [d.validate_parts.2.2.1] at ht
  have hraw := forall₂_of_retainedEvents hevs
  clear hids hevs
  generalize d.events = raw at ht hraw
  induction hraw generalizing ids with
  | nil => exact forall₂_nil_left_iff.mp ht
  | @cons event typed raw typeds hev hraw ih =>
    have hrel := ScaleSetDeliveryEvent.available?_of_toLifecycleEvent hev
    cases hnum : event.available? with
    | none =>
      rw [hnum] at hrel
      cases hid : typed.available? with
      | some id => rw [hid] at hrel; cases hrel
      | none =>
        rw [filterMap_cons_none hnum] at ht
        rw [filterMap_cons_none hid]
        exact ih ht
    | some number =>
      rw [hnum] at hrel
      cases hid : typed.available? with
      | none => rw [hid] at hrel; cases hrel
      | some id =>
        rw [hid] at hrel
        rw [filterMap_cons_some hnum, forall₂_cons_left_iff] at ht
        obtain ⟨id', ids, hid', hids, rfl⟩ := ht
        rw [filterMap_cons_some hid, ← ih hids]
        cases hrel with
        | some hp => rw [ok.inj (hid'.symm.trans hp)]

end ScaleSetDelivery

/-! ## The bridge -/

/-- What the bridge says of a job. -/
structure ScaleSetBridgeJobEvidence where
  runnerRequestId : UInt64
  repository : String
  owner : String
  jobId : ScaleSetJobId
  workflowRunId : UInt64
  requestLabels : List String
deriving DecidableEq, Repr

/-- What the bridge says happened to a job. -/
inductive ScaleSetBridgeEvent where
  | available (job : ScaleSetBridgeJobEvidence)
  | assigned (job : ScaleSetBridgeJobEvidence)
  | started (job : ScaleSetBridgeJobEvidence) (runner : ScaleSetRunnerReference)
  | completed (job : ScaleSetBridgeJobEvidence) (runner : Option ScaleSetRunnerReference)
      (result : ScaleSetJobResult)
deriving DecidableEq, Repr

/-- What a poll of the bridge returns. -/
inductive ScaleSetBridgePoll where
  | idle (statistics : ScaleSetDeliveryStatistics)
  | message (messageId : UInt32) (statistics : ScaleSetDeliveryStatistics)
      (events : List ScaleSetBridgeEvent)
deriving DecidableEq, Repr

/-- A job of the bridge. -/
def ScaleSetDeliveryJob.fromBridge (job : ScaleSetBridgeJobEvidence) : ScaleSetDeliveryJob :=
  ⟨job.runnerRequestId, job.repository, job.owner, job.jobId.value, job.workflowRunId,
    job.requestLabels⟩

/-- A runner of the bridge. -/
def ScaleSetDeliveryRunner.fromBridge (runner : ScaleSetRunnerReference) : ScaleSetDeliveryRunner :=
  ⟨UInt64.ofNat runner.id.val, runner.name.value⟩

/-- An event of the bridge. -/
def ScaleSetDeliveryEvent.fromBridge : ScaleSetBridgeEvent → ScaleSetDeliveryEvent
  | .available job => .available (.fromBridge job)
  | .assigned job => .assigned (.fromBridge job)
  | .started job runner => .started (.fromBridge job) (.fromBridge runner)
  | .completed job runner result =>
    .completed (.fromBridge job) (runner.map ScaleSetDeliveryRunner.fromBridge) result.value

/-- **The delivery of a polled message**, if there is a message. -/
def ScaleSetDelivery.fromBridgePoll :
    ScaleSetBridgePoll → Except ScaleSetDeliveryError (Option ScaleSetDelivery)
  | .idle _ => .ok none
  | .message messageId statistics events => do
    let retained := events.map ScaleSetDeliveryEvent.fromBridge
    let delivery ← ScaleSetDelivery.accept
      { schemaVersion := scaleSetDeliverySchemaVersion
        messageId, statistics
        availableRequestNumbers := retained.filterMap ScaleSetDeliveryEvent.available?
        events := retained }
    return some delivery

/-! ## The document -/

/-- The statistics as JSON. -/
def ScaleSetDeliveryStatistics.toJson (s : ScaleSetDeliveryStatistics) : Value :=
  .obj [("available_jobs", .num s.availableJobs.toNat),
    ("acquired_jobs", .num s.acquiredJobs.toNat),
    ("assigned_jobs", .num s.assignedJobs.toNat),
    ("running_jobs", .num s.runningJobs.toNat),
    ("registered_runners", .num s.registeredRunners.toNat),
    ("busy_runners", .num s.busyRunners.toNat),
    ("idle_runners", .num s.idleRunners.toNat)]

/-- A job as JSON. -/
def ScaleSetDeliveryJob.toJson (job : ScaleSetDeliveryJob) : Value :=
  .obj [("runner_request_id", .num job.runnerRequestId.toNat),
    ("repository", .str job.repository),
    ("owner", .str job.owner),
    ("job_id", .str job.jobId),
    ("workflow_run_id", .num job.workflowRunId.toNat),
    ("request_labels", .arr (job.requestLabels.map .str))]

/-- A runner as JSON. -/
def ScaleSetDeliveryRunner.toJson (runner : ScaleSetDeliveryRunner) : Value :=
  .obj [("id", .num runner.id.toNat), ("name", .str runner.name)]

/-- An event, as the document writes it: its kind comes first, and a
completion without a runner leaves the runner out. -/
def ScaleSetDeliveryEvent.toJson : ScaleSetDeliveryEvent → Value
  | .available job => .obj [("kind", .str "available"), ("job", job.toJson)]
  | .assigned job => .obj [("kind", .str "assigned"), ("job", job.toJson)]
  | .started job runner =>
    .obj [("kind", .str "started"), ("job", job.toJson), ("runner", runner.toJson)]
  | .completed job runner result =>
    .obj ([("kind", .str "completed"), ("job", job.toJson)]
      ++ optional "runner" (runner.map ScaleSetDeliveryRunner.toJson)
      ++ [("result", .str result)])

/-- A message as JSON. -/
def ScaleSetDelivery.toJson (d : ScaleSetDelivery) : Value :=
  .obj [("schema_version", .num d.schemaVersion),
    ("message_id", .num d.messageId.toNat),
    ("statistics", d.statistics.toJson),
    ("available_request_ids",
      .arr (d.availableRequestNumbers.map (fun number => .num number.toNat))),
    ("events", .arr (d.events.map ScaleSetDeliveryEvent.toJson))]

/-- **The document of a delivery**, unless it is too long. -/
def encodeScaleSetDelivery (d : ScaleSetDelivery) :
    Except ScaleSetDeliveryError (List UInt8) := do
  d.validate
  encodeWithin maxScaleSetDeliveryBytes
    ⟨.documentTooLarge, "Scale Set delivery exceeds the reviewed byte limit"⟩ d.toJson

theorem encodeScaleSetDelivery_eq_ok {d : ScaleSetDelivery} {bytes : List UInt8} :
    encodeScaleSetDelivery d = .ok bytes
      ↔ cost d.toJson ≤ maxScaleSetDeliveryBytes ∧ encode d.toJson = bytes := by
  unfold encodeScaleSetDelivery
  rw [d.valid, ok_bind, encodeWithin_eq_ok]
  rfl

end Glaeda
