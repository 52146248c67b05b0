import Glaeda.PersonalQueue

/-!
# What the queue decides

From an accepted observation the queue decides what runs next. It fills the
slots that are free, at most two, one after the other: the waiting requests
are put in order – by their aged priority, by the load of their repository, by
deadline, submission and name – and the first one that fits the resources and
the caches is selected. A heavy job runs alone.

The decision also says what everybody can see: the state of each request and
its place in the queue, and which profile the machine should have.
-/

namespace Glaeda

open Checked List

/-! ## Parts of a decision -/

/-- How far an entry is. -/
inductive PersonalWorkerQueueEntryState where
  | queued | selected | reserved | starting | running | draining | cancelled
deriving DecidableEq, Repr

/-- The entry is active. -/
def PersonalWorkerQueueEntryState.isActive : PersonalWorkerQueueEntryState → Bool
  | .reserved | .starting | .running | .draining => true
  | .queued | .selected | .cancelled => false

/-- What is shown of an entry. -/
structure PersonalWorkerQueueVisibility where
  requestId : ExecutionRequestId
  repository : RepositoryRef
  commit : CommitId
  tree : GitTreeId
  verificationProfileId : VerificationProfileId
  runnerProfileId : RunnerProfileId
  priority : PersonalWorkerPriority
  effectivePriorityRank : Nat
  ageMillis : Nat
  state : PersonalWorkerQueueEntryState
  queuePosition : Option Nat
  requestedCpuMillis : UInt32
  requestedMemoryBytes : UInt64
  reservedCpuMillis : Option UInt32
  reservedMemoryBytes : Option UInt64
  cacheNamespace : PersonalWorkerCacheNamespace
  cacheAccess : PersonalWorkerCacheAccessMode
  cacheLease : PersonalWorkerCacheLeaseState
  startTime : Option EpochMillis
  workerProfile : PersonalWorkerProfile
deriving DecidableEq, Repr

/-- **A request that is selected** to run. -/
structure PersonalWorkerSelection where
  requestId : ExecutionRequestId
  repository : RepositoryRef
  verificationProfileId : VerificationProfileId
  runnerProfileId : RunnerProfileId
  priority : PersonalWorkerPriority
  effectivePriorityRank : Nat
  jobClass : PersonalWorkerJobClass
  reservedLimits : ExecutionResourceLimits
  cacheNamespace : PersonalWorkerCacheNamespace
  cacheAccess : PersonalWorkerCacheAccessMode
deriving DecidableEq, Repr

/-- The version of a queue. -/
def personalWorkerQueueSchemaVersion : Nat := 3

/-- **The decision of the queue.** -/
structure PersonalWorkerQueueDecision where
  schemaVersion : Nat
  generation : PersonalWorkerQueueGeneration
  observedAt : EpochMillis
  profileObservation : PersonalWorkerProfileObservation
  activityEvidence : PersonalWorkerActivityEvidence
  desiredProfile : PersonalWorkerProfile
  cancelPendingDownscale : Bool
  profileChangePermitted : Bool
  schedulableCpuMillis : Nat
  schedulableMemoryBytes : Nat
  schedulablePids : Nat
  selected : List PersonalWorkerSelection
  visibility : List PersonalWorkerQueueVisibility
deriving DecidableEq, Repr

/-! ## The order of the waiting requests -/

/-- After how long a request gains a rank. -/
def personalWorkerPriorityAgingMillis : Nat := 30 * 60 * 1000

/-- The rank of a priority. -/
def PersonalWorkerPriority.baseRank : PersonalWorkerPriority → Nat
  | .background => 0
  | .normal => 1
  | .interactive => 2

/-- The rank after some time. -/
def PersonalWorkerPriority.effectiveRank (priority : PersonalWorkerPriority) (ageMillis : Nat) :
    Nat :=
  let promotions := min (ageMillis / personalWorkerPriorityAgingMillis) 255
  min (saturatingAdd 256 priority.baseRank promotions) 2

variable (request : PersonalWorkerJobRequest) (observedAt : EpochMillis)

/-- How long a request has waited. -/
def PersonalWorkerJobRequest.ageMillis : Nat :=
  observedAt.val - request.submittedAt.val

/-- The rank of a request. -/
def effectivePriority : Nat :=
  request.priority.effectiveRank (request.ageMillis observedAt)

/-- An earlier deadline comes first, none comes last. -/
def compareDeadline : Option EpochMillis → Option EpochMillis → Ordering
  | some left, some right => compare left.val right.val
  | some _, none => .lt
  | none, some _ => .gt
  | none, none => .eq

/-- Texts in order. -/
def compareText (left right : String) : Ordering := compareOfLessAndEq left right

variable (repositoryLoad : List RepositoryRef)

/-- **Which of two requests goes first.** The repositories that are being
served, one entry for each job, count against their own requests. -/
def compareCandidates (left right : PersonalWorkerJobRequest) : Ordering :=
  (compare (effectivePriority right observedAt) (effectivePriority left observedAt)).then <|
  (compare (repositoryLoad.count left.source.repository)
    (repositoryLoad.count right.source.repository)).then <|
  (compareDeadline left.operatorDeadline right.operatorDeadline).then <|
  (compare left.submittedAt.val right.submittedAt.val).then <|
  (compareText left.source.repository.value right.source.repository.value).then <|
  compareText left.id.value right.id.value

/-- The requests, the most urgent first. -/
def sortCandidates (requests : List PersonalWorkerJobRequest) : List PersonalWorkerJobRequest :=
  requests.insertionSort fun left right =>
    compareCandidates observedAt repositoryLoad left right ≠ .gt

/-! ## Resources and caches -/

/-- Why there are no processes left. -/
inductive PersonalWorkerPidAdmissionRefusalReason where
  | arithmeticOverflow | existingReservationsOvercommitted | insufficientSchedulablePids
deriving DecidableEq, Repr

/-- **One more reservation of processes**, beside those there are: the sum. -/
def admitPersonalWorkerPidReservation (existing : List Nat) (candidate : Nat) :
    Except PersonalWorkerPidAdmissionRefusalReason Nat := do
  let reserved ← existing.foldlM
    (fun sum reservation => okOr (checkedAdd u32Size sum reservation) .arithmeticOverflow) 0
  refuseIf (reserved > personalWorkerSchedulablePidCapacity) .existingReservationsOvercommitted
  let projected ← okOr (checkedAdd u32Size reserved candidate) .arithmeticOverflow
  refuseIf (projected > personalWorkerSchedulablePidCapacity) .insufficientSchedulablePids
  pure projected

variable (active : List PersonalWorkerActiveReservation)

/-- The caches the active requests use. -/
def activeLeases : HeldCaches :=
  active.map fun reservation =>
    (reservation.request.cacheNamespace, reservation.request.cacheAccess)

/-- The repositories of the active requests. -/
def activeRepositoryLoad : List RepositoryRef :=
  active.map fun reservation => reservation.request.source.repository

/-- What keeps a request from its cache. -/
def leaseConflict (held : HeldCaches) (request : PersonalWorkerJobRequest) :
    Option PersonalWorkerCacheLeaseState :=
  leaseConflictForModes (held.modes request.cacheNamespace) request.cacheAccess

/-! ## Selection -/

/-- **The state of the selection**: what is left, what was selected and what
is taken. -/
structure PersonalWorkerSelecting where
  remaining : List PersonalWorkerJobRequest
  selected : List PersonalWorkerSelection
  heldLeases : HeldCaches
  repositoryLoad : List RepositoryRef
  usedCpu : Nat
  usedMemory : Nat
  usedPids : Nat
  selectedHeavy : Bool
deriving DecidableEq, Repr

namespace PersonalWorkerSelecting

variable (input : PersonalWorkerQueueInput) (selecting : PersonalWorkerSelecting)

/-- There is room for the request. -/
def admits (request : PersonalWorkerJobRequest) : Bool :=
  let heavy := request.jobClass == .heavy
  let activeHeavy := input.active.any fun reservation => reservation.request.jobClass == .heavy
  if activeHeavy || selecting.selectedHeavy || (heavy && !input.active.isEmpty)
      || (heavy && !selecting.selected.isEmpty) then false
  else
    saturatingAdd u32Size selecting.usedCpu request.requestedLimits.cpuMillis.toNat
        ≤ personalWorkerSchedulableCpuMillis
      && saturatingAdd u64Size selecting.usedMemory request.requestedLimits.memoryBytes.toNat
        ≤ personalWorkerSchedulableMemoryBytes
      && (admitPersonalWorkerPidReservation [selecting.usedPids]
          request.requestedLimits.pids.toNat).isOk
      && (leaseConflict selecting.heldLeases request).isNone

/-- The request is selected. -/
def select (before : List PersonalWorkerJobRequest) (request : PersonalWorkerJobRequest)
    (after : List PersonalWorkerJobRequest) : PersonalWorkerSelecting where
  remaining := before ++ after
  heldLeases := selecting.heldLeases ++ [(request.cacheNamespace, request.cacheAccess)]
  repositoryLoad := selecting.repositoryLoad ++ [request.source.repository]
  usedCpu := saturatingAdd u32Size selecting.usedCpu request.requestedLimits.cpuMillis.toNat
  usedMemory :=
    saturatingAdd u64Size selecting.usedMemory request.requestedLimits.memoryBytes.toNat
  usedPids := match admitPersonalWorkerPidReservation [selecting.usedPids]
      request.requestedLimits.pids.toNat with
    | .ok projected => projected
    | .error _ => selecting.usedPids -- it was admitted
  selectedHeavy := request.jobClass == .heavy
  selected := selecting.selected ++
    [{ requestId := request.id
       repository := request.source.repository
       verificationProfileId := request.identity.verificationProfileId
       runnerProfileId := request.identity.runnerProfileId
       priority := request.priority
       effectivePriorityRank := effectivePriority request input.observedAt
       jobClass := request.jobClass
       reservedLimits := request.requestedLimits
       cacheNamespace := request.cacheNamespace
       cacheAccess := request.cacheAccess }]

/-- One more request is selected. -/
def selectNext : Option PersonalWorkerSelecting :=
  let sorted := sortCandidates input.observedAt selecting.repositoryLoad selecting.remaining
  match sorted.span fun request => !selecting.admits input request with
  | (_, []) => none
  | (before, request :: after) => some (selecting.select input before request after)

/-- **Fill the slots that are free.** -/
def fill : Nat → PersonalWorkerSelecting → PersonalWorkerSelecting
  | 0, selecting => selecting
  | slots + 1, selecting =>
    match selecting.selectNext input with
    | none => selecting
    | some next => fill slots next

end PersonalWorkerSelecting

namespace PersonalWorkerQueueInput

variable (input : PersonalWorkerQueueInput)

/-- The requests that are not cancelled. -/
def waiting : List PersonalWorkerJobRequest :=
  input.queued.filter fun request => !request.cancellation.isCancelled

/-- Where the selection starts. -/
def selecting (usage : ActiveUsage) : PersonalWorkerSelecting where
  remaining := input.waiting
  selected := []
  heldLeases := activeLeases input.active
  repositoryLoad := activeRepositoryLoad input.active
  usedCpu := usage.cpuMillis
  usedMemory := usage.memoryBytes
  usedPids := usage.pids
  selectedHeavy := false

/-- The requests that are selected. -/
def selection (usage : ActiveUsage) : List PersonalWorkerSelection :=
  (PersonalWorkerSelecting.fill input
    (maxPersonalWorkerActiveReservations - input.active.length) (input.selecting usage)).selected

/-! ## What everybody sees -/

/-- When an idle machine becomes interactive. -/
def interactiveCooldownMillis : Nat := 10 * 60 * 1000

/-- When an idle machine is stopped. -/
def stoppedCooldownMillis : Nat := 30 * 60 * 1000

/-- There is a request to run. -/
def hasWork : Bool :=
  input.queued.any (fun request => !request.cancellation.isCancelled) || !input.active.isEmpty

/-- The profile the machine should have. -/
def desiredProfile : PersonalWorkerProfile :=
  if input.hasWork then .work
  else
    match input.activityEvidence.lastActivityAt with
    | none => .stopped
    | some lastActivityAt =>
      let idleMillis := input.observedAt.val - lastActivityAt.val
      if idleMillis < interactiveCooldownMillis then .work
      else if idleMillis < stoppedCooldownMillis then .interactive
      else .stopped

/-- The state of a cache in use. -/
def heldLeaseState : PersonalWorkerCacheAccessMode → PersonalWorkerCacheLeaseState
  | .read => .heldRead
  | .write => .heldWrite
  | .exclusive => .heldExclusive

/-- What is shown of a request. -/
def visibilityForRequest (request : PersonalWorkerJobRequest)
    (state : PersonalWorkerQueueEntryState) (queuePosition : Option Nat)
    (reservedLimits : Option ExecutionResourceLimits)
    (cacheLease : PersonalWorkerCacheLeaseState) (startTime : Option EpochMillis)
    (workerProfile : PersonalWorkerProfile) : PersonalWorkerQueueVisibility where
  requestId := request.id
  repository := request.source.repository
  commit := request.source.commit
  tree := request.source.tree
  verificationProfileId := request.identity.verificationProfileId
  runnerProfileId := request.identity.runnerProfileId
  priority := request.priority
  effectivePriorityRank := effectivePriority request input.observedAt
  ageMillis := request.ageMillis input.observedAt
  state := state
  queuePosition := queuePosition
  requestedCpuMillis := request.requestedLimits.cpuMillis
  requestedMemoryBytes := request.requestedLimits.memoryBytes
  reservedCpuMillis := reservedLimits.map (·.cpuMillis)
  reservedMemoryBytes := reservedLimits.map (·.memoryBytes)
  cacheNamespace := request.cacheNamespace
  cacheAccess := request.cacheAccess
  cacheLease := cacheLease
  startTime := startTime
  workerProfile := workerProfile

variable (selected : List PersonalWorkerSelection)

/-- What is shown of a waiting request. -/
def visibilityOfQueued (positions : List ExecutionRequestId) (request : PersonalWorkerJobRequest) :
    PersonalWorkerQueueVisibility :=
  let held := activeLeases input.active
    ++ selected.map fun selection => (selection.cacheNamespace, selection.cacheAccess)
  let isSelected := selected.any fun selection => selection.requestId == request.id
  let isCancelled := request.cancellation.isCancelled
  input.visibilityForRequest request
    (if isCancelled then .cancelled else if isSelected then .selected else .queued)
    ((positions.idxOf? request.id).map (· + 1))
    (if isSelected then some request.requestedLimits else none)
    (if isCancelled then .available
      else if isSelected then heldLeaseState request.cacheAccess
      else (leaseConflict held request).getD
        (if request.cacheAccess = .read then .sharedRead else .available))
    none input.desiredProfile

/-- The state of a job that is being served. The other states of an admission
were refused with the observation. -/
def entryState : ExecutionAdmissionState → PersonalWorkerQueueEntryState
  | .reserved => .reserved
  | .starting => .starting
  | .running => .running
  | _ => .draining

/-- **What everybody sees**: the waiting requests in order, then the jobs that
are being served. -/
def buildVisibility : List PersonalWorkerQueueVisibility :=
  let load := activeRepositoryLoad input.active ++ selected.map (·.repository)
  let queued := sortCandidates input.observedAt load input.queued
  let positions := (queued.filter fun request => !request.cancellation.isCancelled
    && !selected.any fun selection => selection.requestId == request.id).map (·.id)
  queued.map (input.visibilityOfQueued selected positions)
    ++ input.active.map fun active =>
      input.visibilityForRequest active.request (entryState active.admission.state) none
        active.admission.appliedLimits (heldLeaseState active.request.cacheAccess)
        active.startedAt .work

/-! ## The decision -/

variable (previous : Option PersonalWorkerQueueDecision)

/-- The queue is the next one, and not seen earlier. -/
def validateGeneration : Except FieldError Unit :=
  match previous with
  | none => .ok ()
  | some previous => do
    refuseIf (previous.schemaVersion ≠ personalWorkerQueueSchemaVersion)
      ⟨"previous.schema_version", "unsupported_previous_queue_schema",
        "previous queue decision schema is not supported"⟩
    let expected ← PersonalWorkerQueueGeneration.next previous.generation
    refuseIf (input.generation ≠ expected)
      ⟨"generation", "stale_or_skipped_queue_generation",
        "queue generation must advance by exactly one"⟩
    refuseIf (input.observedAt.val < previous.observedAt.val)
      ⟨"observed_at", "queue_observation_time_reversal",
        "queue observation time cannot move backwards"⟩

/-- **Evaluate an observation of the queue.** -/
def evaluate : Except FieldError PersonalWorkerQueueDecision := do
  input.validateGeneration previous
  input.validateInput
  let usage ← aggregateActiveLimits input.active
  let selected := input.selection usage
  pure {
    schemaVersion := personalWorkerQueueSchemaVersion
    generation := input.generation
    observedAt := input.observedAt
    profileObservation := input.profileObservation
    activityEvidence := input.activityEvidence
    desiredProfile := input.desiredProfile
    cancelPendingDownscale := input.hasWork
      && input.pendingProfileChange.any fun pending => pending.target != .work
    profileChangePermitted := input.active.isEmpty
    schedulableCpuMillis := personalWorkerSchedulableCpuMillis
    schedulableMemoryBytes := personalWorkerSchedulableMemoryBytes
    schedulablePids := personalWorkerSchedulablePidCapacity
    selected := selected
    visibility := input.buildVisibility selected }

end PersonalWorkerQueueInput

/-! ## What a decision is like -/

namespace PersonalWorkerSelecting

variable {input : PersonalWorkerQueueInput} {selecting next : PersonalWorkerSelecting}

theorem length_selectNext (h : selecting.selectNext input = some next) :
    next.selected.length = selecting.selected.length + 1 := by
  unfold selectNext at h
  dsimp only at h
  split at h
  · cases h
  · cases h
    simp [select]

theorem selectNext_of_remaining (h : selecting.remaining = []) :
    selecting.selectNext input = none := by
  simp [selectNext, sortCandidates, h, span_eq_takeWhile_dropWhile]

/-- **No more requests are selected than there are slots.** -/
theorem length_fill_le (slots : Nat) (selecting : PersonalWorkerSelecting) :
    (fill input slots selecting).selected.length ≤ selecting.selected.length + slots := by
  induction slots generalizing selecting with
  | zero => exact Nat.le_refl _
  | succ slots ih =>
    unfold fill
    cases h : selecting.selectNext input with
    | none => exact Nat.le_add_right _ _
    | some next =>
      have hn := ih next
      rw [length_selectNext h] at hn
      dsimp only
      omega

theorem fill_of_remaining (slots : Nat) (h : selecting.remaining = []) :
    fill input slots selecting = selecting := by
  cases slots with
  | zero => rfl
  | succ slots => rw [fill, selectNext_of_remaining h]

end PersonalWorkerSelecting

namespace PersonalWorkerQueueInput

variable {input : PersonalWorkerQueueInput}

theorem length_selection_le (usage : ActiveUsage) : (input.selection usage).length ≤ 2 := by
  have h := @PersonalWorkerSelecting.length_fill_le input
    (maxPersonalWorkerActiveReservations - input.active.length) (input.selecting usage)
  exact h.trans (by simp [selecting, maxPersonalWorkerActiveReservations])

theorem hasWork_of_selection {usage : ActiveUsage} (h : input.selection usage ≠ []) :
    input.hasWork = true := by
  by_contra hi
  apply h
  have hw : input.waiting = [] := by
    rw [waiting, filter_eq_nil_iff]
    intro request hr ha
    exact hi (by
      rw [hasWork, Bool.or_eq_true]
      exact Or.inl (any_eq_true.mpr ⟨request, hr, ha⟩))
  rw [selection, PersonalWorkerSelecting.fill_of_remaining _ hw]
  rfl

/-- **Where nothing is being served, nobody sees anything being served.** -/
theorem isActive_buildVisibility (ha : input.active = [])
    {selected : List PersonalWorkerSelection} {entry : PersonalWorkerQueueVisibility}
    (he : entry ∈ input.buildVisibility selected) : entry.state.isActive = false := by
  simp only [buildVisibility, ha, map_nil, append_nil, mem_map] at he
  obtain ⟨request, -, rfl⟩ := he
  show (ite _ _ (ite _ _ _) : PersonalWorkerQueueEntryState).isActive = false
  split_ifs <;> rfl

/-- **The decision for a queue in which nothing is being served.** -/
structure Decides (input : PersonalWorkerQueueInput) (decision : PersonalWorkerQueueDecision) :
    Prop where
  schema : decision.schemaVersion = personalWorkerQueueSchemaVersion
  time : decision.observedAt = input.observedAt
  profile : decision.profileObservation = input.profileObservation
  idle : ∀ entry ∈ decision.visibility, entry.state.isActive = false
  slots : decision.selected.length ≤ 2
  work : decision.selected ≠ [] → decision.desiredProfile = .work
  downscale : input.pendingProfileChange.all (fun pending => pending.target == .work) →
    decision.cancelPendingDownscale = false

theorem decides_of_evaluate {previous : Option PersonalWorkerQueueDecision}
    {decision : PersonalWorkerQueueDecision} (h : input.evaluate previous = .ok decision)
    (ha : input.active = []) : input.Decides decision := by
  unfold evaluate at h
  simp only [bind_eq_ok, pure_eq_ok] at h
  obtain ⟨-, -, -, -, usage, -, h⟩ := h
  obtain rfl := Except.ok.inj h
  refine ⟨rfl, rfl, rfl,
    fun entry => isActive_buildVisibility ha, length_selection_le usage, ?_, ?_⟩
  · intro hs
    show input.desiredProfile = _
    rw [desiredProfile, if_pos (hasWork_of_selection hs)]
  · intro hp
    show (input.hasWork && _) = false
    cases hc : input.pendingProfileChange with
    | none => simp
    | some pending => simp_all

end PersonalWorkerQueueInput

end Glaeda
