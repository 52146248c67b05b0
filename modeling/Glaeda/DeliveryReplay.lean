import Glaeda.CatalogRun
import Glaeda.DeliveryConsumer

/-!
# Replaying a delivery

The service repeats a message until it is acknowledged, and the program may
crash after it stored what a message did to the catalog. So the consumer
will meet a message whose effects are already there, and **applying it once
more has to change nothing**.

Nothing stores which messages were applied. What makes a repetition
harmless is that each event leaves a trace in the entry of its request: the
attempt `Records` it, or the completed attempt went through it. `Shown`
says that a catalog has the trace of an event; a catalog that shows an
event is not changed by it (`reconcileEvent_of_shown`), an event that is
applied is shown afterwards (`shown_of_reconcileEvent`), and events that are
applied later keep the trace (`Shown.step`).

The last of the three has exceptions. A reservation that was offered by an
assignment and is then cancelled leaves an unbound completed attempt, which
does not show the assignment. A cancellation that found its attempt in
cleanup leaves no trace at all, so a late start may bind the job under it.
And the history of completed attempts is bounded, so that a release may push
out the attempt an earlier event of the same message is about.
-/

namespace Glaeda

variable {job : ScaleSetDeliveryJobEvidence} {identities : DerivedIdentities}

open Checked DisposableAttemptPhase DisposableAttemptState List Except
  ScaleSetDeliveryLifecycleEvent
open Sha256

/-! ## The trace of an event in an attempt -/

namespace DisposableAttemptState

variable {s n : DisposableAttemptState}

/-- **The attempt records the event.** -/
def Records (s : DisposableAttemptState) : ScaleSetDeliveryLifecycleEvent → Prop
  | .available _ => True
  | .assigned job => s.githubJobId = some job.jobId
      ∧ (s.phase = .assigned ∨ s.phase = .running ∨ s.phase = .terminal)
  | .started job runner => s.githubJobId = some job.jobId
      ∧ s.runnerId = some runner.id ∧ s.runnerName = runner.name
      ∧ s.runnerStartStarted = true ∧ lifecycleRank .running ≤ lifecycleRank s.phase
  | .completed job runner result => s.githubJobId = some job.jobId ∧ s.result = some result
      ∧ ∀ r, runner = some r → s.runnerId = some r.id ∧ s.runnerName = r.name

variable {event later : ScaleSetDeliveryLifecycleEvent}
variable {action : DisposableAttemptCatalogAction}

theorem validateJob_of_bound {jobId : ScaleSetJobId} (h : s.githubJobId = some jobId) :
    s.validateJob jobId = .ok () := by
  rw [validateJob_eq_ok]
  intro v hv
  exact Option.some.inj (hv.symm.trans h)

theorem validateRunner_of_bound {rn : ScaleSetRunnerReference}
    (hn : s.runnerName = rn.name) (hid : s.runnerId = some rn.id) :
    s.validateRunner rn = .ok rn.id := by
  rw [validateRunner_eq_ok]
  refine ⟨hn.symm, ?_, rfl⟩
  intro v hv
  exact Option.some.inj (hv.symm.trans hid)

/-- **Recording an event again changes nothing.** -/
theorem Records.perform (h : s.Records event) (ha : event.action = .ok action) :
    s.perform action = .ok s := by
  cases event with
  | available job => cases ha
  | assigned job =>
    obtain ⟨hjob, hph⟩ := h
    obtain rfl := ok.inj ha
    show s.recordAssigned job.jobId = .ok s
    unfold recordAssigned
    rw [validateJob_of_bound hjob, ok_bind]
    obtain hph | hph | hph := hph <;> rw [hph] <;> exact if_pos hjob
  | started job rn =>
    obtain ⟨hjob, hid, hn, hs, hph⟩ := h
    obtain rfl := Except.ok.inj ha
    show s.recordRunning rn job.jobId = .ok s
    unfold recordRunning
    rw [validateRunner_of_bound hn hid, ok_bind, hs]
    cases hp : s.phase <;> rw [hp] at hph <;>
      simp [lifecycleRank, refuseIf, validateJob_of_bound hjob, hid, hjob, pure, Except.pure,
        ok_bind] at hph ⊢
  | completed job rn res =>
    obtain ⟨hjob, hres, hrnr⟩ := h
    obtain rfl := ok.inj ha
    show s.recordTerminal rn job.jobId res = .ok s
    unfold recordTerminal
    cases rn with
    | none => simp [observeRunner, validateJob_of_bound hjob, hjob, hres, refuseIf, ok_bind]
    | some r =>
      obtain ⟨hid, hn⟩ := hrnr r rfl
      simp [observeRunner, validateRunner_of_bound hn hid, validateJob_of_bound hjob,
        hjob, hres, hid, refuseIf, ok_bind]

/-- **Recording an event leaves its trace**, and the phase is left alone or
is the one of the event. -/
theorem records_of_perform (ha : event.action = .ok action) (h : s.perform action = .ok n) :
    n.Records event ∧ (n.phase = s.phase
      ∨ n.phase = .assigned ∨ n.phase = .running ∨ n.phase = .terminal) := by
  cases event with
  | available job => cases ha
  | assigned job =>
    obtain rfl := ok.inj ha
    have hph : n.phase = .assigned ∨ n.phase = .running ∨ n.phase = .terminal := by
      obtain ⟨_, ⟨rfl, _, hph⟩ | ⟨_, h⟩⟩ := recordAssigned_cases h
      · exact hph
      · exact .inl (phase_of_advanceWith h)
    exact ⟨⟨recordAssigned_job h, hph⟩, .inr hph⟩
  | started job rn =>
    obtain rfl := ok.inj ha
    obtain ⟨hid, hnm, hjob⟩ := recordRunning_evidence h
    obtain ⟨-, -, -, hs, ⟨rfl, -, -, hph⟩ | ⟨-, -, phase, -, hph, h⟩⟩ :=
      recordRunning_cases h
    · exact ⟨⟨hjob, hid, hnm, hs, hph⟩, .inl rfl⟩
    · have hn := phase_of_advanceWith h
      refine ⟨⟨hjob, hid, hnm, ?_, ?_⟩, ?_⟩
      · rw [(advanceWith_eq_ok.mp h).2]
        exact hs
      · rw [hn]
        obtain rfl | ⟨-, rfl | rfl | rfl | rfl⟩ := hph <;> decide
      · obtain rfl | ⟨rfl, -⟩ := hph
        · exact .inr (.inr (.inl hn))
        · exact .inl hn
  | completed job rn res =>
    obtain rfl := ok.inj ha
    refine ⟨recordTerminal_evidence h, ?_⟩
    obtain ⟨-, -, ⟨rfl, -⟩ | ⟨-, -, -, h⟩⟩ := recordTerminal_cases h
    · exact .inl rfl
    · have hn := phase_of_advanceWith h
      split at hn
      · exact .inl hn
      · exact .inr (.inr (.inr hn))

/-- The end of a job no runner is named for is recorded on a bound attempt
only. -/
theorem bound_of_recordTerminal_none {jobId : ScaleSetJobId} {res : ScaleSetJobResult}
    (h : s.recordTerminal none jobId res = .ok n) : s.githubJobId ≠ none := by
  unfold recordTerminal at h
  simp only [bind_eq_ok, observeRunner, refuseIf_eq_ok] at h
  obtain ⟨_, hn, _, _, _, hbd, _⟩ := h
  obtain rfl := ok.inj hn
  simpa using hbd

theorem Records.githubJobId (h : s.Records event) (ha : event.action = .ok action) :
    s.githubJobId = some event.job.jobId := by
  cases event with
  | available job => cases ha
  | assigned job => exact h.1
  | started job rn => exact h.1
  | completed job rn res => exact h.1

theorem vmIdentity_ne_none (h : s.phase = .assigned ∨ s.phase = .running
    ∨ s.phase = .terminal) : s.vmIdentity ≠ none := by
  have he := s.evidence
  unfold AttemptRecord.validateEvidence at he
  obtain hp | hp | hp := h <;> intro hvm <;> simp [hp, hvm] at he

theorem vmIdentity_eq_none (h : s.phase = .reserved ∨ s.phase = .unprovisionedReleasing) :
    s.vmIdentity = none := by
  have he := s.evidence
  unfold AttemptRecord.validateEvidence at he
  obtain hp | hp := h <;> simp_all

/-- **Without a machine an event is recorded in cleanup only.** -/
theorem isCleanup_of_perform (hvm : s.vmIdentity = none)
    (ha : later.action = .ok action) (h : s.perform action = .ok n) :
    isCleanup s.phase := by
  obtain ⟨hr, hph⟩ := records_of_perform ha h
  have hj := hr.githubJobId ha
  have hn : n.vmIdentity = none := (vmIdentity_of_perform h).trans hvm
  obtain hph | hph := hph
  · have hl : ¬ lifecycleRank n.phase < lifecycleRank .assigned := by
      intro he
      rw [n.unrecorded.2.1 he] at hj
      cases hj
    have hb := mt vmIdentity_ne_none (not_not.mpr hn)
    rw [hph] at hl hb
    cases hp : s.phase <;> simp [hp, lifecycleRank, isCleanup] at hl hb ⊢
  · exact absurd hn (vmIdentity_ne_none hph)

/-- **Recording another event keeps the trace.** Runner, job and result are
written once; an assignment is also about the phase, which no event moves
into cleanup. -/
theorem Records.step (hs : s.Records event) (ha : later.action = .ok action)
    (h : s.perform action = .ok n) : n.Records event := by
  have he := extends_of_perform h
  cases event with
  | available job => trivial
  | assigned job =>
    refine ⟨he.githubJobId _ hs.1, ?_⟩
    obtain hph | hph := (records_of_perform ha h).2
    · rw [hph]
      exact hs.2
    · exact hph
  | started job rn =>
    obtain ⟨hj, hid, hn, hst, hph⟩ := hs
    exact ⟨he.githubJobId _ hj, he.runnerId _ hid, he.runnerName.trans hn,
      he.runnerStartStarted hst, hph.trans he.phase⟩
  | completed job rn res =>
    obtain ⟨hj, hres, hrnr⟩ := hs
    refine ⟨he.githubJobId _ hj, he.result _ hres, ?_⟩
    intro r hr
    obtain ⟨hid, hn⟩ := hrnr r hr
    exact ⟨he.runnerId _ hid, he.runnerName.trans hn⟩

end DisposableAttemptState

/-! ## Identities of a job -/

/-- The attempt is the one for the job. -/
structure Serves (attempt : DisposableAttemptState) (job : ScaleSetDeliveryJobEvidence)
    (identities : DerivedIdentities) : Prop where
  attemptId : attempt.attemptId = identities.attemptId
  claimId : attempt.capacityClaimId = identities.claimId
  vmId : attempt.vmId = identities.vmId
  runnerName : attempt.runnerName = identities.runnerName
  request : attempt.runnerRequestId = job.runnerRequestId
  jobId : ∀ v, attempt.githubJobId = some v → v = job.jobId

theorem validateAttempt_eq_ok {attempt : DisposableAttemptState} :
    validateAttempt attempt job identities = .ok () ↔ Serves attempt job identities := by
  unfold validateAttempt
  rw [refuseIf_eq_ok]
  simp only [not_or, not_not, ne_eq, not_exists, not_and]
  exact ⟨fun ⟨h₁, h₂, h₃, h₄, h₅, h₆⟩ => ⟨h₁, h₂, h₃, h₄, h₅, h₆⟩,
    fun ⟨h₁, h₂, h₃, h₄, h₅, h₆⟩ => ⟨h₁, h₂, h₃, h₄, h₅, h₆⟩⟩

theorem Serves.of_extends {attempt later : DisposableAttemptState}
    (h : Serves attempt job identities) (he : Extends attempt later)
    (hj : ∀ v, later.githubJobId = some v → v = job.jobId) :
    Serves later job identities where
  attemptId := he.attemptId.trans h.attemptId
  claimId := he.capacityClaimId.trans h.claimId
  vmId := he.vmId.trans h.vmId
  runnerName := he.runnerName.trans h.runnerName
  request := he.runnerRequestId.trans h.request
  jobId := hj

/-- The reservation is the one the policy makes for the job. -/
structure Reserves (policy : ScaleSetDeliveryConsumerPolicy)
    (reservation : DisposableAttemptReservation) (job : ScaleSetDeliveryJobEvidence)
    (identities : DerivedIdentities) : Prop where
  serves : Serves reservation.attempt job identities
  resources : reservation.resources = policy.resources
  template : reservation.preparedTemplateIdentity = policy.preparedTemplateIdentity

theorem validateReservation_eq_ok {policy : ScaleSetDeliveryConsumerPolicy}
    {reservation : DisposableAttemptReservation} :
    policy.validateReservation reservation job identities = .ok ()
      ↔ Reserves policy reservation job identities := by
  unfold ScaleSetDeliveryConsumerPolicy.validateReservation
  rw [guard_bind_eq_ok, validateAttempt_eq_ok, refuseIf_eq_ok]
  simp only [not_or, not_not, ne_eq]
  exact ⟨fun ⟨h₁, h₂, h₃⟩ => ⟨h₁, h₂, h₃⟩, fun ⟨h₁, h₂, h₃⟩ => ⟨h₁, h₂, h₃⟩⟩

/-- **A field of a message is read back**, whatever follows it. -/
theorem hashField_append_inj {v w rest rest' : List UInt8} (hv : v.length < u64Size)
    (hw : w.length < u64Size) (h : hashField v ++ rest = hashField w ++ rest') : v = w := by
  unfold hashField at h
  rw [append_assoc, append_assoc] at h
  obtain ⟨hl, h⟩ := append_inj h (by rw [length_beBytes, length_beBytes])
  have hs : u64Size = 256 ^ 8 := rfl
  have hl := eq_of_beBytes_eq (by omega) (by omega) hl
  exact (append_inj h (by omega)).1

theorem ScaleSetJobId.ascii (jobId : ScaleSetJobId) :
    jobId.value.toList.length ≤ maxJobIdLen ∧ ∀ c ∈ jobId.value.toList, c.toNat < 128 := by
  have hv := jobId.valid
  unfold isJobId at hv
  simp only [Bool.and_eq_true, decide_eq_true_eq, all_eq_true, isAsciiGraphic] at hv
  refine ⟨hv.1.2, fun c hc => ?_⟩
  have := hv.2 c hc
  omega

theorem ScaleSetJobId.eq_of_textBytes_eq {a b : ScaleSetJobId}
    (h : textBytes a.value = textBytes b.value) : a = b := by
  have hl := Json.eq_of_utf8_eq a.ascii.2 b.ascii.2 h
  cases a
  congr 1
  exact String.toList_inj.mp hl

theorem ScaleSetJobId.length_textBytes_lt (jobId : ScaleSetJobId) :
    (textBytes jobId.value).length < u64Size := by
  unfold textBytes
  rw [Json.length_utf8 jobId.ascii.2]
  exact lt_of_le_of_lt jobId.ascii.1 (by decide)

namespace ScaleSetDeliveryConsumerPolicy

variable {policy : ScaleSetDeliveryConsumerPolicy}
variable {job job' : ScaleSetDeliveryJobEvidence} {identities : DerivedIdentities}

theorem validateJob_eq_ok :
    policy.validateJob job = .ok () ↔ job.repository = policy.repository
      ∧ job.owner = policy.owner ∧ sortLabels job.requestLabels = policy.requestLabels := by
  unfold validateJob
  rw [refuseIf_eq_ok]
  simp only [not_or, not_not, ne_eq]

/-- **The message names the job**: two enrolled jobs of one request with the
same message are one job. -/
theorem jobId_eq_of_identityMessage_eq (hj : policy.validateJob job = .ok ())
    (hj' : policy.validateJob job' = .ok ())
    (hreq : job.runnerRequestId = job'.runnerRequestId)
    (h : policy.identityMessage job = policy.identityMessage job') : job.jobId = job'.jobId := by
  obtain ⟨hr, ho, -⟩ := validateJob_eq_ok.mp hj
  obtain ⟨hr', ho', -⟩ := validateJob_eq_ok.mp hj'
  unfold identityMessage at h
  rw [hreq, hr, ho, hr', ho'] at h
  simp only [append_assoc, append_cancel_left_eq] at h
  exact ScaleSetJobId.eq_of_textBytes_eq
    (hashField_append_inj job.jobId.length_textBytes_lt job'.jobId.length_textBytes_lt h)

theorem claimId_of_deriveIdentities (h : policy.deriveIdentities job = .ok identities) :
    identities.claimId.value
      = String.ofList ("claim-".toList ++ hexDigest (policy.identityMessage job)) := by
  unfold deriveIdentities at h
  simp only [bind_eq_ok, pure_eq_ok, mapError_eq_ok] at h
  obtain ⟨_, _, claimId, hc, _, _, _, _, h⟩ := h
  obtain rfl := ok.inj h
  unfold Identifier.parse at hc
  split at hc
  · obtain rfl := ok.inj hc
    rfl
  · cases hc

end ScaleSetDeliveryConsumerPolicy

/-! ## The trace of an event in a catalog -/

/-- A job is available or assigned. -/
def ScaleSetDeliveryLifecycleEvent.isOffer : ScaleSetDeliveryLifecycleEvent → Bool
  | .available _ | .assigned _ => true
  | .started _ _ | .completed _ _ _ => false

/-- An attempt at which a cancellation of its unbound job finds nothing left
to do: whether the machine was cloned is open, or it is being cleaned up. -/
def CancellationSettled (attempt : DisposableAttemptState) : Prop :=
  (attempt.phase = .cloneStarted ∧ attempt.vmIdentity = none)
    ∨ attempt.phase = .unprovisionedReleasing ∨ isCleanup attempt.phase

/-- **An active attempt shows the event.** -/
def ActiveShows (observedAt : EpochMillis) (attempt : DisposableAttemptState) :
    ScaleSetDeliveryLifecycleEvent → Prop
  | .available _ => attemptNotAfter observedAt = .ok attempt.notAfter
  | .assigned job => (attempt.phase = .reserved ∧ attempt.githubJobId = none
        ∧ attemptNotAfter observedAt = .ok attempt.notAfter)
      ∨ attempt.Records (.assigned job)
  | .started job runner => attempt.Records (.started job runner)
  | .completed job runner result =>
      (isUnboundRunnerlessCancellation (.completed job runner result) attempt = true
        ∧ CancellationSettled attempt)
      ∨ attempt.Records (.completed job runner result)

/-- **A completed attempt shows the event.** -/
def CompletedShows (observedAt : EpochMillis) (attempt : DisposableAttemptState)
    (event : ScaleSetDeliveryLifecycleEvent) : Prop :=
  (event.isAvailable = true → attemptNotAfter observedAt = .ok attempt.notAfter)
    ∧ tombstoneEventValid attempt event

section Shown

variable (policy : ScaleSetDeliveryConsumerPolicy) (observedAt : EpochMillis)

/-- **What is found under the request of an event shows it**: the active
reservation, or else the completed attempt. -/
inductive EntryShows (event : ScaleSetDeliveryLifecycleEvent) (identities : DerivedIdentities) :
    Option DisposableAttemptReservation → Option DisposableAttemptState → Prop
  | active {r : DisposableAttemptReservation} {tombstone : Option DisposableAttemptState}
      (reserves : Reserves policy r event.job identities)
      (shows : ActiveShows observedAt r.attempt event) :
      EntryShows event identities (some r) tombstone
  | completed {a : DisposableAttemptState} (serves : Serves a event.job identities)
      (shows : CompletedShows observedAt a event) :
      EntryShows event identities none (some a)

/-- The event is about an enrolled job with these identities, and its
deadline can be computed. -/
structure EventAccepted (event : ScaleSetDeliveryLifecycleEvent) (identities : DerivedIdentities) :
    Prop where
  enrolled : policy.validateJob event.job = .ok ()
  derived : policy.deriveIdentities event.job = .ok identities
  deadline : event.isOffer = true → ∃ notAfter, attemptNotAfter observedAt = .ok notAfter

/-- **The catalog shows the event.** -/
def Shown (event : ScaleSetDeliveryLifecycleEvent) (c : DisposableAttemptCatalogDocument) : Prop :=
  ∃ identities, EventAccepted policy observedAt event identities
    ∧ EntryShows policy observedAt event identities
      (c.findActiveByRunnerRequestId event.job.runnerRequestId)
      (c.findTombstoneByRunnerRequestId event.job.runnerRequestId)

/-- **What an event does to a catalog.** -/
inductive EventEffect (event : ScaleSetDeliveryLifecycleEvent) (identities : DerivedIdentities)
    (c : DisposableAttemptCatalogDocument) : DisposableAttemptCatalogDocument → Prop
  | kept
      (shows : EntryShows policy observedAt event identities
        (c.findActiveByRunnerRequestId event.job.runnerRequestId)
        (c.findTombstoneByRunnerRequestId event.job.runnerRequestId)) :
      EventEffect event identities c c
  | reserved {r : DisposableAttemptReservation} {n : DisposableAttemptCatalogDocument}
      (active : c.findActiveByRunnerRequestId event.job.runnerRequestId = none)
      (tombstone : c.findTombstoneByRunnerRequestId event.job.runnerRequestId = none)
      (offer : event.isOffer = true) (reserves : Reserves policy r event.job identities)
      (phase : r.attempt.phase = .reserved) (unbound : r.attempt.githubJobId = none)
      (notAfter : attemptNotAfter observedAt = .ok r.attempt.notAfter)
      (appended : c.Appended r n) : EventEffect event identities c n
  | recorded {r : DisposableAttemptReservation} {a : DisposableAttemptState}
      {action : DisposableAttemptCatalogAction} {n : DisposableAttemptCatalogDocument}
      (found : c.findActiveByRunnerRequestId event.job.runnerRequestId = some r)
      (reserves : Reserves policy r event.job identities)
      (action_eq : event.action = .ok action)
      (bound : isUnboundRunnerlessCancellation event r.attempt = false)
      (performed : r.attempt.perform action = .ok a)
      (replaced : c.Replaced r a n) : EventEffect event identities c n
  | cleanup {r : DisposableAttemptReservation} {a : DisposableAttemptState}
      {n : DisposableAttemptCatalogDocument}
      (found : c.findActiveByRunnerRequestId event.job.runnerRequestId = some r)
      (reserves : Reserves policy r event.job identities)
      (cancelled : isUnboundRunnerlessCancellation event r.attempt = true)
      (performed : r.attempt.perform .beginCleanup = .ok a)
      (replaced : c.Replaced r a n) : EventEffect event identities c n
  | released {r : DisposableAttemptReservation} {a : DisposableAttemptState}
      {n : DisposableAttemptCatalogDocument}
      (found : c.findActiveByRunnerRequestId event.job.runnerRequestId = some r)
      (reserves : Reserves policy r event.job identities)
      (cancelled : isUnboundRunnerlessCancellation event r.attempt = true)
      (unbound : a.githubJobId = none ∧ a.result = none) (phase : a.phase = .complete)
      (extended : Extends r.attempt a) (released : c.Released r a n) :
      EventEffect event identities c n

end Shown

/-! ## An event that is shown changes nothing -/

section Effects

variable {policy : ScaleSetDeliveryConsumerPolicy} {observedAt : EpochMillis}
variable {event : ScaleSetDeliveryLifecycleEvent} {identities : DerivedIdentities}
variable {c n : DisposableAttemptCatalogDocument} {r : DisposableAttemptReservation}
variable {action : DisposableAttemptCatalogAction} {q : ScaleSetRunnerRequestId}
variable {s t a b : DisposableAttemptState} {later earlier : ScaleSetDeliveryLifecycleEvent}
variable {events : List ScaleSetDeliveryLifecycleEvent} {delivery : ScaleSetDelivery}

open ScaleSetDeliveryConsumerPolicy DisposableAttemptCatalogDocument

theorem recordEvent_of_records (hf : c.findActiveByRunnerRequestId q = some r)
    (ha : event.action = .ok action) (h : r.attempt.Records event) :
    recordEvent event c r = .ok c := by
  unfold recordEvent
  rw [ha, ok_bind, replaceAttempt_of_perform_self
    (findActive_of_findActiveByRunnerRequestId hf) (h.perform ha)]
  rfl

theorem reconcileUnboundCancellation_of_settled (h : CancellationSettled r.attempt) :
    reconcileUnboundCancellation c r = .ok c := by
  unfold reconcileUnboundCancellation
  obtain ⟨hph, hvm⟩ | hph | hph | hph | hph | hph := h <;> simp [*]

theorem reconcileOffer_of_shows (ho : event.isOffer = true)
    (hd : ∃ notAfter, attemptNotAfter observedAt = .ok notAfter)
    (h : EntryShows policy observedAt event identities
      (c.findActiveByRunnerRequestId event.job.runnerRequestId)
      (c.findTombstoneByRunnerRequestId event.job.runnerRequestId)) :
    policy.reconcileOffer event identities c observedAt = .ok c := by
  obtain ⟨notAfter, hn⟩ := hd
  unfold reconcileOffer
  rw [hn, ok_bind]
  generalize hact : c.findActiveByRunnerRequestId event.job.runnerRequestId = active at h
  generalize c.findTombstoneByRunnerRequestId event.job.runnerRequestId = tombstone at h
  cases h with
  | @active r _ reserves shows =>
    simp only [validateReservation_eq_ok.mpr reserves, ok_bind]
    cases event with
    | available job =>
      have : r.attempt.notAfter = notAfter := ok.inj (shows.symm.trans hn)
      simp [isAvailable, refuseIf, this, ok_bind]
    | assigned job =>
      obtain ⟨hph, hunb, hs⟩ | hr := shows
      · have : r.attempt.notAfter = notAfter := ok.inj (hs.symm.trans hn)
        simp [hph, hunb, refuseIf, this, ok_bind]
      · rw [if_neg]
        · exact recordEvent_of_records hact rfl hr
        · rintro (ha | ⟨hph, -⟩)
          · cases ha
          · have := hr.2
            simp [hph] at this
    | started job rn => cases ho
    | completed job rn res => cases ho
  | @completed a serves shows =>
    have hs : ¬ (event.isAvailable = true ∧ a.notAfter ≠ notAfter) := by
      rintro ⟨ha, hne⟩
      exact hne (ok.inj ((shows.1 ha).symm.trans hn))
    simp only [validateAttempt_eq_ok.mpr serves, ok_bind, refuseIf_of_not hs,
      validateTombstoneEvent, refuseIf_not shows.2]
    rfl

theorem reconcileProgress_of_shows (hp : event.isOffer = false)
    (h : EntryShows policy observedAt event identities
      (c.findActiveByRunnerRequestId event.job.runnerRequestId)
      (c.findTombstoneByRunnerRequestId event.job.runnerRequestId)) :
    policy.reconcileProgress event identities c = .ok c := by
  unfold reconcileProgress
  generalize hact : c.findActiveByRunnerRequestId event.job.runnerRequestId = active at h
  generalize c.findTombstoneByRunnerRequestId event.job.runnerRequestId = tombstone at h
  cases h with
  | @active r _ reserves shows =>
    simp only [validateReservation_eq_ok.mpr reserves, ok_bind]
    cases event with
    | available job => cases hp
    | assigned job => cases hp
    | started job rn =>
      rw [if_neg (by simp [isUnboundRunnerlessCancellation, isRunnerlessCancellation])]
      exact recordEvent_of_records hact rfl shows
    | completed job rn res =>
      obtain ⟨hc, hs⟩ | hr := shows
      · rw [if_pos hc]
        exact reconcileUnboundCancellation_of_settled hs
      · rw [if_neg (by simp [isUnboundRunnerlessCancellation, hr.1])]
        exact recordEvent_of_records hact rfl hr
  | @completed a serves shows =>
    simp only [validateAttempt_eq_ok.mpr serves, ok_bind, validateTombstoneEvent,
      refuseIf_not shows.2]
    rfl

/-- **An event the catalog shows changes nothing.** -/
theorem reconcileEvent_of_shown (h : Shown policy observedAt event c) :
    policy.reconcileEvent event c observedAt = .ok c := by
  obtain ⟨identities, accepted, shows⟩ := h
  unfold reconcileEvent
  rw [accepted.enrolled, ok_bind, accepted.derived, ok_bind]
  cases event with
  | available job | assigned job => exact reconcileOffer_of_shows rfl (accepted.deadline rfl) shows
  | started job rn | completed job rn res => exact reconcileProgress_of_shows rfl shows

/-! ## What one event can do -/

theorem activeShows_of_records (ha : event.action = .ok action)
    (h : a.Records event) : ActiveShows observedAt a event := by
  cases event with
  | available job => cases ha
  | assigned job => exact .inr h
  | started job rn => exact h
  | completed job rn res => exact .inr h

theorem effect_of_recordEvent
    (hf : c.findActiveByRunnerRequestId event.job.runnerRequestId = some r)
    (hrsv : Reserves policy r event.job identities)
    (hbd : isUnboundRunnerlessCancellation event r.attempt = false)
    (h : recordEvent event c r = .ok n) : EventEffect policy observedAt event identities c n := by
  unfold recordEvent at h
  simp only [bind_eq_ok, mapError_eq_ok] at h
  obtain ⟨action, ha, h⟩ := h
  obtain ⟨r', a, hr', -, hp, hc⟩ := replaceAttempt_cases h
  rw [findActive_of_findActiveByRunnerRequestId hf] at hr'
  obtain rfl := Option.some.inj hr'
  obtain ⟨rfl, rfl⟩ | ⟨-, hrep⟩ := hc
  · -- the attempt recorded the event already
    refine .kept ?_
    rw [hf]
    exact .active hrsv (activeShows_of_records ha (records_of_perform ha hp).1)
  · exact .recorded hf hrsv ha hbd hp hrep

theorem cancellationSettled_of_beginCleanup
    (h : s.perform .beginCleanup = .ok t) : CancellationSettled t := by
  obtain ⟨rfl, hc⟩ | ⟨-, h⟩ := beginCleanup_cases h
  · exact .inr (.inr hc)
  · exact .inr (.inr (.inl (phase_of_advanceWith h)))

theorem unbound_of_completeUnprovisioned (h : s.perform .completeUnprovisioned = .ok t) :
    (t.githubJobId = none ∧ t.result = none) ∧ t.phase = .complete := by
  rw [(advanceWith_eq_ok.mp (completeUnprovisioned_eq_ok h).2).2]
  exact ⟨⟨rfl, rfl⟩, rfl⟩

theorem released_of_replaceAttempt {attemptId : DisposableAttemptId}
    {revision : DisposableAttemptRevision}
    (hf : c.findActive attemptId = some r)
    (h : c.replaceAttempt attemptId revision action = .ok n) :
    ∃ a, r.attempt.perform action = .ok a ∧ n.findActive attemptId = some { r with attempt := a }
      ∧ ∀ b m, n.Released { r with attempt := a } b m → c.Released r b m := by
  obtain ⟨r', a, hr', -, hp, hc⟩ := replaceAttempt_cases h
  rw [hf] at hr'
  obtain rfl := Option.some.inj hr'
  refine ⟨a, hp, ?_⟩
  obtain ⟨rfl, rfl⟩ | ⟨-, hrep⟩ := hc
  · exact ⟨hf, fun b m hrel => hrel⟩
  · have he := extends_of_perform hp
    refine ⟨?_, fun b m hrel => hrep.released he.runnerRequestId hrel⟩
    rw [← attemptId_of_findActive hf]
    exact hrep.findActive he.attemptId

/-- **Retiring an attempt without a machine** releases it, unbound. -/
theorem retireUnprovisionedCancellation_cases (hf : c.findActive r.attempt.attemptId = some r)
    (h : retireUnprovisionedCancellation c r = .ok n) :
    ∃ a, (a.githubJobId = none ∧ a.result = none) ∧ a.phase = .complete
      ∧ Extends r.attempt a ∧ c.Released r a n := by
  unfold retireUnprovisionedCancellation releaseUnprovisioned at h
  simp only [bind_eq_ok, mapError_eq_ok, okOr_eq_ok] at h
  obtain ⟨d, hd, s, hs, e, he, t, ht, h⟩ := h
  obtain ⟨a, ha, hf', hst⟩ := released_of_replaceAttempt hf hd
  obtain ⟨b, hb, hf'', hst'⟩ := released_of_replaceAttempt hf' he
  obtain ⟨r', hr', -, -, hret⟩ := retireComplete_cases h
  rw [hf''] at hr'
  obtain rfl := Option.some.inj hr'
  obtain ⟨hu, hph⟩ := unbound_of_completeUnprovisioned hb
  exact ⟨b, hu, hph, (extends_of_perform ha).trans (extends_of_perform hb),
    hst _ _ (hst' _ _ hret.released)⟩

theorem effect_of_reconcileUnboundCancellation
    (hfnd : c.findActiveByRunnerRequestId event.job.runnerRequestId = some r)
    (hrsv : Reserves policy r event.job identities)
    (hc : isUnboundRunnerlessCancellation event r.attempt = true)
    (h : reconcileUnboundCancellation c r = .ok n) :
    EventEffect policy observedAt event identities c n := by
  have hact := findActive_of_findActiveByRunnerRequestId hfnd
  -- the three outcomes: released, nothing to do, cleanup
  have hrel : retireUnprovisionedCancellation c r = .ok n →
      EventEffect policy observedAt event identities c n := by
    intro h
    obtain ⟨a, hunb, hph, hext, hrel⟩ := retireUnprovisionedCancellation_cases hact h
    exact .released hfnd hrsv hc hunb hph hext hrel
  have hk : CancellationSettled r.attempt →
      EventEffect policy observedAt event identities c c := by
    intro hs
    refine .kept ?_
    rw [hfnd]
    refine .active hrsv ?_
    cases event with
    | completed job rn res => exact .inl ⟨hc, hs⟩
    | _ => simp [isUnboundRunnerlessCancellation, isRunnerlessCancellation] at hc
  have hcl : (c.replaceAttempt r.attempt.attemptId r.attempt.revision
      .beginCleanup).mapError (fun _ => eventConflict) = .ok n →
      EventEffect policy observedAt event identities c n := by
    intro h
    rw [mapError_eq_ok] at h
    obtain ⟨r', a, hr', -, hp, hcs⟩ := replaceAttempt_cases h
    rw [hact] at hr'
    obtain rfl := Option.some.inj hr'
    obtain ⟨rfl, rfl⟩ | ⟨-, hrep⟩ := hcs
    · exact hk (cancellationSettled_of_beginCleanup hp)
    · exact .cleanup hfnd hrsv hc hp hrep
  unfold reconcileUnboundCancellation at h
  split at h
  case h_1 | h_2 => exact hrel h
  case h_3 hph =>
    split at h
    · rename_i hvm
      obtain rfl := ok.inj h
      exact hk (.inl ⟨hph, Option.isNone_iff_eq_none.mp hvm⟩)
    · exact hcl h
  case h_4 | h_5 => exact hcl h
  case h_6 hph | h_7 hph | h_8 hph | h_9 hph | h_10 hph =>
    obtain rfl := ok.inj h
    exact hk (by simp [CancellationSettled, isCleanup, hph])
  all_goals cases h

theorem effect_of_reconcileOffer (ho : event.isOffer = true)
    (h : policy.reconcileOffer event identities c observedAt = .ok n) :
    (∃ notAfter, attemptNotAfter observedAt = .ok notAfter)
      ∧ EventEffect policy observedAt event identities c n := by
  unfold reconcileOffer at h
  rw [bind_eq_ok] at h
  obtain ⟨notAfter, hn, h⟩ := h
  refine ⟨⟨notAfter, hn⟩, ?_⟩
  split at h
  · rename_i existing _ hfnd
    rw [guard_bind_eq_ok, validateReservation_eq_ok] at h
    obtain ⟨hrsv, h⟩ := h
    split at h
    · -- the job is offered again
      rename_i hag
      rw [refuseIf_bind_eq_ok, not_not] at h
      obtain ⟨hs, h⟩ := h
      obtain rfl := ok.inj h
      refine .kept ?_
      rw [hfnd]
      refine .active hrsv ?_
      rw [← hs] at hn
      cases event with
      | available job => exact hn
      | assigned job =>
        obtain ha | ⟨hph, hunb⟩ := hag
        · cases ha
        · exact .inl ⟨hph, Option.isNone_iff_eq_none.mp hunb, hn⟩
      | started job rn => cases ho
      | completed job rn res => cases ho
    · refine effect_of_recordEvent hfnd hrsv ?_ h
      cases event with
      | available job | assigned job =>
        simp [isUnboundRunnerlessCancellation, isRunnerlessCancellation]
      | started job rn => cases ho
      | completed job rn res => cases ho
  · rename_i existing hnone hfnd
    rw [guard_bind_eq_ok, validateAttempt_eq_ok, refuseIf_bind_eq_ok,
      guard_bind_eq_ok, validateTombstoneEvent, refuseIf_eq_ok, not_not] at h
    obtain ⟨hsr, hs, hval, h⟩ := h
    obtain rfl := ok.inj h
    refine .kept ?_
    rw [hnone, hfnd]
    refine .completed hsr ⟨fun ha => ?_, hval⟩
    rw [not_and, not_not] at hs
    rw [hs ha, hn]
  · rename_i hact ht
    unfold reserveJob at h
    simp only [bind_eq_ok, mapError_eq_ok, refuseIf_eq_ok, DisposableAttemptReservation.new] at h
    obtain ⟨_, _, _, _, r, ⟨_, _, hr⟩, h⟩ := h
    obtain rfl := ok.inj hr
    obtain ⟨hfnd, -⟩ | ⟨-, happ⟩ := reserve_cases h
    · -- it would have been found under its request
      have hreq := findActiveByRunnerRequestId_of_findActive hfnd
      change c.findActiveByRunnerRequestId event.job.runnerRequestId = _ at hreq
      rw [hact] at hreq
      cases hreq
    · exact .reserved hact ht ho
        ⟨⟨rfl, rfl, rfl, rfl, rfl, fun v hv => by cases hv⟩, rfl, rfl⟩ rfl rfl hn
        happ

theorem effect_of_reconcileProgress (h : policy.reconcileProgress event identities c = .ok n)
    (hp : event.isOffer = false) : EventEffect policy observedAt event identities c n := by
  unfold reconcileProgress at h
  split at h
  · rename_i existing _ hf
    rw [guard_bind_eq_ok, validateReservation_eq_ok] at h
    obtain ⟨hr, h⟩ := h
    split at h
    · rename_i hc
      exact effect_of_reconcileUnboundCancellation hf hr hc h
    · rename_i hbd
      exact effect_of_recordEvent hf hr (Bool.eq_false_of_not_eq_true hbd) h
  · rename_i existing hn hf
    rw [guard_bind_eq_ok, validateAttempt_eq_ok, guard_bind_eq_ok, validateTombstoneEvent,
      refuseIf_eq_ok, not_not] at h
    obtain ⟨hs, hv, h⟩ := h
    obtain rfl := ok.inj h
    refine .kept ?_
    rw [hn, hf]
    refine .completed hs ⟨fun ha => ?_, hv⟩
    cases event with
    | available job => cases hp
    | _ => cases ha
  · cases h

/-- **What one event can do**, with every check it passed. -/
theorem effect_of_reconcileEvent (h : policy.reconcileEvent event c observedAt = .ok n) :
    ∃ identities, EventAccepted policy observedAt event identities
      ∧ EventEffect policy observedAt event identities c n := by
  unfold reconcileEvent at h
  rw [guard_bind_eq_ok, bind_eq_ok] at h
  obtain ⟨he, identities, hder, h⟩ := h
  refine ⟨identities, ?_⟩
  cases event with
  | available job | assigned job =>
    obtain ⟨hd, heff⟩ := effect_of_reconcileOffer rfl h
    exact ⟨⟨he, hder, fun _ => hd⟩, heff⟩
  | started job rn | completed job rn res =>
    exact ⟨⟨he, hder, fun ho => nomatch ho⟩, effect_of_reconcileProgress h rfl⟩

/-! ## The trace one event leaves -/

theorem find_of_replaced
    (hf : c.findActiveByRunnerRequestId q = some r) (he : Extends r.attempt a)
    (h : c.Replaced r a n) :
    n.findActiveByRunnerRequestId q = some { r with attempt := a } := by
  rw [h.findActiveByRunnerRequestId he.runnerRequestId,
    if_pos (runnerRequestId_of_findActive hf)]

theorem find_of_released (hf : c.findActiveByRunnerRequestId q = some r) (h : c.Released r a n) :
    n.findActiveByRunnerRequestId q = none ∧ n.findTombstoneByRunnerRequestId q = some a := by
  obtain rfl := runnerRequestId_of_findActive hf
  exact ⟨by rw [h.active, if_pos rfl], h.findTombstone_self⟩

theorem unboundCancellation_iff :
    isUnboundRunnerlessCancellation event a = true
      ↔ a.githubJobId = none ∧ event.isRunnerlessCancellation = true := by
  rw [isUnboundRunnerlessCancellation, Bool.and_eq_true, Option.isNone_iff_eq_none]

theorem eq_of_isRunnerlessCancellation (h : event.isRunnerlessCancellation = true) :
    ∃ job res, event = .completed job none res ∧ res.value = "canceled" := by
  unfold isRunnerlessCancellation at h
  split at h
  · rename_i job res
    exact ⟨job, res, rfl, of_decide_eq_true h⟩
  · cases h

theorem githubJobId_of_beginCleanup
    (h : s.perform .beginCleanup = .ok t) : t.githubJobId = s.githubJobId := by
  obtain ⟨rfl, -⟩ | ⟨-, h⟩ := beginCleanup_cases h
  · rfl
  · rw [(advanceWith_eq_ok.mp h).2]

theorem activeShows_of_cleanup (hcn : isUnboundRunnerlessCancellation event a = true)
    (h : a.perform .beginCleanup = .ok b) : ActiveShows observedAt b event := by
  obtain ⟨hu, hc⟩ := unboundCancellation_iff.mp hcn
  have hb : isUnboundRunnerlessCancellation event b = true :=
    unboundCancellation_iff.mpr ⟨(githubJobId_of_beginCleanup h).trans hu, hc⟩
  obtain ⟨job, res, rfl, -⟩ := eq_of_isRunnerlessCancellation hc
  exact .inl ⟨hb, cancellationSettled_of_beginCleanup h⟩

theorem completedShows_of_cancellation (hc : event.isRunnerlessCancellation = true)
    (hu : a.githubJobId = none ∧ a.result = none) (hph : a.phase = .complete) :
    CompletedShows observedAt a event := by
  obtain ⟨job, res, rfl, hr⟩ := eq_of_isRunnerlessCancellation hc
  refine ⟨fun ha => ?_, .inr ⟨hph, hu.1, hu.2, rfl, hr⟩⟩
  cases ha

/-- **An event that is applied is shown afterwards.** -/
theorem EventEffect.shows (h : EventEffect policy observedAt event identities c n) :
    EntryShows policy observedAt event identities
      (n.findActiveByRunnerRequestId event.job.runnerRequestId)
      (n.findTombstoneByRunnerRequestId event.job.runnerRequestId) := by
  cases h with
  | kept shows => exact shows
  | @reserved r _ _ _ offer reserves phase unbound notAfter appended =>
    rw [appended.findActiveByRunnerRequestId, if_pos reserves.serves.request]
    refine .active reserves ?_
    cases event with
    | available job => exact notAfter
    | assigned job => exact .inl ⟨phase, unbound, notAfter⟩
    | started job rn => cases offer
    | completed job rn res => cases offer
  | recorded found reserves action_eq _ performed replaced =>
    have hext := extends_of_perform performed
    have hr := (records_of_perform action_eq performed).1
    rw [find_of_replaced found hext replaced]
    refine .active ⟨reserves.serves.of_extends hext ?_, reserves.resources,
      reserves.template⟩ (activeShows_of_records action_eq hr)
    intro v hv
    exact Option.some.inj (hv.symm.trans (hr.githubJobId action_eq))
  | cleanup found reserves cancelled performed replaced =>
    have hext := extends_of_perform performed
    rw [find_of_replaced found hext replaced]
    refine .active ⟨reserves.serves.of_extends hext ?_, reserves.resources,
      reserves.template⟩ (activeShows_of_cleanup cancelled performed)
    intro v hv
    exact reserves.serves.jobId v ((githubJobId_of_beginCleanup performed).symm.trans hv)
  | released found reserves cancelled unbound phase extended released =>
    obtain ⟨hact, ht⟩ := find_of_released found released
    rw [hact, ht]
    refine .completed (reserves.serves.of_extends extended ?_)
      (completedShows_of_cancellation (unboundCancellation_iff.mp cancelled).2 unbound phase)
    intro v hv
    rw [unbound.1] at hv
    cases hv

theorem shown_of_reconcileEvent (h : policy.reconcileEvent event c observedAt = .ok n) :
    Shown policy observedAt event n := by
  obtain ⟨identities, accepted, he⟩ := effect_of_reconcileEvent h
  exact ⟨identities, accepted, he.shows⟩

/-! ## Later events keep the trace -/

/-- A job runs, or ran to its end. -/
def ScaleSetDeliveryLifecycleEvent.isUncancelledRun : ScaleSetDeliveryLifecycleEvent → Bool
  | .started _ _ => true
  | .completed _ (some _) result => result.value ≠ "canceled"
  | _ => false

/-- A job is assigned. -/
def ScaleSetDeliveryLifecycleEvent.isAssigned : ScaleSetDeliveryLifecycleEvent → Bool
  | .assigned _ => true
  | _ => false

/-- **No machine was ever cloned for the request**: nothing is known of it,
or its attempt is still reserved. -/
def Unprovisioned (c : DisposableAttemptCatalogDocument) (q : ScaleSetRunnerRequestId) : Prop :=
  c.findTombstoneByRunnerRequestId q = none
    ∧ ∀ r ∈ c.findActiveByRunnerRequestId q, r.attempt.phase = .reserved

/-- **No job is bound to an attempt of the request**, active or completed. -/
def Unbound (c : DisposableAttemptCatalogDocument) (q : ScaleSetRunnerRequestId) : Prop :=
  (∀ a ∈ c.findTombstoneByRunnerRequestId q, a.githubJobId = none)
    ∧ ∀ r ∈ c.findActiveByRunnerRequestId q, r.attempt.githubJobId = none

/-- **The later event keeps the trace of the earlier one**: an assignment of
a job without a machine is not followed by its cancellation, and the
cancellation of an unbound job is not followed by evidence that it ran. -/
def KeepsTrace (c : DisposableAttemptCatalogDocument)
    (earlier later : ScaleSetDeliveryLifecycleEvent) : Prop :=
  later.job.runnerRequestId = earlier.job.runnerRequestId →
    (earlier.isAssigned = true → later.isRunnerlessCancellation = true →
      ¬ Unprovisioned c earlier.job.runnerRequestId)
    ∧ (earlier.isRunnerlessCancellation = true → later.isUncancelledRun = true →
      ¬ Unbound c earlier.job.runnerRequestId)

/-- **The event releases its request**, which has an active attempt before it
and none after it. -/
def ScaleSetDeliveryLifecycleEvent.releases (event : ScaleSetDeliveryLifecycleEvent)
    (c n : DisposableAttemptCatalogDocument) : Bool :=
  (c.findActiveByRunnerRequestId event.job.runnerRequestId).isSome
    && (n.findActiveByRunnerRequestId event.job.runnerRequestId).isNone

/-- **How many events of a message release their requests.** -/
def ScaleSetDeliveryConsumerPolicy.releaseCount (policy : ScaleSetDeliveryConsumerPolicy)
    (observedAt : EpochMillis) :
    List ScaleSetDeliveryLifecycleEvent → DisposableAttemptCatalogDocument → Nat
  | [], _ => 0
  | event :: events, c =>
    match policy.reconcileEvent event c observedAt with
    | .error _ => 0
    | .ok n => policy.releaseCount observedAt events n + if event.releases c n then 1 else 0

theorem releaseCount_cons (h : policy.reconcileEvent event c observedAt = .ok n) :
    policy.releaseCount observedAt (event :: events) c
      = policy.releaseCount observedAt events n + if event.releases c n then 1 else 0 := by
  rw [releaseCount, h]

theorem releaseCount_le_length : policy.releaseCount observedAt events c ≤ events.length := by
  induction events generalizing c with
  | nil => exact le_refl _
  | cons event events ih =>
    rw [releaseCount]
    split
    · exact Nat.zero_le _
    · rename_i n _
      have hr := @ih n
      rw [length_cons]
      split <;> omega

theorem releases_of_released
    (hf : c.findActiveByRunnerRequestId event.job.runnerRequestId = some r)
    (h : c.Released r a n) : event.releases c n = true := by
  rw [releases, hf, (find_of_released hf h).1]
  rfl

/-- A cancellation that found nothing to do is recorded by a later event
about the same job: only one that also says it was cancelled can be recorded
then. -/
theorem records_cancellation (hc : isUnboundRunnerlessCancellation event a = true)
    (hs : CancellationSettled a) (ha : later.action = .ok action)
    (hp : a.perform action = .ok b)
    (hbd : isUnboundRunnerlessCancellation later a = false)
    (hjob : later.job.jobId = event.job.jobId) (hrun : later.isUncancelledRun = false) :
    b.Records event := by
  obtain ⟨hunb, hcn⟩ := unboundCancellation_iff.mp hc
  obtain ⟨job, res, rfl, hres⟩ := eq_of_isRunnerlessCancellation hcn
  cases later with
  | available job' => cases ha
  | assigned job' =>
    obtain rfl := ok.inj ha
    obtain ⟨-, ⟨-, hjob', -⟩ | ⟨hph, -⟩⟩ := recordAssigned_cases hp
    · rw [hunb] at hjob'
      cases hjob'
    · obtain hph | hph := hph <;>
        simp [CancellationSettled, isCleanup, hph] at hs
  | started job' rn => cases hrun
  | completed job' rn res' =>
    obtain rfl := ok.inj ha
    cases rn with
    | none => exact absurd hunb (bound_of_recordTerminal_none hp)
    | some rn =>
      obtain ⟨hb, hb', -⟩ := recordTerminal_evidence hp
      have hres' : res'.value = "canceled" := by
        simpa [isUncancelledRun] using hrun
      refine ⟨hb.trans (congrArg some hjob), hb'.trans (congrArg some ?_), ?_⟩
      · exact ScaleSetJobResult.ext (hres'.trans hres.symm)
      · intro r hr
        cases hr

section

variable (h : ActiveShows observedAt a event)
include h

/-- What the earlier event showed in an active attempt, the recording of a
later one keeps. -/
theorem ActiveShows.recorded (ha : later.action = .ok action) (hp : a.perform action = .ok b)
    (hbd : isUnboundRunnerlessCancellation later a = false)
    (hj : later.job.jobId = event.job.jobId)
    (hrun : event.isRunnerlessCancellation = true → a.githubJobId = none →
      later.isUncancelledRun = false) : ActiveShows observedAt b event := by
  have he := extends_of_perform hp
  cases event with
  | available job => exact h.trans (congrArg _ he.notAfter.symm)
  | assigned job =>
    obtain ⟨hph, -, -⟩ | hr := h
    · -- nothing is recorded on a fresh reservation
      have hcl := isCleanup_of_perform (vmIdentity_eq_none (.inl hph)) ha hp
      simp [isCleanup, hph] at hcl
    · exact .inr (hr.step ha hp)
  | started job rn =>
    have hr : a.Records (.started job rn) := h
    exact hr.step ha hp
  | completed job rn res =>
    obtain ⟨hc, hs⟩ | hr := h
    · exact .inr (records_cancellation hc hs ha hp hbd hj
        (hrun (unboundCancellation_iff.mp hc).2 (unboundCancellation_iff.mp hc).1))
    · exact .inr (hr.step ha hp)

/-- What the earlier event showed in an active attempt, its cleanup keeps:
the attempt is unbound, so nothing is recorded on it. -/
theorem ActiveShows.cleanup (hu : a.githubJobId = none)
    (hp : a.perform .beginCleanup = .ok b) : ActiveShows observedAt b event := by
  have he := extends_of_perform hp
  cases event with
  | available job => exact h.trans (congrArg _ he.notAfter.symm)
  | assigned job =>
    obtain ⟨hph, -, -⟩ | hr := h
    · change a.beginCleanup = .ok b at hp
      rw [beginCleanup, hph] at hp
      cases hp
    · exact absurd (hu.symm.trans hr.1) (by simp)
  | started job rn => exact absurd (hu.symm.trans h.1) (by simp)
  | completed job rn res =>
    obtain ⟨hc, -⟩ | hr := h
    · exact activeShows_of_cleanup hc hp
    · exact absurd (hu.symm.trans hr.1) (by simp)

/-- What the earlier event showed in an active attempt, its release keeps,
unless it assigned the fresh reservation. -/
theorem ActiveShows.released (hu : a.githubJobId = none)
    (he : Extends a b) (hb : b.githubJobId = none ∧ b.result = none)
    (hph : b.phase = .complete) (ha : event.isAssigned = true → a.phase ≠ .reserved) :
    CompletedShows observedAt b event := by
  cases event with
  | available job => exact ⟨fun _ => h.trans (congrArg _ he.notAfter.symm), trivial⟩
  | assigned job =>
    obtain ⟨hrs, -, -⟩ | hr := h
    · exact absurd hrs (ha rfl)
    · exact absurd (hu.symm.trans hr.1) (by simp)
  | started job rn => exact absurd (hu.symm.trans h.1) (by simp)
  | completed job rn res =>
    obtain ⟨hc, -⟩ | hr := h
    · exact completedShows_of_cancellation (unboundCancellation_iff.mp hc).2 hb hph
    · exact absurd (hu.symm.trans hr.1) (by simp)

end

/-- **An event leaves the other requests alone**, as long as it does not
push their attempts out of the history. -/
theorem EventEffect.frame (h : EventEffect policy observedAt event identities c n)
    (hne : event.job.runnerRequestId ≠ q)
    (hq : event.releases c n = true → c.Unforgotten 1 q) :
    n.findActiveByRunnerRequestId q = c.findActiveByRunnerRequestId q
      ∧ n.findTombstoneByRunnerRequestId q = c.findTombstoneByRunnerRequestId q := by
  cases h with
  | kept => exact ⟨rfl, rfl⟩
  | reserved _ _ _ reserves _ _ _ appended =>
    rw [← reserves.serves.request] at hne
    exact ⟨by rw [appended.findActiveByRunnerRequestId, if_neg hne],
      appended.findTombstoneByRunnerRequestId⟩
  | recorded _ reserves _ _ performed replaced | cleanup _ reserves _ performed replaced =>
    rw [← reserves.serves.request] at hne
    have hid := (extends_of_perform performed).runnerRequestId
    exact ⟨by rw [replaced.findActiveByRunnerRequestId hid, if_neg hne],
      replaced.findTombstoneByRunnerRequestId⟩
  | released found reserves _ _ _ _ released =>
    rw [← reserves.serves.request] at hne
    exact ⟨by rw [released.active, if_neg hne],
      released.findTombstone_of_ne hne (hq (releases_of_released found released))⟩

/-- **The capacity claim names the job**, unless two messages collide. -/
theorem jobId_eq_of_reserves
    {identities' : DerivedIdentities} (ha : EventAccepted policy observedAt event identities)
    (ha' : EventAccepted policy observedAt earlier identities')
    (hr : Reserves policy r event.job identities)
    (hr' : Reserves policy r earlier.job identities')
    (hc : digest (policy.identityMessage event.job)
        = digest (policy.identityMessage earlier.job) →
      policy.identityMessage event.job = policy.identityMessage earlier.job) :
    event.job.jobId = earlier.job.jobId := by
  have hreq := hr.serves.request.symm.trans hr'.serves.request
  have hclm := hr.serves.claimId.symm.trans hr'.serves.claimId
  refine jobId_eq_of_identityMessage_eq ha.enrolled ha'.enrolled hreq
    (hc ?_)
  have ht := congrArg Identifier.value hclm
  rw [claimId_of_deriveIdentities ha.derived, claimId_of_deriveIdentities ha'.derived,
    String.ofList_inj] at ht
  exact flatMap_hexByte_injective (append_cancel_left ht)

theorem EntryShows.of_some {tombstone : Option DisposableAttemptState}
    (h : EntryShows policy observedAt event identities (some r) tombstone) :
    Reserves policy r event.job identities ∧ ActiveShows observedAt r.attempt event := by
  cases h with
  | active reserves shows => exact ⟨reserves, shows⟩

/-- **A later event keeps the trace of an earlier one.** -/
theorem Shown.step (hsh : Shown policy observedAt earlier c)
    (hacc : EventAccepted policy observedAt event identities)
    (h : EventEffect policy observedAt event identities c n) (hk : KeepsTrace c earlier event)
    (hcl : digest (policy.identityMessage event.job)
        = digest (policy.identityMessage earlier.job) →
      policy.identityMessage event.job = policy.identityMessage earlier.job)
    (hq : event.releases c n = true → c.Unforgotten 1 earlier.job.runnerRequestId) :
    Shown policy observedAt earlier n := by
  obtain ⟨identities', hacc', hent⟩ := hsh
  refine ⟨identities', hacc', ?_⟩
  by_cases hreq : event.job.runnerRequestId = earlier.job.runnerRequestId
  · obtain ⟨hcan, hrun⟩ := hk hreq
    rw [← hreq] at hent hcan hrun ⊢
    cases h with
    | kept => exact hent
    | reserved active tombstone =>
      rw [active, tombstone] at hent
      cases hent
    | @recorded r a _ _ found reserves action_eq bound performed replaced =>
      rw [found] at hent
      obtain ⟨hrsv, hs⟩ := hent.of_some
      have hjob := jobId_eq_of_reserves hacc hacc' reserves hrsv hcl
      have hext := extends_of_perform performed
      rw [find_of_replaced found hext replaced]
      refine .active ⟨hrsv.serves.of_extends hext ?_, hrsv.resources,
        hrsv.template⟩ (hs.recorded action_eq performed bound hjob ?_)
      · intro v hv
        have hrc := (records_of_perform action_eq performed).1.githubJobId action_eq
        exact (Option.some.inj (hv.symm.trans hrc)).trans hjob
      · intro hc hunb
        refine Bool.eq_false_of_not_eq_true (fun hl => hrun hc hl ?_)
        refine ⟨by simp [findTombstone_eq_none_of_findActive found], fun r' hr' => ?_⟩
        obtain rfl := Option.mem_unique found hr'
        exact hunb
    | cleanup found reserves cancelled performed replaced =>
      rw [found] at hent
      obtain ⟨hrsv, hs⟩ := hent.of_some
      have hext := extends_of_perform performed
      rw [find_of_replaced found hext replaced]
      refine .active ⟨hrsv.serves.of_extends hext ?_, hrsv.resources,
        hrsv.template⟩ (hs.cleanup (unboundCancellation_iff.mp cancelled).1 performed)
      intro v hv
      exact hrsv.serves.jobId v ((githubJobId_of_beginCleanup performed).symm.trans hv)
    | released found reserves cancelled unbound phase extended released =>
      have ht := findTombstone_eq_none_of_findActive found
      rw [found] at hent
      obtain ⟨hrsv, hs⟩ := hent.of_some
      obtain ⟨hunb, hc⟩ := unboundCancellation_iff.mp cancelled
      obtain ⟨hact, hcm⟩ := find_of_released found released
      rw [hact, hcm]
      refine .completed (hrsv.serves.of_extends extended ?_)
        (hs.released hunb extended unbound phase ?_)
      · intro v hv
        rw [unbound.1] at hv
        cases hv
      · intro hass hrs
        refine hcan hass hc ⟨ht, fun r' hr' => ?_⟩
        obtain rfl := Option.mem_unique found hr'
        exact hrs
  · obtain ⟨hact, ht⟩ := h.frame hreq hq
    rw [hact, ht]
    exact hent

/-! ## What an event does not undo -/

section

variable (h : EventEffect policy observedAt event identities c n)
include h

/-- **A request without a machine had none before**, and an unbound one was
unbound. -/
theorem EventEffect.before (hq : event.releases c n = true → c.Unforgotten 1 q) :
    (Unprovisioned n q → Unprovisioned c q) ∧ (Unbound n q → Unbound c q) := by
  by_cases hreq : event.job.runnerRequestId = q
  · subst hreq
    cases h with
    | kept => exact ⟨id, id⟩
    | reserved active tombstone =>
      unfold Unprovisioned Unbound
      rw [active, tombstone]
      exact ⟨fun _ => ⟨rfl, by simp⟩, by simp⟩
    | recorded found reserves _ _ performed replaced
    | cleanup found reserves _ performed replaced =>
      have hext := extends_of_perform performed
      have hf := find_of_replaced found hext replaced
      have hnone := findTombstone_eq_none_of_findActive found
      refine ⟨fun hn => ⟨hnone, fun r' hr' => ?_⟩, fun hn => ⟨by simp [hnone], fun r' hr' => ?_⟩⟩
      · obtain rfl := Option.mem_unique found hr'
        -- phases do not move back, and no phase comes before this one
        have hrn := hext.phase
        rw [hn.2 _ hf] at hrn
        exact lifecycleRank_injective (Nat.le_zero.mp hrn)
      · obtain rfl := Option.mem_unique found hr'
        have hjob := hn.2 _ hf
        refine Option.eq_none_iff_forall_ne_some.mpr (fun v hv => ?_)
        rw [hext.githubJobId v hv] at hjob
        cases hjob
    | released found _ cancelled _ _ _ released =>
      refine ⟨fun hn => ?_,
        fun _ => ⟨by simp [findTombstone_eq_none_of_findActive found], fun r' hr' => ?_⟩⟩
      · have hc := (find_of_released found released).2
        rw [hn.1] at hc
        cases hc
      · obtain rfl := Option.mem_unique found hr'
        exact (unboundCancellation_iff.mp cancelled).1
  · obtain ⟨hact, ht⟩ := h.frame hreq hq
    unfold Unprovisioned Unbound
    rw [hact, ht]
    exact ⟨id, id⟩

theorem EventEffect.keepsTrace
    (hq : event.releases c n = true → c.Unforgotten 1 earlier.job.runnerRequestId)
    (hk : KeepsTrace c earlier later) : KeepsTrace n earlier later := by
  intro hr
  obtain ⟨hcan, hrun⟩ := hk hr
  exact ⟨fun ha hl hn => hcan ha hl ((h.before hq).1 hn),
    fun hc hl hn => hrun hc hl ((h.before hq).2 hn)⟩

theorem EventEffect.unforgotten {k : Nat} (hk : k < maxDisposableAttemptTombstones)
    (hq : c.Unforgotten (k + if event.releases c n then 1 else 0) q) :
    n.Unforgotten k q := by
  have hm : c.Unforgotten k q := hq.mono (Nat.le_add_right _ _)
  cases h with
  | kept => exact hm
  | reserved _ _ _ _ _ _ _ appended => exact hm.of_tombstones_eq appended.tombstones
  | recorded _ _ _ _ _ replaced | cleanup _ _ _ _ replaced =>
    exact hm.of_tombstones_eq replaced.tombstones
  | released found _ _ _ _ _ released =>
    rw [if_pos (releases_of_released found released)] at hq
    exact released.unforgotten hk hq

end

/-! ## A whole message -/

/-- **After a message every event of it is shown**, and so is every event
that was shown before it. The induction is on the message, with the events
already applied moving to `earlier`. -/
theorem shown_of_foldlM (earlier : List ScaleSetDeliveryLifecycleEvent)
    {events : List ScaleSetDeliveryLifecycleEvent}
    (h : events.foldlM (fun current event => policy.reconcileEvent event current observedAt) c
      = .ok n)
    (hln : events.length ≤ maxDisposableAttemptTombstones)
    (hear : ∀ e ∈ earlier, Shown policy observedAt e c)
    (hk : ∀ e ∈ earlier, ∀ l ∈ events, KeepsTrace c e l)
    (hp : events.Pairwise (KeepsTrace c))
    (hc : ∀ e ∈ earlier ++ events, ∀ l ∈ events,
      digest (policy.identityMessage l.job) = digest (policy.identityMessage e.job) →
        policy.identityMessage l.job = policy.identityMessage e.job)
    (hq : ∀ e ∈ earlier ++ events, c.Unforgotten
      (policy.releaseCount observedAt events c) e.job.runnerRequestId) :
    ∀ e ∈ earlier ++ events, Shown policy observedAt e n := by
  induction events generalizing c earlier with
  | nil =>
    obtain rfl := ok.inj h
    rw [append_nil]
    exact hear
  | cons event events ih =>
    rw [foldlM_cons, bind_eq_ok] at h
    obtain ⟨d, hd, h⟩ := h
    obtain ⟨identities, hacc, heff⟩ := effect_of_reconcileEvent hd
    obtain ⟨hfst, hrs⟩ := pairwise_cons.mp hp
    rw [releaseCount_cons hd] at hq
    have hone : ∀ e ∈ earlier ++ event :: events, event.releases c d = true →
        c.Unforgotten 1 e.job.runnerRequestId := by
      intro e he hr
      have hcnt := hq e he
      rw [if_pos hr] at hcnt
      exact hcnt.mono (Nat.le_add_left _ _)
    rw [show earlier ++ event :: events = (earlier ++ [event]) ++ events by simp] at *
    refine ih _ h (Nat.le_of_succ_le hln) ?_ ?_ ?_ ?_ ?_
    · intro e he
      rcases mem_append.mp he with he | he
      · exact (hear e he).step hacc heff (hk e he event mem_cons_self)
          (hc e (by simp [he]) event mem_cons_self) (hone e (by simp [he]))
      · rw [mem_singleton.mp he]
        exact shown_of_reconcileEvent hd
    · intro e he l hl
      refine heff.keepsTrace (hone e (mem_append_left _ he)) ?_
      rcases mem_append.mp he with he | he
      · exact hk e he l (mem_cons_of_mem _ hl)
      · rw [mem_singleton.mp he]
        exact hfst l hl
    · refine hrs.imp_of_mem (fun {e l} he _ hpr => ?_)
      exact heff.keepsTrace (hone e (mem_append_right _ he)) hpr
    · intro e he l hl
      exact hc e he l (mem_cons_of_mem _ hl)
    · intro e he
      refine heff.unforgotten ?_ (hq e he)
      exact Nat.lt_of_le_of_lt releaseCount_le_length
        (Nat.lt_of_lt_of_le (Nat.lt_succ_self _) hln)

theorem EventEffect.evolves (h : EventEffect policy observedAt event identities c n) :
    c.Evolves n := by
  cases h with
  | kept => exact .refl _
  | reserved _ _ _ _ _ _ _ appended => exact evolves_of_succ appended.revision
  | recorded _ _ _ _ _ replaced | cleanup _ _ _ _ replaced =>
    exact evolves_of_succ replaced.revision
  | released _ _ _ _ _ _ released => exact .inr released.revision

theorem evolves_of_reconcileEvent (h : policy.reconcileEvent event c observedAt = .ok n) :
    c.Evolves n := by
  obtain ⟨identities, -, he⟩ := effect_of_reconcileEvent h
  exact he.evolves

theorem evolves_of_foldlM
    (h : events.foldlM (fun current event => policy.reconcileEvent event current observedAt) c
      = .ok n) : c.Evolves n :=
  foldlM_invariant (P := fun d => c.Evolves d)
    (fun _ _ _ _ hd hs => hd.trans (evolves_of_reconcileEvent hs)) (.refl _) h

/-- **A message changes nothing exactly when every event of it is shown.** A
catalog that changed has a larger revision, so it does not come back. -/
theorem foldlM_eq_self_iff :
    events.foldlM (fun current event => policy.reconcileEvent event current observedAt) c
        = .ok c ↔ ∀ e ∈ events, Shown policy observedAt e c := by
  induction events with
  | nil => exact ⟨fun _ e he => absurd he not_mem_nil, fun _ => rfl⟩
  | cons event events ih =>
    rw [forall_mem_cons, ← ih, foldlM_cons, bind_eq_ok]
    constructor
    · rintro ⟨d, hd, h⟩
      obtain rfl : d = c := (evolves_of_reconcileEvent hd).antisymm (evolves_of_foldlM h)
      exact ⟨shown_of_reconcileEvent hd, h⟩
    · rintro ⟨hs, h⟩
      exact ⟨c, reconcileEvent_of_shown hs, h⟩

theorem reconcileScaleSetDelivery_eq_ok :
    policy.reconcileScaleSetDelivery delivery c observedAt = .ok n
      ↔ ∃ events, delivery.retainedEvents = .ok events
        ∧ events.foldlM (fun current event => policy.reconcileEvent event current observedAt) c
          = .ok n := by
  unfold reconcileScaleSetDelivery
  rw [bind_eq_ok]
  simp only [mapError_eq_ok]

/-- **A delivery that changes the catalog raises its revision.** -/
theorem evolves_of_reconcileScaleSetDelivery
    (h : policy.reconcileScaleSetDelivery delivery c observedAt = .ok n) : c.Evolves n := by
  obtain ⟨events, -, h⟩ := reconcileScaleSetDelivery_eq_ok.mp h
  exact evolves_of_foldlM h

/-- **A message that was applied changes nothing when it is applied again**,
as long as its own events keep each other's traces, its releases push no attempt
of its requests out of the history, and its jobs have different digests. -/
theorem reconcileScaleSetDelivery_again {delivery : ScaleSetDelivery}
    {events : List ScaleSetDeliveryLifecycleEvent}
    (he : delivery.retainedEvents = .ok events)
    (hp : events.Pairwise (KeepsTrace c))
    (hr : ∀ e ∈ events, c.Unforgotten
      (policy.releaseCount observedAt events c) e.job.runnerRequestId)
    (hc : ∀ e ∈ events, ∀ l ∈ events,
      Sha256.digest (policy.identityMessage l.job) = Sha256.digest (policy.identityMessage e.job) →
        policy.identityMessage l.job = policy.identityMessage e.job)
    (h : policy.reconcileScaleSetDelivery delivery c observedAt = .ok n) :
    policy.reconcileScaleSetDelivery delivery n observedAt = .ok n := by
  obtain ⟨events', he', hf⟩ := reconcileScaleSetDelivery_eq_ok.mp h
  obtain rfl : events' = events := ok.inj (he'.symm.trans he)
  refine reconcileScaleSetDelivery_eq_ok.mpr ⟨events', he, foldlM_eq_self_iff.mpr ?_⟩
  have hl : events'.length ≤ maxDisposableAttemptTombstones :=
    (ScaleSetDelivery.length_retainedEvents_le he).trans (by decide)
  exact shown_of_foldlM [] hf hl (by simp) (by simp) hp hc hr

theorem reconcileScaleSetDelivery_ne_self
    (he : delivery.retainedEvents = .ok events) (hev : event ∈ events)
    (ha : c.findActiveByRunnerRequestId event.job.runnerRequestId = none)
    (ht : c.findTombstoneByRunnerRequestId event.job.runnerRequestId = none) :
    policy.reconcileScaleSetDelivery delivery c observedAt ≠ .ok c := by
  intro h
  obtain ⟨events', he', hf⟩ := reconcileScaleSetDelivery_eq_ok.mp h
  obtain rfl : events' = events := ok.inj (he'.symm.trans he)
  obtain ⟨identities, -, hent⟩ := foldlM_eq_self_iff.mp hf event hev
  rw [ha, ht] at hent
  cases hent

theorem frame_of_foldlM
    (h : events.foldlM (fun current event => policy.reconcileEvent event current observedAt) c
      = .ok n) (hl : events.length ≤ maxDisposableAttemptTombstones)
    (ho : ∀ e ∈ events, e.job.runnerRequestId ≠ q)
    (hq : c.Unforgotten (policy.releaseCount observedAt events c) q) :
    n.findActiveByRunnerRequestId q = c.findActiveByRunnerRequestId q
      ∧ n.findTombstoneByRunnerRequestId q = c.findTombstoneByRunnerRequestId q := by
  induction events generalizing c with
  | nil =>
    obtain rfl := ok.inj h
    exact ⟨rfl, rfl⟩
  | cons event events ih =>
    rw [foldlM_cons, bind_eq_ok] at h
    obtain ⟨d, hd, h⟩ := h
    obtain ⟨identities, -, he⟩ := effect_of_reconcileEvent hd
    obtain ⟨hf, hrs⟩ := forall_mem_cons.mp ho
    rw [releaseCount_cons hd] at hq
    have hone : event.releases c d = true → c.Unforgotten 1 q := by
      intro hr
      rw [if_pos hr] at hq
      exact hq.mono (Nat.le_add_left _ _)
    have hlt := he.unforgotten (Nat.lt_of_le_of_lt releaseCount_le_length hl) hq
    obtain ⟨ha, ht⟩ := ih h (Nat.le_of_succ_le hl) hrs hlt
    rw [ha, ht]
    exact he.frame hf hone

/-- **A message leaves the requests it does not name alone**: their attempts
stay active, or in the history, as they are, unless its releases push them out
of the history. -/
theorem reconcileScaleSetDelivery_frame (he : delivery.retainedEvents = .ok events)
    (ho : ∀ e ∈ events, e.job.runnerRequestId ≠ q)
    (hr : c.Unforgotten (policy.releaseCount observedAt events c) q)
    (h : policy.reconcileScaleSetDelivery delivery c observedAt = .ok n) :
    n.findActiveByRunnerRequestId q = c.findActiveByRunnerRequestId q
      ∧ n.findTombstoneByRunnerRequestId q = c.findTombstoneByRunnerRequestId q := by
  obtain ⟨events', he', hf⟩ := reconcileScaleSetDelivery_eq_ok.mp h
  obtain rfl : events' = events := ok.inj (he'.symm.trans he)
  exact frame_of_foldlM hf
    ((ScaleSetDelivery.length_retainedEvents_le he).trans (by decide)) ho hr

end Effects

/-! ## Concrete deliveries -/

/-- A policy. -/
def samplePolicy : ScaleSetDeliveryConsumerPolicy where
  scaleSetId := 1
  repository := "repo"
  owner := "owner"
  requestLabels := ["linux", "x64"]
  resources := {
    cpuMillis := 1000, memoryBytes := 1000, diskBytes := 1000,
    cpu_bounds := by decide, memory_bounds := by decide, disk_bounds := by decide }
  preparedTemplateIdentity :=
    ⟨⟨"sha256:0000000000000000000000000000000000000000000000000000000000000000", by decide⟩⟩
  valid := by decide

/-- A job of a request. -/
def sampleJob (request : UInt64) : ScaleSetDeliveryJob where
  runnerRequestId := request
  repository := "repo"
  owner := "owner"
  jobId := "job"
  workflowRunId := 7
  requestLabels := ["linux", "x64"]

/-- A time. -/
def sampleTime : EpochMillis := .first _

/-- When an attempt of that time has to be over. -/
def sampleDeadline : EpochMillis := ⟨21600001, by decide, by decide⟩

/-- The names for request 1. -/
def sampleIdentities : DerivedIdentities where
  attemptId := ⟨"attempt-c1da193c6097ced7fcd16c1a5ce9062a", by decide⟩
  claimId :=
    ⟨"claim-c1da193c6097ced7fcd16c1a5ce9062af17e6878d15cef32b93a93436c2cf23e", by decide⟩
  vmId := ⟨"w-c1da193c6097ced7fcd16c1a", by decide⟩
  runnerName := ⟨"smolrunner-c1da193c6097ced7fcd16c1a5ce9062a", by decide⟩

/-- The names for another request. -/
def otherIdentities : DerivedIdentities where
  attemptId := ⟨"attempt-db4e9882f57ebc09c0ca6984e6e3ab15", by decide⟩
  claimId :=
    ⟨"claim-db4e9882f57ebc09c0ca6984e6e3ab1587c412334a2737a42495bdcc5bded39b", by decide⟩
  vmId := ⟨"w-db4e9882f57ebc09c0ca6984", by decide⟩
  runnerName := ⟨"smolrunner-db4e9882f57ebc09c0ca6984e6e3ab15", by decide⟩

/-- A reservation for a request. -/
def sampleReservation (identities : DerivedIdentities) (request : ScaleSetRunnerRequestId) :
    DisposableAttemptReservation where
  attempt := .reserved identities.attemptId identities.claimId identities.vmId
    identities.runnerName request sampleDeadline
  resources := samplePolicy.resources
  preparedTemplateIdentity := samplePolicy.preparedTemplateIdentity

/-- A catalog with one attempt. -/
def reservedCatalog : DisposableAttemptCatalogDocument where
  schemaVersion := disposableAttemptCatalogSchemaVersion
  revision := ⟨2, Nat.two_pos, by decide⟩
  active := [sampleReservation sampleIdentities (.first _)]
  tombstones := []
  valid := by decide +kernel

/-- A message. -/
def sampleMessage (messageId : UInt32) (available : List UInt64)
    (events : List ScaleSetDeliveryEvent) : DeliveryRecord where
  schemaVersion := scaleSetDeliverySchemaVersion
  messageId := messageId
  statistics := ⟨0, 0, 0, 0, 0, 0, 0⟩
  availableRequestNumbers := available
  events := events

/-- A job is offered and cancelled. -/
def offeredAndCancelled : ScaleSetDelivery where
  toDeliveryRecord := sampleMessage 1 [1]
    [.available (sampleJob 1), .completed (sampleJob 1) none "canceled"]
  valid := by decide

/-- The job of a request, checked. -/
def sampleEvidence (request : ScaleSetRunnerRequestId) : ScaleSetDeliveryJobEvidence where
  runnerRequestId := request
  repository := "repo"
  owner := "owner"
  jobId := ⟨"job", by decide⟩
  workflowRunId := 7
  requestLabels := ["linux", "x64"]

theorem retainedEvents_offeredAndCancelled :
    offeredAndCancelled.retainedEvents = .ok
      [.available (sampleEvidence ⟨1, by decide, by decide⟩),
        .completed (sampleEvidence ⟨1, by decide, by decide⟩) none ⟨"canceled", by decide⟩] := by
  decide

theorem reconcileScaleSetDelivery_again_offeredAndCancelled :
    ∃ n, samplePolicy.reconcileScaleSetDelivery offeredAndCancelled .empty sampleTime = .ok n
      ∧ n.tombstones.length = 1
      ∧ samplePolicy.reconcileScaleSetDelivery offeredAndCancelled n sampleTime = .ok n := by
  have hr : ∃ n ∈ (samplePolicy.reconcileScaleSetDelivery offeredAndCancelled .empty
      sampleTime).toOption, n.tombstones.length = 1 := by decide +kernel
  obtain ⟨n, hn, hln⟩ := hr
  have hf := eq_ok_of_mem_toOption hn
  refine ⟨n, hf, hln, ?_⟩
  refine reconcileScaleSetDelivery_again retainedEvents_offeredAndCancelled ?_ ?_ ?_ hf
  · simp [KeepsTrace, isAssigned, isRunnerlessCancellation]
  · intro e _ a ha
    simp [DisposableAttemptCatalogDocument.empty] at ha
  · intro e he l hl _
    simp only [mem_cons, not_mem_nil, or_false] at he hl
    obtain rfl | rfl := he <;> obtain rfl | rfl := hl <;> rfl

/-! ### A full history -/

/-- An attempt that is over. -/
def pastRecord (identities : DerivedIdentities) (request : ScaleSetRunnerRequestId)
    (notAfter : EpochMillis) : AttemptRecord where
  schemaVersion := disposableAttemptStateSchemaVersion
  revision := releasedRevision
  attemptId := identities.attemptId
  capacityClaimId := identities.claimId
  vmId := identities.vmId
  vmIdentity := none
  runnerName := identities.runnerName
  runnerRequestId := request
  runnerId := none
  jitGenerationStarted := false
  runnerStartStarted := false
  phase := .complete
  githubJobId := none
  result := none
  notAfter := notAfter

/-- The name of a past attempt. -/
def pastName (i : Fin 63) : String :=
  String.ofList ['a', Nat.digitChar (i / 8), Nat.digitChar (i % 8)]

theorem isBoundedName_pastName : ∀ i, isBoundedName maxIdentifierLen (pastName i) = true := by
  decide

/-- The request of a past attempt. -/
def pastRequest (i : Fin 63) : ScaleSetRunnerRequestId :=
  ⟨i + 100, by omega, Nat.lt_trans (Nat.add_lt_add_right i.isLt 100) (by decide)⟩

/-- Sixty-three past attempts. -/
def pastRecords (i : Fin 63) : AttemptRecord :=
  pastRecord ⟨⟨pastName i, isBoundedName_pastName i⟩, ⟨pastName i, isBoundedName_pastName i⟩,
    ⟨pastName i, isBoundedName_pastName i⟩, ⟨pastName i, isBoundedName_pastName i⟩⟩
    (pastRequest i) sampleTime

theorem validate_pastRecords : ∀ i, (pastRecords i).validate = .ok () := by
  decide +kernel

/-- The past attempt for request 1. -/
def servedAttempt : DisposableAttemptState where
  toAttemptRecord := pastRecord sampleIdentities (.first _) sampleDeadline
  valid := by decide

/-- A catalog whose history is full, with that attempt as its oldest, while
the second sample job is reserved. -/
def fullCatalog : DisposableAttemptCatalogDocument where
  schemaVersion := disposableAttemptCatalogSchemaVersion
  revision := ⟨1000, by decide, by decide⟩
  active := [sampleReservation otherIdentities (.second _)]
  tombstones := servedAttempt :: (List.finRange 63).map (fun i => ⟨_, validate_pastRecords i⟩)
  valid := by decide +kernel

/-- The job of the oldest attempt is offered again, and the other one is
cancelled. -/
def pushingDelivery : ScaleSetDelivery where
  toDeliveryRecord := sampleMessage 2 [1]
    [.available (sampleJob 1), .completed (sampleJob 2) none "canceled"]
  valid := by decide

/-- A job is assigned and cancelled. -/
def assignedAndCancelled : ScaleSetDelivery where
  toDeliveryRecord := sampleMessage 3 []
    [.assigned (sampleJob 1), .completed (sampleJob 1) none "canceled"]
  valid := by decide

/-- **Not every message can be applied again.** One that pushes an attempt
of its own out of the history reserves a worker for it anew, and one that
assigns and cancels a job is refused. -/
theorem reconcileScaleSetDelivery_again_forgotten :
    (∃ n, samplePolicy.reconcileScaleSetDelivery pushingDelivery fullCatalog sampleTime = .ok n
      ∧ samplePolicy.reconcileScaleSetDelivery pushingDelivery n sampleTime ≠ .ok n)
    ∧ ∃ n, samplePolicy.reconcileScaleSetDelivery assignedAndCancelled reservedCatalog
        sampleTime = .ok n
      ∧ samplePolicy.reconcileScaleSetDelivery assignedAndCancelled n sampleTime ≠ .ok n := by
  constructor
  · have hr : ∃ n ∈ (samplePolicy.reconcileScaleSetDelivery pushingDelivery fullCatalog
        sampleTime).toOption, n.findActiveByRunnerRequestId ⟨1, by decide, by decide⟩ = none
        ∧ n.findTombstoneByRunnerRequestId ⟨1, by decide, by decide⟩ = none := by
      decide +kernel
    obtain ⟨n, hn, ha, ht⟩ := hr
    have he : ∃ event events, pushingDelivery.retainedEvents = .ok (event :: events)
        ∧ event.job.runnerRequestId = ⟨1, by decide, by decide⟩ := ⟨_, _, rfl, rfl⟩
    obtain ⟨event, events, he, hreq⟩ := he
    rw [← hreq] at ha ht
    exact ⟨n, eq_ok_of_mem_toOption hn, reconcileScaleSetDelivery_ne_self he
      mem_cons_self ha ht⟩
  · have hr : ∃ n ∈ (samplePolicy.reconcileScaleSetDelivery assignedAndCancelled
        reservedCatalog sampleTime).toOption,
        samplePolicy.reconcileScaleSetDelivery assignedAndCancelled n sampleTime ≠ .ok n := by
      decide +kernel
    obtain ⟨n, hn, hne⟩ := hr
    exact ⟨n, eq_ok_of_mem_toOption hn, hne⟩

/-- A message about the first sample job leaves the second one reserved. -/
theorem reconcileScaleSetDelivery_frame_fullCatalog :
    ∃ n, samplePolicy.reconcileScaleSetDelivery offeredAndCancelled fullCatalog sampleTime = .ok n
      ∧ (n.findActiveByRunnerRequestId ⟨2, by decide, by decide⟩).isSome = true := by
  have hr : ∃ n ∈ (samplePolicy.reconcileScaleSetDelivery offeredAndCancelled fullCatalog
      sampleTime).toOption, n.revision = fullCatalog.revision := by decide +kernel
  obtain ⟨n, hn, -⟩ := hr
  have hn := eq_ok_of_mem_toOption hn
  refine ⟨n, hn, ?_⟩
  rw [(reconcileScaleSetDelivery_frame retainedEvents_offeredAndCancelled (by decide)
    (by unfold DisposableAttemptCatalogDocument.Unforgotten; decide +kernel) hn).1]
  decide +kernel

end Glaeda
