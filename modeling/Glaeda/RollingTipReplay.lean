import Glaeda.RollingTipSteps

/-!
# When a ledger replays to itself

A ledger is kept as its log, and reopening it replays the log. So whatever the
live operations accept, replay has to accept, and its indexes have to come out
the same. The two write their checks out separately; here they are compared.

One operation at a time, what is appended is an event that replay accepts, with
the indexes replay computes (`Replays`), or nothing is appended. The exception
is a further attempt of a build that ended: `recordState` and replay ask that
the lease of the last attempt was given back, **admission does not**. A build
that fails while its worker still holds the lease is queued again by the next
admission, and the log cannot be read back from then on.
`replaysToItself_runs_iff` says that this is the only way to lose a log, apart
from a counter of attempts that is at its end.
-/

namespace Glaeda

open Checked Transaction List Tx

namespace RollingTipLedger

variable {l next : RollingTipLedger} {b : BuildKey} {time : Nat}
variable {state : BuildExecutionState} {attempt : Nat} {artifact : ArtifactProvenance}
variable {event : RollingTipEvent}

/-! ## Events read back -/

theorem replayState_eq_ok :
    l.replayState b state attempt time = .ok next ↔
      b.stream = l.stream ∧ time ≠ 0 ∧ attempt ≠ 0 ∧ state ≠ .observed
        ∧ ((l.states b = none ∧ state = .queued ∧ attempt = 1
            ∧ next = l.queue b 1)
          ∨ ∃ current, l.states b = some current
            ∧ l.checkTransition b current state attempt = .ok ()
            ∧ next = l.changeState b current state attempt) := by
  unfold replayState
  simp only [guard_bind_eq_ok, requireStream_eq_ok, requireTimestamp_eq_ok, refuseIf_eq_ok]
  refine and_congr_right fun _ => and_congr_right fun _ => and_congr_right fun _ =>
    and_congr_right fun _ => ?_
  cases hs : l.states b with
  | none =>
    simp only [refuseIf_bind_eq_ok, not_or, ne_eq, not_not, pure_eq_ok,
      Except.ok.injEq, true_and, reduceCtorEq, false_and, exists_false, or_false, and_assoc]
    refine and_congr_right fun hst => and_congr_right fun ha => ?_
    subst hst ha
    exact eq_comm
  | some current =>
    simp only [guard_bind_eq_ok, pure_eq_ok_iff, reduceCtorEq, false_and, false_or,
      Option.some.injEq, exists_eq_left']
    exact and_congr_right fun _ => eq_comm

variable {current : ExecutionRecord}

theorem changeState_of_later (h : attempt > current.attempt) :
    l.changeState b current .queued attempt = l.queue b attempt := by
  unfold changeState queue
  simp [h, BuildExecutionState.isTerminal]

theorem changeState_of_same : l.changeState b current state current.attempt
      = l.advance b current.attempt state := by
  unfold changeState advance
  simp

theorem Changes.of_replayState (h : l.replayState b state attempt time = .ok next) :
    Changes l time (.buildStateChanged b state attempt) next := by
  obtain ⟨-, -, -, hst, ⟨hn, rfl, rfl, rfl⟩ | ⟨current, hc, hchk, rfl⟩⟩ :=
    replayState_eq_ok.mp h
  · exact .queued hn
  · obtain ⟨hl, rfl, he, rfl, -⟩ | ⟨rfl, hr, he⟩ := checkTransition_eq_ok.mp hchk
    · rw [changeState_of_later hl]
      exact .requeued hc he
    · rw [changeState_of_same]
      exact .advanced hc hst hr he

theorem replayLeaseAcquired_eq_ok {lease : ActiveLease} :
    l.replayLeaseAcquired lease time = .ok next ↔
      lease.build.stream = l.stream ∧ time ≠ 0 ∧ validateLeaseEvidence lease time = .ok ()
        ∧ ∃ rec, l.states lease.build = some rec ∧ rec.attempt = lease.attempt
          ∧ rec.state.mayHoldLease ∧ l.activeLeases lease.build = none
          ∧ (∀ last, l.lastFencingTokens (lease.build, lease.attempt) = some last →
            last < lease.fencingToken)
          ∧ next = l.holdLease lease := by
  rw [replayLeaseAcquired, guard_bind_eq_ok, guard_bind_eq_ok, guard_bind_eq_ok, bind_eq_ok,
    requireStream_eq_ok, requireTimestamp_eq_ok]
  refine and_congr_right fun _ => and_congr_right fun _ => and_congr_right fun _ =>
    exists_congr fun rec => ?_
  simp only [guard_bind_eq_ok, okOr_eq_ok, refuseIf_eq_ok, ne_eq, not_not,
    Option.not_isSome_iff_eq_none, pure_eq_ok_iff, Option.any_eq_true,
    decide_eq_true_eq, not_exists, not_and, not_le]
  refine and_congr_right fun _ => and_congr_right fun _ => and_congr_right fun _ =>
    and_congr_right fun _ => and_congr_right fun _ => ?_
  exact eq_comm

theorem Changes.of_replayLeaseAcquired {lease : ActiveLease}
    (h : l.replayLeaseAcquired lease time = .ok next) :
    Changes l time (.leaseAcquired lease) next := by
  obtain ⟨-, -, hl, rec, hr, ha, hst, hf, ht, rfl⟩ :=
    replayLeaseAcquired_eq_ok.mp h
  exact .acquired hr ha hst hf ht hl

section

variable (h : Coherent l) {active lease : ActiveLease}
    (hact : l.activeLeases lease.build = some active)
include h hact

theorem Coherent.validateRelease :
    validateRelease active lease time = .ok () ↔
      l.activeLeases lease.build = some lease ∧ time ≤ lease.expiresAtMillis := by
  unfold Glaeda.validateRelease
  rw [guard_bind_eq_ok, matchLeaseEvidence_eq_ok (h.lease hact).1, refuseIf_eq_ok, not_lt,
    hact, Option.some.injEq]
  exact and_congr_right fun heq => heq ▸ Iff.rfl

theorem Coherent.validateReclaim :
    validateReclaim active lease time = .ok () ↔
      l.activeLeases lease.build = some lease ∧ lease.expiresAtMillis < time := by
  unfold Glaeda.validateReclaim
  rw [guard_bind_eq_ok, matchLeaseEvidence_eq_ok (h.lease hact).1, refuseIf_eq_ok, not_le,
    hact, Option.some.injEq]
  exact and_congr_right fun heq => heq ▸ Iff.rfl

end

theorem Coherent.replayLeaseReleased_eq_ok (h : Coherent l) {lease : ActiveLease} :
    l.replayLeaseReleased lease time = .ok next ↔ lease.build.stream = l.stream ∧ time ≠ 0
        ∧ l.activeLeases lease.build = some lease ∧ time ≤ lease.expiresAtMillis
        ∧ next = l.endLease lease.build := by
  rw [replayLeaseReleased, guard_bind_eq_ok, guard_bind_eq_ok, guard_bind_eq_ok,
    guard_bind_eq_ok, guard_bind_eq_ok, guard_bind_eq_ok, requireStream_eq_ok,
    requireTimestamp_eq_ok, refuseIf_eq_ok, refuseIf_eq_ok, not_or, bind_eq_ok]
  simp only [guard_bind_eq_ok, okOr_eq_ok, pure_eq_ok_iff]
  refine and_congr_right fun _ => and_congr_right fun _ => ⟨?_, ?_⟩
  · rintro ⟨-, -, -, -, active, hact, hc, rfl⟩
    obtain ⟨hl, ht⟩ := (h.validateRelease hact).mp hc
    exact ⟨hl, ht, rfl⟩
  · rintro ⟨hl, ht, rfl⟩
    obtain ⟨-, since, hv⟩ := h.lease hl
    unfold validateLeaseEvidence at hv
    simp only [guard_bind_eq_ok, refuseIf_eq_ok, not_le] at hv
    obtain ⟨h₁, h₂, h₃, h₄, h₅⟩ := hv
    exact ⟨h₁, h₂, h₃, ⟨h₄, by omega⟩, lease, hl,
      (h.validateRelease hl).mpr ⟨hl, ht⟩, rfl⟩

theorem Coherent.replayLeaseReclaimed_eq_ok (h : Coherent l) {lease : ActiveLease}
    {reclaimedBy : String} :
    l.replayLeaseReclaimed lease reclaimedBy time = .ok next ↔
      lease.build.stream = l.stream ∧ time ≠ 0
        ∧ validateToken "reclaimed_by" reclaimedBy = .ok ()
        ∧ l.activeLeases lease.build = some lease ∧ lease.expiresAtMillis < time
        ∧ next = l.endLease lease.build := by
  rw [replayLeaseReclaimed, guard_bind_eq_ok, guard_bind_eq_ok, guard_bind_eq_ok, bind_eq_ok,
    requireStream_eq_ok, requireTimestamp_eq_ok]
  simp only [guard_bind_eq_ok, okOr_eq_ok, pure_eq_ok_iff]
  refine and_congr_right fun _ => and_congr_right fun _ => and_congr_right fun _ => ⟨?_, ?_⟩
  · rintro ⟨active, hact, hc, rfl⟩
    obtain ⟨hl, ht⟩ := (h.validateReclaim hact).mp hc
    exact ⟨hl, ht, rfl⟩
  · rintro ⟨hl, ht, rfl⟩
    exact ⟨lease, hl, (h.validateReclaim hl).mpr ⟨hl, ht⟩, rfl⟩

theorem replayArtifactPublished_eq_ok :
    l.applyReplayedEvent time (.artifactPublished artifact) = .ok next ↔
      artifact.build.stream = l.stream ∧ time ≠ 0
        ∧ l.states artifact.build = some ⟨artifact.executionAttempt, .succeeded⟩
        ∧ l.artifacts artifact.build = none ∧ next = l.publish artifact := by
  rw [applyReplayedEvent, guard_bind_eq_ok, guard_bind_eq_ok, bind_eq_ok, requireStream_eq_ok,
    requireTimestamp_eq_ok]
  simp only [guard_bind_eq_ok, okOr_eq_ok, refuseIf_eq_ok, not_or, ne_eq, not_not,
    Option.not_isSome_iff_eq_none, pure_eq_ok_iff]
  refine and_congr_right fun _ => and_congr_right fun _ => ⟨?_, ?_⟩
  · rintro ⟨⟨attempt, state⟩, hr, ⟨rfl, rfl⟩, hn, rfl⟩
    exact ⟨hr, hn, rfl⟩
  · rintro ⟨hr, hn, rfl⟩
    exact ⟨_, hr, ⟨rfl, rfl⟩, hn, rfl⟩

/-- **An event that replay accepts is one of the changes.** -/
theorem Coherent.changes_of_replayed (h : Coherent l) {event : RollingTipEvent}
    (ha : l.applyReplayedEvent time event = .ok next) :
    Changes l time event next := by
  cases event with
  | buildStateChanged b state attempt => exact .of_replayState ha
  | leaseAcquired lease => exact .of_replayLeaseAcquired ha
  | leaseReleased lease =>
    obtain ⟨-, -, hl, ht, rfl⟩ := h.replayLeaseReleased_eq_ok.mp ha
    exact .released hl ht
  | leaseReclaimed lease reclaimedBy =>
    obtain ⟨-, -, -, hl, ht, rfl⟩ := h.replayLeaseReclaimed_eq_ok.mp ha
    exact .reclaimed hl ht
  | artifactPublished artifact =>
    obtain ⟨-, -, hrec, hnew, rfl⟩ := replayArtifactPublished_eq_ok.mp ha
    exact .published hrec hnew
  | promotionRequested b revision =>
    simp only [applyReplayedEvent, guard_bind_eq_ok, pure_eq_ok_iff] at ha
    obtain ⟨-, -, -, rfl⟩ := ha
    exact .requested
  | promotionDecided b decision expected revision =>
    simp only [applyReplayedEvent, guard_bind_eq_ok, pure_eq_ok_iff] at ha
    obtain ⟨-, -, -, -, -, rfl⟩ := ha
    exact .decided
  | tipObserved b | receiptClosed b outcome =>
    simp only [applyReplayedEvent, guard_bind_eq_ok, pure_eq_ok_iff] at ha
    obtain ⟨-, -, rfl⟩ := ha
    exact .noted rfl
  | artifactReuse b decision digest | backpressure b reason =>
    simp only [applyReplayedEvent, guard_bind_eq_ok, pure_eq_ok_iff] at ha
    obtain ⟨-, -, -, rfl⟩ := ha
    exact .noted rfl

/-! ## What is appended is read back -/

/-- **A step that replay makes as well**: the event is accepted, and there is
room for its number. -/
def Replays (ledger after : RollingTipLedger) : Prop :=
  ∃ time event next, ledger.nextSequence + 1 < u64Size ∧ time ≠ 0
    ∧ ledger.applyReplayedEvent time event = .ok next ∧ after = next.push time event

/-- Some envelopes lead from one ledger to another. -/
abbrev Logs := Relation.ReflTransGen Replays

theorem replayEnvelope_envelope (ht : time ≠ 0) :
    l.replayEnvelope (l.envelope time event) = (do
      let next ← l.applyReplayedEvent time event
      pure { next with
        events := next.events ++ [l.envelope time event]
        nextSequence := saturatingAdd u64Size next.nextSequence 1 }) := by
  unfold replayEnvelope
  rw [refuseIf_of_not, ok_bind, refuseIf_of_not, ok_bind]
  · rfl
  · exact fun h => h rfl
  · rintro (h | h | h | h)
    · exact h ⟨(by decide : minSupportedSchemaVersion ≤ schemaVersion), le_refl schemaVersion⟩
    · exact h rfl
    · exact h rfl
    · exact ht h

theorem Coherent.step_of_replays (h : Coherent l) (hs : Replays l next) : Step l next := by
  obtain ⟨time, event, mid, -, -, ha, rfl⟩ := hs
  exact .of_push (h.changes_of_replayed ha)

theorem Coherent.replays (h : Coherent l) (hst : Replays l next) :
    ∃ envelope, next.events = l.events ++ [envelope]
      ∧ l.replayEnvelope envelope = .ok next := by
  obtain ⟨time, event, mid, hr, ht, ha, rfl⟩ := hst
  obtain ⟨hs, hevs, hseq⟩ := (h.changes_of_replayed ha).frame
  have he : mid.envelope time event = l.envelope time event := by
    unfold envelope
    rw [hs, hseq]
  refine ⟨l.envelope time event, ?_, ?_⟩
  · show mid.events ++ [mid.envelope time event] = _
    rw [he, hevs]
  · rw [replayEnvelope_envelope ht, ha, ok_bind, hseq, saturatingAdd_of_lt hr,
      pure_eq_ok, RollingTipLedger.push, he, hseq]

/-- **What was logged is read back**, to the ledger that logged it. -/
theorem Coherent.logs (h : Coherent l) (hlg : Logs l next) :
    Coherent next ∧ next.stream = l.stream
      ∧ ∃ envelopes, next.events = l.events ++ envelopes
        ∧ envelopes.foldlM replayEnvelope l = .ok next := by
  induction hlg with
  | refl => exact ⟨h, rfl, [], (append_nil _).symm, rfl⟩
  | tail _ hl ih =>
    obtain ⟨hm, hst, envelopes, he, hf⟩ := ih
    have hs := hm.step_of_replays hl
    obtain ⟨envelope, hn, hread⟩ := hm.replays hl
    refine ⟨hm.step hs, hs.stream.trans hst, envelopes ++ [envelope], ?_, ?_⟩
    · rw [hn, he, append_assoc]
    · rw [foldlM_append, hf, ok_bind, foldlM_cons, hread, ok_bind]
      rfl

/-! ## The live operations log -/

section Operations

variable {α β : Type}

/-- **Past an event that is appended.** -/
theorem final_append_bind {P : RollingTipLedger → Prop} {event : RollingTipEvent}
    {f : Unit → LedgerTx α} (hs : P l)
    (h : l.nextSequence + 1 < u64Size → P ((f ()).final (l.push time event))) :
    P ((append time event >>= f).final l) := by
  unfold append
  rw [bind_assoc, final_read_bind, bind_assoc]
  refine final_check_bind hs fun _ hr => ?_
  rw [final_perform_bind]
  exact h (ensureCapacity_eq_ok.mp hr)

theorem time_of_applyReplayedEvent (h : l.applyReplayedEvent time event = .ok next) : time ≠ 0 := by
  cases event <;>
    simp only [applyReplayedEvent, replayState, replayLeaseAcquired, replayLeaseReleased,
      replayLeaseReclaimed, guard_bind_eq_ok, requireTimestamp_eq_ok] at h <;> exact h.2.1

theorem logs_check {x : Except RollingTipLedgerError α} {f : α → LedgerTx β}
    (h : ∀ a, x = .ok a → Logs l ((f a).final l)) :
    Logs l ((check x >>= f).final l) :=
  final_check_bind .refl h

/-- **An event that replay accepts is logged.** -/
theorem logs_append_bind {f : Unit → LedgerTx α} (next : RollingTipLedger)
    (ha : l.applyReplayedEvent time event = .ok next)
    (hn : (f ()).final (l.push time event) = next.push time event) :
    Logs l ((append time event >>= f).final l) := by
  refine final_append_bind .refl fun hr => ?_
  rw [hn]
  exact .single ⟨time, event, next, hr, time_of_applyReplayedEvent ha, ha, rfl⟩

theorem logs_append (ha : l.applyReplayedEvent time event = .ok l) :
    Logs l ((append time event).final l) := by
  rw [← bind_pure (append time event)]
  exact logs_append_bind l ha rfl

theorem logs_closeReceipt {outcome : ReceiptOutcome} :
    Logs l ((closeReceipt b outcome time).final l) := by
  unfold closeReceipt
  rw [final_read_bind]
  refine logs_check fun _ hs => logs_check fun _ ht => ?_
  refine logs_append ?_
  simp only [applyReplayedEvent, hs, ht, ok_bind, pure_eq_ok]

theorem logs_recordBackpressure {reason : String} :
    Logs l ((recordBackpressure b reason time).final l) := by
  unfold recordBackpressure
  rw [final_read_bind]
  refine logs_check fun _ hs => logs_check fun _ ht =>
    logs_check fun _ hr => ?_
  refine logs_append ?_
  simp only [applyReplayedEvent, hs, ht, hr, ok_bind, pure_eq_ok]

theorem logs_requestPromotion {revision : Nat} :
    Logs l ((requestPromotion b revision time).final l) := by
  unfold requestPromotion
  rw [final_read_bind]
  refine logs_check fun _ hs => logs_check fun _ ht =>
    logs_check fun _ hk => logs_check fun _ _ => ?_
  refine logs_append_bind
    { l with promotionRequests := insert b l.promotionRequests } ?_ rfl
  simp only [applyReplayedEvent, hs, ht, hk, ok_bind, pure_eq_ok]

theorem logs_decidePromotion {decision : PromotionDecision} {expected : Nat} :
    Logs l ((decidePromotion b decision expected time).final l) := by
  unfold decidePromotion
  rw [final_read_bind]
  refine logs_check fun _ hs => logs_check fun _ ht =>
    logs_check fun _ has => logs_check fun _ hr =>
    logs_check fun _ ha => logs_check fun _ _ => ?_
  refine logs_append_bind { l with promotion := some ⟨l.stream,
    saturatingAdd u64Size l.promotionRevision 1, b, decision⟩ } ?_ rfl
  rw [refuseIf_eq_ok, not_not] at hr
  simp only [applyReplayedEvent, hs, ht, has, ha, ok_bind, pure_eq_ok, hr,
    ne_eq, not_true_eq_false, or_self, refuseIf_of_not not_false]

theorem logs_publishArtifact {artifact : ArtifactProvenance} :
    Logs l ((publishArtifact artifact time).final l) := by
  unfold publishArtifact
  refine logs_check fun _ hs => logs_check fun _ ht =>
    logs_check fun rec hr => logs_check fun _ hm => ?_
  obtain ⟨attempt, state⟩ := rec
  simp only [refuseIf_eq_ok, not_or, ne_eq, not_not] at hm
  obtain ⟨rfl, rfl⟩ := hm
  cases hart : l.artifacts artifact.build with
  | some existing => exact .refl
  | none =>
    refine logs_check fun _ _ => ?_
    refine logs_append_bind (l.publish artifact) (replayArtifactPublished_eq_ok.mpr ?_) rfl
    exact ⟨requireStream_eq_ok.mp hs, requireTimestamp_eq_ok.mp ht,
      okOr_eq_ok.mp hr, hart, rfl⟩

theorem logs_recordState {state : BuildExecutionState} {attempt : Nat} :
    Logs l ((recordState b state attempt time).final l) := by
  unfold recordState
  rw [final_read_bind]
  refine logs_check fun _ hs => logs_check fun _ ht =>
    logs_check fun _ ha => logs_check fun _ hst =>
    logs_check fun current hcur =>
    logs_check fun _ hc => ?_
  refine logs_append_bind (l.changeState b current state attempt)
    (replayState_eq_ok.mpr ?_) rfl
  exact ⟨requireStream_eq_ok.mp hs, requireTimestamp_eq_ok.mp ht,
    refuseIf_eq_ok.mp ha, refuseIf_eq_ok.mp hst,
    .inr ⟨current, okOr_eq_ok.mp hcur, hc, rfl⟩⟩

variable {lease : ActiveLease}

theorem logs_acquireLease : Logs l ((acquireLease lease time).final l) := by
  unfold acquireLease
  rw [final_read_bind]
  refine logs_check fun candidate hc =>
    logs_check fun _ _ => ?_
  obtain ⟨-, -, -, -, -, -, -, -, -, rfl⟩ := replayLeaseAcquired_eq_ok.mp hc
  exact logs_append_bind (l.holdLease lease) hc rfl

theorem Coherent.logs_releaseLease (h : Coherent l) :
    Logs l ((releaseLease lease time).final l) := by
  unfold releaseLease
  rw [final_read_bind]
  refine logs_check fun _ hs => logs_check fun _ ht =>
    logs_check fun active hact => logs_check fun _ hc =>
    logs_check fun _ _ => ?_
  obtain ⟨hl, he⟩ := (h.validateRelease (okOr_eq_ok.mp hact)).mp hc
  refine logs_append_bind (l.endLease lease.build) (h.replayLeaseReleased_eq_ok.mpr ?_) rfl
  exact ⟨requireStream_eq_ok.mp hs, requireTimestamp_eq_ok.mp ht, hl, he, rfl⟩

theorem Coherent.logs_reclaimExpiredLease (h : Coherent l) {reclaimedBy : String} :
    Logs l ((reclaimExpiredLease lease reclaimedBy time).final l) := by
  unfold reclaimExpiredLease
  rw [final_read_bind]
  refine logs_check fun _ hs => logs_check fun _ htm =>
    logs_check fun _ ht => logs_check fun active hact =>
    logs_check fun _ hc => logs_check fun _ _ => ?_
  obtain ⟨hl, he⟩ := (h.validateReclaim (okOr_eq_ok.mp hact)).mp hc
  refine logs_append_bind (l.endLease lease.build) (h.replayLeaseReclaimed_eq_ok.mpr ?_) rfl
  exact ⟨requireStream_eq_ok.mp hs, requireTimestamp_eq_ok.mp htm, ht, hl, he, rfl⟩

theorem Coherent.logs_recordLease (h : Coherent l) {leaseId hostId : String} {acquired : Bool} :
    Logs l ((recordLease b leaseId hostId acquired time).final l) := by
  unfold recordLease
  refine logs_check fun rec _ => ?_
  cases acquired with
  | true => exact logs_acquireLease
  | false => exact logs_check fun active _ => h.logs_releaseLease

end Operations

/-! ## Admission -/

theorem run_append (hr : l.nextSequence + 1 < u64Size) :
    (append time event).run l = ([push time event], .ok ()) := by
  unfold append
  rw [run_read_bind, ensureCapacity_eq_ok.mpr hr, run_check_ok_bind, run_perform]

/-- The build can be admitted. -/
def Ready (ledger : RollingTipLedger) (build : BuildKey) (time : Nat) : Prop :=
  build.stream = ledger.stream ∧ time ≠ 0
    ∧ ledger.nextSequence
        + (if (ledger.artifacts build).isSome ∨ build ∈ ledger.inFlight then 2 else 3) < u64Size

theorem run_admit_of_not_ready (h : ¬ Ready l b time) :
    ∃ error, (admitTip b time).run l = ([], .error error) := by
  unfold admitTip
  rw [run_read_bind]
  by_cases hs : b.stream = l.stream
  · rw [requireStream_eq_ok.mpr hs, run_check_ok_bind]
    by_cases ht : time ≠ 0
    · rw [requireTimestamp_eq_ok.mpr ht, run_check_ok_bind]
      cases hr : l.ensureCapacity _ with
      | error error => exact ⟨error, run_check_error_bind⟩
      | ok _ => exact absurd ⟨hs, ht, ensureCapacity_eq_ok.mp hr⟩ h
    · rw [requireTimestamp, refuseIf_of (not_not.mp ht)]
      exact ⟨_, run_check_error_bind⟩
  · rw [requireStream, refuseIf_of hs]
    exact ⟨_, run_check_error_bind⟩

section

variable (h : Ready l b time)
include h

theorem run_admit_of_ready {effects : List (RollingTipLedger → RollingTipLedger)}
    {result : Except RollingTipLedgerError BuildAdmission}
    (ha : (l.answer b time).run (l.push time (.tipObserved b)) = (effects, result)) :
    (admitTip b time).run l = (push time (.tipObserved b) :: effects, result) := by
  obtain ⟨hs, ht, hr⟩ := h
  have hf : l.nextSequence + 1 < u64Size := by
    split at hr <;> omega
  unfold admitTip
  rw [run_read_bind, requireStream_eq_ok.mpr hs, run_check_ok_bind,
    requireTimestamp_eq_ok.mpr ht, run_check_ok_bind, ensureCapacity_eq_ok.mpr hr,
    run_check_ok_bind]
  exact run_then (run_append hf) rfl ha

theorem run_admit_reused (hart : l.artifacts b = some artifact)
    (hrec : l.states b = some ⟨artifact.executionAttempt, .succeeded⟩) :
    (admitTip b time).run l
      = ([push time (.tipObserved b),
          push time (.artifactReuse b .hit (some artifact.contentDigest))],
        .ok (.reused artifact)) := by
  have hr : l.nextSequence + 1 + 1 < u64Size := by
    have := h.2.2
    rwa [if_pos (.inl (by rw [hart]; rfl))] at this
  refine run_admit_of_ready h ?_
  unfold answer
  rw [hart]
  dsimp only
  rw [refuseIf_not hrec, run_check_ok_bind]
  exact run_then (run_append hr) rfl run_pure

theorem run_admit_stale (hart : l.artifacts b = some artifact)
    (hr : l.states b ≠ some ⟨artifact.executionAttempt, .succeeded⟩) :
    (admitTip b time).run l
      = ([push time (.tipObserved b)], .error .artifactExecutionMismatch) := by
  refine run_admit_of_ready h ?_
  unfold answer
  rw [hart]
  dsimp only
  rw [refuseIf_of hr, run_check_error_bind]

theorem run_admit_inFlight (hart : l.artifacts b = none) (hflight : b ∈ l.inFlight) :
    (admitTip b time).run l
      = ([push time (.tipObserved b), push time (.artifactReuse b .inFlight none)],
        .ok .inFlight) := by
  have hr : l.nextSequence + 1 + 1 < u64Size := by
    have := h.2.2
    rwa [if_pos (.inr hflight)] at this
  refine run_admit_of_ready h ?_
  unfold answer
  rw [hart]
  rw [if_pos hflight]
  exact run_then (run_append hr) rfl run_pure

end

theorem nextAttempt_ne_zero : l.nextAttempt b ≠ 0 := by
  unfold nextAttempt saturatingAdd
  split
  · decide
  · have : 1 < u32Size := by decide
    omega

/-! ## Queued too early -/

/-- **Admission queues a further attempt that replay does not accept**: the
lease of the last attempt is still held, or its number was the last one. -/
def QueuesTooEarly (ledger : RollingTipLedger) (build : BuildKey) (time : Nat) : Prop :=
  Ready ledger build time ∧ ledger.artifacts build = none ∧ build ∉ ledger.inFlight
    ∧ ∃ rec, ledger.states build = some rec
      ∧ ((ledger.activeLeases build).isSome ∨ rec.attempt + 1 = u32Size)

theorem Coherent.isTerminal (h : Coherent l) {rec : ExecutionRecord}
    (hr : l.states b = some rec) (hflight : b ∉ l.inFlight) :
    rec.state.isTerminal = true := by
  by_contra ho
  exact hflight ((h.inFlight_iff b).mpr ⟨rec, hr, by simpa using ho⟩)

theorem Coherent.replayState_queued (h : Coherent l) (hs : b.stream = l.stream)
    (ht : time ≠ 0) (hflight : b ∉ l.inFlight)
    (hrdy : ∀ rec, l.states b = some rec → l.activeLeases b = none ∧ rec.attempt + 1 ≠ u32Size) :
    l.replayState b .queued (l.nextAttempt b) time
      = .ok (l.queue b (l.nextAttempt b)) := by
  rw [replayState_eq_ok]
  refine ⟨hs, ht, nextAttempt_ne_zero, by decide, ?_⟩
  unfold nextAttempt
  cases hr : l.states b with
  | none => exact .inl ⟨rfl, rfl, rfl, rfl⟩
  | some rec =>
    dsimp only
    obtain ⟨hf, hl⟩ := hrdy rec hr
    have hbd := h.attempt_lt hr
    have hn : saturatingAdd u32Size rec.attempt 1 = rec.attempt + 1 :=
      saturatingAdd_of_lt (by omega)
    refine .inr ⟨rec, rfl, checkTransition_eq_ok.mpr (.inl ?_), ?_⟩
    · exact ⟨by omega, rfl, h.isTerminal hr hflight, rfl, hf⟩
    · exact (changeState_of_later (by omega)).symm

theorem Coherent.replayState_tooEarly (h : Coherent l) {rec : ExecutionRecord}
    (hrec : l.states b = some rec) (hflight : b ∉ l.inFlight)
    (hh : (l.activeLeases b).isSome ∨ rec.attempt + 1 = u32Size) :
    l.replayState b .queued (saturatingAdd u32Size rec.attempt 1) time ≠ .ok next := by
  have he := h.isTerminal hrec hflight
  intro hok
  obtain ⟨-, -, -, -, ⟨hn, -⟩ | ⟨current, hc, hchk, -⟩⟩ := replayState_eq_ok.mp hok
  · rw [hrec] at hn
    cases hn
  · rw [hrec] at hc
    obtain rfl := Option.some.inj hc
    obtain ⟨hl, -, -, -, hf⟩ | ⟨-, hr, -⟩ := checkTransition_eq_ok.mp hchk
    · rw [hf] at hh
      obtain hh | hls := hh
      · cases hh
      · -- the counter is at its end, so the further attempt has the same number
        have := @saturatingAdd_le u32Size rec.attempt 1
        omega
    · -- a record that ended does not go back to the queue
      revert hr he
      cases rec.state <;> decide

theorem replays_note (hr : l.nextSequence + 1 < u64Size)
    (ha : l.applyReplayedEvent time event = .ok l) :
    Replays l (l.push time event) :=
  ⟨time, event, l, hr, time_of_applyReplayedEvent ha, ha, rfl⟩

theorem replays_tipObserved (h : Ready l b time) : Replays l (l.push time (.tipObserved b)) := by
  obtain ⟨hs, ht, hr⟩ := h
  refine replays_note (by split at hr <;> omega) ?_
  simp only [applyReplayedEvent, requireStream_eq_ok.mpr hs, requireTimestamp_eq_ok.mpr ht,
    ok_bind, pure_eq_ok]

theorem replays_artifactReuse {decision : ReuseDecision} {digest : Option String}
    (hs : b.stream = l.stream) (ht : time ≠ 0)
    (hrm : l.nextSequence + 1 < u64Size)
    (hr : l.replayReuse b digest decision = .ok ()) :
    Replays l (l.push time (.artifactReuse b decision digest)) := by
  refine replays_note hrm ?_
  simp only [applyReplayedEvent, requireStream_eq_ok.mpr hs, requireTimestamp_eq_ok.mpr ht,
    hr, ok_bind, pure_eq_ok]

/-- The ledger after a miss. -/
def missed (ledger : RollingTipLedger) (build : BuildKey) (time : Nat) : RollingTipLedger :=
  (ledger.push time (.tipObserved build)).push time (.artifactReuse build .miss none)

section

variable (h : Ready l b time) (hart : l.artifacts b = none) (hflight : b ∉ l.inFlight)
include h hart hflight

theorem run_admit_queued :
    (admitTip b time).run l
      = ([push time (.tipObserved b), push time (.artifactReuse b .miss none),
          push time (.buildStateChanged b .queued (l.nextAttempt b)),
          queue b (l.nextAttempt b)],
        .ok .queued) := by
  have hr : l.nextSequence + 1 + 1 + 1 < u64Size := by
    have := h.2.2
    rwa [if_neg (by simp [hart, hflight])] at this
  refine run_admit_of_ready h ?_
  unfold answer
  rw [hart]
  rw [if_neg hflight]
  refine run_then (run_append (lt_trans (Nat.lt_succ_self _) hr)) rfl ?_
  rw [run_refuseIf_bind nextAttempt_ne_zero]
  exact run_then (run_append hr) rfl (run_then run_perform rfl run_pure)

theorem logs_missed : Logs l (l.missed b time) := by
  have hr := h.2.2
  rw [if_neg (by simp [hart, hflight])] at hr
  refine .tail (.single (replays_tipObserved h)) (replays_artifactReuse h.1 h.2.1 ?_ ?_)
  · exact lt_trans (Nat.lt_succ_self _) hr
  · show l.replayReuse b none .miss = _
    exact refuseIf_of_not (by simp [hart, hflight])

theorem after_admit_queued :
    l.after (.admitTip b time)
      = ((l.missed b time).queue b (l.nextAttempt b)).push time
          (.buildStateChanged b .queued (l.nextAttempt b)) := by
  show (admitTip b time).final l = _
  rw [final, run_admit_queued h hart hflight]
  rfl

end

/-- **Admission logs**, unless it queues a further attempt too early. -/
theorem Coherent.logs_admit (h : Coherent l) (hrdy : ¬ QueuesTooEarly l b time) :
    Logs l ((admitTip b time).final l) := by
  unfold final
  by_cases hl : Ready l b time
  · have hr := hl.2.2
    cases hart : l.artifacts b with
    | some artifact =>
      rw [if_pos (.inl (by rw [hart]; rfl))] at hr
      by_cases hrec : l.states b = some ⟨artifact.executionAttempt, .succeeded⟩
      · rw [run_admit_reused hl hart hrec]
        refine .tail (.single (replays_tipObserved hl))
          (replays_artifactReuse hl.1 hl.2.1 hr ?_)
        show l.replayReuse b _ .hit = _
        simp only [replayReuse, hart, hrec, okOr, ok_bind]
        exact refuseIf_of_not (by simp)
      · rw [run_admit_stale hl hart hrec]
        exact .single (replays_tipObserved hl)
    | none =>
      by_cases hflight : b ∈ l.inFlight
      · rw [if_pos (.inr hflight)] at hr
        rw [run_admit_inFlight hl hart hflight]
        refine .tail (.single (replays_tipObserved hl))
          (replays_artifactReuse hl.1 hl.2.1 hr ?_)
        show l.replayReuse b none .inFlight = _
        exact refuseIf_of_not (by simp [hflight])
      · rw [if_neg (by simp [hart, hflight])] at hr
        rw [run_admit_queued hl hart hflight]
        refine .tail (logs_missed hl hart hflight)
          ⟨time, .buildStateChanged b .queued (l.nextAttempt b), _, hr, hl.2.1,
            Coherent.replayState_queued (h.push.push) hl.1 hl.2.1 hflight ?_, rfl⟩
        intro rec hrec
        have hnot : ¬ ((l.activeLeases b).isSome ∨ rec.attempt + 1 = u32Size) :=
          fun hh => hrdy ⟨hl, hart, hflight, rec, hrec, hh⟩
        rw [not_or, Option.not_isSome_iff_eq_none] at hnot
        exact hnot
  · obtain ⟨error, hrun⟩ := run_admit_of_not_ready hl
    rw [hrun]
    exact .refl

/-! ## Runs -/

/-- The operation does not come too early. -/
def Timely (ledger : RollingTipLedger) : LedgerOperation → Prop
  | .admitTip build time => ¬ QueuesTooEarly ledger build time
  | _ => True

/-- No operation comes too early. -/
def TimelyRun (ledger : RollingTipLedger) : List LedgerOperation → Prop
  | [] => True
  | call :: rest => ledger.Timely call ∧ (ledger.after call).TimelyRun rest

/-- **A timely call logs.** -/
theorem Coherent.logs_after (h : Coherent l) {call : LedgerOperation}
    (ht : l.Timely call) : Logs l (l.after call) := by
  cases call with
  | admitTip b time => exact h.logs_admit ht
  | recordState b state attempt time => exact logs_recordState
  | acquireLease lease time => exact logs_acquireLease
  | releaseLease lease time => exact h.logs_releaseLease
  | reclaimExpiredLease lease reclaimedBy time => exact h.logs_reclaimExpiredLease
  | recordLease b leaseId hostId acquired time => exact h.logs_recordLease
  | publishArtifact artifact time => exact logs_publishArtifact
  | requestPromotion b revision time => exact logs_requestPromotion
  | decidePromotion b decision revision time => exact logs_decidePromotion
  | recordBackpressure b reason time => exact logs_recordBackpressure
  | closeReceipt b outcome time => exact logs_closeReceipt

section

variable (h : Coherent l)
include h

theorem Coherent.missed : Coherent (l.missed b time) := h.push.push

/-- **Where the two systems part**: a further attempt that is queued too early
is logged as an event that replay refuses. -/
theorem Coherent.after_tooEarly (he : QueuesTooEarly l b time) :
    ∃ mid event, Logs l mid ∧ Step mid (l.after (.admitTip b time))
      ∧ (l.after (.admitTip b time)).events = mid.events ++ [mid.envelope time event]
      ∧ ∀ read, mid.replayEnvelope (mid.envelope time event) ≠ .ok read := by
  obtain ⟨hl, hart, hflight, rec, hr, hh⟩ := he
  have ha : l.nextAttempt b = saturatingAdd u32Size rec.attempt 1 := by
    unfold nextAttempt
    rw [hr]
  rw [after_admit_queued hl hart hflight, ha]
  refine ⟨l.missed b time, _, logs_missed hl hart hflight,
    .of_push (.requeued hr (h.isTerminal hr hflight)), rfl, fun read hread => ?_⟩
  rw [replayEnvelope_envelope hl.2.1, bind_eq_ok] at hread
  obtain ⟨next, hn, -⟩ := hread
  exact h.missed.replayState_tooEarly hr hflight hh hn

/-- **Every call is some steps.** -/
theorem Coherent.steps_after (call : LedgerOperation) :
    Relation.ReflTransGen Step l (l.after call) := by
  have hst : ∀ {mid}, Logs l mid → Relation.ReflTransGen Step l mid := by
    intro mid hl
    induction hl with
    | refl => exact .refl
    | tail hf hs ih => exact ih.tail ((h.logs hf).1.step_of_replays hs)
  by_cases ht : l.Timely call
  · exact hst (h.logs_after ht)
  · cases call with
    | admitTip b time =>
      obtain ⟨mid, -, hl, hs, -⟩ := h.after_tooEarly (not_not.mp ht)
      exact (hst hl).tail hs
    | _ => exact absurd trivial ht

variable {P : RollingTipLedger → Prop}

theorem Coherent.steps_induction
    (hst : ∀ {before after}, Coherent before → P before → Step before after → P after)
    (hP : P l) (hs : Relation.ReflTransGen Step l next) : Coherent next ∧ P next := by
  induction hs with
  | refl => exact ⟨h, hP⟩
  | tail _ hl ih => exact ⟨ih.1.step hl, hst ih.1 ih.2 hl⟩

theorem Coherent.after (call : LedgerOperation) : Coherent (l.after call) :=
  (h.steps_induction (P := fun _ => True) (fun _ _ _ => trivial) trivial (h.steps_after call)).1

/-- **What every step keeps, every run keeps.** -/
theorem Coherent.runs_induction
    (hs : ∀ {before after}, Coherent before → P before → Step before after → P after)
    (hP : P l) (calls : List LedgerOperation) :
    Coherent (l.runs calls) ∧ P (l.runs calls) := by
  induction calls generalizing l with
  | nil => exact ⟨h, hP⟩
  | cons call rest ih =>
    obtain ⟨hc, ha⟩ := h.steps_induction hs hP (h.steps_after call)
    exact ih hc ha

end

/-! ## The ledger replays to itself -/

/-- **Replaying the log of a ledger gives its indexes back.** -/
def ReplaysToItself (ledger : RollingTipLedger) : Prop :=
  ∃ read, replay ledger.stream ledger.events = .ok read
    ∧ read.artifacts = ledger.artifacts ∧ read.inFlight = ledger.inFlight
    ∧ read.states = ledger.states ∧ read.activeLeases = ledger.activeLeases
    ∧ read.lastFencingTokens = ledger.lastFencingTokens
    ∧ read.promotionRequests = ledger.promotionRequests ∧ read.promotion = ledger.promotion

/-- The log is not read back. -/
def Refused (ledger : RollingTipLedger) : Prop :=
  ∀ read, replay ledger.stream ledger.events ≠ .ok read

theorem replay_append_eq_ok {stream : TipStream} {first second : List EventEnvelope} :
    replay stream (first ++ second) = .ok next ↔
      ∃ mid, replay stream first = .ok mid ∧ second.foldlM replayEnvelope mid = .ok next := by
  unfold replay
  rw [foldlM_append, bind_eq_ok]

theorem Refused.step (h : Refused l) (hs : Step l next) : Refused next := by
  obtain ⟨envelope, he⟩ := hs.events
  intro read hread
  rw [hs.stream, he, replay_append_eq_ok] at hread
  obtain ⟨mid, hm, -⟩ := hread
  exact h mid hm

section

variable (h : Coherent l) (hread : replay l.stream l.events = .ok l)
include h hread

theorem Coherent.read_of_logs (hl : Logs l next) :
    replay next.stream next.events = .ok next := by
  obtain ⟨-, hs, envelopes, he, hf⟩ := h.logs hl
  rw [hs, he]
  exact replay_append_eq_ok.mpr ⟨l, hread, hf⟩

theorem Coherent.refused_after {call : LedgerOperation} (he : ¬ l.Timely call) :
    Refused (l.after call) := by
  cases call with
  | admitTip b time =>
    obtain ⟨mid, event, hlg, hst, hevs, hr⟩ := h.after_tooEarly (not_not.mp he)
    have hm := h.read_of_logs hread hlg
    intro read ha
    rw [hst.stream, hevs, replay_append_eq_ok, hm] at ha
    obtain ⟨_, hs, hl⟩ := ha
    obtain rfl := Except.ok.inj hs
    rw [foldlM_cons, bind_eq_ok] at hl
    obtain ⟨read', hread', -⟩ := hl
    exact hr read' hread'
  | _ => exact absurd trivial he

/-- A run that begins where the log is read back ends there exactly when all
of its calls are timely. -/
theorem Coherent.replaysToItself_iff (calls : List LedgerOperation) :
    ReplaysToItself (l.runs calls) ↔ l.TimelyRun calls := by
  induction calls generalizing l with
  | nil => exact ⟨fun _ => trivial, fun _ => ⟨l, hread, rfl, rfl, rfl, rfl, rfl, rfl, rfl⟩⟩
  | cons call rest ih =>
    show ReplaysToItself ((l.after call).runs rest) ↔ l.Timely call ∧ (l.after call).TimelyRun rest
    by_cases ht : l.Timely call
    · have hl := h.logs_after ht
      rw [ih (h.logs hl).1 (h.read_of_logs hread hl)]
      exact ⟨fun hr => ⟨ht, hr⟩, fun hb => hb.2⟩
    · -- the log is refused from here on
      have href := (Coherent.runs_induction (P := Refused) (h.after call)
        (fun _ => Refused.step) (h.refused_after hread ht) rest).2
      refine ⟨fun ⟨again, hrun, _⟩ => absurd hrun (href again), fun hb => ?_⟩
      exact absurd hb.1 ht

end

/-- **A ledger replays to itself exactly when no admission queued a further
attempt too early.** -/
theorem replaysToItself_runs_iff (stream : TipStream) (calls : List LedgerOperation) :
    ReplaysToItself ((new stream).runs calls) ↔ (new stream).TimelyRun calls :=
  (coherent_new stream).replaysToItself_iff rfl calls

/-! ## A lease that outlives its attempt -/

/-- A stream. -/
def sampleStream : TipStream := ⟨"manaflow-ai/cmux", "feat-cmux-next"⟩

/-- A build. -/
def sampleBuild : BuildKey where
  stream := sampleStream
  commit := "aaaaaaaaaaaaaaaaaaaaaaaaaaaaaaaaaaaaaaaa"
  tree := "bbbbbbbbbbbbbbbbbbbbbbbbbbbbbbbbbbbbbbbb"
  workflowRevision := "workflow-1"
  lockfileDigest := none
  sourceBundleDigest := none
  toolchain := "xcode-16"
  toolchainImageDigest := none
  capabilityDigest := none
  resetDigest := none
  target := "app"
  platform := "macos"
  architecture := "arm64"
  configuration := "debug"

/-- A lease. -/
def sampleLease : ActiveLease where
  build := sampleBuild
  attempt := 1
  leaseId := "lease-1"
  hostId := "host-1"
  fencingToken := 1
  expiresAtMillis := 100

/-- The worker of the first attempt fails and keeps its lease; the tip is
admitted again. -/
def requeueOverLease : List LedgerOperation :=
  [.admitTip sampleBuild 1, .recordState sampleBuild .leased 1 2, .acquireLease sampleLease 3,
    .recordState sampleBuild .failed 1 4, .admitTip sampleBuild 5]

theorem not_replaysToItself_requeueOverLease :
    ¬ ReplaysToItself ((new sampleStream).runs requeueOverLease) := by
  have hr : (replay ((new sampleStream).runs requeueOverLease).stream
      ((new sampleStream).runs requeueOverLease).events).map (fun _ => ())
        = .error .leaseAlreadyActive := by
    decide +kernel
  rintro ⟨read, hread, -⟩
  rw [hread] at hr
  cases hr

end RollingTipLedger

end Glaeda
