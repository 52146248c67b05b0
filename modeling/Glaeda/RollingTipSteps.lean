import Glaeda.KeyedList
import Glaeda.RollingTipOperations

/-!
# What one event does to a ledger

Whatever a ledger does, it does one event at a time. `Changes` lists the
events with the indexes they leave: a build is queued for the first time or
again, its record goes on within an attempt, a lease is taken and ended, an
artifact is published, a promotion is asked for and decided, and the rest is
only noted. It says what **both** transition systems have in common, and every
property of whole logs and whole runs is an induction over it.

Two facts hold of every ledger these events lead to (`Coherent`): the builds
in flight are the ones whose record has not ended, and a lease that is held
passed the checks of a lease.
-/

namespace Glaeda

open Checked Transaction List

namespace RollingTipEvent

/-- An event that changes no index. -/
def isNote : RollingTipEvent → Bool
  | .tipObserved _ | .artifactReuse _ _ _ | .backpressure _ _ | .receiptClosed _ _ => true
  | _ => false

end RollingTipEvent

/-! ## Checks that passed -/

theorem matchLeaseEvidence_eq_ok {active lease : ActiveLease} (h : active.build = lease.build) :
    matchLeaseEvidence active lease = .ok () ↔ active = lease := by
  unfold matchLeaseEvidence
  simp only [guard_bind_eq_ok, refuseIf_eq_ok, ne_eq, not_not]
  constructor
  · rintro ⟨h₁, h₂, h₃, h₄, h₅⟩
    cases active
    cases lease
    simp_all
  · rintro rfl
    exact ⟨rfl, rfl, rfl, rfl, rfl⟩

namespace RollingTipLedger

variable {l next : RollingTipLedger} {b : BuildKey} {time : Nat}

theorem requireStream_eq_ok : l.requireStream b = .ok () ↔ b.stream = l.stream := by
  rw [requireStream, refuseIf_eq_ok, not_not]

theorem requireTimestamp_eq_ok : requireTimestamp time = .ok () ↔ time ≠ 0 := refuseIf_eq_ok

theorem ensureCapacity_eq_ok {count : Nat} :
    l.ensureCapacity count = .ok () ↔ l.nextSequence + count < u64Size := by
  unfold ensureCapacity checkedAdd
  split <;> simp_all [okOr, Except.map]

variable {state : BuildExecutionState}

/-- **The transitions of a record**: a further attempt, or further within the
attempt. -/
theorem checkTransition_eq_ok {current : ExecutionRecord} {attempt : Nat} :
    l.checkTransition b current state attempt = .ok () ↔
      (attempt > current.attempt ∧ attempt = saturatingAdd u32Size current.attempt 1
        ∧ current.state.isTerminal ∧ state = .queued ∧ l.activeLeases b = none)
      ∨ (attempt = current.attempt ∧ current.state.rank ≤ state.rank
        ∧ (state.isTerminal → current.state.isTerminal → state = current.state)) := by
  unfold checkTransition
  by_cases hl : attempt > current.attempt
  · simp only [guard_bind_eq_ok, refuseIf_eq_ok, if_pos hl, not_or, ne_eq, not_not, not_lt,
      Option.not_isSome_iff_eq_none]
    constructor
    · rintro ⟨-, ⟨h₁, h₂, h₃⟩, h₄⟩
      exact .inl ⟨hl, h₁, h₂, h₃, h₄⟩
    · rintro (⟨-, h₁, h₂, h₃, h₄⟩ | ⟨h, -⟩)
      · exact ⟨hl.le, ⟨h₁, h₂, h₃⟩, h₄⟩
      · omega
  · simp only [guard_bind_eq_ok, refuseIf_eq_ok, if_neg hl, not_or, not_and, ne_eq, not_not,
      not_lt]
    constructor
    · rintro ⟨h₁, h₂, h₃⟩
      exact .inr ⟨by omega, h₂, h₃⟩
    · rintro (⟨h, -⟩ | ⟨h₁, h₂, h₃⟩)
      · exact absurd h hl
      · exact ⟨h₁.ge, h₂, h₃⟩

/-! ## Changes -/

/-- The ledger with a build in another state. -/
def advance (build : BuildKey) (attempt : Nat) (state : BuildExecutionState)
    (ledger : RollingTipLedger) : RollingTipLedger :=
  { ledger with
    states := Function.update ledger.states build (some ⟨attempt, state⟩)
    inFlight := if state.isTerminal then ledger.inFlight.erase build else ledger.inFlight }

/-- The ledger with another lease. -/
def holdLease (lease : ActiveLease) (ledger : RollingTipLedger) : RollingTipLedger :=
  { ledger with
    lastFencingTokens := Function.update ledger.lastFencingTokens (lease.build, lease.attempt)
      (some lease.fencingToken)
    activeLeases := Function.update ledger.activeLeases lease.build (some lease) }

/-- The ledger with another artifact. -/
def publish (artifact : ArtifactProvenance) (ledger : RollingTipLedger) : RollingTipLedger :=
  { ledger with
    artifacts := Function.update ledger.artifacts artifact.build (some artifact)
    inFlight := ledger.inFlight.erase artifact.build }

/-- **What one event does to the indexes**, and when it can. -/
inductive Changes (ledger : RollingTipLedger) (time : Nat) :
    RollingTipEvent → RollingTipLedger → Prop
  | noted {event : RollingTipEvent} (hnote : event.isNote) : Changes ledger time event ledger
  | queued {build : BuildKey} (hnew : ledger.states build = none) :
      Changes ledger time (.buildStateChanged build .queued 1) (ledger.queue build 1)
  | requeued {build : BuildKey} {record : ExecutionRecord}
      (hrec : ledger.states build = some record) (hended : record.state.isTerminal) :
      Changes ledger time
        (.buildStateChanged build .queued (saturatingAdd u32Size record.attempt 1))
        (ledger.queue build (saturatingAdd u32Size record.attempt 1))
  | advanced {build : BuildKey} {record : ExecutionRecord} {state : BuildExecutionState}
      (hrec : ledger.states build = some record) (hst : state ≠ .observed)
      (hrank : record.state.rank ≤ state.rank)
      (hended : state.isTerminal → record.state.isTerminal → state = record.state) :
      Changes ledger time (.buildStateChanged build state record.attempt)
        (ledger.advance build record.attempt state)
  | acquired {lease : ActiveLease} {record : ExecutionRecord}
      (hrec : ledger.states lease.build = some record)
      (hatt : record.attempt = lease.attempt) (hst : record.state.mayHoldLease)
      (hfree : ledger.activeLeases lease.build = none)
      (htoken : ∀ last, ledger.lastFencingTokens (lease.build, lease.attempt) = some last →
        last < lease.fencingToken)
      (hlease : validateLeaseEvidence lease time = .ok ()) :
      Changes ledger time (.leaseAcquired lease) (ledger.holdLease lease)
  | released {lease : ActiveLease} (hact : ledger.activeLeases lease.build = some lease)
      (htime : time ≤ lease.expiresAtMillis) :
      Changes ledger time (.leaseReleased lease) (ledger.endLease lease.build)
  | reclaimed {lease : ActiveLease} {reclaimedBy : String}
      (hact : ledger.activeLeases lease.build = some lease)
      (htime : lease.expiresAtMillis < time) :
      Changes ledger time (.leaseReclaimed lease reclaimedBy) (ledger.endLease lease.build)
  | published {artifact : ArtifactProvenance}
      (hrec : ledger.states artifact.build = some ⟨artifact.executionAttempt, .succeeded⟩)
      (hnew : ledger.artifacts artifact.build = none) :
      Changes ledger time (.artifactPublished artifact) (ledger.publish artifact)
  | requested {build : BuildKey} {revision : Nat} :
      Changes ledger time (.promotionRequested build revision)
        { ledger with promotionRequests := insert build ledger.promotionRequests }
  | decided {build : BuildKey} {decision : PromotionDecision} {expected revision : Nat} :
      Changes ledger time (.promotionDecided build decision expected revision)
        { ledger with promotion := some ⟨ledger.stream, revision, build, decision⟩ }

/-- **A step**: the indexes change, and the event is at the end of the log. -/
def Step (ledger after : RollingTipLedger) : Prop :=
  ∃ envelope sequence next, Changes ledger envelope.occurredAtMillis envelope.event next
    ∧ after = { next with events := ledger.events ++ [envelope], nextSequence := sequence }

variable {event : RollingTipEvent}

theorem Changes.frame (h : Changes l time event next) :
    next.stream = l.stream ∧ next.events = l.events
      ∧ next.nextSequence = l.nextSequence := by
  cases h <;> exact ⟨rfl, rfl, rfl⟩

theorem Step.of_push (h : Changes l time event next) : Step l (next.push time event) := by
  refine ⟨next.envelope time event, next.nextSequence + 1, next, h, ?_⟩
  rw [push, h.frame.2.1]

theorem Step.stream (h : Step l next) : next.stream = l.stream := by
  obtain ⟨envelope, sequence, mid, hc, rfl⟩ := h
  exact hc.frame.1

theorem Step.events (h : Step l next) : ∃ envelope, next.events = l.events ++ [envelope] := by
  obtain ⟨envelope, sequence, mid, -, rfl⟩ := h
  exact ⟨envelope, rfl⟩

/-! ## What always holds -/

/-- **The indexes belong together.** -/
structure Coherent (ledger : RollingTipLedger) : Prop where
  inFlight_iff : ∀ build, build ∈ ledger.inFlight ↔
    ∃ record, ledger.states build = some record ∧ record.state.isTerminal = false
  attempt_lt : ∀ {build record}, ledger.states build = some record → record.attempt < u32Size
  lease : ∀ {build lease}, ledger.activeLeases build = some lease →
    lease.build = build ∧ ∃ since, validateLeaseEvidence lease since = .ok ()

theorem coherent_new (stream : TipStream) : Coherent (new stream) where
  inFlight_iff build := by simp [new]
  attempt_lt h := by cases h
  lease h := by cases h

/-- A ledger is coherent when its records, its builds in flight and its leases
are those of a coherent one. -/
theorem Coherent.congr (h : Coherent l) (hs : next.states = l.states)
    (hf : next.inFlight = l.inFlight)
    (hl : next.activeLeases = l.activeLeases) : Coherent next where
  inFlight_iff build := by rw [hs, hf, h.inFlight_iff]
  attempt_lt hr := h.attempt_lt (hs ▸ hr)
  lease hls := h.lease (hl ▸ hls)

/-- A record changes, and the build is in flight exactly when it has not
ended. -/
theorem Coherent.record (h : Coherent l) (b : BuildKey) (record : ExecutionRecord)
    (ha : record.attempt < u32Size)
    (hs : next.states = Function.update l.states b (some record))
    (hf : ∀ other, other ∈ next.inFlight ↔
      if other = b then record.state.isTerminal = false else other ∈ l.inFlight)
    (hl : next.activeLeases = l.activeLeases) : Coherent next where
  inFlight_iff other := by
    rw [hf, hs]
    by_cases ho : other = b
    · subst ho
      simp
    · rw [if_neg ho, Function.update_of_ne ho, h.inFlight_iff]
  attempt_lt {other record'} hr := by
    rw [hs] at hr
    by_cases ho : other = b
    · subst ho
      rw [Function.update_self] at hr
      exact Option.some.inj hr ▸ ha
    · rw [Function.update_of_ne ho] at hr
      exact h.attempt_lt hr
  lease hls := h.lease (hl ▸ hls)

theorem Coherent.queue (h : Coherent l) {attempt : Nat} (ha : attempt < u32Size) :
    Coherent (l.queue b attempt) := by
  refine h.record b ⟨attempt, .queued⟩ ha rfl (fun other => ?_) rfl
  show other ∈ insert b l.inFlight ↔ _
  by_cases ho : other = b <;>
    simp [ho, BuildExecutionState.isTerminal]

theorem isTerminal_of_rank {state current : BuildExecutionState}
    (hr : current.rank ≤ state.rank) (h : current.isTerminal) : state.isTerminal := by
  revert hr h
  cases state <;> cases current <;> decide

section

variable (h : Coherent l)
include h

theorem Coherent.advance {record : ExecutionRecord}
    (hrec : l.states b = some record) (hr : record.state.rank ≤ state.rank) :
    Coherent (l.advance b record.attempt state) := by
  have ha := h.attempt_lt hrec
  refine h.record b ⟨record.attempt, state⟩ ha rfl (fun other => ?_) rfl
  show other ∈ (if state.isTerminal then l.inFlight.erase b else l.inFlight) ↔ _
  by_cases ho : other = b
  · subst ho
    by_cases he : state.isTerminal
    · simp [he]
    · -- what has not ended now had not ended before, so the build was in flight
      have hop : record.state.isTerminal = false := by
        by_contra hc
        exact he (isTerminal_of_rank hr (by simpa using hc))
      simpa [he] using (h.inFlight_iff other).mpr ⟨record, hrec, hop⟩
  · by_cases he : state.isTerminal <;> simp [he, ho]

theorem Coherent.leases {lease : Option ActiveLease}
    (hv : ∀ held, lease = some held → held.build = b
      ∧ ∃ since, validateLeaseEvidence held since = .ok ())
    (hs : next.states = l.states) (hf : next.inFlight = l.inFlight)
    (hl : next.activeLeases = Function.update l.activeLeases b lease) :
    Coherent next where
  inFlight_iff other := by rw [hs, hf, h.inFlight_iff]
  attempt_lt hr := h.attempt_lt (hs ▸ hr)
  lease {other held} hh := by
    rw [hl] at hh
    by_cases ho : other = b
    · subst ho
      rw [Function.update_self] at hh
      exact hv held hh
    · rw [Function.update_of_ne ho] at hh
      exact h.lease hh

theorem Coherent.publish {artifact : ArtifactProvenance}
    (hrec : l.states artifact.build = some ⟨artifact.executionAttempt, .succeeded⟩) :
    Coherent (l.publish artifact) := by
  have hout : artifact.build ∉ l.inFlight := by
    rw [h.inFlight_iff]
    rintro ⟨record, hr, ho⟩
    rw [hrec] at hr
    obtain rfl := Option.some.inj hr
    cases ho
  refine h.congr rfl ?_ rfl
  exact Finset.erase_eq_of_notMem hout

/-- **Every event keeps the indexes together.** -/
theorem Coherent.changes (hc : Changes l time event next) : Coherent next := by
  cases hc with
  | noted hn => exact h
  | queued hnew => exact h.queue (by decide)
  | requeued hrec he =>
    exact h.queue (lt_of_le_of_lt saturatingAdd_le (by decide))
  | advanced hrec hst hr he => exact h.advance hrec hr
  | acquired hrec hatt hst hf htk hl =>
    refine h.leases (fun held hh => ?_) rfl rfl rfl
    obtain rfl := Option.some.inj hh
    exact ⟨rfl, time, hl⟩
  | released ha ht | reclaimed ha ht =>
    exact h.leases (fun held hh => by cases hh) rfl rfl rfl
  | published hrec hnew => exact h.publish hrec
  | requested | decided => exact h.congr rfl rfl rfl

theorem Coherent.push : Coherent (l.push time event) :=
  h.congr rfl rfl rfl

theorem Coherent.step (hs : Step l next) : Coherent next := by
  obtain ⟨envelope, sequence, mid, hc, rfl⟩ := hs
  exact (h.changes hc).congr rfl rfl rfl

end

end RollingTipLedger

end Glaeda
