import Glaeda.RollingTipReplay

/-!
# Lease exclusivity, read from the log

A worker that holds the lease of a build is the only one, and the log alone
shows it. In a log that replay accepts, the lease events of one build are an
acquisition, its end, an acquisition, its end, and so on, and an end repeats
the lease it ends (`Alternates`). The fence of a later acquisition of one
attempt is higher, so a worker that lost its lease cannot be mistaken for the
one that has it. And a lease is only taken while the build is being executed,
for the attempt that is being executed.

Each index of the ledger is what the log says (`Logged`): that is the
invariant, and the statement about logs is read off it.
-/

namespace Glaeda

open Checked Transaction List Function

/-! ## What the log says -/

/-- What happens to a lease. -/
inductive LeaseAct where
  | acquired
  | released
  | reclaimed
deriving DecidableEq, Repr

/-- An entry of the log about a lease. -/
structure LeaseEntry where
  act : LeaseAct
  lease : ActiveLease
  occurredAtMillis : Nat
deriving DecidableEq, Repr

/-- What an event says of a lease. -/
def EventEnvelope.leaseEntry (envelope : EventEnvelope) : Option LeaseEntry :=
  match envelope.event with
  | .leaseAcquired lease => some ⟨.acquired, lease, envelope.occurredAtMillis⟩
  | .leaseReleased lease => some ⟨.released, lease, envelope.occurredAtMillis⟩
  | .leaseReclaimed lease _ => some ⟨.reclaimed, lease, envelope.occurredAtMillis⟩
  | _ => none

/-- What an event says of a build. -/
def EventEnvelope.recordOf (build : BuildKey) (envelope : EventEnvelope) : Option ExecutionRecord :=
  match envelope.event with
  | .buildStateChanged other state attempt => if other = build then some ⟨attempt, state⟩ else none
  | _ => none

namespace RollingTipLedger

/-- What a log says of the leases of a build. -/
def leaseEntries (build : BuildKey) (events : List EventEnvelope) : List LeaseEntry :=
  (events.filterMap EventEnvelope.leaseEntry).filter fun entry => entry.lease.build = build

/-- The tokens of an attempt. -/
def fencingTokens (build : BuildKey) (attempt : Nat) (events : List EventEnvelope) : List Nat :=
  ((leaseEntries build events).filter fun entry =>
    entry.act = .acquired ∧ entry.lease.attempt = attempt).map fun entry => entry.lease.fencingToken

/-- What a log says last of a build. -/
def lastRecord (build : BuildKey) (events : List EventEnvelope) : Option ExecutionRecord :=
  (events.filterMap (EventEnvelope.recordOf build)).getLast?

/-- **Acquisitions and ends alternate**, each end with the lease that was
taken: a release no later than it expires, a reclaim later. The second
argument is the lease that is held after the last event. -/
inductive Alternates : List LeaseEntry → Option ActiveLease → Prop
  | nil : Alternates [] none
  | acquired {entries : List LeaseEntry} {lease : ActiveLease} {time : Nat}
      (h : Alternates entries none) :
      Alternates (entries ++ [⟨.acquired, lease, time⟩]) (some lease)
  | released {entries : List LeaseEntry} {lease : ActiveLease} {time : Nat}
      (h : Alternates entries (some lease)) (htime : time ≤ lease.expiresAtMillis) :
      Alternates (entries ++ [⟨.released, lease, time⟩]) none
  | reclaimed {entries : List LeaseEntry} {lease : ActiveLease} {time : Nat}
      (h : Alternates entries (some lease)) (htime : lease.expiresAtMillis < time) :
      Alternates (entries ++ [⟨.reclaimed, lease, time⟩]) none

variable {l next : RollingTipLedger} {build : BuildKey} {time : Nat}

/-! ## The indexes are what the log says -/

theorem leaseEntries_append (build : BuildKey) (events : List EventEnvelope) (e : EventEnvelope) :
    leaseEntries build (events ++ [e])
      = leaseEntries build events ++ leaseEntries build [e] := by
  rw [leaseEntries, filterMap_append, filter_append]
  rfl

theorem fencingTokens_append (build : BuildKey) (attempt : Nat) (events : List EventEnvelope)
    (e : EventEnvelope) :
    fencingTokens build attempt (events ++ [e])
      = fencingTokens build attempt events ++ fencingTokens build attempt [e] := by
  rw [fencingTokens, leaseEntries_append, filter_append, map_append]
  rfl

theorem lastRecord_append (build : BuildKey) (events : List EventEnvelope) (e : EventEnvelope) :
    lastRecord build (events ++ [e])
      = (e.recordOf build).or (lastRecord build events) := by
  cases h : e.recordOf build <;> simp [h, lastRecord]

/-- **The indexes are what the log says** about leases and records. -/
structure Logged (ledger : RollingTipLedger) : Prop where
  alternates : ∀ build, Alternates (leaseEntries build ledger.events) (ledger.activeLeases build)
  increasing : ∀ build attempt, (fencingTokens build attempt ledger.events).Pairwise (· < ·)
  lastToken : ∀ build attempt, ledger.lastFencingTokens (build, attempt)
    = (fencingTokens build attempt ledger.events).getLast?
  lastRecord_eq : ∀ build, lastRecord build ledger.events = ledger.states build
  acquired : ∀ {first envelope rest lease}, ledger.events = first ++ envelope :: rest →
    envelope.event = .leaseAcquired lease →
    ∃ state, lastRecord lease.build first = some ⟨lease.attempt, state⟩ ∧ state.mayHoldLease

theorem logged_new (stream : TipStream) : Logged (new stream) where
  alternates _ := .nil
  increasing _ _ := .nil
  lastToken _ _ := rfl
  lastRecord_eq _ := rfl
  acquired {first e rest ls} h := by
    cases first <;> cases h

variable {e : EventEnvelope}

theorem Changes.states (h : Changes l time e.event next) (build : BuildKey) :
    next.states build = (e.recordOf build).or (l.states build) := by
  -- a record of this build replaces the one that was there
  have hu : ∀ (other : BuildKey) (record : ExecutionRecord),
      update l.states other (some record) build
        = (if other = build then some record else none).or (l.states build) := by
    intro other record
    by_cases ho : other = build
    · subst ho
      simp
    · rw [update_of_ne (Ne.symm ho), if_neg ho, Option.none_or]
  rw [EventEnvelope.recordOf]
  generalize e.event = event at h
  cases h with
  | queued hnew | requeued hrec he | advanced hrec hst hr he =>
    exact hu _ _
  | noted hn => cases event <;> first | exact Option.none_or.symm | cases hn
  | _ => exact Option.none_or.symm

theorem leaseEntries_singleton (build : BuildKey) (e : EventEnvelope) :
    leaseEntries build [e]
      = e.leaseEntry.toList.filter fun entry => entry.lease.build = build := by
  rw [leaseEntries, filterMap_cons, filterMap_nil]
  cases e.leaseEntry <;> rfl

/-- **Every event keeps acquisitions and ends alternating.** -/
theorem Changes.alternates {entries : List LeaseEntry}
    (h : Changes l e.occurredAtMillis e.event next)
    (he : Alternates entries (l.activeLeases build)) :
    Alternates (entries ++ leaseEntries build [e]) (next.activeLeases build) := by
  rw [leaseEntries_singleton, EventEnvelope.leaseEntry]
  generalize e.event = event at h
  have hn : Alternates (entries ++ []) (l.activeLeases build) := by
    rwa [append_nil]
  -- only the lease of the build itself is an entry of the build
  have hupd {ls : ActiveLease} {held : Option ActiveLease} {act : LeaseAct}
      (hown : Alternates entries (l.activeLeases ls.build) →
        Alternates (entries ++ [⟨act, ls, e.occurredAtMillis⟩]) held) :
      Alternates (entries ++ [⟨act, ls, e.occurredAtMillis⟩].filter
          fun entry : LeaseEntry => entry.lease.build = build)
        (update l.activeLeases ls.build held build) := by
    by_cases hb : build = ls.build
    · subst hb
      simpa using hown he
    · rw [update_of_ne hb]
      simpa [Ne.symm hb] using he
  cases h with
  | acquired hrec hatt hst hf htk hl =>
    exact hupd fun he => (hf ▸ he).acquired
  | released hact ht => exact hupd fun he => (hact ▸ he).released ht
  | reclaimed hact ht => exact hupd fun he => (hact ▸ he).reclaimed ht
  | noted hnt =>
    cases event <;> first | exact hn | cases hnt
  | _ => exact hn

/-- **What an event does to the fences of an attempt**: nothing, or one more
that is higher than the last. -/
theorem Changes.tokens (h : Changes l time e.event next)
    (build : BuildKey) (attempt : Nat) : (fencingTokens build attempt [e] = []
      ∧ next.lastFencingTokens (build, attempt) = l.lastFencingTokens (build, attempt))
    ∨ ∃ token, fencingTokens build attempt [e] = [token]
      ∧ next.lastFencingTokens (build, attempt) = some token
      ∧ ∀ last, l.lastFencingTokens (build, attempt) = some last → last < token := by
  rw [fencingTokens, leaseEntries_singleton, EventEnvelope.leaseEntry]
  generalize e.event = event at h
  cases h with
  | acquired hrec hatt hst hf ht hl =>
    rename_i ls record
    show _ ∧ update l.lastFencingTokens (ls.build, ls.attempt)
        (some ls.fencingToken) (build, attempt) = _
      ∨ ∃ token, _ ∧ update l.lastFencingTokens (ls.build, ls.attempt)
        (some ls.fencingToken) (build, attempt) = _ ∧ _
    by_cases hs : (build, attempt) = (ls.build, ls.attempt)
    · obtain ⟨rfl, rfl⟩ := Prod.mk.inj hs
      refine .inr ⟨ls.fencingToken, by simp, update_self .., ht⟩
    · refine .inl ⟨?_, update_of_ne hs ..⟩
      by_cases hb : ls.build = build
      · have hatt' : ls.attempt ≠ attempt := by
          rintro rfl
          exact hs (by rw [hb])
        simp [hb, hatt']
      · simp [hb]
  | noted hn =>
    cases event <;> first | exact .inl ⟨rfl, rfl⟩ | cases hn
  | released hact htm =>
    rename_i ls
    refine .inl ⟨?_, rfl⟩
    by_cases hb : ls.build = build <;> simp [hb]
  | reclaimed hact htm =>
    rename_i ls reclaimedBy
    refine .inl ⟨?_, rfl⟩
    by_cases hb : ls.build = build <;> simp [hb]
  | _ => exact .inl ⟨rfl, rfl⟩

theorem pairwise_append_singleton {tokens : List Nat} {token : Nat}
    (h : tokens.Pairwise (· < ·)) (hl : ∀ last, tokens.getLast? = some last → last < token) :
    (tokens ++ [token]).Pairwise (· < ·) := by
  rw [← isChain_iff_pairwise] at h ⊢
  refine isChain_append.mpr ⟨h, isChain_singleton token, fun last hm next hn => ?_⟩
  obtain rfl : token = next := Option.some.inj hn
  exact hl last hm

/-- **Every step keeps the indexes what the log says.** -/
theorem Logged.step (h : Logged l) (hsp : Step l next) : Logged next := by
  obtain ⟨e, sequence, mid, hchg, rfl⟩ := hsp
  have htok := fun build attempt => hchg.tokens build attempt
  refine ⟨fun build => ?_, fun build attempt => ?_, fun build attempt => ?_, fun build => ?_,
    fun {first found rest ls} hs hev => ?_⟩
  · show Alternates (leaseEntries build (l.events ++ [e])) (mid.activeLeases build)
    rw [leaseEntries_append]
    exact hchg.alternates (h.alternates build)
  · show (fencingTokens build attempt (l.events ++ [e])).Pairwise (· < ·)
    rw [fencingTokens_append]
    obtain ⟨hn, -⟩ | ⟨token, hone, -, hhig⟩ := htok build attempt
    · rw [hn, append_nil]
      exact h.increasing build attempt
    · rw [hone]
      refine pairwise_append_singleton (h.increasing build attempt) fun last hl => ?_
      exact hhig last ((h.lastToken build attempt).trans hl)
  · show mid.lastFencingTokens (build, attempt)
      = (fencingTokens build attempt (l.events ++ [e])).getLast?
    rw [fencingTokens_append]
    obtain ⟨hn, hsm⟩ | ⟨token, hone, hnew, -⟩ := htok build attempt
    · rw [hn, append_nil, hsm, h.lastToken]
    · rw [hone, hnew, getLast?_concat]
  · show lastRecord build (l.events ++ [e]) = mid.states build
    rw [lastRecord_append, hchg.states, h.lastRecord_eq]
  · obtain ⟨rfl, rfl, rfl⟩ | ⟨before, hbef, rfl⟩ :=
      KeyedList.concat_eq_append_cons.mp hs
    · rw [hev] at hchg
      cases hchg with
      | noted hnt => cases hnt
      | acquired hrec hatt hst hf ht hls =>
        rename_i record
        refine ⟨record.state, ?_, hst⟩
        rw [h.lastRecord_eq, hrec, ← hatt]
    · exact h.acquired hbef hev

/-! ## Logs that replay accepts -/

theorem Coherent.step_of_replayEnvelope (h : Coherent l) (hr : l.replayEnvelope e = .ok next) :
    Step l next ∧ next.events = l.events ++ [e] := by
  unfold replayEnvelope at hr
  rw [guard_bind_eq_ok, guard_bind_eq_ok, bind_eq_ok] at hr
  obtain ⟨-, -, mid, hm, hn⟩ := hr
  obtain rfl := Except.ok.inj hn
  have hc := h.changes_of_replayed hm
  have he : mid.events ++ [e] = l.events ++ [e] := by
    rw [hc.frame.2.1]
  exact ⟨⟨e, _, mid, hc, by rw [he]⟩, he⟩

/-- **What every step keeps holds of what is read back**, and its log is the
one that was read. -/
theorem Coherent.replay_induction {P : RollingTipLedger → Prop} (h : Coherent l)
    (hs : ∀ {before after}, P before → Step before after → P after) (hP : P l)
    {events : List EventEnvelope} (hr : events.foldlM replayEnvelope l = .ok next) :
    P next ∧ next.events = l.events ++ events := by
  induction events generalizing l with
  | nil =>
    obtain rfl := Except.ok.inj hr
    exact ⟨hP, (append_nil _).symm⟩
  | cons e rest ih =>
    rw [foldlM_cons, bind_eq_ok] at hr
    obtain ⟨mid, hm, hrs⟩ := hr
    obtain ⟨hf, he⟩ := h.step_of_replayEnvelope hm
    obtain ⟨hl, hlog⟩ := ih (h.step hf) (hs hP hf) hrs
    exact ⟨hl, by rw [hlog, he, append_assoc, singleton_append]⟩

/-- **Lease exclusivity can be read from the log.** In a log that replay
accepts, and for every build:

* acquisitions and ends alternate, each end with the lease it ends and on its
  side of the expiry;
* the fences of the acquisitions of one attempt go up;
* a lease is taken for the attempt of the last record, while that record says
  leased or running. -/
theorem leases_of_replay {stream : TipStream} {events : List EventEnvelope}
    (h : (replay stream events).isOk) (build : BuildKey) :
    (∃ held, Alternates (leaseEntries build events) held)
      ∧ (∀ attempt, (fencingTokens build attempt events).Pairwise (· < ·))
      ∧ ∀ first e rest ls, events = first ++ e :: rest → e.event = .leaseAcquired ls →
        ∃ state, lastRecord ls.build first = some ⟨ls.attempt, state⟩
          ∧ (state = .leased ∨ state = .running) := by
  cases hr : replay stream events with
  | error error =>
    rw [hr] at h
    cases h
  | ok l =>
    obtain ⟨hl, he⟩ :=
      (coherent_new stream).replay_induction Logged.step (logged_new stream) hr
    obtain rfl : l.events = events := he
    refine ⟨⟨_, hl.alternates build⟩, hl.increasing build,
      fun first e rest ls hs hev => ?_⟩
    obtain ⟨state, hrec, hst⟩ := hl.acquired hs hev
    refine ⟨state, hrec, ?_⟩
    revert hst
    cases state <;> decide

/-- A lease is taken twice. -/
def leaseTwice : List LedgerOperation :=
  [.admitTip sampleBuild 1, .recordState sampleBuild .leased 1 2, .acquireLease sampleLease 3,
    .releaseLease sampleLease 4,
    .acquireLease { sampleLease with fencingToken := 2 } 5]

theorem leases_of_replay_leaseTwice :
    (∃ held, Alternates (leaseEntries sampleBuild ((new sampleStream).runs leaseTwice).events) held)
      ∧ fencingTokens sampleBuild 1 ((new sampleStream).runs leaseTwice).events = [1, 2] :=
  ⟨(leases_of_replay (by decide +kernel :
      (replay sampleStream ((new sampleStream).runs leaseTwice).events).isOk) sampleBuild).1,
    by decide +kernel⟩

end RollingTipLedger

end Glaeda
