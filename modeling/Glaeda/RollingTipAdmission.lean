import Glaeda.RollingTipReplay

/-!
# Admission does not rebuild what was published

A published artifact stands for its build: the log has at most one for a
build, and every admission after it that answers at all answers with that
artifact. It need not answer. An operator can record a further attempt of a
build whose artifact was published; the artifact is then not the one of the
current attempt, and admission **refuses** until it is – it neither queues the
build nor hands out the artifact.

Two admissions that both queue one build have the end of the first attempt
between them in the log. So one attempt is in flight at a time.
-/

namespace Glaeda

open Checked Transaction List Function

namespace RollingTipLedger

variable {l next : RollingTipLedger} {b : BuildKey} {time : Nat}

/-! ## What the log says -/

/-- The artifacts of a build in a log. -/
def publishedFor (build : BuildKey) (events : List EventEnvelope) : List ArtifactProvenance :=
  events.filterMap fun envelope =>
    match envelope.event with
    | .artifactPublished artifact => if artifact.build = build then some artifact else none
    | _ => none

/-- The build was queued. -/
def QueuedIn (build : BuildKey) (events : List EventEnvelope) : Prop :=
  ∃ e ∈ events, ∃ attempt, e.event = .buildStateChanged build .queued attempt

/-- The attempt ended. -/
def EndedIn (build : BuildKey) (attempt : Nat) (events : List EventEnvelope) : Prop :=
  ∃ e ∈ events, ∃ state, e.event = .buildStateChanged build state attempt
    ∧ state.isTerminal

/-! ## What admission answers -/

/-- The answer to an admission. -/
def admission (ledger : RollingTipLedger) (build : BuildKey) (time : Nat) :
    Except RollingTipLedgerError BuildAdmission :=
  ((admitTip build time).run ledger).2

theorem admission_of_not_ready (h : ¬ Ready l b time) {answer : BuildAdmission} :
    l.admission b time ≠ .ok answer := by
  obtain ⟨error, hr⟩ := run_admit_of_not_ready h
  rw [admission, hr]
  exact fun hok => by cases hok

theorem admission_of_artifact {artifact : ArtifactProvenance} (h : Ready l b time)
    (ha : l.artifacts b = some artifact) :
    l.admission b time
      = if l.states b = some ⟨artifact.executionAttempt, .succeeded⟩
        then .ok (.reused artifact) else .error .artifactExecutionMismatch := by
  by_cases hr : l.states b = some ⟨artifact.executionAttempt, .succeeded⟩
  · rw [if_pos hr, admission, run_admit_reused h ha hr]
  · rw [if_neg hr, admission, run_admit_stale h ha hr]

theorem of_admission_queued (h : l.admission b time = .ok .queued) :
    Ready l b time ∧ l.artifacts b = none ∧ b ∉ l.inFlight := by
  have hl : Ready l b time := by
    by_contra hn
    exact admission_of_not_ready hn h
  cases ha : l.artifacts b with
  | some artifact =>
    rw [admission_of_artifact hl ha] at h
    split at h <;> cases h
  | none =>
    refine ⟨hl, rfl, fun hf => ?_⟩
    rw [admission, run_admit_inFlight hl ha hf] at h
    cases h

/-! ## One artifact -/

/-- **The log and the index agree about artifacts**, and the artifact is the
one of the current attempt until the build is queued again. -/
structure Published (ledger : RollingTipLedger) : Prop where
  publishedFor_eq : ∀ build, publishedFor build ledger.events = (ledger.artifacts build).toList
  current : ∀ {first envelope rest artifact}, ledger.events = first ++ envelope :: rest →
    envelope.event = .artifactPublished artifact → ¬ QueuedIn artifact.build rest →
    ledger.states artifact.build = some ⟨artifact.executionAttempt, .succeeded⟩

theorem published_new (stream : TipStream) : Published (new stream) where
  publishedFor_eq _ := rfl
  current {first e rest artifact} h := by
    cases first <;> cases h

theorem publishedFor_append (b : BuildKey) (events : List EventEnvelope) (e : EventEnvelope) :
    publishedFor b (events ++ [e])
      = publishedFor b events ++ publishedFor b [e] :=
  filterMap_append

theorem Changes.artifacts {e : EventEnvelope} (h : Changes l time e.event next) (b : BuildKey) :
    (next.artifacts b).toList
      = (l.artifacts b).toList ++ publishedFor b [e] := by
  rw [publishedFor, filterMap_cons, filterMap_nil]
  generalize e.event = event at h
  cases h with
  | published hr hnew =>
    rename_i artifact
    show (update l.artifacts artifact.build (some artifact) b).toList = _
    by_cases hb : b = artifact.build
    · subst hb
      rw [update_self, hnew]
      simp
    · rw [update_of_ne hb]
      simp [Ne.symm hb]
  | noted hn =>
    cases event <;> first | exact (append_nil _).symm | cases hn
  | _ => exact (append_nil _).symm

variable {attempt : Nat}

theorem Changes.states_of_succeeded {event : RollingTipEvent}
    (h : Changes l time event next) (hrec : l.states b = some ⟨attempt, .succeeded⟩)
    (hq : ∀ attempt, event ≠ .buildStateChanged b .queued attempt) :
    next.states b = some ⟨attempt, .succeeded⟩ := by
  cases h with
  | queued hn =>
    rename_i other
    have ho : b ≠ other := fun heq => hq 1 (by rw [heq])
    exact (update_of_ne ho _ _).trans hrec
  | requeued ho he =>
    rename_i other record
    have hne : b ≠ other := fun heq => hq _ (by rw [heq])
    exact (update_of_ne hne _ _).trans hrec
  | advanced ho hst hr he =>
    rename_i other record state
    by_cases hne : b = other
    · subst hne
      rw [hrec] at ho
      obtain rfl := Option.some.inj ho
      have hs := he (isTerminal_of_rank hr rfl) rfl
      show update l.states b _ b = _
      rw [update_self, hs]
    · exact (update_of_ne hne _ _).trans hrec
  | _ => exact hrec

theorem Published.step (h : Published l) (hst : Step l next) : Published next := by
  obtain ⟨e, sequence, mid, hc, rfl⟩ := hst
  refine ⟨fun b => ?_, fun {first found rest artifact} hs hp hq => ?_⟩
  · show publishedFor b (l.events ++ [e]) = _
    rw [publishedFor_append, h.publishedFor_eq]
    exact (hc.artifacts b).symm
  · show mid.states artifact.build = _
    obtain ⟨rfl, rfl, rfl⟩ | ⟨before, hb, rfl⟩ :=
      KeyedList.concat_eq_append_cons.mp hs
    · rw [hp] at hc
      cases hc with
      | noted hn => cases hn
      | published hr hnew => exact hr
    · refine hc.states_of_succeeded (h.current hb hp ?_) ?_
      · rintro ⟨other, hm, attempt, heq⟩
        exact hq ⟨other, mem_append_left _ hm, attempt, heq⟩
      · intro attempt heq
        exact hq ⟨_, mem_append_right _ (mem_singleton_self _), attempt, heq⟩

/-! ## One attempt at a time -/

/-- **Since some ledger**, an attempt is still open or its end is in the log. -/
def OpenOrEnded (start : RollingTipLedger) (build : BuildKey) (attempt : Nat)
    (ledger : RollingTipLedger) : Prop :=
  ∃ since, ledger.events = start.events ++ since
    ∧ ((∃ state, ledger.states build = some ⟨attempt, state⟩ ∧ state.isTerminal = false)
      ∨ EndedIn build attempt since)

theorem Changes.open_or_ended {event : RollingTipEvent}
    {state : BuildExecutionState} (h : Changes l time event next)
    (hrec : l.states b = some ⟨attempt, state⟩) (hop : state.isTerminal = false) :
    (∃ state, next.states b = some ⟨attempt, state⟩ ∧ state.isTerminal = false)
      ∨ ∃ state, event = .buildStateChanged b state attempt ∧ state.isTerminal := by
  cases h with
  | queued hnew =>
    rename_i other
    have hne : b ≠ other := by
      rintro rfl
      rw [hrec] at hnew
      cases hnew
    exact .inl ⟨state, (update_of_ne hne _ _).trans hrec, hop⟩
  | requeued ho he =>
    rename_i other record
    have hne : b ≠ other := by
      rintro rfl
      rw [hrec] at ho
      obtain rfl := Option.some.inj ho
      rw [hop] at he
      cases he
    exact .inl ⟨state, (update_of_ne hne _ _).trans hrec, hop⟩
  | advanced ho hst hr he =>
    rename_i other record state'
    by_cases hne : b = other
    · subst hne
      rw [hrec] at ho
      obtain rfl := Option.some.inj ho
      cases hend : state'.isTerminal with
      | true => exact .inr ⟨state', rfl, hend⟩
      | false => exact .inl ⟨state', update_self .., hend⟩
    · exact .inl ⟨state, (update_of_ne hne _ _).trans hrec, hop⟩
  | _ => exact .inl ⟨state, hrec, hop⟩

theorem OpenOrEnded.step {start : RollingTipLedger}
    (h : OpenOrEnded start b attempt l) (hsp : Step l next) :
    OpenOrEnded start b attempt next := by
  obtain ⟨since, hs, hc⟩ := h
  obtain ⟨e, sequence, mid, hchg, rfl⟩ := hsp
  refine ⟨since ++ [e], ?_, ?_⟩
  · show l.events ++ [e] = _
    rw [hs, append_assoc]
  · obtain ⟨state, hr, ho⟩ | ⟨found, hm, he⟩ := hc
    · obtain hst | ⟨state', hev, he⟩ := hchg.open_or_ended hr ho
      · exact .inl hst
      · refine .inr ⟨e, mem_append_right _ (mem_singleton_self _), ?_⟩
        exact ⟨state', hev, he⟩
    · exact .inr ⟨found, mem_append_left _ hm, he⟩

theorem openOrEnded_admitTip (h : l.admission b time = .ok .queued) :
    OpenOrEnded (l.after (.admitTip b time)) b (l.nextAttempt b)
      (l.after (.admitTip b time)) := by
  obtain ⟨hl, ha, hf⟩ := of_admission_queued h
  refine ⟨[], (append_nil _).symm, .inl ⟨.queued, ?_, rfl⟩⟩
  rw [after_admit_queued hl ha hf]
  exact update_self ..

/-! ## Admission and publication -/

/-- **Published builds are not rebuilt by admission.** After any calls:

* the log has at most one artifact for a build;
* an admission after its publication answers with that artifact if it answers,
  it does answer a request it looks at unless the build was queued again since,
  and then it is refused as not being the one of the current attempt;
* between two admissions that queue a build, the log has the end of the first
  attempt. -/
theorem admission_after_publication (stream : TipStream) (calls : List LedgerOperation) :
    (∀ b, (publishedFor b ((new stream).runs calls).events).length ≤ 1)
    ∧ (∀ first e rest artifact time, ((new stream).runs calls).events = first ++ e :: rest →
      e.event = .artifactPublished artifact →
      (∀ answer, ((new stream).runs calls).admission artifact.build time = .ok answer →
          answer = .reused artifact)
        ∧ (Ready ((new stream).runs calls) artifact.build time → ¬ QueuedIn artifact.build rest →
          ((new stream).runs calls).admission artifact.build time = .ok (.reused artifact))
        ∧ ∀ error, Ready ((new stream).runs calls) artifact.build time →
          ((new stream).runs calls).admission artifact.build time = .error error →
            error = .artifactExecutionMismatch)
    ∧ ∀ b time more time', ((new stream).runs calls).admission b time = .ok .queued →
      ((((new stream).runs calls).after (.admitTip b time)).runs more).admission b time'
        = .ok .queued →
      ∃ since, ((((new stream).runs calls).after (.admitTip b time)).runs more).events
          = (((new stream).runs calls).after (.admitTip b time)).events ++ since
        ∧ EndedIn b (((new stream).runs calls).nextAttempt b) since := by
  obtain ⟨hcoh, hp⟩ := (coherent_new stream).runs_induction
    (fun _ => Published.step) (published_new stream) calls
  generalize (new stream).runs calls = l at hcoh hp
  refine ⟨fun b => ?_, fun first e rest artifact time hs hev => ?_,
    fun b time more time' hfst hsnd => ?_⟩
  · rw [hp.publishedFor_eq]
    cases l.artifacts b <;> simp
  · have hart : l.artifacts artifact.build = some artifact := by
      have hmem : artifact ∈ (l.artifacts artifact.build).toList := by
        rw [← hp.publishedFor_eq, hs]
        refine mem_filterMap.mpr ⟨e, by simp, ?_⟩
        rw [hev]
        exact if_pos rfl
      exact Option.mem_toList.mp hmem
    refine ⟨fun answer hans => ?_, fun hl hque => ?_, fun error hl herr => ?_⟩
    · have hl : Ready l artifact.build time := by
        by_contra hnot
        exact admission_of_not_ready hnot hans
      rw [admission_of_artifact hl hart] at hans
      split at hans
      · exact (Except.ok.inj hans).symm
      · cases hans
    · rw [admission_of_artifact hl hart, if_pos (hp.current hs hev hque)]
    · rw [admission_of_artifact hl hart] at herr
      split at herr
      · cases herr
      · exact (Except.error.inj herr).symm
  · obtain ⟨ha, since, hsn, hc⟩ := (hcoh.after (.admitTip b time)).runs_induction
      (fun _ => OpenOrEnded.step) (openOrEnded_admitTip hfst) more
    refine ⟨since, hsn, hc.resolve_left ?_⟩
    rintro ⟨state, hrec, ho⟩
    exact (of_admission_queued hsnd).2.2 ((ha.inFlight_iff b).mpr ⟨_, hrec, ho⟩)

/-! ## An artifact of an earlier attempt -/

/-- An artifact. -/
def sampleArtifact : ArtifactProvenance where
  artifactId := "dev-build-1"
  build := sampleBuild
  contentDigest := "sha256:cccccccccccccccccccccccccccccccccccccccccccccccccccccccccccccccc"
  producer := "github-actions"
  producerRunId := 42
  producerAttempt := 1
  executionAttempt := 1

/-- The first attempt succeeds and its artifact is published; then a further
attempt is recorded. -/
def requeueAfterPublication : List LedgerOperation :=
  [.admitTip sampleBuild 1, .recordState sampleBuild .succeeded 1 2,
    .publishArtifact sampleArtifact 3, .recordState sampleBuild .queued 2 4]

-- before the further attempt, an admission answers with the artifact
example : ((new sampleStream).runs (requeueAfterPublication.take 3)).admission sampleBuild 5
    = .ok (.reused sampleArtifact) := by
  decide +kernel

theorem admission_requeueAfterPublication :
    publishedFor sampleBuild ((new sampleStream).runs requeueAfterPublication).events
        = [sampleArtifact]
      ∧ ((new sampleStream).runs requeueAfterPublication).admission sampleBuild 5
        = .error .artifactExecutionMismatch := by
  decide +kernel

end RollingTipLedger

end Glaeda
