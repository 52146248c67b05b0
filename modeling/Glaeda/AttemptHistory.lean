import Glaeda.AttemptState

/-!
# Attempt histories

What a transition can do to an attempt is said here once. An accepted
transition either returns the attempt it was given or raises the revision by
one and *extends* the attempt: identities stay, evidence that is present
stays as it is, checkpoints stay crossed, and the phase does not move back.
Both results about the attempt state machine are read off that.

The first is about **whole histories**. Extending is reflexive and
transitive, so it holds between any two points of a run, and a counting
argument bounds the revision: each transition of a cleaning attempt uses up
one of the few things that can still happen to it, so no attempt ever gets
past revision sixteen and the revision space is never exhausted.

The second is about **the successor check**. A store that receives two
attempts cannot know which transition connects them, and guesses its
arguments from the later one. The guess is right: whatever runner, job or
result a transition was given is found in the attempt it returns. What the
check does not do is tell an attempt from itself – advancing the cleanup to
the phase the attempt is already in returns it unchanged – so an attempt
always passes as its own successor.
-/

namespace Glaeda

open Checked AttemptRecord Except

namespace DisposableAttemptPhase

/-- **The place of a phase in the life of an attempt.** The program lists
the phases in no particular order and never compares them: an attempt that
was authorised to clone may still give up and release, so releasing comes
after the authorisation here, although it is listed before it. -/
def lifecycleRank : DisposableAttemptPhase → Nat
  | .reserved => 0
  | .cloneAuthorized => 1
  | .unprovisionedReleasing => 2
  | .provisioning => 3
  | .cloneStarted => 4
  | .registering => 5
  | .waiting => 6
  | .assigned => 7
  | .running => 8
  | .terminal => 9
  | .destroying => 10
  | .deregistering => 11
  | .releasing => 12
  | .complete => 13

/-- The place of a phase determines it, so an attempt that moved on never
returns to a phase it left. -/
theorem lifecycleRank_injective : Function.Injective lifecycleRank := by
  intro p q h
  cases p <;> cases q <;> first | rfl | (simp [lifecycleRank] at h)

end DisposableAttemptPhase

open DisposableAttemptPhase

namespace DisposableAttemptState

variable {s t n : DisposableAttemptState}
variable {phase : DisposableAttemptPhase} {runnerId : Option ScaleSetRunnerId}
variable {githubJobId : Option ScaleSetJobId} {result : Option ScaleSetJobResult}
variable {runner : ScaleSetRunnerReference} {jobId : ScaleSetJobId}

/-! ## What validation says about a phase -/

/-- **A record validates exactly when every guard passes.** -/
theorem validate_eq_ok_iff (r : AttemptRecord) :
    r.validate = .ok () ↔ r.schemaVersion = disposableAttemptStateSchemaVersion
      ∧ (r.result ≠ none → r.githubJobId ≠ none)
      ∧ (r.runnerStartStarted = true →
        r.jitGenerationStarted = true ∧ r.vmIdentity ≠ none ∧ r.runnerId ≠ none)
      ∧ (r.jitGenerationStarted = true → r.vmIdentity ≠ none)
      ∧ (r.runnerId ≠ none → r.jitGenerationStarted = true)
      ∧ (∀ result ∈ r.result, r.runnerStartStarted = false → result.value = "canceled")
      ∧ AttemptRecord.revisionShapeValid r.phase r.revision.val
      ∧ r.validateEvidence = .ok ()
      ∧ (r.phase = .complete → r.revision.val ≤ 4 → r.vmIdentity = none
        ∧ r.runnerId = none ∧ r.jitGenerationStarted = false
        ∧ r.runnerStartStarted = false ∧ r.githubJobId = none ∧ r.result = none)
      ∧ (r.phase = .complete → 4 < r.revision.val → r.vmIdentity ≠ none) := by
  unfold validate
  simp only [guard_bind_eq_ok, refuseIf_eq_ok, not_not, not_and, not_exists, not_or,
    Option.isNone_iff_eq_none, Option.isSome_iff_ne_none, ne_eq, Bool.not_eq_true,
    Bool.not_eq_false]

theorem revision_shape (s : DisposableAttemptState) :
    AttemptRecord.revisionShapeValid s.phase s.revision.val :=
  ((validate_eq_ok_iff _).mp s.valid).2.2.2.2.2.2.1

theorem evidence (s : DisposableAttemptState) : s.validateEvidence = .ok () :=
  ((validate_eq_ok_iff _).mp s.valid).2.2.2.2.2.2.2.1

/-- **No runner before registration, no job before assignment, no result
before the end.** -/
theorem unrecorded (s : DisposableAttemptState) :
    (lifecycleRank s.phase < lifecycleRank .registering → s.runnerId = none)
      ∧ (lifecycleRank s.phase < lifecycleRank .assigned → s.githubJobId = none)
      ∧ (lifecycleRank s.phase < lifecycleRank .terminal → s.result = none) := by
  have he := s.evidence
  unfold validateEvidence at he
  cases hp : s.phase <;> simp_all [lifecycleRank]

/-! ## Extending an attempt -/

/-- **A later attempt extends an earlier one.** The identities of the
reservation are the same, evidence that was recorded is recorded unchanged,
checkpoints that were crossed stay crossed, and the phase has not moved
back. -/
structure Extends (s n : DisposableAttemptState) : Prop where
  schemaVersion : n.schemaVersion = s.schemaVersion
  attemptId : n.attemptId = s.attemptId
  capacityClaimId : n.capacityClaimId = s.capacityClaimId
  vmId : n.vmId = s.vmId
  runnerName : n.runnerName = s.runnerName
  runnerRequestId : n.runnerRequestId = s.runnerRequestId
  notAfter : n.notAfter = s.notAfter
  vmIdentity : ∀ v, s.vmIdentity = some v → n.vmIdentity = some v
  runnerId : ∀ v, s.runnerId = some v → n.runnerId = some v
  githubJobId : ∀ v, s.githubJobId = some v → n.githubJobId = some v
  result : ∀ v, s.result = some v → n.result = some v
  jitGenerationStarted : s.jitGenerationStarted = true → n.jitGenerationStarted = true
  runnerStartStarted : s.runnerStartStarted = true → n.runnerStartStarted = true
  phase : lifecycleRank s.phase ≤ lifecycleRank n.phase

theorem Extends.refl (s : DisposableAttemptState) : Extends s s :=
  ⟨rfl, rfl, rfl, rfl, rfl, rfl, rfl, fun _ h => h, fun _ h => h, fun _ h => h,
    fun _ h => h, fun h => h, fun h => h, le_refl _⟩

theorem Extends.trans (h : Extends s t) (h' : Extends t n) : Extends s n where
  schemaVersion := h'.schemaVersion.trans h.schemaVersion
  attemptId := h'.attemptId.trans h.attemptId
  capacityClaimId := h'.capacityClaimId.trans h.capacityClaimId
  vmId := h'.vmId.trans h.vmId
  runnerName := h'.runnerName.trans h.runnerName
  runnerRequestId := h'.runnerRequestId.trans h.runnerRequestId
  notAfter := h'.notAfter.trans h.notAfter
  vmIdentity := fun v hv => h'.vmIdentity v (h.vmIdentity v hv)
  runnerId := fun v hv => h'.runnerId v (h.runnerId v hv)
  githubJobId := fun v hv => h'.githubJobId v (h.githubJobId v hv)
  result := fun v hv => h'.result v (h.result v hv)
  jitGenerationStarted := fun hv => h'.jitGenerationStarted (h.jitGenerationStarted hv)
  runnerStartStarted := fun hv => h'.runnerStartStarted (h.runnerStartStarted hv)
  phase := le_trans h.phase h'.phase

/-- **One accepted transition that changes the attempt.** It extends the
attempt, raises the revision by one and – once the job has ended or the
cleanup has begun – visibly changes the phase, the runner or the job
evidence, so that only so many of them can follow. -/
structure Advances (s n : DisposableAttemptState) : Prop extends Extends s n where
  revision : n.revision.val = s.revision.val + 1
  progress : lifecycleRank .terminal ≤ lifecycleRank s.phase →
    ¬ (n.phase = s.phase ∧ n.runnerId = s.runnerId ∧ n.githubJobId = s.githubJobId
      ∧ n.result = s.result)

/-- **One accepted action that changes the attempt**: the machine stays the same. -/
structure Performs (s n : DisposableAttemptState) : Prop extends Advances s n where
  machine : n.vmIdentity = s.vmIdentity

/-- **What `advanceWith` does**: it sets its four fields and the revision
and keeps every other field. -/
theorem advanceWith_eq_ok :
    s.advanceWith phase runnerId githubJobId result = .ok n
      ↔ n.revision.val = s.revision.val + 1 ∧ n.toAttemptRecord = { s.toAttemptRecord with
          revision := n.revision, runnerId, phase, githubJobId, result } := by
  unfold advanceWith
  simp only [bind_eq_ok, DisposableAttemptRevision.next_eq_ok, accept_eq_ok]
  constructor
  · rintro ⟨revision, hr, hn⟩
    have hnr : n.revision = revision := by rw [hn]
    rw [hnr]
    exact ⟨hr, hn⟩
  · rintro ⟨hr, hn⟩
    exact ⟨n.revision, hr, hn⟩

theorem phase_of_advanceWith (h : s.advanceWith phase runnerId githubJobId result = .ok n) :
    n.phase = phase := by
  rw [(advanceWith_eq_ok.mp h).2]

/-- An accepted `advanceWith` advances the attempt as soon as it moves
forward and overwrites no evidence with other evidence. -/
theorem Performs.of_advanceWith (h : s.advanceWith phase runnerId githubJobId result = .ok n)
    (hph : lifecycleRank s.phase ≤ lifecycleRank phase)
    (hrnr : ∀ v, s.runnerId = some v → runnerId = some v)
    (hj : ∀ v, s.githubJobId = some v → githubJobId = some v)
    (hr : ∀ v, s.result = some v → result = some v)
    (hp : lifecycleRank .terminal ≤ lifecycleRank s.phase →
      ¬ (phase = s.phase ∧ runnerId = s.runnerId ∧ githubJobId = s.githubJobId
        ∧ result = s.result)) : Performs s n := by
  obtain ⟨hrev, hn⟩ := advanceWith_eq_ok.mp h
  refine ⟨⟨?_, hrev, ?_⟩, ?_⟩
  · constructor <;> rw [hn]
    · exact fun _ hv => hv
    · exact hrnr
    · exact hj
    · exact hr
    · exact fun hv => hv
    · exact fun hv => hv
    · exact hph
  · rw [hn]
    exact hp
  · rw [hn]

/-! ## One lemma per transition -/

/-- A runner passes when it has the recorded name and contradicts no
recorded number. -/
theorem validateRunner_eq_ok {id : ScaleSetRunnerId} :
    s.validateRunner runner = .ok id ↔ runner.name = s.runnerName
      ∧ (∀ v, s.runnerId = some v → v = runner.id) ∧ runner.id = id := by
  unfold validateRunner
  simp

theorem validateJob_eq_ok {u : Unit} :
    s.validateJob jobId = .ok u ↔ ∀ v, s.githubJobId = some v → v = jobId := by
  unfold validateJob
  simp

theorem performs_of_advancePhase {expected : DisposableAttemptPhase}
    (h : s.advancePhase expected phase = .ok n)
    (he : lifecycleRank expected < lifecycleRank .terminal)
    (hf : lifecycleRank expected ≤ lifecycleRank phase) : Performs s n ∧ n.phase = phase := by
  unfold advancePhase at h
  simp only [bind_eq_ok, refuseIf_eq_ok, not_not] at h
  obtain ⟨_, hexp, h⟩ := h
  rw [← hexp] at he hf
  exact ⟨.of_advanceWith h hf (fun _ hv => hv) (fun _ hv => hv) (fun _ hv => hv)
    (fun hl => absurd hl (not_le.mpr he)), phase_of_advanceWith h⟩

/-- A transition that raises the revision and writes no field but the
machine identity or a checkpoint. -/
theorem advances_of_accept {vmIdentity : Option DisposableVmIdentity} {jit start : Bool} (h : (do
      let revision ← s.revision.next
      accept { s.toAttemptRecord with
        revision, vmIdentity, jitGenerationStarted := jit, runnerStartStarted := start })
      = .ok n)
    (hvm : ∀ v, s.vmIdentity = some v → vmIdentity = some v)
    (hj : s.jitGenerationStarted = true → jit = true)
    (hs : s.runnerStartStarted = true → start = true)
    (he : lifecycleRank s.phase < lifecycleRank .terminal) :
    Advances s n ∧ n.toAttemptRecord = { s.toAttemptRecord with
      revision := n.revision, vmIdentity, jitGenerationStarted := jit,
      runnerStartStarted := start } := by
  simp only [bind_eq_ok, DisposableAttemptRevision.next_eq_ok, accept_eq_ok] at h
  obtain ⟨revision, hr, hn⟩ := h
  obtain rfl : n.revision = revision := by rw [hn]
  refine ⟨⟨?_, hr, fun hl => absurd hl (not_le.mpr he)⟩, hn⟩
  constructor <;> rw [hn]
  · exact hvm
  · exact fun _ hv => hv
  · exact fun _ hv => hv
  · exact fun _ hv => hv
  · exact hj
  · exact hs

theorem advances_of_bindVmIdentityAfterClone {identity : DisposableVmIdentity}
    (h : s.bindVmIdentityAfterClone identity = .ok n) : Advances s n := by
  unfold bindVmIdentityAfterClone at h
  rw [bind_eq_ok] at h
  obtain ⟨_, hg, h⟩ := h
  simp only [refuseIf_eq_ok, not_or, not_not] at hg
  obtain ⟨hph, _, hu⟩ := hg
  refine (advances_of_accept h ?_ (fun hv => hv) (fun hv => hv) (by rw [hph]; decide)).1
  intro v hv
  simp [hv] at hu

theorem performs_of_recordJitGenerationStarted (h : s.recordJitGenerationStarted = .ok n) :
    (n = s ∨ Performs s n) ∧ n.phase = s.phase ∧ n.jitGenerationStarted = true := by
  unfold recordJitGenerationStarted at h
  rw [bind_eq_ok] at h
  obtain ⟨_, hg, h⟩ := h
  rw [refuseIf_eq_ok, not_or, not_not] at hg
  split at h
  · rename_i hs
    obtain rfl := ok.inj h
    exact ⟨.inl rfl, rfl, hs⟩
  · have he : lifecycleRank s.phase < lifecycleRank .terminal := by
      obtain hph | hph := hg.1 <;> rw [hph] <;> decide
    obtain ⟨ha, hn⟩ :=
      advances_of_accept h (fun _ hv => hv) (fun _ => rfl) (fun hv => hv) he
    refine ⟨.inr ⟨ha, ?_⟩, ?_⟩ <;> rw [hn]
    exact ⟨rfl, rfl⟩

theorem performs_of_recordRunnerStartStarted (h : s.recordRunnerStartStarted = .ok n) :
    (n = s ∨ Performs s n) ∧ n.phase = s.phase ∧ n.runnerStartStarted = true := by
  unfold recordRunnerStartStarted at h
  rw [bind_eq_ok] at h
  obtain ⟨_, hg, h⟩ := h
  rw [refuseIf_eq_ok, not_or, not_not] at hg
  split at h
  · rename_i hs
    obtain rfl := ok.inj h
    exact ⟨.inl rfl, rfl, hs⟩
  · have he : lifecycleRank s.phase < lifecycleRank .terminal := by
      obtain hph | hph := hg.1 <;> rw [hph] <;> decide
    obtain ⟨ha, hn⟩ :=
      advances_of_accept h (fun _ hv => hv) (fun hv => hv) (fun _ => rfl) he
    refine ⟨.inr ⟨ha, ?_⟩, ?_⟩ <;> rw [hn]
    exact ⟨rfl, rfl⟩

theorem performs_of_unprovisioned (h : s.advanceWith phase none none none = .ok n)
    (he : lifecycleRank s.phase < lifecycleRank .cloneStarted)
    (hf : lifecycleRank s.phase ≤ lifecycleRank phase) : Performs s n := by
  obtain ⟨hrnr, hj, hr⟩ := s.unrecorded
  refine .of_advanceWith h hf ?_ ?_ ?_ ?_
  · simp [hrnr (lt_trans he (by decide))]
  · simp [hj (lt_trans he (by decide))]
  · simp [hr (lt_trans he (by decide))]
  · intro hl
    exact absurd (lt_trans he (by decide)) (not_lt.mpr hl)

theorem performs_of_beginUnprovisionedRelease (h : s.beginUnprovisionedRelease = .ok n) :
    Performs s n ∧ n.phase = .unprovisionedReleasing := by
  unfold beginUnprovisionedRelease at h
  split at h
  case h_1 hph | h_2 hph =>
    exact ⟨performs_of_unprovisioned h (by rw [hph]; decide) (by rw [hph]; decide),
      phase_of_advanceWith h⟩
  case h_3 => cases h

theorem completeUnprovisioned_eq_ok (h : s.completeUnprovisioned = .ok n) :
    lifecycleRank s.phase < lifecycleRank .cloneStarted
      ∧ s.advanceWith .complete none none none = .ok n := by
  unfold completeUnprovisioned at h
  split at h
  case h_1 hph | h_2 hph | h_3 hph => exact ⟨by rw [hph]; decide, h⟩
  case h_4 => cases h

/-- **What an accepted registration does**: it was already recorded, or it
records the number of the runner and nothing else. -/
theorem recordRegistration_cases (h : s.recordRegistration runner = .ok n) :
    runner.name = s.runnerName ∧ (∀ v, s.runnerId = some v → v = runner.id)
      ∧ ((n = s ∧ s.runnerId = some runner.id)
        ∨ (s.runnerId ≠ some runner.id
          ∧ s.advanceWith s.phase (some runner.id) s.githubJobId s.result = .ok n)) := by
  unfold recordRegistration at h
  simp only [bind_eq_ok] at h
  obtain ⟨_, _, _, _, runnerId, hr, h⟩ := h
  obtain ⟨hn, hs, rfl⟩ := validateRunner_eq_ok.mp hr
  refine ⟨hn, hs, ?_⟩
  split at h
  · rename_i hbd
    exact .inl ⟨(ok.inj h).symm, hbd⟩
  · rename_i hu
    exact .inr ⟨hu, h⟩

theorem performs_of_recordRegistration
    (h : s.recordRegistration runner = .ok n) : n = s ∨ Performs s n := by
  obtain ⟨_, hs, ⟨rfl, _⟩ | ⟨hunb, h⟩⟩ := recordRegistration_cases h
  · exact .inl rfl
  · refine .inr (.of_advanceWith h (le_refl _) ?_ (fun _ hv => hv) (fun _ hv => hv) ?_)
    · intro v hv
      rw [hs v hv]
    · exact fun _ hu => hunb hu.2.1.symm

/-- **What an accepted readiness does**: it changes nothing, or it records
the runner of an attempt whose job has not ended. -/
theorem recordRunnerReady_cases (h : s.recordRunnerReady runner = .ok n) :
    runner.name = s.runnerName ∧ (∀ v, s.runnerId = some v → v = runner.id)
      ∧ ((n = s ∧ s.runnerId = some runner.id)
        ∨ ∃ phase, lifecycleRank s.phase ≤ lifecycleRank phase
          ∧ lifecycleRank phase < lifecycleRank .terminal
          ∧ s.advanceWith phase (some runner.id) s.githubJobId none = .ok n) := by
  unfold recordRunnerReady at h
  simp only [bind_eq_ok] at h
  obtain ⟨runnerId, hrnr, _, _, h⟩ := h
  obtain ⟨hn, hs, rfl⟩ := validateRunner_eq_ok.mp hrnr
  refine ⟨hn, hs, ?_⟩
  split at h
  case h_1 hph =>
    have hjob : s.githubJobId = none := s.unrecorded.2.1 (by rw [hph]; decide)
    rw [hph, hjob]
    exact .inr ⟨.waiting, by decide, by decide, h⟩
  case h_2 hph =>
    split at h
    · rw [hph]
      exact .inr ⟨.assigned, by decide, by decide, h⟩
    · split at h
      · rename_i hbd
        exact .inl ⟨(ok.inj h).symm, hbd⟩
      · cases h
  case h_6 => cases h
  all_goals
    split at h
    · rename_i hbd
      exact .inl ⟨(ok.inj h).symm, hbd⟩
    · cases h

theorem performs_of_recordRunnerReady
    (h : s.recordRunnerReady runner = .ok n) : n = s ∨ Performs s n := by
  obtain ⟨_, hs, ⟨rfl, _⟩ | ⟨phase, hf, hph, h⟩⟩ := recordRunnerReady_cases h
  · exact .inl rfl
  · have he := lt_of_le_of_lt hf hph
    refine .inr (.of_advanceWith h hf ?_ (fun _ hv => hv) ?_ ?_)
    · intro v hv
      rw [hs v hv]
    · simp [s.unrecorded.2.2 he]
    · exact fun hl => absurd hl (not_le.mpr he)

/-- **What an accepted assignment does**: it changes nothing, or it records
the job of an attempt that had none. -/
theorem recordAssigned_cases (h : s.recordAssigned jobId = .ok n) :
    (∀ v, s.githubJobId = some v → v = jobId)
      ∧ ((n = s ∧ s.githubJobId = some jobId
          ∧ (s.phase = .assigned ∨ s.phase = .running ∨ s.phase = .terminal))
        ∨ ((s.phase = .registering ∨ s.phase = .waiting)
          ∧ s.advanceWith .assigned s.runnerId (some jobId) none = .ok n)) := by
  unfold recordAssigned at h
  rw [bind_eq_ok] at h
  obtain ⟨_, hj, h⟩ := h
  rw [validateJob_eq_ok] at hj
  refine ⟨hj, ?_⟩
  split at h
  case h_1 hph => exact .inr ⟨.inl hph, h⟩
  case h_2 hph => exact .inr ⟨.inr hph, h⟩
  case h_6 => cases h
  all_goals
    rename_i hph
    split at h
    · rename_i hbd
      exact .inl ⟨(ok.inj h).symm, hbd, by simp [hph]⟩
    · cases h

theorem performs_of_recordAssigned (h : s.recordAssigned jobId = .ok n) : n = s ∨ Performs s n := by
  obtain ⟨hj, ⟨rfl, _⟩ | ⟨hph, h⟩⟩ := recordAssigned_cases h
  · exact .inl rfl
  · have he : lifecycleRank s.phase < lifecycleRank .assigned := by
      obtain hph | hph := hph <;> rw [hph] <;> decide
    have hb : lifecycleRank s.phase < lifecycleRank .terminal := lt_trans he (by decide)
    refine .inr (.of_advanceWith h (le_of_lt he) (fun _ hv => hv) ?_ ?_ ?_)
    · intro v hv
      rw [hj v hv]
    · simp [s.unrecorded.2.2 hb]
    · exact fun hl => absurd hl (not_le.mpr hb)

/-- **What an accepted start does**: it was already recorded, or it records
runner and job of an attempt without a result. -/
theorem recordRunning_cases (h : s.recordRunning runner jobId = .ok n) :
    runner.name = s.runnerName ∧ (∀ v, s.runnerId = some v → v = runner.id)
      ∧ (∀ v, s.githubJobId = some v → v = jobId)
      ∧ s.runnerStartStarted = true
      ∧ ((n = s ∧ s.runnerId = some runner.id ∧ s.githubJobId = some jobId
          ∧ lifecycleRank .running ≤ lifecycleRank s.phase)
        ∨ (s.result = none
          ∧ (lifecycleRank .terminal ≤ lifecycleRank s.phase →
            ¬ (s.runnerId = some runner.id ∧ s.githubJobId = some jobId))
          ∧ ∃ phase, lifecycleRank s.phase ≤ lifecycleRank phase
            ∧ (phase = .running ∨ (phase = s.phase ∧ isCleanup phase))
            ∧ s.advanceWith phase (some runner.id) (some jobId) none = .ok n)) := by
  unfold recordRunning at h
  simp only [bind_eq_ok] at h
  obtain ⟨runnerId, hrnr, _, hs, _, hjob, h⟩ := h
  obtain ⟨hn, hsm, rfl⟩ := validateRunner_eq_ok.mp hrnr
  rw [validateJob_eq_ok] at hjob
  refine ⟨hn, hsm, hjob, by simpa using hs, ?_⟩
  split at h
  case h_1 hph | h_2 hph | h_3 hph =>
    have hres : s.result = none := s.unrecorded.2.2 (by rw [hph]; decide)
    rw [hph]
    exact .inr ⟨hres, fun hl => absurd hl (by decide), .running, by decide, .inl rfl, h⟩
  case h_4 hph | h_5 hph =>
    split at h
    · rename_i hbd
      exact .inl ⟨(ok.inj h).symm, hbd.1, hbd.2, by simp [hph, lifecycleRank]⟩
    · cases h
  case h_10 => cases h
  all_goals
    -- a late start: either it is already recorded, or it binds runner and job
    rename_i hph
    simp only [bind_eq_ok] at h
    obtain ⟨_, _, h⟩ := h
    split at h
    · split at h
      · rename_i hbd
        exact .inl ⟨(ok.inj h).symm, hbd.1, hbd.2, by rw [hph]; decide⟩
      · cases h
    · rename_i hnoR
      split at h
      · rename_i hbd
        exact .inl ⟨(ok.inj h).symm, hbd.1, hbd.2, by rw [hph]; decide⟩
      · rename_i hunb
        exact .inr ⟨by simpa using hnoR, fun _ => hunb, s.phase,
          le_refl _, .inr ⟨rfl, by rw [hph]; decide⟩, h⟩

theorem performs_of_recordRunning (h : s.recordRunning runner jobId = .ok n) :
    n = s ∨ Performs s n := by
  obtain ⟨_, hs, hj, _, ⟨rfl, _⟩ | ⟨hn, hunb, phase, hf, _, h⟩⟩ :=
    recordRunning_cases h
  · exact .inl rfl
  · refine .inr (.of_advanceWith h hf ?_ ?_ (by simp [hn]) ?_)
    · intro v hv
      rw [hs v hv]
    · intro v hv
      rw [hj v hv]
    · exact fun hl hu =>
        hunb hl ⟨hu.2.1.symm, hu.2.2.1.symm⟩

variable {observed : Option ScaleSetRunnerId}

/-- An observed runner has the recorded name and contradicts no recorded
number. -/
theorem observeRunner_eq_ok {runner : Option ScaleSetRunnerReference} :
    s.observeRunner runner = .ok observed ↔ runner.map (·.id) = observed
      ∧ ∀ r, runner = some r → r.name = s.runnerName ∧ ∀ v, s.runnerId = some v → v = r.id := by
  cases runner with
  | none => simp [observeRunner]
  | some r =>
    unfold observeRunner
    simp only [map_eq_ok, validateRunner_eq_ok, Option.map_some, Option.some.injEq]
    constructor
    · rintro ⟨id, ⟨hn, hs, rfl⟩, hid⟩
      refine ⟨hid, ?_⟩
      rintro _ rfl
      exact ⟨hn, hs⟩
    · rintro ⟨hid, hr⟩
      exact ⟨r.id, ⟨(hr r rfl).1, (hr r rfl).2, rfl⟩, hid⟩

theorem terminalRunner_eq_ok :
    s.terminalRunner observed = .ok runnerId ↔ s.runnerId.or observed = runnerId
      ∧ ∀ v w, s.runnerId = some v → observed = some w → v = w := by
  unfold terminalRunner
  cases s.runnerId <;> cases observed <;> simp
  rename_i v w
  by_cases h : v = w <;> simp [h]

section

variable {runner : Option ScaleSetRunnerReference} {result : ScaleSetJobResult}
    (h : s.recordTerminal runner jobId result = .ok n)
include h

/-- **What an accepted terminal observation does**: it was already recorded,
or it records job and result, moves to the end unless the cleanup began, and
binds the observed runner unless one is bound. -/
theorem recordTerminal_cases :
    (∀ v, s.githubJobId = some v → v = jobId)
      ∧ (∀ r, runner = some r → r.name = s.runnerName ∧ ∀ v, s.runnerId = some v → v = r.id)
      ∧ ((n = s ∧ s.githubJobId = some jobId ∧ s.result = some result
          ∧ ∀ r, runner = some r → s.runnerId = some r.id)
        ∨ (s.result = none ∧ s.phase ≠ .terminal
          ∧ (isCleanup s.phase ∨ lifecycleRank s.phase < lifecycleRank .terminal)
          ∧ s.advanceWith (if isCleanup s.phase then s.phase else .terminal)
            (s.runnerId.or (runner.map (·.id))) (some jobId) (some result) = .ok n)) := by
  unfold recordTerminal at h
  simp only [bind_eq_ok, validateJob_eq_ok, observeRunner_eq_ok] at h
  obtain ⟨_, ⟨rfl, hrnr⟩, _, hjob, _, _, h⟩ := h
  refine ⟨hjob, hrnr, ?_⟩
  split at h
  case h_1 current hcur =>
    split at h
    · rename_i hs
      refine .inl ⟨(ok.inj h).symm, hs.1, by rw [hcur, hs.2.1], ?_⟩
      rintro r rfl
      exact hs.2.2 r.id rfl
    · cases h
  case h_2 hn =>
    simp only [bind_eq_ok, refuseIf_eq_ok, terminalRunner_eq_ok] at h
    obtain ⟨_, ht, _, _, _, hph, _, ⟨rfl, _⟩, h⟩ := h
    refine .inr ⟨hn, ht, ?_, h⟩
    by_cases hc : isCleanup s.phase
    · exact .inl hc
    · refine .inr ?_
      simp only [hc, not_false_eq_true, true_and, not_not] at hph
      obtain hp | hp | hp | hp | hp := hph <;> rw [hp] <;> decide

theorem performs_of_recordTerminal : n = s ∨ Performs s n := by
  obtain ⟨hj, _, ⟨rfl, _⟩ | ⟨hn, _, hph, h⟩⟩ := recordTerminal_cases h
  · exact .inl rfl
  · refine .inr (.of_advanceWith h ?_ ?_ ?_ (by simp [hn]) (by simp [hn]))
    · split
      · exact le_refl _
      · rename_i hc
        exact le_of_lt (hph.resolve_left hc)
    · intro v hv
      rw [hv]
      rfl
    · intro v hv
      rw [hj v hv]

end

/-- **What an accepted cleanup does**: it began already, or it begins. -/
theorem beginCleanup_cases (h : s.beginCleanup = .ok n) :
    (n = s ∧ isCleanup s.phase)
      ∨ (lifecycleRank s.phase < lifecycleRank .destroying
        ∧ s.advanceWith .destroying s.runnerId s.githubJobId s.result = .ok n) := by
  unfold beginCleanup at h
  split at h
  case h_1 | h_2 | h_3 | h_4 => cases h
  case h_11 hph | h_12 hph | h_13 hph | h_14 hph =>
    exact .inl ⟨(ok.inj h).symm, by rw [hph]; decide⟩
  all_goals
    rename_i hph
    exact .inr ⟨by rw [hph]; decide, h⟩

theorem performs_of_beginCleanup (h : s.beginCleanup = .ok n) : n = s ∨ Performs s n := by
  obtain ⟨rfl, -⟩ | ⟨hph, h⟩ := beginCleanup_cases h
  · exact .inl rfl
  · refine .inr (.of_advanceWith h hph.le (fun _ hv => hv) (fun _ hv => hv) (fun _ hv => hv) ?_)
    exact fun _ hu => absurd (congrArg lifecycleRank hu.1) hph.ne'

theorem performs_of_advanceCleanup (h : s.advanceCleanup phase = .ok n) :
    (n = s ∨ Performs s n) ∧ n.phase = phase := by
  unfold advanceCleanup at h
  split at h
  · rename_i hph
    obtain rfl := ok.inj h
    exact ⟨.inl rfl, hph⟩
  · rename_i hne
    simp only [bind_eq_ok, refuseIf_eq_ok, not_not] at h
    obtain ⟨_, hval, h⟩ := h
    refine ⟨.inr (.of_advanceWith h ?_ (fun _ hv => hv) (fun _ hv => hv) (fun _ hv => hv)
      (fun _ hu => hne hu.1.symm)), phase_of_advanceWith h⟩
    simp only [List.mem_cons, Prod.mk.injEq, List.not_mem_nil, or_false] at hval
    obtain ⟨hp, rfl⟩ | ⟨hp, rfl⟩ | ⟨hp, rfl⟩ := hval <;> rw [hp] <;> decide

section

variable {act : DisposableAttemptCatalogAction} (h : s.perform act = .ok n)
include h

/-- **Every action returns the attempt unchanged or advances it**, on the same
machine. -/
theorem eq_or_performs_of_perform : n = s ∨ Performs s n := by
  cases act with
  | beginProvisioning => cases h
  | authorizeClone | recordCloneStarted | beginRegistration =>
    exact .inr (performs_of_advancePhase h (by decide) (by decide)).1
  | beginUnprovisionedRelease => exact .inr (performs_of_beginUnprovisionedRelease h).1
  | completeUnprovisioned =>
    obtain ⟨he, h⟩ := completeUnprovisioned_eq_ok h
    exact .inr (performs_of_unprovisioned h he (he.le.trans (by decide)))
  | recordJitGenerationStarted => exact (performs_of_recordJitGenerationStarted h).1
  | recordRegistration runner => exact performs_of_recordRegistration h
  | recordRunnerStartStarted => exact (performs_of_recordRunnerStartStarted h).1
  | recordRunnerReady runner => exact performs_of_recordRunnerReady h
  | recordAssigned jobId => exact performs_of_recordAssigned h
  | recordRunning runner jobId => exact performs_of_recordRunning h
  | recordTerminal runner jobId result => exact performs_of_recordTerminal h
  | beginCleanup => exact performs_of_beginCleanup h
  | advanceCleanup phase => exact (performs_of_advanceCleanup h).1

theorem eq_or_advances_of_perform : n = s ∨ Advances s n :=
  (eq_or_performs_of_perform h).imp_right (·.toAdvances)

theorem extends_of_perform : Extends s n := by
  obtain rfl | ha := eq_or_advances_of_perform h
  · exact .refl _
  · exact ha.toExtends

theorem vmIdentity_of_perform : n.vmIdentity = s.vmIdentity := by
  obtain rfl | hp := eq_or_performs_of_perform h
  · rfl
  · exact hp.machine

end

/-! ## The revision is bounded

A cleaning attempt can still move through the remaining cleanup phases, and
each of runner, job and result can still be recorded once. Nothing else can
happen to it, and every transition uses one of these up. -/

/-- The steps left of a cleanup. -/
def cleanupSteps : DisposableAttemptPhase → Nat
  | .destroying => 3
  | .deregistering => 2
  | .releasing => 1
  | _ => 0

/-- The evidence that can still come. -/
def openEvidence (s : DisposableAttemptState) : Nat :=
  s.runnerId.isNone.toNat + s.githubJobId.isNone.toNat + s.result.isNone.toNat

/-- **The budget of an attempt.** During the cleanup, the revision and what
can still raise it stay within sixteen; a job that ended without a runner
ended early. -/
structure Budgeted (s : DisposableAttemptState) : Prop where
  cleanup : isCleanup s.phase → s.revision.val + cleanupSteps s.phase + s.openEvidence ≤ 16
  runnerless : s.phase = .terminal → s.runnerId = none → s.revision.val ≤ 8

theorem cleanup_or_terminal_or_early (phase : DisposableAttemptPhase) :
    isCleanup phase ∨ phase = .terminal ∨ lifecycleRank phase < lifecycleRank .terminal := by
  cases phase <;> decide

theorem revision_le_of_runnerless
    (h : lifecycleRank s.phase < lifecycleRank .terminal) (hr : s.runnerId = none) :
    s.revision.val ≤ 7 := by
  have he := s.evidence
  have hs := s.revision_shape
  unfold validateEvidence at he
  cases hp : s.phase <;> simp [hp, lifecycleRank] at h <;>
    simp [hp, hr, revisionShapeValid, registrationHistory] at he hs <;>
    omega

theorem revision_add_openEvidence_le (h : lifecycleRank s.phase < lifecycleRank .terminal) :
    s.revision.val + s.openEvidence ≤ 12 := by
  have hrnr := Bool.toNat_le s.runnerId.isNone
  have hjob := Bool.toNat_le s.githubJobId.isNone
  have hres := Bool.toNat_le s.result.isNone
  unfold openEvidence
  cases hr : s.runnerId with
  | none =>
    have hrev := revision_le_of_runnerless h hr
    simp only [hr] at hrnr
    omega
  | some id =>
    have he := s.evidence
    have hs := s.revision_shape
    unfold validateEvidence at he
    cases hp : s.phase <;> simp [hp, lifecycleRank] at h <;>
      simp [hp, hr, revisionShapeValid] at he hs
    all_goals cases hj : s.githubJobId <;> simp_all <;> omega

theorem isNone_toNat_of_writeOnce {α : Type} {x y : Option α} (h : ∀ v, x = some v → y = some v) :
    (y = x ∧ y.isNone.toNat = x.isNone.toNat) ∨ y.isNone.toNat + 1 = x.isNone.toNat := by
  cases x with
  | none => cases y <;> simp
  | some v => simp [h v rfl]

/-- **Evidence is unchanged or less of it is open.** -/
theorem Extends.openEvidence_cases (h : Extends s n) :
    (n.runnerId = s.runnerId ∧ n.githubJobId = s.githubJobId ∧ n.result = s.result
        ∧ n.openEvidence = s.openEvidence)
      ∨ n.openEvidence < s.openEvidence := by
  unfold openEvidence
  obtain ⟨hrnr, _⟩ | _ := isNone_toNat_of_writeOnce h.runnerId <;>
    obtain ⟨hj, _⟩ | _ := isNone_toNat_of_writeOnce h.githubJobId <;>
    obtain ⟨hr, _⟩ | _ := isNone_toNat_of_writeOnce h.result <;>
    first
      | exact .inl ⟨hrnr, hj, hr, by omega⟩
      | exact .inr (by omega)

theorem Budgeted.revision_add_openEvidence_le (h : Budgeted s)
    (hph : ¬ isCleanup s.phase) : s.revision.val + s.openEvidence ≤ 12 := by
  obtain hc | ht | her := cleanup_or_terminal_or_early s.phase
  · exact absurd hc hph
  · have he := s.evidence
    have hs := s.revision_shape
    have hrun := h.runnerless ht
    unfold validateEvidence at he
    simp only [ht, refuseIf_eq_ok, revisionShapeValid, not_or, Bool.not_eq_true] at he hs
    unfold openEvidence
    rw [he.2.1, he.2.2]
    cases hr : s.runnerId with
    | none =>
      have := hrun hr
      simp only [Option.isNone_none, Bool.toNat_true, Bool.toNat_false]
      omega
    | some id =>
      simp only [Option.isNone_some, Bool.toNat_false]
      omega
  · exact DisposableAttemptState.revision_add_openEvidence_le her

/-- A phase after a cleanup phase is a cleanup phase with fewer steps ahead,
or the same phase. -/
theorem cleanupSteps_lt_of_lifecycleRank_le {p q : DisposableAttemptPhase}
    (h : lifecycleRank p ≤ lifecycleRank q) (hp : isCleanup p) :
    isCleanup q ∧ (q = p ∨ cleanupSteps q < cleanupSteps p) := by
  unfold isCleanup at *
  obtain rfl | rfl | rfl | rfl := hp <;> cases q <;> simp_all [lifecycleRank, cleanupSteps]

theorem cleanupSteps_le (phase : DisposableAttemptPhase) : cleanupSteps phase ≤ 3 := by
  cases phase <;> decide

/-- **A transition keeps the budget.** -/
theorem Advances.budgeted (h : Advances s n) (hs : Budgeted s) : Budgeted n := by
  have hrev := h.revision
  have ho := h.openEvidence_cases
  constructor
  · intro _
    by_cases hc : isCleanup s.phase
    · -- within the cleanup a step, or a piece of evidence, is used up
      have hb := hs.cleanup hc
      obtain ⟨_, hph⟩ := cleanupSteps_lt_of_lifecycleRank_le h.phase hc
      have hl : lifecycleRank .terminal ≤ lifecycleRank s.phase := by
        obtain hp | hp | hp | hp := hc <;> rw [hp] <;> decide
      have hpr := h.progress hl
      obtain hph | hph := hph
      · rw [hph]
        obtain ⟨hrnr, hjob, hres, _⟩ | hlt := ho
        · exact absurd ⟨hph, hrnr, hjob, hres⟩ hpr
        · omega
      · obtain ⟨_, _, _, heq⟩ | hlt := ho <;> omega
    · have hr := hs.revision_add_openEvidence_le hc
      have hsp := cleanupSteps_le n.phase
      obtain ⟨_, _, _, heq⟩ | hlt := ho <;> omega
  · intro ht hrnr
    have hfwd := h.phase
    rw [ht] at hfwd
    have hsn : s.runnerId = none := by
      cases hsr : s.runnerId with
      | none => rfl
      | some v => rw [h.runnerId v hsr] at hrnr; cases hrnr
    obtain her | heq := Nat.lt_or_eq_of_le hfwd
    · have := revision_le_of_runnerless her hsn
      omega
    · -- a job that has ended without a runner has nothing left to record
      have hst : s.phase = .terminal := lifecycleRank_injective heq
      have he := s.evidence
      unfold validateEvidence at he
      simp only [hst, refuseIf_eq_ok, not_or, Option.isNone_iff_eq_none] at he
      obtain ⟨job, hjob⟩ := Option.ne_none_iff_exists'.mp he.2.1
      obtain ⟨result, hres⟩ := Option.ne_none_iff_exists'.mp he.2.2
      refine absurd ⟨?_, ?_, ?_, ?_⟩ (h.progress (le_of_eq heq.symm))
      · rw [ht, hst]
      · rw [hrnr, hsn]
      · rw [h.githubJobId job hjob, hjob]
      · rw [h.result result hres, hres]

/-- **A budgeted attempt is at revision sixteen at most.** -/
theorem Budgeted.revision_le (h : Budgeted s) : s.revision.val ≤ 16 := by
  by_cases hc : isCleanup s.phase
  · have := h.cleanup hc
    omega
  · have := h.revision_add_openEvidence_le hc
    omega

/-! ## Refusals -/

/-- The revisions did not run out. -/
def NotExhausted (e : FieldError) : Prop := e.code ≠ "revision_conflict"

theorem notExhausted (message : String) :
    NotExhausted (invalidDocument message) ∧ NotExhausted (invalidTransition message)
      ∧ NotExhausted (identityDrift message) := by
  simp [NotExhausted, invalidDocument, invalidTransition, identityDrift]

theorem accept_refusesOnly (r : AttemptRecord) : RefusesOnly NotExhausted (accept r) := by
  have hv : RefusesOnly NotExhausted r.validate := by
    unfold validate validateEvidence
    repeat' first
      | exact .ok
      | exact .refuseIf (notExhausted _).1
      | exact .error (notExhausted _).1
      | exact .refuseIf (by unfold NotExhausted; decide)
      | refine .bind ?_ (fun _ => ?_)
      | split
  intro e he
  exact hv e (accept_eq_error.mp he)

theorem next_refusesOnly (h : s.revision.val < maxDisposableAttemptRevision) :
    RefusesOnly NotExhausted s.revision.next := by
  intro e he
  have := (BoundedRevision.new_succ_eq_error.mp he).2
  omega

theorem validateRunner_refusesOnly (runner : ScaleSetRunnerReference) :
    RefusesOnly NotExhausted (s.validateRunner runner) :=
  .bind (.refuseIf (notExhausted _).2.2) (fun _ =>
    .bind (.refuseIf (notExhausted _).2.2) (fun _ => .ok))

/-- **No action fails for an exhausted revision space** below the bound. -/
theorem perform_refusesOnly (h : s.revision.val < maxDisposableAttemptRevision)
    (act : DisposableAttemptCatalogAction) :
    RefusesOnly NotExhausted (s.perform act) := by
  cases act <;>
    simp only [perform, beginProvisioning, authorizeClone, recordCloneStarted,
      beginUnprovisionedRelease, completeUnprovisioned, beginRegistration,
      recordJitGenerationStarted, recordRegistration, recordRunnerStartStarted,
      recordRunnerReady, recordAssigned, recordRunning, recordTerminal, beginCleanup,
      advanceCleanup, advancePhase, advanceWith, validateJob, pure_eq_ok, throw_eq_error]
  all_goals
    repeat' with_reducible first
      | exact .ok
      | exact accept_refusesOnly _
      | exact next_refusesOnly h
      | exact validateRunner_refusesOnly _
      | exact .refuseIf (notExhausted _).2.1
      | exact .refuseIf (notExhausted _).2.2
      | exact .error (notExhausted _).2.1
      | exact .error (notExhausted _).2.2
      | refine .bind ?_ (fun _ => ?_)
      | refine .map ?_
      | split
      | unfold observeRunner
      | unfold terminalRunner

end DisposableAttemptState

/-! ## Runs -/

/-- **Everything that can be done to an attempt**: a catalog action, or the
binding of the machine identity by the clone runtime. -/
inductive AttemptAction where
  | catalog (action : DisposableAttemptCatalogAction)
  | bindVmIdentityAfterClone (identity : DisposableVmIdentity)
deriving DecidableEq, Repr

namespace DisposableAttemptState

variable {s n : DisposableAttemptState}
variable {runner : ScaleSetRunnerReference} {jobId : ScaleSetJobId}

/-- One action on an attempt. -/
def act (s : DisposableAttemptState) :
    AttemptAction → Except FieldError DisposableAttemptState
  | .catalog action => s.perform action
  | .bindVmIdentityAfterClone identity => s.bindVmIdentityAfterClone identity

/-- The attempt after an action, refused or not. -/
def afterAction (s : DisposableAttemptState) (action : AttemptAction) : DisposableAttemptState :=
  match s.act action with
  | .ok n => n
  | .error _ => s

/-- The attempt after some actions. -/
def run (s : DisposableAttemptState) (actions : List AttemptAction) : DisposableAttemptState :=
  actions.foldl afterAction s

/-- **An accepted action returns the attempt unchanged or advances it.** -/
theorem eq_or_advances_of_act {act : AttemptAction} (h : s.act act = .ok n) :
    n = s ∨ Advances s n := by
  cases act with
  | catalog act => exact eq_or_advances_of_perform h
  | bindVmIdentityAfterClone identity =>
    exact .inr (advances_of_bindVmIdentityAfterClone h)

theorem act_refusesOnly (h : s.revision.val < maxDisposableAttemptRevision)
    (act : AttemptAction) : RefusesOnly NotExhausted (s.act act) := by
  cases act with
  | catalog act => exact perform_refusesOnly h act
  | bindVmIdentityAfterClone identity =>
    exact .bind (.refuseIf (notExhausted _).2.1) (fun _ =>
      .bind (next_refusesOnly h) (fun _ => accept_refusesOnly _))

theorem extends_and_budgeted_of_act {act : AttemptAction} (h : s.act act = .ok n)
    (hs : Budgeted s) : Extends s n ∧ Budgeted n := by
  obtain rfl | ha := eq_or_advances_of_act h
  · exact ⟨.refl n, hs⟩
  · exact ⟨ha.toExtends, ha.budgeted hs⟩

/-- **One step of a run** extends the attempt and keeps its budget. -/
theorem afterAction_spec (act : AttemptAction) (hs : Budgeted s) :
    Extends s (s.afterAction act) ∧ Budgeted (s.afterAction act) := by
  unfold afterAction
  split
  · rename_i n hn
    exact extends_and_budgeted_of_act hn hs
  · exact ⟨.refl s, hs⟩

/-- **A whole run** extends the attempt and keeps its budget. -/
theorem run_spec (actions : List AttemptAction) (hs : Budgeted s) :
    Extends s (s.run actions) ∧ Budgeted (s.run actions) := by
  induction actions generalizing s with
  | nil => exact ⟨.refl s, hs⟩
  | cons act actions ih =>
    obtain ⟨he, hb⟩ := afterAction_spec act hs
    obtain ⟨he', hb'⟩ := ih hb
    exact ⟨he.trans he', hb'⟩

theorem budgeted_of_reserved (h : s.phase = .reserved) : Budgeted s where
  cleanup := fun hc => by simp [isCleanup, h] at hc
  runnerless := fun ht => by simp [h] at ht

/-- Actions lead to the attempt from a new one. -/
def Reachable (s : DisposableAttemptState) : Prop :=
  ∃ attemptId capacityClaimId vmId runnerName runnerRequestId notAfter actions,
    s = (reserved attemptId capacityClaimId vmId runnerName runnerRequestId
      notAfter).run actions

theorem Reachable.budgeted (h : Reachable s) : Budgeted s := by
  obtain ⟨attemptId, capacityClaimId, vmId, runnerName, runnerRequestId, notAfter,
    actions, rfl⟩ := h
  exact (run_spec actions (budgeted_of_reserved rfl)).2

/-- **The history of an attempt is write-once and bounded.** At every point
of every run from a reservation the attempt extends the reservation, and
every later point extends it; whatever is tried next is refused for another
reason than an exhausted revision space, or returns the attempt unchanged,
or extends it and raises the revision by exactly one; and no revision
exceeds sixteen. -/
theorem run_write_once_and_bounded (attemptId : DisposableAttemptId)
    (capacityClaimId : CapacityClaimId) (vmId : DisposableVmId)
    (runnerName : ScaleSetRunnerName) (runnerRequestId : ScaleSetRunnerRequestId)
    (notAfter : EpochMillis) (actions later : List AttemptAction)
    (act : AttemptAction) :
    let reservation := reserved attemptId capacityClaimId vmId runnerName runnerRequestId notAfter
    let s := reservation.run actions
    Extends reservation s ∧ Extends s (s.run later) ∧ s.revision.val ≤ 16 ∧ match s.act act with
        | .ok n => (n = s ∨ n.revision.val = s.revision.val + 1) ∧ Extends s n ∧ n.revision.val ≤ 16
        | .error e => e.code ≠ "revision_conflict" := by
  intro reservation s
  obtain ⟨hext, hs⟩ := run_spec (s := reservation) actions (budgeted_of_reserved rfl)
  refine ⟨hext, (run_spec later hs).1, hs.revision_le, ?_⟩
  split
  · rename_i n hn
    obtain ⟨hext, hn'⟩ := extends_and_budgeted_of_act hn hs
    exact ⟨(eq_or_advances_of_act hn).imp_right (·.revision), hext, hn'.revision_le⟩
  · rename_i e he
    have hm : (16 : Nat) < maxDisposableAttemptRevision := by decide
    exact act_refusesOnly (lt_of_le_of_lt hs.revision_le hm) act e he

/-! ## The successor check -/

theorem recordRegistration_runner (h : s.recordRegistration runner = .ok n) :
    n.runnerId = some runner.id ∧ n.runnerName = runner.name := by
  obtain ⟨hn, _, ⟨rfl, hbd⟩ | ⟨_, h⟩⟩ := recordRegistration_cases h
  · exact ⟨hbd, hn.symm⟩
  · rw [(advanceWith_eq_ok.mp h).2]
    exact ⟨rfl, hn.symm⟩

theorem recordRunnerReady_runner (h : s.recordRunnerReady runner = .ok n) :
    n.runnerId = some runner.id ∧ n.runnerName = runner.name := by
  obtain ⟨hn, _, ⟨rfl, hbd⟩ | ⟨_, _, _, h⟩⟩ := recordRunnerReady_cases h
  · exact ⟨hbd, hn.symm⟩
  · rw [(advanceWith_eq_ok.mp h).2]
    exact ⟨rfl, hn.symm⟩

theorem recordAssigned_job (h : s.recordAssigned jobId = .ok n) : n.githubJobId = some jobId := by
  obtain ⟨_, ⟨rfl, hbd, _⟩ | ⟨_, h⟩⟩ := recordAssigned_cases h
  · exact hbd
  · rw [(advanceWith_eq_ok.mp h).2]

theorem recordRunning_evidence (h : s.recordRunning runner jobId = .ok n) :
    n.runnerId = some runner.id ∧ n.runnerName = runner.name ∧ n.githubJobId = some jobId := by
  obtain ⟨hn, _, _, _, ⟨rfl, hr, hj, _⟩ | ⟨_, _, _, _, _, h⟩⟩ := recordRunning_cases h
  · exact ⟨hr, hn.symm, hj⟩
  · rw [(advanceWith_eq_ok.mp h).2]
    exact ⟨rfl, hn.symm, rfl⟩

theorem recordTerminal_evidence {runner : Option ScaleSetRunnerReference}
    {result : ScaleSetJobResult}
    (h : s.recordTerminal runner jobId result = .ok n) :
    n.githubJobId = some jobId ∧ n.result = some result
      ∧ ∀ r, runner = some r → n.runnerId = some r.id ∧ n.runnerName = r.name := by
  obtain ⟨_, hrnr, ⟨rfl, hj, hres, hbd⟩ | ⟨_, _, _, h⟩⟩ := recordTerminal_cases h
  · exact ⟨hj, hres, fun r hr => ⟨hbd r hr, (hrnr r hr).1.symm⟩⟩
  · rw [(advanceWith_eq_ok.mp h).2]
    refine ⟨rfl, rfl, ?_⟩
    rintro r rfl
    obtain ⟨hn, hsm⟩ := hrnr r rfl
    refine ⟨?_, hn.symm⟩
    cases hs : s.runnerId with
    | none => simp
    | some v => simp [hsm v hs]

theorem guessedRunner (h : n.runnerId = some runner.id ∧ n.runnerName = runner.name) :
    n.runnerId.map (fun id => ScaleSetRunnerReference.mk id n.runnerName) = some runner := by
  rw [h.1, h.2]
  rfl

/-- **The check accepts what an action returns.** Each case names the
arguments the check guesses. -/
theorem isExactSuccessorOf_of_perform {act : DisposableAttemptCatalogAction}
    (h : s.perform act = .ok n) : n.isExactSuccessorOf s = true := by
  unfold isExactSuccessorOf
  simp only [Bool.or_eq_true, decide_eq_true_eq, Option.any_eq_true]
  cases act with
  | beginProvisioning => cases h
  | recordRegistration runner =>
    have := guessedRunner (recordRegistration_runner h)
    exact .inl (.inr ⟨runner, this, .inl h⟩)
  | recordRunnerReady runner =>
    have := guessedRunner (recordRunnerReady_runner h)
    exact .inl (.inr ⟨runner, this, .inr h⟩)
  | recordAssigned jobId =>
    exact .inr ⟨jobId, recordAssigned_job h, .inl (.inl h)⟩
  | recordRunning runner jobId =>
    obtain ⟨hrnr, hn, hjob⟩ := recordRunning_evidence h
    exact .inr ⟨jobId, hjob, .inl (.inr ⟨runner, guessedRunner ⟨hrnr, hn⟩, h⟩)⟩
  | recordTerminal runner jobId result =>
    obtain ⟨hjob, hres, hrnr⟩ := recordTerminal_evidence h
    refine .inr ⟨jobId, hjob, .inr ⟨result, hres, ?_⟩⟩
    cases runner with
    | none => exact .inl h
    | some r => exact .inr ⟨r, guessedRunner (hrnr r rfl), h⟩
  | advanceCleanup phase =>
    obtain rfl := (performs_of_advanceCleanup h).2
    exact .inl (.inl (.inr h))
  | authorizeClone | recordCloneStarted | beginUnprovisionedRelease
  | completeUnprovisioned | beginRegistration | recordJitGenerationStarted
  | recordRunnerStartStarted | beginCleanup =>
    simp only [perform] at h
    simp only [h, true_or, or_true]

/-- **What the check accepts, an action returns.** -/
theorem exists_perform_of_isExactSuccessorOf (h : n.isExactSuccessorOf s = true) :
    ∃ act, s.perform act = .ok n := by
  unfold isExactSuccessorOf at h
  simp only [Bool.or_eq_true, decide_eq_true_eq, Option.any_eq_true] at h
  obtain (((((((((h | h) | h) | h) | h) | h) | h) | h) | h)
    | ⟨runner, _, h | h⟩)
    | ⟨jobId, _, (h | ⟨runner, _, h⟩) | ⟨result, _, h | ⟨runner, _, h⟩⟩⟩ := h
  · exact ⟨.authorizeClone, h⟩
  · exact ⟨.recordCloneStarted, h⟩
  · exact ⟨.beginUnprovisionedRelease, h⟩
  · exact ⟨.completeUnprovisioned, h⟩
  · exact ⟨.beginRegistration, h⟩
  · exact ⟨.recordJitGenerationStarted, h⟩
  · exact ⟨.recordRunnerStartStarted, h⟩
  · exact ⟨.beginCleanup, h⟩
  · exact ⟨.advanceCleanup n.phase, h⟩
  · exact ⟨.recordRegistration runner, h⟩
  · exact ⟨.recordRunnerReady runner, h⟩
  · exact ⟨.recordAssigned jobId, h⟩
  · exact ⟨.recordRunning runner jobId, h⟩
  · exact ⟨.recordTerminal none jobId result, h⟩
  · exact ⟨.recordTerminal (some runner) jobId result, h⟩

theorem advanceCleanup_phase (s : DisposableAttemptState) : s.advanceCleanup s.phase = .ok s := by
  unfold advanceCleanup
  rw [if_pos rfl]
  rfl

/-- **The successor check is exact up to the attempt itself.** It accepts
the attempt itself, what some action makes of it, and nothing else. -/
theorem isExactSuccessorOf_iff_eq_or_perform (s n : DisposableAttemptState) :
    n.isExactSuccessorOf s = true ↔ n = s ∨ ∃ act, s.perform act = .ok n ∧ n ≠ s := by
  constructor
  · intro h
    obtain ⟨act, ha⟩ := exists_perform_of_isExactSuccessorOf h
    by_cases hn : n = s
    · exact .inl hn
    · exact .inr ⟨act, ha, hn⟩
  · rintro (rfl | ⟨act, ha, _⟩)
    · have ha : n.perform (.advanceCleanup n.phase) = .ok n := advanceCleanup_phase n
      exact isExactSuccessorOf_of_perform ha
    · exact isExactSuccessorOf_of_perform ha

/-- A fresh reservation passes as its own successor, although no action
returns an attempt that differs from itself. -/
theorem isExactSuccessorOf_reservation_itself :
    ∃ s n : DisposableAttemptState, n.isExactSuccessorOf s = true
      ∧ ¬ ∃ act, s.perform act = .ok n ∧ n ≠ s := by
  let s := reserved ⟨"attempt-1", by decide⟩ ⟨"claim-1", by decide⟩ ⟨"w-1", by decide⟩
    ⟨"smolrunner-1", by decide⟩ ⟨1, by decide, by decide⟩ ⟨1000, by decide, by decide⟩
  refine ⟨s, s, by decide, ?_⟩
  rintro ⟨_, _, hne⟩
  exact hne rfl

end DisposableAttemptState

end Glaeda
