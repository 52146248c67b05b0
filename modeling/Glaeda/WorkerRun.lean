import Glaeda.WorkerReconciler
import Glaeda.CatalogRun

/-!
# Runs of one worker

The reconciler names the next thing to do; the transactions of the store do
it. Under one lock a transaction first makes its checkpoint durable and then
issues the external command: it records that the clone started and clones,
it records that the registration started and asks for the registration
secret, it records the runner and that the start was started and starts the
runner. A crash between a checkpoint and its command loses the command, never
the checkpoint.

A run of a worker is any sequence of reconciliations – with whatever was
observed and whatever event arrived – of steps of the transaction they
began, and of crashes. What was issued is kept in a log. The main result is
about the log of every run: **the clone, the registration and the start of
the runner are issued at most once for one attempt**, a machine is only
removed, and a runner only deleted, when exactly the recorded one was
observed, and capacity is only given back when nothing was cloned or when
machine and runner were both observed to be gone.
-/

namespace Glaeda

open Checked DisposableAttemptPhase List Except DisposableAttemptState

/-! ## What a returned effect says about the observations -/

/-- The machine seen is the one of the attempt. -/
def ObservedExactVm (input : DisposableWorkerReconcileInput) : Prop :=
  ∃ identity, input.attempt.vmIdentity = some identity ∧ input.vmIdentity = some identity

section Effects

variable {input : DisposableWorkerReconcileInput} {action : DisposableWorkerAction}

/-- **Every returned effect is allowed.** -/
theorem effectAllowed_of_reconcileAttempt (h : reconcileAttempt input = .ok action) :
    EffectAllowed input action := by
  obtain ⟨code, rfl⟩ | ⟨event, rfl, -⟩ | ⟨ho, hp⟩ := reconcileAttempt_cases h
  · trivial
  · cases event <;> trivial
  · exact Planned.effectAllowed (hp ▸ .withoutEvent ho)

end Effects

/-! ## The transactions -/

/-- **What was done outside**, or to the capacity, each with the input of the
reconciliation that asked for it. -/
inductive ExternalMutation where
  | cloneVm
  | generateJit
  | startRunner
  | discardIncompleteVm (input : DisposableWorkerReconcileInput)
  | destroyVm (input : DisposableWorkerReconcileInput)
  | deleteRunner (input : DisposableWorkerReconcileInput) (runner : ScaleSetRunnerReference)
  | releaseCapacity (input : DisposableWorkerReconcileInput)
  /-- The attempt was completed, after which it no longer counts as holding
  capacity. -/
  | completed (input : DisposableWorkerReconcileInput)
deriving DecidableEq, Repr

/-- **Where a transaction is**: what it will do next, now that the checkpoint
before it is durable. -/
inductive PendingStep where
  | cloneVm
  | bindIdentity
  | generateJit
  | recordRegistration
  | recordStart
  | startRunner
deriving DecidableEq, Repr

/-- **The state of a worker.** -/
structure WorkerState where
  attempt : DisposableAttemptState
  pending : Option PendingStep
  log : List ExternalMutation
deriving DecidableEq, Repr

/-- **What happens to a worker.** -/
inductive WorkerEvent where
  /-- The attempt is reconciled with what was observed; the attempt of the
  input is the durable one. -/
  | reconcile (observed : DisposableWorkerReconcileInput)
  | issue
  | cloned (identity : DisposableVmIdentity)
  | registered (runner : ScaleSetRunnerReference)
  | recordStart
  | crash
deriving DecidableEq, Repr

namespace WorkerState

variable (s : WorkerState)

/-- A command is given. -/
def issued (mutation : ExternalMutation) : WorkerState := { s with log := mutation :: s.log }

/-- Make a transition of the attempt durable and go on; a refused transition
ends the transaction. -/
def checkpoint (result : Except FieldError DisposableAttemptState)
    (next : Option PendingStep) : WorkerState :=
  match result with
  | .ok attempt => { s with attempt, pending := next }
  | .error _ => { s with pending := none }

variable (input : DisposableWorkerReconcileInput)

/-- A step is recorded. -/
def persist (transition : DisposableAttemptCatalogAction) : WorkerState :=
  match s.attempt.perform transition with
  | .ok attempt =>
    let s' : WorkerState := { s with attempt }
    if attempt.phase = .complete ∧ s.attempt.phase ≠ .complete then s'.issued (.completed input)
    else s'
  | .error _ => s

/-- **Do what the reconciler returned**: persist a transition, begin a
transaction with its checkpoint, or issue a command that needs none. -/
def perform : Except ReconcileFailure DisposableWorkerAction → WorkerState
  | .ok (.persist transition) => s.persist input transition
  | .ok .checkpointAndCloneVm => s.checkpoint s.attempt.recordCloneStarted (some .cloneVm)
  | .ok .checkpointAndGenerateJit =>
    s.checkpoint s.attempt.recordJitGenerationStarted (some .generateJit)
  | .ok .discardIncompleteVm => s.issued (.discardIncompleteVm input)
  | .ok .destroyVm => s.issued (.destroyVm input)
  | .ok (.deleteRunner runner) => s.issued (.deleteRunner input runner)
  | .ok .releaseCapacity => s.issued (.releaseCapacity input)
  | .ok (.observe _) | .ok .wait | .ok .noOp | .ok (.blocked _) | .error _ => s

/-- **One event.** The transaction holds the lock, so nothing is reconciled
while one is under way, and an event that is not its next step does not
happen. -/
def step : WorkerEvent → WorkerState
  | .crash => { s with pending := none }
  | .reconcile observed =>
    match s.pending with
    | none =>
      let input := { observed with attempt := s.attempt }
      s.perform input (reconcileAttempt input)
    | some _ => s
  | .issue =>
    match s.pending with
    | some .cloneVm => { s.issued .cloneVm with pending := some .bindIdentity }
    | some .generateJit => { s.issued .generateJit with pending := some .recordRegistration }
    | some .startRunner => { s.issued .startRunner with pending := none }
    | _ => s
  | .cloned identity =>
    match s.pending with
    | some .bindIdentity => s.checkpoint (s.attempt.bindVmIdentityAfterClone identity) none
    | _ => s
  | .registered runner =>
    match s.pending with
    | some .recordRegistration =>
      s.checkpoint (s.attempt.recordRegistration runner) (some .recordStart)
    | _ => s
  | .recordStart =>
    match s.pending with
    | some .recordStart => s.checkpoint s.attempt.recordRunnerStartStarted (some .startRunner)
    | _ => s

/-- A worker at the start. -/
def fresh (attempt : DisposableAttemptState) : WorkerState := ⟨attempt, none, []⟩

/-- **A run.** -/
def run (events : List WorkerEvent) : WorkerState := events.foldl step s

end WorkerState

/-! ## Completing an attempt -/

namespace DisposableAttemptState

variable {s n : DisposableAttemptState}

/-- **An attempt completes in two ways**: before the clone started, or at the
end of the cleanup. -/
theorem completes_of_perform {action : DisposableAttemptCatalogAction}
    (h : s.perform action = .ok n) (hn : n.phase = .complete) (hs : s.phase ≠ .complete) :
    lifecycleRank s.phase < lifecycleRank .cloneStarted ∨ action = .advanceCleanup .complete := by
  have hk : n.phase ≠ s.phase := fun heq => hs (heq ▸ hn)
  have hl {phase : DisposableAttemptPhase} (hph : n.phase = phase)
      (hne : phase ≠ .complete) : False := hne (hph ▸ hn)
  cases action with
  | beginProvisioning => cases h
  | authorizeClone | recordCloneStarted | beginRegistration =>
    exact (hl (performs_of_advancePhase h (by decide) (by decide)).2 (by decide)).elim
  | beginUnprovisionedRelease =>
    exact (hl (performs_of_beginUnprovisionedRelease h).2 (by decide)).elim
  | completeUnprovisioned => exact .inl (completeUnprovisioned_eq_ok h).1
  | recordJitGenerationStarted => exact absurd (performs_of_recordJitGenerationStarted h).2.1 hk
  | recordRunnerStartStarted => exact absurd (performs_of_recordRunnerStartStarted h).2.1 hk
  | recordRegistration runner =>
    obtain ⟨-, -, ⟨rfl, -⟩ | ⟨-, h⟩⟩ := recordRegistration_cases h
    · exact absurd rfl hk
    · exact absurd (phase_of_advanceWith h) hk
  | recordRunnerReady runner =>
    obtain ⟨-, -, ⟨rfl, -⟩ | ⟨phase, -, hph, h⟩⟩ := recordRunnerReady_cases h
    · exact absurd rfl hk
    · refine (hl (phase_of_advanceWith h) ?_).elim
      rintro rfl
      exact absurd hph (by decide)
  | recordAssigned jobId =>
    obtain ⟨-, ⟨rfl, -⟩ | ⟨-, h⟩⟩ := recordAssigned_cases h
    · exact absurd rfl hk
    · exact (hl (phase_of_advanceWith h) (by decide)).elim
  | recordRunning runner jobId =>
    obtain ⟨-, -, -, -, ⟨rfl, -⟩ | ⟨-, -, phase, -, hph, h⟩⟩ := recordRunning_cases h
    · exact absurd rfl hk
    · obtain rfl | ⟨rfl, -⟩ := hph
      · exact (hl (phase_of_advanceWith h) (by decide)).elim
      · exact absurd (phase_of_advanceWith h) hk
  | recordTerminal runner jobId result =>
    obtain ⟨-, -, ⟨rfl, -⟩ | ⟨-, -, -, h⟩⟩ := recordTerminal_cases h
    · exact absurd rfl hk
    · have hph := phase_of_advanceWith h
      split at hph
      · exact absurd hph hk
      · exact (hl hph (by decide)).elim
  | beginCleanup =>
    obtain ⟨rfl, -⟩ | ⟨-, h⟩ := beginCleanup_cases h
    · exact absurd rfl hk
    · exact (hl (phase_of_advanceWith h) (by decide)).elim
  | advanceCleanup phase =>
    rw [← (performs_of_advanceCleanup h).2, hn]
    exact .inr rfl

end DisposableAttemptState

/-! ## What is issued once -/

variable (attempt : DisposableAttemptState)

namespace WorkerState

variable {s t : WorkerState} {mutation : ExternalMutation}
  {marker : DisposableAttemptState → Prop} {ahead issuing : PendingStep → Prop}

/-- **A command that is issued once.** Once it was issued the durable attempt
carries the marker, the marker is there before the transaction issues it, and
it was not issued while a transaction still has it ahead. -/
structure IssuedOnce (mutation : ExternalMutation) (marker : DisposableAttemptState → Prop)
    (ahead issuing : PendingStep → Prop) (s : WorkerState) : Prop where
  once : s.log.count mutation ≤ 1
  marked : s.log.count mutation ≠ 0 → marker s.attempt
  unissued : ∀ p ∈ s.pending, ahead p → s.log.count mutation = 0
  prepared : ∀ p ∈ s.pending, issuing p → marker s.attempt

section

variable (h : IssuedOnce mutation marker ahead issuing s)
    (hlog : t.log.count mutation = s.log.count mutation)
    (hmark : marker s.attempt → marker t.attempt)
include h hlog hmark

/-- **A step that does not issue the command**, and that begins a transaction
that would only when the marker is still missing. -/
theorem IssuedOnce.of_quiet (ha : ∀ p ∈ t.pending, ahead p → s.log.count mutation = 0)
    (hi : ∀ p ∈ t.pending, issuing p → marker t.attempt) :
    IssuedOnce mutation marker ahead issuing t where
  once := hlog ▸ h.once
  marked := fun hne => hmark (h.marked (hlog ▸ hne))
  unissued := fun p hp hap => hlog ▸ ha p hp hap
  prepared := hi

/-- **A step after which the transaction under way is another one.** -/
theorem IssuedOnce.of_other (ho : ∀ q ∈ t.pending, ¬ ahead q ∧ ¬ issuing q) :
    IssuedOnce mutation marker ahead issuing t :=
  h.of_quiet hlog hmark (fun q hq haq => absurd haq (ho q hq).1)
    fun q hq hiq => absurd hiq (ho q hq).2

end

/-- **The step that issues the command.** -/
theorem IssuedOnce.of_issue (h : IssuedOnce mutation marker ahead issuing s) {p : PendingStep}
    (hp : s.pending = some p) (ha : ahead p) (hi : issuing p)
    (next : Option PendingStep) (hn : ∀ q ∈ next, ¬ ahead q ∧ ¬ issuing q) :
    IssuedOnce mutation marker ahead issuing { s.issued mutation with pending := next } where
  once := by
    show (mutation :: s.log).count mutation ≤ 1
    rw [count_cons_self, h.unissued p hp ha]
  marked := fun _ => h.prepared p hp hi
  unissued := fun q hq haq => absurd haq (hn q hq).1
  prepared := fun q hq hiq => absurd hiq (hn q hq).2

/-- The clone was recorded. -/
def CloneMarked : Prop :=
  lifecycleRank .cloneStarted ≤ lifecycleRank attempt.phase

/-- The registration was recorded. -/
def JitMarked : Prop := attempt.jitGenerationStarted = true

/-- The start was recorded. -/
def StartMarked : Prop := attempt.runnerStartStarted = true

/-- The start is still to come. -/
def StartAhead (p : PendingStep) : Prop :=
  p = .generateJit ∨ p = .recordRegistration ∨ p = .recordStart ∨ p = .startRunner

/-- **What justifies an entry of the log**, given the entries before it. -/
def Justified (older : List ExternalMutation) : ExternalMutation → Prop
  | .cloneVm | .generateJit | .startRunner => True
  | .discardIncompleteVm input => input.attempt.phase = .cloneStarted ∧ input.vm = .stopped
      ∧ ObservedExactVm input
  | .destroyVm input => (input.attempt.phase = .destroying
        ∨ input.attempt.phase = .deregistering ∨ input.attempt.phase = .releasing)
      ∧ ObservedExactVm input
  | .deleteRunner input runner => observedRunner input.runner = some runner
      ∧ input.attempt.runnerId = some runner.id ∧ input.attempt.runnerName = runner.name
  | .releaseCapacity input | .completed input => .cloneVm ∉ older
      ∨ (input.vm = .absent ∧ input.runner = .absent)

/-- **The invariant of every run.** -/
structure Sound (s : WorkerState) : Prop where
  clone : IssuedOnce .cloneVm CloneMarked (· = .cloneVm) (· = .cloneVm) s
  jit : IssuedOnce .generateJit JitMarked (· = .generateJit) (· = .generateJit) s
  start : IssuedOnce .startRunner StartMarked StartAhead (· = .startRunner) s
  justified : ∀ mutation older, mutation :: older <:+ s.log → Justified older mutation

/-- A command that is given at most once. -/
def isOnce : ExternalMutation → Bool
  | .cloneVm | .generateJit | .startRunner => true
  | _ => false

/-- **A transition of the attempt keeps the invariant** when the transaction
under way ends with it. -/
theorem Sound.of_extends (h : Sound s) {attempt : DisposableAttemptState}
    (he : s.attempt.Extends attempt) : Sound { s with attempt, pending := none } where
  clone := h.clone.of_quiet rfl (fun hm => le_trans hm he.phase) nofun nofun
  jit := h.jit.of_quiet rfl he.jitGenerationStarted nofun nofun
  start := h.start.of_quiet rfl he.runnerStartStarted nofun nofun
  justified := h.justified

theorem Sound.justified_issued (h : Sound s) (hj : Justified s.log mutation) :
    ∀ m older, m :: older <:+ (s.issued mutation).log → Justified older m := by
  intro m older hs
  obtain heq | hs := suffix_cons_iff.mp hs
  · obtain ⟨rfl, rfl⟩ := cons.inj heq
    exact hj
  · exact h.justified m older hs

/-- **Logging a command that may be repeated keeps the invariant** when the
command is justified. -/
theorem Sound.of_issued (h : Sound s) (ho : isOnce mutation = false)
    (hj : Justified s.log mutation) : Sound (s.issued mutation) where
  clone := h.clone.of_quiet (count_cons_of_ne (by rintro rfl; cases ho)) id
    h.clone.unissued h.clone.prepared
  jit := h.jit.of_quiet (count_cons_of_ne (by rintro rfl; cases ho)) id
    h.jit.unissued h.jit.prepared
  start := h.start.of_quiet (count_cons_of_ne (by rintro rfl; cases ho)) id
    h.start.unissued h.start.prepared
  justified := h.justified_issued hj

/-! ### The observations behind a command -/

section Justification

variable {input : DisposableWorkerReconcileInput} {action : DisposableWorkerAction}

theorem observed_of_reconcileAttempt (h : reconcileAttempt input = .ok action)
    (hb : ∀ code, action ≠ .blocked code)
    (hp : ∀ tr, action ≠ .persist tr) : Observed input := by
  obtain ⟨code, rfl⟩ | ⟨event, rfl, -⟩ | ⟨ho, -⟩ := reconcileAttempt_cases h
  · exact absurd rfl (hb code)
  · exact absurd rfl (hp _)
  · exact ho

/-- **An observed machine is exactly the recorded one**, once one is recorded. -/
theorem observedExactVm_of_observed (h : Observed input)
    (hvm : input.vm = .stopped ∨ input.vm = .ready) (hbd : input.attempt.vmIdentity ≠ none) :
    ObservedExactVm input := by
  obtain ⟨bound, hbd⟩ := Option.ne_none_iff_exists'.mp hbd
  obtain ⟨observed, ho⟩ := Option.isSome_iff_exists.mp (h.identity.mp hvm)
  obtain rfl := h.sameVm bound hbd observed ho
  exact ⟨bound, hbd, ho⟩

theorem vmIdentity_ne_none_of_cleanup {attempt : DisposableAttemptState}
    (h : attempt.phase = .destroying ∨ attempt.phase = .deregistering
      ∨ attempt.phase = .releasing) : attempt.vmIdentity ≠ none := by
  have he := attempt.evidence
  unfold AttemptRecord.validateEvidence at he
  obtain hp | hp | hp := h
  all_goals
    rw [hp] at he
    simpa using he

theorem justified_discardIncompleteVm (h : reconcileAttempt input = .ok .discardIncompleteVm)
    (older : List ExternalMutation) : Justified older (.discardIncompleteVm input) := by
  obtain ⟨hph, hvm⟩ := effectAllowed_of_reconcileAttempt h
  have ho := observed_of_reconcileAttempt h nofun nofun
  refine ⟨hph, hvm, observedExactVm_of_observed ho (.inl hvm) ?_⟩
  exact Option.isSome_iff_ne_none.mp (ho.cloned hph)

theorem justified_destroyVm (h : reconcileAttempt input = .ok .destroyVm)
    (older : List ExternalMutation) : Justified older (.destroyVm input) := by
  obtain ⟨hph, hvm⟩ := effectAllowed_of_reconcileAttempt h
  have ho := observed_of_reconcileAttempt h nofun nofun
  exact ⟨hph, observedExactVm_of_observed ho hvm (vmIdentity_ne_none_of_cleanup hph)⟩

theorem justified_deleteRunner {runner : ScaleSetRunnerReference}
    (h : reconcileAttempt input = .ok (.deleteRunner runner)) (older : List ExternalMutation) :
    Justified older (.deleteRunner input runner) := by
  obtain ⟨hr, hbd⟩ := effectAllowed_of_reconcileAttempt h
  obtain ⟨hn, hid⟩ := (observed_of_reconcileAttempt h nofun nofun).sameRunner runner hr
  obtain ⟨id, hbd⟩ := Option.ne_none_iff_exists'.mp hbd
  exact ⟨hr, by rw [hbd, hid id hbd], hn.symm⟩

/-- **Nothing was cloned before the clone started.** -/
theorem Sound.not_mem_of_rank_lt (h : Sound s)
    (hr : lifecycleRank s.attempt.phase < lifecycleRank .cloneStarted) :
    .cloneVm ∉ s.log := by
  rw [← count_eq_zero]
  by_contra hne
  exact absurd (h.clone.marked hne) (Nat.not_le_of_lt hr)

theorem Sound.justified_releaseCapacity (h : Sound s) (hatt : input.attempt = s.attempt)
    (ha : reconcileAttempt input = .ok .releaseCapacity) :
    Justified s.log (.releaseCapacity input) := by
  obtain hph | ⟨-, hvm, hr⟩ := effectAllowed_of_reconcileAttempt ha
  · refine .inl (h.not_mem_of_rank_lt ?_)
    rw [← hatt, hph]
    decide
  · exact .inr ⟨hvm, hr⟩

theorem Sound.justified_completed (h : Sound s)
    {tr : DisposableAttemptCatalogAction} {n : DisposableAttemptState}
    (ha : reconcileAttempt input = .ok (.persist tr))
    (hn : s.attempt.perform tr = .ok n) (hc : n.phase = .complete)
    (hb : s.attempt.phase ≠ .complete) : Justified s.log (.completed input) := by
  obtain hr | rfl := DisposableAttemptState.completes_of_perform hn hc hb
  · exact .inl (h.not_mem_of_rank_lt hr)
  · obtain ⟨-, hvm, hrnr⟩ := effectAllowed_of_reconcileAttempt ha
    exact .inr ⟨hvm, hrnr⟩

end Justification

/-! ### Steps keep the invariant -/

section Steps

variable {input : DisposableWorkerReconcileInput}

section

variable (h : Sound s)
include h

/-- **Persisting a transition.** -/
theorem Sound.persist (hp : s.pending = none) {tr : DisposableAttemptCatalogAction}
    (ha : reconcileAttempt input = .ok (.persist tr)) :
    Sound (s.persist input tr) := by
  unfold WorkerState.persist
  split
  · rename_i n hn
    have hs : Sound { s with attempt := n } := by
      have := h.of_extends (extends_of_perform hn)
      rwa [← hp] at this
    dsimp only
    split
    · rename_i hc
      exact hs.of_issued rfl (h.justified_completed ha hn hc.1 hc.2)
    · exact hs
  · exact h

variable {result : Except FieldError DisposableAttemptState}

/-- **Ending a transaction with a transition**, or giving up. -/
theorem Sound.checkpoint_none
    (hr : ∀ n, result = .ok n → s.attempt.Extends n) : Sound (s.checkpoint result none) := by
  unfold WorkerState.checkpoint
  split
  · exact h.of_extends (hr _ rfl)
  · exact h.of_extends (.refl _)

/-- **Beginning the clone.** -/
theorem Sound.checkpoint_cloneVm (hph : s.attempt.phase = .cloneAuthorized) :
    Sound (s.checkpoint s.attempt.recordCloneStarted (some .cloneVm)) := by
  unfold WorkerState.checkpoint
  split
  · rename_i n hn
    obtain ⟨hp, hs⟩ := performs_of_advancePhase hn (by decide) (by decide)
    have he := hp.toExtends
    have hu : s.log.count .cloneVm = 0 := by
      rw [count_eq_zero]
      refine h.not_mem_of_rank_lt ?_
      rw [hph]
      decide
    have hm : CloneMarked n := by
      show lifecycleRank .cloneStarted ≤ lifecycleRank n.phase
      rw [hs]
    refine ⟨?_, ?_, ?_, h.justified⟩
    · exact h.clone.of_quiet rfl (fun _ => hm) (fun _ _ _ => hu) fun _ _ _ => hm
    · exact h.jit.of_other rfl he.jitGenerationStarted (by rintro _ ⟨⟩; decide)
    · exact h.start.of_other rfl he.runnerStartStarted (by rintro _ ⟨⟩; simp [StartAhead])
  · exact h.of_extends (.refl _)

/-- **Beginning the registration.** -/
theorem Sound.checkpoint_generateJit (hu : s.attempt.jitGenerationStarted = false) :
    Sound (s.checkpoint s.attempt.recordJitGenerationStarted (some .generateJit)) := by
  unfold WorkerState.checkpoint
  split
  · rename_i n hn
    have he : s.attempt.Extends n := extends_of_perform
      (show s.attempt.perform .recordJitGenerationStarted = .ok n from hn)
    have hmar : JitMarked n := (performs_of_recordJitGenerationStarted hn).2.2
    have hj : s.log.count .generateJit = 0 := by
      by_contra hne
      exact absurd (h.jit.marked hne) (Bool.not_eq_true _ ▸ hu)
    -- a start that had started would need a registration that had started
    have hs : s.log.count .startRunner = 0 := by
      by_contra hne
      have hv := (validate_eq_ok_iff _).mp s.attempt.valid
      have hj := (hv.2.2.1 (h.start.marked hne)).1
      rw [hu] at hj
      cases hj
    refine ⟨?_, ?_, ?_, h.justified⟩
    · exact h.clone.of_other rfl (fun hm => le_trans hm he.phase) (by rintro _ ⟨⟩; decide)
    · exact h.jit.of_quiet rfl (fun _ => hmar) (fun _ _ _ => hj) fun _ _ _ => hmar
    · refine h.start.of_quiet rfl he.runnerStartStarted (fun _ _ _ => hs) ?_
      rintro _ ⟨⟩ hp
      cases hp
  · exact h.of_extends (.refl _)

/-- **The registration transaction goes on** to its next checkpoint. -/
theorem Sound.checkpoint_registration {p q : PendingStep} (hpn : s.pending = some p)
    (hp : StartAhead p)
    (hr : ∀ n, result = .ok n → s.attempt.Extends n) (hc : q ≠ .cloneVm)
    (hj : q ≠ .generateJit) (hs : ∀ n, result = .ok n → q = .startRunner → StartMarked n) :
    Sound (s.checkpoint result (some q)) := by
  unfold WorkerState.checkpoint
  split
  · rename_i n
    have he := hr n rfl
    refine ⟨?_, ?_, ?_, h.justified⟩
    · refine h.clone.of_other rfl (fun hm => le_trans hm he.phase) ?_
      rintro _ ⟨⟩
      exact ⟨hc, hc⟩
    · refine h.jit.of_other rfl he.jitGenerationStarted ?_
      rintro _ ⟨⟩
      exact ⟨hj, hj⟩
    · refine h.start.of_quiet rfl he.runnerStartStarted
        (fun _ _ _ => h.start.unissued p hpn hp) ?_
      rintro _ ⟨⟩ hq
      exact hs n rfl hq
  · exact h.of_extends (.refl _)

/-- **Doing what the reconciler returned.** -/
theorem Sound.perform (hp : s.pending = none) (hatt : input.attempt = s.attempt) :
    Sound (s.perform input (reconcileAttempt input)) := by
  cases ha : reconcileAttempt input with
  | error => exact h
  | ok action =>
    have hal := effectAllowed_of_reconcileAttempt ha
    cases action with
    | persist tr => exact h.persist hp ha
    | checkpointAndCloneVm => exact h.checkpoint_cloneVm (hatt ▸ hal.1)
    | checkpointAndGenerateJit => exact h.checkpoint_generateJit (hatt ▸ hal.1)
    | discardIncompleteVm => exact h.of_issued rfl (justified_discardIncompleteVm ha _)
    | destroyVm => exact h.of_issued rfl (justified_destroyVm ha _)
    | deleteRunner runner => exact h.of_issued rfl (justified_deleteRunner ha _)
    | releaseCapacity => exact h.of_issued rfl (h.justified_releaseCapacity hatt ha)
    | observe | wait | noOp | blocked => exact h

end

theorem count_issued (s : WorkerState) {other : ExternalMutation} (h : mutation ≠ other) :
    (s.issued mutation).log.count other = s.log.count other :=
  count_cons_of_ne h

/-- **Issuing the command of the transaction under way.** -/
theorem Sound.step_issue (h : Sound s) : Sound (s.step .issue) := by
  show Sound (match s.pending with
    | some .cloneVm => { s.issued .cloneVm with pending := some .bindIdentity }
    | some .generateJit => { s.issued .generateJit with pending := some .recordRegistration }
    | some .startRunner => { s.issued .startRunner with pending := none }
    | _ => s)
  split
  · rename_i hp
    refine ⟨h.clone.of_issue hp rfl rfl _ (by rintro _ ⟨⟩; decide), ?_, ?_,
      h.justified_issued trivial⟩
    · exact h.jit.of_other (s.count_issued (show ExternalMutation.cloneVm ≠ _ by decide)) id
        (by rintro _ ⟨⟩; decide)
    · exact h.start.of_other (s.count_issued (show ExternalMutation.cloneVm ≠ _ by decide)) id
        (by rintro _ ⟨⟩; simp [StartAhead])
  · rename_i hp
    refine ⟨?_, h.jit.of_issue hp rfl rfl _ (by rintro _ ⟨⟩; decide), ?_,
      h.justified_issued trivial⟩
    · exact h.clone.of_other (s.count_issued (show ExternalMutation.generateJit ≠ _ by decide)) id
        (by rintro _ ⟨⟩; decide)
    · refine h.start.of_quiet (s.count_issued (show ExternalMutation.generateJit ≠ _ by decide)) id
        (fun _ _ _ => h.start.unissued _ hp (.inl rfl)) ?_
      rintro _ ⟨⟩ hq
      cases hq
  · rename_i hp
    exact ⟨h.clone.of_quiet
      (s.count_issued (show ExternalMutation.startRunner ≠ _ by decide)) id nofun nofun,
      h.jit.of_quiet (s.count_issued (show ExternalMutation.startRunner ≠ _ by decide)) id
        nofun nofun,
      h.start.of_issue hp (.inr (.inr (.inr rfl))) rfl _ nofun, h.justified_issued trivial⟩
  · exact h

/-- **Every event keeps the invariant.** -/
theorem Sound.step (h : Sound s) (event : WorkerEvent) : Sound (s.step event) := by
  cases event with
  | crash => exact h.of_extends (.refl _)
  | issue => exact h.step_issue
  | reconcile observed =>
    cases hp : s.pending with
    | none =>
      simp only [WorkerState.step, hp]
      exact h.perform hp rfl
    | some => simpa only [WorkerState.step, hp] using h
  | cloned identity =>
    simp only [WorkerState.step]
    split
    · exact h.checkpoint_none fun n hn =>
        (advances_of_bindVmIdentityAfterClone hn).toExtends
    · exact h
  | registered runner =>
    simp only [WorkerState.step]
    split
    · rename_i hp
      exact h.checkpoint_registration hp (.inr (.inl rfl))
        (fun n hn => extends_of_perform
          (show s.attempt.perform (.recordRegistration runner) = .ok n from hn))
        nofun nofun fun _ _ hq => absurd hq (by decide)
    · exact h
  | recordStart =>
    simp only [WorkerState.step]
    split
    · rename_i hp
      exact h.checkpoint_registration hp (.inr (.inr (.inl rfl)))
        (fun n hn => extends_of_perform
          (show s.attempt.perform .recordRunnerStartStarted = .ok n from hn))
        nofun nofun
        (fun n hn _ => (performs_of_recordRunnerStartStarted hn).2.2)
    · exact h

/-- **Every run keeps the invariant.** -/
theorem Sound.run (h : Sound s) (events : List WorkerEvent) : Sound (s.run events) := by
  induction events generalizing s with
  | nil => exact h
  | cons event events ih => exact ih (h.step event)

theorem sound_fresh (attempt : DisposableAttemptState) : Sound (fresh attempt) := by
  refine ⟨⟨by simp [fresh], ?_, nofun, nofun⟩, ⟨by simp [fresh], ?_, nofun, nofun⟩,
    ⟨by simp [fresh], ?_, nofun, nofun⟩, fun m older h => ?_⟩
  · exact fun hne => absurd rfl hne
  · exact fun hne => absurd rfl hne
  · exact fun hne => absurd rfl hne
  · exact absurd (suffix_nil.mp h) (cons_ne_nil m older)

end Steps

/-! ## Every run -/

/-- **No command is replayed.** In every run of a worker from its reservation
– whatever is observed, whatever events arrive, wherever it crashes – the
clone, the registration and the start of the runner are each issued at most
once, and every other entry of the log was justified by the durable attempt
and the observations it was made for. -/
theorem run_issues_once (attemptId : DisposableAttemptId) (capacityClaimId : CapacityClaimId)
    (vmId : DisposableVmId) (runnerName : ScaleSetRunnerName)
    (runnerRequestId : ScaleSetRunnerRequestId) (notAfter : EpochMillis)
    (events : List WorkerEvent) :
    let s := (fresh (.reserved attemptId capacityClaimId vmId runnerName runnerRequestId
      notAfter)).run events
    s.log.count .cloneVm ≤ 1 ∧ s.log.count .generateJit ≤ 1 ∧ s.log.count .startRunner ≤ 1
      ∧ ∀ mutation older, mutation :: older <:+ s.log → Justified older mutation := by
  intro s
  have h : Sound s := (sound_fresh _).run events
  exact ⟨h.clone.once, h.jit.once, h.start.once, h.justified⟩

/-- An attempt. -/
def sampleAttempt : DisposableAttemptState := numberedReserved ⟨0, Nat.succ_pos _⟩

/-- What is seen of it. -/
def sampleObservation (vm : DisposableVmObservation)
    (vmIdentity : Option DisposableVmIdentity) : DisposableWorkerReconcileInput :=
  ⟨.first _, sampleAttempt, vm, vmIdentity, .absent, none, true, false⟩

/-- The clone is authorised, begun and issued, its machine is identified, and
is then found stopped. -/
def interruptedClone : List WorkerEvent :=
  [.reconcile (sampleObservation .absent none), .reconcile (sampleObservation .absent none),
    .issue, .cloned sampleVmIdentity,
    .reconcile (sampleObservation .stopped (some sampleVmIdentity))]

/-- The newest command, if it is a discard. -/
def newestDiscard : List ExternalMutation → Option DisposableWorkerReconcileInput
  | .discardIncompleteVm input :: _ => some input
  | _ => none

theorem eq_cons_of_newestDiscard {log : List ExternalMutation}
    {input : DisposableWorkerReconcileInput} (h : newestDiscard log = some input) :
    ∃ older, log = .discardIncompleteVm input :: older := by
  unfold newestDiscard at h
  split at h
  · obtain rfl := Option.some.inj h
    exact ⟨_, rfl⟩
  · cases h

/-- **A machine is also removed outside a cleanup.** A clone that was issued
and identified, and whose machine is then found stopped, is discarded while
the attempt is still in its clone phase. -/
theorem run_discards_in_cloneStarted :
    ∃ input older,
      .discardIncompleteVm input :: older <:+ ((fresh sampleAttempt).run interruptedClone).log
        ∧ input.attempt.phase ∉ [.destroying, .deregistering, .releasing, .complete] := by
  have hd : ∃ input ∈ newestDiscard ((fresh sampleAttempt).run interruptedClone).log,
      input.attempt.phase = .cloneStarted := by decide +kernel
  obtain ⟨input, hi, hph⟩ := hd
  obtain ⟨older, hlog⟩ := eq_cons_of_newestDiscard hi
  refine ⟨input, older, by rw [hlog], ?_⟩
  rw [hph]
  decide

end WorkerState

end Glaeda
