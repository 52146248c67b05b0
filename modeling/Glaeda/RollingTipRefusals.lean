import Glaeda.RollingTipAdmission
import Glaeda.RollingTipStore

/-!
# What a refused operation leaves in the ledger

An operation of the ledger that refuses should leave it as it was. All but one
do, because they make their checks before they append: they **refuse first**.
Admission appends the observation of the tip before it looks at the artifact of
the build, and refuses an artifact that was not published by the current
attempt after that. Everything else that stands behind the observation cannot
refuse, since the room for all events was checked in front.
-/

namespace Glaeda

namespace RollingTipLedger

open Checked Transaction Tx RefusesFirst

variable {ledger : RollingTipLedger} {build : BuildKey} {time : Nat} {event : RollingTipEvent}

/-! ## Operations that refuse first -/

theorem refusesFirst_append : RefusesFirst (append time event) ledger :=
  .read_bind (.check_bind fun _ => refusesFirst_of_ok run_perform)

theorem refusesFirst_append_perform {update : RollingTipLedger → RollingTipLedger} :
    RefusesFirst (append time event >>= fun _ => Tx.perform update) ledger :=
  refusesFirst_append.bind fun _ _ => ⟨_, _, run_perform⟩

theorem refusesFirst_acquireLease {lease : ActiveLease} :
    RefusesFirst (acquireLease lease time) ledger :=
  .read_bind (.check_bind fun _ => .check_bind fun _ => refusesFirst_append_perform)

theorem refusesFirst_releaseLease {lease : ActiveLease} :
    RefusesFirst (releaseLease lease time) ledger :=
  .read_bind (.check_bind fun _ => .check_bind fun _ => .check_bind fun _ => .check_bind fun _ =>
    .check_bind fun _ => refusesFirst_append_perform)

theorem refusesFirst_recordLease {leaseId hostId : String} {acquired : Bool} :
    RefusesFirst (recordLease build leaseId hostId acquired time) ledger := by
  refine .read_bind (.check_bind fun record => ?_)
  cases acquired with
  | true => exact refusesFirst_acquireLease
  | false => exact .check_bind fun active => refusesFirst_releaseLease

theorem refusesFirst_publishArtifact {artifact : ArtifactProvenance} :
    RefusesFirst (publishArtifact artifact time) ledger := by
  refine .read_bind (.check_bind fun _ => .check_bind fun _ => .check_bind fun execution =>
    .check_bind fun _ => ?_)
  split
  · exact fun _ _ => rfl
  · exact .check_bind fun _ => refusesFirst_append_perform

/-! ## Admission -/

/-- **An admission that finds a stale artifact**: the tip may be observed, and the
artifact of its build was not published by the current, successful attempt. -/
def FindsStaleArtifact (ledger : RollingTipLedger) : LedgerOperation → Prop
  | .admitTip build time => Ready ledger build time ∧ ∃ artifact,
      ledger.artifacts build = some artifact
        ∧ ledger.states build ≠ some ⟨artifact.executionAttempt, .succeeded⟩
  | _ => False

theorem refusesFirst_admitTip (h : ¬ ledger.FindsStaleArtifact (.admitTip build time)) :
    RefusesFirst (admitTip build time) ledger := by
  by_cases hr : Ready ledger build time
  · cases ha : ledger.artifacts build with
    | some artifact =>
      by_cases hst : ledger.states build = some ⟨artifact.executionAttempt, .succeeded⟩
      · exact refusesFirst_of_ok (run_admit_reused hr ha hst)
      · exact absurd ⟨hr, artifact, ha, hst⟩ h
    | none =>
      by_cases hf : build ∈ ledger.inFlight
      · exact refusesFirst_of_ok (run_admit_inFlight hr ha hf)
      · exact refusesFirst_of_ok (run_admit_queued hr ha hf)
  · obtain ⟨error, hrun⟩ := run_admit_of_not_ready hr
    intro _ _
    rw [hrun]

theorem FindsStaleArtifact.after_ne {call : LedgerOperation} (h : ledger.FindsStaleArtifact call) :
    ledger.after call ≠ ledger := by
  cases call with
  | admitTip build time =>
    obtain ⟨hr, artifact, ha, hst⟩ := h
    intro hs
    have hseq := congrArg nextSequence hs
    rw [after, Tx.final, run_admit_stale hr ha hst] at hseq
    exact absurd hseq (Nat.succ_ne_self _)
  | _ => exact h.elim

/-! ## Refused operations -/

/-- **A refused operation leaves the ledger as it was**, its log, its sequence
counter and its indexes, unless it is an admission that finds a stale artifact. -/
theorem after_eq_self_of_refused_iff (ledger : RollingTipLedger) (call : LedgerOperation)
    {error : RollingTipLedgerError} (h : ledger.outcome call = .error error) :
    ledger.after call = ledger ↔ ¬ ledger.FindsStaleArtifact call := by
  refine ⟨fun hsm hs => hs.after_ne hsm, fun hs => ?_⟩
  cases call with
  | admitTip build time =>
    exact (refusesFirst_admitTip hs).final (map_eq_error.mp h)
  | recordState build state attempt time | reclaimExpiredLease lease reclaimedBy time =>
    exact final (.read_bind (.check_bind fun _ => .check_bind fun _ =>
      .check_bind fun _ => .check_bind fun _ => .check_bind fun _ => .check_bind fun _ =>
      refusesFirst_append_perform)) h
  | acquireLease lease time => exact refusesFirst_acquireLease.final h
  | releaseLease lease time => exact refusesFirst_releaseLease.final h
  | recordLease build leaseId hostId acquired time => exact refusesFirst_recordLease.final h
  | publishArtifact artifact time => exact refusesFirst_publishArtifact.final h
  | requestPromotion build revision time =>
    exact final (.read_bind (.check_bind fun _ => .check_bind fun _ =>
      .check_bind fun _ => .check_bind fun _ => refusesFirst_append_perform)) h
  | decidePromotion build decision revision time =>
    exact final (.read_bind (.check_bind fun _ => .check_bind fun _ =>
      .check_bind fun _ => .check_bind fun _ => .check_bind fun _ => .check_bind fun _ =>
      refusesFirst_append.bind fun _ _ => ⟨_, _, run_then run_perform rfl run_pure⟩))
      (map_eq_error.mp h)
  | recordBackpressure build reason time =>
    exact final (.read_bind (.check_bind fun _ => .check_bind fun _ =>
      .check_bind fun _ => refusesFirst_append)) h
  | closeReceipt build outcome time =>
    exact final (.read_bind (.check_bind fun _ => .check_bind fun _ =>
      refusesFirst_append)) h

/-- A second publication for a build that was queued again. -/
theorem after_eq_self_of_refused_iff_publishedAgain :
    let ledger := (new sampleStream).runs requeueAfterPublication
    ledger.events.length = 6
      ∧ ledger.outcome (.publishArtifact sampleArtifact 9) = .error .artifactExecutionMismatch
      ∧ ledger.after (.publishArtifact sampleArtifact 9) = ledger := by
  intro ledger
  have hr : ledger.outcome (.publishArtifact sampleArtifact 9)
      = .error .artifactExecutionMismatch := by decide +kernel
  exact ⟨by decide +kernel, hr, (after_eq_self_of_refused_iff ledger _ hr).mpr not_false⟩

/-- **The observation of a tip outlives a refused admission.** -/
theorem not_after_eq_self_requeueAfterPublication :
    let ledger := (new sampleStream).runs requeueAfterPublication
    ledger.outcome (.admitTip sampleBuild 5) = .error .artifactExecutionMismatch
      ∧ (ledger.after (.admitTip sampleBuild 5)).events ≠ ledger.events := by
  refine ⟨by decide +kernel, fun hs => ?_⟩
  have hl := congrArg List.length hs
  revert hl
  decide +kernel

end RollingTipLedger

end Glaeda
