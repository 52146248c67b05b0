import Glaeda.CatalogAccounting

/-!
# Runs of the catalog

A catalog starts empty and lives through reservations, transitions, binds of
machine identities and retirements, in whatever order they are asked for. An
operation that is refused leaves the document as it is. Each operation
validates what it built, so every document of a run validates; what a run
adds is how the revision account develops. **Until a retirement evicts an
attempt from the full history the revision is exactly the account**, one
revision for everything that happened; from then on it is at least the
account.

Nothing in a run is refused because of an account. The revision itself is
bounded, though, and a run can be long enough to reach the bound: the last
section builds such a run, at the end of which a completed attempt cannot be
retired any more.
-/

namespace Glaeda

open Checked KeyedList CatalogRecord List Except DisposableAttemptState DisposableAttemptPhase

/-- **The operations on a catalog.** -/
inductive CatalogOperation where
  | reserve (reservation : DisposableAttemptReservation)
  | transition (attemptId : DisposableAttemptId) (revision : DisposableAttemptRevision)
      (action : DisposableAttemptCatalogAction)
  | bind (attemptId : DisposableAttemptId) (revision : DisposableAttemptRevision)
      (identity : DisposableVmIdentity)
  | retire (attemptId : DisposableAttemptId) (revision : DisposableAttemptRevision)
deriving DecidableEq, Repr

namespace DisposableAttemptCatalogDocument

variable {c n : DisposableAttemptCatalogDocument} {op : CatalogOperation}
variable {r : DisposableAttemptReservation} {a : DisposableAttemptState}

/-- One operation on a catalog. -/
def operate (c : DisposableAttemptCatalogDocument) :
    CatalogOperation → Except DisposableAttemptCatalogError DisposableAttemptCatalogDocument
  | .reserve reservation => c.reserve reservation
  | .transition attemptId revision action => c.replaceAttempt attemptId revision action
  | .bind attemptId revision identity => c.bindVmIdentityAfterClone attemptId revision identity
  | .retire attemptId revision => c.retireComplete attemptId revision

/-- The catalog after an operation, refused or not. -/
def afterOperation (c : DisposableAttemptCatalogDocument) (operation : CatalogOperation) :
    DisposableAttemptCatalogDocument :=
  match c.operate operation with
  | .ok n => n
  | .error _ => c

/-- The catalog after some operations. -/
def runOperations (c : DisposableAttemptCatalogDocument) (operations : List CatalogOperation) :
    DisposableAttemptCatalogDocument :=
  operations.foldl afterOperation c

/-- The operation is a retirement that pushes an attempt out of the full
history. -/
def evicts (c : DisposableAttemptCatalogDocument) : CatalogOperation → Bool
  | .retire attemptId revision => c.tombstones.length = maxDisposableAttemptTombstones
      && (c.retireComplete attemptId revision).isOk
  | _ => false

/-- No past attempt is forgotten on the way. -/
def neverEvicts (c : DisposableAttemptCatalogDocument) : List CatalogOperation → Prop
  | [] => True
  | operation :: operations =>
    c.evicts operation = false ∧ (c.afterOperation operation).neverEvicts operations

/-! ## The account along a run -/

theorem Appended.accountedRevision (h : Appended c r n) :
    n.accountedRevision = c.accountedRevision + r.attempt.revision.val := by
  unfold CatalogRecord.accountedRevision
  rw [h.active, h.tombstones, activeRevisions_split, append_nil]
  omega

theorem Replaced.accountedRevision (h : Replaced c r a n)
    (hr : a.revision.val = r.attempt.revision.val + 1) :
    n.accountedRevision = c.accountedRevision + 1 := by
  obtain ⟨before, after, hc, hn⟩ := h.active
  unfold CatalogRecord.accountedRevision
  rw [hn, hc, h.tombstones, accounted_replaced hr]
  omega

theorem Retired.accountedRevision (h : Retired c r n)
    (hr : c.tombstones.length < maxDisposableAttemptTombstones) :
    n.accountedRevision = c.accountedRevision + 1 := by
  obtain ⟨before, after, hc, hn⟩ := h.active
  unfold CatalogRecord.accountedRevision
  rw [hn, hc, h.tombstones, accounted_retired_eq hr]

/-- **One operation keeps the account exact**, unless it evicts. A
reservation keeps it because validation bounds the account by the revision:
what is reserved can only be at its first revision. -/
theorem accountedRevision_of_operate (h : c.operate op = .ok n)
    (he : c.revision.val = c.accountedRevision) (hk : c.evicts op = false) :
    n.revision.val = n.accountedRevision := by
  cases op with
  | reserve reservation =>
    obtain ⟨-, rfl⟩ | ⟨-, hr⟩ := reserve_cases h
    · exact he
    · have hle := n.revisionAgrees.accounted_le
      have hone := reservation.attempt.revision.one_le
      rw [hr.accountedRevision, hr.revision] at *
      omega
  | transition attemptId revision action =>
    obtain ⟨r, a, -, -, hp, ⟨-, rfl⟩ | ⟨hne, hr⟩⟩ := replaceAttempt_cases h
    · exact he
    · obtain rfl | hadv := eq_or_advances_of_perform hp
      · exact absurd rfl hne
      · rw [hr.accountedRevision hadv.revision, hr.revision, he]
  | bind attemptId revision identity =>
    obtain ⟨r, a, -, -, hb, hr⟩ := bindVmIdentityAfterClone_cases h
    have hadv := advances_of_bindVmIdentityAfterClone hb
    rw [hr.accountedRevision hadv.revision, hr.revision, he]
  | retire attemptId revision =>
    obtain ⟨r, -, -, -, hr⟩ := retireComplete_cases h
    have hrm : c.tombstones.length < maxDisposableAttemptTombstones := by
      refine lt_of_le_of_ne c.length_tombstones_le (fun hf => ?_)
      change c.retireComplete attemptId revision = .ok n at h
      simp [evicts, hf, h, Except.isOk, Except.toBool] at hk
    rw [hr.accountedRevision hrm, hr.revision, he]

/-- **A run that never evicts keeps the account exact.** -/
theorem accountedRevision_of_run {operations : List CatalogOperation}
    (he : c.revision.val = c.accountedRevision) (hk : c.neverEvicts operations) :
    (c.runOperations operations).revision.val = (c.runOperations operations).accountedRevision := by
  induction operations generalizing c with
  | nil => exact he
  | cons op operations ih =>
    obtain ⟨hkp, hk⟩ := hk
    refine ih ?_ hk
    unfold afterOperation
    cases ho : c.operate op with
    | error e => exact he
    | ok n => exact accountedRevision_of_operate ho he hkp

/-- **What holds along every run from the empty catalog.** Every document
validates, its revision is exactly the account until the first eviction and
never below it, all identities are distinct and both lists bounded. As long
as the revision is not at its bound, a complete attempt can be retired, and
whatever transition or bind the attempt accepts is accepted, unless what the
attempt learns is known elsewhere. -/
theorem runOperations_invariant (operations : List CatalogOperation) :
    let c := runOperations .empty operations
    c.validate = .ok () ∧ (neverEvicts .empty operations → c.revision.val = c.accountedRevision)
      ∧ c.accountedRevision ≤ c.revision.val
      ∧ IdentitiesDistinct c.attempts
      ∧ c.active.length ≤ maxActiveDisposableAttempts
      ∧ c.tombstones.length ≤ maxDisposableAttemptTombstones
      ∧ (c.revision.val < maxDisposableAttemptCatalogRevision → ∀ r ∈ c.active,
        (r.attempt.phase = .complete →
          ∃ n, c.retireComplete r.attempt.attemptId r.attempt.revision = .ok n)
        ∧ (∀ action a, r.attempt.perform action = .ok a → c.UnusedElsewhere a →
          ∃ n, c.replaceAttempt r.attempt.attemptId r.attempt.revision action = .ok n)
        ∧ ∀ identity a, r.attempt.bindVmIdentityAfterClone identity = .ok a →
          c.UnusedElsewhere a → ∃ n,
            c.bindVmIdentityAfterClone r.attempt.attemptId r.attempt.revision identity
              = .ok n) := by
  intro c
  refine ⟨c.valid, fun hk => accountedRevision_of_run rfl hk,
    c.revisionAgrees.accounted_le, c.identitiesDistinct, c.length_active_le,
    c.length_tombstones_le, fun hrm r hr => ⟨?_, ?_, ?_⟩⟩
  · exact fun hc => exists_retireComplete hrm hr hc
  · exact fun action a hp hu => exists_replaceAttempt hrm hr hp hu
  · exact fun identity a hb hu =>
      exists_bindVmIdentityAfterClone hrm hr hb hu

end DisposableAttemptCatalogDocument

/-! ## A run to the bound of the revision

Attempts are numbered. Each one is reserved, gives up at once and is retired,
which takes three revisions; the numbers, and with them all names, are never
used twice. -/

/-- The number of an attempt of a run. -/
abbrev AttemptNumber := Fin maxDisposableAttemptCatalogRevision

variable (i : AttemptNumber)

/-- A number in forty binary digits, the name of a numbered attempt and of
everything it owns. -/
def binaryName : String :=
  String.ofList ((List.range 40).map (fun k => if i.val.testBit k then '1' else '0'))

theorem toList_binaryName :
    (binaryName i).toList = (List.range 40).map (fun k => if i.val.testBit k then '1' else '0') :=
  String.toList_ofList

theorem isBoundedName_binaryName : isBoundedName maxIdentifierLen (binaryName i) = true := by
  have hdg : ∀ d ∈ (binaryName i).toList, d = '1' ∨ d = '0' := by
    intro d hd
    rw [toList_binaryName] at hd
    obtain ⟨k, -, rfl⟩ := mem_map.mp hd
    exact (ite_eq_or_eq (i.val.testBit k = true) '1' '0')
  have hh : '-' ∉ (binaryName i).toList := fun h => (hdg _ h).elim (by decide) (by decide)
  have hl : (binaryName i).toList.length = 40 := by
    rw [toList_binaryName, length_map, length_range]
  unfold isBoundedName
  simp only [Bool.and_eq_true, Bool.not_eq_true', isEmpty_eq_false_iff, decide_eq_true_eq,
    all_eq_true, bne_iff_ne, ne_eq]
  refine ⟨⟨⟨⟨fun h => ?_, hl ▸ by decide⟩, fun d hd => ?_⟩, fun h => ?_⟩, fun h => ?_⟩
  · rw [h] at hl
    cases hl
  · exact (hdg d hd).elim (fun h => h ▸ by decide) (fun h => h ▸ by decide)
  · exact hh (mem_of_head? h)
  · exact hh (mem_of_getLast? h)

theorem binaryName_injective : Function.Injective binaryName := by
  intro i k h
  have hl := (toList_binaryName i).symm.trans ((congrArg String.toList h).trans
    (toList_binaryName k))
  refine Fin.ext (Nat.eq_of_testBit_eq fun b => ?_)
  by_cases hb : b < 40
  · have hbit := map_inj_left.mp hl b (mem_range.mpr hb)
    by_cases hi : i.val.testBit b = true <;> by_cases hk : k.val.testBit b = true <;>
      simp_all
  · -- the numbers have no bits beyond
    have hz (m : AttemptNumber) : m.val.testBit b = false :=
      Nat.testBit_lt_two_pow (lt_of_lt_of_le m.isLt
        (le_trans (by decide) (Nat.pow_le_pow_right (by decide) (Nat.le_of_not_lt hb))))
    rw [hz, hz]

/-- The attempt of a number. -/
def numberedRecord (revision : DisposableAttemptRevision)
    (phase : DisposableAttemptPhase) : AttemptRecord where
  schemaVersion := disposableAttemptStateSchemaVersion
  revision := revision
  attemptId := ⟨binaryName i, isBoundedName_binaryName i⟩
  capacityClaimId := ⟨binaryName i, isBoundedName_binaryName i⟩
  vmId := ⟨binaryName i, isBoundedName_binaryName i⟩
  vmIdentity := none
  runnerName := ⟨binaryName i, isBoundedName_binaryName i⟩
  runnerRequestId := ⟨i.val + 1, Nat.succ_pos _, Nat.lt_of_le_of_lt i.isLt (by decide)⟩
  runnerId := none
  jitGenerationStarted := false
  runnerStartStarted := false
  phase := phase
  githubJobId := none
  result := none
  notAfter := .first _

/-- It is reserved. -/
def numberedReserved : DisposableAttemptState :=
  ⟨numberedRecord i .first .reserved, rfl⟩

/-- It is being released. -/
def numberedReleasing : DisposableAttemptState :=
  ⟨numberedRecord i ⟨2, by decide, by decide⟩ .unprovisionedReleasing, rfl⟩

/-- It is complete. -/
def numberedComplete : DisposableAttemptState :=
  ⟨numberedRecord i ⟨2, by decide, by decide⟩ .complete, rfl⟩

/-- The revision of an attempt that was reserved, given up and completed. -/
def releasedRevision : DisposableAttemptRevision := ⟨3, by decide, by decide⟩

/-- It is complete, after a release. -/
def numberedReleased : DisposableAttemptState :=
  ⟨numberedRecord i releasedRevision .complete, rfl⟩

/-- The least there is. -/
def leastResources : DisposableWorkerResources :=
  ⟨⟨1, 1, 1⟩, by decide, by decide, by decide⟩

theorem usageFits_leastResources : UsageFits [leastResources] :=
  ⟨by decide, by decide, by decide, by decide⟩

/-- A reservation of the attempt. -/
def numberedReservation : DisposableAttemptReservation where
  attempt := numberedReserved i
  resources := leastResources
  preparedTemplateIdentity := ⟨⟨"sha256:" ++ String.ofList (List.replicate 64 '0'), by decide⟩⟩

theorem numberedReserved_perform_completeUnprovisioned :
    (numberedReserved i).perform .completeUnprovisioned = .ok (numberedComplete i) :=
  advanceWith_eq_ok.mpr ⟨rfl, rfl⟩

theorem numberedReserved_perform_beginUnprovisionedRelease :
    (numberedReserved i).perform .beginUnprovisionedRelease = .ok (numberedReleasing i) :=
  advanceWith_eq_ok.mpr ⟨rfl, rfl⟩

theorem numberedReleasing_perform_completeUnprovisioned :
    (numberedReleasing i).perform .completeUnprovisioned = .ok (numberedReleased i) :=
  advanceWith_eq_ok.mpr ⟨rfl, rfl⟩

/-- The life of the attempt. -/
def numberedOperations : List CatalogOperation :=
  [.reserve (numberedReservation i),
    .transition (numberedReserved i).attemptId (numberedReserved i).revision
      .completeUnprovisioned,
    .retire (numberedComplete i).attemptId (numberedComplete i).revision]

/-- A catalog with one attempt in its history, while another is being cloned. -/
def clonedCatalog : DisposableAttemptCatalogDocument :=
  let cloned : AttemptNumber := ⟨1, by decide⟩
  .runOperations .empty (numberedOperations ⟨0, by decide⟩ ++
    [.reserve (numberedReservation cloned),
      .transition (numberedReserved cloned).attemptId .first .authorizeClone,
      .transition (numberedReserved cloned).attemptId ⟨2, by decide, by decide⟩
        .recordCloneStarted])

/-- A machine. -/
def sampleVmIdentity : DisposableVmIdentity :=
  ⟨⟨"sha256:0707070707070707070707070707070707070707070707070707070707070707", by decide⟩⟩

namespace DisposableAttemptCatalogDocument

variable {c n : DisposableAttemptCatalogDocument} {op : CatalogOperation}
variable {r : DisposableAttemptReservation} {a : DisposableAttemptState} {j : Nat}

theorem runOperations_cons_of_ok {operations : List CatalogOperation} (h : c.operate op = .ok n) :
    c.runOperations (op :: operations) = n.runOperations operations := by
  rw [runOperations, foldl_cons, afterOperation, h]
  rfl

/-- **One transition of the only active attempt.** -/
theorem exists_performed {action : DisposableAttemptCatalogAction} (ha : c.active = [r])
    (hp : r.attempt.perform action = .ok a) (hne : a ≠ r.attempt)
    (hu : c.UnusedElsewhere a)
    (hrm : c.revision.val < maxDisposableAttemptCatalogRevision) :
    ∃ n, c.replaceAttempt r.attempt.attemptId r.attempt.revision action = .ok n
      ∧ n.active = [{ r with attempt := a }] ∧ n.tombstones = c.tombstones
      ∧ n.revision.val = c.revision.val + 1 := by
  have hm : r ∈ c.active := ha ▸ mem_singleton_self r
  obtain ⟨n, hn⟩ := exists_replaceAttempt hrm hm hp hu
  refine ⟨n, hn, ?_⟩
  obtain ⟨r', a', hf, -, hp', hcs⟩ := replaceAttempt_cases hn
  obtain rfl : r = r' := Option.some.inj
    (((lookup_eq_some c.nodup_activeIds).mpr ⟨hm, rfl⟩).symm.trans hf)
  obtain rfl : a = a' := ok.inj (hp.symm.trans hp')
  obtain ⟨hs, -⟩ | ⟨-, hr⟩ := hcs
  · exact absurd hs hne
  · refine ⟨?_, hr.tombstones, hr.revision⟩
    obtain ⟨before, after, hc, hn⟩ := hr.active
    rw [ha] at hc
    obtain ⟨-, rfl, rfl⟩ := eq_of_singleton_eq_split hc
    exact hn

/-- **The catalog after the first `j` numbered attempts.** -/
structure Served (j : Nat) (c : DisposableAttemptCatalogDocument) : Prop where
  active : c.active = []
  tombstones : ∀ a ∈ c.tombstones, ∃ i : AttemptNumber, i.val < j ∧ a = numberedComplete i
  revision : c.revision.val = 3 * j + 1

variable {revision : DisposableAttemptRevision} {phase : DisposableAttemptPhase}

theorem Served.identitiesDistinct_cons (h : Served j c) {i : AttemptNumber} (hi : i.val = j)
    (ha : a.toAttemptRecord = numberedRecord i revision phase) :
    IdentitiesDistinct (a :: c.attempts) := by
  have hat : c.attempts = c.tombstones := by
    rw [CatalogRecord.attempts, h.active]
    rfl
  have hmap {κ : Type} (key : DisposableAttemptState → κ)
      (hkey : ∀ k : AttemptNumber, key (numberedComplete k) = key a → k = i)
      (hky : (c.attempts.map key).Nodup) : ((a :: c.attempts).map key).Nodup := by
    rw [map_cons, nodup_cons]
    refine ⟨fun hmem => ?_, hky⟩
    obtain ⟨b, hb, heq⟩ := mem_map.mp hmem
    rw [hat] at hb
    obtain ⟨k, hk, rfl⟩ := h.tombstones b hb
    rw [hkey k heq, hi] at hk
    exact lt_irrefl _ hk
  obtain ⟨hatt, hclm, hvm, hnm, hreq, hid, hrnr, hjob⟩ := c.identitiesDistinct
  have hn {κ : Type} (key : DisposableAttemptState → Option κ) (hkey : key a = none)
      (hky : (c.attempts.filterMap key).Nodup) : ((a :: c.attempts).filterMap key).Nodup := by
    rw [filterMap_cons_none hkey]
    exact hky
  refine ⟨hmap _ ?_ hatt, hmap _ ?_ hclm, hmap _ ?_ hvm, hmap _ ?_ hnm,
    hmap _ ?_ hreq, hn _ (by rw [ha]; rfl) hid, hn _ (by rw [ha]; rfl) hrnr,
    hn _ (by rw [ha]; rfl) hjob⟩ <;> rw [ha]
  · exact fun k heq => binaryName_injective (congrArg Identifier.value heq)
  · exact fun k heq => binaryName_injective (congrArg Identifier.value heq)
  · exact fun k heq => binaryName_injective (congrArg Identifier.value heq)
  · exact fun k heq => binaryName_injective (congrArg ScaleSetRunnerName.value heq)
  · exact fun k heq => Fin.ext (Nat.succ.inj (congrArg PositiveU64.val heq))

/-- **The next numbered attempt can be reserved.** -/
theorem Served.exists_reserve (h : Served j c) {i : AttemptNumber} (hi : i.val = j)
    (hrm : c.revision.val < maxDisposableAttemptCatalogRevision) :
    ∃ n, c.reserve (numberedReservation i) = .ok n ∧ n.active = [numberedReservation i]
      ∧ n.tombstones = c.tombstones ∧ n.revision.val = c.revision.val + 1 := by
  have hl : c.active.length < maxActiveDisposableAttempts := by
    rw [h.active]
    decide
  have hu : UsageFits ((numberedReservation i).resources :: heldResources c.active) := by
    rw [h.active]
    exact usageFits_leastResources
  obtain ⟨n, hn⟩ := DisposableAttemptCatalogDocument.exists_reserve hrm rfl hl
    (h.identitiesDistinct_cons hi rfl) hu
  refine ⟨n, hn, ?_⟩
  obtain ⟨hf, -⟩ | ⟨-, hr⟩ := reserve_cases hn
  · rw [findActive, h.active] at hf
    cases hf
  · exact ⟨hr.active.trans (by rw [h.active]; rfl), hr.tombstones, hr.revision⟩

theorem unusedElsewhere_numberedRecord {i : AttemptNumber}
    (h : a.toAttemptRecord = numberedRecord i revision phase) :
    c.UnusedElsewhere a := by
  intro b _ _
  unfold SharesNothing
  rw [h]
  exact ⟨nofun, nofun, nofun⟩

theorem ne_of_phase_ne {b : DisposableAttemptState} (h : a.phase ≠ b.phase) : a ≠ b :=
  fun heq => h (heq ▸ rfl)

/-- **The next numbered attempt can be served.** -/
theorem Served.next (h : Served j c) {i : AttemptNumber} (hi : i.val = j)
    (hj : c.revision.val + 3 ≤ maxDisposableAttemptCatalogRevision) :
    Served (j + 1) (c.runOperations (numberedOperations i)) := by
  obtain ⟨reserved, hrv, hact, ht, hrev⟩ := h.exists_reserve hi (by omega)
  obtain ⟨completed, hc, hact', ht', hrev'⟩ := exists_performed hact
    (numberedReserved_perform_completeUnprovisioned i)
    (ne_of_phase_ne (show complete ≠ .reserved by decide))
    (unusedElsewhere_numberedRecord rfl) (by omega)
  obtain ⟨retired, hret⟩ := exists_retireComplete (c := completed) (by omega)
    (hact' ▸ mem_singleton_self _) rfl
  have hrun : c.runOperations (numberedOperations i) = retired := by
    rw [numberedOperations, runOperations_cons_of_ok (show c.operate (.reserve _) = _ from hrv),
      runOperations_cons_of_ok (show reserved.operate (.transition (numberedReserved i).attemptId
        (numberedReserved i).revision _) = _ from hc),
      runOperations_cons_of_ok (show completed.operate (.retire (numberedComplete i).attemptId
        (numberedComplete i).revision) = _ from hret)]
    rfl
  obtain ⟨r, -, -, -, hr⟩ := retireComplete_cases hret
  obtain ⟨before, after, hs, hrs⟩ := hr.active
  rw [hact'] at hs
  obtain ⟨rfl, rfl, rfl⟩ := eq_of_singleton_eq_split hs
  rw [hrun]
  refine ⟨hrs, fun a ha => ?_, ?_⟩
  · rw [hr.tombstones] at ha
    obtain ha | ha := mem_append.mp (pushTombstone_sublist.subset ha)
    · rw [ht', ht] at ha
      obtain ⟨k, hk, rfl⟩ := h.tombstones a ha
      exact ⟨k, Nat.lt_succ_of_lt hk, rfl⟩
    · exact ⟨i, hi ▸ Nat.lt_succ_self _, mem_singleton.mp ha⟩
  · rw [hr.revision, hrev', hrev, h.revision]
    omega

theorem served_empty : Served 0 .empty := ⟨rfl, forall_mem_nil _, rfl⟩

/-- **As many attempts as there are revisions for can be served.** -/
theorem exists_served (j : Nat) (hj : 3 * j + 1 ≤ maxDisposableAttemptCatalogRevision) :
    ∃ operations, Served j (runOperations .empty operations) := by
  induction j with
  | zero => exact ⟨[], served_empty⟩
  | succ j ih =>
    obtain ⟨operations, hs⟩ := ih (by omega)
    refine ⟨operations ++ numberedOperations ⟨j, by omega⟩, ?_⟩
    rw [runOperations, foldl_append]
    refine hs.next rfl ?_
    rw [hs.revision]
    omega

theorem retireComplete_of_exhausted (hm : r ∈ c.active) (hc : r.attempt.phase = .complete)
    (hbd : c.revision.val = maxDisposableAttemptCatalogRevision) :
    c.retireComplete r.attempt.attemptId r.attempt.revision
      = .error ⟨.conflict, "disposable attempt catalog revision cannot advance"⟩ := by
  obtain ⟨i, hi, rfl⟩ := position_of_findActive ((lookup_eq_some c.nodup_activeIds).mpr ⟨hm, rfl⟩)
  have hn : c.revision.next
      = .error ⟨.conflict, "disposable attempt catalog revision cannot advance"⟩ :=
    BoundedRevision.new_succ_eq_error.mpr ⟨rfl, hbd⟩
  unfold retireComplete
  rw [hi]
  simp only [okOr, ok_bind, ne_eq, not_true_eq_false, hc, refuseIf, if_false, hn, error_bind]

/-- **A run gets to the bound**: there an attempt is complete and cannot be
retired. -/
theorem runOperations_exhausted :
    ∃ operations r, (runOperations .empty operations).active = [r] ∧ r.attempt.phase = .complete
      ∧ (runOperations .empty operations).retireComplete r.attempt.attemptId r.attempt.revision
        = .error ⟨.conflict, "disposable attempt catalog revision cannot advance"⟩ := by
  obtain ⟨operations, h⟩ := exists_served 333333333332 (by decide)
  have hr := h.revision
  generalize hc : runOperations .empty operations = c at h hr
  have hmax : maxDisposableAttemptCatalogRevision = 1000000000000 := rfl
  obtain ⟨i, hi⟩ : ∃ i : AttemptNumber, i.val = 333333333332 := ⟨⟨333333333332, by decide⟩, rfl⟩
  obtain ⟨reserved, hrs, hact, -, hrev⟩ := h.exists_reserve hi (by omega)
  obtain ⟨releasing, hrel, hact', -, hrev'⟩ := exists_performed hact
    (numberedReserved_perform_beginUnprovisionedRelease i)
    (ne_of_phase_ne (show unprovisionedReleasing ≠ .reserved by decide))
    (unusedElsewhere_numberedRecord rfl) (by omega)
  obtain ⟨completed, hcm, hact'', -, hrev''⟩ := exists_performed hact'
    (numberedReleasing_perform_completeUnprovisioned i)
    (ne_of_phase_ne (show complete ≠ .unprovisionedReleasing by decide))
    (unusedElsewhere_numberedRecord rfl) (by omega)
  have hrun : runOperations .empty (operations ++ [.reserve (numberedReservation i),
      .transition (numberedReserved i).attemptId (numberedReserved i).revision
        .beginUnprovisionedRelease,
      .transition (numberedReleasing i).attemptId (numberedReleasing i).revision
        .completeUnprovisioned]) = completed := by
    rw [runOperations, foldl_append]
    change runOperations (runOperations .empty operations) _ = _
    rw [hc, runOperations_cons_of_ok (show c.operate (.reserve _) = _ from hrs),
      runOperations_cons_of_ok (show reserved.operate (.transition (numberedReserved i).attemptId
        (numberedReserved i).revision _) = _ from hrel),
      runOperations_cons_of_ok (show releasing.operate (.transition
        (numberedReleasing i).attemptId (numberedReleasing i).revision _) = _ from hcm)]
    rfl
  refine ⟨_, _, by rw [hrun]; exact hact'', rfl, ?_⟩
  rw [hrun]
  exact retireComplete_of_exhausted (hact'' ▸ mem_singleton_self _) rfl (by omega)

end DisposableAttemptCatalogDocument

end Glaeda
