import Glaeda.DeliverySteps
import Glaeda.RecoveryCodec

/-!
# The evidence of an acquisition

An acknowledgement whose answer was lost leaves it open which requests were
acquired, so the acquisition is asked for again, as often as needed. Each
answer names some of the requests the message made available, and **the
answers add up**: what is on record is the ordered set of everything any of
them named, whatever their order and however often they repeat one another.

An answer that names nothing new leaves the state as it is. The revision
therefore counts the requests on record at most, and there is always room for
the next answer.
-/

namespace Glaeda

open Checked List Except RecoveryRecord

section Union

variable {ids obs response : List ScaleSetRunnerRequestId}

/-- **An ordered set is known by its members.** -/
theorem insertionSort_eq_orderedIds (hnd : obs.Nodup) (h : ∀ id, id ∈ obs ↔ id ∈ ids) :
    obs.insertionSort (fun a b => a.val ≤ b.val) = orderedIds ids := by
  have hp : obs.Perm ids.dedup := (perm_ext_iff_of_nodup hnd (nodup_dedup _)).mpr
    fun id => (h id).trans mem_dedup.symm
  refine Perm.eq_of_pairwise ?_ (pairwise_insertionSort _ _) (pairwise_insertionSort _ _)
    ((perm_insertionSort _ _).trans (hp.trans (perm_insertionSort _ _).symm))
  intro a b _ _ hab hba
  cases a
  cases b
  simp only [PositiveU64.mk.injEq]
  exact Nat.le_antisymm hab hba

theorem orderedIds_congr {others : List ScaleSetRunnerRequestId}
    (h : ∀ id, id ∈ others ↔ id ∈ ids) : orderedIds others = orderedIds ids :=
  insertionSort_eq_orderedIds (nodup_dedup others) fun id => mem_dedup.trans (h id)

theorem foldl_observe (hnd : obs.Nodup) :
    (response.foldl (fun obs id => if id ∈ obs then obs else obs ++ [id])
        obs).Nodup
      ∧ ∀ id, id ∈ response.foldl
          (fun obs id => if id ∈ obs then obs else obs ++ [id]) obs
        ↔ id ∈ obs ++ response := by
  induction response generalizing obs with
  | nil => exact ⟨hnd, fun id => by rw [append_nil]; rfl⟩
  | cons first response ih =>
    rw [foldl_cons]
    split_ifs with hf
    · refine ⟨(ih hnd).1, fun id => ((ih hnd).2 id).trans ?_⟩
      rw [mem_append, mem_append, mem_cons]
      exact ⟨Or.imp_right .inr, fun h => h.elim .inl
        fun h => h.elim (fun heq => .inl (heq ▸ hf)) .inr⟩
    · have hn : (obs ++ [first]).Nodup :=
        nodup_append'.mpr ⟨hnd, nodup_singleton first, disjoint_singleton.mpr hf⟩
      refine ⟨(ih hn).1, fun id => ((ih hn).2 id).trans ?_⟩
      rw [append_assoc, singleton_append]

/-- **An answer is added to what is on record.** -/
theorem observeAcquired_orderedIds :
    ScaleSetDeliveryRecoveryState.observeAcquired (orderedIds obs) (orderedIds response)
      = orderedIds (obs ++ response) := by
  obtain ⟨hnd, hm⟩ := @foldl_observe _ (orderedIds response) (nodup_orderedIds obs)
  refine insertionSort_eq_orderedIds hnd fun id => (hm id).trans ?_
  rw [mem_append, mem_append, mem_orderedIds, mem_orderedIds]

/-- Something new makes the ordered set longer. -/
theorem length_orderedIds_lt (h : ¬ ∀ id ∈ response, id ∈ obs) :
    (orderedIds obs).length < (orderedIds (obs ++ response)).length := by
  push Not at h
  obtain ⟨id, hid, hn⟩ := h
  have hnd : (id :: orderedIds obs).Nodup :=
    nodup_cons.mpr ⟨fun hm => hn (mem_orderedIds.mp hm), nodup_orderedIds obs⟩
  refine (hnd.subperm fun other ho => mem_orderedIds.mpr ?_).length_le
  rcases mem_cons.mp ho with rfl | ho
  · exact mem_append_right _ hid
  · exact mem_append_left _ (mem_orderedIds.mp ho)

end Union

namespace ScaleSetDeliveryRecoveryState

variable {s : ScaleSetDeliveryRecoveryState}
variable {ids acquired response available : List ScaleSetRunnerRequestId}

/-- **How many answers add something** to what was observed before. -/
def raises (observed : List ScaleSetRunnerRequestId) : List (List ScaleSetRunnerRequestId) → Nat
  | [] => 0
  | response :: responses => (if ∀ id ∈ response, id ∈ observed then 0 else 1)
      + raises (observed ++ response) responses

/-- **What the answers left on record**, with a revision that counts them. -/
structure Observed (s : ScaleSetDeliveryRecoveryState)
    (acquired : List ScaleSetRunnerRequestId) : Prop where
  phase : s.phase = .acquisitionRecoveryObserved (orderedIds acquired)
  revision_le : s.revision ≤ 3 + (orderedIds acquired).length

section

variable (havail : s.delivery.availableRequestIds = .ok available)
include havail

/-- **There is room for the next answer**, unless it names nothing after the
first one. -/
theorem exists_successor_observed (hi : ∀ id ∈ ids, id ∈ available) (hrev : 2 ≤ s.revision)
    (he : ids ≠ [] ∨ s.revision = 2) (hr : s.revision < maxDeliveryRecoveryRevision) :
    ∃ n, s.successor (.acquisitionRecoveryObserved (orderedIds ids)) = .ok n := by
  obtain ⟨hv, -, hh⟩ := validateHeader_eq_ok_iff.mp s.header
  have hn : s.nextRevision = .ok (s.revision + 1) := by
    unfold nextRevision
    rw [okOr_eq_ok, Option.filter_eq_some_iff, checkedAdd_eq_some]
    exact ⟨⟨lt_of_le_of_lt hr (by decide), rfl⟩, decide_eq_true hr⟩
  unfold successor
  rw [hn, ok_bind]
  refine exists_accept (guard_bind_eq_ok.mpr ⟨validateHeader_eq_ok_iff.mpr
    ⟨hv, ⟨Nat.le_add_left 1 _, hr⟩, hh⟩, ?_⟩)
  refine refuseIf_bind_eq_ok.mpr ⟨not_not.mpr ⟨Nat.succ_le_succ hrev, ?_⟩, ?_⟩
  · refine he.imp (fun hne hnone => hne ?_) (congrArg Nat.succ)
    refine eq_nil_iff_forall_not_mem.mpr fun id hid => ?_
    exact not_mem_nil (isEmpty_iff.mp hnone ▸ mem_orderedIds.mpr hid)
  · exact validateAcquired_orderedIds havail fun id hid => hi id (mem_orderedIds.mp hid)

theorem validatedAcquired_response (hr : response.Nodup ∧ ∀ id ∈ response, id ∈ available) :
    s.validatedAcquired response = .ok (orderedIds response) :=
  (validatedAcquired_eq_ok havail).mpr ⟨hr.symm, rfl⟩

/-- **The first answer** is always recorded. -/
theorem exists_recordRecoveryAcquire_first (hs : s.phase = .acknowledgementStarted)
    (hr : response.Nodup ∧ ∀ id ∈ response, id ∈ available) :
    ∃ n, s.recordRecoveryAcquire response = .ok n ∧ n.delivery = s.delivery
      ∧ n.Observed response ∧ n.revision = s.revision + 1 := by
  have hrev : s.revision = 2 := by
    have hv := (guard_bind_eq_ok.mp s.valid).2
    rw [hs] at hv
    exact not_not.mp (refuseIf_eq_ok.mp hv)
  obtain ⟨n, hn⟩ := exists_successor_observed havail hr.2 (Nat.le_of_eq hrev.symm)
    (.inr hrev) (by rw [hrev]; decide)
  obtain ⟨hf, hph⟩ := successor_eq_ok hn
  have ho : observeAcquired [] (orderedIds response) = orderedIds response :=
    @observeAcquired_orderedIds [] response
  refine ⟨n, ?_, hf.delivery, ⟨hph, ?_⟩, hf.revision⟩
  · unfold recordRecoveryAcquire observedAcquired
    rw [hs, ok_bind, validatedAcquired_response havail hr, ok_bind, ho,
      if_neg (by simp)]
    exact hn
  · rw [hf.revision, hrev]
    exact Nat.le_add_right 3 _

/-- **One more answer**: the state stays when it names nothing new, and is
followed by one that has it on record otherwise. -/
theorem exists_recordRecoveryAcquire (h : s.Observed acquired)
    (hacq : ∀ id ∈ acquired, id ∈ available)
    (hr : response.Nodup ∧ ∀ id ∈ response, id ∈ available) :
    ∃ n, s.recordRecoveryAcquire response = .ok n ∧ n.delivery = s.delivery
      ∧ n.Observed (acquired ++ response)
      ∧ n.revision = s.revision + if ∀ id ∈ response, id ∈ acquired then 0 else 1 := by
  have hval := (guard_bind_eq_ok.mp s.valid).2
  rw [h.phase] at hval
  obtain ⟨hrev, hval⟩ := refuseIf_bind_eq_ok.mp hval
  have hlen := length_le_of_validateAcquired hval
  unfold recordRecoveryAcquire observedAcquired
  rw [h.phase, ok_bind, validatedAcquired_response havail hr, ok_bind,
    observeAcquired_orderedIds]
  by_cases hold : ∀ id ∈ response, id ∈ acquired
  · have hs : orderedIds (acquired ++ response) = orderedIds acquired :=
      orderedIds_congr fun id => by rw [mem_append, or_iff_left_of_imp (hold id)]
    rw [hs, if_pos rfl, if_pos hold]
    exact ⟨s, rfl, rfl, ⟨hs ▸ h.phase, hs ▸ h.revision_le⟩, rfl⟩
  · have hlt := length_orderedIds_lt hold
    have hne : acquired ++ response ≠ [] := by
      rintro hnone
      rw [hnone] at hlt
      exact Nat.not_lt_zero _ hlt
    obtain ⟨n, hn⟩ := exists_successor_observed havail
      (forall_mem_append.mpr ⟨hacq, hr.2⟩) (Nat.le_of_succ_le (not_not.mp hrev).1)
      (.inl hne) (lt_of_le_of_lt (h.revision_le.trans (Nat.add_le_add_left hlen 3)) (by decide))
    obtain ⟨hfol, hph⟩ := successor_eq_ok hn
    rw [if_neg hold, if_neg fun heq => Nat.ne_of_lt hlt (congrArg length
      (ScaleSetDeliveryRecoveryPhase.acquisitionRecoveryObserved.inj heq))]
    refine ⟨n, hn, hfol.delivery, ⟨hph, ?_⟩, hfol.revision⟩
    rw [hfol.revision]
    exact Nat.add_le_add_left (Nat.succ_le_of_lt hlt) 3 |>.trans' (Nat.succ_le_succ h.revision_le)

/-- **Every further answer is recorded.** -/
theorem exists_foldlM_recordRecoveryAcquire (h : s.Observed acquired)
    (ha : ∀ id ∈ acquired, id ∈ available) {responses : List (List ScaleSetRunnerRequestId)}
    (hr : ∀ response ∈ responses, response.Nodup ∧ ∀ id ∈ response, id ∈ available) :
    ∃ n, responses.foldlM recordRecoveryAcquire s = .ok n
      ∧ n.Observed (acquired ++ responses.flatten)
      ∧ n.revision = s.revision + raises acquired responses := by
  induction responses generalizing s acquired with
  | nil =>
    rw [flatten_nil, append_nil]
    exact ⟨s, rfl, h, rfl⟩
  | cons response responses ih =>
    obtain ⟨hrs, hr⟩ := forall_mem_cons.mp hr
    obtain ⟨n, hn, hd, ho, hrev⟩ :=
      exists_recordRecoveryAcquire havail h ha hrs
    obtain ⟨m, hm, hmob, hmr⟩ := ih (hd ▸ havail) ho
      (forall_mem_append.mpr ⟨ha, hrs.2⟩) hr
    rw [foldlM_cons, hn, ok_bind, flatten_cons, ← append_assoc]
    refine ⟨m, hm, hmob, ?_⟩
    rw [hmr, hrev, Nat.add_assoc]
    rfl

end

/-- **The answers add up.** After an acknowledgement was started, every
sequence of answers that name available requests is recorded, and what is on
record in the end is the ordered set of all the requests they name. The
revision is raised by the first answer and by those that add something. -/
theorem exists_recordRecoveryAcquires (hs : s.phase = .acknowledgementStarted)
    (havail : s.delivery.availableRequestIds = .ok available)
    (first : List ScaleSetRunnerRequestId) (responses : List (List ScaleSetRunnerRequestId))
    (hr : ∀ response ∈ first :: responses, response.Nodup ∧ ∀ id ∈ response, id ∈ available) :
    ∃ n, (first :: responses).foldlM recordRecoveryAcquire s = .ok n
      ∧ (∀ ids, (∀ id, id ∈ ids ↔ ∃ response ∈ first :: responses, id ∈ response)
        → n.phase = .acquisitionRecoveryObserved (orderedIds ids))
      ∧ n.revision = s.revision + 1 + raises first responses := by
  obtain ⟨hf, hr⟩ := forall_mem_cons.mp hr
  obtain ⟨m, hm, hd, ho, hrev⟩ :=
    exists_recordRecoveryAcquire_first havail hs hf
  obtain ⟨n, hn, hnob, hnr⟩ := exists_foldlM_recordRecoveryAcquire
    (hd ▸ havail) ho hf.2 hr
  rw [foldlM_cons, hm, ok_bind]
  refine ⟨n, hn, fun ids hi => ?_, hrev ▸ hnr⟩
  rw [hnob.phase, ← flatten_cons]
  exact congrArg _ (orderedIds_congr fun id => mem_flatten.trans (hi id).symm)

end ScaleSetDeliveryRecoveryState

/-- A request that was offered. -/
def offeredId : ScaleSetRunnerRequestId := .first _

/-- **An empty answer and the request it left out**, twice. -/
theorem exists_recordRecoveryAcquires_startedState :
    ∃ n, [[], [offeredId], [offeredId]].foldlM
        ScaleSetDeliveryRecoveryState.recordRecoveryAcquire startedState = .ok n
      ∧ n.phase = .acquisitionRecoveryObserved [offeredId] ∧ n.revision = 4 := by
  have hs : startedState.phase = .acknowledgementStarted := rfl
  obtain ⟨n, hn, hph, hr⟩ :=
    ScaleSetDeliveryRecoveryState.exists_recordRecoveryAcquires hs rfl []
      [[offeredId], [offeredId]] (by decide)
  exact ⟨n, hn, hph [offeredId] (by simp), hr⟩

end Glaeda
