import Glaeda.PersonalEvaluation
import Glaeda.SortedList

/-!
# A decision does not depend on storage

The order of the candidates is strict on requests with identities of their
own. So neither what the queue selects nor what everybody sees depends on the
order in which the queue is stored (`evaluate_of_perm`), and the places that
are shown are what they should be: every request is seen once, and the ones
that wait are numbered from one on, in the order of the candidates
(`exists_shown`).
-/

namespace Glaeda

open Checked List

/-! ## The order of the candidates -/

section Order

variable {observedAt : EpochMillis} {load : List RepositoryRef}
variable {requests others : List PersonalWorkerJobRequest}

/-- No deadline is the latest one. -/
theorem compareDeadline_eq :
    compareDeadline = compareOn fun deadline => (deadline.map (·.val)).getD u64Size := by
  funext left right
  cases left with
  | none =>
    cases right with
    | none => exact (Nat.compare_eq_eq.mpr rfl).symm
    | some right => exact (Nat.compare_eq_gt.mpr right.lt_size).symm
  | some left =>
    cases right with
    | none => exact (Nat.compare_eq_lt.mpr left.lt_size).symm
    | some right => rfl

instance transCmp_compareCandidates (observedAt : EpochMillis) (load : List RepositoryRef) :
    Std.TransCmp (compareCandidates observedAt load) := by
  have hrank : Std.TransCmp fun left right : PersonalWorkerJobRequest =>
      compare (effectivePriority right observedAt) (effectivePriority left observedAt) :=
    @Std.TransCmp.opposite _ (compareOn fun request => effectivePriority request observedAt) _
  have hdead : Std.TransCmp fun left right : PersonalWorkerJobRequest =>
      compareDeadline left.operatorDeadline right.operatorDeadline := by
    rw [compareDeadline_eq]
    exact inferInstanceAs (Std.TransCmp (compareOn fun request : PersonalWorkerJobRequest =>
      (request.operatorDeadline.map (·.val)).getD u64Size))
  exact inferInstanceAs (Std.TransCmp (compareLex (fun left right : PersonalWorkerJobRequest =>
    compare (effectivePriority right observedAt) (effectivePriority left observedAt)) (compareLex
    (compareOn fun request => load.count request.source.repository) (compareLex
    (fun left right => compareDeadline left.operatorDeadline right.operatorDeadline) (compareLex
    (compareOn fun request => request.submittedAt.val) (compareLex
    (compareOn fun request => request.source.repository.value)
    (compareOn fun request => request.id.value)))))))

/-- **Two requests that stand at one place are one request.** -/
theorem id_eq_of_compareCandidates {left right : PersonalWorkerJobRequest}
    (h : compareCandidates observedAt load left right = .eq) : left.id = right.id := by
  simp only [compareCandidates, Ordering.then_eq_eq] at h
  obtain ⟨-, -, -, -, -, h⟩ := h
  have hv : left.id.value = right.id.value := Std.LawfulEqOrd.eq_of_compare h
  exact (AdmissionIdentifier.mk.injEq _ left.id.valid _ right.id.valid).mpr hv

theorem pairwise_sortCandidates (hnd : (requests.map PersonalWorkerJobRequest.id).Nodup) :
    (sortCandidates observedAt load requests).Pairwise fun left right =>
      compareCandidates observedAt load left right = .lt :=
  SortedList.pairwise_insertionSort_lt (fun _ _ => id_eq_of_compareCandidates) hnd

theorem sortCandidates_eq_of_perm (hnd : (requests.map PersonalWorkerJobRequest.id).Nodup)
    (hp : others.Perm requests) :
    sortCandidates observedAt load others = sortCandidates observedAt load requests :=
  SortedList.insertionSort_eq_of_perm (fun _ _ => id_eq_of_compareCandidates) hnd hp

end Order

/-! ## Places in the queue -/

section Places

variable {α κ : Type} [BEq κ] [LawfulBEq κ] {key : α → κ} {values : List α}

theorem filterMap_idxOf?_self (hnd : (values.map key).Nodup) :
    (values.filterMap fun a => ((values.map key).idxOf? (key a)).map fun i => (key a, i + 1))
      = values.mapIdx fun i a => (key a, i + 1) := by
  have hs : values.map (fun a => ((values.map key).idxOf? (key a)).map fun i => (key a, i + 1))
      = (values.mapIdx fun i a => (key a, i + 1)).map some := by
    refine ext_getElem (by simp) fun i hi _ => ?_
    have hk : i < (values.map key).length := by simpa using hi
    have hp : (values.map key).idxOf? (values.map key)[i] = some i :=
      idxOf?_eq_some_iff.mpr ⟨hk, rfl, fun j hj heq =>
        Nat.ne_of_lt hj (hnd.getElem_inj_iff.mp heq)⟩
    rw [getElem_map] at hp
    rw [getElem_map, getElem_map, getElem_mapIdx, hp, Option.map_some]
  have hf := congrArg (filterMap id) hs
  rw [filterMap_map, filterMap_map, Function.id_comp, Function.id_comp, filterMap_some] at hf
  exact hf

/-- **Numbering.** The entries that pass a test are numbered in order, and the
others get no number. -/
theorem filterMap_idxOf? (p : α → Bool) (hnd : (values.map key).Nodup) :
    (values.filterMap fun a =>
        (((values.filter p).map key).idxOf? (key a)).map fun i => (key a, i + 1))
      = (values.filter p).mapIdx fun i a => (key a, i + 1) := by
  rw [← filterMap_idxOf?_self (hnd.sublist (filter_sublist.map key)), filterMap_filter]
  refine filterMap_congr fun a ha => ?_
  split_ifs with hp
  · rfl
  · rw [Option.map_eq_none_iff, idxOf?_eq_none_iff]
    intro hm
    obtain ⟨b, hb, heq⟩ := mem_map.mp hm
    obtain ⟨hb, hpb⟩ := mem_filter.mp hb
    exact hp (inj_on_of_nodup_map hnd hb ha heq ▸ hpb)

end Places

namespace PersonalWorkerQueueInput

variable {input : PersonalWorkerQueueInput}

/-- **What everybody sees is complete and numbered**, where `line` are the
requests that wait. -/
structure Shown (input : PersonalWorkerQueueInput) (decision : PersonalWorkerQueueDecision)
    (line : List PersonalWorkerJobRequest) : Prop where
  complete : (decision.visibility.map (·.requestId)).Perm input.liveIds
  distinct : (decision.visibility.map (·.requestId)).Nodup
  waiting : line.Perm (input.waiting.filter fun request =>
    !decision.selected.any fun selection => selection.requestId == request.id)
  ordered : line.Pairwise fun left right => compareCandidates input.observedAt
    (activeRepositoryLoad input.active ++ decision.selected.map (·.repository)) left right = .lt
  numbered : (decision.visibility.filterMap fun entry =>
      entry.queuePosition.map fun position => (entry.requestId, position))
    = line.mapIdx fun i request => (request.id, i + 1)
  queued : ∀ entry ∈ decision.visibility, entry.state = .queued ↔ entry.queuePosition.isSome = true

/-- What is shown of an active request. -/
def visibilityOfActive (input : PersonalWorkerQueueInput)
    (active : PersonalWorkerActiveReservation) : PersonalWorkerQueueVisibility :=
  input.visibilityForRequest active.request (entryState active.admission.state) none
    active.admission.appliedLimits
      (heldLeaseState active.request.cacheAccess) active.startedAt .work

/-- A request that is neither selected nor cancelled. -/
def waits (selected : List PersonalWorkerSelection) (request : PersonalWorkerJobRequest) : Bool :=
  !request.cancellation.isCancelled
    && !selected.any fun selection => selection.requestId == request.id

theorem state_visibilityOfQueued {qs : List PersonalWorkerJobRequest}
    (hnd : (qs.map PersonalWorkerJobRequest.id).Nodup)
    (selected : List PersonalWorkerSelection) {request : PersonalWorkerJobRequest}
    (hr : request ∈ qs) :
    (input.visibilityOfQueued selected ((qs.filter (waits selected)).map (·.id))
        request).state = .queued
      ↔ (((qs.filter (waits selected)).map (·.id)).idxOf? request.id).isSome = true := by
  have hw : request.id ∈ (qs.filter (waits selected)).map (·.id)
      ↔ waits selected request = true := by
    constructor
    · intro hm
      obtain ⟨other, ho, heq⟩ := mem_map.mp hm
      obtain ⟨ho, hw⟩ := mem_filter.mp ho
      exact inj_on_of_nodup_map hnd ho hr heq ▸ hw
    · exact fun hw => mem_map_of_mem (mem_filter.mpr ⟨hr, hw⟩)
  rw [isSome_idxOf?, hw]
  unfold waits visibilityOfQueued visibilityForRequest
  dsimp only
  generalize request.cancellation.isCancelled = isCancelled
  generalize (selected.any fun selection => selection.requestId == request.id) = isSelected
  cases isCancelled <;> cases isSelected <;> decide

/-- **Everybody sees every request once**, and the requests that wait are
numbered from one on, in the order of the candidates. -/
theorem exists_shown (previous : Option PersonalWorkerQueueDecision)
    (decision : PersonalWorkerQueueDecision) (h : input.evaluate previous = .ok decision) :
    ∃ line, input.Shown decision line := by
  unfold evaluate at h
  simp only [bind_eq_ok, pure_eq_ok_iff] at h
  obtain ⟨_, -, _, hval, usage, -, rfl⟩ := h
  have hacc := validateInput_iff.mp hval
  generalize input.selection usage = selected
  have hnd := nodup_queued hacc.distinct
  generalize hque : sortCandidates input.observedAt (activeRepositoryLoad input.active
    ++ selected.map (·.repository)) input.queued = qs
  have hp : qs.Perm input.queued := hque ▸ perm_insertionSort _ _
  have hsrt := hque ▸ pairwise_sortCandidates hnd
  have hids : (qs.map PersonalWorkerJobRequest.id).Nodup := (hp.map _).nodup_iff.mpr hnd
  have hvis : input.buildVisibility selected = qs.map (input.visibilityOfQueued selected
      ((qs.filter (waits selected)).map (·.id)))
      ++ input.active.map input.visibilityOfActive := by
    rw [← hque]
    rfl
  have hc : ((input.buildVisibility selected).map (·.requestId)).Perm input.liveIds := by
    rw [hvis, map_append, map_map, map_map]
    exact (hp.map _).append_right _
  refine ⟨qs.filter (waits selected), hc, hc.nodup_iff.mpr hacc.distinct,
    ?_, hsrt.sublist filter_sublist, ?_, ?_⟩
  · rw [waiting, filter_filter]
    simp only [Bool.and_comm]
    exact hp.filter _
  · dsimp only
    -- the requests of the queue are seen at the places of those that wait
    rw [hvis, filterMap_append, filterMap_map, filterMap_map,
      ← filterMap_idxOf? (waits selected) hids]
    refine (congrArg₂ (· ++ ·) (filterMap_congr fun request _ => Option.map_map _ _ _) ?_).trans
      (append_nil _)
    simp [Function.comp_def, visibilityOfActive, visibilityForRequest]
  · intro entry hent
    rw [hvis, mem_append, mem_map, mem_map] at hent
    obtain ⟨request, hreq, rfl⟩ | ⟨active, -, rfl⟩ := hent
    · rw [state_visibilityOfQueued hids selected hreq]
      exact Option.isSome_map.symm ▸ Iff.rfl
    · show entryState active.admission.state = _ ↔ (none : Option Nat).isSome = true
      cases active.admission.state <;> simp [entryState]

/-- Two requests for one cache, one of which has to wait for the other. -/
def exclusiveQueue : PersonalWorkerQueueInput :=
  idleQueue [sampleRequest, { otherRequest with cacheAccess := .exclusive }]

theorem exists_shown_exclusiveQueue : ∃ decision line, exclusiveQueue.evaluate none = .ok decision
    ∧ decision.selected.length = 1 ∧ exclusiveQueue.Shown decision line := by
  have hr : (fun decision => decision.selected.length) <$> exclusiveQueue.evaluate none
      = .ok 1 := by decide +kernel
  obtain ⟨decision, he, hs⟩ := map_eq_ok.mp hr
  obtain ⟨line, hsh⟩ := exists_shown none decision he
  exact ⟨decision, line, he, hs, hsh⟩

/-! ## The order of storage -/

section Storage

open PersonalWorkerSelecting

variable {qs : List PersonalWorkerJobRequest} {selecting : PersonalWorkerSelecting}

theorem fill_with (slots : Nat) (selecting : PersonalWorkerSelecting) :
    fill { input with queued := qs } slots selecting
      = fill input slots selecting := by
  induction slots generalizing selecting with
  | zero => rfl
  | succ slots ih =>
    have hn : selecting.selectNext { input with queued := qs } = selecting.selectNext input :=
      rfl
    unfold fill
    rw [hn]
    cases selecting.selectNext input with
    | none => rfl
    | some next => exact ih next

theorem nodup_waiting (h : input.liveIds.Nodup) :
    (input.waiting.map PersonalWorkerJobRequest.id).Nodup :=
  (nodup_queued h).sublist (filter_sublist.map _)

/-- **The loop sees what is left only in order.** -/
theorem selected_fill_of_perm (hnd : (selecting.remaining.map PersonalWorkerJobRequest.id).Nodup)
    {remaining : List PersonalWorkerJobRequest} (hp : remaining.Perm selecting.remaining)
    (slots : Nat) :
    (fill input slots { selecting with remaining := remaining }).selected
      = (fill input slots selecting).selected := by
  have hn : selectNext input { selecting with remaining := remaining }
      = selecting.selectNext input := by
    unfold selectNext
    rw [sortCandidates_eq_of_perm hnd hp]
    rfl
  cases slots with
  | zero => rfl
  | succ slots =>
    unfold fill
    rw [hn]
    cases selecting.selectNext input with
    | none => rfl
    | some next => rfl

theorem accepted_of_perm (h : input.Accepted) (hp : qs.Perm input.queued) :
    Accepted { input with queued := qs } where
  queued_le := hp.length_eq ▸ h.queued_le
  active_le := h.active_le
  activity_le := h.activity_le
  never := fun hn => by
    obtain ⟨hq, hr⟩ := h.never hn
    exact ⟨(hq ▸ hp).eq_nil, hr⟩
  profile := h.profile
  pending := h.pending
  queued := fun request hreq => h.queued request (hp.mem_iff.mp hreq)
  active := h.active
  distinct := ((hp.map _).append_right _).nodup_iff.mpr h.distinct
  fits := h.fits
  leases := h.leases

theorem hasWork_of_perm (hp : qs.Perm input.queued) :
    hasWork { input with queued := qs } = input.hasWork := by
  unfold hasWork
  rw [hp.any_eq]

theorem desiredProfile_of_perm (hp : qs.Perm input.queued) :
    desiredProfile { input with queued := qs } = input.desiredProfile := by
  unfold desiredProfile
  rw [hasWork_of_perm hp]

theorem buildVisibility_of_perm (hnd : (input.queued.map PersonalWorkerJobRequest.id).Nodup)
    (hp : qs.Perm input.queued) (selected : List PersonalWorkerSelection) :
    buildVisibility { input with queued := qs } selected = input.buildVisibility selected := by
  unfold buildVisibility
  dsimp only
  rw [sortCandidates_eq_of_perm hnd hp]
  unfold visibilityOfQueued
  rw [desiredProfile_of_perm hp]
  rfl

/-- **The order of storage does not matter.** Whatever order the queue is
stored in, the same observation is accepted with the same decision: the same
requests are selected, the same profile is wanted, and every request has the
same state, the same place and the same lease. -/
theorem evaluate_of_perm (previous : Option PersonalWorkerQueueDecision)
    (decision : PersonalWorkerQueueDecision) (h : input.evaluate previous = .ok decision)
    (hp : qs.Perm input.queued) :
    evaluate { input with queued := qs } previous = .ok decision := by
  unfold evaluate at h
  simp only [bind_eq_ok, pure_eq_ok_iff] at h
  obtain ⟨_, hg, _, hv, usage, hu, rfl⟩ := h
  have ha := validateInput_iff.mp hv
  have hnd := nodup_queued ha.distinct
  have hv' := validateInput_iff.mpr (accepted_of_perm ha hp)
  have hs : selection { input with queued := qs } usage = input.selection usage := by
    have hw : (waiting { input with queued := qs }).Perm
        (input.selecting usage).remaining := hp.filter _
    unfold selection
    rw [fill_with]
    exact selected_fill_of_perm (nodup_waiting ha.distinct) hw _
  show (input.validateGeneration previous >>= fun _ => _) = _
  rw [hg, ok_bind, hv', ok_bind]
  show (aggregateActiveLimits input.active >>= fun _ => _) = _
  rw [hu, ok_bind, hs]
  dsimp only
  rw [buildVisibility_of_perm hnd hp, desiredProfile_of_perm hp, hasWork_of_perm hp,
    pure_eq_ok]

theorem evaluate_of_perm_twoRequests : ∃ decision,
    (idleQueue [sampleRequest, otherRequest]).evaluate none = .ok decision
      ∧ (idleQueue [otherRequest, sampleRequest]).evaluate none = .ok decision := by
  have hr : (fun _ => ()) <$> (idleQueue [sampleRequest, otherRequest]).evaluate none
      = .ok () := by decide +kernel
  obtain ⟨decision, he, -⟩ := map_eq_ok.mp hr
  exact ⟨decision, he, evaluate_of_perm none decision he (.swap _ _ _)⟩

end Storage
end PersonalWorkerQueueInput

end Glaeda
