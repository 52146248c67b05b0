import Glaeda.CatalogRun

/-!
# Which catalogs may follow

A store that is handed a replacement for its catalog has only the two
documents. It infers the operation from what differs between them: one more
reservation, one changed attempt, or one attempt less. The check tries to
redo the operation and accepts when that gives the replacement. This module
compares the check with the operations.

A transition and a retirement are inferred exactly. A reservation is not:
the operation that is redone accepts *any* reservation, also of an attempt
that is past its reservation, and relies on the revision account to notice.
The account notices as long as it is exact. Once the history is full it is a
bound only, and **a replacement that introduces an attempt in the middle of
its life is accepted**.
-/

namespace Glaeda

open Checked KeyedList CatalogRecord List DisposableAttemptState DisposableAttemptCatalogRevision

namespace DisposableAttemptCatalogDocument

variable {c n : DisposableAttemptCatalogDocument}
variable {r : DisposableAttemptReservation} {a : DisposableAttemptState}

/-! ## One operation -/

/-- **The catalog is the result of one operation**: a fresh attempt was
reserved, an active attempt took a step, or a complete one was retired. -/
def OneOperation (c n : DisposableAttemptCatalogDocument) : Prop :=
  (∃ r, r.attempt.phase = .reserved ∧ r.attempt.revision.val = 1
      ∧ c.findActive r.attempt.attemptId = none ∧ c.reserve r = .ok n)
    ∨ (∃ attemptId revision action, n ≠ c ∧ c.replaceAttempt attemptId revision action = .ok n)
    ∨ ∃ attemptId revision, c.retireComplete attemptId revision = .ok n

/-- **The catalog appends an attempt that is past its reservation.** -/
def AppendsAdvanced (c n : DisposableAttemptCatalogDocument) : Prop :=
  ∃ r, r.attempt.phase ≠ .reserved ∧ Appended c r n

/-! ## What the check infers -/

theorem isReservationOf_iff : n.isReservationOf c = true ↔ ∃ r, Appended c r n := by
  unfold isReservationOf
  constructor
  · intro h
    split at h
    · rename_i r hl
      simp only [Bool.and_eq_true, decide_eq_true_eq, okIs_eq_true] at h
      obtain ⟨-, rfl⟩ | ⟨-, hr⟩ := reserve_cases h.2
      · exact absurd h.1 (by omega)
      · exact ⟨r, hr⟩
    · cases h
  · rintro ⟨r, hr⟩
    have hl : n.active.getLast? = some r := by
      rw [hr.active, getLast?_concat]
    rw [hl]
    simp only [Bool.and_eq_true, decide_eq_true_eq, okIs_eq_true]
    exact ⟨by rw [hr.active, length_append]; rfl, reserve_of_appended hr⟩

/-- **One active attempt took one step.** -/
def Stepped (c n : DisposableAttemptCatalogDocument) : Prop :=
  ∃ r a action, r.attempt.perform action = .ok a ∧ a ≠ r.attempt ∧ Replaced c r a n

theorem Replaced.changes_eq (h : Replaced c r a n) (hne : a ≠ r.attempt) :
    n.active.length = c.active.length ∧ n.changes c = [({ r with attempt := a }, r)] := by
  obtain ⟨before, after, hc, hn⟩ := h.active
  have hl : n.active.length = c.active.length := by
    rw [hn, hc, length_append, length_append, length_cons, length_cons]
  exact ⟨hl, (filter_zip_eq_singleton hl).mpr
    ⟨fun heq => hne (congrArg (·.attempt) heq), before, after, hn, hc⟩⟩

theorem isTransitionOf_iff (hrev : n.revision.val = c.revision.val + 1) :
    n.isTransitionOf c = true ↔ Stepped c n := by
  unfold isTransitionOf
  rw [Bool.and_eq_true, Bool.and_eq_true, decide_eq_true_eq, decide_eq_true_eq]
  constructor
  · rintro ⟨⟨hl, ht⟩, h⟩
    split at h
    · rename_i next prior hch
      obtain ⟨hne, before, after, hn, hc⟩ := (filter_zip_eq_singleton hl).mp hch
      simp only [Bool.and_eq_true, decide_eq_true_eq] at h
      obtain ⟨⟨hrsc, htem⟩, hs⟩ := h
      have hnx : next = { prior with attempt := next.attempt } := by
        cases next
        simp_all
      obtain ⟨action, ha⟩ := exists_perform_of_isExactSuccessorOf hs
      refine ⟨prior, next.attempt, action, ha, fun heq => hne ?_, ?_, ht, hrev⟩
      · rw [hnx, heq]
      · exact ⟨before, after, hc, hnx ▸ hn⟩
    · cases h
  · rintro ⟨r, a, action, hp, hne, hr⟩
    obtain ⟨hl, hch⟩ := hr.changes_eq hne
    refine ⟨⟨hl, hr.tombstones⟩, ?_⟩
    rw [hch]
    simp only [Bool.and_eq_true, decide_eq_true_eq]
    exact ⟨⟨trivial, trivial⟩, isExactSuccessorOf_of_perform hp⟩

theorem isRetirementOf_iff :
    n.isRetirementOf c = true ↔ ∃ r, r.attempt.phase = .complete ∧ Retired c r n := by
  unfold isRetirementOf
  simp only [any_eq_true, okIs_eq_true]
  constructor
  · rintro ⟨_, -, h⟩
    obtain ⟨r, -, -, hcm, hr⟩ := retireComplete_cases h
    exact ⟨r, hcm, hr⟩
  · rintro ⟨r, hcm, hr⟩
    refine ⟨r, ?_, retireComplete_of_retired hr hcm⟩
    obtain ⟨before, after, hc, -⟩ := hr.active
    rw [hc]
    exact mem_append_right _ mem_cons_self

theorem revision_of_changed (h : (∃ r, Appended c r n) ∨ Stepped c n
    ∨ ∃ r, r.attempt.phase = .complete ∧ Retired c r n) :
    n.revision.val = c.revision.val + 1 := by
  obtain ⟨r, hr⟩ | ⟨r, a, action, -, -, hr⟩ | ⟨r, -, hr⟩ := h
  · exact hr.revision
  · exact hr.revision
  · exact hr.revision

/-- **What the check accepts.** -/
theorem validateSuccessorOf_eq_ok :
    n.validateSuccessorOf c = .ok () ↔ (∃ r, Appended c r n) ∨ Stepped c n
        ∨ ∃ r, r.attempt.phase = .complete ∧ Retired c r n := by
  unfold validateSuccessorOf
  rw [c.valid, ok_bind, n.valid, ok_bind]
  simp only [bind_eq_ok, refuseIf_eq_ok, not_not, ne_eq, exists_const,
    next_eq_ok, isReservationOf_iff, isRetirementOf_iff]
  constructor
  · rintro ⟨_, hn, rfl, h⟩
    rwa [isTransitionOf_iff hn] at h
  · intro h
    have hr := revision_of_changed h
    rw [← isTransitionOf_iff hr] at h
    exact ⟨_, hr, rfl, h⟩

/-- **What one operation does**, in the same terms. -/
theorem oneOperation_iff :
    OneOperation c n ↔ (∃ r, r.attempt.phase = .reserved ∧ Appended c r n) ∨ Stepped c n
        ∨ ∃ r, r.attempt.phase = .complete ∧ Retired c r n := by
  refine or_congr ?_ (or_congr ?_ ?_)
  · constructor
    · rintro ⟨r, hph, -, hn, h⟩
      obtain ⟨hfnd, -⟩ | ⟨-, hr⟩ := reserve_cases h
      · rw [hn] at hfnd
        cases hfnd
      · exact ⟨r, hph, hr⟩
    · rintro ⟨r, hph, hr⟩
      have hres := reserve_of_appended hr
      refine ⟨r, hph, revision_of_reserved hph, ?_, hres⟩
      obtain ⟨-, rfl⟩ | ⟨hn, -⟩ := reserve_cases hres
      · exact absurd hr.revision (by omega)
      · exact hn
  · constructor
    · rintro ⟨attemptId, revision, action, hne, h⟩
      obtain ⟨r, a, -, -, hp, ⟨-, heq⟩ | ⟨hch, hr⟩⟩ := replaceAttempt_cases h
      · exact absurd heq hne
      · exact ⟨r, a, action, hp, hch, hr⟩
    · rintro ⟨r, a, action, hp, hne, hr⟩
      refine ⟨_, _, action, ?_, replaceAttempt_of_replaced hr hp hne⟩
      rintro rfl
      exact absurd hr.revision (by omega)
  · constructor
    · rintro ⟨attemptId, revision, h⟩
      obtain ⟨r, -, -, hc, hr⟩ := retireComplete_cases h
      exact ⟨r, hc, hr⟩
    · rintro ⟨r, hc, hr⟩
      exact ⟨_, _, retireComplete_of_retired hr hc⟩

/-- What the check accepts is one operation, or introduces an attempt past
its reservation. -/
theorem validateSuccessorOf_cases :
    n.validateSuccessorOf c = .ok () ↔ OneOperation c n ∨ AppendsAdvanced c n := by
  rw [validateSuccessorOf_eq_ok, oneOperation_iff]
  constructor
  · rintro (⟨r, hr⟩ | h)
    · by_cases hph : r.attempt.phase = .reserved
      · exact .inl (.inl ⟨r, hph, hr⟩)
      · exact .inr ⟨r, hph, hr⟩
    · exact .inl (.inr h)
  · rintro ((⟨r, -, hr⟩ | h) | ⟨r, -, hr⟩)
    · exact .inl ⟨r, hr⟩
    · exact .inr h
    · exact .inl ⟨r, hr⟩

theorem AppendsAdvanced.not_oneOperation (h : AppendsAdvanced c n) : ¬ OneOperation c n := by
  obtain ⟨r, hph, hr⟩ := h
  have hl : n.active.length = c.active.length + 1 := by
    rw [hr.active, length_append, length_singleton]
  rw [oneOperation_iff]
  rintro (⟨s, hs, hr'⟩ | ⟨s, a, action, -, -, hr'⟩ | ⟨s, -, hr'⟩)
  · have hsm := append_cancel_left (hr.active.symm.trans hr'.active)
    obtain rfl := singleton_inj.mp hsm
    exact hph hs
  · obtain ⟨before, after, hc, hn⟩ := hr'.active
    rw [hn, hc] at hl
    simp at hl
  · obtain ⟨before, after, hc, hn⟩ := hr'.active
    rw [hn, hc] at hl
    simp at hl
    omega

/-- **The check is exact except for attempts past their reservation.** It
accepts a replacement if and only if one operation leads to it – unless the
replacement appends an attempt that is past its reservation. -/
theorem validateSuccessorOf_exact_iff (c n : DisposableAttemptCatalogDocument) :
    (n.validateSuccessorOf c = .ok () ↔ OneOperation c n) ↔ ¬ AppendsAdvanced c n := by
  rw [validateSuccessorOf_cases]
  constructor
  · intro h ha
    exact ha.not_oneOperation (h.mp (.inr ha))
  · intro hn
    exact ⟨fun h => h.resolve_right hn, .inl⟩

/-! ## What may be left staged

The store publishes more than replacements: the bind of a machine identity is
no step of the catalog, and only the check of what is left staged knows it. -/

theorem validateRecoverySuccessorOf_of_successor (h : n.validateSuccessorOf c = .ok ()) :
    n.validateRecoverySuccessorOf c = .ok () := by
  unfold validateRecoverySuccessorOf
  rw [h]
  rfl

theorem revision_of_validateRecoverySuccessorOf (h : n.validateRecoverySuccessorOf c = .ok ()) :
    n.revision.val = c.revision.val + 1 := by
  unfold validateRecoverySuccessorOf at h
  split at h
  · rename_i hok
    cases hs : n.validateSuccessorOf c with
    | error e =>
      rw [hs] at hok
      cases hok
    | ok u =>
      exact revision_of_changed (validateSuccessorOf_eq_ok.mp hs)
  · rw [c.valid, ok_bind, n.valid, ok_bind, bind_eq_ok] at h
    obtain ⟨revision, hr, h⟩ := h
    rw [refuseIf_bind_eq_ok, not_or, not_not] at h
    rw [h.1.1]
    exact next_eq_ok.mp hr

/-- **What a bind does to an attempt**: it starts its clone for the first time,
and learns the identity of its machine. -/
theorem bindVmIdentityAfterClone_eq_ok {s : DisposableAttemptState}
    {identity : DisposableVmIdentity} (h : s.bindVmIdentityAfterClone identity = .ok a) :
    s.phase = .cloneStarted ∧ s.revision.val = 3 ∧ s.vmIdentity = none
      ∧ a.revision.val = 4 ∧ a.toAttemptRecord = { s.toAttemptRecord with
        revision := a.revision, vmIdentity := some identity } := by
  unfold DisposableAttemptState.bindVmIdentityAfterClone at h
  simp only [bind_eq_ok, refuseIf_eq_ok, not_or, not_not, ne_eq,
    DisposableAttemptRevision.next_eq_ok, DisposableAttemptState.accept_eq_ok,
    Option.not_isSome_iff_eq_none] at h
  obtain ⟨_, ⟨hph, ht, hu⟩, revision, hn, ha⟩ := h
  have hr : a.revision = revision := by rw [ha]
  rw [hr]
  exact ⟨hph, ht, hu, by omega, ha⟩

section Bind

variable {attemptId : DisposableAttemptId} {revision : DisposableAttemptRevision}
variable {identity : DisposableVmIdentity}

/-- **A bind may be left staged.** -/
theorem validateRecoverySuccessorOf_bind
    (h : c.bindVmIdentityAfterClone attemptId revision identity = .ok n) :
    n.validateRecoverySuccessorOf c = .ok () := by
  obtain ⟨r, a, -, -, hb, hr⟩ := bindVmIdentityAfterClone_cases h
  obtain ⟨hph, ht, hu, hf, ha⟩ := bindVmIdentityAfterClone_eq_ok hb
  have hne : a ≠ r.attempt := by
    rintro rfl
    omega
  obtain ⟨hl, hc⟩ := hr.changes_eq hne
  unfold validateRecoverySuccessorOf
  split
  · rfl
  · have hs : ¬ (n.revision ≠ n.revision ∨ n.active.length ≠ c.active.length
        ∨ n.tombstones ≠ c.tombstones) := by
      rw [hl, hr.tombstones]
      simp
    have hbd : isIdentityBind { r with attempt := a } r = true := by
      unfold isIdentityBind
      rw [ha]
      simp [hph, ht, hu, hf]
    rw [c.valid, ok_bind, n.valid, ok_bind, next_of_succ hr.revision, ok_bind,
      refuseIf_bind hs, hc]
    exact refuseIf_not hbd

/-- **A bind is no replacement**: no operation of the catalog touches the
identity of a machine. -/
theorem not_validateSuccessorOf_bind
    (h : c.bindVmIdentityAfterClone attemptId revision identity = .ok n) :
    n.validateSuccessorOf c ≠ .ok () := by
  obtain ⟨r, a, -, -, hb, hr⟩ := bindVmIdentityAfterClone_cases h
  obtain ⟨-, -, hu, hf, ha⟩ := bindVmIdentityAfterClone_eq_ok hb
  have hne : a ≠ r.attempt := by
    rintro rfl
    rw [ha] at hu
    cases hu
  obtain ⟨hl, hch⟩ := hr.changes_eq hne
  rw [ne_eq, validateSuccessorOf_eq_ok]
  rintro (⟨s, hs⟩ | ⟨s, b, action, hp, hst, hs⟩ | ⟨s, -, hs⟩)
  · rw [hs.active, length_append, length_singleton] at hl
    omega
  · -- the attempt that took the step would be the one that was bound
    have hsm := hch.symm.trans (hs.changes_eq hst).2
    rw [singleton_inj, Prod.mk.injEq] at hsm
    obtain ⟨hnx, rfl⟩ := hsm
    obtain rfl : a = b := congrArg (·.attempt) hnx
    have hk := vmIdentity_of_perform hp
    rw [hu, ha] at hk
    cases hk
  · obtain ⟨before, after, hc, hn⟩ := hs.active
    rw [hc, hn, length_append, length_append, length_cons] at hl
    omega

end Bind

/-- **Whatever an operation leads to may be left staged.** -/
theorem validateRecoverySuccessorOf_operate {operation : CatalogOperation}
    (h : c.operate operation = .ok n) (hne : n ≠ c) :
    n.validateRecoverySuccessorOf c = .ok () := by
  cases operation with
  | reserve reservation =>
    obtain ⟨-, rfl⟩ | ⟨-, hr⟩ := reserve_cases h
    · exact absurd rfl hne
    · exact validateRecoverySuccessorOf_of_successor (validateSuccessorOf_eq_ok.mpr (.inl ⟨_, hr⟩))
  | transition attemptId revision action =>
    obtain ⟨r, a, -, -, hp, ⟨-, rfl⟩ | ⟨hc, hr⟩⟩ := replaceAttempt_cases h
    · exact absurd rfl hne
    · exact validateRecoverySuccessorOf_of_successor
        (validateSuccessorOf_eq_ok.mpr (.inr (.inl ⟨r, a, action, hp, hc, hr⟩)))
  | bind attemptId revision identity => exact validateRecoverySuccessorOf_bind h
  | retire attemptId revision =>
    obtain ⟨r, -, -, hcm, hr⟩ := retireComplete_cases h
    exact validateRecoverySuccessorOf_of_successor
      (validateSuccessorOf_eq_ok.mpr (.inr (.inr ⟨r, hcm, hr⟩)))

/-! ## An attempt in the middle of its life

After sixty-five attempts the history of a catalog is full and the first one
is evicted, so the account lags behind the revision. -/

theorem Served.accountedRevision_le {j : Nat} (h : Served j c) : c.accountedRevision ≤ 193 := by
  have hl := c.length_tombstones_le
  have hs : tombstoneRevisions c.tombstones ≤ c.tombstones.length * 3 := by
    refine (sum_le_card_nsmul _ 3 fun x hx => ?_).trans (by simp)
    obtain ⟨a, ha, rfl⟩ := mem_map.mp hx
    obtain ⟨i, -, rfl⟩ := h.tombstones a ha
    exact le_refl 3
  have hm : maxDisposableAttemptTombstones = 64 := rfl
  rw [CatalogRecord.accountedRevision, h.active]
  show 1 + 0 + _ ≤ _
  omega

/-- **The check lets an attempt past its reservation through**, beside a
catalog that a run from the empty one leads to. -/
theorem validateSuccessorOf_releasing :
    ∃ operations n r, n.validateSuccessorOf (runOperations .empty operations) = .ok ()
      ∧ n.active = (runOperations .empty operations).active ++ [r]
      ∧ r.attempt.phase = .unprovisionedReleasing
      ∧ ¬ OneOperation (runOperations .empty operations) n := by
  obtain ⟨operations, h⟩ := exists_served 65 (by decide)
  refine ⟨operations, ?_⟩
  generalize runOperations .empty operations = c at h
  have hrev := h.revision
  have hle := h.accountedRevision_le
  obtain ⟨i, hi⟩ : ∃ i : AttemptNumber, i.val = 65 := ⟨⟨65, by decide⟩, rfl⟩
  let r : DisposableAttemptReservation :=
    { numberedReservation i with attempt := numberedReleasing i }
  have hval : CatalogRecord.validate { c.toCatalogRecord with
      revision := ⟨197, by decide, by decide⟩, active := [r] } = .ok () := by
    have hf : ¬ c.tombstones.length < maxDisposableAttemptTombstones := by
      intro hr
      have hagr := c.revisionAgrees
      rw [RevisionAgrees, if_pos hr] at hagr
      omega
    refine validate_iff_accounts.mpr ⟨c.schemaVersion_eq,
      ⟨show 1 ≤ 64 by decide, c.length_tombstones_le⟩, ?_, ?_,
      fun _ => complete_of_mem_tombstones, ?_⟩
    · unfold CatalogRecord.accountedRevision at hle
      rw [RevisionAgrees, if_neg hf]
      show 1 + 2 + tombstoneRevisions c.tombstones ≤ 197
      omega
    · have hd := h.identitiesDistinct_cons (a := numberedReleasing i) hi rfl
      rw [CatalogRecord.attempts, h.active] at hd
      exact hd
    · exact usageFits_leastResources
  have ha : Appended c r ⟨_, hval⟩ := ⟨by rw [h.active]; rfl, rfl, by rw [hrev]⟩
  refine ⟨⟨_, hval⟩, r, validateSuccessorOf_eq_ok.mpr (.inl ⟨r, ha⟩), ha.active,
    rfl, AppendsAdvanced.not_oneOperation ⟨r, ?_, ha⟩⟩
  show DisposableAttemptPhase.unprovisionedReleasing ≠ .reserved
  decide

end DisposableAttemptCatalogDocument

end Glaeda
