import Glaeda.AttemptCatalog
import Glaeda.KeyedList

/-!
# What the catalog operations do

Each of the three operations on a catalog is a chain of searches, guards and
one validation. The lemmas here invert them once: a reservation was appended,
an attempt was replaced where it stood, or a completed attempt moved to the
history, and in each case **the revision grew by exactly one and everything
else stayed**. From then on a proof speaks of what is found under a runner
request before and after, and never of places in a list.

Because every operation that changes a catalog raises its revision, a
catalog that came out of operations on another one is either that catalog
or has a larger revision (`Evolves`). Recovery leans on this: it tells two
catalogs of one transaction apart by their revisions alone.
-/

namespace Glaeda

open Checked KeyedList CatalogRecord DisposableAttemptCatalogRevision

namespace CatalogRecord

/-- **A catalog validates when** its bounds, its revision, its identities,
its history and its usage are in order. -/
theorem validate_eq_ok_iff (c : CatalogRecord) :
    c.validate = .ok () ↔ c.schemaVersion = disposableAttemptCatalogSchemaVersion
        ∧ (c.active.length ≤ maxActiveDisposableAttempts
          ∧ c.tombstones.length ≤ maxDisposableAttemptTombstones)
        ∧ (∃ represented, c.representedRevision = some represented
          ∧ if c.tombstones.length < maxDisposableAttemptTombstones then
              c.revision.val = represented else represented ≤ c.revision.val)
        ∧ (∀ r ∈ c.active, r.attempt.phase = .reserved → r.attempt.revision.val = 1)
        ∧ IdentitiesDistinct c.attempts
        ∧ (∀ a ∈ c.tombstones, a.phase = .complete)
        ∧ ∃ usage, c.hostUsage = .ok usage := by
  unfold validate
  simp only [bind_eq_ok, refuseIf_eq_ok, okOr_eq_ok, pure_eq_ok,
    not_or, not_lt, gt_iff_lt, not_not, not_exists, not_and, ne_eq, exists_const]
  grind

end CatalogRecord

namespace DisposableAttemptCatalogDocument

variable {c d n : DisposableAttemptCatalogDocument}
variable {r : DisposableAttemptReservation} {a : DisposableAttemptState}
variable {attemptId : DisposableAttemptId} {rev : DisposableAttemptRevision}
variable {action : DisposableAttemptCatalogAction} {k : Nat}

/-! ## What validation says -/

theorem identitiesDistinct (c : DisposableAttemptCatalogDocument) :
    CatalogRecord.IdentitiesDistinct c.attempts :=
  ((validate_eq_ok_iff _).mp c.valid).2.2.2.2.1

theorem complete_of_mem_tombstones (h : a ∈ c.tombstones) : a.phase = .complete :=
  ((validate_eq_ok_iff _).mp c.valid).2.2.2.2.2.1 a h

theorem length_tombstones_le (c : DisposableAttemptCatalogDocument) :
    c.tombstones.length ≤ maxDisposableAttemptTombstones :=
  ((validate_eq_ok_iff _).mp c.valid).2.1.2

theorem length_active_le (c : DisposableAttemptCatalogDocument) :
    c.active.length ≤ maxActiveDisposableAttempts :=
  ((validate_eq_ok_iff _).mp c.valid).2.1.1

theorem nodup_active {κ : Type} (key : DisposableAttemptState → κ)
    (h : (c.attempts.map key).Nodup) : (c.active.map (fun r => key r.attempt)).Nodup := by
  rw [attempts, List.map_append, List.map_map] at h
  exact h.of_append_left

theorem nodup_activeIds (c : DisposableAttemptCatalogDocument) :
    (c.active.map (fun r => r.attempt.attemptId)).Nodup :=
  nodup_active (fun a => a.attemptId) c.identitiesDistinct.1

theorem nodup_requestIds (c : DisposableAttemptCatalogDocument) :
    (c.attempts.map (fun a => a.runnerRequestId)).Nodup :=
  c.identitiesDistinct.2.2.2.2.1

theorem nodup_activeRequestIds (c : DisposableAttemptCatalogDocument) :
    (c.active.map (fun r => r.attempt.runnerRequestId)).Nodup :=
  nodup_active (fun a => a.runnerRequestId) c.nodup_requestIds

theorem nodup_tombstoneRequestIds (c : DisposableAttemptCatalogDocument) :
    (c.tombstones.map (fun a => a.runnerRequestId)).Nodup := by
  have h := c.nodup_requestIds
  rw [attempts, List.map_append] at h
  exact h.of_append_right

/-! ## The three operations -/

/-- **The catalog after an attempt was replaced.** -/
structure Replaced (c : DisposableAttemptCatalogDocument) (r : DisposableAttemptReservation)
    (a : DisposableAttemptState) (n : DisposableAttemptCatalogDocument) : Prop where
  active : ∃ before after, c.active = before ++ r :: after
    ∧ n.active = before ++ { r with attempt := a } :: after
  tombstones : n.tombstones = c.tombstones
  revision : n.revision.val = c.revision.val + 1

/-- **The catalog after a completed attempt moved to the history.** -/
structure Retired (c : DisposableAttemptCatalogDocument) (r : DisposableAttemptReservation)
    (n : DisposableAttemptCatalogDocument) : Prop where
  active : ∃ before after, c.active = before ++ r :: after ∧ n.active = before ++ after
  tombstones : n.tombstones = pushTombstone c.tombstones r.attempt
  revision : n.revision.val = c.revision.val + 1

/-- **The catalog after a fresh reservation.** -/
structure Appended (c : DisposableAttemptCatalogDocument) (r : DisposableAttemptReservation)
    (n : DisposableAttemptCatalogDocument) : Prop where
  active : n.active = c.active ++ [r]
  tombstones : n.tombstones = c.tombstones
  revision : n.revision.val = c.revision.val + 1

theorem findActive_of_position {i : Fin c.active.length}
    (h : c.position attemptId = some i) : c.findActive attemptId = some (c.active.get i) := by
  show lookup (fun r : DisposableAttemptReservation => r.attempt.attemptId) _ _ = _
  rw [lookup_eq_map_place]
  exact congrArg (Option.map (c.active.get ·)) h

theorem position_of_findActive (h : c.findActive attemptId = some r) :
    ∃ i, c.position attemptId = some i ∧ c.active.get i = r := by
  change lookup (fun r : DisposableAttemptReservation => r.attempt.attemptId) _ _ = _ at h
  rw [lookup_eq_map_place, Option.map_eq_some_iff] at h
  exact h

/-- **An accepted replacement** performed the action on the attempt; when
that changed nothing it is the same catalog. -/
theorem replaceAttempt_cases (h : c.replaceAttempt attemptId rev action = .ok n) :
    ∃ r a, c.findActive attemptId = some r ∧ r.attempt.revision = rev
      ∧ r.attempt.perform action = .ok a
      ∧ ((a = r.attempt ∧ n = c) ∨ (a ≠ r.attempt ∧ Replaced c r a n)) := by
  unfold replaceAttempt at h
  simp only [bind_eq_ok, okOr_eq_ok, refuseIf_eq_ok, applyAction_eq_ok, not_not, ne_eq] at h
  obtain ⟨i, hi, -, hr, a, ha, h⟩ := h
  refine ⟨c.active.get i, a, findActive_of_position hi, hr, ha, ?_⟩
  split at h
  · rename_i hs
    exact .inl ⟨hs, (Except.ok.inj h).symm⟩
  · rename_i hc
    rw [bind_eq_ok] at h
    obtain ⟨next, hn, h⟩ := h
    rw [accept_eq_ok] at h
    refine .inr ⟨hc, ?_, ?_, ?_⟩
    · refine ⟨c.active.take i, c.active.drop (i + 1), split_at _ i, ?_⟩
      rw [h]
      exact set_at _ i _
    · rw [h]
    · rw [h]
      exact next_eq_ok.mp hn

/-- **An accepted bind** gave the attempt its machine identity. -/
theorem bindVmIdentityAfterClone_cases {identity : DisposableVmIdentity}
    (h : c.bindVmIdentityAfterClone attemptId rev identity = .ok n) :
    ∃ r a, c.findActive attemptId = some r ∧ r.attempt.revision = rev
      ∧ r.attempt.bindVmIdentityAfterClone identity = .ok a ∧ Replaced c r a n := by
  unfold bindVmIdentityAfterClone at h
  simp only [bind_eq_ok, okOr_eq_ok, refuseIf_eq_ok, mapError_eq_ok, accept_eq_ok, not_not,
    ne_eq] at h
  obtain ⟨i, hi, -, hr, a, ha, next, hn, h⟩ := h
  refine ⟨c.active.get i, a, findActive_of_position hi, hr, ha, ?_, ?_, ?_⟩
  · refine ⟨c.active.take i, c.active.drop (i + 1), split_at _ i, ?_⟩
    rw [h]
    exact set_at _ i _
  · rw [h]
  · rw [h]
    exact next_eq_ok.mp hn

/-- **A replacement that changes nothing** is accepted as such. -/
theorem replaceAttempt_of_perform_self (hf : c.findActive attemptId = some r)
    (hs : r.attempt.perform action = .ok r.attempt) :
    c.replaceAttempt attemptId r.attempt.revision action = .ok c := by
  obtain ⟨i, hi, rfl⟩ := position_of_findActive hf
  unfold replaceAttempt
  rw [hi]
  simp only [okOr, ok_bind, refuseIf, ne_eq, not_true_eq_false, if_false]
  rw [applyAction_eq_ok.mpr hs]
  simp

/-- **An accepted retirement** moved a completed attempt to the history. -/
theorem retireComplete_cases (h : c.retireComplete attemptId rev = .ok n) :
    ∃ r, c.findActive attemptId = some r ∧ r.attempt.revision = rev
      ∧ r.attempt.phase = .complete ∧ Retired c r n := by
  unfold retireComplete at h
  simp only [bind_eq_ok, okOr_eq_ok, refuseIf_eq_ok, accept_eq_ok, not_not, ne_eq] at h
  obtain ⟨i, hi, -, hr, -, hc, next, hn, h⟩ := h
  refine ⟨c.active.get i, findActive_of_position hi, hr, hc, ?_, ?_, ?_⟩
  · refine ⟨c.active.take i, c.active.drop (i + 1), split_at _ i, ?_⟩
    rw [h]
    exact List.eraseIdx_eq_take_drop_succ _ _
  · rw [h]
  · rw [h]
    exact next_eq_ok.mp hn

/-- **An accepted reservation** was there already, or was appended. -/
theorem reserve_cases (h : c.reserve r = .ok n) :
    (c.findActive r.attempt.attemptId = some r ∧ n = c)
      ∨ (c.findActive r.attempt.attemptId = none ∧ Appended c r n) := by
  unfold reserve at h
  split at h
  · rename_i existing hf
    split at h
    · rename_i hs
      exact .inl ⟨hs ▸ hf, (Except.ok.inj h).symm⟩
    · cases h
  · rename_i hf
    simp only [bind_eq_ok, accept_eq_ok] at h
    obtain ⟨-, -, -, -, next, hn, h⟩ := h
    refine .inr ⟨hf, ?_, ?_, ?_⟩
    · rw [h]
    · rw [h]
    · rw [h]
      exact next_eq_ok.mp hn

/-! ## What is found afterwards -/

/-- **Remembering one more attempt** drops as many of the oldest as are over
the bound. -/
theorem pushTombstone_eq_drop {tombs : List DisposableAttemptState}
    (h : tombs.length ≤ maxDisposableAttemptTombstones) :
    pushTombstone tombs a
      = (tombs ++ [a]).drop (tombs.length + 1 - maxDisposableAttemptTombstones) := by
  show (if (tombs ++ [a]).length > maxDisposableAttemptTombstones then
    (tombs ++ [a]).tail else tombs ++ [a]) = _
  rw [List.length_append, List.length_singleton]
  split
  · have ho : tombs.length + 1 - maxDisposableAttemptTombstones = 1 := by omega
    rw [ho, List.drop_one]
  · have hz : tombs.length + 1 - maxDisposableAttemptTombstones = 0 := by omega
    rw [hz, List.drop_zero]

theorem forgotten_le (c : DisposableAttemptCatalogDocument) :
    c.tombstones.length + 1 - maxDisposableAttemptTombstones ≤ c.tombstones.length := by
  have hm : maxDisposableAttemptTombstones = 64 := rfl
  omega

variable {q : ScaleSetRunnerRequestId}

theorem Replaced.findActive (h : Replaced c r a n) (hid : a.attemptId = r.attempt.attemptId) :
    n.findActive r.attempt.attemptId = some { r with attempt := a } := by
  obtain ⟨before, after, hc, hn⟩ := h.active
  show lookup (fun r : DisposableAttemptReservation => r.attempt.attemptId) _ _ = _
  have hk := c.nodup_activeIds
  rw [hc] at hk
  rw [hn, lookup_replace hk hid, if_pos rfl]

theorem Replaced.findActiveByRunnerRequestId (h : Replaced c r a n)
    (hid : a.runnerRequestId = r.attempt.runnerRequestId) :
    n.findActiveByRunnerRequestId q
      = if r.attempt.runnerRequestId = q then some { r with attempt := a }
        else c.findActiveByRunnerRequestId q := by
  obtain ⟨before, after, hc, hn⟩ := h.active
  show lookup (fun r : DisposableAttemptReservation => r.attempt.runnerRequestId) _ _
    = if _ then _ else lookup _ _ _
  have hk := c.nodup_activeRequestIds
  rw [hc] at hk
  rw [hn, hc, lookup_replace hk hid]

theorem Replaced.findTombstoneByRunnerRequestId (h : Replaced c r a n) :
    n.findTombstoneByRunnerRequestId q = c.findTombstoneByRunnerRequestId q := by
  unfold DisposableAttemptCatalogDocument.findTombstoneByRunnerRequestId
  rw [h.tombstones]

theorem Retired.findActiveByRunnerRequestId (h : Retired c r n) :
    n.findActiveByRunnerRequestId q
      = if r.attempt.runnerRequestId = q then none else c.findActiveByRunnerRequestId q := by
  obtain ⟨before, after, hc, hn⟩ := h.active
  show lookup (fun r : DisposableAttemptReservation => r.attempt.runnerRequestId) _ _
    = if _ then _ else lookup _ _ _
  have hk := c.nodup_activeRequestIds
  rw [hc] at hk
  rw [hn, hc, lookup_remove hk]

/-- **The catalog after an attempt left the active ones** and is remembered
as `a`. On the way it may have been replaced, so only what is found under
each request is compared. -/
structure Released (c : DisposableAttemptCatalogDocument) (r : DisposableAttemptReservation)
    (a : DisposableAttemptState) (n : DisposableAttemptCatalogDocument) : Prop where
  request : a.runnerRequestId = r.attempt.runnerRequestId
  active : ∀ q, n.findActiveByRunnerRequestId q
    = if r.attempt.runnerRequestId = q then none else c.findActiveByRunnerRequestId q
  tombstones : n.tombstones = pushTombstone c.tombstones a
  revision : c.revision.val < n.revision.val

theorem Retired.released (h : Retired c r n) : Released c r r.attempt n where
  request := rfl
  active _ := h.findActiveByRunnerRequestId
  tombstones := h.tombstones
  revision := h.revision ▸ Nat.lt_succ_self _

theorem Replaced.released {b : DisposableAttemptState} (h : Replaced c r a d)
    (hid : a.runnerRequestId = r.attempt.runnerRequestId)
    (h' : Released d { r with attempt := a } b n) : Released c r b n where
  request := h'.request.trans hid
  active q := by
    rw [h'.active, hid, h.findActiveByRunnerRequestId hid]
    split
    · rfl
    · rfl
  tombstones := by rw [h'.tombstones, h.tombstones]
  revision := by
    have hlt := h'.revision
    rw [h.revision] at hlt
    exact Nat.lt_of_succ_lt hlt

theorem Released.findTombstone_self (h : Released c r a n) :
    n.findTombstoneByRunnerRequestId r.attempt.runnerRequestId = some a := by
  refine (lookup_eq_some n.nodup_tombstoneRequestIds).mpr ⟨?_, h.request⟩
  rw [h.tombstones, pushTombstone_eq_drop c.length_tombstones_le,
    List.drop_append_of_le_length (forgotten_le c)]
  exact List.mem_append_right _ (List.mem_singleton_self _)

/-- **A request outlives the next `k` releases** when no remembered attempt
of it is among those they push out. -/
def Unforgotten (c : DisposableAttemptCatalogDocument) (k : Nat)
    (q : ScaleSetRunnerRequestId) : Prop :=
  ∀ a ∈ c.tombstones.take (c.tombstones.length + k - maxDisposableAttemptTombstones),
    a.runnerRequestId ≠ q

theorem Unforgotten.mono {l : Nat} (h : Unforgotten c l q) (hkl : k ≤ l) : Unforgotten c k q :=
  fun a ha => h a (List.take_subset_take_left _ (by omega) ha)

theorem Unforgotten.of_tombstones_eq (h : Unforgotten c k q)
    (heq : n.tombstones = c.tombstones) : Unforgotten n k q := by
  unfold Unforgotten
  rw [heq]
  exact h

theorem Released.unforgotten (h : Released c r a n)
    (hk : k < maxDisposableAttemptTombstones) (hq : Unforgotten c (k + 1) q) :
    Unforgotten n k q := by
  have hl := c.length_tombstones_le
  have hf := forgotten_le c
  intro b hb
  rw [h.tombstones, pushTombstone_eq_drop hl, List.drop_append_of_le_length hf,
    List.take_append_of_le_length (by simp; omega), List.take_drop] at hb
  refine hq b (List.take_subset_take_left _ ?_ (List.mem_of_mem_drop hb))
  simp only [List.length_append, List.length_drop, List.length_singleton]
  omega

/-- Another attempt is remembered as before, unless it is the one pushed
out. -/
theorem Released.findTombstone_of_ne (h : Released c r a n)
    (hne : r.attempt.runnerRequestId ≠ q) (hk : Unforgotten c 1 q) :
    n.findTombstoneByRunnerRequestId q = c.findTombstoneByRunnerRequestId q := by
  show lookup (fun a : DisposableAttemptState => a.runnerRequestId) _ _ = lookup _ _ _
  have hl : lookup (fun a : DisposableAttemptState => a.runnerRequestId) q [a] = none := by
    rw [lookup_eq_none]
    intro b hb
    rw [List.mem_singleton.mp hb, h.request]
    exact hne
  rw [h.tombstones, pushTombstone_eq_drop c.length_tombstones_le,
    List.drop_append_of_le_length (forgotten_le c), lookup_append, hl, Option.or_none]
  conv_rhs => rw [← List.take_append_drop
    (c.tombstones.length + 1 - maxDisposableAttemptTombstones) c.tombstones]
  rw [lookup_append, lookup_eq_none.mpr hk, Option.none_or]

theorem Appended.findActiveByRunnerRequestId (h : Appended c r n) :
    n.findActiveByRunnerRequestId q
      = if r.attempt.runnerRequestId = q then some r else c.findActiveByRunnerRequestId q := by
  show lookup (fun r : DisposableAttemptReservation => r.attempt.runnerRequestId) _ _
    = if _ then _ else lookup _ _ _
  rw [h.active]
  refine lookup_concat ?_
  rw [lookup_eq_none]
  intro s hs heq
  -- the reservation would share its request with an older one
  have hk := n.nodup_activeRequestIds
  rw [h.active, List.map_append, List.nodup_append] at hk
  exact hk.2.2 _ (List.mem_map_of_mem hs) _ (List.mem_map_of_mem List.mem_cons_self) heq

theorem Appended.findTombstoneByRunnerRequestId (h : Appended c r n) :
    n.findTombstoneByRunnerRequestId q = c.findTombstoneByRunnerRequestId q := by
  unfold DisposableAttemptCatalogDocument.findTombstoneByRunnerRequestId
  rw [h.tombstones]

theorem findActive_of_findActiveByRunnerRequestId (h : c.findActiveByRunnerRequestId q = some r) :
    c.findActive r.attempt.attemptId = some r :=
  (lookup_eq_some c.nodup_activeIds).mpr ⟨mem_of_lookup h, rfl⟩

theorem findActiveByRunnerRequestId_of_findActive (h : c.findActive attemptId = some r) :
    c.findActiveByRunnerRequestId r.attempt.runnerRequestId = some r :=
  (lookup_eq_some c.nodup_activeRequestIds).mpr ⟨mem_of_lookup h, rfl⟩

theorem attemptId_of_findActive
    (h : c.findActive attemptId = some r) : r.attempt.attemptId = attemptId :=
  ((lookup_eq_some c.nodup_activeIds).mp h).2

theorem runnerRequestId_of_findActive (h : c.findActiveByRunnerRequestId q = some r) :
    r.attempt.runnerRequestId = q :=
  ((lookup_eq_some c.nodup_activeRequestIds).mp h).2

theorem findTombstone_eq_none_of_findActive (h : c.findActiveByRunnerRequestId q = some r) :
    c.findTombstoneByRunnerRequestId q = none := by
  show lookup (fun a : DisposableAttemptState => a.runnerRequestId) _ _ = _
  rw [lookup_eq_none]
  intro a ha heq
  have hk := c.nodup_requestIds
  rw [attempts, List.map_append, List.nodup_append] at hk
  refine hk.2.2 _ (List.mem_map_of_mem (List.mem_map_of_mem (mem_of_lookup h))) _
    (List.mem_map_of_mem ha) ?_
  rw [runnerRequestId_of_findActive h, heq]

/-! ## Evolution -/

/-- **A catalog that came out of operations on another one** is that one, or
has a larger revision. -/
def Evolves (c d : DisposableAttemptCatalogDocument) : Prop :=
  d = c ∨ c.revision.val < d.revision.val

theorem Evolves.refl (c : DisposableAttemptCatalogDocument) : Evolves c c := .inl rfl

theorem Evolves.trans (h : Evolves c d) (h' : Evolves d n) : Evolves c n := by
  rcases h with rfl | h
  · exact h'
  · rcases h' with rfl | h'
    · exact .inr h
    · exact .inr (lt_trans h h')

theorem Evolves.antisymm (h : Evolves c d) (h' : Evolves d c) : d = c := by
  rcases h with rfl | h
  · rfl
  · rcases h' with rfl | h'
    · rfl
    · exact absurd h' (lt_asymm h)

theorem Evolves.revision_le (h : Evolves c d) : c.revision.val ≤ d.revision.val := by
  rcases h with rfl | h
  · exact le_refl _
  · exact le_of_lt h

/-- **The revision tells two catalogs of one evolution apart.** -/
theorem Evolves.eq_of_revision_eq (h : Evolves c d) (hr : d.revision = c.revision) : d = c := by
  rcases h with rfl | h
  · rfl
  · rw [hr] at h
    exact absurd h (lt_irrefl _)

theorem evolves_of_succ (h : n.revision.val = c.revision.val + 1) : Evolves c n :=
  .inr (h ▸ Nat.lt_succ_self _)

theorem evolves_of_replaceAttempt
    (h : c.replaceAttempt attemptId rev action = .ok n) : Evolves c n := by
  obtain ⟨r, a, -, -, -, ⟨-, rfl⟩ | ⟨-, hr⟩⟩ := replaceAttempt_cases h
  · exact .refl _
  · exact evolves_of_succ hr.revision

theorem evolves_of_retireComplete (h : c.retireComplete attemptId rev = .ok n) : Evolves c n := by
  obtain ⟨r, -, -, -, hr⟩ := retireComplete_cases h
  exact evolves_of_succ hr.revision

/-- However the attempt is looked up between the steps, releasing it lets the
catalog evolve. -/
theorem evolves_of_releaseUnprovisioned {ε : Type} {conflict missing : ε}
    {find : DisposableAttemptCatalogDocument → Option DisposableAttemptReservation}
    (h : c.releaseUnprovisioned find conflict missing r = .ok n) : Evolves c n := by
  unfold releaseUnprovisioned at h
  simp only [bind_eq_ok, mapError_eq_ok] at h
  obtain ⟨releasing, hr, _, -, complete, hc, _, -, hret⟩ := h
  exact ((evolves_of_replaceAttempt hr).trans (evolves_of_replaceAttempt hc)).trans
    (evolves_of_retireComplete hret)

end DisposableAttemptCatalogDocument

end Glaeda
