import Mathlib.Algebra.Order.BigOperators.Group.List
import Glaeda.RouteLedger

/-!
# What the route hands out

A reservation is added only to the current ledger, and only where the pool has
room for it beside everything still pending. That part holds for every
interleaving.

A reservation that ended after the pool state was observed still counts,
because its slots show as idle there. Pruning by count can drop it, and then
its slots are handed out again.
-/

namespace Glaeda.Route

open Optimistic List

variable {Stamp : Type} (cal : Calendar Stamp)
  {ledger : List (Reservation Stamp)} {e : Reservation Stamp} {now : ℚ}
  {observedAt : Option ℚ}
variable {later observed : ℚ}

/-! ## Sums -/

theorem pending_le_slots (e : Reservation Stamp) (now : ℚ) (observedAt : Option ℚ) :
    pending cal e now observedAt ≤ e.slots := by
  unfold pending
  grind

/-- **With time, a reservation only lets go of slots.** -/
theorem pending_antitone (h : now ≤ later) :
    pending cal e later (some observed) ≤ pending cal e now (some observed) := by
  have hl : live cal e later → live cal e now := by
    unfold live
    simp only [decide_eq_true_eq]
    exact fun hl => ⟨hl.1, h.trans_lt hl.2⟩
  unfold pending
  rw [Option.getD_some, Option.getD_some]
  cases e.state with
  | held =>
    dsimp only
    split
    · exact le_rfl
    · split
      · rw [if_pos (hl ‹_›)]
      · exact Nat.zero_le _
  | _ => exact le_rfl

theorem pending_of_finished (h : ¬ e.state.isLive) :
    pending cal e now (some observed)
      = if notBefore cal e.endedAt observed then e.slots else 0 := by
  unfold pending
  cases hst : e.state with
  | held | rescuing => exact absurd (by rw [hst]; rfl) h
  | _ => rfl

theorem poolPending_append (ledger other : List (Reservation Stamp)) (pool : String) (now : ℚ)
    (observedAt : Option ℚ) : poolPending cal (ledger ++ other) pool now observedAt
      = poolPending cal ledger pool now observedAt
        + poolPending cal other pool now observedAt := by
  unfold poolPending
  rw [filter_append, map_append, sum_append]

theorem poolPending_antitone (h : now ≤ later) (ledger : List (Reservation Stamp))
    (pool : String) (observed : ℚ) : poolPending cal ledger pool later (some observed)
      ≤ poolPending cal ledger pool now (some observed) :=
  sum_le_sum fun _ _ => pending_antitone cal h

theorem poolPending_eq_zero :
    (∀ pool, poolPending cal ledger pool now observedAt = 0)
      ↔ ∀ e ∈ ledger, pending cal e now observedAt = 0 := by
  unfold poolPending
  simp only [sum_eq_zero_iff, mem_map, mem_filter, decide_eq_true_eq]
  constructor
  · exact fun h e he => h e.pool _ ⟨e, ⟨he, rfl⟩, rfl⟩
  · rintro h pool _ ⟨e, ⟨he, _⟩, rfl⟩
    exact h e he

/-! ## What pruning drops -/

variable [LinearOrder Stamp]

/-- The finished reservations dropped for their age, and those dropped for
their number. -/
def dropped (ledger : List (Reservation Stamp)) (now : ℚ) : List (Reservation Stamp) :=
  (ledger.filter fun entry => ¬ entry.state.isLive ∧ ¬ recent cal now entry)
    ++ (done cal ledger now).take (excess cal ledger now)

/-- **Pruning loses nothing but what it drops.** -/
theorem perm_prune (ledger : List (Reservation Stamp)) (now : ℚ) :
    (prune cal ledger now ++ dropped cal ledger now).Perm ledger := by
  have hf := filter_append_perm (recent cal now)
    (ledger.filter fun e => ¬ e.state.isLive)
  have hl := filter_append_perm (·.state.isLive) ledger
  unfold dropped
  refine ((mergeSort_perm _ _).append_right _).trans ?_
  rw [append_assoc, ← append_assoc _ _ (take _ _)]
  refine ((perm_append_comm.append_left _).trans ?_).trans hl
  rw [← append_assoc (take _ _), take_append_drop]
  refine (((mergeSort_perm _ _).append_right _).append_left _).trans ?_
  simpa [filter_filter, Bool.and_comm] using hf.append_left _

/-- **What a pool has pending** is what it has after pruning and what was
dropped. -/
theorem poolPending_prune (ledger : List (Reservation Stamp)) (pool : String) (pruned now : ℚ)
    (observedAt : Option ℚ) : poolPending cal ledger pool now observedAt
      = poolPending cal (prune cal ledger pruned) pool now observedAt
        + poolPending cal (dropped cal ledger pruned) pool now observedAt := by
  rw [← poolPending_append]
  exact (((perm_prune cal ledger pruned).filter _).map _).sum_eq.symm

/-- **The reservations dropped for their number no longer count.** -/
def CountSpares (ledger : List (Reservation Stamp)) (now observed : ℚ) : Prop :=
  ∀ e ∈ (done cal ledger now).take (excess cal ledger now), ¬ notBefore cal e.endedAt observed

/-- **Pruning changes what no pool has pending** exactly when those dropped
for their number no longer count. Those dropped for their age ended long
before any usable state was observed. -/
theorem poolPending_prune_eq_iff (hval : Valid cal ledger) (hobs : now - observed ≤ maxAgeSeconds) :
    (∀ pool, poolPending cal (prune cal ledger now) pool now (some observed)
        = poolPending cal ledger pool now (some observed))
      ↔ CountSpares cal ledger now observed := by
  have hold : ∀ e ∈ ledger.filter fun e =>
      ¬ e.state.isLive ∧ ¬ recent cal now e,
      pending cal e now (some observed) = 0 := by
    intro e hent
    simp only [mem_filter, decide_eq_true_eq] at hent
    obtain ⟨_, hfin, hold⟩ := hent
    rw [pending_of_finished cal hfin, if_neg]
    intro hend
    cases hst : e.endedAt with
    | none => simp [notBefore, hst] at hend
    | some stamp =>
      cases ht : cal.parseUtc stamp with
      | none => simp [notBefore, hst, ht] at hend
      | some time =>
        simp only [notBefore, recent, hst, ht, Option.bind_some, Option.any_some,
          Option.getD_some, decide_eq_true_eq] at hend hold
        have : maxAgeSeconds < keepSeconds := by decide
        linarith
  have hs : ∀ e ∈ (done cal ledger now).take (excess cal ledger now),
      ¬ e.state.isLive ∧ 1 ≤ e.slots := by
    intro e hent
    have hmem := (mergeSort_perm _ _).mem_iff.mp (mem_of_mem_take hent)
    simp only [mem_filter, decide_eq_true_eq] at hmem
    have hent := hval.1 e hmem.1
    simp only [validReservation, decide_eq_true_eq] at hent
    exact ⟨hmem.2.1, hent.2.2.2.1⟩
  have hz : (∀ pool, poolPending cal (prune cal ledger now) pool now (some observed)
        = poolPending cal ledger pool now (some observed))
      ↔ ∀ pool, poolPending cal (dropped cal ledger now) pool now (some observed) = 0 := by
    refine forall_congr' fun pool => ?_
    rw [poolPending_prune cal ledger pool now now]
    omega
  rw [hz, poolPending_eq_zero, dropped, forall_mem_append]
  constructor
  · rintro ⟨_, hcnt⟩ e hent hend
    have hp := hcnt e hent
    rw [pending_of_finished cal (hs e hent).1, if_pos hend] at hp
    exact absurd (hs e hent).2 (by omega)
  · refine fun hcnt => ⟨hold, fun e hent => ?_⟩
    rw [pending_of_finished cal (hs e hent).1, if_neg (hcnt e hent)]

/-! ## Reserving -/

omit [LinearOrder Stamp] in
/-- **A decision that reserves** found no reservation of the run, a usable
state, and room in the pool. -/
theorem decideRoute_new {state : Option (PoolState Stamp)} {req : Request}
    {allowedRepos : List String}
    (h : (decideRoute cal state ledger req now allowedRepos).new = some e) :
    ∃ found label observed, state = some found ∧ found.observed cal = some observed
      ∧ e = newReservation cal req label now
      ∧ (req.slots : Int) ≤ free cal found ledger now label := by
  unfold decideRoute at h
  split at h
  · cases h
  · cases h
  · cases h
  · rename_i found hunt hu
    have hobs : ∃ observed, found.observed cal = some observed := by
      cases hobs : found.observed cal with
      | some observed => exact ⟨observed, rfl⟩
      | none =>
        simp only [validateState, hobs] at hu
        grind
    obtain ⟨observed, hobs⟩ := hobs
    split at h
    · split at h <;> cases h
    · unfold choosePool at h
      dsimp only at h
      split at h
      · cases h
      split at h
      · cases h
      split at h
      · cases h
      split at h
      · rename_i label hlbl
        obtain rfl := Option.some.inj h
        have hn := List.find?_some hlbl
        rw [decide_eq_true_eq] at hn
        refine ⟨found, label, observed, rfl, hobs, rfl, le_trans ?_ hn⟩
        exact Int.ofNat_le.mpr (Nat.le_add_right _ _)
      · cases h

/-- **No pool is promised more than it has.** The ledger after the
reservation has no more pending than the state has idle. -/
theorem poolPending_reserve {found : PoolState Stamp} {req : Request} {label : String}
    {time : ℚ} (ho : found.observed cal = some observed)
    (hf : (req.slots : Int) ≤ free cal found ledger now label) (ht : now ≤ time) :
    poolPending cal
        (prune cal (ledger ++ [newReservation cal req label now]) later) label time
        (some observed)
      ≤ found.idle label := by
  have hp := poolPending_prune cal
    (ledger ++ [newReservation cal req label now]) label later time (some observed)
  have ha := poolPending_antitone cal ht
    (ledger ++ [newReservation cal req label now]) label observed
  have hn : poolPending cal [newReservation cal req label now] label now
      (some observed) ≤ req.slots := by
    have hle := pending_le_slots cal (newReservation cal req label now) now observed
    simpa [poolPending, newReservation] using hle
  rw [poolPending_append cal ledger _ label now] at ha
  rw [free, ho] at hf
  omega

theorem valid_of_apply {change : Change Stamp} {new : List (Reservation Stamp)}
    (h : change.apply cal ledger = some new) : Valid cal new := by
  have hc : ∀ {doc : List (Reservation Stamp)},
      checkLedger cal doc = some new → Valid cal new := by
    intro doc hd
    unfold checkLedger at hd
    split at hd
    · exact Option.some.inj hd ▸ ‹_›
    · cases hd
  cases change with
  | reserve state req allowedRepos now later | tick updates now =>
    obtain ⟨e, _, hn⟩ := Option.bind_eq_some_iff.mp h
    exact hc hn

/-- **The route ledger never over-commits a pool, as long as the count spares
what still counts.** In every interleaving no id occurs twice, and a route
that writes adds to the current ledger a reservation its pool has room for.
Pruning leaves what every pool has pending exactly when the reservations it
drops for their number ended before the state was observed. -/
theorem never_overcommits {initial : Store (List (Reservation Stamp))}
    (hr : ∀ process, initial.reads process = none) (hval : Valid cal initial.doc)
    (actions : List (Action (Change Stamp))) :
    ((run (Change.apply cal) initial actions).doc.map (·.id)).Nodup
    ∧ (∀ process state req allowedRepos now later store next,
        store = run (Change.apply cal) initial actions →
        next = step (Change.apply cal) store
          (.write process (.reserve state req allowedRepos now later)) →
        next.head ≠ store.head →
        ∃ found e, state = some found ∧ next.doc = prune cal (store.doc ++ [e]) later
          ∧ ∀ time ≥ now, poolPending cal next.doc e.pool time (found.observed cal)
              ≤ found.idle e.pool)
    ∧ ∀ ledger found now repo observed, Valid cal ledger →
        validateState cal (some found) now repo = none →
        found.observed cal = some observed →
        ((∀ pool, poolPending cal (prune cal ledger now) pool now (some observed)
            = poolPending cal ledger pool now (some observed))
          ↔ CountSpares cal ledger now observed) := by
  have hf : Fresh initial := fun process head doc hrd =>
    absurd ((hr process).symm.trans hrd) (Option.some_ne_none _).symm
  obtain ⟨hf, hrun⟩ := run_invariant (Change.apply cal)
    (fun _ _ _ _ hnew => valid_of_apply cal hnew) hf hval actions
  refine ⟨hrun.2, ?_, ?_⟩
  · rintro process state req allowedRepos now later store next rfl rfl hh
    obtain hs | ⟨new, hnew, hst⟩ := write_cases (Change.apply cal) hf process
      (.reserve state req allowedRepos now later)
    · exact absurd (congrArg Store.head hs) hh
    obtain ⟨e, hent, hchk⟩ := Option.bind_eq_some_iff.mp hnew
    obtain ⟨found, label, observed, rfl, hobs, rfl, hfr⟩ := decideRoute_new cal hent
    unfold checkLedger at hchk
    split at hchk
    · obtain rfl := Option.some.inj hchk
      rw [hst]
      refine ⟨found, _, rfl, rfl, fun time ht => ?_⟩
      rw [hobs]
      exact poolPending_reserve cal hobs hfr ht
    · cases hchk
  · intro ledger found now repo observed hldg hu hobs
    refine poolPending_prune_eq_iff cal hldg ?_
    simp only [validateState, hobs] at hu
    grind

/-! ## A full ledger

Four hundred runs hold a slot each, and one more reservation ended at second
10, after the state was observed at second 5. -/

/-- Times that are integers. -/
def integers : Calendar ℤ := ⟨fun stamp => some stamp, Int.floor, String.toLower⟩

/-- A pool. -/
def samplePool : String := "glaeda-std-xcode-26.6"

/-- A reservation. -/
def sampleEntry (state : ReservationState) (endedAt : Option ℤ) (run : Nat) : Reservation ℤ where
  id := String.ofList (List.replicate run '#')
  repo := "cmux"
  runId := run
  runAttempt := 1
  headSha := ""
  kind := "ci"
  priority := .pr
  pool := samplePool
  slots := 1
  started := 0
  state := state
  createdAt := 0
  holdUntil := 900
  endedAt := endedAt

/-- A ledger with 401 reservations. -/
def fullLedger : List (Reservation ℤ) :=
  (List.range 400).map (sampleEntry .held none) ++ [sampleEntry .released (some 10) 400]

/-- What is known of the pools. -/
def sampleState : PoolState ℤ where
  schema := "glaeda-pool-state/v1"
  repo := "cmux"
  generatedAt := some 5
  observedAt := some 5
  pools := [(samplePool, ⟨1, 0, 1, none⟩)]
  order := [samplePool]

theorem valid_fullLedger : Valid integers fullLedger := by
  have hp : isPool samplePool := by decide +kernel
  have hi : fullLedger.map (·.id)
      = (range 401).map fun run => String.ofList (replicate run '#') := by
    rw [range_succ, map_append, fullLedger, map_append, map_map]
    rfl
  constructor
  · intro e he
    simp only [fullLedger, mem_append, mem_map, mem_singleton] at he
    obtain ⟨run, _, rfl⟩ | rfl := he
    · exact decide_eq_true ⟨rfl, rfl, hp, le_rfl, Nat.one_le_ofNat, rfl, rfl⟩
    · exact decide_eq_true ⟨rfl, rfl, hp, le_rfl, Nat.one_le_ofNat, rfl, rfl⟩
  · rw [hi]
    refine nodup_range.map fun a b hab => ?_
    simpa using congrArg String.length hab

/-- A request. -/
def sampleRequest : Request where
  repo := "cmux"
  event := "push"
  headRepo := ""
  runId := 7
  runAttempt := 1
  headSha := String.ofList (replicate 40 'a')
  kind := "ci"
  priority := .pr
  slots := 1
  xcode := "26.6"
  default := ""

/-- A route that has read the ledger takes the idle machine. -/
theorem never_overcommits_sampleRequest :
    let store := run (Change.apply integers) ⟨0, [], fun _ => none⟩ [.read 0]
    let next := step (Change.apply integers) store
      (.write 0 (.reserve (some sampleState) sampleRequest ["cmux"] 20 20))
    next.head ≠ store.head ∧ ∃ found e, some sampleState = some found
      ∧ next.doc = prune integers (store.doc ++ [e]) 20
      ∧ ∀ time ≥ 20, poolPending integers next.doc e.pool time (found.observed integers)
          ≤ found.idle e.pool := by
  intro store next
  have hh : next.head ≠ store.head := by decide +kernel
  exact ⟨hh, (never_overcommits integers (fun _ => rfl) (by decide +kernel) [.read 0]).2.1
    0 _ sampleRequest ["cmux"] 20 20 store next rfl rfl hh⟩

/-- **Pruning the full ledger lets go of a slot that still counts.** -/
theorem not_prune_fullLedger :
    Valid integers fullLedger ∧ validateState integers (some sampleState) 20 "cmux" = none
      ∧ sampleState.observed integers = some 5
      ∧ ¬ ∀ pool, poolPending integers (prune integers fullLedger 20) pool 20 (some 5)
          = poolPending integers fullLedger pool 20 (some 5) := by
  refine ⟨valid_fullLedger, by decide +kernel, rfl, ?_⟩
  rw [poolPending_prune_eq_iff integers valid_fullLedger (by norm_num [maxAgeSeconds])]
  have hh : ∀ e ∈ (range 400).map (sampleEntry .held none), e.state.isLive := by
    intro e he
    obtain ⟨run, _, rfl⟩ := mem_map.mp he
    rfl
  have hd : done integers fullLedger 20 = [sampleEntry .released (some 10) 400] := by
    have hend : recent integers 20 (sampleEntry .released (some 10) 400) := by decide +kernel
    have hf : ¬ (sampleEntry .released (some 10) 400).state.isLive := Bool.false_ne_true
    rw [done, fullLedger, filter_append, filter_eq_nil_iff.mpr, nil_append,
      filter_cons, if_pos (decide_eq_true (And.intro hf hend)), filter_nil,
      mergeSort_singleton]
    · exact fun e he hf => (of_decide_eq_true hf).1 (hh e he)
  have hl : fullLedger.countP (·.state.isLive) = 400 := by
    rw [fullLedger, countP_append, countP_eq_length.mpr hh, length_map, length_range]
    rfl
  intro hc
  refine hc (sampleEntry .released (some 10) 400) ?_ (by decide)
  rw [excess, hd, hl]
  exact mem_singleton_self _

end Glaeda.Route
