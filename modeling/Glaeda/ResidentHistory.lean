import Glaeda.ResidentSuccessor

/-!
# No operation on a resident sandbox is replayed

A checkpoint that says an operation has started is a promise not to start it
again. The promise is kept by whoever compares catalogs, not by whoever
writes them: **along every chain of catalogs in which each passes the
successor check against the one before**, a record keeps what it is, its
operations are numbered one after the other, each number is started at most
once and only after it was authorized, and an operation left for recovery is
left for ever. Nothing is assumed about how the catalogs were made.

The argument follows one generation of one sandbox through the chain. What
one step does to its record is `Follows`; the checkpoints it goes through
are its `history`; and `Replayless` is what every history satisfies.
-/

namespace Glaeda

open Checked SortedList List KeyedList ResidentSandboxOperationKind Option ResidentSandboxRecord

/-! ## What one step does to one record -/

/-- How far which operation is. -/
def ResidentSandboxActiveOperation.progress :
    ResidentSandboxActiveOperation → Option (ResidentSandboxOperationPhase × Nat)
  | .none => Option.none
  | .materialize generation _ phase => some (phase, generation.val)
  | .start generation _ phase => some (phase, generation.val)
  | .stop generation _ phase => some (phase, generation.val)

variable {phase : ResidentSandboxOperationPhase}

theorem ResidentSandboxOperationKind.progress_operation {kind : ResidentSandboxOperationKind}
    {generation : ResidentSandboxOperationGeneration} {policyIdentity : Sha256Digest} :
    (kind.operation generation policyIdentity phase).progress = some (phase, generation.val) := by
  cases kind <;> rfl

namespace ResidentSandboxCatalog

/-- How far the operation of a record is. -/
def progressOf (record : Option ResidentSandboxRecord) :
    Option (ResidentSandboxOperationPhase × Nat) :=
  record.bind (fun record => record.activeOperation.progress)

/-- The number of the last operation. -/
def lastOf (record : Option ResidentSandboxRecord) : Nat :=
  (record.bind ResidentSandboxRecord.lastOperationGeneration).elim 0 (fun g => g.val)

/-- **What one step does to the record of a generation**: nothing, its first
revision, or one advance of its operation. -/
inductive Follows : Option ResidentSandboxRecord → Option ResidentSandboxRecord → Prop
  | kept (record : Option ResidentSandboxRecord) : Follows record record
  | accepted (record : ResidentSandboxRecord) (hlast : record.lastOperationGeneration = none)
      (hact : record.activeOperation = .none) : Follows none (some record)
  | advanced (prior next : ResidentSandboxRecord) (hval : prior.validateRecord = .ok ())
      (hsame : prior.SameBut next) (hrev : next.revision.val = prior.revision.val + 1)
      (hadv : prior.Advances next.activeOperation next.lastOperationGeneration) :
      Follows (some prior) (some next)

variable {c n : ResidentSandboxCatalog} {entry prior next : ResidentSandboxRecord}
  {request : AcceptanceRequestClaim} {locator : LocatorClaim}

theorem follows_of_added (hc : c.WellFormed) (hn : n.WellFormed)
    (h : Added c n entry request locator) (key : ResidentSandboxKey) :
    Follows (c.find key) (n.find key) := by
  have hen : n.entries = insertSorted (fun entry => entry.key.order) c.entries entry :=
    (eq_insertSorted hc.entries_sorted hn.entries_sorted h.entries_subset h.entries_length
      h.entry_mem (fun hm => lookup_eq_none.mp h.entry_new entry hm rfl)).symm
  by_cases hk : entry.key = key
  · subst hk
    have ht := of_decide_eq_true h.together
    rw [h.entry_new, hn.find_eq_some.mpr ⟨h.entry_mem, rfl⟩]
    exact .accepted entry (isNone_iff_eq_none.mp ht.2.2.1) ht.2.2.2.1
  · have hf : n.find key = c.find key := by
      cases hfnd : c.find key with
      | some record =>
        obtain ⟨hm, hr⟩ := hc.find_eq_some.mp hfnd
        exact hn.find_eq_some.mpr ⟨h.entries_subset hm, hr⟩
      | none =>
        refine lookup_eq_none.mpr (fun e he => ?_)
        rw [hen, mem_insertSorted] at he
        obtain rfl | he := he
        · exact hk
        · exact lookup_eq_none.mp hfnd e he
    rw [hf]
    exact .kept _

theorem follows_of_advanced (hc : c.WellFormed) (h : Advanced c n prior next)
    (key : ResidentSandboxKey) : Follows (c.find key) (n.find key) := by
  obtain ⟨-, -, -, ⟨before, after, hn, hp⟩, hs, hr, ha⟩ := h
  have hk := hc.nodup_keys
  rw [hp] at hk
  have hkey : next.key = prior.key := by rw [hs]; rfl
  have hv : prior.validateRecord = .ok () := hc.records prior (by rw [hp]; simp)
  have hf : n.find key = if prior.key = key then some next else c.find key := by
    unfold find
    rw [hn, hp]
    exact lookup_replace hk hkey
  rw [hf]
  split
  · rename_i hsam
    have hfnd : c.find key = some prior := hc.find_eq_some.mpr ⟨by rw [hp]; simp, hsam⟩
    rw [hfnd]
    exact .advanced prior next hv hs hr ha
  · exact .kept _

/-- **One step of the catalog is one step of each record.** -/
theorem follows_of_validateSuccessorOf (h : n.validateSuccessorOf c = .ok ())
    (key : ResidentSandboxKey) : Follows (c.find key) (n.find key) := by
  obtain ⟨hc, hn, -, ⟨entry, request, locator, hadd⟩ | ⟨prior, next, ha⟩⟩ :=
    cases_of_validateSuccessorOf h
  · exact follows_of_added (wellFormed_of_validate hc) (wellFormed_of_validate hn) hadd key
  · exact follows_of_advanced (wellFormed_of_validate hc) ha key

/-- **One step of the catalog keeps every request bound.** -/
theorem request_of_validateSuccessorOf (h : n.validateSuccessorOf c = .ok ())
    {requestId : ResidentSandboxAcceptanceRequestId} {claim : AcceptanceRequestClaim}
    (hc : KeyedList.lookup AcceptanceRequestClaim.requestId requestId c.acceptanceRequests
      = some claim) :
    KeyedList.lookup AcceptanceRequestClaim.requestId requestId n.acceptanceRequests
      = some claim := by
  obtain ⟨-, hn, -, ⟨entry, request, locator, hadd⟩ | ⟨prior, next, ha⟩⟩ :=
    cases_of_validateSuccessorOf h
  · exact (lookup_eq_some (wellFormed_of_validate hn).nodup_requestIds).mpr
      ⟨hadd.requests_subset (mem_of_lookup hc), key_of_lookup hc⟩
  · rw [ha.1]
    exact hc

/-! ## The history of a record -/

/-- A checkpoint as the history records it: the phase that was reached and the
number of the operation. Giving an operation up reaches no phase. -/
abbrev Checkpoint := ResidentSandboxOperationPhase × Nat

/-- What one record shows after another. -/
def checkpointBetween (prior next : Option ResidentSandboxRecord) : Option Checkpoint :=
  if prior = next then none else progressOf next

variable (chain : Nat → ResidentSandboxCatalog)

/-- **The checkpoints of a generation** along the first steps of a chain. -/
def history (key : ResidentSandboxKey) (steps : Nat) : List Checkpoint :=
  (List.range steps).filterMap
    (fun i => checkpointBetween ((chain i).find key) ((chain (i + 1)).find key))

/-- The operations that were allowed. -/
def authorizations (events : List Checkpoint) : List Nat :=
  (events.filter (fun event => event.1 = .authorized)).map Prod.snd

theorem history_succ (key : ResidentSandboxKey) (steps : Nat) :
    history chain key (steps + 1) = history chain key steps
      ++ (checkpointBetween ((chain steps).find key) ((chain (steps + 1)).find key)).toList := by
  rw [history, range_succ, filterMap_append]
  cases h : checkpointBetween ((chain steps).find key) ((chain (steps + 1)).find key) <;>
    simp [history, h]

theorem authorizations_append (events : List Checkpoint) (event : Checkpoint) :
    authorizations (events ++ [event])
      = authorizations events ++ (if event.1 = .authorized then [event.2] else []) := by
  by_cases h : event.1 = .authorized <;> simp [authorizations, h]

/-- **What the history of a generation satisfies** between two versions of its
record. -/
structure Replayless (first : Option ResidentSandboxRecord) (events : List Checkpoint)
    (record : Option ResidentSandboxRecord) : Prop where
  lastOf_le : lastOf first ≤ lastOf record
  consecutive : authorizations events
    = List.range' (lastOf first + 1) (lastOf record - lastOf first)
  bounded : ∀ event ∈ events, event.2 ≤ lastOf record
  once : ∀ number, events.count (.started, number) ≤ 1
  preceded : ∀ {before number after}, events = before ++ (.started, number) :: after →
    (.authorized, number) ∈ before ∨ progressOf first = some (.authorized, number)
  pending : ∀ {number}, progressOf record = some (.authorized, number) → (.started, number) ∉ events
      ∧ ((.authorized, number) ∈ events ∨ progressOf first = some (.authorized, number))

namespace Replayless

variable {first record record' : Option ResidentSandboxRecord} {events : List Checkpoint}

theorem nil (first : Option ResidentSandboxRecord) : Replayless first [] first where
  lastOf_le := Nat.le_refl _
  consecutive := by rw [Nat.sub_self]; rfl
  bounded _ h := absurd h not_mem_nil
  once _ := Nat.zero_le 1
  preceded {before number after} h := by cases before <;> cases h
  pending h := ⟨not_mem_nil, Or.inr h⟩

section

variable (h : Replayless first events record)
include h

theorem silent (hl : lastOf record' = lastOf record)
    (hpr : ∀ number, progressOf record' ≠ some (.authorized, number)) :
    Replayless first events record' where
  lastOf_le := hl ▸ h.lastOf_le
  consecutive := hl ▸ h.consecutive
  bounded := hl ▸ h.bounded
  once := h.once
  preceded := h.preceded
  pending hp := absurd hp (hpr _)

variable {number : Nat}

theorem preceded_append {event : Checkpoint}
    (hev : ∀ number, event = (.started, number) → (.authorized, number) ∈ events
      ∨ progressOf first = some (.authorized, number))
    {before after : List Checkpoint}
    (hs : events ++ [event] = before ++ (.started, number) :: after) :
    (.authorized, number) ∈ before ∨ progressOf first = some (.authorized, number) := by
  obtain rfl | ⟨after, last, rfl⟩ := eq_nil_or_concat' after
  · obtain ⟨rfl, hl⟩ := append_inj' hs rfl
    exact hev number (cons.inj hl).1
  · rw [← cons_append, ← append_assoc] at hs
    exact h.preceded (append_inj' hs rfl).1

theorem authorized (hnum : number = lastOf record + 1)
    (hl : lastOf record' = number) (hpr : progressOf record' = some (.authorized, number)) :
    Replayless first (events ++ [(.authorized, number)]) record' where
  lastOf_le := by
    have := h.lastOf_le
    omega
  consecutive := by
    have hle := h.lastOf_le
    rw [authorizations_append, if_pos rfl, h.consecutive, hl, hnum,
      Nat.succ_sub hle, range'_1_concat]
    congr 2
    omega
  bounded event hev := by
    obtain hev | hev := mem_append.mp hev
    · have := h.bounded event hev
      omega
    · rw [mem_singleton.mp hev, hl]
  once started := by
    rw [count_append, count_singleton, if_neg (by simp)]
    exact h.once started
  preceded hsp := h.preceded_append (fun _ heq => by cases heq) hsp
  pending {pending} hp := by
    obtain ⟨-, rfl⟩ := Prod.mk.inj (some.inj (hpr.symm.trans hp))
    refine ⟨fun hs => ?_, Or.inl (mem_append_right _ (mem_singleton_self _))⟩
    -- a start under this number would be beyond the last number before it
    obtain hs | hs := mem_append.mp hs
    · have := h.bounded _ hs
      omega
    · cases mem_singleton.mp hs

/-- The operation in progress reaches a later phase; it starts from being
authorized. -/
theorem progressed (hph : phase ≠ .authorized) (hn : lastOf record = number)
    (hl : lastOf record' = lastOf record) (hpr : progressOf record' = some (phase, number))
    (hs : phase = .started → progressOf record = some (.authorized, number)) :
    Replayless first (events ++ [(phase, number)]) record' where
  lastOf_le := hl ▸ h.lastOf_le
  consecutive := by
    rw [authorizations_append, if_neg hph, append_nil, hl, h.consecutive]
  bounded event hev := by
    obtain hev | hev := mem_append.mp hev
    · exact hl ▸ h.bounded event hev
    · rw [mem_singleton.mp hev, hl, hn]
  once other := by
    rw [count_append, count_singleton]
    split
    · rename_i hsm
      obtain ⟨rfl, rfl⟩ : phase = .started ∧ number = other := by simpa using hsm
      rw [count_eq_zero_of_not_mem (h.pending (hs rfl)).1]
    · exact h.once other
  preceded hsp := h.preceded_append (fun other heq => by
    obtain ⟨rfl, rfl⟩ := Prod.mk.inj heq
    exact (h.pending (hs rfl)).2) hsp
  pending hp := by
    rw [hpr] at hp
    exact absurd (Prod.mk.inj (some.inj hp)).1 hph

end

theorem nextOperationGenerationValue_eq (prior : ResidentSandboxRecord) :
    prior.nextOperationGenerationValue = lastOf (some prior) + 1 := by
  unfold nextOperationGenerationValue lastOf
  rw [bind_some]
  cases prior.lastOperationGeneration with
  | none => rfl
  | some generation =>
    refine saturatingAdd_of_lt ?_
    have := generation.le_max
    have hs : maxResidentSandboxGeneration + 1 < u64Size := by decide
    omega

/-- **One step of a record extends its history by what the step reached.** -/
theorem step (h : Replayless first events record) (hfol : Follows record record') :
    Replayless first (events ++ (checkpointBetween record record').toList) record' := by
  cases hfol with
  | kept =>
    rw [checkpointBetween, if_pos rfl]
    exact (append_nil events).symm ▸ h
  | accepted accepted hl hact =>
    have hp : progressOf (some accepted) = none := by
      rw [progressOf, bind_some, hact]
      rfl
    have hev : checkpointBetween none (some accepted) = none := by
      rw [checkpointBetween, if_neg (fun h => by cases h), hp]
    rw [hev, toList_none, append_nil]
    refine h.silent ?_ (fun number => ?_)
    · rw [lastOf, bind_some, hl]
      rfl
    · rw [hp]
      exact fun h => by cases h
  | advanced prior next hval hs hrev hadv =>
    have hev : checkpointBetween (some prior) (some next) = progressOf (some next) := by
      refine if_neg (fun heq => ?_)
      rw [some.inj heq] at hrev
      omega
    rw [hev]
    generalize hop : next.activeOperation = op at hadv
    generalize hl : next.lastOperationGeneration = last at hadv
    have hp : progressOf (some next) = op.progress := by
      rw [progressOf, bind_some, hop]
    have hlas : lastOf (some next) = last.elim 0 (fun g => g.val) := by
      rw [lastOf, bind_some, hl]
    cases hadv with
    | authorized kind generation policyIdentity hadm hi hgen hpol =>
      rw [progress_operation] at hp
      rw [hp]
      exact h.authorized (hgen.trans (nextOperationGenerationValue_eq prior)) hlas
        hp
    | prestartFailed kind generation policyIdentity hadm hact =>
      rw [hp]
      show Replayless first (events ++ []) _
      rw [append_nil]
      refine h.silent hlas (fun number hpn => ?_)
      rw [hp] at hpn
      cases hpn
    | started kind generation policyIdentity hadm hact =>
      obtain ⟨-, hnum, -⟩ := active_of_validateRecord hval hact
      rw [progress_operation] at hp
      rw [hp]
      refine h.progressed (fun h => by cases h) ?_ hlas hp (fun _ => ?_)
      · rw [lastOf, bind_some, hnum]
        rfl
      · rw [progressOf, bind_some, hact, progress_operation]
    | recoveryRequired kind generation policyIdentity hadm hact =>
      obtain ⟨-, hnum, -⟩ := active_of_validateRecord hval hact
      rw [progress_operation] at hp
      rw [hp]
      refine h.progressed (fun h => by cases h) ?_ hlas hp (fun h => by cases h)
      rw [lastOf, bind_some, hnum]
      rfl

end Replayless

/-! ## Chains of catalogs -/

/-- **A chain of catalogs**: each passes the successor check against the one
before. -/
def IsChain (chain : Nat → ResidentSandboxCatalog) (steps : Nat) : Prop :=
  ∀ i < steps, (chain (i + 1)).validateSuccessorOf (chain i) = .ok ()

theorem IsChain.induction {chain : Nat → ResidentSandboxCatalog} {steps : Nat}
    (hc : IsChain chain steps) {P : ResidentSandboxCatalog → Prop} {i j : Nat}
    (hs : ∀ c n : ResidentSandboxCatalog, n.validateSuccessorOf c = .ok () → P c → P n)
    (hij : i ≤ j) (hj : j ≤ steps) (hi : P (chain i)) : P (chain j) := by
  induction j, hij using Nat.le_induction with
  | base => exact hi
  | succ j hij ih => exact hs _ _ (hc j (by omega)) (ih (by omega))

/-- The records are of one sandbox. -/
def SameSandbox (record record' : ResidentSandboxRecord) : Prop :=
  record'.project = record.project ∧ record'.sandboxId = record.sandboxId
    ∧ record'.generation = record.generation ∧ record'.sourceIdentity = record.sourceIdentity
    ∧ record'.locator = record.locator ∧ record'.config = record.config

/-- **Nothing is replayed along a chain.** -/
structure NeverReplayed (chain : Nat → ResidentSandboxCatalog) (steps : Nat) : Prop where
  kept : ∀ i j, i ≤ j → j ≤ steps → ∀ key record, (chain i).find key = some record →
    ∃ record', (chain j).find key = some record' ∧ SameSandbox record record'
  /-- The operations on a sandbox are authorized under consecutive numbers: the
  first is one, unless there were operations before the chain. -/
  consecutive : ∀ key, ∃ count, authorizations (history chain key steps)
    = List.range' (lastOf ((chain 0).find key) + 1) count
  once : ∀ key number, (history chain key steps).count (.started, number) ≤ 1
  preceded : ∀ key before number after,
    history chain key steps = before ++ (.started, number) :: after →
    (.authorized, number) ∈ before
      ∨ progressOf ((chain 0).find key) = some (.authorized, number)
  recovery : ∀ i j, i ≤ j → j ≤ steps → ∀ key record number, (chain i).find key = some record →
    record.activeOperation.progress = some (.recoveryRequired, number) →
    (chain j).find key = some record
  bound : ∀ i j, i ≤ j → j ≤ steps → ∀ requestId claim,
    KeyedList.lookup AcceptanceRequestClaim.requestId requestId (chain i).acceptanceRequests
      = some claim →
    KeyedList.lookup AcceptanceRequestClaim.requestId requestId (chain j).acceptanceRequests
      = some claim

section

variable {record : ResidentSandboxRecord} {record' : Option ResidentSandboxRecord}
    (h : Follows (some record) record')
include h

theorem Follows.exists_same : ∃ next, record' = some next ∧ SameSandbox record next := by
  generalize hp : some record = prior at h
  cases h with
  | kept => exact ⟨record, hp.symm, rfl, rfl, rfl, rfl, rfl, rfl⟩
  | accepted => cases hp
  | advanced prior next _ hs _ _ =>
    obtain rfl := some.inj hp
    refine ⟨next, rfl, ?_⟩
    rw [hs]
    exact ⟨rfl, rfl, rfl, rfl, rfl, rfl⟩

theorem Follows.eq_of_recoveryRequired {number : Nat}
    (hp : record.activeOperation.progress = some (.recoveryRequired, number)) :
    record' = some record := by
  generalize hpr : some record = prior at h
  cases h with
  | kept => rfl
  | accepted => cases hpr
  | advanced prior next _ _ _ hadv =>
    obtain rfl := some.inj hpr
    generalize next.activeOperation = op at hadv
    generalize next.lastOperationGeneration = last at hadv
    cases hadv with
    | authorized _ _ _ _ hi _ _ =>
      rw [hi] at hp
      cases hp
    | prestartFailed _ _ _ _ ha | started _ _ _ _ ha | recoveryRequired _ _ _ _ ha =>
      rw [ha, progress_operation] at hp
      cases hp

end

/-- **Every history of a chain is one without replay.** -/
theorem IsChain.replayless {chain : Nat → ResidentSandboxCatalog} {steps : Nat}
    (hc : IsChain chain steps) (key : ResidentSandboxKey) :
    Replayless ((chain 0).find key) (history chain key steps) ((chain steps).find key) := by
  induction steps with
  | zero => exact .nil _
  | succ steps ih =>
    rw [history_succ]
    exact (ih (fun i hi => hc i (by omega))).step
      (follows_of_validateSuccessorOf (hc steps (by omega)) key)

/-- **Along every chain of catalogs nothing is replayed.** -/
theorem neverReplayed_of_isChain (chain : Nat → ResidentSandboxCatalog) (steps : Nat)
    (hc : IsChain chain steps) : NeverReplayed chain steps where
  kept i j hij hj key record hf := by
    refine hc.induction (P := fun c => ∃ record', c.find key = some record'
      ∧ SameSandbox record record') ?_ hij hj ⟨record, hf, rfl, rfl, rfl, rfl, rfl, rfl⟩
    rintro c n hn ⟨record', hr', hs⟩
    have hfol := follows_of_validateSuccessorOf hn key
    rw [hr'] at hfol
    obtain ⟨next, hfnd, hs'⟩ := hfol.exists_same
    exact ⟨next, hfnd, hs'.1.trans hs.1, hs'.2.1.trans hs.2.1,
      hs'.2.2.1.trans hs.2.2.1, hs'.2.2.2.1.trans hs.2.2.2.1,
      hs'.2.2.2.2.1.trans hs.2.2.2.2.1, hs'.2.2.2.2.2.trans hs.2.2.2.2.2⟩
  consecutive key := ⟨_, (hc.replayless key).consecutive⟩
  once key := (hc.replayless key).once
  preceded key _ _ _ := (hc.replayless key).preceded
  recovery i j hij hj key record number hf hp := by
    refine hc.induction (P := fun c => c.find key = some record) ?_ hij hj hf
    intro c n hn hr
    have hfol := follows_of_validateSuccessorOf hn key
    rw [hr] at hfol
    exact hfol.eq_of_recoveryRequired hp
  bound i j hij hj requestId claim hclm :=
    hc.induction (fun _ _ hn => request_of_validateSuccessorOf hn) hij hj hclm

/-- The sandbox of the samples, from the empty catalog on. -/
def sampleChain : Nat → ResidentSandboxCatalog
  | 0 => empty
  | i + 1 => sampleAt (.ofNat 6 i)

/-- An acceptance, an operation that fails before it starts, and a second one
that starts and is left for recovery. -/
theorem neverReplayed_of_isChain_sampleChain :
    IsChain sampleChain 6 ∧ NeverReplayed sampleChain 6 := by
  have hc : IsChain sampleChain 6 := by
    intro i hi
    match i, hi with
    | 0, _ => exact sampleCatalog_follows
    | 1, _ => exact sampleAt_follows 0
    | 2, _ => exact sampleAt_follows 1
    | 3, _ => exact sampleAt_follows 2
    | 4, _ => exact sampleAt_follows 3
    | 5, _ => exact sampleAt_follows 4
  exact ⟨hc, neverReplayed_of_isChain sampleChain 6 hc⟩

end ResidentSandboxCatalog

end Glaeda
