import Glaeda.ResidentOperations

/-!
# The successor check of the catalog is exact

The store publishes a catalog when it follows the one before, and it decides
that by comparing the two documents. The comparison knows nothing of the
operations that make catalogs: it looks for one added record with its claims,
or for one changed record. **It accepts what the operations produce and
nothing else.**

Both directions rest on the lists being sorted. A sorted list with one more
entry is the insertion of that entry, so the added record and its claims
determine the whole catalog; and everything else in them – the generation,
the locator, the digests – is derived again by validation, so the request
that asked for them can be read off the catalog.
-/

namespace Glaeda

open Checked Json SortedList List KeyedList ResidentSandboxOperationKind Except
  BoundedRevision ResidentSandboxRecord

/-! ## Operations by their kind -/

/-- The operation of a kind. -/
def ResidentSandboxOperationKind.operation (kind : ResidentSandboxOperationKind)
    (generation : ResidentSandboxOperationGeneration) (policyIdentity : Sha256Digest)
    (phase : ResidentSandboxOperationPhase) : ResidentSandboxActiveOperation :=
  match kind with
  | .materialize => .materialize generation policyIdentity phase
  | .start => .start generation policyIdentity phase
  | .stop => .stop generation policyIdentity phase

/-- When an operation can begin. -/
def ResidentSandboxOperationKind.Admits :
    ResidentSandboxOperationKind → ResidentSandboxPhysicalState → Prop
  | .materialize, .unmaterialized => True
  | .start, .stoppedBound _ => True
  | .stop, .runningBound _ => True
  | _, _ => False

/-- The operation is allowed. -/
def ResidentSandboxOperationKind.authorized :
    ResidentSandboxOperationKind → ResidentSandboxCheckpoint
  | .materialize => .materializeAuthorized
  | .start => .startAuthorized
  | .stop => .stopAuthorized

/-- The operation failed before it began. -/
def ResidentSandboxOperationKind.prestartFailed :
    ResidentSandboxOperationKind → ResidentSandboxCheckpoint
  | .materialize => .materializePrestartFailed
  | .start => .startPrestartFailed
  | .stop => .stopPrestartFailed

/-- The operation begins. -/
def ResidentSandboxOperationKind.started :
    ResidentSandboxOperationKind → ResidentSandboxCheckpoint
  | .materialize => .materializeStarted
  | .start => .startStarted
  | .stop => .stopStarted

/-- The outcome is not known. -/
def ResidentSandboxOperationKind.recoveryRequired :
    ResidentSandboxOperationKind → ResidentSandboxCheckpoint
  | .materialize => .materializeRecoveryRequired
  | .start => .startRecoveryRequired
  | .stop => .stopRecoveryRequired

theorem ResidentSandboxActiveOperation.eq_none_or (op : ResidentSandboxActiveOperation) :
    op = .none ∨ ∃ (kind : ResidentSandboxOperationKind)
      (generation : ResidentSandboxOperationGeneration) (policyIdentity : Sha256Digest)
      (phase : ResidentSandboxOperationPhase),
      op = kind.operation generation policyIdentity phase := by
  cases op with
  | none => exact Or.inl rfl
  | materialize generation policyIdentity phase =>
    exact Or.inr ⟨.materialize, generation, policyIdentity, phase, rfl⟩
  | start generation policyIdentity phase =>
    exact Or.inr ⟨.start, generation, policyIdentity, phase, rfl⟩
  | stop generation policyIdentity phase =>
    exact Or.inr ⟨.stop, generation, policyIdentity, phase, rfl⟩

namespace ResidentSandboxRecord

variable {record prior next : ResidentSandboxRecord} {kind kind' : ResidentSandboxOperationKind}
  {generation generation' : ResidentSandboxOperationGeneration}
  {policyIdentity policyIdentity' : Sha256Digest} {phase phase' : ResidentSandboxOperationPhase}

/-- **The operation of a valid record** is one its machine admits, is the last
one, and runs under the derived policy. -/
theorem active_of_validateRecord (h : record.validateRecord = .ok ())
    (hact : record.activeOperation = kind.operation generation policyIdentity phase) :
    kind.Admits record.physical ∧ record.lastOperationGeneration = some generation
      ∧ deriveOperationPolicyIdentity record kind generation = .ok policyIdentity := by
  unfold validateRecord at h
  rw [guard_bind_eq_ok, bind_eq_ok] at h
  obtain ⟨-, digest, -, h⟩ := h
  rw [guard_bind_eq_ok, guard_bind_eq_ok, guard_bind_eq_ok, bind_eq_ok] at h
  obtain ⟨-, -, -, active, hr, h⟩ := h
  have hc := (guard_bind_eq_ok.mp h).1
  have ha : kind.Admits record.physical
      ∧ active = some (kind, generation, policyIdentity) := by
    unfold ResidentSandboxRecord.active at hr
    cases kind <;> cases hp : record.physical <;>
      simp_all [operation, ResidentSandboxOperationKind.Admits]
  obtain ⟨ha, rfl⟩ := ha
  unfold checkActive at hc
  rw [guard_bind_eq_ok, bind_eq_ok, refuseIf_eq_ok, not_or, not_not] at hc
  obtain ⟨⟨hl, -⟩, derived, hd, hc⟩ := hc
  rw [refuseIf_eq_ok, not_not] at hc
  exact ⟨ha, hl, hc ▸ hd⟩

/-- The configuration of a valid record has the stated digest and a disk of the
same namespace, and its generation is bounded. -/
theorem config_of_validateRecord (h : record.validateRecord = .ok ()) :
    record.config.digest = .ok record.configDigest
      ∧ record.generation.val ≤ maxResidentSandboxGeneration
      ∧ record.config.projectDisk.any
        (fun disk => disk.sourceIdentity ≠ record.sourceIdentity) = false := by
  unfold validateRecord at h
  rw [guard_bind_eq_ok, bind_eq_ok, refuseIf_eq_ok] at h
  obtain ⟨hbd, digest, hdig, h⟩ := h
  rw [refuseIf_bind_eq_ok] at h
  simp only [not_or, not_not, Bool.not_eq_true] at h
  obtain ⟨⟨hs, -, -, -, -, -, hd⟩, -⟩ := h
  exact ⟨hs ▸ hdig, not_lt.mp hbd, hd⟩

/-! ## What a checkpoint does -/

/-- **The four ways an operation advances**, with the operation and the last
number they leave. -/
inductive Advances (prior : ResidentSandboxRecord) :
    ResidentSandboxActiveOperation → Option ResidentSandboxOperationGeneration → Prop
  | authorized (kind : ResidentSandboxOperationKind)
      (generation : ResidentSandboxOperationGeneration) (policyIdentity : Sha256Digest)
      (hadm : kind.Admits prior.physical) (hidle : prior.activeOperation = .none)
      (hgen : generation.val = prior.nextOperationGenerationValue)
      (hpol : deriveOperationPolicyIdentity prior kind generation = .ok policyIdentity) :
      Advances prior (kind.operation generation policyIdentity .authorized) (some generation)
  | prestartFailed (kind : ResidentSandboxOperationKind)
      (generation : ResidentSandboxOperationGeneration) (policyIdentity : Sha256Digest)
      (hadm : kind.Admits prior.physical)
      (hact : prior.activeOperation = kind.operation generation policyIdentity .authorized) :
      Advances prior .none prior.lastOperationGeneration
  | started (kind : ResidentSandboxOperationKind)
      (generation : ResidentSandboxOperationGeneration) (policyIdentity : Sha256Digest)
      (hadm : kind.Admits prior.physical)
      (hact : prior.activeOperation = kind.operation generation policyIdentity .authorized) :
      Advances prior (kind.operation generation policyIdentity .started)
        prior.lastOperationGeneration
  | recoveryRequired (kind : ResidentSandboxOperationKind)
      (generation : ResidentSandboxOperationGeneration) (policyIdentity : Sha256Digest)
      (hadm : kind.Admits prior.physical)
      (hact : prior.activeOperation = kind.operation generation policyIdentity .started) :
      Advances prior (kind.operation generation policyIdentity .recoveryRequired)
        prior.lastOperationGeneration

theorem authorize_eq_ok :
    prior.authorize kind = .ok (generation, policyIdentity)
      ↔ generation.val = prior.nextOperationGenerationValue
        ∧ deriveOperationPolicyIdentity prior kind generation = .ok policyIdentity := by
  unfold authorize nextOperationGeneration ResidentSandboxOperationGeneration.new
  simp only [bind_eq_ok, new_eq_ok, pure_eq_ok_iff, Prod.mk.injEq]
  constructor
  · rintro ⟨_, hv, _, hp, rfl, rfl⟩
    exact ⟨hv, hp⟩
  · rintro ⟨hv, hp⟩
    exact ⟨generation, hv, policyIdentity, hp, rfl, rfl⟩

variable {last : Option ResidentSandboxOperationGeneration} {op : ResidentSandboxActiveOperation}

/-- **Every advance is some checkpoint.** -/
theorem exists_operationAfter (h : prior.Advances op last) :
    ∃ cp, prior.operationAfter cp = .ok (op, last) := by
  unfold operationAfter
  cases h with
  | authorized kind generation policyIdentity hadm hi hgen hpol =>
    refine ⟨kind.authorized, ?_⟩
    have haut := authorize_eq_ok.mpr ⟨hgen, hpol⟩
    rw [hi]
    cases kind <;> cases hp : prior.physical <;> rw [hp] at hadm <;>
      first
      | exact hadm.elim
      | (dsimp only [authorized]; rw [haut]; rfl)
  | prestartFailed kind generation policyIdentity hadm hact =>
    refine ⟨kind.prestartFailed, ?_⟩
    rw [hact]
    cases kind <;> cases hp : prior.physical <;> rw [hp] at hadm <;>
      first
      | rfl
      | exact hadm.elim
  | started kind generation policyIdentity hadm hact =>
    refine ⟨kind.started, ?_⟩
    rw [hact]
    cases kind <;> cases hp : prior.physical <;> rw [hp] at hadm <;>
      first
      | rfl
      | exact hadm.elim
  | recoveryRequired kind generation policyIdentity hadm hact =>
    refine ⟨kind.recoveryRequired, ?_⟩
    rw [hact]
    cases kind <;> cases hp : prior.physical <;> rw [hp] at hadm <;>
      first
      | rfl
      | exact hadm.elim

theorem not_isTerminal_of_admits {physical : ResidentSandboxPhysicalState}
    (h : kind.Admits physical) : ¬ physical.isTerminal = true := by
  cases physical <;> first
    | exact Bool.false_ne_true
    | (cases kind <;> exact h.elim)

theorem Advances.admits (h : prior.Advances op last) :
    ∃ kind : ResidentSandboxOperationKind, kind.Admits prior.physical := by
  cases h with
  | authorized kind _ _ ha _ _ _ | prestartFailed kind _ _ ha _
  | started kind _ _ ha _ | recoveryRequired kind _ _ ha _ => exact ⟨kind, ha⟩

/-- Two records of one generation, one revision apart, that differ in nothing
but the operation. -/
def SameBut (prior next : ResidentSandboxRecord) : Prop :=
  next = { prior with
    revision := next.revision
    lastOperationGeneration := next.lastOperationGeneration
    activeOperation := next.activeOperation }

/-- **A record that advanced is a record after a checkpoint.** -/
theorem exists_applyCheckpoint (hs : prior.SameBut next)
    (hr : next.revision.val = prior.revision.val + 1)
    (h : prior.Advances next.activeOperation next.lastOperationGeneration) :
    ∃ cp, prior.applyCheckpoint cp = .ok next := by
  obtain ⟨cp, ha⟩ := exists_operationAfter h
  obtain ⟨kind, hadm⟩ := h.admits
  refine ⟨cp, ?_⟩
  unfold applyCheckpoint
  rw [refuseIf_bind (not_isTerminal_of_admits hadm), ha, ok_bind]
  dsimp only
  rw [checkedAdd_of_succ (by decide) hr, okOr_some, ok_bind, bind_eq_ok]
  exact ⟨next.revision, new_eq_ok.mpr rfl, congrArg ok hs.symm⟩

/-! ## What the comparison of records says -/

theorem deriveOperationPolicyIdentity_congr (hs : prior.SameBut next) :
    deriveOperationPolicyIdentity next kind generation
      = deriveOperationPolicyIdentity prior kind generation := by
  rw [hs]
  rfl

/-- **The comparison of valid records accepts an advance and nothing else.** -/
theorem advances_of_validOperationSuccessor (hp : prior.validateRecord = .ok ())
    (hn : next.validateRecord = .ok ()) (hs : prior.SameBut next)
    (h : validOperationSuccessor prior next = true) :
    prior.Advances next.activeOperation next.lastOperationGeneration := by
  have hph : next.physical = prior.physical := by rw [hs]
  unfold validOperationSuccessor at h
  obtain hi | ⟨kind, generation, policyIdentity, phase, hact⟩ :=
    prior.activeOperation.eq_none_or
  · obtain hend | ⟨kind', generation', policyIdentity', phase', hact'⟩ :=
      next.activeOperation.eq_none_or
    · rw [hi, hend] at h
      cases h
    · rw [hi, hact'] at h
      obtain ⟨rfl, hl, hv⟩ : phase' = .authorized
          ∧ next.lastOperationGeneration = some generation'
          ∧ generation'.val = prior.nextOperationGenerationValue := by
        revert h
        cases kind' <;> cases phase' <;> simp [operation]
      obtain ⟨hadm, -, hpol⟩ := active_of_validateRecord hn hact'
      rw [hph] at hadm
      rw [deriveOperationPolicyIdentity_congr hs] at hpol
      rw [hact', hl]
      exact .authorized kind' generation' policyIdentity' hadm hi hv hpol
  · obtain ⟨hadm, -, -⟩ := active_of_validateRecord hp hact
    obtain hend | ⟨kind', generation', policyIdentity', phase', hact'⟩ :=
      next.activeOperation.eq_none_or
    · rw [hact, hend] at h
      obtain ⟨rfl, hl, hl'⟩ : phase = .authorized
          ∧ prior.lastOperationGeneration = some generation
          ∧ next.lastOperationGeneration = some generation := by
        revert h
        cases kind <;> cases phase <;> simp [operation]
      rw [hend, hl', ← hl]
      exact .prestartFailed kind generation policyIdentity hadm hact
    · rw [hact, hact'] at h
      obtain ⟨rfl, hphs, rfl, rfl, hl⟩ : kind = kind'
          ∧ ((phase = .authorized ∧ phase' = .started)
            ∨ (phase = .started ∧ phase' = .recoveryRequired))
          ∧ generation = generation' ∧ policyIdentity = policyIdentity'
          ∧ prior.lastOperationGeneration = next.lastOperationGeneration := by
        revert h
        cases kind <;> cases kind' <;> cases phase <;> cases phase' <;> simp [operation]
      rw [hact', ← hl]
      obtain ⟨rfl, rfl⟩ | ⟨rfl, rfl⟩ := hphs
      · exact .started kind generation policyIdentity hadm hact
      · exact .recoveryRequired kind generation policyIdentity hadm hact

end ResidentSandboxRecord

/-! ## What the comparison of catalogs says -/

namespace ResidentSandboxCatalog

variable {c n : ResidentSandboxCatalog} {entry prior next : ResidentSandboxRecord}
  {req : AcceptanceRequestClaim} {locator : LocatorClaim}

/-- **One catalog has a record, a request and a locator more than another**, and
they belong together. -/
structure Added (c n : ResidentSandboxCatalog) (entry : ResidentSandboxRecord)
    (request : AcceptanceRequestClaim) (locator : LocatorClaim) : Prop where
  entries_length : n.entries.length = c.entries.length + 1
  requests_length : n.acceptanceRequests.length = c.acceptanceRequests.length + 1
  locators_length : n.locatorClaims.length = c.locatorClaims.length + 1
  entries_subset : c.entries ⊆ n.entries
  requests_subset : c.acceptanceRequests ⊆ n.acceptanceRequests
  locators_subset : c.locatorClaims ⊆ n.locatorClaims
  entry_mem : entry ∈ n.entries
  request_mem : request ∈ n.acceptanceRequests
  locator_mem : locator ∈ n.locatorClaims
  entry_new : c.find entry.key = none
  request_new : ∀ candidate ∈ c.acceptanceRequests, candidate.requestId ≠ request.requestId
  locator_new : ∀ candidate ∈ c.locatorClaims, candidate.key ≠ locator.key
  together : addedTogether entry request locator = true
  maxima : maximaFollow c n entry = true

/-- **The comparison of permanent claims finds what was added.** -/
theorem added_of_isExactAcceptanceSuccessor (h : isExactAcceptanceSuccessor c n = true) :
    ∃ entry req locator, Added c n entry req locator := by
  unfold isExactAcceptanceSuccessor at h
  split at h
  · cases h
  · rename_i hk
    simp only [not_or, not_not] at hk
    obtain ⟨hrs, hls, hents, hen, hrq, hlc⟩ := hk
    split at h
    · rename_i entry req locator hent hreq hloc
      rw [Bool.and_eq_true] at h
      have hent : entry ∈ n.entries.filter _ := hent ▸ mem_singleton_self entry
      have hreq : req ∈ n.acceptanceRequests.filter _ :=
        hreq ▸ mem_singleton_self req
      have hloc : locator ∈ n.locatorClaims.filter _ := hloc ▸ mem_singleton_self locator
      rw [mem_filter] at hent hreq hloc
      exact ⟨entry, req, locator, {
        entries_length := hents
        requests_length := hrs
        locators_length := hls
        entries_subset := fun e he => mem_of_lookup (hen e he)
        requests_subset := fun r hr => mem_of_lookup (hrq r hr)
        locators_subset := fun l hl => mem_of_lookup (hlc l hl)
        entry_mem := hent.1
        request_mem := hreq.1
        locator_mem := hloc.1
        entry_new := Option.isNone_iff_eq_none.mp hent.2
        request_new := by simpa using hreq.2
        locator_new := by simpa using hloc.2
        together := h.1
        maxima := h.2 }⟩
    · cases h

/-- **One record of a catalog advanced**, and nothing else changed. -/
def Advanced (c n : ResidentSandboxCatalog) (prior next : ResidentSandboxRecord) : Prop :=
  n.acceptanceRequests = c.acceptanceRequests ∧ n.generationMaxima = c.generationMaxima
    ∧ n.locatorClaims = c.locatorClaims
    ∧ (∃ before after, n.entries = before ++ next :: after ∧ c.entries = before ++ prior :: after)
    ∧ prior.SameBut next ∧ next.revision.val = prior.revision.val + 1
    ∧ prior.Advances next.activeOperation next.lastOperationGeneration

theorem recordFollows_eq_true (h : recordFollows prior next = true) :
    prior.SameBut next ∧ next.revision.val = prior.revision.val + 1
      ∧ validOperationSuccessor prior next = true := by
  unfold recordFollows at h
  rw [Bool.and_eq_true, decide_eq_true_eq] at h
  obtain ⟨⟨-, hpr, hsan, hg, hs, hl, hc, hd, hp, hr⟩, ho⟩ := h
  refine ⟨?_, hr, ho⟩
  exact ResidentSandboxRecord.ext hpr hsan hg rfl hs hl hc hd
    hp rfl rfl

/-- **What the successor check accepts**: an addition or an advance. -/
theorem cases_of_validateSuccessorOf (h : n.validateSuccessorOf c = .ok ()) :
    c.validate = .ok () ∧ n.validate = .ok () ∧ n.revision.val = c.revision.val + 1
      ∧ ((∃ entry req locator, Added c n entry req locator)
        ∨ ∃ prior next, Advanced c n prior next) := by
  unfold validateSuccessorOf at h
  rw [guard_bind_eq_ok, guard_bind_eq_ok, bind_eq_ok] at h
  obtain ⟨hc, hn, value, hv, h⟩ := h
  rw [refuseIf_bind_eq_ok, not_not] at h
  obtain ⟨hrev, h⟩ := h
  rw [okOr_eq_ok, checkedAdd_eq_some] at hv
  refine ⟨hc, hn, hrev.trans hv.2.symm, ?_⟩
  split at h
  · rw [refuseIf_eq_ok, Bool.not_eq_false] at h
    exact Or.inl (added_of_isExactAcceptanceSuccessor h)
  · rename_i hcl
    simp only [not_or, not_not] at hcl
    rw [refuseIf_bind_eq_ok, not_not] at h
    obtain ⟨hlen, h⟩ := h
    split at h
    · cases h
    · rename_i next prior others hch
      rw [refuseIf_eq_ok, not_or, not_not, Bool.not_eq_false] at h
      obtain ⟨rfl, hfol⟩ := h
      obtain ⟨-, before, after, hnx, hp⟩ := (filter_zip_eq_singleton hlen).mp hch
      obtain ⟨hs, hrec, ho⟩ := recordFollows_eq_true hfol
      refine Or.inr ⟨prior, next, hcl.1, hcl.2.1, hcl.2.2,
        ⟨before, after, hnx, hp⟩, hs, hrec, ?_⟩
      refine advances_of_validOperationSuccessor ?_ ?_ hs ho
      · exact (wellFormed_of_validate hc).records prior (by rw [hp]; simp)
      · exact (wellFormed_of_validate hn).records next (by rw [hnx]; simp)

/-! ## An addition is an acceptance -/

/-- The request an entry came from. -/
def requestOf (entry : ResidentSandboxRecord) (request : AcceptanceRequestClaim) :
    ResidentSandboxAcceptanceRequest :=
  ⟨request.requestId, entry.project, entry.sandboxId, entry.sourceIdentity,
    request.locatorPolicyGeneration, entry.config⟩

theorem requestOf_leaves (h : addedTogether entry req locator = true) :
    (requestOf entry req).record entry.generation entry.locator entry.configDigest = entry
      ∧ (requestOf entry req).claim entry.generation entry.locator entry.configDigest = req
      ∧ (⟨entry.sourceIdentity, entry.locator, entry.key⟩ : LocatorClaim) = locator := by
  unfold addedTogether at h
  rw [decide_eq_true_eq, Option.isNone_iff_eq_none] at h
  obtain ⟨hr, hp, hl, ha, hpr, hsan, hs, hd, hg,
    hloc, hk, hcl, hc⟩ := h
  refine ⟨?_, ?_, ?_⟩
  · exact ResidentSandboxRecord.ext rfl rfl rfl (BoundedRevision.ext hr.symm) rfl rfl rfl rfl
      hp.symm hl.symm ha.symm
  · obtain ⟨requestId, project, sandboxId, sourceIdentity, policy, configDigest, generation,
      locator⟩ := req
    subst hpr hsan hs hd hg hloc
    rfl
  · rw [← hcl, ← hc, ← hk]

/-- **The last generation of a sandbox is raised**, and the others stay. -/
def raised (lineage : ResidentSandboxLineage) (generation : ResidentSandboxGeneration)
    (maximum : GenerationMaximum) : GenerationMaximum :=
  if maximum.lineage = lineage then ⟨lineage, generation⟩ else maximum

section Maxima

variable {lineage : ResidentSandboxLineage} {generation : ResidentSandboxGeneration}

theorem lineage_raised (maximum : GenerationMaximum) :
    (raised lineage generation maximum).lineage = maximum.lineage := by
  unfold raised
  split
  · rename_i hs
    exact hs.symm
  · rfl

theorem eq_raised_iff {candidate maximum : GenerationMaximum}
    (h : candidate.lineage = maximum.lineage) :
    candidate = raised lineage generation maximum
      ↔ (if maximum.lineage = lineage then decide (candidate.maximum = generation)
        else decide (candidate = maximum)) = true := by
  unfold raised
  split
  · rename_i hs
    rw [GenerationMaximum.ext_iff, h, hs, and_iff_right rfl, decide_eq_true_eq]
  · rw [decide_eq_true_eq]

theorem maximaWith_known {prior : GenerationMaximum} (hc : c.WellFormed)
    (hl : KeyedList.lookup GenerationMaximum.lineage lineage c.generationMaxima = some prior) :
    c.maximaWith lineage generation
      = c.generationMaxima.map (raised lineage generation) := by
  have hk := hc.nodup_lineages
  unfold maximaWith
  cases hs : split GenerationMaximum.lineage lineage c.generationMaxima with
  | none =>
    exact absurd (key_of_lookup hl) (split_eq_none.mp hs prior (mem_of_lookup hl))
  | some parts =>
    obtain ⟨before, found, after⟩ := parts
    obtain ⟨hmx, rfl, -⟩ := split_eq_some.mp hs
    rw [hmx] at hk ⊢
    have ho : ∀ m ∈ before ++ after, raised found.lineage generation m = m :=
      fun m hm => if_neg (key_ne_of_nodup hk m hm)
    rw [map_append, map_cons, map_congr_left fun m hm => ho m (mem_append_left _ hm),
      map_congr_left fun m hm => ho m (mem_append_right _ hm), map_id', map_id', raised,
      if_pos rfl]

theorem maximaWith_new
    (hl : KeyedList.lookup GenerationMaximum.lineage lineage c.generationMaxima = none) :
    c.maximaWith lineage generation = insertSorted (fun maximum => maximum.lineage.order)
      c.generationMaxima ⟨lineage, generation⟩ := by
  unfold maximaWith
  rw [split_eq_none.mpr (lookup_eq_none.mp hl)]

end Maxima

/-- **The last generations are compared exactly**: they are those an acceptance
leaves, and the added generation is the next one. -/
theorem maximaFollow_iff (hc : c.WellFormed) (hn : n.WellFormed) :
    maximaFollow c n entry = true
      ↔ c.nextGeneration ⟨entry.project, entry.sandboxId⟩ = .ok entry.generation.val
        ∧ n.generationMaxima
          = c.maximaWith ⟨entry.project, entry.sandboxId⟩ entry.generation := by
  unfold maximaFollow nextGeneration
  dsimp only
  generalize (⟨entry.project, entry.sandboxId⟩ : ResidentSandboxLineage) = lineage
  cases hl : lookup GenerationMaximum.lineage lineage c.generationMaxima with
  | some prior =>
    rw [decide_eq_true_eq, okOr_eq_ok, maximaWith_known hc hl]
    constructor
    · rintro ⟨hlen, hnx, hall⟩
      refine ⟨hnx, (eq_of_subset ?_ hn.maxima_sorted ?_ ?_).symm⟩
      · rw [map_map, Function.comp_def]
        simp only [lineage_raised]
        exact hc.maxima_sorted
      · -- each entry is the one the new catalog has for its sandbox
        intro raised hr
        obtain ⟨maximum, hm, rfl⟩ := mem_map.mp hr
        obtain ⟨candidate, hcan, ht⟩ := (Option.any_eq_true ..).mp (hall maximum hm)
        rw [← (eq_raised_iff (key_of_lookup hcan)).mpr ht]
        exact mem_of_lookup hcan
      · rw [length_map, hlen]
    · rintro ⟨hnx, hmx⟩
      refine ⟨by rw [hmx, length_map], hnx, fun maximum hm => ?_⟩
      have hr : lookup GenerationMaximum.lineage maximum.lineage n.generationMaxima
          = some (raised lineage entry.generation maximum) :=
        (lookup_eq_some hn.nodup_lineages).mpr
          ⟨hmx ▸ mem_map_of_mem hm, lineage_raised maximum⟩
      rw [hr]
      exact (eq_raised_iff (lineage_raised maximum)).mp rfl
  | none =>
    rw [decide_eq_true_eq, maximaWith_new hl, ok.injEq]
    constructor
    · rintro ⟨hone, hlen, hall, added, hadd, hln, hgen⟩
      have hnew : added = ⟨lineage, entry.generation⟩ := GenerationMaximum.ext hln hgen
      refine ⟨hone.symm, (eq_insertSorted hc.maxima_sorted hn.maxima_sorted hall hlen
        (hnew ▸ hadd) fun hmem => ?_).symm⟩
      exact lookup_eq_none.mp hl _ hmem rfl
    · rintro ⟨hone, hmx⟩
      refine ⟨hone.symm, by rw [hmx, length_insertSorted], fun maximum hm => ?_,
        ⟨lineage, entry.generation⟩, ?_, rfl, rfl⟩
      · rw [hmx]
        exact mem_insertSorted.mpr (Or.inr hm)
      · rw [hmx]
        exact mem_insertSorted.mpr (Or.inl rfl)

/-- **What was added determines the new catalog.** -/
theorem withAccepted_of_added (hc : c.WellFormed) (hn : n.WellFormed)
    (h : Added c n entry req locator) :
    c.withAccepted (requestOf entry req) n.revision entry.generation entry.locator
      entry.configDigest = n := by
  obtain ⟨hr, hclm, hl⟩ := requestOf_leaves h.together
  refine ResidentSandboxCatalog.ext (hc.schema.trans hn.schema.symm) rfl ?_ ?_ ?_ ?_
  · show insertSorted _ c.acceptanceRequests
      ((requestOf entry req).claim entry.generation entry.locator entry.configDigest) = _
    rw [hclm]
    exact eq_insertSorted hc.requests_sorted hn.requests_sorted h.requests_subset
      h.requests_length h.request_mem (fun hm => h.request_new req hm rfl)
  · exact ((maximaFollow_iff hc hn).mp h.maxima).2.symm
  · show insertSorted _ c.locatorClaims ⟨entry.sourceIdentity, entry.locator, entry.key⟩ = _
    rw [hl]
    exact eq_insertSorted hc.locators_sorted hn.locators_sorted h.locators_subset
      h.locators_length h.locator_mem (fun hm => h.locator_new locator hm rfl)
  · show insertSorted _ c.entries
      ((requestOf entry req).record entry.generation entry.locator entry.configDigest) = _
    rw [hr]
    exact eq_insertSorted hc.entries_sorted hn.entries_sorted h.entries_subset h.entries_length
      h.entry_mem (fun hm => lookup_eq_none.mp h.entry_new entry hm rfl)

/-- **A new request is accepted** exactly when there is room, its locator is
free, and the catalog it leaves is valid and not too long. -/
theorem exists_acceptNew {req : ResidentSandboxAcceptanceRequest} {configDigest : Sha256Digest} :
    (∃ rc, c.acceptNew req configDigest = .ok (n, rc))
      ↔ (c.acceptanceRequests.length < maxResidentSandboxAcceptanceRequests
          ∧ c.entries.length < maxResidentSandboxEntries
          ∧ c.locatorClaims.length < maxResidentSandboxLocatorClaims)
        ∧ ((∀ maximum ∈ c.generationMaxima, maximum.lineage ≠ req.lineage) →
          c.generationMaxima.length < maxResidentSandboxLineages)
        ∧ ∃ (generation : ResidentSandboxGeneration) (locator : ResidentSandboxLocator),
          c.nextGeneration req.lineage = .ok generation.val
          ∧ generation.val ≤ maxResidentSandboxGeneration
          ∧ deriveLocator req.project req.sandboxId generation req.sourceIdentity
              req.locatorPolicyGeneration req.config.trustClass
              req.config.limaLayoutPolicyGeneration = .ok locator
          ∧ (∀ claim ∈ c.locatorClaims,
            ¬ (claim.sourceIdentity = req.sourceIdentity ∧ claim.locator = locator))
          ∧ n.revision.val = c.revision.val + 1
          ∧ n = c.withAccepted req n.revision generation locator configDigest
          ∧ n.validate = .ok ()
          ∧ (encode n.toJson).length ≤ maxResidentSandboxCatalogDocumentBytes := by
  unfold acceptNew encodeResidentSandboxCatalog
  simp only [bind_eq_ok, refuseIf_eq_ok, okOr_eq_ok, mapError_eq_ok,
    ResidentSandboxGeneration.new_eq_ok, encodeWithin_eq_ok, pure_eq_ok, ok.injEq, Prod.mk.injEq,
    not_or, not_and, ge_iff_le, gt_iff_lt, not_le, not_lt, not_exists, exists_const]
  constructor
  · rintro ⟨rc, hr, hlin, _, hv, hbd, generation, rfl, locator, hloc, hf,
      _, hnx, revision, hrev, _, hval, _, ⟨_, -, hb, -⟩, rfl, -⟩
    exact ⟨hr, hlin, generation, locator, hv, hbd, hloc, hf,
      (new_eq_ok.mp hrev).trans (checkedAdd_eq_some.mp hnx).2.symm, rfl, hval, hb⟩
  · rintro ⟨hr, hlin, generation, locator, hv, hbd, hloc, hf, hrev, hn, hval, hb⟩
    refine ⟨⟨.created, n.revision, ⟨req.project, req.sandboxId, generation⟩, locator⟩,
      hr, hlin, _, hv, hbd, generation, rfl, locator, hloc, hf, _,
      checkedAdd_of_succ (by decide) hrev, n.revision, new_eq_ok.mpr rfl, ?_⟩
    rw [← hn]
    exact ⟨(), hval, _, ⟨(), hval, hb, rfl⟩, rfl, rfl⟩

/-- **An addition is what accepting the request it stands for produces.** -/
theorem exists_accept_of_added (hc : c.validate = .ok ()) (hn : n.validate = .ok ())
    (hrev : n.revision.val = c.revision.val + 1)
    (hb : (encode n.toJson).length ≤ maxResidentSandboxCatalogDocumentBytes)
    (h : Added c n entry req locator) :
    ∃ rc, c.accept (requestOf entry req) = .ok (n, rc) := by
  have hcw := wellFormed_of_validate hc
  have hnw := wellFormed_of_validate hn
  obtain ⟨hdig, hbd, hd⟩ := config_of_validateRecord (hnw.records entry h.entry_mem)
  obtain ⟨hnx, hm⟩ := (maximaFollow_iff hcw hnw).mp h.maxima
  obtain ⟨hrec, hclm, hl⟩ := requestOf_leaves h.together
  have hloc : deriveLocator entry.project entry.sandboxId entry.generation
      entry.sourceIdentity req.locatorPolicyGeneration entry.config.trustClass
      entry.config.limaLayoutPolicyGeneration = .ok entry.locator := by
    obtain ⟨found, hfnd, hder⟩ := hnw.request req h.request_mem
    rw [← hclm] at hfnd hder
    obtain rfl : found = entry :=
      Option.some.inj (hfnd.symm.trans (hnw.find_eq_some.mpr ⟨h.entry_mem, rfl⟩))
    exact hder
  have hf : ∀ claim ∈ c.locatorClaims,
      ¬ (claim.sourceIdentity = entry.sourceIdentity ∧ claim.locator = entry.locator) := by
    intro claim hmem hs
    have heq : claim = locator :=
      inj_on_of_nodup_map (nodup_map_key hnw.locators_sorted) (h.locators_subset hmem)
        h.locator_mem (by rw [hs.2, ← hl])
    exact h.locator_new claim hmem (congrArg LocatorClaim.key heq)
  have hr : c.acceptanceRequests.length < maxResidentSandboxAcceptanceRequests
      ∧ c.entries.length < maxResidentSandboxEntries
      ∧ c.locatorClaims.length < maxResidentSandboxLocatorClaims := by
    have := h.requests_length
    have := h.entries_length
    have := h.locators_length
    have := hnw.requests_le
    have := hnw.entries_le
    have := hnw.locators_le
    exact ⟨by omega, by omega, by omega⟩
  have hlin : (∀ maximum ∈ c.generationMaxima, maximum.lineage ≠ ⟨entry.project, entry.sandboxId⟩) →
        c.generationMaxima.length < maxResidentSandboxLineages := by
    intro hnone
    have hle := hnw.maxima_le
    rw [hm, maximaWith_new (lookup_eq_none.mpr hnone), length_insertSorted] at hle
    exact hle
  obtain ⟨rc, ha⟩ : ∃ rc, c.acceptNew (requestOf entry req) entry.configDigest = .ok (n, rc) :=
    exists_acceptNew.mpr ⟨hr, hlin, entry.generation, entry.locator, hnx, hbd,
      hloc, hf, hrev, (withAccepted_of_added hcw hnw h).symm, hn, hb⟩
  have hlk : lookup AcceptanceRequestClaim.requestId
      (requestOf entry req).requestId c.acceptanceRequests = none :=
    lookup_eq_none.mpr h.request_new
  refine ⟨rc, ?_⟩
  unfold accept
  rw [hc, ok_bind, bind_eq_ok]
  refine ⟨entry.configDigest, hdig, ?_⟩
  rw [refuseIf_bind (by rw [Bool.not_eq_true]; exact hd), hlk]
  exact ha

/-! ## An acceptance is an addition -/

/-- **A catalog with one insertion in each list passes the comparison**, if what
was inserted belongs together. -/
theorem isExactAcceptanceSuccessor_of_insertSorted (hn : n.WellFormed)
    (hen : n.entries = insertSorted (fun entry => entry.key.order) c.entries entry)
    (hrq : n.acceptanceRequests
      = insertSorted (fun claim => claim.requestId.value) c.acceptanceRequests req)
    (hlc : n.locatorClaims
      = insertSorted (fun claim => claim.locator.value) c.locatorClaims locator)
    (htog : addedTogether entry req locator = true)
    (hm : maximaFollow c n entry = true) : isExactAcceptanceSuccessor c n = true := by
  have hk := hn.nodup_keys
  have hids := hn.nodup_requestIds
  have hhol := hn.locator_keys
  rw [hen] at hk
  rw [hrq] at hids
  rw [hlc] at hhol
  -- each list has one entry that was not there, the inserted one
  have hent : n.entries.filter (fun entry => (c.find entry.key).isNone) = [entry] := by
    rw [hen]
    refine filter_insertSorted ?_ (fun e he => ?_)
    · rw [Option.isNone_iff_eq_none]
      exact lookup_eq_none.mpr (fun e he => ne_of_nodup_insertSorted hk he)
    · rw [Option.isNone_eq_false_iff, Option.isSome_iff_ne_none]
      exact fun hnone => lookup_eq_none.mp hnone e he rfl
  have hreq : n.acceptanceRequests.filter (fun req => !c.acceptanceRequests.any
      (fun candidate => candidate.requestId = req.requestId)) = [req] := by
    rw [hrq]
    refine filter_insertSorted ?_ (fun r hr => ?_)
    · simpa using fun r hr => ne_of_nodup_insertSorted hids hr
    · simpa using ⟨r, hr, rfl⟩
  have hloc : n.locatorClaims.filter (fun claim => !c.locatorClaims.any
      (fun candidate => candidate.key = claim.key)) = [locator] := by
    rw [hlc]
    refine filter_insertSorted ?_ (fun l hl => ?_)
    · simpa using fun l hl => ne_of_nodup_insertSorted hhol hl
    · simpa using ⟨l, hl, rfl⟩
  unfold isExactAcceptanceSuccessor
  rw [if_neg, hent, hreq, hloc]
  · dsimp only
    rw [htog, hm]
    rfl
  · -- nothing that was there is lost
    simp only [not_or, not_not]
    refine ⟨hrq ▸ length_insertSorted, hlc ▸ length_insertSorted,
      hen ▸ length_insertSorted, fun e he => ?_, fun r hr => ?_, fun l hl => ?_⟩
    · exact hn.find_eq_some.mpr ⟨hen ▸ mem_insertSorted.mpr (Or.inr he), rfl⟩
    · exact (lookup_eq_some hn.nodup_requestIds).mpr
        ⟨hrq ▸ mem_insertSorted.mpr (Or.inr hr), rfl⟩
    · exact (lookup_eq_some hn.locator_keys).mpr
        ⟨hlc ▸ mem_insertSorted.mpr (Or.inr hl), rfl⟩

/-- **The catalog an acceptance leaves follows the catalog it came from.** -/
theorem validateSuccessorOf_of_accept {req : ResidentSandboxAcceptanceRequest}
    {rc : ResidentSandboxAcceptanceReceipt}
    (hnew : ∀ claim ∈ c.acceptanceRequests, claim.requestId ≠ req.requestId)
    (h : c.accept req = .ok (n, rc)) : n.validateSuccessorOf c = .ok () := by
  unfold accept at h
  rw [guard_bind_eq_ok, bind_eq_ok] at h
  obtain ⟨hc, configDigest, -, h⟩ := h
  rw [guard_bind_eq_ok, lookup_eq_none.mpr hnew] at h
  obtain ⟨-, -, generation, locator, hnx, -, -, -, hrev, hn, hval, -⟩ :=
    exists_acceptNew.mp ⟨rc, h.2⟩
  have hcw := wellFormed_of_validate hc
  have hnw := wellFormed_of_validate hval
  have hr : n.acceptanceRequests = insertSorted (fun claim => claim.requestId.value)
      c.acceptanceRequests (req.claim generation locator configDigest) :=
    congrArg acceptanceRequests hn
  have he : isExactAcceptanceSuccessor c n = true := by
    refine isExactAcceptanceSuccessor_of_insertSorted hnw (congrArg entries hn) hr
      (congrArg locatorClaims hn) ?_ ?_
    · exact decide_eq_true ⟨rfl, rfl, rfl, rfl, rfl, rfl, rfl, rfl, rfl, rfl, rfl, rfl, rfl⟩
    · exact (maximaFollow_iff hcw hnw).mpr ⟨hnx, congrArg generationMaxima hn⟩
  have hcl : n.acceptanceRequests ≠ c.acceptanceRequests := by
    intro heq
    have hlen := congrArg length (hr.symm.trans heq)
    rw [length_insertSorted] at hlen
    omega
  unfold validateSuccessorOf
  rw [hc, ok_bind, hval, ok_bind, checkedAdd_of_succ (by decide) hrev, okOr_some, ok_bind,
    refuseIf_not rfl, ok_bind, if_pos (Or.inl hcl), he]
  rfl

/-! ## An advance is a checkpoint -/

/-- **An advance is what a checkpoint of the record produces.** -/
theorem exists_checkpoint_of_advanced (hs : n.validateSuccessorOf c = .ok ())
    (hb : (encode n.toJson).length ≤ maxResidentSandboxCatalogDocumentBytes)
    (h : Advanced c n prior next) :
    ∃ cp, c.checkpoint prior.key prior.revision cp = .ok n := by
  obtain ⟨hc, hn, hrev, -⟩ := cases_of_validateSuccessorOf hs
  have hcw := wellFormed_of_validate hc
  have hnw := wellFormed_of_validate hn
  obtain ⟨hr, hm, hl, ⟨before, after, hnx, hp⟩, hsm, hrec, hadv⟩ := h
  obtain ⟨cp, ha⟩ := exists_applyCheckpoint hsm hrec hadv
  refine ⟨cp, ?_⟩
  have hf : c.find prior.key = some prior := hcw.find_eq_some.mpr ⟨by rw [hp]; simp, rfl⟩
  have hsp := split_of_nodup hcw.nodup_keys hp
  have hn' : { c with revision := n.revision, entries := before ++ next :: after } = n :=
    ResidentSandboxCatalog.ext (hcw.schema.trans hnw.schema.symm) rfl hr.symm hm.symm
      hl.symm hnx.symm
  unfold ResidentSandboxCatalog.checkpoint encodeResidentSandboxCatalog
  rw [hf, okOr_some, ok_bind, refuseIf_not rfl, ok_bind, ha, ok_bind, hsp, okOr_some,
    ok_bind]
  dsimp only
  rw [checkedAdd_of_succ (by decide) hrev, okOr_some, ok_bind, bind_eq_ok]
  refine ⟨n.revision, new_eq_ok.mpr rfl, ?_⟩
  rw [hn', hs, ok_bind, hn, ok_bind, encodeWithin_eq_ok.mpr ⟨hb, rfl⟩]
  rfl

theorem validateSuccessorOf_of_checkpoint {key : ResidentSandboxKey}
    {revision : ResidentSandboxRecordRevision} {cp : ResidentSandboxCheckpoint}
    (h : c.checkpoint key revision cp = .ok n) : n.validateSuccessorOf c = .ok () := by
  unfold ResidentSandboxCatalog.checkpoint at h
  simp only [bind_eq_ok] at h
  obtain ⟨_, -, _, -, _, -, ⟨before, _, after⟩, -, _, -, _, -, _, hs, _, -, h⟩ := h
  exact ok.inj h ▸ hs

/-- **The successor check is exact.** A catalog that fits its document follows
another exactly when it is what accepting some new request produces, or what
some checkpoint of some record produces. -/
theorem validateSuccessorOf_iff (c n : ResidentSandboxCatalog)
    (hb : (encode n.toJson).length ≤ maxResidentSandboxCatalogDocumentBytes) :
    n.validateSuccessorOf c = .ok ()
      ↔ (∃ req rc, (∀ claim ∈ c.acceptanceRequests, claim.requestId ≠ req.requestId)
            ∧ c.accept req = .ok (n, rc))
        ∨ ∃ key revision cp, c.checkpoint key revision cp = .ok n := by
  constructor
  · intro h
    obtain ⟨hc, hn, hr, hadd | had⟩ := cases_of_validateSuccessorOf h
    · obtain ⟨entry, req, locator, hadd⟩ := hadd
      obtain ⟨rc, ha⟩ := exists_accept_of_added hc hn hr hb hadd
      exact Or.inl ⟨requestOf entry req, rc, hadd.request_new, ha⟩
    · obtain ⟨prior, next, had⟩ := had
      obtain ⟨cp, hch⟩ := exists_checkpoint_of_advanced h hb had
      exact Or.inr ⟨prior.key, prior.revision, cp, hch⟩
  · rintro (⟨req, rc, hnew, ha⟩ | ⟨key, revision, cp, hch⟩)
    · exact validateSuccessorOf_of_accept hnew ha
    · exact validateSuccessorOf_of_checkpoint hch

/-! ## A sandbox and its two operations -/

/-- The first generation of a policy. -/
def firstPolicy : ResidentPolicyGeneration := BoundedRevision.first (by decide)

/-- A configuration. -/
def sampleConfig : ResidentSandboxConfig where
  preparedTemplateGeneration := firstPolicy
  sandboxConfigGeneration := firstPolicy
  trustClass := .ultraTrustedProject
  backend := .vz
  architecture := .aarch64
  limaLayoutPolicyGeneration := firstPolicy
  resources := ⟨firstPolicy, 2000, 2147483648, 21474836480, by decide⟩
  networkPolicyGeneration := firstPolicy
  credentialPolicyGeneration := firstPolicy
  guestControlPolicyGeneration := firstPolicy
  guestPrivilegePolicy := .reviewed firstPolicy
  projectIntegrationPolicyGeneration := firstPolicy
  autoFormat := false
  automount := false
  projectDisk := none

/-- A request. -/
def sampleRequest : ResidentSandboxAcceptanceRequest where
  requestId := ⟨"request-a", by decide +kernel⟩
  project := ⟨"github.com/owner/repository", by decide +kernel⟩
  sandboxId := ⟨"resident-a", by decide +kernel⟩
  sourceIdentity :=
    ⟨⟨"sha256:aaaaaaaaaaaaaaaaaaaaaaaaaaaaaaaaaaaaaaaaaaaaaaaaaaaaaaaaaaaaaaaa", by decide +kernel⟩⟩
  locatorPolicyGeneration := firstPolicy
  config := sampleConfig

/-- A generation. -/
def sampleGeneration : ResidentSandboxGeneration := .first _

/-- The locator of the sample. -/
def sampleLocator : ResidentSandboxLocator :=
  ⟨"smolrunner-96d61d91511cb0f3a43253cb1c12e99cf3a1b6f3ffacff590457", by decide +kernel⟩

/-- The digest of the sample. -/
def sampleDigest : Sha256Digest :=
  ⟨"sha256:203c115700ad9295a052d41eb02c541002950770caee7762ccb310b7ce9eeda9", by decide +kernel⟩

/-- One of seven revisions. -/
def sampleRevision {max : Nat} (hmax : 7 ≤ max) (i : Fin 7) : BoundedRevision max :=
  ⟨i + 1, by omega, by omega⟩

/-- The catalog that has accepted the request. -/
def sampleCatalog : ResidentSandboxCatalog :=
  empty.withAccepted sampleRequest (sampleRevision (by decide) 1) sampleGeneration sampleLocator
    sampleDigest

/-- The last operation and the one in progress, at each revision of the record:
the first materialization fails before it starts, and the second is left for
recovery. -/
def sampleOperations :
    List (Option ResidentSandboxOperationGeneration × ResidentSandboxActiveOperation) :=
  let first := sampleRevision (by decide) 0
  let second := sampleRevision (by decide) 1
  let firstIdentity : Sha256Digest :=
    ⟨"sha256:1c2607db6c90029e1204ac5155bddb4f8c983f8b98d327488fa37ded0a037860", by decide +kernel⟩
  let secondIdentity : Sha256Digest :=
    ⟨"sha256:bff68df3fa2135f4eca848cb40d81f307daf15a7fb4c7ddb289ba1eca640e71a", by decide +kernel⟩
  [(none, .none), (some first, .materialize first firstIdentity .authorized), (some first, .none),
    (some second, .materialize second secondIdentity .authorized),
    (some second, .materialize second secondIdentity .started),
    (some second, .materialize second secondIdentity .recoveryRequired)]

/-- **The catalogs of the sandbox**, from the accepted one on. -/
def sampleAt (i : Fin 6) : ResidentSandboxCatalog :=
  { sampleCatalog with
    revision := sampleRevision (by decide) i.succ
    entries := [{ sampleRequest.record sampleGeneration sampleLocator sampleDigest with
      revision := sampleRevision (by decide) i.castSucc
      lastOperationGeneration := (sampleOperations.get i).1
      activeOperation := (sampleOperations.get i).2 }] }

theorem digest_sampleConfig : sampleConfig.digest = .ok sampleDigest :=
  okIs_eq_true.mp (by decide +kernel)

theorem sampleAt_valid (i : Fin 6) : (sampleAt i).validate = .ok () := by
  -- the digest of the configuration is computed once, and not for every catalog
  have hd := digest_sampleConfig
  unfold validate
  generalize he : (sampleAt i).entries = entries
  simp only [sampleAt] at he
  subst he
  simp only [foldlM_cons, foldlM_nil, validateEntry, validateRecord,
    ResidentSandboxAcceptanceRequest.record, sampleRequest]
  rw [hd, ← okIs_eq_true]
  revert i
  decide +kernel

theorem sampleAt_follows (i : Fin 5) :
    (sampleAt i.succ).validateSuccessorOf (sampleAt i.castSucc) = .ok () := by
  unfold validateSuccessorOf
  rw [sampleAt_valid, ok_bind, sampleAt_valid, ok_bind, ← okIs_eq_true]
  revert i
  decide +kernel

theorem sampleCatalog_follows : sampleCatalog.validateSuccessorOf empty = .ok () := by
  have hv : sampleCatalog.validate = .ok () := sampleAt_valid 0
  unfold validateSuccessorOf
  rw [hv, okIs_eq_true.mp (by decide : okIs empty.validate () = true), ← okIs_eq_true]
  decide +kernel

theorem sampleCatalog_fits :
    (encode sampleCatalog.toJson).length ≤ maxResidentSandboxCatalogDocumentBytes := by
  decide +kernel

theorem validateSuccessorOf_iff_sampleCatalog :
    (∃ req rc, (∀ claim ∈ empty.acceptanceRequests, claim.requestId ≠ req.requestId)
        ∧ empty.accept req = .ok (sampleCatalog, rc))
      ∨ ∃ key revision cp, empty.checkpoint key revision cp = .ok sampleCatalog :=
  (validateSuccessorOf_iff empty sampleCatalog sampleCatalog_fits).mp sampleCatalog_follows

end ResidentSandboxCatalog

end Glaeda
