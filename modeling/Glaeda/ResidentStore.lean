import Glaeda.Transaction
import Glaeda.ResidentHistory

/-!
# The store of the resident catalog

The catalog is kept under one name and staged under another. A change is
written in the staged slot, the two names are *exchanged*, and the catalog that
was exchanged out is emptied: so the slot is never removed, and a stop in
between leaves the old catalog in it as well as the new one. Recovery reads the
two files and has to say on which side of the exchange it is.

It also has to say whether publishing would hide something. A staged catalog
that marks an operation as started was written before the operation began, by
a process that is gone: publishing it would record an effect nobody performed,
so it is **discarded**, and everything else that was staged is published. The
table it decides by was written apart from the successor check.
`recovered_of_stops` says that between them every stop has an answer, and
`published_of_turns` follows the store through any number of stops.
-/

namespace Glaeda

open Checked Transaction List Tx

/-! ## Files -/

/-- The kinds of refusal. -/
inductive ResidentSandboxStoreErrorKind where
  | busy
  | missing
  | alreadyExists
  | conflict
  | recoveryRequired
  | corruptState
  | invalidSuccessor
  | limitExceeded
  | unsupportedVersion
  | nonCanonical
  | io
  | unsafeFilesystem
deriving DecidableEq, Repr

/-- **A store error**: its kind and a message. -/
structure ResidentSandboxStoreError where
  kind : ResidentSandboxStoreErrorKind
  message : String
deriving DecidableEq, Repr

/-- A refusal, as the store gives it. -/
def ResidentSandboxStoreError.ofCatalog (error : ResidentSandboxCatalogError) :
    ResidentSandboxStoreError where
  kind := match error.kind with
    | .missing => .missing
    | .conflict => .conflict
    | .invalidSuccessor => .invalidSuccessor
    | .limitExceeded => .limitExceeded
    | .unsupportedVersion => .unsupportedVersion
    | .nonCanonical => .nonCanonical
    | .invalidInput | .duplicate | .corruptState => .corruptState
  message := "resident-sandbox catalog document is invalid or cannot be persisted"

/-- **The staged slot**: not there, empty, or holding a catalog. -/
inductive StagedSlot where
  | absent
  | empty
  | complete (catalog : ResidentSandboxCatalog)
deriving DecidableEq, Repr

/-- The staged catalog, if it is whole. -/
def StagedSlot.catalog? : StagedSlot → Option ResidentSandboxCatalog
  | .complete catalog => some catalog
  | _ => none

/-- **The files of the store.** -/
@[ext] structure ResidentStoreFiles where
  current : Option ResidentSandboxCatalog
  staged : StagedSlot
deriving DecidableEq, Repr

/-- **The durable steps.** -/
inductive ResidentStoreEffect where
  | createStage
  | writeStage (catalog : ResidentSandboxCatalog)
  | renameNoReplace
  | exchange
  | retireStage
deriving DecidableEq, Repr

/-- What an effect does to the files. -/
def ResidentStoreFiles.apply (files : ResidentStoreFiles) :
    ResidentStoreEffect → ResidentStoreFiles
  | .createStage => { files with staged := .empty }
  | .writeStage catalog => { files with staged := .complete catalog }
  | .renameNoReplace => ⟨files.staged.catalog?, .absent⟩
  | .exchange => ⟨files.staged.catalog?, files.current.elim .absent .complete⟩
  | .retireStage => { files with staged := .empty }

/-- A transaction of the store. -/
abbrev ResidentStoreTx (α : Type) := Tx ResidentStoreFiles.apply ResidentSandboxStoreError α

/-- What a write did. -/
inductive ResidentSandboxCatalogWriteDisposition where
  | created
  | replaced
deriving DecidableEq, Repr

/-- The answer to a write. -/
structure ResidentSandboxCatalogWriteReceipt where
  disposition : ResidentSandboxCatalogWriteDisposition
  revision : ResidentSandboxCatalogRevision
deriving DecidableEq, Repr

/-- What a recovery did. -/
inductive ResidentSandboxRecoveryDisposition where
  | clean
  | publishedStaged
  | removedStaleStaged
  | discardedStartedStaged
deriving DecidableEq, Repr

/-! ## What to do with a staged successor -/

/-- What may be done with a staged catalog. -/
inductive SuccessorRecoveryClass where
  | safePublish
  | discardUnpublishedStarted
  | explicitRecovery
deriving DecidableEq, Repr

/-- What may be done when one operation follows another. -/
def classifyOperations :
    ResidentSandboxActiveOperation → ResidentSandboxActiveOperation → SuccessorRecoveryClass
  | .none, .materialize _ _ .authorized
  | .none, .start _ _ .authorized
  | .none, .stop _ _ .authorized
  | .materialize _ _ .authorized, .none
  | .start _ _ .authorized, .none
  | .stop _ _ .authorized, .none => .safePublish
  | .materialize priorGeneration priorPolicy .authorized,
      .materialize nextGeneration nextPolicy .started
  | .start priorGeneration priorPolicy .authorized, .start nextGeneration nextPolicy .started
  | .stop priorGeneration priorPolicy .authorized, .stop nextGeneration nextPolicy .started =>
    if priorGeneration = nextGeneration ∧ priorPolicy = nextPolicy then
      .discardUnpublishedStarted
    else .explicitRecovery
  | .materialize priorGeneration priorPolicy .started,
      .materialize nextGeneration nextPolicy .recoveryRequired
  | .start priorGeneration priorPolicy .started, .start nextGeneration nextPolicy .recoveryRequired
  | .stop priorGeneration priorPolicy .started, .stop nextGeneration nextPolicy .recoveryRequired =>
    if priorGeneration = nextGeneration ∧ priorPolicy = nextPolicy then .safePublish
    else .explicitRecovery
  | _, _ => .explicitRecovery

/-- **The class of a staged successor**: an acceptance is published; otherwise
the first record that differs decides. -/
def classifySuccessorRecovery (current staged : ResidentSandboxCatalog) : SuccessorRecoveryClass :=
  if staged.entries.length = current.entries.length + 1 then .safePublish
  else
    match (current.entries.zip staged.entries).find? (fun pair => pair.1 ≠ pair.2) with
    | none => .explicitRecovery
    | some (prior, next) => classifyOperations prior.activeOperation next.activeOperation

/-! ## Publication and recovery -/

namespace ResidentStore

/-- **Write a catalog in the staged slot.** -/
def stage (catalog : ResidentSandboxCatalog) : ResidentStoreTx Unit := do
  let _ ← Tx.check ((encodeResidentSandboxCatalog catalog).mapError .ofCatalog)
  let files ← Tx.read
  match files.staged with
  | .absent => Tx.perform .createStage
  | .empty => pure ()
  | .complete _ => Tx.fail ⟨.corruptState, "resident-sandbox store file has an unexpected size"⟩
  Tx.perform (.writeStage catalog)

variable (expected : ResidentSandboxCatalog)

/-- The staged catalog is the expected one. -/
def validateExistingStage : ResidentStoreTx Unit := do
  let files ← Tx.read
  let observed ← Tx.check (okOr files.staged.catalog?
    ⟨.missing, "resident-sandbox staged catalog disappeared before publication"⟩)
  Tx.check (refuseIf (observed ≠ expected)
    ⟨.unsafeFilesystem, "resident-sandbox staged catalog directory entry was rebound"⟩)

/-- The catalog on disk is the expected one. -/
def validateCurrent : Option ResidentSandboxCatalog → ResidentStoreTx Unit
  | some predecessor => do
    let files ← Tx.read
    let observed ← Tx.check (okOr files.current
      ⟨.io, "could not open resident-sandbox catalog document"⟩)
    Tx.check (refuseIf (observed ≠ predecessor)
      ⟨.corruptState, "resident-sandbox catalog document changed before publication"⟩)
  | none => do
    let files ← Tx.read
    Tx.check (refuseIf files.current.isSome
      ⟨.alreadyExists, "resident-sandbox canonical catalog appeared before publication"⟩)

/-- **Publish the staged catalog**: in the place of the current one, which is
then emptied, or where there was none. -/
def publish (predecessor : Option ResidentSandboxCatalog) : ResidentStoreTx Unit := do
  validateExistingStage expected
  validateCurrent predecessor
  match predecessor with
  | some _ => do
    Tx.perform .exchange
    Tx.perform .retireStage
  | none => Tx.perform .renameNoReplace

/-- **Recover the store.** -/
def recover : ResidentStoreTx ResidentSandboxRecoveryDisposition := do
  let files ← Tx.read
  match files.staged.catalog?, files.current with
  | none, _ => pure .clean
  | some staged, none =>
    if staged = .empty then do
      publish staged none
      pure .publishedStaged
    else
      Tx.fail ⟨.corruptState, "resident-sandbox staged catalog has no canonical predecessor"⟩
  | some staged, some current =>
    if staged = current then do
      Tx.perform .retireStage
      pure .removedStaleStaged
    else if checkedAdd u64Size staged.revision.val 1 = some current.revision.val
        ∧ current.validateSuccessorOf staged = .ok () then do
      Tx.perform .retireStage
      pure .removedStaleStaged
    else do
      Tx.check (refuseIf (checkedAdd u64Size current.revision.val 1 ≠ some staged.revision.val)
        ⟨.corruptState, "resident-sandbox staged catalog revision is not the exact successor"⟩)
      Tx.check ((staged.validateSuccessorOf current).mapError .ofCatalog)
      match classifySuccessorRecovery current staged with
      | .discardUnpublishedStarted => do
        Tx.perform .retireStage
        pure .discardedStartedStaged
      | .explicitRecovery =>
        Tx.fail ⟨.recoveryRequired, "resident-sandbox staged catalog requires explicit recovery"⟩
      | .safePublish => do
        publish staged (some current)
        pure .publishedStaged

/-- **Write the first catalog.** -/
def create (catalog : ResidentSandboxCatalog) :
    ResidentStoreTx ResidentSandboxCatalogWriteReceipt := do
  Tx.check (refuseIf (catalog.revision.val ≠ 1 ∨ catalog.entries ≠ [])
    ⟨.conflict, "initial resident-sandbox catalog must be empty revision one"⟩)
  let _ ← recover
  let files ← Tx.read
  Tx.check (refuseIf files.current.isSome
    ⟨.alreadyExists, "resident-sandbox catalog already exists"⟩)
  stage catalog
  publish catalog none
  return ⟨.created, catalog.revision⟩

/-- **Replace the catalog** of an expected revision by a successor of it. -/
def replaceIfRevision (expectedRevision : ResidentSandboxCatalogRevision)
    (catalog : ResidentSandboxCatalog) : ResidentStoreTx ResidentSandboxCatalogWriteReceipt := do
  let _ ← recover
  let files ← Tx.read
  let current ← Tx.check (okOr files.current
    ⟨.missing, "resident-sandbox catalog does not exist"⟩)
  Tx.check (refuseIf (current.revision ≠ expectedRevision)
    ⟨.conflict, "resident-sandbox catalog revision changed before publication"⟩)
  Tx.check ((catalog.validateSuccessorOf current).mapError .ofCatalog)
  stage catalog
  publish catalog (some current)
  return ⟨.replaced, catalog.revision⟩

/-! ## The table is complete -/

/-- **A catalog marks an operation as started**: one of its records, not of the
catalog before, is at that point. -/
def MarksStarted (old : Option ResidentSandboxCatalog) (new : ResidentSandboxCatalog) : Prop :=
  ∃ next ∈ new.entries, next ∉ old.elim [] ResidentSandboxCatalog.entries
    ∧ next.activeOperation.progress.map Prod.fst = some .started

instance (old : Option ResidentSandboxCatalog) (new : ResidentSandboxCatalog) :
    Decidable (MarksStarted old new) :=
  inferInstanceAs (Decidable (∃ _ ∈ _, _))

open ResidentSandboxCatalog in
/-- **The class of an operation that advanced** is told by its phase. -/
theorem classifyOperations_of_advances {prior : ResidentSandboxRecord}
    {op : ResidentSandboxActiveOperation} {last : Option ResidentSandboxOperationGeneration}
    (h : prior.Advances op last) :
    classifyOperations prior.activeOperation op
      = if op.progress.map Prod.fst = some .started then .discardUnpublishedStarted
        else .safePublish := by
  cases h with
  | authorized kind generation policyIdentity _ hi
  | prestartFailed kind generation policyIdentity _ hi =>
    rw [hi]
    cases kind <;> rfl
  | started kind generation policyIdentity _ ha
  | recoveryRequired kind generation policyIdentity _ ha =>
    rw [ha]
    cases kind <;>
      simp [classifyOperations, ResidentSandboxOperationKind.operation,
        ResidentSandboxActiveOperation.progress]

section Successors

open ResidentSandboxCatalog

variable {c n : ResidentSandboxCatalog}

theorem not_marksStarted_of_added {entry : ResidentSandboxRecord}
    {request : AcceptanceRequestClaim} {locator : LocatorClaim} (hc : c.WellFormed)
    (hn : n.WellFormed) (h : Added c n entry request locator) : ¬ MarksStarted (some c) n := by
  rintro ⟨next, hnx, hnew, hs⟩
  have hf := follows_of_added hc hn h next.key
  rw [hn.find_eq_some.mpr ⟨hnx, rfl⟩] at hf
  generalize hfnd : c.find next.key = found at hf
  cases hf with
  | kept => exact hnew (hc.find_eq_some.mp hfnd).1
  | accepted _ _ hi =>
    rw [hi] at hs
    cases hs
  | advanced prior _ _ _ hr _ =>
    -- the record before is still there, so it is the one there is
    obtain ⟨hp, hk⟩ := hc.find_eq_some.mp hfnd
    have hsm := hn.find_eq_some.mpr ⟨h.entries_subset hp, hk⟩
    rw [hn.find_eq_some.mpr ⟨hnx, rfl⟩, Option.some.injEq] at hsm
    rw [hsm] at hr
    omega

theorem marksStarted_of_advanced {prior next : ResidentSandboxRecord} (hc : c.WellFormed)
    (h : Advanced c n prior next) :
    MarksStarted (some c) n ↔ next.activeOperation.progress.map Prod.fst = some .started := by
  obtain ⟨-, -, -, ⟨before, after, hn, hp⟩, hsm, hrev, -⟩ := h
  have hk : next.key = prior.key := by rw [hsm]; rfl
  constructor
  · rintro ⟨record, hr, hnew, hs⟩
    have hnew : record ∉ c.entries := hnew
    rw [hn, mem_append, mem_cons] at hr
    rw [hp, mem_append, mem_cons] at hnew
    obtain hb | rfl | ha := hr
    · exact absurd (.inl hb) hnew
    · exact hs
    · exact absurd (.inr (.inr ha)) hnew
  · intro hs
    refine ⟨next, by rw [hn]; simp, fun hm => ?_, hs⟩
    -- one record of a generation only
    have hf := hc.find_eq_some.mpr ⟨hm, hk⟩
    rw [hc.find_eq_some.mpr ⟨by rw [hp]; simp, rfl⟩, Option.some.injEq] at hf
    rw [← hf] at hrev
    omega

/-- **Every successor has a class**: it is discarded if it marks an operation as
started, and published otherwise. -/
theorem classifySuccessorRecovery_of_follows (h : n.validateSuccessorOf c = .ok ()) :
    classifySuccessorRecovery c n
      = if MarksStarted (some c) n then .discardUnpublishedStarted else .safePublish := by
  obtain ⟨hc, hn, -, ⟨entry, request, locator, hadd⟩ | ⟨prior, next, ha⟩⟩ :=
    cases_of_validateSuccessorOf h
  · rw [classifySuccessorRecovery, if_pos hadd.entries_length,
      if_neg (not_marksStarted_of_added (wellFormed_of_validate hc) (wellFormed_of_validate hn)
        hadd)]
  · have hm := marksStarted_of_advanced (wellFormed_of_validate hc) ha
    obtain ⟨-, -, -, ⟨before, after, hn, hp⟩, -, hr, hadv⟩ := ha
    have hne : prior ≠ next := by
      rintro rfl
      omega
    have hl : c.entries.length = n.entries.length := by
      rw [hn, hp]
      simp
    have hf : (c.entries.zip n.entries).find? (fun pair => pair.1 ≠ pair.2)
        = some (prior, next) := by
      rw [← head?_filter, (KeyedList.filter_zip_eq_singleton hl).mpr
        ⟨hne, before, after, hp, hn⟩]
      rfl
    rw [classifySuccessorRecovery, if_neg (by omega), hf]
    simp only [hm]
    exact classifyOperations_of_advances hadv

theorem eq_empty_of_validate (h : c.validate = .ok ()) (hrev : c.revision.val = 1)
    (he : c.entries = []) : c = .empty := by
  have hw := wellFormed_of_validate h
  unfold validate at h
  rw [guard_bind_eq_ok, bind_eq_ok, refuseIf_eq_ok] at h
  obtain ⟨hb, represented, -, h⟩ := h
  rw [guard_bind_eq_ok, guard_bind_eq_ok] at h
  obtain ⟨-, -, h⟩ := h
  simp only [bind_eq_ok] at h
  obtain ⟨_, -, _, -, _, -, hm⟩ := h
  simp only [not_or, not_not, he, length_nil, length_eq_zero_iff] at hb
  obtain ⟨-, -, -, -, -, hr, hlc⟩ := hb
  have hn : c.generationMaxima = [] := by
    cases hl : c.generationMaxima with
    | nil => rfl
    | cons maximum rest =>
      rw [hl] at hm
      have hf : c.validateMaximum maximum = .ok () := (guard_bind_eq_ok.mp hm).1
      rw [validateMaximum, refuseIf_eq_ok, he] at hf
      exact absurd (.inr (by simp)) hf
  exact ResidentSandboxCatalog.ext hw.schema (BoundedRevision.ext hrev) hr hn
    hlc he

end Successors

/-! ## Runs -/

variable {f t u : ResidentStoreFiles} {old new : ResidentSandboxCatalog}

/-- **A clean store**: nothing is in the staged slot. -/
def Clean (files : ResidentStoreFiles) : Prop := files.staged.catalog? = none

theorem run_recover_clean (h : Clean f) : recover.run f = ([], .ok .clean) := by
  unfold recover
  rw [run_read_bind, h]
  rfl

/-- How a catalog is staged. -/
def stageEffects (files : ResidentStoreFiles) (catalog : ResidentSandboxCatalog) :
    List ResidentStoreEffect :=
  if files.staged = .absent then [.createStage, .writeStage catalog] else [.writeStage catalog]

theorem settles_stage (h : Clean f) (catalog : ResidentSandboxCatalog) :
    Settles (stage catalog) f fun effects _ =>
      effects = stageEffects f catalog ∧ catalog.validate = .ok () := by
  refine .check_bind fun bytes he => .read_bind ?_
  have hv : catalog.validate = .ok () := by
    rw [mapError_eq_ok, encodeResidentSandboxCatalog, guard_bind_eq_ok] at he
    exact he.1
  unfold stageEffects
  unfold Clean at h
  cases hs : f.staged with
  | absent => exact .of_run rfl ⟨rfl, hv⟩
  | empty => exact .of_run rfl ⟨rfl, hv⟩
  | complete other =>
    rw [hs] at h
    cases h

theorem run_validateExistingStage {current : Option ResidentSandboxCatalog} :
    (validateExistingStage new).run ⟨current, .complete new⟩ = ([], .ok ()) := by
  unfold validateExistingStage
  rw [run_read_bind]
  show (check (.ok new) >>= _).run _ = _
  rw [run_check_ok_bind, refuseIf_not rfl, run_check]

theorem run_publish_none :
    (publish new none).run ⟨none, .complete new⟩ = ([.renameNoReplace], .ok ()) :=
  run_then run_validateExistingStage rfl rfl

theorem run_publish_some :
    (publish new (some old)).run ⟨some old, .complete new⟩
      = ([.exchange, .retireStage], .ok ()) := by
  have hc : (validateCurrent (some old)).run ⟨some old, .complete new⟩ = ([], .ok ()) := by
    unfold validateCurrent
    rw [run_read_bind]
    show (check (.ok old) >>= _).run _ = _
    rw [run_check_ok_bind, refuseIf_not rfl, run_check]
  exact run_then run_validateExistingStage rfl (run_then hc rfl rfl)

theorem run_recover_first :
    recover.run ⟨none, .complete .empty⟩ = ([.renameNoReplace], .ok .publishedStaged) := by
  unfold recover
  rw [run_read_bind]
  exact run_then run_publish_none rfl rfl

section

variable (h : new.validateSuccessorOf old = .ok ())
include h

theorem revisions_of_follows :
    new ≠ old ∧ checkedAdd u64Size old.revision.val 1 = some new.revision.val
      ∧ checkedAdd u64Size new.revision.val 1 ≠ some old.revision.val := by
  obtain ⟨-, -, hr, -⟩ := ResidentSandboxCatalog.cases_of_validateSuccessorOf h
  refine ⟨?_, BoundedRevision.checkedAdd_of_succ (by decide) hr, fun hb => ?_⟩
  · rintro rfl
    omega
  · have := (checkedAdd_eq_some.mp hb).2
    omega

theorem run_recover_exchanged :
    recover.run ⟨some new, .complete old⟩ = ([.retireStage], .ok .removedStaleStaged) := by
  obtain ⟨hne, hn, -⟩ := revisions_of_follows h
  unfold recover
  rw [run_read_bind]
  dsimp only [StagedSlot.catalog?]
  rw [if_neg hne.symm, if_pos ⟨hn, h⟩]
  rfl

/-- **Before the exchange**, what marks an operation as started is discarded and
everything else is published. -/
theorem run_recover_staged :
    recover.run ⟨some old, .complete new⟩
      = if MarksStarted (some old) new then ([.retireStage], .ok .discardedStartedStaged)
        else ([.exchange, .retireStage], .ok .publishedStaged) := by
  obtain ⟨hne, hn, hb⟩ := revisions_of_follows h
  unfold recover
  rw [run_read_bind]
  dsimp only [StagedSlot.catalog?]
  rw [if_neg hne, if_neg (fun hbt => hb hbt.1), refuseIf_not hn,
    run_check_ok_bind, h, Except.mapError, run_check_ok_bind,
    classifySuccessorRecovery_of_follows h]
  by_cases hm : MarksStarted (some old) new
  · rw [if_pos hm, if_pos hm]
    rfl
  · rw [if_neg hm, if_neg hm]
    exact run_then run_publish_some rfl rfl

end

/-! ## Accepted writes -/

/-- **What may be written** in a store: the first catalog, or a successor of the
current one. -/
inductive Fitting (files : ResidentStoreFiles) (new : ResidentSandboxCatalog) : Prop
  | first (hcur : files.current = none) (hnew : new = .empty)
  | successor (old : ResidentSandboxCatalog) (hcur : files.current = some old)
      (hnew : new.validateSuccessorOf old = .ok ())

theorem Fitting.validateSuccessorOf (h : Fitting f new) (hc : f.current = some old) :
    new.validateSuccessorOf old = .ok () := by
  cases h with
  | first hn =>
    rw [hn] at hc
    cases hc
  | successor old' hc' hnew =>
    obtain rfl := Option.some.inj (hc.symm.trans hc')
    exact hnew

/-- How a staged catalog is published. -/
def publishEffects (files : ResidentStoreFiles) : List ResidentStoreEffect :=
  match files.current with
  | none => [.renameNoReplace]
  | some _ => [.exchange, .retireStage]

theorem replay_stageEffects (f : ResidentStoreFiles) (new : ResidentSandboxCatalog) :
    replay ResidentStoreFiles.apply f (stageEffects f new)
      = ⟨f.current, .complete new⟩ := by
  unfold stageEffects
  split
  · rfl
  · rfl

/-- **The first catalog** of a clean store is refused, or it is empty and
published where there was none. -/
theorem settles_create (h : Clean f) : Settles (create new) f fun effects _ =>
    effects = stageEffects f new ++ publishEffects f ∧ Fitting f new := by
  refine .check_bind fun _ hf => .quiet_bind (.of_run (run_recover_clean h)
    ⟨rfl, .read_bind (.check_bind fun _ hc => .bind ((settles_stage h new).imp ?_))⟩)
  rintro _ _ ⟨rfl, hv⟩
  rw [refuseIf_eq_ok, not_or, not_not, not_not] at hf
  rw [refuseIf_eq_ok, Option.not_isSome_iff_eq_none] at hc
  rw [replay_stageEffects, publishEffects, hc]
  exact ⟨_, _, run_then run_publish_none rfl rfl, rfl,
    .first hc (eq_empty_of_validate hv hf.1 hf.2)⟩

/-- **A replacement** in a clean store is refused, or publishes a successor. -/
theorem settles_replaceIfRevision (expected : ResidentSandboxCatalogRevision) (h : Clean f) :
    Settles (replaceIfRevision expected new) f fun effects _ =>
      effects = stageEffects f new ++ publishEffects f ∧ Fitting f new := by
  refine .quiet_bind (.of_run (run_recover_clean h) ⟨rfl, .read_bind ?_⟩)
  refine .check_bind fun old hc => .check_bind fun _ _ => .check_bind fun _ hs =>
    .bind ((settles_stage h new).imp ?_)
  rintro _ _ ⟨rfl, -⟩
  rw [okOr_eq_ok] at hc
  rw [replay_stageEffects, publishEffects, hc]
  exact ⟨_, _, run_then run_publish_some rfl rfl, rfl,
    .successor old hc (mapError_eq_ok.mp hs)⟩

/-! ## Stops -/

/-- **Where a write and its recoveries can stop**: with a clean slot and either
catalog, with the new catalog staged, or with the old one exchanged out. -/
inductive Along (files : ResidentStoreFiles) (new : ResidentSandboxCatalog) :
    ResidentStoreFiles → Prop
  | clean {u : ResidentStoreFiles} (hcln : Clean u)
      (hcur : u.current = files.current ∨ u.current = some new) : Along files new u
  | staged : Along files new ⟨files.current, .complete new⟩
  | exchanged (old : ResidentSandboxCatalog) (hcur : files.current = some old) :
      Along files new ⟨some new, .complete old⟩

theorem along_of_publishEffects (hf : Fitting f new)
    (h : t ∈ Tx.worlds ResidentStoreFiles.apply ⟨f.current, .complete new⟩
      (publishEffects f)) : Along f new t := by
  cases hf with
  | first hc hn =>
    rw [publishEffects, hc] at h
    simp only [worlds, mem_cons, not_mem_nil, or_false] at h
    rcases h with rfl | rfl
    · exact hc ▸ .staged
    · exact .clean rfl (.inr rfl)
  | successor old hc hn =>
    rw [publishEffects, hc] at h
    simp only [worlds, mem_cons, not_mem_nil, or_false] at h
    rcases h with rfl | rfl | rfl
    · exact hc ▸ .staged
    · exact .exchanged old hc
    · exact .clean rfl (.inr rfl)

/-- **A write stops along these.** -/
theorem along_of_crash {α : Type} {write : ResidentStoreTx α} (hc : Clean f)
    (hf : Fitting f new)
    (hr : (write.run f).1 = stageEffects f new ++ publishEffects f)
    (h : Tx.Crash write f t) : Along f new t := by
  rw [crash_iff hr] at h
  unfold stageEffects at h
  split at h
  · rw [cons_append, cons_append, nil_append, worlds, worlds, mem_cons, mem_cons] at h
    rcases h with rfl | rfl | h
    · exact .clean hc (.inl rfl)
    · exact .clean rfl (.inl rfl)
    · exact along_of_publishEffects hf h
  · rw [cons_append, nil_append, worlds, mem_cons] at h
    rcases h with rfl | h
    · exact .clean hc (.inl rfl)
    · exact along_of_publishEffects hf h

theorem run_recover_of_fitting (hf : Fitting f new) :
    ∃ disposition, recover.run ⟨f.current, .complete new⟩
      = (if MarksStarted f.current new then [.retireStage] else publishEffects f,
        .ok disposition) := by
  cases hf with
  | first hc hnew =>
    subst hnew
    have hm : ¬ MarksStarted none .empty := by
      rintro ⟨next, hn, -⟩
      cases hn
    rw [publishEffects, hc, if_neg hm]
    exact ⟨_, run_recover_first⟩
  | successor old hc hnew =>
    rw [publishEffects, hc, run_recover_staged hnew]
    by_cases hm : MarksStarted (some old) new
    · rw [if_pos hm, if_pos hm]
      exact ⟨_, rfl⟩
    · rw [if_neg hm, if_neg hm]
      exact ⟨_, rfl⟩

/-- **A recovery stops along these.** -/
theorem Along.crash (hf : Fitting f new) (h : Along f new t)
    (hc : Tx.Crash recover t u) : Along f new u := by
  cases h with
  | clean hcln hcur =>
    obtain rfl := hc.of_quiet (run_recover_clean hcln)
    exact .clean hcln hcur
  | staged =>
    obtain ⟨disposition, hr⟩ := run_recover_of_fitting hf
    rw [crash_iff (congrArg Prod.fst hr)] at hc
    by_cases hm : MarksStarted f.current new
    · rw [if_pos hm] at hc
      simp only [worlds, mem_cons, not_mem_nil, or_false] at hc
      rcases hc with rfl | rfl
      · exact .staged
      · exact .clean rfl (.inl rfl)
    · rw [if_neg hm] at hc
      exact along_of_publishEffects hf hc
  | exchanged old hcur =>
    have hn := hf.validateSuccessorOf hcur
    rw [crash_iff (congrArg Prod.fst (run_recover_exchanged hn))] at hc
    simp only [worlds, mem_cons, not_mem_nil, or_false] at hc
    rcases hc with rfl | rfl
    · exact .exchanged old hcur
    · exact .clean rfl (.inr rfl)

/-- **The answer of a recovery**: it succeeds, leaves the slot clean and either
catalog, and decides about a staged one by whether it marks an operation as
started. -/
def Recovered (files : ResidentStoreFiles) (new : ResidentSandboxCatalog)
    (u : ResidentStoreFiles) : Prop :=
  ∃ final, Tx.Completes recover u final ∧ Clean final
    ∧ (final.current = files.current ∨ final.current = some new)
    ∧ (u.staged = .complete new → u.current = files.current →
      final.current = if MarksStarted files.current new then files.current else some new)

/-- **Wherever it stopped, the next recovery answers.** -/
theorem Along.recovered (hfit : Fitting f new) (h : Along f new u) : Recovered f new u := by
  cases h with
  | clean hcln hcur =>
    refine ⟨u, Tx.Completes.of_run (run_recover_clean hcln), hcln, hcur, fun hstg => ?_⟩
    rw [Clean, hstg] at hcln
    cases hcln
  | staged =>
    obtain ⟨disposition, hrun⟩ := run_recover_of_fitting hfit
    by_cases hm : MarksStarted f.current new
    · rw [if_pos hm] at hrun
      refine ⟨_, Tx.Completes.of_run hrun, rfl, .inl rfl, fun _ _ => ?_⟩
      rw [if_pos hm]
      rfl
    · rw [if_neg hm] at hrun
      have hf : ∃ slot, replay ResidentStoreFiles.apply ⟨f.current, .complete new⟩
          (publishEffects f) = ⟨some new, slot⟩ ∧ slot.catalog? = none := by
        unfold publishEffects
        cases f.current with
        | none => exact ⟨.absent, rfl, rfl⟩
        | some old => exact ⟨.empty, rfl, rfl⟩
      obtain ⟨slot, hr, hs⟩ := hf
      have hc := Tx.Completes.of_run hrun
      rw [hr] at hc
      refine ⟨_, hc, hs, .inr rfl, fun _ _ => ?_⟩
      rw [if_neg hm]
  | exchanged old hcur =>
    have hnew := hfit.validateSuccessorOf hcur
    refine ⟨_, Tx.Completes.of_run (run_recover_exchanged hnew), rfl, .inr rfl, fun hstg => ?_⟩
    exact absurd (StagedSlot.complete.inj hstg).symm (revisions_of_follows hnew).1

/-- **Publication is recovered without replay.** In a clean store, wherever an
accepted write and any number of recoveries after it stop, the next recovery
succeeds and leaves the old catalog or the new one and nothing staged. What was
staged and not exchanged is discarded if it marks an operation as started, and
published otherwise. -/
theorem recovered_of_stops {write : ResidentStoreTx ResidentSandboxCatalogWriteReceipt}
    {receipt : ResidentSandboxCatalogWriteReceipt} (hc : Clean f)
    (hw : write = create new ∨ ∃ expected, write = replaceIfRevision expected new)
    (hacc : (write.run f).2 = .ok receipt) (hst : Tx.Crash write f t)
    (hs : Relation.ReflTransGen (Tx.Crash recover) t u) : Recovered f new u := by
  obtain ⟨he, hf⟩ : (write.run f).1 = stageEffects f new ++ publishEffects f
      ∧ Fitting f new := by
    obtain rfl | ⟨expected, rfl⟩ := hw
    · exact (settles_create hc).of_ok hacc
    · exact (settles_replaceIfRevision expected hc).of_ok hacc
  suffices ha : Along f new u from ha.recovered hf
  induction hs with
  | refl => exact along_of_crash hc hf he hst
  | tail _ hl ih => exact ih.crash hf hl

section Samples

open ResidentSandboxCatalog Json

theorem replaceIfRevision_of_follows (hc : Clean f) (hcur : f.current = some old)
    (hn : new.validateSuccessorOf old = .ok ())
    (hf : (encode new.toJson).length ≤ maxResidentSandboxCatalogDocumentBytes) :
    (replaceIfRevision old.revision new).run f
      = (stageEffects f new ++ [.exchange, .retireStage], .ok ⟨.replaced, new.revision⟩) := by
  have hv := (cases_of_validateSuccessorOf hn).2.1
  have hs : (stage new).run f = (stageEffects f new, .ok ()) := by
    unfold stage stageEffects encodeResidentSandboxCatalog
    rw [hv, ok_bind, encodeWithin_eq_ok.mpr ⟨hf, rfl⟩, Except.mapError, run_check_ok_bind,
      run_read_bind]
    unfold Clean at hc
    cases hstg : f.staged with
    | absent | empty => rfl
    | complete other =>
      rw [hstg] at hc
      cases hc
  unfold replaceIfRevision
  rw [run_bind_of_quiet (run_recover_clean hc), run_read_bind, hcur, run_some_bind,
    run_refuseIf_bind (not_not.mpr rfl), hn, Except.mapError, run_check_ok_bind]
  refine run_then hs ?_ (run_then run_publish_some rfl rfl)
  rw [replay_stageEffects, hcur]

/-- The acceptance of a sandbox, stopped after the exchange. -/
def exchangedFiles : ResidentStoreFiles := ⟨some sampleCatalog, .complete .empty⟩

theorem crash_exchangedFiles :
    Tx.Crash (replaceIfRevision empty.revision sampleCatalog) ⟨some .empty, .absent⟩
      exchangedFiles := by
  have hc : Clean ⟨some .empty, .absent⟩ := rfl
  have hr := replaceIfRevision_of_follows hc rfl sampleCatalog_follows sampleCatalog_fits
  refine ⟨[.createStage, .writeStage sampleCatalog, .exchange], ?_, rfl⟩
  rw [hr]
  exact ⟨[.retireStage], rfl⟩

/-- An acceptance stopped after the exchange, and an operation marked as started
and stopped before it. -/
theorem recovered_of_stops_samples :
    Recovered ⟨some .empty, .absent⟩ sampleCatalog exchangedFiles
      ∧ MarksStarted (some (sampleAt 3)) (sampleAt 4)
      ∧ Recovered ⟨some (sampleAt 3), .empty⟩ (sampleAt 4)
        ⟨some (sampleAt 3), .complete (sampleAt 4)⟩ := by
  have hf : Clean ⟨some .empty, .absent⟩ := rfl
  have ha := congrArg Prod.snd
    (replaceIfRevision_of_follows hf rfl sampleCatalog_follows sampleCatalog_fits)
  have hc : Clean ⟨some (sampleAt 3), .empty⟩ := rfl
  have hfol : (sampleAt 4).validateSuccessorOf (sampleAt 3) = .ok () := sampleAt_follows 3
  have hs := replaceIfRevision_of_follows hc rfl hfol (by decide +kernel)
  have hstg : Tx.Crash (replaceIfRevision (sampleAt 3).revision (sampleAt 4))
      ⟨some (sampleAt 3), .empty⟩ ⟨some (sampleAt 3), .complete (sampleAt 4)⟩ := by
    refine ⟨[.writeStage (sampleAt 4)], ?_, rfl⟩
    rw [hs]
    exact ⟨[.exchange, .retireStage], rfl⟩
  exact ⟨recovered_of_stops hf (.inr ⟨_, rfl⟩) ha crash_exchangedFiles .refl, by decide +kernel,
    recovered_of_stops hc (.inr ⟨_, rfl⟩) (congrArg Prod.snd hs) hstg .refl⟩

end Samples

/-! ## Runs of the store -/

/-- **A turn of the store**: a recovery or a write, accepted or not, that stops
anywhere. One that stops at its end has done all it does. -/
inductive Turn (files t : ResidentStoreFiles) : Prop
  | recovering (h : Tx.Crash recover files t)
  | creating (new : ResidentSandboxCatalog) (h : Tx.Crash (create new) files t)
  | replacing (expected : ResidentSandboxCatalogRevision) (new : ResidentSandboxCatalog)
      (h : Tx.Crash (replaceIfRevision expected new) files t)

/-- **What is published moves on**, each time to a catalog that may be written
over the one before. -/
abbrev Moves : Option ResidentSandboxCatalog → Option ResidentSandboxCatalog → Prop :=
  Relation.ReflTransGen fun old new =>
    ∃ files catalog, files.current = old ∧ Fitting files catalog ∧ new = some catalog

/-- **What turns leave**: a clean slot, the next catalog in it, or the last one. -/
inductive Sound : ResidentStoreFiles → Prop
  | clean {files : ResidentStoreFiles} (h : Clean files) : Sound files
  | staged {files : ResidentStoreFiles} {new : ResidentSandboxCatalog} (h : Fitting files new) :
      Sound ⟨files.current, .complete new⟩
  | exchanged {old new : ResidentSandboxCatalog} (h : new.validateSuccessorOf old = .ok ()) :
      Sound ⟨some new, .complete old⟩

theorem Along.sound (hf : Fitting f new) (h : Along f new t) :
    Sound t ∧ Moves f.current t.current := by
  have hm : Moves f.current (some new) := .single ⟨f, new, rfl, hf, rfl⟩
  cases h with
  | clean hcln hc =>
    refine ⟨.clean hcln, ?_⟩
    obtain hc | hc := hc
    · exact hc ▸ .refl
    · exact hc ▸ hm
  | staged => exact ⟨.staged hf, .refl⟩
  | exchanged old hc =>
    exact ⟨.exchanged (hf.validateSuccessorOf hc), hm⟩

theorem Sound.recovering (h : Sound f) (hc : Tx.Crash recover f t) :
    Sound t ∧ Moves f.current t.current := by
  cases h with
  | clean hcln =>
    obtain rfl := hc.of_quiet (run_recover_clean hcln)
    exact ⟨.clean hcln, .refl⟩
  | @staged base new hf =>
    have ha : Along base new t := Along.staged.crash hf hc
    obtain ⟨hs, hm⟩ := ha.sound hf
    exact ⟨hs, hm⟩
  | exchanged hn =>
    rw [crash_iff (congrArg Prod.fst (run_recover_exchanged hn))] at hc
    simp only [worlds, mem_cons, not_mem_nil, or_false] at hc
    obtain rfl | rfl := hc
    · exact ⟨.exchanged hn, .refl⟩
    · exact ⟨.clean rfl, .refl⟩

theorem Sound.recovers (h : Sound f) :
    ∃ final, Tx.Completes recover f final ∧ Clean final ∧ Moves f.current final.current := by
  suffices hf : ∃ final, Tx.Completes recover f final ∧ Clean final by
    obtain ⟨final, hc, hcln⟩ := hf
    exact ⟨final, hc, hcln, (h.recovering hc.crash).2⟩
  cases h with
  | clean hcln => exact ⟨_, Tx.Completes.of_run (run_recover_clean hcln), hcln⟩
  | staged hfit =>
    obtain ⟨final, hc, hcln, -⟩ := Along.staged.recovered hfit
    exact ⟨final, hc, hcln⟩
  | exchanged hn => exact ⟨_, Tx.Completes.of_run (run_recover_exchanged hn), rfl⟩

theorem sound_of_settles {α : Type} {write : ResidentStoreTx α} (hc : Clean f)
    (hw : Settles write f fun effects _ =>
      effects = stageEffects f new ++ publishEffects f ∧ Fitting f new)
    (h : Tx.Crash write f t) : Sound t ∧ Moves f.current t.current := by
  obtain ⟨e, hr⟩ | ⟨_, a, hr, rfl, hf⟩ := hw
  · obtain rfl := h.of_quiet hr
    exact ⟨.clean hc, .refl⟩
  · exact (along_of_crash hc hf (congrArg Prod.fst hr) h).sound hf

theorem Turn.sound (h : Turn f t) (hs : Sound f) : Sound t ∧ Moves f.current t.current := by
  obtain ⟨u, hrec, hc, hm⟩ := hs.recovers
  have hq := run_recover_clean hc
  -- a write recovers first, and goes on in the clean store that leaves
  suffices hw : Tx.Crash recover f t ∨ Sound t ∧ Moves u.current t.current by
    obtain h | ⟨hs, hr⟩ := hw
    · exact hs.recovering h
    · exact ⟨hs, hm.trans hr⟩
  cases h with
  | recovering h => exact .inl h
  | creating new h =>
    have hset := @settles_create u new hc
    unfold create at h hset
    by_cases hf : new.revision.val ≠ 1 ∨ new.entries ≠ []
    · rw [refuseIf_of hf] at h
      obtain rfl := h.of_quiet run_check_error_bind
      exact .inl ⟨[], nil_prefix, rfl⟩
    · rw [refuseIf_of_not hf] at h hset
      have h := h.of_quiet_bind run_check
      exact (h.of_recovery_bind hrec hq).imp id (sound_of_settles hc hset)
  | replacing expected new h =>
    exact (h.of_recovery_bind hrec hq).imp id
      (sound_of_settles hc (settles_replaceIfRevision expected hc))

theorem Sound.turns (hs : Sound f) (h : Relation.ReflTransGen Turn f t) :
    Sound t ∧ Moves f.current t.current := by
  induction h with
  | refl => exact ⟨hs, .refl⟩
  | tail _ ht ih =>
    obtain ⟨hn, hm⟩ := ht.sound ih.1
    exact ⟨hn, ih.2.trans hm⟩

/-- The revision on disk, or zero. -/
def publishedRevision (current : Option ResidentSandboxCatalog) : Nat :=
  current.elim 0 (·.revision.val)

theorem publishedRevision_lt (h : Fitting f new) :
    publishedRevision f.current < new.revision.val := by
  cases h with
  | first hc hn =>
    rw [hc, hn]
    decide
  | successor old hc hn =>
    obtain ⟨-, -, hr, -⟩ := ResidentSandboxCatalog.cases_of_validateSuccessorOf hn
    rw [hc, hr]
    exact Nat.lt_succ_self _

/-- **Nothing published is lost, skipped or taken back.** Along every run of
writes and recoveries from an empty directory, each of them stopped anywhere,
the published catalog is only replaced by a successor of it, and a revision
names one catalog of the run. Wherever the run ends, the next recovery succeeds
and leaves nothing staged. -/
theorem published_of_turns (hf : Relation.ReflTransGen Turn ⟨none, .absent⟩ f)
    (h : Relation.ReflTransGen Turn f t) :
    Moves f.current t.current
      ∧ (publishedRevision f.current = publishedRevision t.current → f.current = t.current)
      ∧ ∃ final, Tx.Completes recover t final ∧ Clean final
        ∧ Moves t.current final.current := by
  have he : Sound ⟨none, .absent⟩ := .clean rfl
  obtain ⟨hs, hm⟩ := (he.turns hf).1.turns h
  refine ⟨hm, eq_of_rank_eq ?_ hm, hs.recovers⟩
  rintro _ _ ⟨f, new, rfl, hfit, rfl⟩
  exact publishedRevision_lt hfit

/-- The first catalog is written, an acceptance stops after the exchange, and the
store is recovered. -/
theorem published_of_turns_exchangedFiles :
    Relation.ReflTransGen Turn ⟨none, .absent⟩ exchangedFiles
      ∧ Turn exchangedFiles ⟨exchangedFiles.current, .empty⟩
      ∧ Moves exchangedFiles.current exchangedFiles.current := by
  have hc : Turn ⟨none, .absent⟩ ⟨some .empty, .absent⟩ :=
    .creating .empty ⟨[.createStage, .writeStage .empty, .renameNoReplace], by decide +kernel, rfl⟩
  have hrep : Turn ⟨some .empty, .absent⟩ exchangedFiles :=
    .replacing _ _ crash_exchangedFiles
  have hr : Turn exchangedFiles ⟨exchangedFiles.current, .empty⟩ :=
    .recovering ⟨[.retireStage], by
      rw [exchangedFiles, run_recover_exchanged ResidentSandboxCatalog.sampleCatalog_follows], rfl⟩
  have hf := (Relation.ReflTransGen.single hc).tail hrep
  exact ⟨hf, hr, (published_of_turns hf (.single hr)).1⟩

end ResidentStore

end Glaeda
