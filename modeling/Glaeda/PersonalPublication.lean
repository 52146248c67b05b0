import Glaeda.Transaction
import Glaeda.PersonalStore

/-!
# The store of the personal worker

The document of the personal worker is kept in two files: the current one
and, while a change is on its way, a staged one. A change is written and
synchronized under the staged name and then renamed over the current one.

The files are modelled by the documents they hold and the operations on them
by their durable steps. Two answers the program gets from outside are kept
beside them: whether the directory can be worked in at all – the lock is
free and no other document of the directory is on its way – and whether a
file can be written. Either one makes an operation refuse before it has
changed anything.

**A publication is atomic.** Wherever an accepted one is cut off, the next
recovery leaves the old document or the new one, and nothing staged.
-/

namespace Glaeda

open Checked Transaction Tx

/-- **The files of the store**, and what is answered about them. -/
structure PersonalStoreFiles where
  current : Option PersonalWorkerStoreDocument
  staged : Option PersonalWorkerStoreDocument
  access : Except PersonalWorkerStoreError Unit
  writing : Except PersonalWorkerStoreError Unit

/-- **The durable steps.** -/
inductive PersonalStoreEffect where
  | stage (document : PersonalWorkerStoreDocument)
  | publish
  | removeStage

/-- What an effect does to the files. -/
def PersonalStoreFiles.apply (files : PersonalStoreFiles) : PersonalStoreEffect → PersonalStoreFiles
  | .stage document => { files with staged := some document }
  | .publish => { files with current := files.staged, staged := none }
  | .removeStage => { files with staged := none }

/-- A transaction of the store. -/
abbrev PersonalStoreTx (α : Type) := Tx PersonalStoreFiles.apply PersonalWorkerStoreError α

/-- What a write did. -/
inductive PersonalWorkerStoreWriteDisposition where
  | created
  | replaced
deriving DecidableEq, Repr

/-- The answer to a write. -/
structure PersonalWorkerStoreWriteReceipt where
  disposition : PersonalWorkerStoreWriteDisposition
  revision : PersonalWorkerStoreRevision
  bytesWritten : Nat
deriving DecidableEq, Repr

/-- What to do with a staged document. -/
inductive PersonalRecoveryPlan where
  | clean
  | publishStaged (noReplace : Bool)
  | removeStaleStaged
deriving DecidableEq, Repr

/-- There is a staged document already. -/
def stageExists : PersonalWorkerStoreError :=
  ⟨.corruptState, "staged personal worker state already exists after recovery"⟩

/-- **Stage a document**: it has to fit, and the staged name to be free. -/
def stageDocument (document : PersonalWorkerStoreDocument) : PersonalStoreTx Unit := do
  let _ ← Tx.check (encodePersonalWorkerStoreDocument document)
  let files ← Tx.read
  Tx.check (refuseIf files.staged.isSome stageExists)
  Tx.check files.writing
  Tx.perform (.stage document)

/-- **Publish the staged document.** -/
def publishStaged (noReplace : Bool) : PersonalStoreTx Unit := do
  let files ← Tx.read
  Tx.check (refuseIf (noReplace ∧ files.current.isSome)
    (storeConflict "personal worker state already exists"))
  Tx.check (refuseIf (files.staged = none)
    ⟨.io, "could not atomically publish the personal worker state document"⟩)
  Tx.perform .publish

/-- The staged document is the expected one. -/
def synchronizeExistingStaged (expected : PersonalWorkerStoreDocument) : PersonalStoreTx Unit := do
  let files ← Tx.read
  Tx.check (refuseIf (files.staged ≠ some expected) corruptState)

/-- **What the staged document asks for.** -/
def PersonalStoreFiles.recoveryPlan (files : PersonalStoreFiles) :
    Except PersonalWorkerStoreError PersonalRecoveryPlan :=
  match files.staged, files.current with
  | none, _ => .ok .clean
  | some staged, none =>
    if staged.revision.val ≠ 1 ∨ staged.history ≠ [] then .error corruptState
    else .ok (.publishStaged true)
  | some staged, some current =>
    if staged.revision.val ≤ current.revision.val then .ok .removeStaleStaged
    else do
      (staged.validateSuccessorOf current).mapError (fun _ => corruptState)
      return .publishStaged false

/-- A staged document is published or removed. -/
def recoverLocked : PersonalStoreTx Unit := do
  let files ← Tx.read
  let plan ← Tx.check files.recoveryPlan
  match plan with
  | .clean => pure ()
  | .publishStaged noReplace => do
    let staged ← Tx.check (okOr files.staged corruptState)
    synchronizeExistingStaged staged
    publishStaged noReplace
  | .removeStaleStaged => Tx.perform .removeStage

/-- The store can be opened. -/
def acquire : PersonalStoreTx Unit := do
  let files ← Tx.read
  Tx.check files.access

namespace PersonalWorkerStore

/-- **Recover the store.** Opening it does this. -/
def recover : PersonalStoreTx Unit := do
  acquire
  recoverLocked

/-- The document of the store. -/
def load : PersonalStoreTx (Option PersonalWorkerStoreDocument) := do
  let files ← Tx.read
  return files.current

/-- A document is staged and published. -/
def write (disposition : PersonalWorkerStoreWriteDisposition) (noReplace : Bool)
    (document : PersonalWorkerStoreDocument) : PersonalStoreTx PersonalWorkerStoreWriteReceipt := do
  let bytes ← Tx.check (encodePersonalWorkerStoreDocument document)
  stageDocument document
  (publishStaged noReplace).onFailure [.removeStage]
  return ⟨disposition, document.revision, bytes.length⟩

/-- **Write the first document.** -/
def create (document : PersonalWorkerStoreDocument) :
    PersonalStoreTx PersonalWorkerStoreWriteReceipt := do
  Tx.check (refuseIf (document.revision.val ≠ 1 ∨ document.history ≠ [])
    (storeConflict "initial personal worker state must use revision one without history"))
  acquire
  recoverLocked
  let files ← Tx.read
  Tx.check (refuseIf files.current.isSome (storeConflict "personal worker state already exists"))
  write .created true document

/-- **Replace the document** of an expected revision by a successor of it. -/
def replaceIfRevision (expectedRevision : PersonalWorkerStoreRevision)
    (document : PersonalWorkerStoreDocument) :
    PersonalStoreTx PersonalWorkerStoreWriteReceipt := do
  acquire
  recoverLocked
  let files ← Tx.read
  let current ← Tx.check (okOr files.current
    ⟨.missing, "personal worker state does not exist"⟩)
  Tx.check (refuseIf (current.revision ≠ expectedRevision)
    (storeConflict "personal worker state revision changed before publication"))
  Tx.check (document.validateSuccessorOf current)
  write .replaced false document

end PersonalWorkerStore

/-! ## Runs from a clean store -/

namespace PersonalWorkerStore

variable {files : PersonalStoreFiles} {document : PersonalWorkerStoreDocument}

theorem run_recoverLocked (hc : files.staged = none) :
    recoverLocked.run files = ([], .ok ()) := by
  unfold recoverLocked
  rw [run_read_bind, PersonalStoreFiles.recoveryPlan, hc, run_check_ok_bind]
  rfl

theorem run_acquire : acquire.run files = ([], files.access) := by
  unfold acquire
  rw [run_read_bind, run_check]

theorem settles_acquire :
    Settles acquire files fun effects _ => effects = [] ∧ files.access = .ok () := by
  cases haccess : files.access with
  | error e => exact .inl ⟨e, run_acquire.trans (by rw [haccess])⟩
  | ok _ => exact .of_run (run_acquire.trans (by rw [haccess])) ⟨rfl, rfl⟩

theorem settles_recover (hc : files.staged = none) :
    Settles recover files fun effects _ => effects = [] ∧ files.access = .ok () :=
  .quiet_bind (settles_acquire.imp fun _ _ ⟨he, haccess⟩ =>
    ⟨he, .of_run (run_recoverLocked hc) ⟨rfl, haccess⟩⟩)

/-- The files with another document. -/
def published (files : PersonalStoreFiles) (document : PersonalWorkerStoreDocument) :
    PersonalStoreFiles :=
  { files with current := some document, staged := none }

variable {noReplace : Bool}

theorem run_publishStaged (hf : ¬ (noReplace = true ∧ files.current.isSome = true))
    (hs : files.staged = some document) :
    (publishStaged noReplace).run files = ([.publish], .ok ()) := by
  unfold publishStaged
  rw [run_read_bind, run_refuseIf_bind hf, hs,
    run_refuseIf_bind (Option.some_ne_none document)]
  rfl

theorem settles_stageDocument :
    Settles (stageDocument document) files fun effects _ => effects = [.stage document] := by
  refine .check_bind fun _ _ => .read_bind (.check_bind fun _ _ => .check_bind fun _ _ => ?_)
  exact .of_run run_perform rfl

/-- A store refuses to write a document and is left alone, or stages it and
publishes it. -/
theorem settles_write {disposition : PersonalWorkerStoreWriteDisposition}
    (hf : ¬ (noReplace = true ∧ files.current.isSome = true)) :
    Settles (write disposition noReplace document) files fun effects receipt =>
      effects = [.stage document, .publish]
        ∧ receipt.disposition = disposition ∧ receipt.revision = document.revision := by
  refine .check_bind fun bytes _ => .bind (settles_stageDocument.imp ?_)
  rintro _ _ rfl
  have hp : (publishStaged noReplace).run (files.apply (.stage document))
      = ([.publish], .ok ()) := run_publishStaged hf rfl
  exact ⟨_, _, run_then (run_onFailure_of_ok hp) rfl rfl, rfl, rfl, rfl⟩

/-- **A replacement of the document of a clean store** is refused and changes
nothing, or publishes a successor of the current document. -/
theorem settles_replaceIfRevision (expected : PersonalWorkerStoreRevision)
    (document : PersonalWorkerStoreDocument) (hc : files.staged = none) :
    Settles (replaceIfRevision expected document) files fun effects receipt =>
      effects = [.stage document, .publish]
        ∧ receipt.disposition = .replaced ∧ receipt.revision = document.revision
        ∧ ∃ current, files.access = .ok () ∧ files.current = some current
          ∧ document.validateSuccessorOf current = .ok () := by
  refine .quiet_bind (settles_acquire.imp fun _ _ ⟨he, haccess⟩ => ⟨he, ?_⟩)
  refine .quiet_bind (.of_run (run_recoverLocked hc) ⟨rfl, .read_bind ?_⟩)
  refine .check_bind fun current hcur => .check_bind fun _ _ => .check_bind fun _ hs =>
    (settles_write fun h => Bool.false_ne_true h.1).imp ?_
  rintro _ _ ⟨he, hd, hr⟩
  exact ⟨he, hd, hr, current, haccess, okOr_eq_ok.mp hcur, hs⟩

/-- **The first document of a clean store** is refused and changes nothing, or
published where there was none. -/
theorem settles_create (document : PersonalWorkerStoreDocument) (hcln : files.staged = none) :
    Settles (create document) files fun effects _ =>
      effects = [.stage document, .publish] ∧ files.access = .ok () ∧ files.current = none
        ∧ document.revision.val = 1 ∧ document.history = [] := by
  refine .check_bind fun _ hf => .quiet_bind (settles_acquire.imp
    fun _ _ ⟨he, haccess⟩ => ⟨he, ?_⟩)
  refine .quiet_bind (.of_run (run_recoverLocked hcln) ⟨rfl, .read_bind ?_⟩)
  refine .check_bind fun _ hc => ?_
  rw [refuseIf_eq_ok] at hf hc
  refine (settles_write fun h => hc h.2).imp ?_
  rintro _ _ ⟨he, -⟩
  rw [not_or, not_not, not_not] at hf
  exact ⟨he, haccess, Option.not_isSome_iff_eq_none.mp hc, hf⟩

/-! ## Crashes -/

section

variable (haccess : files.access = .ok ())
include haccess

theorem run_recover : recover.run files = recoverLocked.run files := by
  unfold recover
  rw [run_bind_of_quiet (run_acquire.trans (by rw [haccess]))]

theorem completes_recover_clean (hc : files.staged = none) : Tx.Completes recover files files :=
  Tx.Completes.of_run ((run_recover haccess).trans (run_recoverLocked hc))

theorem completes_recover_staged
    (hp : (files.apply (.stage document)).recoveryPlan = .ok (.publishStaged noReplace))
    (hf : ¬ (noReplace = true ∧ files.current.isSome = true)) :
    Tx.Completes recover (files.apply (.stage document)) (published files document) := by
  have hpub : (publishStaged noReplace).run (files.apply (.stage document))
      = ([.publish], .ok ()) := run_publishStaged hf rfl
  have hsyn : (synchronizeExistingStaged document).run (files.apply (.stage document))
      = ([], .ok ()) := by
    unfold synchronizeExistingStaged
    have hs : ¬ (files.apply (.stage document)).staged ≠ some document := not_not.mpr rfl
    rw [run_read_bind, refuseIf_of_not hs, run_check]
  have hr : recoverLocked.run (files.apply (.stage document)) = ([.publish], .ok ()) := by
    unfold recoverLocked
    rw [run_read_bind, hp, run_check_ok_bind]
    refine (run_bind_of_quiet (a := document) rfl).trans ?_
    rw [run_bind_of_quiet hsyn, hpub]
  have haccess' : (files.apply (.stage document)).access = .ok () := haccess
  exact Tx.Completes.of_run ((run_recover haccess').trans hr)

/-- **A publication is atomic**: wherever it is cut off, the recovery leaves the
old files or the new ones. -/
theorem completes_recover_of_crash {α : Type} {x : PersonalStoreTx α}
    {t : PersonalStoreFiles} (hc : files.staged = none)
    (hr : (x.run files).1 = [.stage document, .publish])
    (hp : (files.apply (.stage document)).recoveryPlan = .ok (.publishStaged noReplace))
    (hf : ¬ (noReplace = true ∧ files.current.isSome = true)) (h : Tx.Crash x files t) :
    Tx.Completes recover t files ∨ Tx.Completes recover t (published files document) :=
  completes_of_two_steps hr (completes_recover_clean haccess hc)
    (completes_recover_staged haccess hp hf) (completes_recover_clean haccess rfl) h

end

end PersonalWorkerStore

/-! ## A store with nothing in its queue -/

theorem validate_sampleDocument : PersonalWorkerStoreRecord.validate
    ⟨personalWorkerStoreSchemaVersion, .first, sampleQueue, [], [], []⟩ = .ok () := by decide

/-- A document. -/
def sampleDocument : PersonalWorkerStoreDocument := ⟨_, validate_sampleDocument⟩

/-- A store with that document. -/
def sampleFiles : PersonalStoreFiles := ⟨some sampleDocument, none, .ok (), .ok ()⟩

end Glaeda
