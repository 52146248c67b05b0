import Glaeda.Transaction

/-!
# Executing a plan of mutations

A plan is a sequence of mutations. An executor carries them out one after the
other, and when one of them fails it takes the completed ones back in reverse
order – those that can be taken back. The **journal** has one record for every
mutation and says what became of it.

`executePlan` keeps the journal in memory and `executePlanDurably` also hands
it to a checkpoint, before and after every call of the executor. Both are
written over one world: the executor and the checkpoint with their states, and
the history of what they were asked and what they answered. What the executor
does with a mutation is not known, nor what a checkpoint does with a journal;
they are arbitrary functions of their states.
-/

namespace Glaeda

open Checked Transaction List

/-! ## Plans and journals -/

/-- Who carries an action out. -/
inductive ExecutionLane where
  | operator
  | root
  | runnerUser
  | github
deriving DecidableEq, Repr

/-- How an action is undone. -/
inductive RollbackClass where
  | reversible
  | compensating
  | irreversible
deriving DecidableEq, Repr

/-- **A mutation of a plan.** -/
structure PlannedMutation where
  id : String
  lane : ExecutionLane
  summary : String
  rollback : RollbackClass
  preconditions : List String
deriving DecidableEq, Repr

/-- What an action says when it is done. -/
structure ActionReceipt where
  publicSummary : String
deriving DecidableEq, Repr

/-- What an action says when it fails. -/
structure ActionFailure where
  code : String
  publicMessage : String
deriving DecidableEq, Repr

/-- A failure as text. -/
def ActionFailure.text (failure : ActionFailure) : String :=
  failure.code ++ ": " ++ failure.publicMessage

/-- How far an action is. -/
inductive ActionOutcome where
  | pending
  | executing
  | completed
  | failed
  | skipped
  | rollbackInProgress
  | rolledBack
  | compensated
  | rollbackFailed
deriving DecidableEq, Repr

/-- **The record of a mutation.** -/
structure JournalRecord where
  action : PlannedMutation
  outcome : ActionOutcome
  message : Option String
deriving DecidableEq, Repr

/-- The version of a journal. -/
def journalSchemaVersion : Nat := 1

/-- **The journal of an execution.** -/
structure ExecutionJournal where
  schemaVersion : Nat
  records : List JournalRecord
  stoppedAfter : Option String
deriving DecidableEq, Repr

/-- The journal of a plan not begun. -/
def pendingJournal (actions : List PlannedMutation) : ExecutionJournal where
  schemaVersion := journalSchemaVersion
  records := actions.map fun action => ⟨action, .pending, none⟩
  stoppedAfter := none

variable (journal : ExecutionJournal)

namespace ExecutionJournal

/-- The journal with another record at a place. -/
def modify (journal : ExecutionJournal) (index : Nat) (f : JournalRecord → JournalRecord) :
    ExecutionJournal :=
  { journal with records := journal.records.modify index f }

variable (index : Nat)

/-- An outcome with its text. -/
def note (outcome : ActionOutcome) (message : Option String) : ExecutionJournal :=
  journal.modify index fun record => { record with outcome, message }

/-- An outcome, the text as before. -/
def mark (outcome : ActionOutcome) : ExecutionJournal :=
  journal.modify index fun record => { record with outcome }

/-- The action at a place. -/
def actionId : Option String :=
  journal.records[index]?.map fun record => record.action.id

/-- The plan stops here. -/
def stopAfter : ExecutionJournal :=
  { journal with stoppedAfter := journal.actionId index }

end ExecutionJournal

/-! ## Validation -/

/-- What is wrong with a plan. -/
structure PlanValidationError where
  problems : List String
deriving DecidableEq, Repr

section Validation

/- How a text is quoted in a message is left to the standard library. -/
variable (debug : String → String)

/-- What is wrong with an action. -/
def actionProblems (ids : List String) (action : PlannedMutation) : List String :=
  (if action.id = "" then ["action ID must not be empty"]
    else if action.id ∈ ids then ["duplicate action ID " ++ debug action.id]
    else [])
  ++ (if action.summary = "" then
      ["action " ++ debug action.id ++ " must have a summary"] else [])
  ++ (if action.preconditions = [] then
      ["action " ++ debug action.id ++ " must record precondition evidence"] else [])

/-- What is wrong with the actions of a plan. -/
def planProblems (ids : List String) : List PlannedMutation → List String
  | [] => []
  | action :: actions =>
    actionProblems debug ids action
      ++ planProblems (if action.id = "" then ids else action.id :: ids) actions

/-- **Validate a plan.** -/
def validatePlan (actions : List PlannedMutation) : Except (List String) Unit :=
  let problems := planProblems debug [] actions
  if problems = [] then .ok () else .error problems

variable {debug} {actions : List PlannedMutation}

theorem nodup_of_planProblems {ids : List String} (h : planProblems debug ids actions = []) :
    (∀ action ∈ actions, action.id ∉ ids) ∧ (actions.map (·.id)).Nodup := by
  induction actions generalizing ids with
  | nil => exact ⟨forall_mem_nil _, nodup_nil⟩
  | cons action actions ih =>
    rw [planProblems, append_eq_nil_iff] at h
    obtain ⟨hh, ht⟩ := h
    unfold actionProblems at hh
    have hn : action.id ≠ "" := fun he => by simp [he] at hh
    have hf : action.id ∉ ids := fun hm => by simp [hn, hm] at hh
    rw [if_neg hn] at ht
    obtain ⟨hr, hnd⟩ := ih ht
    refine ⟨forall_mem_cons.mpr ⟨hf, fun a ha hm =>
      hr a ha (mem_cons_of_mem _ hm)⟩, ?_⟩
    rw [map_cons, nodup_cons]
    refine ⟨fun hm => ?_, hnd⟩
    obtain ⟨other, ho, hid⟩ := mem_map.mp hm
    exact hr other ho (hid ▸ mem_cons_self)

/-- **The mutations of a valid plan are distinct.** -/
theorem nodup_of_validatePlan
    (h : validatePlan debug actions = .ok ()) : (actions.map (·.id)).Nodup := by
  unfold validatePlan at h
  dsimp only at h
  split at h
  · exact (nodup_of_planProblems ‹_›).2
  · cases h

end Validation

/-! ## The executor and the checkpoint -/

/-- **An executor**, over its own state. -/
structure MutationExecutor (σ : Type) where
  execute : σ → PlannedMutation → Except ActionFailure ActionReceipt × σ
  rollback : σ → PlannedMutation → ActionReceipt → Except ActionFailure ActionReceipt × σ

/-- Why a save failed. -/
structure JournalCheckpointFailure where
  publicMessage : String
deriving DecidableEq, Repr

/-- **A checkpoint**, over its own state. -/
structure JournalCheckpoint (τ : Type) where
  checkpoint : τ → ExecutionJournal → Except JournalCheckpointFailure Unit × τ

/-- What happens while a plan is carried out. -/
inductive PlanEvent where
  | execute (action : PlannedMutation) (result : Except ActionFailure ActionReceipt)
  | rollback (action : PlannedMutation) (receipt : ActionReceipt)
    (result : Except ActionFailure ActionReceipt)
  | checkpoint (journal : ExecutionJournal) (result : Except JournalCheckpointFailure Unit)

/-- **The world of an execution.** -/
structure PlanWorld (σ τ : Type) where
  executor : σ
  checkpoint : τ
  history : List PlanEvent

section Execution

variable {σ τ : Type} (executor : MutationExecutor σ) (checkpoint : JournalCheckpoint τ)

/-- What an event does to the world. -/
def PlanWorld.apply (w : PlanWorld σ τ) (e : PlanEvent) : PlanWorld σ τ :=
  let w := { w with history := w.history ++ [e] }
  match e with
  | .execute action _ => { w with executor := (executor.execute w.executor action).2 }
  | .rollback action receipt _ =>
    { w with executor := (executor.rollback w.executor action receipt).2 }
  | .checkpoint journal _ => { w with checkpoint := (checkpoint.checkpoint w.checkpoint journal).2 }

/-- The carrying out of a plan. -/
abbrev PlanTx (ε α : Type) := Tx (PlanWorld.apply executor checkpoint) ε α

variable {executor checkpoint} {ε : Type}

/-- The executor is asked to execute. -/
def askExecute (action : PlannedMutation) :
    PlanTx executor checkpoint ε (Except ActionFailure ActionReceipt) := do
  let w ← Tx.read
  let result := (executor.execute w.executor action).1
  Tx.perform (.execute action result)
  return result

/-- The executor is asked to undo. -/
def askRollback (action : PlannedMutation) (receipt : ActionReceipt) :
    PlanTx executor checkpoint ε (Except ActionFailure ActionReceipt) := do
  let w ← Tx.read
  let result := (executor.rollback w.executor action receipt).1
  Tx.perform (.rollback action receipt result)
  return result

/-! ## The execution in memory -/

/-- How an undone action is marked. -/
def RollbackClass.outcome : RollbackClass → ActionOutcome
  | .reversible => .rolledBack
  | .compensating => .compensated
  | .irreversible => .rollbackFailed -- not reached: nothing takes it back

/-- How the undoing of an action went. -/
def ExecutionJournal.noteRollback (journal : ExecutionJournal) (index : Nat)
    (action : PlannedMutation) : Except ActionFailure ActionReceipt → ExecutionJournal
  | .ok receipt => journal.note index action.rollback.outcome (some receipt.publicSummary)
  | .error failure => journal.note index .rollbackFailed (some failure.text)

/-- **Take the completed mutations back**, the last one first. -/
def rollbackCompleted (journal : ExecutionJournal) :
    List (Nat × ActionReceipt) → PlanTx executor checkpoint ε ExecutionJournal
  | [] => pure journal
  | (index, receipt) :: completed =>
    match journal.records[index]? with
    | none => pure journal
    | some record =>
      if record.action.rollback = .irreversible then rollbackCompleted journal completed
      else do
        let result ← askRollback record.action receipt
        rollbackCompleted (journal.noteRollback index record.action result) completed

/-- **Carry the mutations out**, one after the other. The completed ones are
kept with the last one first. -/
def executeFrom (journal : ExecutionJournal) (completed : List (Nat × ActionReceipt)) :
    List Nat → PlanTx executor checkpoint ε ExecutionJournal
  | [] => pure journal
  | index :: rest =>
    match journal.records[index]? with
    | none => pure journal
    | some record => do
      match ← askExecute record.action with
      | .ok receipt =>
        executeFrom (journal.note index .completed (some receipt.publicSummary))
          ((index, receipt) :: completed) rest
      | .error failure =>
        rollbackCompleted ((journal.note index .failed (some failure.text)).stopAfter index)
          completed

/-- The first action that needs a confirmation. -/
def firstUnconfirmedIrreversible (journal : ExecutionJournal) (allowIrreversible : Bool) :
    Option Nat :=
  if allowIrreversible then none
  else journal.records.findIdx? fun record => record.action.rollback = .irreversible

/-- An action is left out. -/
def ExecutionJournal.skip (journal : ExecutionJournal) (index : Nat) : ExecutionJournal :=
  (journal.note index .skipped
    (some "irreversible action requires explicit confirmation")).stopAfter index

/-- **Execute a plan.** -/
def executePlan (debug : String → String) (actions : List PlannedMutation)
    (allowIrreversible : Bool) :
    PlanTx executor checkpoint PlanValidationError ExecutionJournal := do
  Tx.check ((validatePlan debug actions).mapError PlanValidationError.mk)
  let journal := pendingJournal actions
  match firstUnconfirmedIrreversible journal allowIrreversible with
  | some index => return journal.skip index
  | none => executeFrom journal [] (List.range journal.records.length)

end Execution

end Glaeda
