import Glaeda.ExecutionJournal
import Glaeda.KeyedList

/-!
# Executing a plan durably

The durable execution hands the journal to a checkpoint at every uncertain
boundary: a mutation is noted as executing before the executor sees it, and
with its outcome afterwards; the same two steps surround every rollback. A
checkpoint that fails stops the execution at once.

So at every moment **the last persisted journal is truthful**. What it shows as
pending was never passed to the executor, what it shows as settled had exactly
that result, and only one mutation can be in doubt: the one it shows as
executing or as being rolled back. And nothing is done differently because of
the checkpoints: as long as they succeed, the executor sees what it sees in
memory.
-/

namespace Glaeda

open Checked Transaction List Tx

/-! ## The durable execution -/

/-- When a journal is saved. -/
inductive JournalCheckpointPhase where
  | initial
  | beforeExecute
  | afterExecute
  | beforeRollback
  | afterRollback
deriving DecidableEq, Repr

/-- **A checkpoint that failed**, with the last journal that is durable and the
one that was to be. -/
structure DurableCheckpointError where
  phase : JournalCheckpointPhase
  actionId : Option String
  lastDurable : Option ExecutionJournal
  attempted : ExecutionJournal
  failure : JournalCheckpointFailure
deriving DecidableEq, Repr

/-- A plan is refused, or a save fails. -/
inductive DurableExecutionError where
  | plan (error : PlanValidationError)
  | checkpoint (error : DurableCheckpointError)
deriving DecidableEq, Repr

section Durable

variable {σ τ : Type} {ex : MutationExecutor σ} {checkpoint : JournalCheckpoint τ}

/-- **Persist the journal.** It is then the last durable one. -/
def persistCheckpoint (journal : ExecutionJournal) (lastDurable : Option ExecutionJournal)
    (phase : JournalCheckpointPhase) (index : Option Nat) :
    PlanTx ex checkpoint DurableExecutionError (Option ExecutionJournal) := do
  let w ← Tx.read
  let result := (checkpoint.checkpoint w.checkpoint journal).1
  Tx.perform (.checkpoint journal result)
  match result with
  | .ok () => return some journal
  | .error failure =>
    Tx.fail (.checkpoint
      { phase, actionId := index.bind journal.actionId, lastDurable,
        attempted := journal, failure })

/-- **Take the completed mutations back**, with a checkpoint before and after
each. -/
def rollbackCompletedDurably (journal : ExecutionJournal)
    (lastDurable : Option ExecutionJournal) : List (Nat × ActionReceipt) →
    PlanTx ex checkpoint DurableExecutionError ExecutionJournal
  | [] => pure journal
  | (index, receipt) :: completed =>
    match journal.records[index]? with
    | none => pure journal
    | some record =>
      if record.action.rollback = .irreversible then
        rollbackCompletedDurably journal lastDurable completed
      else do
        let journal := journal.mark index .rollbackInProgress
        let lastDurable ← persistCheckpoint journal lastDurable .beforeRollback index
        let result ← askRollback record.action receipt
        let journal := journal.noteRollback index record.action result
        let lastDurable ← persistCheckpoint journal lastDurable .afterRollback index
        rollbackCompletedDurably journal lastDurable completed

/-- **Carry the mutations out**, with a checkpoint before and after each. -/
def executeFromDurably (journal : ExecutionJournal) (lastDurable : Option ExecutionJournal)
    (completed : List (Nat × ActionReceipt)) :
    List Nat → PlanTx ex checkpoint DurableExecutionError ExecutionJournal
  | [] => pure journal
  | index :: rest =>
    match journal.records[index]? with
    | none => pure journal
    | some record => do
      let journal := journal.note index .executing none
      let lastDurable ← persistCheckpoint journal lastDurable .beforeExecute index
      match ← askExecute record.action with
      | .ok receipt => do
        let journal := journal.note index .completed (some receipt.publicSummary)
        let lastDurable ← persistCheckpoint journal lastDurable .afterExecute index
        executeFromDurably journal lastDurable ((index, receipt) :: completed) rest
      | .error failure => do
        let journal := (journal.note index .failed (some failure.text)).stopAfter index
        let lastDurable ← persistCheckpoint journal lastDurable .afterExecute index
        rollbackCompletedDurably journal lastDurable completed

/-- **Execute a plan durably.** -/
def executePlanDurably (debug : String → String) (actions : List PlannedMutation)
    (allowIrreversible : Bool) :
    PlanTx ex checkpoint DurableExecutionError ExecutionJournal := do
  Tx.check ((validatePlan debug actions).mapError
    fun problems => DurableExecutionError.plan ⟨problems⟩)
  let journal := pendingJournal actions
  match firstUnconfirmedIrreversible journal allowIrreversible with
  | some index => do
    let journal := journal.skip index
    let _ ← persistCheckpoint journal none .initial index
    return journal
  | none => do
    let lastDurable ← persistCheckpoint journal none .initial none
    executeFromDurably journal lastDurable [] (List.range journal.records.length)

end Durable

/-! ## What a journal says -/

/-- A call of the executor, with its answer. -/
inductive ExecutorCall where
  | execute (result : Except ActionFailure ActionReceipt)
  | rollback (receipt : ActionReceipt) (result : Except ActionFailure ActionReceipt)

/-- The event of a call. -/
def ExecutorCall.event (action : PlannedMutation) : ExecutorCall → PlanEvent
  | .execute result => .execute action result
  | .rollback receipt result => .rollback action receipt result

/-- The call an event is, for an action. -/
def PlanEvent.callOf (action : PlannedMutation) : PlanEvent → Option ExecutorCall
  | .execute a result => if a = action then some (.execute result) else none
  | .rollback a receipt result => if a = action then some (.rollback receipt result) else none
  | .checkpoint _ _ => none

/-- The calls of an action. -/
def callsOf (history : List PlanEvent) (action : PlannedMutation) : List ExecutorCall :=
  history.filterMap (PlanEvent.callOf action)

/-- The journal an event saved. -/
def PlanEvent.persisted : PlanEvent → Option ExecutionJournal
  | .checkpoint journal (.ok ()) => some journal
  | _ => none

/-- **The last journal that was persisted.** -/
def lastPersisted (history : List PlanEvent) : Option ExecutionJournal :=
  history.reverse.findSome? PlanEvent.persisted

/-- A call may or may not have been made. -/
def JournalRecord.inDoubt (record : JournalRecord) : Bool :=
  record.outcome = .executing || record.outcome = .rollbackInProgress

/-- **What a record says of the calls about its mutation.** -/
def JournalRecord.Shows (record : JournalRecord) (calls : List ExecutorCall) : Prop :=
  match record.outcome with
  | .pending | .skipped => calls = []
  | .executing => calls = [] ∨ ∃ result, calls = [.execute result]
  | .completed => ∃ rc, calls = [.execute (.ok rc)]
    ∧ record.message = some rc.publicSummary
  | .failed => ∃ failure, calls = [.execute (.error failure)]
    ∧ record.message = some failure.text
  | .rollbackInProgress => ∃ rc, calls = [.execute (.ok rc)]
    ∨ ∃ result, calls = [.execute (.ok rc), .rollback rc result]
  | .rolledBack => ∃ rc undone, calls = [.execute (.ok rc), .rollback rc (.ok undone)]
      ∧ record.action.rollback = .reversible ∧ record.message = some undone.publicSummary
  | .compensated => ∃ rc undone, calls = [.execute (.ok rc), .rollback rc (.ok undone)]
      ∧ record.action.rollback = .compensating ∧ record.message = some undone.publicSummary
  | .rollbackFailed => ∃ rc failure, calls = [.execute (.ok rc), .rollback rc (.error failure)]
      ∧ record.message = some failure.text

/-- **A truthful journal**: every record says what happened, and at most one
is in doubt. -/
structure Truthful (history : List PlanEvent) (journal : ExecutionJournal) : Prop where
  shows : ∀ {index : Nat} {record : JournalRecord}, journal.records[index]? = some record →
    record.Shows (callsOf history record.action)
  doubt : ∀ {i j : Nat} {r r' : JournalRecord}, journal.records[i]? = some r →
    journal.records[j]? = some r' → r.inDoubt = true → r'.inDoubt = true → i = j

/-- **What holds at every moment.** The last persisted journal is truthful;
before the first one the executor was not called; and nothing comes after a
checkpoint that failed. -/
structure Recorded (history : List PlanEvent) : Prop where
  truthful : ∀ {journal}, lastPersisted history = some journal → Truthful history journal
  untouched : lastPersisted history = none → ∀ action, callsOf history action = []
  stopped : ∀ {earlier later journal failure},
    history = earlier ++ .checkpoint journal (.error failure) :: later → later = []

/-- A save failed. -/
def PlanEvent.failed : PlanEvent → Bool
  | .checkpoint _ (.error _) => true
  | _ => false

/-- No save failed. -/
def NoFailure (history : List PlanEvent) : Prop := ∀ event ∈ history, event.failed = false

instance {history : List PlanEvent} : Decidable (NoFailure history) :=
  inferInstanceAs (Decidable (∀ event ∈ history, event.failed = false))

/-! ## Events and what they change -/

section Events

variable {history : List PlanEvent} {journal : ExecutionJournal} {action : PlannedMutation}
variable {record : JournalRecord} {index : Nat} {event : PlanEvent}
variable {call : ExecutorCall}

theorem callsOf_concat :
    callsOf (history ++ [event]) action
      = callsOf history action ++ (event.callOf action).toList := by
  unfold callsOf
  cases h : event.callOf action with
  | none => simp [h]
  | some call => simp [h]

theorem callsOf_concat_of_none (h : event.callOf action = none) :
    callsOf (history ++ [event]) action = callsOf history action := by
  rw [callsOf_concat, h, Option.toList_none, append_nil]

theorem ExecutorCall.persisted_event : (call.event action).persisted = none := by
  cases call <;> rfl

theorem callsOf_call_self :
    callsOf (history ++ [call.event action]) action = callsOf history action ++ [call] := by
  rw [callsOf_concat]
  cases call <;> simp [ExecutorCall.event, PlanEvent.callOf]

theorem callsOf_call_other {other : PlannedMutation} (h : action ≠ other) :
    callsOf (history ++ [call.event action]) other = callsOf history other := by
  refine callsOf_concat_of_none ?_
  cases call <;> exact if_neg h

theorem lastPersisted_concat :
    lastPersisted (history ++ [event]) = event.persisted.or (lastPersisted history) := by
  unfold lastPersisted
  rw [reverse_append, reverse_singleton, singleton_append, findSome?_cons]
  cases event.persisted <;> rfl

theorem NoFailure.concat (h : NoFailure history) (hev : event.failed = false) :
    NoFailure (history ++ [event]) :=
  forall_mem_append.mpr ⟨h, forall_mem_singleton.mpr hev⟩

theorem NoFailure.stopped (h : NoFailure history) {earlier later : List PlanEvent}
    {failure : JournalCheckpointFailure}
    (heq : history ++ [event] = earlier ++ .checkpoint journal (.error failure) :: later) :
    later = [] := by
  obtain ⟨-, -, hl⟩ | ⟨rest, hh, -⟩ := KeyedList.concat_eq_append_cons.mp heq
  · exact hl
  · have hf := h (.checkpoint journal (.error failure))
      (hh ▸ mem_append_right _ mem_cons_self)
    cases hf

theorem Truthful.congr {history' : List PlanEvent} (h : Truthful history journal)
    (hc : ∀ {index : Nat} {record : JournalRecord}, journal.records[index]? = some record →
      record.Shows (callsOf history record.action)
        → record.Shows (callsOf history' record.action)) :
    Truthful history' journal :=
  ⟨fun hrec => hc hrec (h.shows hrec), h.doubt⟩

/-! ## Writing to a record -/

/-- **One record was written**, and its mutation was kept. -/
structure Writes (journal journal' : ExecutionJournal) (index : Nat)
    (record record' : JournalRecord) : Prop where
  before : journal.records[index]? = some record
  after : journal'.records[index]? = some record'
  others : ∀ k, k ≠ index → journal'.records[k]? = journal.records[k]?
  action : record'.action = record.action

section

variable (h : journal.records[index]? = some record)
include h

theorem writes_modify {f : JournalRecord → JournalRecord}
    (ha : (f record).action = record.action) :
    Writes journal (journal.modify index f) index record (f record) := by
  refine ⟨h, ?_, fun k hk => ?_, ha⟩
  · show (journal.records.modify index f)[index]? = _
    rw [getElem?_modify_eq, h]
    rfl
  · show (journal.records.modify index f)[k]? = _
    rw [getElem?_modify_ne f _ hk.symm]

theorem writes_note {outcome : ActionOutcome} {message : Option String} :
    Writes journal (journal.note index outcome message) index record
      { record with outcome, message } :=
  writes_modify h rfl

theorem writes_mark {outcome : ActionOutcome} :
    Writes journal (journal.mark index outcome) index record { record with outcome } :=
  writes_modify h rfl

end

namespace Writes

variable {journal' journal'' : ExecutionJournal} {record' record'' : JournalRecord}

section

variable (h : Writes journal journal' index record record')
include h

theorem trans (h' : Writes journal' journal'' index record' record'') :
    Writes journal journal'' index record record'' :=
  ⟨h.before, h'.after, fun k hk => (h'.others k hk).trans (h.others k hk), h'.action.trans h.action⟩

theorem stopAfter {k : Nat} : Writes journal (journal'.stopAfter k) index record record' :=
  ⟨h.before, h.after, h.others, h.action⟩

theorem map_action : journal'.records.map (·.action) = journal.records.map (·.action) := by
  refine ext_getElem? fun k => ?_
  rw [getElem?_map, getElem?_map]
  by_cases hk : k = index
  · rw [hk, h.before, h.after]
    exact congrArg some h.action
  · rw [h.others k hk]

theorem distinct (hd : (journal.records.map (·.action)).Nodup) :
    (journal'.records.map (·.action)).Nodup := by
  rwa [h.map_action]

theorem only
    (hs : ∀ {k : Nat} {r : JournalRecord}, journal.records[k]? = some r → r.inDoubt = true
      → k = index)
    {k : Nat} {r : JournalRecord} (hr : journal'.records[k]? = some r) (hd : r.inDoubt = true) :
    k = index := by
  by_contra hk
  exact hk (hs ((h.others k hk).symm.trans hr) hd)

/-- **A journal stays truthful** when the record that was written says what
happened. -/
theorem truthful (ht : Truthful history journal)
    (hs : ∀ {k : Nat} {r : JournalRecord}, journal.records[k]? = some r → r.inDoubt = true
      → k = index)
    (hsh : record'.Shows (callsOf history record.action)) : Truthful history journal' := by
  refine ⟨fun {k r} hr => ?_, fun hr hr' hd hd' => ?_⟩
  · by_cases hk : k = index
    · subst hk
      obtain rfl := Option.some.inj (h.after.symm.trans hr)
      rwa [h.action]
    · exact ht.shows ((h.others k hk).symm.trans hr)
  · exact (h.only hs hr hd).trans (h.only hs hr' hd').symm

end

end Writes

end Events

/-! ## One boundary -/

section Boundaries

variable {σ τ : Type} {ex : MutationExecutor σ} {checkpoint : JournalCheckpoint τ}
variable {history : List PlanEvent} {journal : ExecutionJournal} {action : PlannedMutation}
variable {record : JournalRecord} {index : Nat}
variable {w : PlanWorld σ τ} {last : Option ExecutionJournal}
variable {done : List (Nat × ActionReceipt)} {rest : List Nat}

/-- **Between two calls**: this journal is persisted, it is truthful, and no
checkpoint failed. -/
structure Persisted (history : List PlanEvent) (journal : ExecutionJournal) : Prop where
  last : lastPersisted history = some journal
  truthful : Truthful history journal
  noFailure : NoFailure history
  distinct : (journal.records.map (·.action)).Nodup

theorem NoFailure.stopped_of_mem (h : NoFailure history) {earlier later : List PlanEvent}
    {failure : JournalCheckpointFailure}
    (heq : history = earlier ++ .checkpoint journal (.error failure) :: later) :
    later = [] := by
  have hf := h (.checkpoint journal (.error failure)) (heq ▸ mem_append_right _ mem_cons_self)
  cases hf

theorem Persisted.recorded (h : Persisted history journal) : Recorded history where
  truthful hl := by
    obtain rfl := Option.some.inj (h.last.symm.trans hl)
    exact h.truthful
  untouched hl := by
    rw [h.last] at hl
    cases hl
  stopped := h.noFailure.stopped_of_mem

theorem Persisted.index_eq (h : Persisted history journal) {i j : Nat} {r r' : JournalRecord}
    (hr : journal.records[i]? = some r) (hr' : journal.records[j]? = some r')
    (ha : r.action = r'.action) : i = j := by
  obtain ⟨hi, -⟩ := List.getElem?_eq_some_iff.mp hr
  refine (List.getElem?_inj (l := journal.records.map (·.action))
    (by rwa [List.length_map]) h.distinct).mp ?_
  rw [List.getElem?_map, List.getElem?_map, hr, hr']
  exact congrArg some ha

/-- **A checkpoint.** A truthful journal may be persisted, and when that fails,
the one before it still is. -/
theorem wp_persistCheckpoint
    {phase : JournalCheckpointPhase} {target : Option Nat} (hr : Recorded w.history)
    (hno : NoFailure w.history) (htr : Truthful w.history journal)
    (hd : (journal.records.map (·.action)).Nodup) :
    Tx.Wp (persistCheckpoint journal last phase target : PlanTx ex checkpoint _ _)
      (fun _ t => Persisted t.history journal
        ∧ ∀ action, callsOf t.history action = callsOf w.history action)
      (fun _ t => Recorded t.history) (fun t => Recorded t.history) w := by
  have hc (result : Except JournalCheckpointFailure Unit) (action : PlannedMutation) :
      callsOf (w.history ++ [.checkpoint journal result]) action = callsOf w.history action :=
    callsOf_concat_of_none rfl
  have ht (result : Except JournalCheckpointFailure Unit) {j : ExecutionJournal}
      (h : Truthful w.history j) : Truthful (w.history ++ [.checkpoint journal result]) j :=
    h.congr fun _ hs => by rwa [hc]
  refine wp_read_bind ?_
  cases hres : (checkpoint.checkpoint w.checkpoint journal).1 with
  | ok u =>
    have hp : Persisted (w.history ++ [.checkpoint journal (.ok u)]) journal :=
      ⟨lastPersisted_concat, ht _ htr, hno.concat rfl, hd⟩
    refine wp_bind (wp_perform hr hp.recorded ?_)
    exact wp_pure hp.recorded ⟨hp, hc _⟩
  | error failure =>
    have hf : Recorded (w.history ++ [.checkpoint journal (.error failure)]) := by
      refine ⟨fun hl => ?_, fun hl action => ?_, hno.stopped⟩
      · rw [lastPersisted_concat] at hl
        exact ht _ (hr.truthful hl)
      · rw [lastPersisted_concat] at hl
        rw [hc]
        exact hr.untouched hl action
    refine wp_bind (wp_perform hr hf ?_)
    exact wp_check hf (fun _ h => by cases h) (fun _ _ => hf)

/-- **A call of the executor** about a record that leaves room for it. -/
theorem Persisted.call {call : ExecutorCall} (h : Persisted history journal)
    (hrec : journal.records[index]? = some record)
    (hs : record.Shows (callsOf history record.action ++ [call])) :
    Persisted (history ++ [call.event record.action]) journal := by
  refine ⟨?_, h.truthful.congr fun {k r} hr ho => ?_, h.noFailure.concat ?_, h.distinct⟩
  · rw [lastPersisted_concat, ExecutorCall.persisted_event]
    exact h.last
  · by_cases ha : r.action = record.action
    · obtain rfl := h.index_eq hr hrec ha
      obtain rfl := Option.some.inj (hr.symm.trans hrec)
      rwa [callsOf_call_self]
    · rwa [callsOf_call_other (Ne.symm ha)]
  · cases call <;> rfl

/-- The executor was called, once, for the action. -/
structure Called (history history' : List PlanEvent) (journal : ExecutionJournal)
    (action : PlannedMutation) (call : ExecutorCall) : Prop where
  persisted : Persisted history' journal
  own : callsOf history' action = callsOf history action ++ [call]
  others : ∀ other, action ≠ other → callsOf history' other = callsOf history other

theorem Persisted.called (call : ExecutorCall) (h : Persisted history journal)
    (hrec : journal.records[index]? = some record)
    (hs : record.Shows (callsOf history record.action ++ [call])) :
    Called history (history ++ [call.event record.action]) journal record.action call :=
  ⟨h.call hrec hs, callsOf_call_self, fun _ hne => callsOf_call_other hne⟩

section

variable {R : DurableExecutionError → PlanWorld σ τ → Prop} (h : Persisted w.history journal)
    (hrec : journal.records[index]? = some record)
include h hrec

theorem wp_askExecute (ho : record.outcome = .executing)
    (hn : callsOf w.history record.action = []) :
    Tx.Wp (askExecute record.action : PlanTx ex checkpoint _ _)
      (fun result t => Called w.history t.history journal record.action (.execute result))
      R (fun t => Recorded t.history) w := by
  refine wp_read_bind ?_
  have hc := h.called (.execute (ex.execute w.executor record.action).1) hrec
    (by
      unfold JournalRecord.Shows
      rw [ho, hn]
      exact .inr ⟨_, rfl⟩)
  refine wp_bind (wp_perform h.recorded hc.persisted.recorded ?_)
  exact wp_pure hc.persisted.recorded hc

theorem wp_askRollback {rc : ActionReceipt} (ho : record.outcome = .rollbackInProgress)
    (hd : callsOf w.history record.action = [.execute (.ok rc)]) :
    Tx.Wp (askRollback record.action rc : PlanTx ex checkpoint _ _)
      (fun result t => Called w.history t.history journal record.action (.rollback rc result))
      R (fun t => Recorded t.history) w := by
  refine wp_read_bind ?_
  have hc := h.called
    (.rollback rc (ex.rollback w.executor record.action rc).1) hrec
    (by
      unfold JournalRecord.Shows
      rw [ho, hd]
      exact ⟨rc, .inr ⟨_, rfl⟩⟩)
  refine wp_bind (wp_perform h.recorded hc.persisted.recorded ?_)
  exact wp_pure hc.persisted.recorded hc

end

/-! ## The loops -/

/-- **Between two mutations.** Nothing is in doubt, the completed mutations
have their receipts, and the rest is pending. -/
structure Progress (history : List PlanEvent) (journal : ExecutionJournal)
    (completed : List (Nat × ActionReceipt)) (rest : List Nat) : Prop where
  persisted : Persisted history journal
  settled : ∀ {k : Nat} {r : JournalRecord}, journal.records[k]? = some r → r.inDoubt = false
  done : ∀ entry ∈ completed, ∃ r, journal.records[entry.1]? = some r
    ∧ r.outcome = .completed ∧ callsOf history r.action = [.execute (.ok entry.2)]
  once : (completed.map Prod.fst).Nodup
  pending : ∀ k ∈ rest, ∃ r, journal.records[k]? = some r ∧ r.outcome = .pending
  ordered : rest.Nodup

theorem Progress.only (h : Progress history journal done rest) {k : Nat} {r : JournalRecord}
    (hr : journal.records[k]? = some r) (hd : r.inDoubt = true) : k = index := by
  rw [h.settled hr] at hd
  cases hd

/-- **The frame of one mutation.** What is written to one record and called
about its mutation does not concern the others. -/
theorem Progress.frame {history' : List PlanEvent} {journal' : ExecutionJournal}
    {record' : JournalRecord} {done' : List (Nat × ActionReceipt)}
    {rest' : List Nat} (h : Progress history journal done rest)
    (hw : Writes journal journal' index record record')
    (hp : Persisted history' journal') (hs : record'.inDoubt = false)
    (hcl : ∀ other, record.action ≠ other → callsOf history' other = callsOf history other)
    (hc : done'.Sublist done) (hrs : rest'.Sublist rest)
    (hout : index ∉ done'.map Prod.fst) (hout' : index ∉ rest') :
    Progress history' journal' done' rest' := by
  refine ⟨hp, fun {k r} hr => ?_, fun entry he => ?_,
    (hc.map Prod.fst).nodup h.once, fun k hk => ?_, hrs.nodup h.ordered⟩
  · by_cases hk : k = index
    · subst hk
      obtain rfl := Option.some.inj (hw.after.symm.trans hr)
      exact hs
    · exact h.settled ((hw.others k hk).symm.trans hr)
  · obtain ⟨r, hr, ho, hcall⟩ := h.done entry (hc.subset he)
    have hne : entry.1 ≠ index := fun heq => hout (heq ▸ mem_map_of_mem he)
    refine ⟨r, (hw.others _ hne).trans hr, ho, ?_⟩
    rw [hcl _ fun ha => hne (h.persisted.index_eq hr hw.before ha.symm)]
    exact hcall
  · obtain ⟨r, hr, ho⟩ := h.pending k (hrs.subset hk)
    have hne : k ≠ index := fun heq => hout' (heq ▸ hk)
    exact ⟨r, (hw.others k hne).trans hr, ho⟩

theorem writes_noteRollback {result : Except ActionFailure ActionReceipt} {rc : ActionReceipt}
    (hrec : journal.records[index]? = some record)
    (hcl : record.action.rollback ≠ .irreversible)
    (hc : callsOf history record.action = [.execute (.ok rc), .rollback rc result]) :
    ∃ record', Writes journal (journal.noteRollback index record.action result) index record record'
      ∧ record'.inDoubt = false ∧ record'.Shows (callsOf history record.action) := by
  rw [hc]
  cases result with
  | error failure =>
    exact ⟨_, writes_note hrec, rfl, rc, failure, rfl, rfl⟩
  | ok undone =>
    refine ⟨_, writes_note hrec, ?_, ?_⟩
    · cases record.action.rollback <;> rfl
    · cases hr : record.action.rollback with
      | reversible | compensating => exact ⟨rc, undone, rfl, hr, rfl⟩
      | irreversible => exact absurd hr hcl

/-- **Taking back is recorded.** -/
theorem wp_rollbackCompletedDurably (h : Progress w.history journal done []) :
    Tx.Wp (rollbackCompletedDurably journal last done : PlanTx ex checkpoint _ _)
      (fun _ t => Recorded t.history) (fun _ t => Recorded t.history)
      (fun t => Recorded t.history) w := by
  induction done generalizing w journal last with
  | nil => exact wp_pure h.persisted.recorded h.persisted.recorded
  | cons entry done ih =>
    obtain ⟨index, rc⟩ := entry
    obtain ⟨record, hrec, -, hd⟩ := h.done _ mem_cons_self
    have hout : index ∉ done.map Prod.fst := (nodup_cons.mp h.once).1
    unfold rollbackCompletedDurably
    rw [hrec]
    dsimp only
    split
    · exact ih ⟨h.persisted, h.settled, fun e he => h.done e (mem_cons_of_mem _ he),
        (nodup_cons.mp h.once).2, h.pending, h.ordered⟩
    rename_i hcs
    -- the mutation is noted as being rolled back
    have hm : Writes journal (journal.mark index .rollbackInProgress) index record _ :=
      writes_mark hrec
    refine wp_bind ((wp_persistCheckpoint h.persisted.recorded h.persisted.noFailure
      (hm.truthful h.persisted.truthful h.only ⟨rc, .inl hd⟩)
      (hm.distinct h.persisted.distinct)).mono ?_ fun _ _ => id)
    rintro last' t ⟨hmar, hcl⟩
    -- it is rolled back
    refine wp_bind ((wp_askRollback hmar hm.after rfl ((hcl _).trans hd)).mono ?_
      fun _ _ => id)
    intro result u hc
    have hund : callsOf u.history record.action
        = [.execute (.ok rc), .rollback rc result] := by
      rw [hc.own, hcl, hd]
      rfl
    -- and what came of it is noted
    obtain ⟨record', hn, hst, hs⟩ := writes_noteRollback hm.after hcs hund
    refine wp_bind ((wp_persistCheckpoint hc.persisted.recorded
      hc.persisted.noFailure
      (hn.truthful hc.persisted.truthful (hm.only h.only) hs)
      (hn.distinct hc.persisted.distinct)).mono ?_ fun _ _ => id)
    rintro last'' v ⟨hnt, hcl'⟩
    refine ih (h.frame (hm.trans hn) hnt hst (fun other hne => ?_)
      (sublist_cons_self _ _) (List.Sublist.refl _) hout not_mem_nil)
    rw [hcl', hc.others other hne, hcl]

theorem Progress.not_completed (h : Progress history journal done rest) (hi : index ∈ rest) :
    index ∉ done.map Prod.fst := by
  intro hm
  obtain ⟨entry, he, rfl⟩ := mem_map.mp hm
  obtain ⟨r, hr, hc, -⟩ := h.done entry he
  obtain ⟨r', hr', hp⟩ := h.pending entry.1 hi
  obtain rfl := Option.some.inj (hr.symm.trans hr')
  rw [hc] at hp
  cases hp

/-- **Carrying out is recorded.** -/
theorem wp_executeFromDurably (h : Progress w.history journal done rest) :
    Tx.Wp (executeFromDurably journal last done rest : PlanTx ex checkpoint _ _)
      (fun _ t => Recorded t.history) (fun _ t => Recorded t.history)
      (fun t => Recorded t.history) w := by
  induction rest generalizing w journal last done with
  | nil => exact wp_pure h.persisted.recorded h.persisted.recorded
  | cons index rest ih =>
    obtain ⟨record, hrec, hp⟩ := h.pending _ mem_cons_self
    have hout : index ∉ done.map Prod.fst := h.not_completed mem_cons_self
    have hout' : index ∉ rest := (nodup_cons.mp h.ordered).1
    have hn : callsOf w.history record.action = [] := by
      have hsh := h.persisted.truthful.shows hrec
      unfold JournalRecord.Shows at hsh
      rwa [hp] at hsh
    unfold executeFromDurably
    rw [hrec]
    -- the mutation is noted as executing
    have hs : Writes journal (journal.note index .executing none) index record _ :=
      writes_note hrec
    refine wp_bind ((wp_persistCheckpoint h.persisted.recorded h.persisted.noFailure
      (hs.truthful h.persisted.truthful h.only (.inl hn))
      (hs.distinct h.persisted.distinct)).mono ?_ fun _ _ => id)
    rintro last' t ⟨hst, hcl⟩
    -- it is carried out
    refine wp_bind ((wp_askExecute hst hs.after rfl ((hcl _).trans hn)).mono ?_
      fun _ _ => id)
    intro result u hc
    have hd : callsOf u.history record.action = [.execute result] := by
      rw [hc.own, hcl, hn]
      rfl
    have ho (v : PlanWorld σ τ)
        (hsm : ∀ action, callsOf v.history action = callsOf u.history action)
        (other : PlannedMutation) (hne : record.action ≠ other) :
        callsOf v.history other = callsOf w.history other := by
      rw [hsm, hc.others other hne, hcl]
    -- and what came of it is noted
    cases result with
    | ok rc =>
      have hfin : Writes (journal.note index .executing none)
          ((journal.note index .executing none).note index .completed
            (some rc.publicSummary)) index _ _ := writes_note hs.after
      refine wp_bind ((wp_persistCheckpoint hc.persisted.recorded
        hc.persisted.noFailure (hfin.truthful hc.persisted.truthful
          (hs.only h.only) ⟨rc, hd, rfl⟩)
        (hfin.distinct hc.persisted.distinct)).mono ?_ fun _ _ => id)
      rintro last'' v ⟨hfn, hcl'⟩
      have hf := h.frame (hs.trans hfin) hfn rfl (ho v hcl')
        (List.Sublist.refl _) (sublist_cons_self _ _) hout hout'
      refine ih ⟨hf.persisted, hf.settled, ?_, nodup_cons.mpr ⟨hout, hf.once⟩,
        hf.pending, hf.ordered⟩
      exact forall_mem_cons.mpr ⟨⟨_, hfin.after, rfl, (hcl' _).trans hd⟩, hf.done⟩
    | error failure =>
      have hfl : Writes (journal.note index .executing none)
          (((journal.note index .executing none).note index .failed
            (some failure.text)).stopAfter index) index _ _ := (writes_note hs.after).stopAfter
      refine wp_bind ((wp_persistCheckpoint hc.persisted.recorded
        hc.persisted.noFailure (hfl.truthful hc.persisted.truthful
          (hs.only h.only) ⟨failure, hd, rfl⟩)
        (hfl.distinct hc.persisted.distinct)).mono ?_ fun _ _ => id)
      rintro last'' v ⟨hfd, hcl'⟩
      exact wp_rollbackCompletedDurably (h.frame (hs.trans hfl) hfd rfl
        (ho v hcl') (List.Sublist.refl _) (nil_sublist _) hout not_mem_nil)

/-- **A durable execution is recorded.** -/
theorem wp_executePlanDurably (debug : String → String)
    (actions : List PlannedMutation) (allow : Bool) (hs : w.history = []) :
    Tx.Wp (executePlanDurably debug actions allow : PlanTx ex checkpoint _ _)
      (fun _ t => Recorded t.history) (fun _ t => Recorded t.history)
      (fun t => Recorded t.history) w := by
  have hno : NoFailure w.history := by
    rw [hs]
    exact forall_mem_nil _
  have hunt (action : PlannedMutation) : callsOf w.history action = [] := by
    rw [hs]
    rfl
  have hrc : Recorded w.history := by
    refine ⟨fun hl => ?_, fun _ => hunt, hno.stopped_of_mem⟩
    rw [hs] at hl
    cases hl
  refine wp_bind (wp_check hrc (fun _ hval => ?_) (fun _ _ => hrc))
  have hids := nodup_of_validatePlan (mapError_eq_ok.mp hval)
  have hds : ((pendingJournal actions).records.map (·.action)).Nodup := by
    show ((actions.map _).map _).Nodup
    rw [map_map]
    exact (map_id actions).symm ▸ List.Nodup.of_map _ hids
  have hpn {k : Nat} {r : JournalRecord} (hr : (pendingJournal actions).records[k]? = some r) :
      r.outcome = .pending := by
    obtain ⟨action, -, rfl⟩ := mem_map.mp (mem_of_getElem? hr)
    rfl
  have hst {k : Nat} {r : JournalRecord} (hr : (pendingJournal actions).records[k]? = some r) :
      r.inDoubt = false := by
    unfold JournalRecord.inDoubt
    rw [hpn hr]
    rfl
  have ht : Truthful w.history (pendingJournal actions) := by
    refine ⟨fun hr => ?_, fun hr _ hd _ => ?_⟩
    · unfold JournalRecord.Shows
      rw [hpn hr]
      exact hunt _
    · rw [hst hr] at hd
      cases hd
  dsimp only
  cases hfst : firstUnconfirmedIrreversible (pendingJournal actions) allow with
  | some index =>
    have hi : index < (pendingJournal actions).records.length := by
      unfold firstUnconfirmedIrreversible at hfst
      split at hfst
      · cases hfst
      · exact (findIdx?_eq_some_iff_getElem.mp hfst).1
    have hsk : Writes (pendingJournal actions) ((pendingJournal actions).skip index) index _ _ :=
      (writes_note (getElem?_eq_getElem hi)).stopAfter
    refine wp_bind ((wp_persistCheckpoint hrc hno (hsk.truthful ht
      (fun hr hd => ?_) (hunt _)) (hsk.distinct hds)).mono ?_ fun _ _ => id)
    · rw [hst hr] at hd
      cases hd
    · rintro _ t ⟨hp, -⟩
      exact wp_pure hp.recorded hp.recorded
  | none =>
    refine wp_bind ((wp_persistCheckpoint hrc hno ht hds).mono ?_ fun _ _ => id)
    rintro last t ⟨hp, -⟩
    refine wp_executeFromDurably ⟨hp, hst, forall_mem_nil _,
      nodup_nil, fun k hk => ?_, nodup_range⟩
    have hrec := getElem?_eq_getElem (mem_range.mp hk)
    exact ⟨_, hrec, hpn hrec⟩

end Boundaries

/-! ## The same calls as in memory -/

section Agreement

variable {σ τ ε : Type} {ex : MutationExecutor σ} {checkpoint : JournalCheckpoint τ}
variable {journal : ExecutionJournal} {index : Nat}
variable {w v : PlanWorld σ τ} {last : Option ExecutionJournal}
variable {phase : JournalCheckpointPhase} {target : Option Nat} {outcome : ActionOutcome}

/-- The executor was called. -/
def PlanEvent.isCall : PlanEvent → Bool
  | .execute _ _ | .rollback _ _ _ => true
  | .checkpoint _ _ => false

/-- **A durable execution agrees with one in memory**: when no checkpoint
fails, both come to the same journal, after the same calls. -/
def Agrees (x : PlanTx ex checkpoint DurableExecutionError ExecutionJournal)
    (y : PlanTx ex checkpoint ε ExecutionJournal) (w v : PlanWorld σ τ) : Prop :=
  NoFailure (x.run w).1 → ∃ journal, (x.run w).2 = .ok journal
    ∧ y.run v = ((x.run w).1.filter PlanEvent.isCall, .ok journal)

theorem agrees_pure :
    Agrees (pure journal : PlanTx ex checkpoint _ _)
      (pure journal : PlanTx ex checkpoint ε _) w v :=
  fun _ => ⟨journal, rfl, rfl⟩

theorem run_persistCheckpoint_of_ok (h : (checkpoint.checkpoint w.checkpoint journal).1 = .ok ()) :
    (persistCheckpoint journal last phase target : PlanTx ex checkpoint _ _).run w
      = ([.checkpoint journal (.ok ())], .ok (some journal)) := by
  unfold persistCheckpoint
  rw [run_read_bind, h]
  rfl

theorem run_persistCheckpoint_of_error {failure : JournalCheckpointFailure}
    (h : (checkpoint.checkpoint w.checkpoint journal).1 = .error failure) :
    ∃ e, (persistCheckpoint journal last phase target : PlanTx ex checkpoint _ _).run w
      = ([.checkpoint journal (.error failure)], .error e) := by
  unfold persistCheckpoint
  rw [run_read_bind, h]
  exact ⟨_, rfl⟩

theorem agrees_persistCheckpoint
    {f : Option ExecutionJournal → PlanTx ex checkpoint DurableExecutionError ExecutionJournal}
    {y : PlanTx ex checkpoint ε ExecutionJournal}
    (h : Agrees (f (some journal)) y
      (w.apply ex checkpoint (.checkpoint journal (.ok ()))) v) :
    Agrees (persistCheckpoint journal last phase target >>= f) y w v := by
  intro hno
  cases hr : (checkpoint.checkpoint w.checkpoint journal).1 with
  | error failure =>
    obtain ⟨e, hrun⟩ := run_persistCheckpoint_of_error hr
    rw [run_bind_of_error hrun] at hno
    cases hno _ mem_cons_self
  | ok u =>
    rw [run_bind_of_ok (run_persistCheckpoint_of_ok hr)] at hno ⊢
    exact h fun event hm => hno event (mem_cons_of_mem _ hm)

theorem agrees_call {α : Type} {event : PlanEvent} {a : α}
    {x : PlanTx ex checkpoint DurableExecutionError α} {y : PlanTx ex checkpoint ε α}
    {f : α → PlanTx ex checkpoint DurableExecutionError ExecutionJournal}
    {g : α → PlanTx ex checkpoint ε ExecutionJournal}
    (hx : x.run w = ([event], .ok a)) (hy : y.run v = ([event], .ok a))
    (hcl : event.isCall = true)
    (h : Agrees (f a) (g a) (w.apply ex checkpoint event)
      (v.apply ex checkpoint event)) :
    Agrees (x >>= f) (y >>= g) w v := by
  intro hno
  rw [run_bind_of_ok hx] at hno ⊢
  obtain ⟨journal, hok, hc⟩ := h fun e hm => hno e (mem_append_right _ hm)
  refine ⟨journal, hok, ?_⟩
  rw [run_then hy rfl hc, singleton_append, singleton_append, filter_cons_of_pos hcl]
  rfl

theorem note_note {outcome' : ActionOutcome} {message message' : Option String} :
    (journal.note index outcome message).note index outcome' message'
      = journal.note index outcome' message' := by
  unfold ExecutionJournal.note ExecutionJournal.modify
  rw [modify_modify_eq]
  rfl

theorem note_mark {outcome' : ActionOutcome} {message : Option String} :
    (journal.mark index outcome).note index outcome' message
      = journal.note index outcome' message := by
  unfold ExecutionJournal.note ExecutionJournal.mark ExecutionJournal.modify
  rw [modify_modify_eq]
  rfl

theorem noteRollback_mark {action : PlannedMutation} {result : Except ActionFailure ActionReceipt} :
    (journal.mark index outcome).noteRollback index action result
      = journal.noteRollback index action result := by
  cases result <;> exact note_mark

theorem run_askExecute (action : PlannedMutation) (w : PlanWorld σ τ) :
    (askExecute action : PlanTx ex checkpoint ε _).run w
      = ([.execute action (ex.execute w.executor action).1],
        .ok (ex.execute w.executor action).1) := rfl

theorem run_askRollback (action : PlannedMutation) (rc : ActionReceipt) (w : PlanWorld σ τ) :
    (askRollback action rc : PlanTx ex checkpoint ε _).run w
      = ([.rollback action rc (ex.rollback w.executor action rc).1],
        .ok (ex.rollback w.executor action rc).1) := rfl

variable {done : List (Nat × ActionReceipt)}

theorem agrees_rollbackCompleted (hst : w.executor = v.executor) :
    Agrees (rollbackCompletedDurably journal last done :
        PlanTx ex checkpoint _ _)
      (rollbackCompleted journal done : PlanTx ex checkpoint ε _) w v := by
  induction done generalizing journal last w v with
  | nil => exact agrees_pure
  | cons entry done ih =>
    obtain ⟨index, rc⟩ := entry
    unfold rollbackCompletedDurably rollbackCompleted
    cases journal.records[index]? with
    | none => exact agrees_pure
    | some record =>
      dsimp only
      by_cases hc : record.action.rollback = .irreversible
      · rw [if_pos hc, if_pos hc]
        exact ih hst
      · rw [if_neg hc, if_neg hc]
        refine agrees_persistCheckpoint (agrees_call (run_askRollback record.action rc _)
          ((run_askRollback record.action rc v).trans ?_) rfl (agrees_persistCheckpoint ?_))
        · rw [← hst]
          rfl
        · rw [noteRollback_mark]
          exact ih (congrArg (fun s => (ex.rollback s record.action rc).2) hst)

theorem agrees_executeFrom {rest : List Nat} (hst : w.executor = v.executor) :
    Agrees (executeFromDurably journal last done rest : PlanTx ex checkpoint _ _)
      (executeFrom journal done rest : PlanTx ex checkpoint ε _) w v := by
  induction rest generalizing journal last done w v with
  | nil => exact agrees_pure
  | cons index rest ih =>
    unfold executeFromDurably executeFrom
    cases journal.records[index]? with
    | none => exact agrees_pure
    | some record =>
      refine agrees_persistCheckpoint (agrees_call (run_askExecute record.action _)
        ((run_askExecute record.action v).trans ?_) rfl ?_)
      · rw [← hst]
        rfl
      generalize (ex.execute _ record.action).1 = result
      cases result with
      | ok rc =>
        refine agrees_persistCheckpoint ?_
        rw [note_note]
        exact ih (congrArg (fun s => (ex.execute s record.action).2) hst)
      | error failure =>
        refine agrees_persistCheckpoint ?_
        rw [note_note]
        exact agrees_rollbackCompleted
          (congrArg (fun s => (ex.execute s record.action).2) hst)

/-- **The whole plan agrees**, unless it is refused. -/
theorem agrees_executePlan {debug : String → String} {actions : List PlannedMutation}
    {allow : Bool} (hv : validatePlan debug actions = .ok ()) :
    Agrees (executePlanDurably debug actions allow : PlanTx ex checkpoint _ _)
      (executePlan debug actions allow : PlanTx ex checkpoint _ _) w w := by
  unfold Agrees executePlanDurably executePlan
  rw [hv]
  show NoFailure (run (check (.ok ()) >>= _) w).1 → ∃ journal,
    (run (check (.ok ()) >>= _) w).2 = .ok journal
      ∧ run (check (.ok ()) >>= _) w = (filter _ (run (check (.ok ()) >>= _) w).1, _)
  rw [run_check_ok_bind, run_check_ok_bind]
  dsimp only
  cases firstUnconfirmedIrreversible (pendingJournal actions) allow with
  | some index => exact agrees_persistCheckpoint agrees_pure
  | none => exact agrees_persistCheckpoint (agrees_executeFrom rfl)

/-- **The durable execution of a plan**, from the beginning. At every moment
the last persisted journal is truthful and nothing follows a checkpoint that
failed; and when none fails, the calls and the journal are those of the
execution in memory. -/
theorem executePlanDurably_truthful (debug : String → String) (actions : List PlannedMutation)
    (allow : Bool) (s : σ) (t : τ) :
    (∀ w, Tx.Crash (executePlanDurably debug actions allow :
        PlanTx ex checkpoint _ _) ⟨s, t, []⟩ w → Recorded w.history)
      ∧ ∀ events result, (executePlanDurably debug actions allow :
          PlanTx ex checkpoint _ _).run ⟨s, t, []⟩ = (events, result) →
        NoFailure events →
        ∃ result', (executePlan debug actions allow :
            PlanTx ex checkpoint _ _).run ⟨s, t, []⟩
              = (events.filter PlanEvent.isCall, result')
          ∧ result = result'.mapError .plan := by
  refine ⟨(wp_executePlanDurably debug actions allow rfl).1, ?_⟩
  rintro events result hrun hno
  cases hval : validatePlan debug actions with
  | error problems =>
    unfold executePlanDurably at hrun
    unfold executePlan
    rw [hval] at hrun ⊢
    obtain ⟨rfl, rfl⟩ := Prod.mk.inj hrun
    exact ⟨_, rfl, rfl⟩
  | ok u =>
    have hagr : Agrees (executePlanDurably debug actions allow :
        PlanTx ex checkpoint _ _) (executePlan debug actions allow)
        ⟨s, t, []⟩ ⟨s, t, []⟩ := agrees_executePlan hval
    unfold Agrees at hagr
    rw [hrun] at hagr
    obtain ⟨journal, hok, hp⟩ := hagr hno
    exact ⟨.ok journal, hp, hok⟩

/-- Two actions. -/
def samplePlan : List PlannedMutation :=
  [⟨"one", .root, "perform one", .reversible, ["observed one"]⟩,
    ⟨"two", .root, "perform two", .compensating, ["observed two"]⟩]

/-- An executor that fails at the second. -/
def sampleExecutor : MutationExecutor Unit where
  execute _ action :=
    (if action.id = "two" then .error ⟨"execute_failed", "bounded failure"⟩
      else .ok ⟨"completed"⟩, ())
  rollback _ _ _ := (.ok ⟨"reverted"⟩, ())

/-- Saves that never fail. -/
def sampleCheckpoint : JournalCheckpoint Unit where
  checkpoint _ _ := (.ok (), ())

/-- What is left of that plan. -/
def sampleJournal : ExecutionJournal where
  schemaVersion := journalSchemaVersion
  records := [⟨⟨"one", .root, "perform one", .reversible, ["observed one"]⟩, .rolledBack,
      some "reverted"⟩,
    ⟨⟨"two", .root, "perform two", .compensating, ["observed two"]⟩, .failed,
      some "execute_failed: bounded failure"⟩]
  stoppedAfter := some "two"

/-- The carrying out of that plan. -/
def sampleRun : List PlanEvent × Except DurableExecutionError ExecutionJournal :=
  (executePlanDurably id samplePlan false :
    PlanTx sampleExecutor sampleCheckpoint _ _).run ⟨(), (), []⟩

theorem executePlanDurably_truthful_samplePlan :
    NoFailure sampleRun.1 ∧ (executePlan id samplePlan false :
        PlanTx sampleExecutor sampleCheckpoint _ _).run ⟨(), (), []⟩
          = (sampleRun.1.filter PlanEvent.isCall, .ok sampleJournal) := by
  have hno : NoFailure sampleRun.1 := by decide
  obtain ⟨result, hrun, hr⟩ := (@executePlanDurably_truthful _ _ sampleExecutor
    sampleCheckpoint id samplePlan false () ()).2 sampleRun.1 sampleRun.2 rfl hno
  refine ⟨hno, ?_⟩
  cases result with
  | error e => cases hr
  | ok journal =>
    obtain rfl := Except.ok.inj hr
    exact hrun

end Agreement

end Glaeda
