import Glaeda.KeyedList
import Glaeda.ProjectDiskAttachment

/-!
# The transactions of a disk, one after the other

The record of a disk is kept over many transactions, and what it is told may
be old: a plan to start that was made long ago, evidence about an earlier
transaction. Here the record is followed through every sequence of operations,
with arbitrary plans and evidence. What it refuses does not change it.

**No attachment is started twice** (`run_neverReplayed`): the transactions are
numbered without gaps, each is started at most once, from where it was
authorised and by a plan for that very revision, and after one was started
there is no other before both the end of the old one and the detached disk are
proven.
-/

namespace Glaeda

open Checked List ProjectDiskAttachmentState

/-! ## Operations -/

/-- **An operation on the record of a disk.** -/
inductive ProjectDiskAttachmentOperation where
  | authorize (current : ProjectDiskLeaseRecord) (plan : ProjectDiskAttachPlan)
    (intent : ProjectDiskAttachmentIntent)
  | start (start : ProjectDiskAttachmentStartPlan)
  | requireRecovery
  | observe (proof : ProjectDiskAttachmentSuccessProof)
  | reopen (quiescent : ProjectDiskPriorAttachQuiescentProof)
    (detached : ProjectDiskAttachDetachedProof)
  | quarantine (reason : ProjectDiskAttachQuarantineReason)

/-- One operation on a record. -/
def ProjectDiskAttachmentRecord.step (record : ProjectDiskAttachmentRecord) :
    ProjectDiskAttachmentOperation →
      Except ProjectDiskAttachmentStateError ProjectDiskAttachmentRecord
  | .authorize current plan intent => record.recordAttachAuthorized current plan intent
  | .start start => record.recordAttachStarted start
  | .requireRecovery => record.requireAttachRecovery
  | .observe proof => record.recordAttachmentObserved proof
  | .reopen quiescent detached => record.recordPriorAttachQuiescentDetached quiescent detached
  | .quarantine reason => record.quarantineStartedConflict reason

/-- **An operation that was not refused**, and the record before it. -/
structure ProjectDiskAttachmentEvent where
  before : ProjectDiskAttachmentRecord
  operation : ProjectDiskAttachmentOperation

/-- A record, and how it came about. -/
structure ProjectDiskAttachmentTrace where
  events : List ProjectDiskAttachmentEvent
  record : ProjectDiskAttachmentRecord

namespace ProjectDiskAttachmentTrace

/-- The record after an operation, refused or not. -/
def attempt (trace : ProjectDiskAttachmentTrace) (operation : ProjectDiskAttachmentOperation) :
    ProjectDiskAttachmentTrace :=
  match trace.record.step operation with
  | .ok record => ⟨trace.events ++ [⟨trace.record, operation⟩], record⟩
  | .error _ => trace

/-- **A run** from the record of a formatted disk. -/
def run (authority : ProjectDiskFormattedDetachedAuthority)
    (operations : List ProjectDiskAttachmentOperation) : ProjectDiskAttachmentTrace :=
  operations.foldl attempt ⟨[], .fromFormattedDetached authority⟩

end ProjectDiskAttachmentTrace

/-! ## What is to be shown -/

/-- The transaction an event allows. -/
def ProjectDiskAttachmentEvent.authorizes (event : ProjectDiskAttachmentEvent) :
    Option ProjectDiskAttachTransaction :=
  match event.operation with
  | .authorize current plan intent =>
    some ⟨intent.transactionGeneration, current.revision, plan.attachment⟩
  | _ => none

/-- The start an event makes. -/
def ProjectDiskAttachmentEvent.starts (event : ProjectDiskAttachmentEvent) :
    Option ProjectDiskAttachmentStartPlan :=
  match event.operation with
  | .start start => some start
  | _ => none

/-- **The end of a transaction is proven**, and that the disk is detached: both
for this transaction and its attachment. -/
def ProjectDiskAttachmentEvent.Reopens (event : ProjectDiskAttachmentEvent)
    (start : ProjectDiskAttachmentStartPlan) : Prop :=
  ∃ quiescent detached, event.operation = .reopen quiescent detached
    ∧ quiescent.transactionGeneration = start.transactionGeneration
    ∧ quiescent.attachment = start.attachment
    ∧ detached.transactionGeneration = start.transactionGeneration
    ∧ detached.attachment = start.attachment

/-- **A receipt carries what was authorised.** -/
structure ProjectDiskAttachmentReceipt.Carries (receipt : ProjectDiskAttachmentReceipt)
    (transaction : ProjectDiskAttachTransaction) : Prop where
  transactionGeneration : receipt.transactionGeneration = transaction.transactionGeneration
  diskRevision : receipt.diskRevision = transaction.expectedDiskRevision
  attachmentGeneration : receipt.attachmentGeneration = transaction.attachment.generation
  sandboxId : receipt.sandboxId = transaction.attachment.sandboxId
  sandboxGeneration : receipt.sandboxGeneration = transaction.attachment.sandboxGeneration

/-- **No attachment is replayed.** -/
structure ProjectDiskAttachmentTrace.NeverReplayed (trace : ProjectDiskAttachmentTrace) : Prop where
  numbered : (trace.events.filterMap (·.authorizes)).map (·.transactionGeneration.val)
    = List.range' 1 (trace.events.filterMap (·.authorizes)).length
  once : ((trace.events.filterMap (·.starts)).map (·.transactionGeneration)).Nodup
  own : ∀ event ∈ trace.events, ∀ start, event.starts = some start →
    start.attachmentRecordRevision = event.before.revision ∧ ∃ transaction,
      event.before.state = .attachAuthorized transaction
        ∧ start.transactionGeneration = transaction.transactionGeneration
        ∧ start.attachment = transaction.attachment
  reopened : ∀ earlier first between second later start transaction,
    trace.events = earlier ++ first :: (between ++ second :: later) →
      first.starts = some start → second.authorizes = some transaction →
        ∃ event ∈ between, event.Reopens start
  receipts : ∀ receipt, trace.record.state = .attachmentObserved receipt →
    ∃ event ∈ trace.events, ∃ transaction, event.authorizes = some transaction
      ∧ receipt.Carries transaction

/-- Nothing more happens. -/
def ProjectDiskAttachmentState.Final : ProjectDiskAttachmentState → Prop
  | .attachmentObserved _ | .quarantined _ _ => True
  | _ => False

/-! ## One operation -/

variable {transaction : ProjectDiskAttachTransaction} {state : ProjectDiskAttachmentState}

namespace ProjectDiskAttachmentRecord

variable {r : ProjectDiskAttachmentRecord}

/-- The number of the last transaction. -/
def lastNumber (record : ProjectDiskAttachmentRecord) : Nat :=
  record.lastTransactionGeneration.elim 0 PositiveU64.val

/-- **What an operation does** when it is not refused. -/
inductive Transition (record next : ProjectDiskAttachmentRecord) :
    ProjectDiskAttachmentOperation → Prop where
  | authorize {current : ProjectDiskLeaseRecord} {plan : ProjectDiskAttachPlan}
    {intent : ProjectDiskAttachmentIntent} (hst : record.state = .formattedDetached)
    (hnext : next.state = .attachAuthorized
      ⟨intent.transactionGeneration, current.revision, plan.attachment⟩)
    (hnum : intent.transactionGeneration.val = record.lastNumber + 1)
    (hlast : next.lastTransactionGeneration = some intent.transactionGeneration) :
    Transition record next (.authorize current plan intent)
  | start {start : ProjectDiskAttachmentStartPlan} {transaction : ProjectDiskAttachTransaction}
    (hst : record.state = .attachAuthorized transaction)
    (hrev : start.attachmentRecordRevision = record.revision)
    (hgen : start.transactionGeneration = transaction.transactionGeneration)
    (hatch : start.attachment = transaction.attachment)
    (hnext : next.state = .attachStarted transaction)
    (hlast : next.lastTransactionGeneration = record.lastTransactionGeneration) :
    Transition record next (.start start)
  | requireRecovery {transaction : ProjectDiskAttachTransaction}
    (hst : record.state = .attachStarted transaction)
    (hnext : next.state = .attachRecoveryRequired transaction)
    (hlast : next.lastTransactionGeneration = record.lastTransactionGeneration) :
    Transition record next .requireRecovery
  | observe {proof : ProjectDiskAttachmentSuccessProof}
    {transaction : ProjectDiskAttachTransaction} {receipt : ProjectDiskAttachmentReceipt}
    (hst : Started record.state transaction) (hnext : next.state = .attachmentObserved receipt)
    (hrcpt : receipt.Carries transaction)
    (hlast : next.lastTransactionGeneration = record.lastTransactionGeneration) :
    Transition record next (.observe proof)
  | reopen {quiescent : ProjectDiskPriorAttachQuiescentProof}
    {detached : ProjectDiskAttachDetachedProof} {transaction : ProjectDiskAttachTransaction}
    (hst : Started record.state transaction)
    (hquiescent : quiescent.transactionGeneration = transaction.transactionGeneration
      ∧ quiescent.attachment = transaction.attachment)
    (hdet : detached.transactionGeneration = transaction.transactionGeneration
      ∧ detached.attachment = transaction.attachment)
    (hnext : next.state = .formattedDetached)
    (hlast : next.lastTransactionGeneration = record.lastTransactionGeneration) :
    Transition record next (.reopen quiescent detached)
  | quarantine {reason : ProjectDiskAttachQuarantineReason}
    {transaction : ProjectDiskAttachTransaction} (hst : Started record.state transaction)
    (hnext : next.state = .quarantined transaction.transactionGeneration reason)
    (hlast : next.lastTransactionGeneration = record.lastTransactionGeneration) :
    Transition record next (.quarantine reason)

theorem nextTransactionGeneration_eq_ok {generation : ProjectDiskAttachTransactionGeneration}
    (h : r.nextTransactionGeneration = .ok generation) :
    generation.val = r.lastNumber + 1 := by
  unfold nextTransactionGeneration at h
  unfold lastNumber
  cases hl : r.lastTransactionGeneration with
  | none =>
    rw [hl] at h
    obtain rfl := Except.ok.inj h
    rfl
  | some last =>
    rw [hl] at h
    exact PositiveU64.next_eq_ok.mp h

variable {operation : ProjectDiskAttachmentOperation} {next : ProjectDiskAttachmentRecord}

/-- **Every step is one of these.** -/
theorem transition_of_step (h : r.step operation = .ok next) : Transition r next operation := by
  cases operation with
  | authorize current plan intent =>
    obtain ⟨hst, -, hgen, hs⟩ := recordAttachAuthorized_eq_ok h
    obtain ⟨-, hn, hl, -⟩ := SameDisk.of_successor hs
    exact .authorize hst hn (nextTransactionGeneration_eq_ok hgen) hl
  | start start =>
    obtain ⟨transaction, hst, hcon, hs⟩ := recordAttachStarted_eq_ok h
    obtain ⟨-, hn, hl, -⟩ := SameDisk.of_successor hs
    rw [ProjectDiskAttachmentStartPlan.confirm, refuseIf_eq_ok] at hcon
    simp only [not_or, not_not] at hcon
    obtain ⟨-, -, -, hrev, hgen, -, ha, -⟩ := hcon
    exact .start hst hrev hgen ha hn hl
  | requireRecovery =>
    obtain ⟨transaction, hst, hs⟩ := requireAttachRecovery_eq_ok h
    obtain ⟨-, hn, hl, -⟩ := SameDisk.of_successor hs
    exact .requireRecovery hst hn hl
  | observe proof =>
    obtain ⟨transaction, hst, -, hs⟩ := recordAttachmentObserved_eq_ok h
    obtain ⟨-, hn, hl, -⟩ := SameDisk.of_successor hs
    exact .observe hst hn ⟨rfl, rfl, rfl, rfl, rfl⟩ hl
  | reopen quiescent detached =>
    obtain ⟨transaction, hst, h⟩ := bind_eq_ok.mp h
    obtain ⟨hq, h⟩ := guard_bind_eq_ok.mp h
    obtain ⟨hdet, hs⟩ := guard_bind_eq_ok.mp h
    obtain ⟨-, hn, hl, -⟩ := SameDisk.of_successor hs
    rw [ProjectDiskPriorAttachQuiescentProof.confirm, refuseIf_eq_ok] at hq
    rw [ProjectDiskAttachDetachedProof.confirm, refuseIf_eq_ok] at hdet
    simp only [not_or, not_not] at hq hdet
    obtain ⟨-, -, -, hgen, -, -, ha⟩ := hq
    obtain ⟨-, -, -, hgen', -, -, -, ha', -⟩ := hdet
    exact .reopen (startedTransaction_eq_ok.mp hst) ⟨hgen, ha⟩
      ⟨hgen', ha'⟩ hn hl
  | quarantine reason =>
    obtain ⟨transaction, hst, hs⟩ := bind_eq_ok.mp h
    obtain ⟨-, hn, hl, -⟩ := SameDisk.of_successor hs
    exact .quarantine (startedTransaction_eq_ok.mp hst) hn hl

theorem Started.not_final (h : Started state transaction) : ¬state.Final := by
  obtain rfl | rfl := h <;> exact id

/-- **Nothing changes a record that is observed or in quarantine.** -/
theorem not_step_of_final (hf : r.state.Final) : r.step operation ≠ .ok next := by
  intro h
  cases transition_of_step h with
  | authorize hst | start hst | requireRecovery hst =>
    rw [hst] at hf
    exact hf
  | observe hst | reopen hst | quarantine hst => exact hst.not_final hf

end ProjectDiskAttachmentRecord

/-! ## Whole runs -/

variable (authority : ProjectDiskFormattedDetachedAuthority)

namespace ProjectDiskAttachmentTrace

open ProjectDiskAttachmentRecord

/-- The transaction is under way. -/
def Active (state : ProjectDiskAttachmentState) (transaction : ProjectDiskAttachTransaction) :
    Prop :=
  state = .attachAuthorized transaction ∨ Started state transaction

/-- What was started is not over: it is still the transaction, or nothing
comes after it. -/
def Open (state : ProjectDiskAttachmentState) (start : ProjectDiskAttachmentStartPlan) : Prop :=
  (∃ transaction, Started state transaction
    ∧ start.transactionGeneration = transaction.transactionGeneration
    ∧ start.attachment = transaction.attachment) ∨ state.Final

theorem not_open {start : ProjectDiskAttachmentStartPlan}
    (h : state = .formattedDetached ∨ ∃ transaction, state = .attachAuthorized transaction) :
    ¬Open state start := by
  obtain rfl | ⟨_, rfl⟩ := h
  all_goals
    rintro (⟨_, hne | hne, -⟩ | hf)
    · cases hne
    · cases hne
    · exact hf

theorem not_active (h : state = .formattedDetached ∨ state.Final) : ¬Active state transaction := by
  rintro (rfl | rfl | rfl) <;> obtain h | h := h <;> cases h

/-- Every start is reopened later, or open. -/
def Closed (events : List ProjectDiskAttachmentEvent) (state : ProjectDiskAttachmentState) : Prop :=
  ∀ earlier first later start, events = earlier ++ first :: later → first.starts = some start →
    (∃ ev ∈ later, ev.Reopens start) ∨ Open state start

/-- **What holds along a run.** -/
structure Tracked (trace : ProjectDiskAttachmentTrace) : Prop where
  never : trace.NeverReplayed
  last : trace.record.lastNumber = (trace.events.filterMap (·.authorizes)).length
  active : ∀ transaction, Active trace.record.state transaction →
    trace.record.lastTransactionGeneration = some transaction.transactionGeneration
      ∧ ∃ event ∈ trace.events, event.authorizes = some transaction
  older : ∀ start ∈ trace.events.filterMap (·.starts),
    start.transactionGeneration.val ≤ trace.record.lastNumber
      ∧ ∀ transaction, trace.record.state = .attachAuthorized transaction →
        start.transactionGeneration.val < trace.record.lastNumber
  closed : Closed trace.events trace.record.state

theorem tracked_start (authority : ProjectDiskFormattedDetachedAuthority) :
    Tracked ⟨[], .fromFormattedDetached authority⟩ where
  never := {
    numbered := rfl
    once := nodup_nil
    own := forall_mem_nil _
    reopened := fun _ _ _ _ _ _ _ h => absurd h (by simp)
    receipts := fun _ h => by cases h }
  last := rfl
  active := fun transaction h => by
    obtain h | h | h := h <;> cases h
  older := forall_mem_nil _
  closed := fun _ _ _ _ h => absurd h (by simp)

section Steps

variable {events : List ProjectDiskAttachmentEvent} {r next : ProjectDiskAttachmentRecord}
variable {ev : ProjectDiskAttachmentEvent}

theorem Closed.concat (h : Closed events r.state)
    (hold : ∀ start, Open r.state start → ev.Reopens start ∨ Open next.state start)
    (hn : ∀ start, ev.starts = some start → Open next.state start) :
    Closed (events ++ [ev]) next.state := by
  intro earlier first later start heq hs
  obtain ⟨rfl, rfl, rfl⟩ | ⟨rest, rfl, rfl⟩ := KeyedList.concat_eq_append_cons.mp heq
  · exact .inr (hn start hs)
  · obtain ⟨reopen, hm, hr⟩ | ho := h earlier first rest start rfl hs
    · exact .inl ⟨reopen, mem_append_left _ hm, hr⟩
    · obtain hr | ho := hold start ho
      · exact .inl ⟨ev, mem_append_right _ mem_cons_self, hr⟩
      · exact .inr ho

/-- **A transaction is authorised only when what was started is over.** -/
theorem NeverReplayed.reopened_concat (h : NeverReplayed ⟨events, r⟩)
    (hc : Closed events r.state)
    (ha : ∀ transaction, ev.authorizes = some transaction → ∀ start, ¬Open r.state start)
    (earlier : List ProjectDiskAttachmentEvent) (first : ProjectDiskAttachmentEvent)
    (between : List ProjectDiskAttachmentEvent) (second : ProjectDiskAttachmentEvent)
    (later : List ProjectDiskAttachmentEvent) (start : ProjectDiskAttachmentStartPlan)
    (transaction : ProjectDiskAttachTransaction)
    (heq : events ++ [ev] = earlier ++ first :: (between ++ second :: later))
    (hf : first.starts = some start) (hs : second.authorizes = some transaction) :
    ∃ reopen ∈ between, reopen.Reopens start := by
  rw [← cons_append, ← append_assoc] at heq
  obtain ⟨he, rfl, -⟩ | ⟨rest, he, -⟩ := KeyedList.concat_eq_append_cons.mp heq
  · obtain hr | ho := hc earlier first between start he.symm hf
    · exact hr
    · exact absurd ho (ha transaction hs start)
  · rw [append_assoc, cons_append] at he
    exact h.reopened earlier first between second rest start transaction he hf hs

theorem filterMap_concat_none {β : Type} {f : ProjectDiskAttachmentEvent → Option β}
    (events : List ProjectDiskAttachmentEvent) (h : f ev = none) :
    (events ++ [ev]).filterMap f = events.filterMap f := by
  rw [filterMap_append, filterMap_cons_none h, filterMap_nil, append_nil]

theorem filterMap_concat_some {β : Type} {f : ProjectDiskAttachmentEvent → Option β} {b : β}
    (events : List ProjectDiskAttachmentEvent) (h : f ev = some b) :
    (events ++ [ev]).filterMap f = events.filterMap f ++ [b] := by
  rw [filterMap_append, filterMap_cons_some h, filterMap_nil]

theorem mem_concat {transaction : ProjectDiskAttachTransaction}
    (h : ∃ e ∈ events, e.authorizes = some transaction) :
    ∃ e ∈ events ++ [ev], e.authorizes = some transaction := by
  obtain ⟨e, he, heq⟩ := h
  exact ⟨e, mem_append_left _ he, heq⟩

section

variable (h : Tracked ⟨events, r⟩)
include h

/-- **An event that neither authorises nor starts.** -/
theorem Tracked.other (ha : ev.authorizes = none) (hs : ev.starts = none)
    (hl : next.lastTransactionGeneration = r.lastTransactionGeneration)
    (hact : ∀ transaction, Active next.state transaction →
      next.state ≠ .attachAuthorized transaction ∧ Started r.state transaction)
    (ho : ∀ start, Open r.state start → ev.Reopens start ∨ Open next.state start)
    (hr : ∀ receipt, next.state = .attachmentObserved receipt
      → ∃ transaction, Started r.state transaction ∧ receipt.Carries transaction) :
    Tracked ⟨events ++ [ev], next⟩ := by
  have ha' := filterMap_concat_none events ha
  have hs' := filterMap_concat_none events hs
  have hnum : next.lastNumber = r.lastNumber := by rw [lastNumber, hl, lastNumber]
  refine ⟨⟨?_, ?_, ?_, h.never.reopened_concat h.closed fun _ heq => ?_, fun receipt hrc => ?_⟩,
    ?_, fun transaction hnow => ?_, fun start hst => ?_, h.closed.concat ho fun _ heq => ?_⟩
  · rw [ha']
    exact h.never.numbered
  · rw [hs']
    exact h.never.once
  · refine forall_mem_append.mpr ⟨h.never.own, forall_mem_singleton.mpr fun _ heq => ?_⟩
    rw [hs] at heq
    cases heq
  · rw [ha] at heq
    cases heq
  · obtain ⟨transaction, hsr, hcar⟩ := hr receipt hrc
    obtain ⟨e, he, heq⟩ := mem_concat (h.active transaction (.inr hsr)).2
    exact ⟨e, he, transaction, heq, hcar⟩
  · rw [ha', hnum]
    exact h.last
  · obtain ⟨hn, hev⟩ := h.active transaction (.inr (hact transaction hnow).2)
    exact ⟨hl.trans hn, mem_concat hev⟩
  · rw [hs'] at hst
    rw [hnum]
    exact ⟨(h.older start hst).1, fun t hnow => absurd hnow (hact t (.inl hnow)).1⟩
  · rw [hs] at heq
    cases heq

/-- **A transaction is authorised.** -/
theorem Tracked.authorize {current : ProjectDiskLeaseRecord} {plan : ProjectDiskAttachPlan}
    {intent : ProjectDiskAttachmentIntent}
    (ht : Transition r next (.authorize current plan intent)) :
    Tracked ⟨events ++ [⟨r, .authorize current plan intent⟩], next⟩ := by
  have .authorize hst hn hnum hl := ht
  have hnot (start : ProjectDiskAttachmentStartPlan) : ¬Open r.state start :=
    not_open (.inl hst)
  have ha := filterMap_concat_some events (show ProjectDiskAttachmentEvent.authorizes
    ⟨r, .authorize current plan intent⟩
      = some ⟨intent.transactionGeneration, current.revision, plan.attachment⟩ from rfl)
  have hs := filterMap_concat_none events (show ProjectDiskAttachmentEvent.starts
    ⟨r, .authorize current plan intent⟩ = none from rfl)
  have hnum' : next.lastNumber = r.lastNumber + 1 := by
    rw [lastNumber, hl]
    exact hnum
  have hlen : r.lastNumber = (events.filterMap (·.authorizes)).length := h.last
  refine ⟨⟨?_, ?_, ?_, h.never.reopened_concat h.closed fun _ _ => hnot, fun receipt hr => ?_⟩,
    ?_, fun transaction hnow => ?_, fun start hsr => ?_,
    h.closed.concat (fun start ho => absurd ho (hnot start)) fun _ heq => by cases heq⟩
  · rw [ha, map_append, length_append, length_singleton,
      range'_1_concat, h.never.numbered, map_singleton, hnum, hlen, add_comm 1]
  · rw [hs]
    exact h.never.once
  · exact forall_mem_append.mpr ⟨h.never.own, forall_mem_singleton.mpr fun _ heq => by cases heq⟩
  · rw [hn] at hr
    cases hr
  · rw [ha, length_append, length_singleton, hnum', hlen]
  · rw [hn] at hnow
    obtain heq | heq | heq := hnow
    · obtain rfl := attachAuthorized.inj heq
      exact ⟨hl, _, mem_append_right _ mem_cons_self, rfl⟩
    · cases heq
    · cases heq
  · rw [hs] at hsr
    rw [hnum']
    have hle := (h.older start hsr).1
    exact ⟨Nat.le_succ_of_le hle, fun _ _ => Nat.lt_succ_of_le hle⟩

/-- **A transaction is started.** -/
theorem Tracked.start {start : ProjectDiskAttachmentStartPlan}
    (ht : Transition r next (.start start)) :
    Tracked ⟨events ++ [⟨r, .start start⟩], next⟩ := by
  have .start hst hrev hgen hat hn hl := ht
  rename_i transaction
  have hnot (start : ProjectDiskAttachmentStartPlan) : ¬Open r.state start :=
    not_open (.inr ⟨_, hst⟩)
  have hah := filterMap_concat_none events (show ProjectDiskAttachmentEvent.authorizes
    ⟨r, .start start⟩ = none from rfl)
  have hsr := filterMap_concat_some events (show ProjectDiskAttachmentEvent.starts
    ⟨r, .start start⟩ = some start from rfl)
  have hnum : next.lastNumber = r.lastNumber := by rw [lastNumber, hl, lastNumber]
  obtain ⟨hown, hev⟩ := h.active transaction (.inl hst)
  have hcur : start.transactionGeneration.val = r.lastNumber := by
    rw [hgen]
    unfold lastNumber
    rw [hown]
    rfl
  refine ⟨⟨?_, ?_, ?_, h.never.reopened_concat h.closed fun _ _ => hnot,
      fun receipt hr => ?_⟩, ?_, fun transaction' hnow => ?_, fun start' hs => ?_,
    h.closed.concat (fun start ho => absurd ho (hnot start)) fun start' heq => ?_⟩
  · rw [hah]
    exact h.never.numbered
  · rw [hsr, map_append, map_singleton]
    refine nodup_append.mpr ⟨h.never.once, nodup_singleton _, fun a ha b hb heq => ?_⟩
    obtain ⟨old, hold, rfl⟩ := mem_map.mp ha
    obtain rfl := mem_singleton.mp hb
    have hlt := (h.older old hold).2 transaction hst
    rw [heq, hcur] at hlt
    exact lt_irrefl _ hlt
  · refine forall_mem_append.mpr ⟨h.never.own, forall_mem_singleton.mpr fun start' heq => ?_⟩
    obtain rfl := Option.some.inj heq
    exact ⟨hrev, transaction, hst, hgen, hat⟩
  · rw [hn] at hr
    cases hr
  · rw [hah, hnum]
    exact h.last
  · rw [hn] at hnow
    obtain heq | heq | heq := hnow
    · cases heq
    · obtain rfl := attachStarted.inj heq
      exact ⟨hl.trans hown, mem_concat hev⟩
    · cases heq
  · rw [hsr] at hs
    rw [hnum]
    refine ⟨?_, fun transaction' hnow => ?_⟩
    · obtain hs | hs := mem_append.mp hs
      · exact (h.older start' hs).1
      · obtain rfl := mem_singleton.mp hs
        exact le_of_eq hcur
    · rw [hn] at hnow
      cases hnow
  · obtain rfl := Option.some.inj heq
    exact .inl ⟨transaction, .inl hn, hgen, hat⟩

/-- **Every operation keeps it.** -/
theorem Tracked.step {operation : ProjectDiskAttachmentOperation}
    (hs : r.step operation = .ok next) :
    Tracked ⟨events ++ [⟨r, operation⟩], next⟩ := by
  have hk {transaction : ProjectDiskAttachTransaction} {start : ProjectDiskAttachmentStartPlan}
      (hst : Started r.state transaction) (ho : Open r.state start) :
      start.transactionGeneration = transaction.transactionGeneration
        ∧ start.attachment = transaction.attachment := by
    obtain ⟨transaction', hst', hsm⟩ | hf := ho
    · rwa [hst.unique hst']
    · exact absurd hf hst.not_final
  cases transition_of_step hs with
  | authorize hst hn hnum hl => exact h.authorize (.authorize hst hn hnum hl)
  | start hst hrev hgen ha hn hl =>
    exact h.start (.start hst hrev hgen ha hn hl)
  | requireRecovery hst hn hl =>
    rename_i transaction
    refine h.other rfl rfl hl (fun t hnow => ?_) (fun start ho => ?_) fun receipt hne => ?_
    · rw [hn] at hnow ⊢
      obtain heq | heq | heq := hnow
      · cases heq
      · cases heq
      · obtain rfl := attachRecoveryRequired.inj heq
        exact ⟨by simp, .inl hst⟩
    · exact .inr (.inl ⟨transaction, .inr hn, hk (.inl hst) ho⟩)
    · rw [hn] at hne
      cases hne
  | observe hst hn hr hl =>
    have hf : next.state.Final := hn ▸ trivial
    refine h.other rfl rfl hl (fun t hnow => absurd hnow (not_active (.inr hf)))
      (fun start _ => .inr (.inr hf)) fun receipt' heq => ?_
    rw [hn] at heq
    obtain rfl := attachmentObserved.inj heq
    exact ⟨_, hst, hr⟩
  | reopen hst hq hdet hn hl =>
    refine h.other rfl rfl hl (fun t hnow => absurd hnow (not_active (.inl hn)))
      (fun start ho => ?_) fun receipt' hne => ?_
    · obtain ⟨hgen, ha⟩ := hk hst ho
      exact .inl ⟨_, _, rfl, hq.1.trans hgen.symm,
        hq.2.trans ha.symm, hdet.1.trans hgen.symm,
        hdet.2.trans ha.symm⟩
    · rw [hn] at hne
      cases hne
  | quarantine hst hn hl =>
    have hf : next.state.Final := hn ▸ trivial
    refine h.other rfl rfl hl (fun t hnow => absurd hnow (not_active (.inr hf)))
      (fun start _ => .inr (.inr hf)) fun receipt' hne => ?_
    rw [hn] at hne
    cases hne

end

end Steps

variable {trace : ProjectDiskAttachmentTrace}

theorem Tracked.attempt (h : Tracked trace)
    (operation : ProjectDiskAttachmentOperation) : Tracked (trace.attempt operation) := by
  unfold ProjectDiskAttachmentTrace.attempt
  split
  · exact Tracked.step h ‹_›
  · exact h

variable (operations : List ProjectDiskAttachmentOperation)

theorem tracked_run : Tracked (run authority operations) := by
  induction operations using reverseRecOn with
  | nil => exact tracked_start authority
  | append_singleton operations operation ih =>
    rw [run, foldl_append]
    exact ih.attempt operation

theorem foldl_attempt_of_final
    (hf : trace.record.state.Final) (operations : List ProjectDiskAttachmentOperation) :
    operations.foldl attempt trace = trace := by
  induction operations with
  | nil => rfl
  | cons operation operations ih =>
    have ha : trace.attempt operation = trace := by
      unfold attempt
      split
      · exact absurd ‹_› (not_step_of_final hf)
      · rfl
    rw [foldl_cons, ha, ih]

/-- **A disk attachment is never replayed**, whatever the record is told; and
once it is observed or in quarantine, the record stays as it is. -/
theorem run_neverReplayed : NeverReplayed (run authority operations)
      ∧ ((run authority operations).record.state.Final → ∀ more,
        run authority (operations ++ more) = run authority operations) := by
  refine ⟨(tracked_run authority operations).never, fun hf more => ?_⟩
  rw [run, foldl_append]
  exact foldl_attempt_of_final hf more

end ProjectDiskAttachmentTrace

end Glaeda
