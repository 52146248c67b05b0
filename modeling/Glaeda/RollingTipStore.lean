import Mathlib.Data.List.DropRight
import Glaeda.Records
import Glaeda.RollingTipReplay

/-!
# The journal of the ledger

The store of a ledger keeps its log in a file, one event in a line. An
operation runs on a copy of the ledger; the events it took are written one
after the other, and only then does the copy become the ledger. Opening the
file reads the complete lines, replays them, and cuts an unterminated line off.

So a writer that is killed leaves the complete lines it had written. The lines
of an operation are **not kept together**: admission takes two or three events,
and a cut between their lines leaves an admission that observed its tip and
did nothing else. `atomic_runs_iff` says which cuts leave the journal of a
ledger from before or after the operation.
-/

namespace Glaeda

open Checked Transaction Records List RollingTipLedger Except

namespace RollingTipLedger

/-- What an operation makes of a ledger. -/
def outcome (ledger : RollingTipLedger) : LedgerOperation → Except RollingTipLedgerError Unit
  | .admitTip build time => ((admitTip build time).run ledger).2.map fun _ => ()
  | .recordState build state attempt time => ((recordState build state attempt time).run ledger).2
  | .acquireLease lease time => ((acquireLease lease time).run ledger).2
  | .releaseLease lease time => ((releaseLease lease time).run ledger).2
  | .reclaimExpiredLease lease reclaimedBy time =>
    ((reclaimExpiredLease lease reclaimedBy time).run ledger).2
  | .recordLease build leaseId hostId acquired time =>
    ((recordLease build leaseId hostId acquired time).run ledger).2
  | .publishArtifact artifact time => ((publishArtifact artifact time).run ledger).2
  | .requestPromotion build revision time => ((requestPromotion build revision time).run ledger).2
  | .decidePromotion build decision revision time =>
    ((decidePromotion build decision revision time).run ledger).2.map fun _ => ()
  | .recordBackpressure build reason time => ((recordBackpressure build reason time).run ledger).2
  | .closeReceipt build outcome time => ((closeReceipt build outcome time).run ledger).2

/-- The events an operation appends. -/
def newEvents (ledger : RollingTipLedger) (call : LedgerOperation) : List EventEnvelope :=
  (ledger.after call).events.drop ledger.events.length

theorem Coherent.events_after {ledger : RollingTipLedger} (h : Coherent ledger)
    (call : LedgerOperation) :
    (ledger.after call).stream = ledger.stream
      ∧ (ledger.after call).events = ledger.events ++ ledger.newEvents call := by
  have hs := h.steps_induction
    (P := fun next => next.stream = ledger.stream ∧ ledger.events <+: next.events)
    (fun _ ⟨hsr, he⟩ hst => by
      obtain ⟨envelope, ha⟩ := hst.events
      exact ⟨hst.stream.trans hsr, ha ▸ he.trans (prefix_append _ _)⟩)
    ⟨rfl, prefix_rfl⟩ (h.steps_after call)
  exact ⟨hs.2.1, prefix_iff_eq_append.mp hs.2.2 |>.symm⟩

/-- **What replay read is the log it was given.** -/
theorem Coherent.events_of_foldlM {ledger next : RollingTipLedger} (h : Coherent ledger)
    {events : List EventEnvelope} (hf : events.foldlM replayEnvelope ledger = .ok next) :
    next.events = ledger.events ++ events := by
  induction events generalizing ledger with
  | nil =>
    obtain rfl := ok.inj hf
    exact (append_nil _).symm
  | cons envelope rest ih =>
    rw [foldlM_cons, bind_eq_ok] at hf
    obtain ⟨mid, hm, hrs⟩ := hf
    unfold replayEnvelope at hm
    rw [guard_bind_eq_ok, guard_bind_eq_ok, bind_eq_ok] at hm
    obtain ⟨-, -, read, hr, hm⟩ := hm
    obtain rfl := ok.inj hm
    have hc := h.changes_of_replayed hr
    have hs : Step ledger { read with
        events := read.events ++ [envelope]
        nextSequence := saturatingAdd u64Size read.nextSequence 1 } :=
      ⟨envelope, _, read, hc, by rw [hc.frame.2.1]⟩
    rw [ih (h.step hs) hrs]
    show (read.events ++ [envelope]) ++ rest = _
    rw [hc.frame.2.1, append_assoc, singleton_append]

end RollingTipLedger

/-! ## The file -/

/-- The end of a line. -/
def newline : UInt8 := 10

/-- A blank. -/
def isAsciiWhitespace (byte : UInt8) : Bool :=
  byte = 32 ∨ byte = 9 ∨ byte = 10 ∨ byte = 12 ∨ byte = 13

/-- The JSON text of an envelope, as the derived serializer writes it: a compact
object, which is read back, contains no line end and ends with its bracket. -/
structure JournalCodec where
  encode : EventEnvelope → List UInt8
  decode : List UInt8 → Option EventEnvelope
  decode_encode : ∀ envelope, decode (encode envelope) = some envelope
  newline_notMem : ∀ envelope, newline ∉ encode envelope
  last_visible : ∀ envelope, ∃ front last, encode envelope = front ++ [last]
    ∧ isAsciiWhitespace last = false

/-- The refusals of the store. -/
inductive RollingTipLedgerStoreError where
  | json
  | ledger (error : RollingTipLedgerError)
  | closed
  | eventTooLarge
  | emptyEvent
deriving DecidableEq, Repr

/-- The longest line. -/
def maxEventBytes : Nat := 2 * 2 ^ 20

/-- **The store**: the bytes of the file, whether it is open, and the ledger in
memory. -/
structure RollingTipLedgerStore where
  journal : List UInt8
  file : Bool
  ledger : RollingTipLedger

/-- A call of the store. -/
inductive StoreOperation where
  | transact (call : LedgerOperation)
  | close
deriving DecidableEq, Repr

namespace RollingTipLedgerStore

variable (codec : JournalCodec)

/-- The event of a line. -/
def readLine (line : List UInt8) : Except RollingTipLedgerStoreError EventEnvelope := do
  refuseIf (line.length + 1 > maxEventBytes) .eventTooLarge
  let text := line.rdropWhile (· = 13)
  refuseIf (text.all isAsciiWhitespace) .emptyEvent
  okOr (codec.decode text) .json

/-- **The events of a file**, the number of its complete bytes, and whether
bytes come after them. -/
def readEvents (journal : List UInt8) :
    Except RollingTipLedgerStoreError (List EventEnvelope × Nat × Bool) := do
  let lines := journal.splitOn newline
  let tail := lines.getLastD []
  let events ← lines.dropLast.mapM (readLine codec)
  refuseIf (tail.length > maxEventBytes) .eventTooLarge
  pure (events, journal.length - tail.length, tail ≠ [])

/-- **Opening a file for a stream.** -/
def openJournal (stream : TipStream) (journal : List UInt8) :
    Except RollingTipLedgerStoreError RollingTipLedgerStore := do
  let (events, completeBytes, torn) ← readEvents codec journal
  let ledger ← (RollingTipLedger.replay stream events).mapError .ledger
  pure
    { journal := if torn then journal.take completeBytes else journal
      file := true
      ledger }

/-- The event fits a line. -/
def Fits (envelope : EventEnvelope) : Prop :=
  (codec.encode envelope).length + 1 ≤ maxEventBytes

instance : DecidablePred (Fits codec) := fun _ => inferInstanceAs (Decidable (_ ≤ _))

/-- The events, each on a line. -/
def lines (events : List EventEnvelope) : List UInt8 :=
  join newline (events.map codec.encode)

variable (s : RollingTipLedgerStore)

/-- **An operation of the ledger**, with its events written before the ledger is
replaced. A refused one leaves the store as it was: events that were written
before one that is too large are cut off again. -/
def transact (call : LedgerOperation) :
    Except RollingTipLedgerStoreError RollingTipLedgerStore := do
  refuseIf (s.file = false) .closed
  (s.ledger.outcome call).mapError .ledger
  let events := s.ledger.newEvents call
  refuseIf (¬ ∀ envelope ∈ events, Fits codec envelope) .eventTooLarge
  pure { s with
    journal := s.journal ++ lines codec events
    ledger := s.ledger.after call }

/-- The store is closed. -/
def close : Except RollingTipLedgerStoreError RollingTipLedgerStore := do
  refuseIf (s.file = false) .closed
  pure { s with file := false }

/-- The answer of the store. -/
def answer : StoreOperation → Except RollingTipLedgerStoreError RollingTipLedgerStore
  | .transact call => transact codec s call
  | .close => s.close

variable (op : StoreOperation)

/-- The store after a call, refused or not. -/
def after : RollingTipLedgerStore :=
  match answer codec s op with
  | .ok next => next
  | .error _ => s

/-- The store after some calls. -/
def runs (operations : List StoreOperation) : RollingTipLedgerStore :=
  operations.foldl (after codec) s

/-- The events of a call. -/
def events : StoreOperation → List EventEnvelope
  | .transact call => s.ledger.newEvents call
  | .close => []

/-- **The bytes an operation appends** while it runs. -/
def appends : StoreOperation → List UInt8
  | .transact call =>
    if s.file ∧ s.ledger.outcome call = .ok () then
      lines codec ((s.ledger.newEvents call).takeWhile (Fits codec ·))
    else []
  | .close => []

/-! ## Killed writers -/

/-- **What reopening has to give** when an operation stops after `k` of the
bytes it appends: the store from before it or the one from after it, opened. -/
def Atomic (stream : TipStream) (operation : StoreOperation) (k : ℕ) : Prop :=
  ∃ reopened, openJournal codec stream (s.journal ++ (appends codec s operation).take k)
      = .ok reopened
    ∧ (reopened = { s with file := true }
      ∨ reopened = { after codec s operation with file := true })

/-- How many events are whole after a crash. -/
def survivors (k : ℕ) : ℕ :=
  ((appends codec s op).take k).count newline

/-- An operation that does not queue a further attempt too early, unless it is
refused. -/
def Timely (operation : StoreOperation) : Prop :=
  match operation with
  | .transact call => (answer codec s operation).isOk → s.ledger.Timely call
  | .close => True

/-- No call comes too early. -/
def TimelyRun (store : RollingTipLedgerStore) : List StoreOperation → Prop
  | [] => True
  | operation :: rest =>
    Timely codec store operation ∧ TimelyRun (after codec store operation) rest

/-- **No line of the operation survives, or all of them do.** -/
def Whole (k : ℕ) : Prop :=
  survivors codec s op k = 0
    ∨ (survivors codec s op k = (s.events op).length
      ∧ Timely codec s op)

/-! ## Lines are read back -/

variable {codec} {s} {next : RollingTipLedgerStore} {stream : TipStream} {k : ℕ}

theorem readLine_encode {envelope : EventEnvelope} (hfits : Fits codec envelope) :
    readLine codec (codec.encode envelope) = .ok envelope := by
  obtain ⟨front, last, he, hl⟩ := codec.last_visible envelope
  have hr : ¬ (last = 13) := by
    rintro rfl
    exact absurd hl (by decide)
  have hs : (codec.encode envelope).rdropWhile (· = 13) = codec.encode envelope := by
    rw [he, rdropWhile_concat, if_neg (by simpa using hr)]
  have hb : ¬ (codec.encode envelope).all isAsciiWhitespace := by
    rw [he]
    simp [hl]
  unfold readLine
  rw [refuseIf_bind (not_lt.mpr hfits), hs]
  rw [refuseIf_bind hb, codec.decode_encode]
  rfl

section

variable {events : List EventEnvelope} {tail : List UInt8}
    (hfits : ∀ envelope ∈ events, Fits codec envelope) (htail : newline ∉ tail)
    (hshort : tail.length ≤ maxEventBytes)
include hfits htail hshort

/-- **Complete lines are read back**, whatever short tail comes after them. -/
theorem readEvents_lines :
    readEvents codec (lines codec events ++ tail)
      = .ok (events, (lines codec events).length, tail ≠ []) := by
  have hs : (lines codec events ++ tail).splitOn newline
      = events.map codec.encode ++ [tail] := by
    refine splitOn_join (fun record hrec => ?_) htail
    obtain ⟨envelope, -, rfl⟩ := mem_map.mp hrec
    exact codec.newline_notMem envelope
  have hr : (events.map codec.encode).mapM (readLine codec) = .ok events := by
    clear hs
    induction events with
    | nil => rfl
    | cons envelope rest ih =>
      obtain ⟨hf, hrs⟩ := forall_mem_cons.mp hfits
      rw [map_cons, mapM_cons, readLine_encode hf, ok_bind, ih hrs, ok_bind]
      rfl
  unfold readEvents
  rw [hs]
  simp only [getLastD_concat, dropLast_concat, hr, ok_bind,
    refuseIf_of_not (not_lt.mpr hshort), length_append, Nat.add_sub_cancel]
  rfl

/-- **Opening the lines of a log is replaying it.** -/
theorem openJournal_lines :
    openJournal codec stream (lines codec events ++ tail) = .ok next ↔
      ∃ ledger, RollingTipLedger.replay stream events = .ok ledger
        ∧ next = ⟨lines codec events, true, ledger⟩ := by
  have hc : (if decide (tail ≠ []) = true
      then (lines codec events ++ tail).take (lines codec events).length
      else lines codec events ++ tail) = lines codec events := by
    by_cases hne : tail = []
    · simp [hne]
    · simp [hne]
  unfold openJournal
  rw [readEvents_lines hfits htail hshort, ok_bind]
  dsimp only
  rw [hc, bind_eq_ok]
  simp only [mapError_eq_ok, pure_eq_ok_iff]
  exact exists_congr fun ledger => and_congr_right fun _ => eq_comm

end

theorem lines_append {events more : List EventEnvelope} :
    lines codec (events ++ more) = lines codec events ++ lines codec more := by
  unfold lines
  rw [map_append, join_append]

/-! ## Operations keep the journal -/

/-- **The file of a store holds the log of its ledger.** -/
structure Kept (codec : JournalCodec) (stream : TipStream) (store : RollingTipLedgerStore) :
    Prop where
  coherent : RollingTipLedger.Coherent store.ledger
  stream_eq : store.ledger.stream = stream
  fits : ∀ envelope ∈ store.ledger.events, Fits codec envelope
  journal_eq : store.journal = lines codec store.ledger.events

theorem transact_eq_ok {call : LedgerOperation} :
    transact codec s call = .ok next ↔ s.file = true ∧ s.ledger.outcome call = .ok ()
        ∧ (∀ envelope ∈ s.ledger.newEvents call, Fits codec envelope)
        ∧ next = { s with
            journal := s.journal ++ lines codec (s.ledger.newEvents call)
            ledger := s.ledger.after call } := by
  unfold transact
  simp only [guard_bind_eq_ok, refuseIf_eq_ok, Bool.not_eq_false, mapError_eq_ok, not_not,
    pure_eq_ok, ok.injEq]
  refine and_congr_right fun _ => and_congr_right fun _ => and_congr_right fun _ => eq_comm

theorem answer_of_isOk {op : StoreOperation} (h : (answer codec s op).isOk) :
    answer codec s op = .ok (after codec s op) := by
  unfold after
  cases ha : answer codec s op with
  | ok next => rfl
  | error error =>
    rw [ha] at h
    cases h

/-- **An operation changes nothing, or is one that was accepted and written.** -/
theorem after_cases (codec : JournalCodec) (s : RollingTipLedgerStore) (op : StoreOperation) :
    ((after codec s op).journal = s.journal
        ∧ (after codec s op).ledger = s.ledger)
      ∨ ∃ call, op = .transact call
        ∧ transact codec s call = .ok (after codec s op) := by
  unfold after
  cases ha : answer codec s op with
  | error error => exact .inl ⟨rfl, rfl⟩
  | ok next =>
    cases op with
    | transact call => exact .inr ⟨call, rfl, ha⟩
    | close =>
      unfold answer close at ha
      rw [guard_bind_eq_ok, pure_eq_ok] at ha
      obtain ⟨-, rfl⟩ := (ha.imp_right ok.inj)
      exact .inl ⟨rfl, rfl⟩

theorem Kept.after (h : Kept codec stream s) (op : StoreOperation) :
    Kept codec stream (after codec s op) := by
  obtain ⟨hj, hldg⟩ | ⟨call, rfl, hc⟩ := after_cases codec s op
  · obtain ⟨hcoh, hs, hfits, hl⟩ := h
    rw [← hldg] at hcoh hs hfits hl
    exact ⟨hcoh, hs, hfits, hj.trans hl⟩
  · obtain ⟨-, -, hfits, hn⟩ := transact_eq_ok.mp hc
    obtain ⟨hs, he⟩ := h.coherent.events_after call
    rw [hn]
    refine ⟨h.coherent.after call, hs.trans h.stream_eq, ?_, ?_⟩
    · show ∀ envelope ∈ (s.ledger.after call).events, _
      rw [he, forall_mem_append]
      exact ⟨h.fits, hfits⟩
    · show s.journal ++ _ = lines codec (s.ledger.after call).events
      rw [he, lines_append, h.journal_eq]

/-- The log is read back. -/
def Reads (stream : TipStream) (store : RollingTipLedgerStore) : Prop :=
  RollingTipLedger.replay stream store.ledger.events = .ok store.ledger

section

variable (h : Kept codec stream s)
include h

/-- **Timely operations keep the log readable**, others lose it. -/
theorem Kept.reads_after (hr : Reads stream s) (op : StoreOperation) :
    (Timely codec s op → Reads stream (RollingTipLedgerStore.after codec s op))
      ∧ (¬ Timely codec s op → (RollingTipLedgerStore.after codec s op).ledger.Refused) := by
  have hs : replay s.ledger.stream s.ledger.events = .ok s.ledger := by
    rw [h.stream_eq]
    exact hr
  constructor
  · intro ht
    obtain ⟨-, hl⟩ | ⟨call, rfl, hc⟩ := after_cases codec s op
    · rw [Reads, hl]
      exact hr
    · have hcom : (answer codec s (.transact call)).isOk := by
        rw [answer, hc]
        rfl
      obtain ⟨-, -, -, hn⟩ := transact_eq_ok.mp hc
      rw [hn, Reads, ← h.stream_eq, ← (h.coherent.events_after call).1]
      exact h.coherent.read_of_logs hs (h.coherent.logs_after (ht hcom))
  · intro he
    cases op with
    | close => exact absurd trivial he
    | transact call =>
      obtain ⟨hcom, hc⟩ := Classical.not_imp.mp he
      obtain ⟨-, -, -, hn⟩ := transact_eq_ok.mp (answer_of_isOk hcom)
      rw [hn]
      exact h.coherent.refused_after hs hc

theorem Kept.refused_after (hr : s.ledger.Refused) (op : StoreOperation) :
    (RollingTipLedgerStore.after codec s op).ledger.Refused := by
  obtain ⟨-, hl⟩ | ⟨call, rfl, hc⟩ := after_cases codec s op
  · rw [hl]
    exact hr
  · obtain ⟨-, -, -, hn⟩ := transact_eq_ok.mp hc
    rw [hn]
    exact (h.coherent.steps_induction (fun _ => RollingTipLedger.Refused.step) hr
      (h.coherent.steps_after call)).2

theorem Kept.runs (ops : List StoreOperation) : Kept codec stream (runs codec s ops) := by
  induction ops generalizing s with
  | nil => exact h
  | cons op rest ih => exact ih (h.after op)

/-- **A run of timely operations keeps the log readable**, any other loses it. -/
theorem Kept.reads_runs (hr : Reads stream s) (ops : List StoreOperation) :
    (TimelyRun codec s ops → Reads stream (RollingTipLedgerStore.runs codec s ops))
      ∧ (¬ TimelyRun codec s ops → (RollingTipLedgerStore.runs codec s ops).ledger.Refused) := by
  have hl : ∀ (ops : List StoreOperation) {s : RollingTipLedgerStore},
      Kept codec stream s → s.ledger.Refused →
        (RollingTipLedgerStore.runs codec s ops).ledger.Refused := by
    intro ops
    induction ops with
    | nil => exact fun _ href => href
    | cons op rest ih =>
      exact fun hk href => ih (hk.after op) (hk.refused_after href op)
  induction ops generalizing s with
  | nil => exact ⟨fun _ => hr, fun hn => absurd trivial hn⟩
  | cons op rest ih =>
    obtain ⟨hrd, href⟩ := h.reads_after hr op
    show (Timely codec s op ∧ _ → Reads stream (RollingTipLedgerStore.runs codec _ rest))
      ∧ (¬ (Timely codec s op ∧ _) → _)
    by_cases ht : Timely codec s op
    · obtain ⟨hrs, hn⟩ := ih (h.after op) (hrd ht)
      exact ⟨fun hb => hrs hb.2, fun hb => hn fun htail => hb ⟨ht, htail⟩⟩
    · exact ⟨fun hb => absurd hb.1 ht, fun _ => hl rest (h.after op) (href ht)⟩

end

/-! ## Where the writer was killed -/

theorem exists_appends (codec : JournalCodec) (s : RollingTipLedgerStore) (op : StoreOperation) :
    ∃ written, written <+: s.events op
      ∧ appends codec s op = lines codec written
      ∧ (∀ envelope ∈ written, Fits codec envelope)
      ∧ (written ≠ [] → written = s.events op → (answer codec s op).isOk) := by
  cases op with
  | close => exact ⟨[], prefix_rfl, rfl, by simp, fun hne => absurd rfl hne⟩
  | transact call =>
    by_cases ha : s.file ∧ s.ledger.outcome call = .ok ()
    · refine ⟨(s.ledger.newEvents call).takeWhile (Fits codec ·), takeWhile_prefix _, ?_,
        fun envelope hm => by simpa using mem_takeWhile_imp hm, fun _ hall => ?_⟩
      · rw [appends, if_pos ha]
      · have hfits : ∀ envelope ∈ s.ledger.newEvents call, Fits codec envelope := by
          simpa using takeWhile_eq_self_iff.mp hall
        rw [answer, transact_eq_ok.mpr ⟨ha.1, ha.2, hfits, rfl⟩]
        rfl
    · exact ⟨[], nil_prefix, by rw [appends, if_neg ha]; rfl, by simp,
        fun hne => absurd rfl hne⟩

/-- **A killed writer leaves complete lines**, as many as survive, and a torn
one. -/
theorem Kept.cut (h : Kept codec stream s) (op : StoreOperation) (k : ℕ) :
    survivors codec s op k ≤ (s.events op).length
      ∧ (survivors codec s op k ≠ 0 → survivors codec s op k = (s.events op).length →
          (answer codec s op).isOk)
      ∧ ∀ {reopened}, openJournal codec stream (s.journal ++ (appends codec s op).take k)
          = .ok reopened ↔
        ∃ ledger, RollingTipLedger.replay stream (s.ledger.events
            ++ (s.events op).take (survivors codec s op k)) = .ok ledger
          ∧ reopened = ⟨lines codec (s.ledger.events
            ++ (s.events op).take (survivors codec s op k)), true, ledger⟩ := by
  obtain ⟨written, hi, happ, hfits, hc⟩ := exists_appends codec s op
  have hf : ∀ record ∈ written.map codec.encode, newline ∉ record := by
    intro record hrec
    obtain ⟨envelope, -, rfl⟩ := mem_map.mp hrec
    exact codec.newline_notMem envelope
  obtain ⟨tail, ht, htail, hshort⟩ := take_join hf k
  have hcnt : survivors codec s op k
      = ((join newline (written.map codec.encode)).take k).count newline := by
    rw [survivors, happ, lines]
  have hle : survivors codec s op k ≤ written.length := by
    rw [hcnt, ← length_map codec.encode, ← count_join hf]
    exact (take_sublist _ _).count_le _
  have hfst : written.take (survivors codec s op k)
      = (s.events op).take (survivors codec s op k) := by
    obtain ⟨rest, hr⟩ := hi
    rw [← hr, take_append_of_le_length hle]
  refine ⟨hle.trans hi.length_le, fun hne hall => hc ?_ ?_, fun {reopened} => ?_⟩
  · rintro rfl
    exact hne (Nat.le_zero.mp hle)
  · exact hi.eq_of_length_le (hall ▸ hle)
  · have hcut : s.journal ++ (appends codec s op).take k
        = lines codec (s.ledger.events
          ++ (s.events op).take (survivors codec s op k)) ++ tail := by
      rw [happ, lines, ht, ← hcnt, ← map_take, hfst, h.journal_eq, lines_append, append_assoc]
      rfl
    rw [hcut]
    refine openJournal_lines ?_ htail ?_
    · rw [forall_mem_append, ← hfst]
      exact ⟨h.fits, fun envelope hmem => hfits envelope (mem_of_mem_take hmem)⟩
    · by_cases hne : tail = []
      · rw [hne]
        exact Nat.zero_le _
      · obtain ⟨record, hrec, hlen⟩ := hshort hne
        obtain ⟨envelope, hmem, rfl⟩ := mem_map.mp hrec
        exact hlen.trans (Nat.le_of_succ_le (hfits envelope hmem))

/-- **After a readable log, a killed writer does no harm exactly when its lines
survive as a whole.** -/
theorem Kept.atomic_iff (h : Kept codec stream s) (hr : Reads stream s)
    (op : StoreOperation) (k : ℕ) :
    Atomic codec s stream op k ↔ Whole codec s op k := by
  obtain ⟨hle, hc, ho⟩ := h.cut op k
  obtain ⟨hrd, href⟩ := h.reads_after hr op
  unfold Atomic Whole
  simp only [ho]
  generalize survivors codec s op k = n at hle hc
  have hk := h.after op
  constructor
  · rintro ⟨_, ⟨ledger, hldg, rfl⟩, hs⟩
    have hlog : ledger.events = s.ledger.events ++ (s.events op).take n := by
      exact (coherent_new stream).events_of_foldlM hldg
    -- a log as long as before has none of the new lines
    have hnone : ledger = s.ledger → n = 0 := by
      rintro rfl
      have hlen := congrArg length hlog
      rw [length_append, length_take, Nat.min_eq_left hle] at hlen
      omega
    obtain hbef | ha := hs
    · exact .inl (hnone (congrArg RollingTipLedgerStore.ledger hbef))
    · have hldg' := congrArg RollingTipLedgerStore.ledger ha
      dsimp only at hldg'
      obtain ⟨-, hu⟩ | ⟨call, rfl, hcl⟩ := after_cases codec s op
      · exact .inl (hnone (hldg'.trans hu))
      · refine .inr ⟨?_, ?_⟩
        · obtain ⟨-, -, -, hnx⟩ := transact_eq_ok.mp hcl
          have hlen := congrArg length hlog
          rw [hldg', hnx, (h.coherent.events_after call).2, length_append,
            length_append, length_take, Nat.min_eq_left hle] at hlen
          exact (Nat.add_left_cancel hlen).symm
        · by_contra he
          refine href he ledger ?_
          rw [hk.stream_eq, ← hldg', hlog]
          exact hldg
  · intro hw
    obtain rfl | hn := Nat.eq_zero_or_pos n
    · refine ⟨_, ⟨s.ledger, ?_, rfl⟩, .inl ?_⟩
      · rw [take_zero, append_nil]
        exact hr
      · rw [take_zero, append_nil, ← h.journal_eq]
    · obtain hnone | ⟨hall, ht⟩ := hw
      · exact absurd hnone hn.ne'
      · have hcom := hc hn.ne' hall
        cases op with
        | close => exact absurd hall hn.ne'
        | transact call =>
          have hr' := hrd ht
          obtain ⟨-, -, -, hnx⟩ := transact_eq_ok.mp (answer_of_isOk hcom)
          have hevs : s.ledger.events ++ (s.events (.transact call)).take n
              = (s.ledger.after call).events := by
            rw [take_of_length_le hall.ge, (h.coherent.events_after call).2]
            rfl
          rw [hnx] at hr' ⊢
          refine ⟨_, ⟨s.ledger.after call, hevs ▸ hr', rfl⟩, .inr ?_⟩
          rw [hevs, (h.coherent.events_after call).2, lines_append, ← h.journal_eq]

/-- A store with nothing in it. -/
def fresh (stream : TipStream) : RollingTipLedgerStore := ⟨[], true, .new stream⟩

theorem kept_fresh : Kept codec stream (fresh stream) :=
  ⟨coherent_new stream, rfl, by simp [fresh, new], rfl⟩

/-- **A killed writer leaves the journal of a ledger from before or after its
operation exactly when** no earlier admission queued a further attempt too
early, and of the lines of the operation none survives or all do. -/
theorem atomic_runs_iff (codec : JournalCodec) (stream : TipStream)
    (ops : List StoreOperation) (last : StoreOperation) (k : ℕ) :
    Atomic codec (runs codec (fresh stream) ops) stream last k ↔ TimelyRun codec (fresh stream) ops
        ∧ Whole codec (runs codec (fresh stream) ops) last k := by
  have hf : Kept codec stream (fresh stream) := kept_fresh
  have hk := hf.runs ops
  obtain ⟨hr, href⟩ := hf.reads_runs rfl ops
  by_cases ht : TimelyRun codec (fresh stream) ops
  · rw [hk.atomic_iff (hr ht)]
    exact ⟨fun hw => ⟨ht, hw⟩, fun hb => hb.2⟩
  · -- the log could not be read back before the last operation
    refine ⟨?_, fun hb => absurd hb.1 ht⟩
    rintro ⟨reopened, ho, -⟩
    obtain ⟨ledger, hl, -⟩ := (hk.cut last k).2.2.mp ho
    obtain ⟨mid, hm, -⟩ := replay_append_eq_ok.mp hl
    refine absurd ?_ (href ht mid)
    rw [hk.stream_eq]
    exact hm

end RollingTipLedgerStore

/-! ## An admission that was cut -/

namespace RollingTipLedgerStore

/-- The first event of the sample. -/
def firstObserved : EventEnvelope :=
  (RollingTipLedger.new RollingTipLedger.sampleStream).envelope 1
    (.tipObserved RollingTipLedger.sampleBuild)

/-- **The first line of an admission can survive alone**: the journal is then
read as one in which the tip was observed and nothing was asked for. -/
theorem not_atomic_admission :
    ¬ ∃ codec : JournalCodec, Fits codec firstObserved
      ∧ Atomic codec (fresh sampleStream) sampleStream (.transact (.admitTip sampleBuild 1))
        ((codec.encode firstObserved).length + 1) := by
  rintro ⟨codec, hfits, ha⟩
  have hk : Kept codec sampleStream (fresh sampleStream) := kept_fresh
  rw [hk.atomic_iff rfl] at ha
  have he : ((fresh sampleStream).ledger.newEvents
      (.admitTip sampleBuild 1)).length = 3 := by decide +kernel
  have hh : ((fresh sampleStream).ledger.newEvents
      (.admitTip sampleBuild 1)).head? = some firstObserved := by decide +kernel
  have hans : (fresh sampleStream).ledger.outcome
      (.admitTip sampleBuild 1) = .ok () := by decide +kernel
  have hs : survivors codec (fresh sampleStream) (.transact (.admitTip sampleBuild 1))
      ((codec.encode firstObserved).length + 1) = 1 := by
    obtain ⟨rest, hr⟩ := head?_eq_some_iff.mp hh
    rw [survivors, appends, if_pos ⟨rfl, hans⟩, hr, takeWhile_cons_of_pos (by simpa), lines,
      map_cons, join_cons, take_length_add_append, count_append,
      count_eq_zero_of_not_mem (codec.newline_notMem _)]
    rfl
  obtain hn | ⟨ht, -⟩ := ha
  · rw [hs] at hn
    cases hn
  · rw [hs] at ht
    exact absurd (ht.trans he) (by decide)

end RollingTipLedgerStore

end Glaeda
