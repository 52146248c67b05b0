import Mathlib.Data.List.DropRight
import Mathlib.Data.List.Sort
import Mathlib.Data.Rat.Floor
import Mathlib.Tactic.Linarith
import Glaeda.Optimistic

/-!
# The reservation ledger of the route

A run asks the route for an owned machine. The route looks at the published
pool state – how many machines of each pool are idle – and at the ledger of
reservations, takes what the reservations still `pending` use up off the idle
count, and adds a reservation of its own. The ledger is one document that
routes and rescue agents change by compare-and-swap.

A finished reservation counts until the pool state is newer than its end.
**Pruning** drops finished reservations by age, which is harmless, and by
count, which is not: `never_overcommits` says when it is.

Times are numbers of seconds; how a time is written in a document, which texts
are times, and what a text is in lower case, is left to a `Calendar`.
-/

namespace Glaeda.Route

open Optimistic

/-- **How texts are read and written.** -/
structure Calendar (Stamp : Type) where
  parseUtc : Stamp → Option ℚ
  utc : ℚ → Stamp
  lower : String → String

/-- How old an observation may be. -/
def maxAgeSeconds : ℚ := 60
/-- How far ahead an observation may be. -/
def maxSkewSeconds : ℚ := 30
/-- How long a reservation holds. -/
def holdSeconds : ℚ := 900
/-- How long an ended reservation is kept. -/
def keepSeconds : ℚ := 3600
/-- What is left for more urgent runs. -/
def lowPriorityReserve : Nat := 1
/-- The most slots of a reservation. -/
def maxSlots : Nat := 10
/-- The most reservations. -/
def maxReservations : Nat := 400

/-- The events that are trusted. -/
def trustedEvents : List String :=
  ["pull_request", "push", "merge_group", "schedule", "workflow_dispatch"]

/-- How urgent a request is. -/
inductive Priority
  | pr | dev | nightly | warm
  deriving DecidableEq, Repr

/-- Pull request and dev work goes before the rest. -/
def Priority.isHigh : Priority → Bool
  | .pr | .dev => true
  | .nightly | .warm => false

/-- What became of a reservation. -/
inductive ReservationState
  | held | rescuing | released | rescued | failed
  deriving DecidableEq, Repr

namespace ReservationState

/-- The reservation is not over. -/
def isLive : ReservationState → Bool
  | .held | .rescuing => true
  | _ => false

/-- A state as text. -/
def name : ReservationState → String
  | .held => "held"
  | .rescuing => "rescuing"
  | .released => "released"
  | .rescued => "rescued"
  | .failed => "failed"

end ReservationState

/-- Room kept for a run. -/
structure Reservation (Stamp : Type) where
  id : String
  repo : String
  runId : Nat
  runAttempt : Nat
  headSha : String
  kind : String
  priority : Priority
  pool : String
  slots : Nat
  started : Nat
  state : ReservationState
  createdAt : Stamp
  holdUntil : Stamp
  startedAt : Option Stamp := none
  endedAt : Option Stamp := none
  cancelAt : Option Stamp := none
  forced : Bool := false
  note : String := ""

/-! ## Pool labels -/

/-- Numbers with dots between them. -/
def isVersion (text : List Char) : Bool :=
  (text.splitOn '.').all fun part => part ≠ [] ∧ part.all Char.isDigit

/-- The class and the Xcode version of a label `glaeda-<class>-xcode-<version>`. -/
def poolLabel (label : String) : Option (String × String) :=
  match label.toList.splitOn '-' with
  | [glaeda, cls, xcode, version] =>
    if glaeda = "glaeda".toList ∧ String.ofList cls ∈ ["std", "light", "xl"]
        ∧ xcode = "xcode".toList ∧ isVersion version then
      some (String.ofList cls, String.ofList version)
    else none
  | _ => none

/-- The label of a pool. -/
def isPool (label : String) : Bool := (poolLabel label).any fun (cls, _) => cls ∈ ["std", "light"]

/-- The version in the name of an Xcode app. -/
def appVersion (app : List Char) : String :=
  let version := (app.drop 6).take (app.length - 10)
  if app = "Xcode_".toList ++ version ++ ".app".toList ∧ isVersion version then
    String.ofList version
  else ""

/-- The characters that are blank, in every script. -/
def isBlank (c : Char) : Bool :=
  c.toNat ∈ [0x20, 0x85, 0xa0, 0x1680, 0x2028, 0x2029, 0x202f, 0x205f, 0x3000]
    ∨ 0x09 ≤ c.toNat ∧ c.toNat ≤ 0x0d ∨ 0x1c ≤ c.toNat ∧ c.toNat ≤ 0x1f
    ∨ 0x2000 ≤ c.toNat ∧ c.toNat ≤ 0x200a

/-- The text without the blanks around it. -/
def strip (text : List Char) : List Char := (text.dropWhile isBlank).rdropWhile isBlank

/-- A version, or the version in the path of an Xcode app. -/
def xcodeVersion (value : String) : String :=
  let value := strip value.toList
  if isVersion value then String.ofList value
  else
    match (value.splitOn '/').reverse with
    | [] :: app :: _ :: _ => appVersion app
    | app :: _ :: _ => appVersion app
    | _ => ""

variable {Stamp : Type} [LinearOrder Stamp] (calendar : Calendar Stamp)

/-! ## Counting -/

variable (entry : Reservation Stamp)

/-- The reservation still holds. -/
def live (now : ℚ) : Bool :=
  entry.state = .held ∧ now < (calendar.parseUtc entry.holdUntil).getD 0

/-- The time is known and not before what was seen. -/
def notBefore (stamp : Option Stamp) (seen : ℚ) : Bool :=
  (stamp.bind calendar.parseUtc).any (seen ≤ ·)

/-- **The slots a reservation still takes** from the idle count of a pool state. -/
def pending (now : ℚ) (observedAt : Option ℚ) : Nat :=
  let seen := observedAt.getD now
  match entry.state with
  | .rescuing => entry.slots
  | .held =>
    if notBefore calendar entry.startedAt seen then entry.slots
    else if live calendar entry now then entry.slots - entry.started
    else 0
  | _ => if notBefore calendar entry.endedAt seen then entry.slots else 0

variable (ledger : List (Reservation Stamp))

/-- The slots all reservations of a pool still take. -/
def poolPending (pool : String) (now : ℚ) (observedAt : Option ℚ) : Nat :=
  ((ledger.filter (·.pool = pool)).map (pending calendar · now observedAt)).sum

/-! ## Checking and pruning -/

/-- A reservation that can be read. -/
def validReservation : Bool :=
  (entry.startedAt.all fun stamp => (calendar.parseUtc stamp).isSome)
    ∧ (entry.endedAt.all fun stamp => (calendar.parseUtc stamp).isSome)
    ∧ isPool entry.pool ∧ 1 ≤ entry.slots ∧ entry.slots ≤ maxSlots
    ∧ (calendar.parseUtc entry.createdAt).isSome ∧ (calendar.parseUtc entry.holdUntil).isSome

/-- **A valid ledger**: every reservation is, and no two have the same id. -/
def Valid : Prop :=
  (∀ entry ∈ ledger, validReservation calendar entry) ∧ (ledger.map (·.id)).Nodup

instance decidableValid (ledger : List (Reservation Stamp)) : Decidable (Valid calendar ledger) :=
  inferInstanceAs (Decidable (_ ∧ _))

/-- A ledger that can be read. -/
def checkLedger : Option (List (Reservation Stamp)) :=
  if Valid calendar ledger then some ledger else none

/-- The order in which reservations are made. -/
def byCreation (a b : Reservation Stamp) : Bool := a.createdAt ≤ b.createdAt

/-- The reservation ended not long ago. -/
def recent (now : ℚ) (entry : Reservation Stamp) : Bool :=
  now - (calendar.parseUtc (entry.endedAt.getD entry.createdAt)).getD 0 < keepSeconds

/-- The finished reservations that are not too old, oldest first. -/
def done (now : ℚ) : List (Reservation Stamp) :=
  (ledger.filter fun entry => ¬ entry.state.isLive ∧ recent calendar now entry).mergeSort byCreation

/-- How many of them do not fit beside the live ones. -/
def excess (now : ℚ) : Nat :=
  (done calendar ledger now).length - (maxReservations - ledger.countP (·.state.isLive))

/-- The ledger without what is old. -/
def prune (now : ℚ) : List (Reservation Stamp) :=
  (ledger.filter (·.state.isLive)
    ++ (done calendar ledger now).drop (excess calendar ledger now)).mergeSort byCreation

/-! ## Deciding -/

/-- What is known of a pool. -/
structure PoolEntry where
  online : Nat
  busy : Nat
  idle : Nat
  /-- Why the `resource` section of the entry is refused, if it is. -/
  resourceError : Option String := none

/-- What is known of all pools. -/
structure PoolState (Stamp : Type) where
  schema : String
  repo : String
  generatedAt : Option Stamp
  observedAt : Option Stamp
  pools : List (String × PoolEntry)
  order : List String
  /-- Why the `overflow` section is refused, if it is. -/
  overflowError : Option String := none

namespace PoolState

/-- When the pools were seen. -/
def observed (state : PoolState Stamp) : Option ℚ := state.observedAt.bind calendar.parseUtc

/-- How many runners of a pool are idle. -/
def idle (state : PoolState Stamp) (label : String) : Nat :=
  ((state.pools.lookup label).map PoolEntry.idle).getD 0

/-- Why an entry of the state is refused, if it is. -/
def entryError (label : String) (entry : PoolEntry) : Option String :=
  if ¬ isPool label then some ("pool state names an unknown pool '" ++ label ++ "'")
  else if entry.online < entry.idle ∨ entry.online < entry.busy then
    some ("pool state " ++ label ++ " counts more idle or busy runners than online ones")
  else entry.resourceError

end PoolState

/-- **Why a pool state cannot be used**, if it cannot. -/
def validateState (state : Option (PoolState Stamp)) (now : ℚ) (repo : String) : Option String :=
  match state with
  | none => some "no pool state"
  | some doc =>
    if doc.schema ≠ "glaeda-pool-state/v1" then
      some ("pool state schema is '" ++ doc.schema ++ "', not glaeda-pool-state/v1")
    else if calendar.lower doc.repo ≠ calendar.lower repo then
      some ("pool state is for '" ++ doc.repo ++ "', not " ++ repo)
    else
      match doc.generatedAt.bind calendar.parseUtc, doc.observed calendar with
      | some generated, some observed =>
        if now + maxSkewSeconds < generated ∨ generated + maxSkewSeconds < observed then
          some "pool state is dated in the future"
        else if maxAgeSeconds < now - observed then
          some ("pool state is stale (" ++ toString ⌊now - observed⌋ ++ " s old, limit 60 s)")
        else if doc.order.mergeSort ≠ (doc.pools.map Prod.fst).mergeSort then
          some "pool state is malformed (order and pools disagree)"
        else
          ((doc.pools.findSome? fun (label, entry) => PoolState.entryError label entry)
            <|> doc.overflowError)
      | _, _ => some "pool state is undated"

/-- A run that asks where to go. -/
structure Request where
  repo : String
  event : String
  headRepo : String
  runId : Nat
  runAttempt : Nat
  headSha : String
  kind : String
  priority : Priority
  slots : Nat
  xcode : String
  default : String

variable (req : Request)

/-- The name of a reservation. -/
def reservationId : String :=
  calendar.lower req.repo ++ "#" ++ toString req.runId ++ "." ++ toString req.runAttempt ++ "/"
    ++ req.kind

/-- Where a run goes, and why. -/
structure Decision (Stamp : Type) where
  runsOn : String
  owned : Bool
  reason : String
  pool : String := ""
  reservation : String := ""
  new : Option (Reservation Stamp) := none

/-- The run goes where it would anyway. -/
def default (req : Request) (reason : String) : Decision Stamp :=
  { runsOn := req.default, owned := false, reason }

/-- **Why this run may not use an owned machine**, if it may not. -/
def untrusted (allowedRepos : List String) : Option String :=
  if calendar.lower req.repo ∉ allowedRepos.map calendar.lower then
    some ((if req.repo = "" then "unknown repository" else req.repo) ++ " is not routed by Glaeda")
  else if req.event ∉ trustedEvents then
    some ((if req.event = "" then "unknown" else req.event)
      ++ " events never take an owned machine")
  else if req.event = "pull_request" ∧ calendar.lower req.headRepo ≠ calendar.lower req.repo then
    some "fork pull requests never take an owned machine"
  else if req.runAttempt ≠ 1 then
    some ("attempt " ++ toString req.runAttempt ++ " is a retry; retries run on overflow")
  else if ¬ (1 ≤ req.slots ∧ req.slots ≤ maxSlots) then some "slots must be 1 to 10"
  else if ¬ (req.headSha.toList.length = 40
      ∧ req.headSha.toList.all fun c => c.isDigit ∨ ('a' ≤ c ∧ c ≤ 'f')) then
    some "head commit unknown"
  else none

variable (state : PoolState Stamp)

/-- The idle machines of a pool that no reservation takes. -/
def free (ledger : List (Reservation Stamp)) (now : ℚ) (label : String) : Int :=
  (state.idle label : Int) - poolPending calendar ledger label now (state.observed calendar)

/-- A reservation for a request. -/
def newReservation (label : String) (now : ℚ) : Reservation Stamp where
  id := reservationId calendar req
  repo := req.repo
  runId := req.runId
  runAttempt := req.runAttempt
  headSha := req.headSha
  kind := req.kind
  priority := req.priority
  pool := label
  slots := req.slots
  started := 0
  state := .held
  createdAt := calendar.utc now
  holdUntil := calendar.utc (now + holdSeconds)

/-- The pools that carry the Xcode a run asks for. -/
def candidates (version : String) : List String :=
  if version = "" then []
  else state.order.filter fun label => (poolLabel label).map Prod.snd = some version

/-- The part of the decision after the state was found usable and the run
found without a reservation. -/
def choosePool (ledger : List (Reservation Stamp)) (req : Request) (now : ℚ) : Decision Stamp :=
  let version := xcodeVersion req.xcode
  let pools := candidates state version
  if pools = [] then
    default req ("no owned pool carries Xcode " ++ if version = "" then "(none given)" else version)
  else if maxReservations ≤ ledger.countP (·.state.isLive) then
    default req "the reservation ledger is full"
  else
    let waiting := ((ledger.filter (·.priority.isHigh)).map (pending calendar · now none)).sum
    if ¬ req.priority.isHigh ∧ waiting ≠ 0 then
      default req (toString waiting
        ++ " pull request or dev slot(s) still wait for owned machines")
    else
      let need := req.slots + if req.priority.isHigh then 0 else lowPriorityReserve
      let free := free calendar state ledger now
      let seen := ", ".intercalate (pools.map fun label =>
        label ++ " " ++ toString (free label) ++ " free")
      match pools.find? fun label => (need : Int) ≤ free label with
      | some label =>
        { runsOn := label
          owned := true
          reason := label ++ " has " ++ toString (free label) ++ " free of "
            ++ toString (state.idle label) ++ " idle (" ++ seen ++ ")"
          pool := label
          reservation := reservationId calendar req
          new := some (newReservation calendar req label now) }
      | none => default req ("no owned pool has " ++ toString need ++ " free (" ++ seen ++ ")")

/-- **The one route decision.** -/
def decideRoute (state : Option (PoolState Stamp)) (ledger : List (Reservation Stamp))
    (req : Request) (now : ℚ) (allowedRepos : List String) : Decision Stamp :=
  match untrusted calendar req allowedRepos, validateState calendar state now req.repo, state with
  | some why, _, _ => default req why
  | none, some why, _ => default req why
  | none, none, none => default req "no pool state"
  | none, none, some state =>
    match ledger.find? (·.id = reservationId calendar req) with
    | some earlier =>
      if live calendar earlier now then
        { runsOn := earlier.pool
          owned := true
          reason := "this run already holds a reservation"
          pool := earlier.pool
          reservation := reservationId calendar req }
      else default req ("this run's reservation is " ++ earlier.state.name)
    | none => choosePool calendar state ledger req now

/-! ## Changing the ledger -/

/-- What a look at one reservation changes of it. -/
structure Update (Stamp : Type) where
  state : Option ReservationState := none
  started : Option Nat := none
  startedAt : Option Stamp := none
  cancelAt : Option Stamp := none
  forced : Bool := false
  note : Option String := none

/-- A reservation after an update. -/
def Update.apply (update : Update Stamp) (entry : Reservation Stamp) : Reservation Stamp :=
  { entry with
    state := update.state.getD entry.state
    started := update.started.getD entry.started
    startedAt := update.startedAt <|> entry.startedAt
    cancelAt := update.cancelAt <|> entry.cancelAt
    forced := update.forced || entry.forced
    note := update.note.getD entry.note }

/-- An update reaches a reservation only in the state it was observed in. -/
def applyUpdate (updates : String → Option (ReservationState × Update Stamp)) (now : ℚ)
    (entry : Reservation Stamp) : Reservation Stamp :=
  match updates entry.id with
  | none => entry
  | some (observed, update) =>
    if entry.state = observed then
      let entry := update.apply entry
      if ¬ entry.state.isLive ∧ entry.endedAt = none then
        { entry with endedAt := some (calendar.utc now) }
      else entry
    else entry

/-- The ledger after some updates. -/
def applyUpdates (ledger : List (Reservation Stamp))
    (updates : String → Option (ReservationState × Update Stamp)) (now : ℚ) :
    Option (List (Reservation Stamp)) :=
  let changed := ledger.any fun entry => (updates entry.id).any fun (observed, _) =>
    entry.state = observed
  let updated := ledger.map (applyUpdate calendar updates now)
  let pruned := prune calendar updated now
  if changed ∨ pruned.length ≠ updated.length then some pruned else none

/-- **What is written to the ledger**: the reservation of a route, which
decides and prunes at two readings of its clock, or the updates of a tick. -/
inductive Change (Stamp : Type)
  | reserve (state : Option (PoolState Stamp)) (req : Request) (allowedRepos : List String)
      (now later : ℚ)
  | tick (updates : String → Option (ReservationState × Update Stamp)) (now : ℚ)

/-- The ledger after a change. -/
def Change.apply (change : Change Stamp) (ledger : List (Reservation Stamp)) :
    Option (List (Reservation Stamp)) :=
  match change with
  | .reserve state req allowedRepos now later =>
    (decideRoute calendar state ledger req now allowedRepos).new.bind fun entry =>
      checkLedger calendar (prune calendar (ledger ++ [entry]) later)
  | .tick updates now => (applyUpdates calendar ledger updates now).bind (checkLedger calendar)

end Glaeda.Route
