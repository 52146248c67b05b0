import Mathlib.Logic.Function.Basic
import Mathlib.Data.List.Basic

/-!
# Index entries of a fleet store

An index entry is a file under the digest of its key. The first entry is to
win: a file is published by a hard link, which fails when there is one, and a
file that exists is replaced only when the store would not serve it. Reading
the file, judging it and replacing it are separate steps, and calls run
concurrently.

When the file is absent or served at the start, no call ever comes to replace
it and **the first entry wins** under every interleaving. A file that is not
served at the start can be judged by two calls before either replaces it, and
then the second replaces the entry of the first (`firstWins_iff`). A lookup
moreover does not replace a file that it cannot decode.
-/

namespace Glaeda.FleetCas

variable {V : Type} [DecidableEq V]

/-- What is found where the index should be. -/
inductive IndexFile (V : Type) where
  | absent
  | damaged
  | holds (value : V)
deriving DecidableEq

/-- **How far a call has come**: the file operation that comes next. -/
inductive Call (V : Type) where
  | put (value : V)
  | putExisting (value : V)
  | putReplace (value : V)
  | get
  | warm
  | fetch (replace : Bool)
  | keep (value : V) (replace : Bool)
  | done (answer : Option V)
deriving DecidableEq

/-- **One step of a call**: a write, a lookup, or one entry of a warm run. The
value of a write is the signed one; `fetched` is what the fleet store answers,
if it is asked. -/
def Call.step (servable : V → Bool) (marker : Bool) (file : IndexFile V) (fetched : Option V) :
    Call V → IndexFile V × Call V
  | .put value =>
    if servable value = false then (file, .done none)
    else match file with
    | .absent => (.holds value, .done none)
    | _ => (file, .putExisting value)
  | .putExisting value =>
    match file with
    | .absent => (file, .done none)
    | .damaged => (file, .putReplace value)
    | .holds existing =>
      if existing = value ∨ servable existing = true ∧ marker = false then (file, .done none)
      else (file, .putReplace value)
  | .putReplace value => (.holds value, .done none)
  | .get =>
    match file with
    | .absent | .damaged => (file, .fetch false)
    | .holds value =>
      if servable value = true then (file, .done (some value)) else (file, .fetch true)
  | .warm =>
    match file with
    | .absent => (file, .fetch false)
    | .damaged => (file, .fetch true)
    | .holds value =>
      if servable value = true then (file, .done none) else (file, .fetch true)
  | .fetch replace =>
    match fetched with
    | none => (file, .done none)
    | some value =>
      -- only an entry that verifies is kept, and its objects prefetched
      if servable value = false then (file, .done none) else (file, .keep value replace)
  | .keep value replace =>
    if replace = true then (.holds value, .done (some value))
    else match file with
    | .absent => (.holds value, .done (some value))
    | _ => (file, .done (some value))
  | .done answer => (file, .done answer)

/-! ## The first entry wins -/

/-- **The file of a key and the calls for it.** -/
structure Index (V : Type) where
  file : IndexFile V
  calls : Nat → Call V

/-- One event at the index. -/
def Index.step (servable : V → Bool) (s : Index V) (event : Nat × Option V) : Index V :=
  let next := (s.calls event.1).step servable false s.file event.2
  ⟨next.1, Function.update s.calls event.1 next.2⟩

/-- The index after some events. -/
def Index.run (servable : V → Bool) (s : Index V) (events : List (Nat × Option V)) : Index V :=
  events.foldl (Index.step servable) s

/-- The file holds a value that can be served. -/
def IndexFile.Serves (servable : V → Bool) (file : IndexFile V) : Prop :=
  ∃ value, file = .holds value ∧ servable value = true

/-- The call has just begun. -/
def Call.Starts (call : Call V) : Prop := call = .get ∨ ∃ value, call = .put value

/-- **The first valid entry wins** from this file on: after every run of calls,
the next step keeps an entry that is served, and a lookup that keeps what it
fetched leaves an entry that is served. -/
def FirstWins (servable : V → Bool) (file : IndexFile V) : Prop :=
  ∀ calls : Nat → Call V, (∀ p, (calls p).Starts) → ∀ events event,
    let s := Index.run servable ⟨file, calls⟩ events
    (s.file.Serves servable → (s.step servable event).file = s.file)
      ∧ ∀ value replace, s.calls event.1 = .keep value replace →
        (s.step servable event).file.Serves servable

/-- **A call that will not replace the file**, and keeps only what is served. -/
def Call.Quiet (servable : V → Bool) : Call V → Prop
  | .putReplace _ => False
  | .fetch replace => replace = false
  | .keep value replace => replace = false ∧ servable value = true
  | _ => True

/-- The file is absent or can be served. -/
def IndexFile.Sound (servable : V → Bool) (file : IndexFile V) : Prop :=
  file = .absent ∨ file.Serves servable

variable {servable : V → Bool}

/-- **A quiet call stays quiet** at a file that is absent or served, does not
change an entry that is served, and leaves one when it keeps what it fetched. -/
theorem Call.Quiet.step {call : Call V} {file : IndexFile V} (h : call.Quiet servable)
    (hf : file.Sound servable) (fetched : Option V) :
    let next := call.step servable false file fetched
    next.1.Sound servable ∧ next.2.Quiet servable ∧ (file.Serves servable → next.1 = file)
      ∧ ∀ value replace, call = .keep value replace → next.1.Serves servable := by
  have hk (value : V) (hv : servable value = true) :
      (IndexFile.holds value).Serves servable := ⟨value, rfl, hv⟩
  cases call with
  | put value =>
    by_cases hv : servable value = true
    · obtain rfl | ⟨existing, rfl, hexi⟩ := hf
      · simp [Call.step, hv, Call.Quiet, IndexFile.Sound, IndexFile.Serves]
      · simpa [Call.step, hv, Call.Quiet] using .inr (hk existing hexi)
    · simpa [Call.step, hv, Call.Quiet] using hf
  | putExisting value =>
    obtain rfl | ⟨existing, rfl, hexi⟩ := hf
    · simp [Call.step, Call.Quiet, IndexFile.Sound]
    · simpa [Call.step, hexi, Call.Quiet] using .inr (hk existing hexi)
  | putReplace value => exact h.elim
  | get | warm =>
    obtain rfl | ⟨existing, rfl, hexi⟩ := hf
    · simp [Call.step, Call.Quiet, IndexFile.Sound]
    · simpa [Call.step, hexi, Call.Quiet] using .inr (hk existing hexi)
  | fetch replace =>
    obtain rfl : replace = false := h
    cases fetched with
    | none => simpa [Call.step, Call.Quiet] using hf
    | some value =>
      by_cases hv : servable value = true
      · simpa [Call.step, hv, Call.Quiet] using hf
      · simpa [Call.step, hv, Call.Quiet] using hf
  | keep value replace =>
    obtain ⟨rfl, hv⟩ := h
    obtain rfl | ⟨existing, rfl, hexi⟩ := hf
    · simpa [Call.step, Call.Quiet, IndexFile.Sound, IndexFile.Serves] using hv
    · simpa [Call.step, Call.Quiet, IndexFile.Sound] using hk existing hexi
  | done answer => simpa [Call.step, Call.Quiet] using hf

/-- **Every run keeps its calls quiet.** -/
theorem Index.run_quiet {s : Index V} (hf : s.file.Sound servable)
    (hc : ∀ p, (s.calls p).Quiet servable) (events : List (Nat × Option V)) :
    (s.run servable events).file.Sound servable
      ∧ ∀ p, ((s.run servable events).calls p).Quiet servable := by
  induction events generalizing s with
  | nil => exact ⟨hf, hc⟩
  | cons event events ih =>
    obtain ⟨hf', hcl, -, -⟩ := (hc event.1).step hf event.2
    refine ih hf' fun p => ?_
    by_cases hp : p = event.1
    · subst hp
      show (Function.update s.calls event.1 _ event.1).Quiet servable
      rwa [Function.update_self]
    · show (Function.update s.calls event.1 _ p).Quiet servable
      rw [Function.update_of_ne hp]
      exact hc p

/-- **Two writes that judge the file before either replaces it.** -/
theorem not_firstWins {file : IndexFile V} (hf : ¬ file.Sound servable) {v w : V}
    (hv : servable v = true) (hw : servable w = true) (hne : v ≠ w) :
    ¬ FirstWins servable file := by
  intro h
  let calls : Nat → Call V := fun p => if p = 0 then .put v else .put w
  have hs : ∀ p, (calls p).Starts := fun p => by
    by_cases hp : p = 0 <;> simp [calls, hp, Call.Starts]
  have hl := (h calls hs [(0, none), (1, none), (0, none), (1, none), (0, none)]
    (1, none)).1
  cases file with
  | absent => exact hf (.inl rfl)
  | damaged =>
    simp [Index.run, Index.step, Call.step, calls, hv, hw, IndexFile.Serves, hne.symm] at hl
  | holds u =>
    have hu : servable u = false := by
      by_contra hu
      exact hf (.inr ⟨u, rfl, by simpa using hu⟩)
    have huv : u ≠ v := fun heq => by simp [← heq, hu] at hv
    have huw : u ≠ w := fun heq => by simp [← heq, hu] at hw
    simp [Index.run, Index.step, Call.step, calls, hv, hw, hu, huv, huw, IndexFile.Serves,
      hne.symm] at hl

/-- **The first valid entry wins exactly when the file is absent or served at
the start**, as soon as there are two entries to write. -/
theorem firstWins_iff (servable : V → Bool) (file : IndexFile V) (v w : V)
    (hv : servable v = true) (hw : servable w = true) (hne : v ≠ w) :
    FirstWins servable file ↔ file = .absent ∨ file.Serves servable := by
  constructor
  · intro h
    by_contra hf
    exact not_firstWins hf hv hw hne h
  · intro hf calls hst events event
    have hq : ∀ p, (calls p).Quiet servable := fun p => by
      obtain hp | ⟨value, hp⟩ := hst p <;> rw [hp] <;> trivial
    obtain ⟨hf, hc⟩ := Index.run_quiet (s := ⟨file, calls⟩) hf hq events
    obtain ⟨-, -, hk, hs⟩ := (hc event.1).step hf event.2
    exact ⟨hk, hs⟩

theorem firstWins_iff_absent : FirstWins (fun _ : Bool => true) .absent :=
  (firstWins_iff (fun _ => true) .absent true false rfl rfl (by decide)).mpr (.inl rfl)

/-- **A damaged file at the start**: the entry of the first write is replaced. -/
theorem not_firstWins_damaged : ¬ FirstWins (fun _ : Bool => true) .damaged :=
  not_firstWins (by rintro (h | ⟨_, h, -⟩) <;> cases h) rfl rfl Bool.false_ne_true

end Glaeda.FleetCas
