import Mathlib.Logic.Function.Basic
import Mathlib.Data.List.Basic

/-!
# Documents changed by compare-and-swap

A document is shared by any number of processes. A process reads the document
together with its head, computes a change from what it read, and writes it;
the write succeeds only while the head is still the one that was read.

Whatever the interleaving, a write that succeeds changed the **current**
document (`write_cases`). So what every change preserves, every run preserves.
-/

namespace Optimistic

variable {D C : Type}

/-- **A shared document**, its head, and what each process read last. -/
structure Store (D : Type) where
  head : Nat
  doc : D
  reads : Nat → Option (Nat × D)

/-- A process reads, or writes what it made of its reading. -/
inductive Action (C : Type)
  | read (process : Nat)
  | write (process : Nat) (change : C)

/-- **One step.** A change may decline, and a write from an old head is
refused; both leave the document alone. -/
def step (apply : C → D → Option D) (store : Store D) : Action C → Store D
  | .read process =>
    { store with reads := Function.update store.reads process (some (store.head, store.doc)) }
  | .write process change =>
    match store.reads process with
    | none => store
    | some (head, doc) =>
      if head = store.head then
        match apply change doc with
        | none => store
        | some new => { store with head := store.head + 1, doc := new }
      else store

/-- The store after some actions. -/
def run (apply : C → D → Option D) (store : Store D) (actions : List (Action C)) : Store D :=
  actions.foldl (step apply) store

/-- **What was read at the present head is the present document.** -/
def Fresh (store : Store D) : Prop :=
  ∀ process head doc, store.reads process = some (head, doc) →
    head ≤ store.head ∧ (head = store.head → doc = store.doc)

variable (apply : C → D → Option D) {store : Store D}

/-- **A step that writes** leaves the store or changes the current document. -/
theorem write_cases (h : Fresh store) (process : Nat) (change : C) :
    step apply store (.write process change) = store ∨ ∃ new, apply change store.doc = some new
          ∧ step apply store (.write process change)
            = { store with head := store.head + 1, doc := new } := by
  cases hr : store.reads process with
  | none => exact .inl (by simp only [step, hr])
  | some read =>
    obtain ⟨head, doc⟩ := read
    by_cases hh : head = store.head
    · obtain rfl := (h process head doc hr).2 hh
      cases hn : apply change store.doc with
      | none => exact .inl (by simp only [step, hr, if_pos hh, hn])
      | some new => exact .inr ⟨new, rfl, by simp only [step, hr, if_pos hh, hn]⟩
    · exact .inl (by simp only [step, hr, if_neg hh])

theorem Fresh.step (h : Fresh store) (action : Action C) :
    Fresh (Optimistic.step apply store action) := by
  cases action with
  | read process =>
    intro other head doc hr
    by_cases ho : other = process
    · subst ho
      have hr := (Function.update_self _ _ _).symm.trans hr
      obtain ⟨rfl, rfl⟩ := Prod.mk.inj (Option.some.inj hr)
      exact ⟨Nat.le_refl _, fun _ => rfl⟩
    · exact h other head doc ((Function.update_of_ne ho _ _).symm.trans hr)
  | write process change =>
    obtain hs | ⟨new, _, hst⟩ := write_cases apply h process change
    · rwa [hs]
    · rw [hst]
      intro other head doc hr
      have hle := (h other head doc hr).1
      exact ⟨Nat.le_succ_of_le hle, fun heq => absurd heq (Nat.ne_of_lt (Nat.lt_succ_of_le hle))⟩

/-- **The rule of runs.** What every change preserves holds of the document
after every run, and what was read stays fresh. -/
theorem run_invariant {P : D → Prop}
    (hc : ∀ change doc new, P doc → apply change doc = some new → P new)
    (hf : Fresh store) (hd : P store.doc) (actions : List (Action C)) :
    Fresh (run apply store actions) ∧ P (run apply store actions).doc := by
  induction actions generalizing store with
  | nil => exact ⟨hf, hd⟩
  | cons action actions ih =>
    refine ih (hf.step apply action) ?_
    cases action with
    | read process => exact hd
    | write process change =>
      obtain hs | ⟨new, hn, hst⟩ := write_cases apply hf process change
      · rwa [hs]
      · rw [hst]
        exact hc change store.doc new hd hn

end Optimistic
