import Mathlib.Tactic

/-!
# Checked computations

A checked computation either produces a value or refuses with an error, and
it is written as a sequence of guards followed by a result. Proofs about one
always take it apart in the same way: it produced a value, therefore every
guard let it pass and every step before the last produced a value of its
own. The lemmas below say that once, as equivalences, so that a later proof
peels a computation with `simp only` or `obtain` and never unfolds `bind`.

Nothing here is specific to one program: the error type and the value types
are arbitrary.
-/

namespace Checked

open List

variable {ε ε' α β σ : Type}
variable {condition : Prop} {x : Except ε α} {a : α} {f : α → Except ε β} {b : β} {P : ε → Prop}
variable {xs : List α} {step : σ → α → Except ε σ}

/-- **A guard**: refuse with `error` when the condition holds, and pass
otherwise. -/
def refuseIf (condition : Prop) [Decidable condition] (error : ε) : Except ε Unit :=
  if condition then .error error else .ok ()

@[simp] theorem refuseIf_eq_ok [Decidable condition] {error : ε}
    {u : Unit} : refuseIf condition error = .ok u ↔ ¬ condition := by
  unfold refuseIf
  split <;> simp_all

theorem refuseIf_of_not [Decidable condition] {error : ε}
    (h : ¬ condition) : refuseIf condition error = .ok () :=
  refuseIf_eq_ok.mpr h

theorem refuseIf_not [Decidable (¬ condition)] {error : ε} (h : condition) :
    refuseIf (¬ condition) error = .ok () :=
  refuseIf_of_not (not_not.mpr h)

theorem refuseIf_of [Decidable condition] {error : ε} (h : condition) :
    refuseIf condition error = .error error :=
  if_pos h

@[simp] theorem refuseIf_eq_error [Decidable condition] {error error' : ε} :
    refuseIf condition error = .error error' ↔ condition ∧ error = error' := by
  unfold refuseIf
  split <;> simp_all

theorem eq_ok_of_mem_toOption (h : a ∈ x.toOption) : x = .ok a := by
  cases x with
  | error e => cases h
  | ok b => exact congrArg Except.ok (Option.some.inj h)

/-- **A sequence produces a value** exactly when its first step does and the
rest produces the value from it. -/
@[simp] theorem bind_eq_ok : x >>= f = .ok b ↔ ∃ a, x = .ok a ∧ f a = .ok b := by
  cases x <;> simp [bind, Except.bind]

/-- A sequence that starts with a guard produces a value exactly when the
guard passes and the rest produces the value. -/
theorem guard_bind_eq_ok {x : Except ε Unit} {f : Unit → Except ε β} :
    x >>= f = .ok b ↔ x = .ok () ∧ f () = .ok b := by
  rw [bind_eq_ok]
  exact ⟨fun ⟨_, h⟩ => h, fun h => ⟨(), h⟩⟩

theorem refuseIf_bind_eq_ok [Decidable condition] {error : ε} {f : Unit → Except ε β} :
    refuseIf condition error >>= f = .ok b ↔ ¬ condition ∧ f () = .ok b := by
  rw [guard_bind_eq_ok, refuseIf_eq_ok]

/-- **A sequence refuses** when its first step refuses, or when the rest
refuses what the first step produced. -/
theorem bind_eq_error {e : ε} :
    x >>= f = .error e ↔ x = .error e ∨ ∃ a, x = .ok a ∧ f a = .error e := by
  cases x <;> simp [bind, Except.bind]

@[simp] theorem ok_bind (a : α) (f : α → Except ε β) :
    (Except.ok a : Except ε α) >>= f = f a := rfl

@[simp] theorem error_bind (e : ε) (f : α → Except ε β) :
    (Except.error e : Except ε α) >>= f = .error e := rfl

@[simp] theorem pure_eq_ok (a : α) : (pure a : Except ε α) = .ok a := rfl

theorem pure_eq_ok_iff {b : α} : (pure a : Except ε α) = .ok b ↔ a = b := by
  rw [pure_eq_ok, Except.ok.injEq]

theorem refuseIf_bind [Decidable condition] {error : ε} {f : Unit → Except ε β}
    (h : ¬ condition) : refuseIf condition error >>= f = f () := by
  rw [refuseIf_of_not h, ok_bind]

@[simp] theorem throw_eq_error (e : ε) : (throw e : Except ε α) = .error e := rfl

@[simp] theorem map_eq_ok {f : α → β} : f <$> x = .ok b ↔ ∃ a, x = .ok a ∧ f a = b := by
  cases x <;> simp

@[simp] theorem mapError_eq_ok {f : ε → ε'} : x.mapError f = .ok a ↔ x = .ok a := by
  cases x <;> simp [Except.mapError]

theorem mapError_ok {f : ε → ε'} : (Except.ok a).mapError f = .ok a := rfl

theorem map_eq_error {f : α → β} {e : ε} : x.map f = .error e ↔ x = .error e := by
  cases x <;> simp [Except.map]

/-- **The value of an option, or a refusal.** -/
def okOr (x : Option α) (error : ε) : Except ε α :=
  match x with
  | some a => .ok a
  | none => .error error

@[simp] theorem okOr_eq_ok {x : Option α} {error : ε} : okOr x error = .ok a ↔ x = some a := by
  cases x <;> simp [okOr]

theorem okOr_some {error : ε} : okOr (some a) error = .ok a := rfl

/-- **The computation produces exactly this value.** -/
def okIs [DecidableEq α] (x : Except ε α) (a : α) : Bool :=
  match x with
  | .ok b => b = a
  | .error _ => false

@[simp] theorem okIs_eq_true [DecidableEq α] {x : Except ε α} {a : α} :
    okIs x a = true ↔ x = .ok a := by
  cases x <;> simp [okIs]

/-! ## Classes of errors -/

/-- **Every refusal of a computation is of a given class.** Nothing is said
about whether it refuses. -/
def RefusesOnly (P : ε → Prop) (x : Except ε α) : Prop := ∀ e, x = .error e → P e

theorem RefusesOnly.ok : RefusesOnly P (.ok a : Except ε α) := fun _ h => by cases h

theorem RefusesOnly.error {e : ε} (h : P e) : RefusesOnly P (.error e : Except ε α) :=
  fun _ he => by cases he; exact h

theorem RefusesOnly.refuseIf [Decidable condition]
    {e : ε} (h : P e) : RefusesOnly P (Checked.refuseIf condition e) := by
  intro e' he
  rw [refuseIf_eq_error] at he
  exact he.2 ▸ h

theorem RefusesOnly.bind
    (hx : RefusesOnly P x) (hf : ∀ a, RefusesOnly P (f a)) : RefusesOnly P (x >>= f) := by
  intro e he
  obtain he | ⟨a, _, he⟩ := bind_eq_error.mp he
  · exact hx e he
  · exact hf a e he

theorem RefusesOnly.map {f : α → β} (hx : RefusesOnly P x) : RefusesOnly P (f <$> x) := by
  intro e he
  cases x with
  | ok a => cases he
  | error e' => exact hx e (by cases he; rfl)

/-! ## Lists of checked computations -/

/-- **A list of computations produces a list** exactly when each produces the
value at its place. -/
theorem mapM_eq_ok {ys : List β} :
    xs.mapM f = .ok ys ↔ List.Forall₂ (fun x y => f x = .ok y) xs ys := by
  induction xs generalizing ys with
  | nil => simp [eq_comm]
  | cons x xs ih =>
    rw [mapM_cons, forall₂_cons_left_iff]
    simp only [bind_eq_ok, pure_eq_ok, ih, Except.ok.injEq]
    constructor
    · rintro ⟨y, hy, ys, hys, rfl⟩
      exact ⟨y, ys, hy, hys, rfl⟩
    · rintro ⟨y, ys, hy, hys, rfl⟩
      exact ⟨y, hy, ys, hys, rfl⟩

theorem exists_mapM_eq_ok (h : ∀ x ∈ xs, ∃ y, f x = .ok y) : ∃ ys, xs.mapM f = .ok ys := by
  induction xs with
  | nil => exact ⟨[], rfl⟩
  | cons x xs ih =>
    obtain ⟨y, hy⟩ := h x mem_cons_self
    obtain ⟨ys, hys⟩ := ih (fun z hz => h z (mem_cons_of_mem x hz))
    refine ⟨y :: ys, ?_⟩
    rw [mapM_cons, hy, ok_bind, hys, ok_bind, pure_eq_ok]

theorem mapM_eq_ok_map {result : α → β} (h : ∀ a ∈ xs, f a = .ok (result a)) :
    xs.mapM f = .ok (xs.map result) :=
  mapM_eq_ok.mpr (forall₂_map_right_iff.mpr (forall₂_same.mpr h))

theorem mapM_map_eq_self {view : β → α} {ys : List β} (h : ∀ b ∈ ys, f (view b) = .ok b) :
    (ys.map view).mapM f = .ok ys :=
  mapM_eq_ok.mpr (forall₂_map_left_iff.mpr (forall₂_same.mpr h))

/-! ## Folds -/

/-- **An invariant of a fold over checked steps.** What one accepted step
preserves, a whole accepted fold preserves. -/
theorem foldlM_invariant {P : σ → Prop}
    {s t : σ} (hst : ∀ s x t, x ∈ xs → P s → step s x = .ok t → P t) (hs : P s)
    (h : xs.foldlM step s = .ok t) : P t := by
  induction xs generalizing s with
  | nil =>
    rw [foldlM_nil, pure_eq_ok, Except.ok.injEq] at h
    exact h ▸ hs
  | cons x xs ih =>
    rw [foldlM_cons, bind_eq_ok] at h
    obtain ⟨r, hr, h⟩ := h
    refine ih (fun s y t hy => hst s y t (mem_cons_of_mem x hy)) ?_ h
    exact hst s x r mem_cons_self hs hr

/-- What an accepted step says about its entry holds of every entry of an
accepted fold. -/
theorem foldlM_forall_mem {P : α → Prop} {s t : σ}
    (hs : ∀ s x t, step s x = .ok t → P x) (h : xs.foldlM step s = .ok t) :
    ∀ x ∈ xs, P x := by
  induction xs generalizing s with
  | nil => exact forall_mem_nil _
  | cons x xs ih =>
    rw [foldlM_cons, bind_eq_ok] at h
    obtain ⟨r, hr, h⟩ := h
    exact forall_mem_cons.mpr ⟨hs s x r hr, ih h⟩

/-- **A fold seen through a projection.** Where each accepted step is an
accepted step of a smaller loop, so is the whole fold. -/
theorem foldlM_map {τ : Type} {step' : τ → α → Except ε τ} (π : σ → τ) {xs : List α} {s t : σ}
    (hs : ∀ s x t, step s x = .ok t → step' (π s) x = .ok (π t))
    (h : xs.foldlM step s = .ok t) : xs.foldlM step' (π s) = .ok (π t) := by
  induction xs generalizing s with
  | nil =>
    rw [foldlM_nil, pure_eq_ok, Except.ok.injEq] at h
    rw [h, foldlM_nil, pure_eq_ok]
  | cons x xs ih =>
    rw [foldlM_cons, bind_eq_ok] at h
    obtain ⟨r, hr, h⟩ := h
    rw [foldlM_cons, hs s x r hr, ok_bind]
    exact ih h

/-! ## Distinct keys

A loop checks each entry of a list and refuses a key it has seen before. -/

section Distinct

variable {κ : Type} [DecidableEq κ] {check : α → Except ε Unit} {key : α → κ} {error : ε}

/-- One turn of a check that keys are distinct. -/
def insertDistinct (check : α → Except ε Unit) (key : α → κ) (error : ε) (seen : List κ) (a : α) :
    Except ε (List κ) := do
  check a
  refuseIf (key a ∈ seen) error
  return key a :: seen

theorem insertDistinct_eq_ok {seen seen' : List κ} {a : α} :
    insertDistinct check key error seen a = .ok seen'
      ↔ check a = .ok () ∧ key a ∉ seen ∧ seen' = key a :: seen := by
  unfold insertDistinct
  simp only [guard_bind_eq_ok, refuseIf_eq_ok, pure_eq_ok, Except.ok.injEq]
  exact and_congr_right fun _ => and_congr_right fun _ => eq_comm

/-- **The loop accepts** the entries that pass their check and bring a new key
each, and no others. -/
theorem foldlM_insertDistinct_eq_ok {entries : List α} {seen seen' : List κ} :
    entries.foldlM (insertDistinct check key error) seen = .ok seen'
      ↔ (∀ a ∈ entries, check a = .ok ()) ∧ (entries.map key).Nodup
        ∧ (∀ a ∈ entries, key a ∉ seen) ∧ seen' = (entries.map key).reverse ++ seen := by
  induction entries generalizing seen with
  | nil => simp [eq_comm]
  | cons a entries ih =>
    rw [foldlM_cons, bind_eq_ok]
    rw [forall_mem_cons, forall_mem_cons]
    simp only [insertDistinct_eq_ok, ih, map_cons, nodup_cons, reverse_cons,
      append_assoc, singleton_append]
    constructor
    · rintro ⟨-, ⟨hc, hn, rfl⟩, hr, hnd, hu, rfl⟩
      refine ⟨⟨hc, hr⟩, ⟨?_, hnd⟩, ⟨hn, ?_⟩, rfl⟩
      · intro hm
        obtain ⟨b, hb, hk⟩ := mem_map.mp hm
        exact hu b hb (hk ▸ mem_cons_self)
      · intro b hb hm
        exact hu b hb (mem_cons_of_mem _ hm)
    · rintro ⟨⟨hc, hr⟩, ⟨hh, hnd⟩, ⟨hn, hu⟩, rfl⟩
      refine ⟨_, ⟨hc, hn, rfl⟩, hr, hnd, ?_, rfl⟩
      intro b hb hm
      rcases mem_cons.mp hm with hk | hm
      · exact hh (hk ▸ mem_map_of_mem hb)
      · exact hu b hb hm

end Distinct

end Checked
