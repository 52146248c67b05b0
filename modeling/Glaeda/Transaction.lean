import Glaeda.Checked

/-!
# Transactions that can be cut off

A transaction reads a world that outlives it – a directory of files, say –
leaves **effects** on that world one after the other, and ends with a value
or a refusal. `Tx.run` gives both: the effects, in order, and the result.
The world a transaction leaves is the replay of its effects, so nothing else
it did can be seen afterwards.

A process can die between any two effects. What it leaves is then the world
after some of the first effects – `Tx.Crash` – and the next process starts
from there with a **recovery** transaction, which can be cut off in turn.
`Tx.completes_of_interrupted` is the rule by which a recovery is proved:
choose the set of worlds that lead to one outcome, show that the recovery
stays inside the set wherever it is cut off and reaches the outcome from
every member when it is not, and any number of interrupted recoveries
followed by a complete one reach that outcome.

The last section is about what a transaction keeps **all the way**: `Tx.Wp`
says that every world it passes through has a property, and what holds of the
world it leaves with a value or with a refusal. It is proved from the parts of
the transaction.

The worlds, the effects, the values and the errors are arbitrary.
-/

namespace Transaction

open List Checked

variable {S E ε ε' α β : Type} {apply : S → E → S}

/-- The state after some effects. -/
def replay (apply : S → E → S) (s : S) (effects : List E) : S := effects.foldl apply s

@[simp] theorem replay_nil (s : S) : replay apply s [] = s := rfl

@[simp] theorem replay_append (s : S) (first second : List E) :
    replay apply s (first ++ second) = replay apply (replay apply s first) second :=
  foldl_append

/-- **Along steps that raise a rank**, a rank names one member of the run. -/
theorem eq_of_rank_eq {r : S → S → Prop} {rank : S → Nat} {s t : S}
    (hr : ∀ s t, r s t → rank s < rank t) (h : Relation.ReflTransGen r s t)
    (heq : rank s = rank t) : s = t := by
  obtain rfl | h := Relation.reflTransGen_iff_eq_or_transGen.mp h
  · rfl
  · have hlt : Relation.TransGen (· < ·) (rank s) (rank t) := h.lift rank hr
    rw [Relation.transGen_eq_self] at hlt
    omega

/-- **A transaction**: the effects it has from a world, and its result. -/
structure Tx (apply : S → E → S) (ε α : Type) where
  run : S → List E × Except ε α

namespace Tx

@[ext] theorem ext {x y : Tx apply ε α} (h : ∀ s, x.run s = y.run s) : x = y := by
  cases x
  congr
  exact funext h

/-- The state at the start. -/
def read : Tx apply ε S := ⟨fun s => ([], .ok s)⟩

/-- One effect. -/
def perform (e : E) : Tx apply ε Unit := ⟨fun _ => ([e], .ok ())⟩

/-- A check. -/
def check (x : Except ε α) : Tx apply ε α := ⟨fun _ => ([], x)⟩

/-- A refusal. -/
def fail (error : ε) : Tx apply ε α := check (.error error)

/-- One transaction after another: the second starts from the world the first
one leaves, and only when the first one did not refuse. -/
def andThen (x : Tx apply ε α) (f : α → Tx apply ε β) : Tx apply ε β where
  run s :=
    match x.run s with
    | (effects, .ok a) =>
      match (f a).run (replay apply s effects) with
      | (rest, result) => (effects ++ rest, result)
    | (effects, .error error) => (effects, .error error)

instance : Monad (Tx apply ε) where
  pure a := check (.ok a)
  bind := andThen

/-- Another refusal. -/
def mapError (f : ε → ε') (x : Tx apply ε α) : Tx apply ε' α where
  run s :=
    match x.run s with
    | (effects, result) => (effects, result.mapError f)

/-- Some effects after a refusal. -/
def onFailure (x : Tx apply ε α) (cleanup : List E) : Tx apply ε α where
  run s :=
    match x.run s with
    | (effects, .ok a) => (effects, .ok a)
    | (effects, .error error) => (effects ++ cleanup, .error error)

/-- The state at the end. -/
def final (x : Tx apply ε α) (s : S) : S := replay apply s (x.run s).1

/-! ## Running -/

section Running

variable {x : Tx apply ε α} {f : α → Tx apply ε β} {s : S} {effects : List E} {a : α}
variable {error : ε}
variable {e : E} {y : Except ε α}

@[simp] theorem run_pure : (pure a : Tx apply ε α).run s = ([], .ok a) := rfl

@[simp] theorem run_read : (read : Tx apply ε S).run s = ([], .ok s) := rfl

@[simp] theorem run_perform :
    (perform e : Tx apply ε Unit).run s = ([e], .ok ()) := rfl

@[simp] theorem run_check : (check y : Tx apply ε α).run s = ([], y) := rfl

@[simp] theorem run_mapError {g : ε → ε'} :
    (x.mapError g).run s = ((x.run s).1, (x.run s).2.mapError g) := rfl

theorem run_mapError_of_ok {g : ε → ε'} (h : x.run s = (effects, .ok a)) :
    (x.mapError g).run s = (effects, .ok a) := by
  rw [run_mapError, h]
  rfl

theorem run_bind_of_ok (h : x.run s = (effects, .ok a)) :
    (x >>= f).run s = (effects ++ ((f a).run (replay apply s effects)).1,
      ((f a).run (replay apply s effects)).2) := by
  show (andThen x f).run s = _
  unfold andThen
  simp only [h]

/-- **Running a sequence**: the rest is run from the world the first
transaction leaves. -/
theorem run_then {t : S} {rest : List E} {result : Except ε β}
    (h : x.run s = (effects, .ok a)) (ht : replay apply s effects = t)
    (hf : (f a).run t = (rest, result)) : (x >>= f).run s = (effects ++ rest, result) := by
  subst ht
  rw [run_bind_of_ok h, hf]

theorem run_bind_of_error (h : x.run s = (effects, .error error)) :
    (x >>= f).run s = (effects, .error error) := by
  show (andThen x f).run s = _
  unfold andThen
  simp only [h]

theorem run_bind_of_quiet (h : x.run s = ([], .ok a)) : (x >>= f).run s = (f a).run s :=
  run_bind_of_ok h

variable {g : S → Tx apply ε β}

@[simp] theorem run_read_bind : (read >>= g).run s = (g s).run s :=
  run_bind_of_ok run_read

@[simp] theorem run_perform_bind {g : Unit → Tx apply ε β} :
    (perform e >>= g).run s = (e :: ((g ()).run (apply s e)).1, ((g ()).run (apply s e)).2) :=
  run_bind_of_ok run_perform

@[simp] theorem run_check_ok_bind : (check (.ok a) >>= f).run s = (f a).run s :=
  run_bind_of_ok run_check

theorem run_refuseIf_bind {c : Prop} [Decidable c] {f : Unit → Tx apply ε β} (h : ¬ c) :
    (check (refuseIf c error) >>= f).run s = (f ()).run s := by
  rw [refuseIf_of_not h, run_check_ok_bind]

theorem run_some_bind : (check (okOr (some a) error) >>= f).run s = (f a).run s := run_check_ok_bind

@[simp] theorem run_check_error_bind : (check (.error error) >>= f).run s = ([], .error error) :=
  run_bind_of_error run_check

theorem pure_eq_check : (pure a : Tx apply ε α) = check (.ok a) := rfl

theorem check_bind_check {g : α → Except ε β} :
    (check y >>= fun a => check (g a) : Tx apply ε β) = check (y >>= g) := by
  refine ext fun s => ?_
  cases y with
  | error e => exact run_check_error_bind
  | ok a => exact run_check_ok_bind

theorem run_onFailure_of_ok {cleanup : List E} (h : x.run s = (effects, .ok a)) :
    (x.onFailure cleanup).run s = (effects, .ok a) := by
  unfold onFailure
  simp only [h]

/-! ### The world that is left -/

theorem final_read_bind : (read >>= g).final s = (g s).final s := by
  rw [final, final, run_read_bind]

theorem final_perform_bind {g : Unit → Tx apply ε β} :
    (perform e >>= g).final s = (g ()).final (apply s e) := by
  rfl

/-- **Past a check**: what holds where the transaction is, and of the world the
rest leaves when the check passes, holds of the world that is left. -/
theorem final_check_bind {P : S → Prop} (hs : P s)
    (h : ∀ a, y = .ok a → P ((f a).final s)) : P ((check y >>= f).final s) := by
  cases y with
  | error e => exact hs
  | ok a =>
    exact h a rfl

/-! ### Refused or done -/

/-- **A transaction is refused without an effect, or done** with effects and a
value of which something is known. -/
def Settles (x : Tx apply ε α) (s : S) (Q : List E → α → Prop) : Prop :=
  (∃ e, x.run s = ([], .error e)) ∨ ∃ effects a, x.run s = (effects, .ok a) ∧ Q effects a

variable {Q Q' : List E → α → Prop} {R : List E → β → Prop}

theorem Settles.of_run (h : x.run s = (effects, .ok a)) (ha : Q effects a) : Settles x s Q :=
  .inr ⟨effects, a, h, ha⟩

theorem Settles.imp (h : Settles x s Q) (hQ : ∀ effects a, Q effects a → Q' effects a) :
    Settles x s Q' :=
  Or.imp id (fun ⟨effects, a, hr, ha⟩ => ⟨effects, a, hr, hQ effects a ha⟩) h

theorem Settles.of_ok (h : Settles x s Q) (hok : (x.run s).2 = .ok a) : Q (x.run s).1 a := by
  obtain ⟨e, hr⟩ | ⟨effects, b, hr, hb⟩ := h
  · rw [hr] at hok
    cases hok
  · rw [hr] at hok ⊢
    exact Except.ok.inj hok ▸ hb

theorem Settles.mapError {g : ε → ε'} (h : Settles x s Q) : Settles (x.mapError g) s Q := by
  obtain ⟨e, hr⟩ | ⟨effects, a, hr, ha⟩ := h
  · exact .inl ⟨g e, by rw [run_mapError, hr]; rfl⟩
  · exact .of_run (run_mapError_of_ok hr) ha

/-- **After the first effect** nothing is refused. -/
theorem Settles.bind (h : Settles x s fun effects a =>
      ∃ rest b, (f a).run (replay apply s effects) = (rest, .ok b) ∧ R (effects ++ rest) b) :
    Settles (x >>= f) s R := by
  obtain ⟨e, hrun⟩ | ⟨effects, a, hrun, rest, b, hr, hb⟩ := h
  · exact .inl ⟨e, run_bind_of_error hrun⟩
  · exact .of_run (run_then hrun rfl hr) hb

/-- **Before it** anything may be refused. -/
theorem Settles.quiet_bind (h : Settles x s fun effects a => effects = [] ∧ Settles (f a) s R) :
    Settles (x >>= f) s R := by
  obtain ⟨e, hr⟩ | ⟨_, a, hr, rfl, ha⟩ := h
  · exact .inl ⟨e, run_bind_of_error hr⟩
  · unfold Settles
    rwa [run_bind_of_quiet hr]

theorem Settles.check_bind (h : ∀ a, y = .ok a → Settles (f a) s R) :
    Settles (check y >>= f) s R := by
  cases y with
  | error e => exact .inl ⟨e, run_check_error_bind⟩
  | ok a => exact .quiet_bind (.of_run run_check ⟨rfl, h a rfl⟩)

theorem Settles.read_bind (h : Settles (g s) s R) : Settles (read >>= g) s R :=
  .quiet_bind (.of_run run_read ⟨rfl, h⟩)

/-! ### Refusals that leave nothing -/

/-- **A transaction refuses first**: a refusal leaves no effect. -/
def RefusesFirst (x : Tx apply ε α) (s : S) : Prop :=
  ∀ e, (x.run s).2 = .error e → (x.run s).1 = []

theorem RefusesFirst.final (h : RefusesFirst x s) (he : (x.run s).2 = .error error) :
    x.final s = s := by
  rw [Tx.final, h error he, replay_nil]

theorem refusesFirst_of_ok (h : x.run s = (effects, .ok a)) : RefusesFirst x s := by
  intro e he
  rw [h] at he
  cases he

theorem refusesFirst_iff : RefusesFirst x s ↔ Settles x s fun _ _ => True := by
  unfold RefusesFirst Settles
  rcases x.run s with ⟨effects, _ | a⟩
  · simp
  · simp

theorem RefusesFirst.read_bind (h : RefusesFirst (g s) s) : RefusesFirst (read >>= g) s :=
  refusesFirst_iff.mpr (.read_bind (refusesFirst_iff.mp h))

theorem RefusesFirst.check_bind (h : ∀ a, RefusesFirst (f a) s) : RefusesFirst (check y >>= f) s :=
  refusesFirst_iff.mpr (.check_bind fun a _ => refusesFirst_iff.mp (h a))

/-- **What comes after the first effect must not refuse.** -/
theorem RefusesFirst.bind (h : RefusesFirst x s)
    (hf : ∀ a t, ∃ rest b, (f a).run t = (rest, .ok b)) : RefusesFirst (x >>= f) s := by
  refine refusesFirst_iff.mpr (.bind ((refusesFirst_iff.mp h).imp fun effects a _ => ?_))
  obtain ⟨rest, b, hr⟩ := hf a (replay apply s effects)
  exact ⟨rest, b, hr, trivial⟩

instance : LawfulMonad (Tx apply ε) := by
  refine LawfulMonad.mk' _ ?_ ?_ ?_
  · intro α x
    refine Tx.ext fun s => ?_
    rcases hx : x.run s with ⟨effects, result⟩
    cases result with
    | ok a =>
      show (x >>= fun a => pure (id a)).run s = _
      rw [run_bind_of_ok hx]
      simp
    | error error =>
      show (x >>= fun a => pure (id a)).run s = _
      rw [run_bind_of_error hx]
  · intro α β a f
    exact Tx.ext fun s => run_check_ok_bind
  · intro α β γ x f g
    refine Tx.ext fun s => ?_
    rcases hx : x.run s with ⟨effects, result⟩
    cases result with
    | error error =>
      rw [run_bind_of_error hx, run_bind_of_error (run_bind_of_error hx)]
    | ok a =>
      rw [run_bind_of_ok hx]
      rcases hf : (f a).run (replay apply s effects) with ⟨effects', result'⟩
      have hxf := run_bind_of_ok (f := f) hx
      rw [hf] at hxf
      cases result' with
      | error error => rw [run_bind_of_error hxf, run_bind_of_error hf]
      | ok b =>
        rw [run_bind_of_ok hxf, run_bind_of_ok hf, replay_append, List.append_assoc]

end Running

/-! ## Crashes and recovery -/

/-- **The world a process leaves when it dies**: the one after some of the
first effects of the transaction it was in, possibly none or all of them. -/
def Crash (x : Tx apply ε α) (s t : S) : Prop :=
  ∃ effects, effects <+: (x.run s).1 ∧ replay apply s effects = t

/-- The transaction goes through, to this state. -/
def Completes (x : Tx apply ε α) (s t : S) : Prop :=
  ∃ a, (x.run s).2 = .ok a ∧ replay apply s (x.run s).1 = t

section Crash

variable {x : Tx apply ε α} {f : α → Tx apply ε β} {s t u : S} {effects : List E} {a : α}

theorem Completes.of_run (h : x.run s = (effects, .ok a)) :
    Completes x s (replay apply s effects) :=
  ⟨a, by rw [h], by rw [h]⟩

/-- The states on the way. -/
def worlds (apply : S → E → S) (s : S) : List E → List S
  | [] => [s]
  | e :: effects => s :: worlds apply (apply s e) effects

theorem mem_worlds_iff : t ∈ worlds apply s effects
    ↔ ∃ first, first <+: effects ∧ replay apply s first = t := by
  induction effects generalizing s with
  | nil =>
    simp only [worlds, mem_singleton, prefix_nil, exists_eq_left, replay_nil]
    exact eq_comm
  | cons e effects ih =>
    rw [worlds, mem_cons, ih]
    constructor
    · rintro (rfl | ⟨first, hf, rfl⟩)
      · exact ⟨[], nil_prefix, rfl⟩
      · exact ⟨e :: first, cons_prefix_cons.mpr ⟨rfl, hf⟩, rfl⟩
    · rintro ⟨first, hf, rfl⟩
      obtain rfl | ⟨rest, rfl, hr⟩ := prefix_cons_iff.mp hf
      · exact .inl rfl
      · exact .inr ⟨rest, hr, rfl⟩

/-- **A crash leaves one of the worlds the run passes through.** -/
theorem crash_iff (h : (x.run s).1 = effects) : Crash x s t ↔ t ∈ worlds apply s effects := by
  unfold Crash
  rw [mem_worlds_iff, h]

theorem Completes.crash (h : Completes x s t) : Crash x s t := by
  obtain ⟨a, -, ht⟩ := h
  exact ⟨_, prefix_rfl, ht⟩

theorem crash_congr {y : Tx apply ε α} (h : x.run s = y.run s) : Crash x s t ↔ Crash y s t := by
  unfold Crash
  rw [h]

/-- A crash in a sequence is a crash in its first transaction, or one in the
rest after the first one produced a value. -/
theorem Crash.of_bind (h : Crash (x >>= f) s t) :
    Crash x s t ∨ ∃ a effects, x.run s = (effects, .ok a)
      ∧ Crash (f a) (replay apply s effects) t := by
  obtain ⟨first, hf, rfl⟩ := h
  rcases hx : x.run s with ⟨effects, result⟩
  cases result with
  | error error =>
    rw [run_bind_of_error hx] at hf
    exact .inl ⟨first, by rwa [hx], rfl⟩
  | ok a =>
    rw [run_bind_of_ok hx] at hf
    -- either the first transaction was cut off, or all its effects are there
    obtain hs | ⟨rest, rfl⟩ := prefix_or_prefix_of_prefix hf (prefix_append effects _)
    · exact .inl ⟨first, by rwa [hx], rfl⟩
    · rw [prefix_append_right_inj] at hf
      exact .inr ⟨a, effects, rfl, rest, hf, (replay_append _ _ _).symm⟩

/-- **What begins with a recovery** is cut off in the recovery, or as if it had
been started after it. -/
theorem Crash.of_recovery_bind {y : Tx apply ε β} {b : α} (hx : Completes x s u)
    (hu : x.run u = ([], .ok b)) (h : Crash (x >>= fun _ => y) s t) :
    Crash x s t ∨ Crash (x >>= fun _ => y) u t := by
  obtain ⟨a, -, hr⟩ := hx
  obtain h | ⟨a, effects, hrun, h⟩ := h.of_bind
  · exact .inl h
  · rw [hrun] at hr
    rw [show replay apply s effects = u from hr] at h
    refine .inr ?_
    unfold Crash
    rwa [run_bind_of_quiet hu]

theorem Crash.of_quiet {result : Except ε α} (hx : x.run s = ([], result)) (h : Crash x s t) :
    t = s := by
  rw [crash_iff (congrArg Prod.fst hx)] at h
  exact mem_singleton.mp h

theorem crash_check_bind {y : Except ε α} {P : Prop}
    (hr : ∀ a, y = .ok a → Crash (f a) s t → t = s ∨ P) (h : Crash (check y >>= f) s t) :
    t = s ∨ P := by
  obtain h | ⟨a, effects, hrun, h⟩ := h.of_bind
  · exact .inl (h.of_quiet run_check)
  · rw [run_check, Prod.mk.injEq] at hrun
    obtain ⟨rfl, hy⟩ := hrun
    exact hr a hy h

theorem Crash.of_read_bind {g : S → Tx apply ε β} (h : Crash (read >>= g) s t) :
    Crash (g s) s t := by
  unfold Crash at h
  rwa [run_read_bind] at h

theorem Crash.of_quiet_bind (hx : x.run s = ([], .ok a)) (h : Crash (x >>= f) s t) :
    Crash (f a) s t := by
  unfold Crash at h
  rw [run_bind_of_ok hx, replay_nil, nil_append] at h
  exact h

theorem Crash.of_bind_pure {g : α → β} (h : Crash (x >>= fun a => pure (g a)) s t) :
    Crash x s t := by
  obtain h | ⟨a, effects, hr, h⟩ := h.of_bind
  · exact h
  · obtain rfl := h.of_quiet run_pure
    exact ⟨effects, by rw [hr], rfl⟩

/-- **The rule for a recovery.** When a set of worlds is kept by the recovery
wherever it is cut off, and the recovery leads from each of them to one
outcome, then so do any number of interrupted recoveries followed by a
complete one. -/
theorem completes_of_interrupted {I : S → Prop} {goal : S}
    (hc : ∀ s t, I s → Crash x s t → I t) (hg : ∀ s, I s → Completes x s goal)
    (hs : I s) (h : Relation.ReflTransGen (Crash x) s t) : Completes x t goal := by
  refine hg t ?_
  induction h with
  | refl => exact hs
  | tail _ hst ih => exact hc _ _ ih hst

/-- **The rule, run by run.** -/
theorem completes_of_runs {I : S → Prop} {goal : S}
    (hr : ∀ s, I s → ∃ effects a, x.run s = (effects, .ok a)
      ∧ (∀ t ∈ worlds apply s effects, I t) ∧ replay apply s effects = goal)
    (hs : I s) (h : Relation.ReflTransGen (Crash x) s t) : Completes x t goal := by
  refine completes_of_interrupted ?_ ?_ hs h
  · intro s t hs hc
    obtain ⟨effects, a, hrun, hw, -⟩ := hr s hs
    exact hw t ((crash_iff (congrArg Prod.fst hrun)).mp hc)
  · intro s hs
    obtain ⟨effects, a, hrun, -, rfl⟩ := hr s hs
    exact Completes.of_run hrun

theorem completes_of_quiet (hx : x.run s = ([], .ok a))
    (h : Relation.ReflTransGen (Crash x) s t) : Completes x t s := by
  refine completes_of_runs (I := fun u => u = s) ?_ rfl h
  rintro u rfl
  exact ⟨[], a, hx, forall_mem_singleton.mpr rfl, rfl⟩

/-- **The rule for a publication in two steps.** When a recovery undoes
nothing before the first step, finishes the second one after it, and has
nothing to do after both, then it leaves what was there or what was
published, wherever the publication is cut off. -/
theorem completes_of_two_steps {ε' : Type} {recovery : Tx apply ε' β} {first second : E}
    (hr : (x.run s).1 = [first, second]) (ho : Completes recovery s s)
    (hs : Completes recovery (apply s first) (apply (apply s first) second))
    (hn : Completes recovery (apply (apply s first) second) (apply (apply s first) second))
    (h : Crash x s t) :
    Completes recovery t s ∨ Completes recovery t (apply (apply s first) second) := by
  rw [crash_iff hr] at h
  simp only [worlds, mem_cons, not_mem_nil, or_false] at h
  rcases h with rfl | rfl | rfl
  · exact .inl ho
  · exact .inr hs
  · exact .inr hn

end Crash

/-! ## What holds all the way -/

/-- **The weakest precondition, with crashes.** Every world the transaction
passes through has the property `C`; with a value it leaves a world in `Q`,
and with a refusal one in `R`. -/
def Wp (x : Tx apply ε α) (Q : α → S → Prop) (R : ε → S → Prop) (C : S → Prop) (s : S) : Prop :=
  (∀ t, Crash x s t → C t)
    ∧ (∀ effects a, x.run s = (effects, .ok a) → Q a (replay apply s effects))
    ∧ ∀ effects error, x.run s = (effects, .error error) → R error (replay apply s effects)

section Wp

variable {x : Tx apply ε α} {f : α → Tx apply ε β} {s : S} {C : S → Prop}
variable {Q Q' : α → S → Prop} {R R' : ε → S → Prop}

theorem Wp.mono (h : Wp x Q R C s) (hQ : ∀ a t, Q a t → Q' a t)
    (hR : ∀ e t, R e t → R' e t) : Wp x Q' R' C s :=
  ⟨h.1, fun _ _ hr => hQ _ _ (h.2.1 _ _ hr), fun _ _ hr => hR _ _ (h.2.2 _ _ hr)⟩

theorem wp_check {y : Except ε α} (hs : C s) (hok : ∀ a, y = .ok a → Q a s)
    (he : ∀ e, y = .error e → R e s) : Wp (check y : Tx apply ε α) Q R C s := by
  refine ⟨fun t ht => ht.of_quiet run_check ▸ hs, fun effects a hr => ?_,
    fun effects e hr => ?_⟩
  · obtain ⟨rfl, hy⟩ := Prod.mk.inj hr
    exact hok a hy
  · obtain ⟨rfl, hy⟩ := Prod.mk.inj hr
    exact he e hy

theorem wp_pure {a : α} (hs : C s) (hQ : Q a s) : Wp (pure a : Tx apply ε α) Q R C s := by
  refine wp_check hs (fun b hb => ?_) (fun e he => by cases he)
  obtain rfl := Except.ok.inj hb
  exact hQ

/-- **One after the other.** -/
theorem wp_bind {Q : β → S → Prop} (h : Wp x (fun a t => Wp (f a) Q R C t) R C s) :
    Wp (x >>= f) Q R C s := by
  obtain ⟨hc, hok, herr⟩ := h
  refine ⟨fun t ht => ?_, fun effects b hrun => ?_, fun effects e hrun => ?_⟩
  · obtain ht | ⟨a, effects, hx, ht⟩ := ht.of_bind
    · exact hc t ht
    · exact (hok effects a hx).1 t ht
  · rcases hx : x.run s with ⟨first, result⟩
    cases result with
    | error error =>
      rw [run_bind_of_error hx] at hrun
      cases hrun
    | ok a =>
      rw [run_bind_of_ok hx] at hrun
      obtain ⟨rfl, hb⟩ := Prod.mk.inj hrun
      rw [replay_append]
      exact (hok first a hx).2.1 _ b (Prod.ext rfl hb)
  · rcases hx : x.run s with ⟨first, result⟩
    cases result with
    | error error =>
      rw [run_bind_of_error hx] at hrun
      obtain ⟨rfl, he⟩ := Prod.mk.inj hrun
      obtain rfl := Except.error.inj he
      exact herr _ _ hx
    | ok a =>
      rw [run_bind_of_ok hx] at hrun
      obtain ⟨rfl, he⟩ := Prod.mk.inj hrun
      rw [replay_append]
      exact (hok first a hx).2.2 _ e (Prod.ext rfl he)

theorem wp_of_run {e : E} {a : α} (hr : x.run s = ([e], .ok a)) (hs : C s) (hC : C (apply s e))
    (hQ : Q a (apply s e)) : Wp x Q R C s := by
  refine ⟨fun t ht => ?_, fun effects b hb => ?_, fun effects error he => ?_⟩
  · rw [crash_iff rfl, hr] at ht
    simp only [worlds, mem_cons, not_mem_nil, or_false] at ht
    obtain rfl | rfl := ht
    · exact hs
    · exact hC
  · rw [hr] at hb
    obtain ⟨rfl, heq⟩ := Prod.mk.inj hb
    obtain rfl := Except.ok.inj heq
    exact hQ
  · rw [hr] at he
    cases (Prod.mk.inj he).2

theorem wp_perform {e : E} {Q : Unit → S → Prop} (hs : C s) (hC : C (apply s e))
    (hQ : Q () (apply s e)) : Wp (perform e : Tx apply ε Unit) Q R C s :=
  wp_of_run run_perform hs hC hQ

theorem wp_read_bind {g : S → Tx apply ε β} {Q : β → S → Prop} (h : Wp (g s) Q R C s) :
    Wp (read >>= g) Q R C s := by
  unfold Wp Crash at h ⊢
  rwa [run_read_bind]

end Wp

end Tx

end Transaction
