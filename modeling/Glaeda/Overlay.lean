import Mathlib.Data.List.Basic
import Mathlib.Data.Option.Basic

/-!
# Layers written one over another

A layer has something at some places and nothing at the others. Writing a
list of layers in order leaves, at each place, what the last layer with
something there has. What is found over one layer of the list is decided by
the layers above it, and that is all the lemmas below say.
-/

namespace Overlay

open List Option

variable {α β : Type} (layers : List (α → Option β))

/-- **What is found** after the layers have been written in order. -/
def overlay : α → Option β :=
  layers.foldl (fun below layer a => (layer a).or (below a)) fun _ => none

theorem foldl_layers (below : α → Option β) (a : α) :
    layers.foldl (fun below layer a => (layer a).or (below a)) below a
      = (overlay layers a).or (below a) := by
  induction layers generalizing below with
  | nil => exact none_or.symm
  | cons layer layers ih =>
    show layers.foldl _ (fun a => (layer a).or (below a)) a
      = (layers.foldl _ (fun a => (layer a).or none) a).or (below a)
    rw [ih, ih, Option.or_none, Option.or_assoc]

theorem overlay_append (lower upper : List (α → Option β)) (a : α) :
    overlay (lower ++ upper) a = (overlay upper a).or (overlay lower a) := by
  unfold overlay
  rw [foldl_append]
  exact foldl_layers upper _ a

/-- **What one layer has is what is found** exactly when the layers above it
have nothing else there. -/
theorem overlay_eq_iff {lower upper : List (α → Option β)} {layer : α → Option β} {a : α} {b : β}
    (h : layer a = some b) :
    overlay (lower ++ layer :: upper) a = some b ↔ ∀ c ∈ overlay upper a, c = b := by
  rw [append_cons, overlay_append, overlay_append]
  show (overlay upper a).or ((layer a).or none |>.or (overlay lower a)) = some b ↔ _
  rw [h]
  cases overlay upper a with
  | none => exact iff_of_true rfl (fun c hc => absurd hc (not_mem_none c))
  | some c =>
    show some c = some b ↔ _
    simp only [some_inj, mem_some_iff, forall_eq']

theorem overlay_eq_none {layers : List (α → Option β)} {a : α}
    (h : ∀ layer ∈ layers, layer a = none) : overlay layers a = none := by
  induction layers with
  | nil => rfl
  | cons layer layers ih =>
    rw [← singleton_append, overlay_append,
      ih (fun other ho => h other (mem_cons_of_mem layer ho)), none_or]
    show (layer a).or none = none
    rw [h layer mem_cons_self, none_or]

/-! ## Ranges -/

/-- **Reading a range**: something has to be found at each place of it. -/
def readRange (found : Nat → Option β) (start : Nat) : Nat → Option (List β)
  | 0 => some []
  | length + 1 => do
    let first ← found start
    let rest ← readRange found (start + 1) length
    return first :: rest

theorem readRange_eq_some {found : Nat → Option β} {start length : Nat} {read : List β}
    (hl : read.length = length) :
    readRange found start length = some read ↔ ∀ i < length, found (start + i) = read[i]? := by
  induction length generalizing start read with
  | zero =>
    rw [eq_nil_of_length_eq_zero hl]
    exact iff_of_true rfl (fun i hi => absurd hi i.not_lt_zero)
  | succ length ih =>
    obtain ⟨first, rest, rfl⟩ := exists_cons_of_length_eq_add_one hl
    rw [Nat.forall_lt_succ_left, getElem?_cons_zero, Nat.add_zero]
    simp only [getElem?_cons_succ, ← Nat.add_assoc, Nat.add_right_comm start _ 1]
    rw [← ih (Nat.succ.inj hl)]
    simp only [readRange, Option.bind_eq_bind, Option.bind_eq_some_iff, Option.pure_def,
      Option.some_inj, cons.injEq]
    constructor
    · rintro ⟨x, hx, xs, hxs, rfl, rfl⟩
      exact ⟨hx, hxs⟩
    · rintro ⟨hx, hxs⟩
      exact ⟨first, hx, rest, hxs, rfl, rfl⟩

end Overlay
