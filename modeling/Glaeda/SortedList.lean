import Mathlib.Tactic
import Mathlib.Data.List.Sort
import Mathlib.Data.List.TakeWhile

/-!
# Lists sorted by a key

A list kept in strictly increasing order of a key is a set with one
representation: **two sorted lists with the same entries are the same
list**. So a check that compares two such lists by what they contain is a
check of equality, and inserting an entry at its place is the only way to
add it. The entries, the keys and their order are arbitrary.
-/

namespace SortedList

open List

variable {α κ : Type*} [LinearOrder κ] {key : α → κ} {values others : List α} {a : α}

/-- The keys go up. -/
def isSortedUnique (key : α → κ) (values : List α) : Bool :=
  (values.zip values.tail).all (fun pair => decide (key pair.1 < key pair.2))

/-- A value put in its place. -/
def insertSorted (key : α → κ) (values : List α) (value : α) : List α :=
  values.takeWhile (fun current => decide (key current < key value))
    ++ value :: values.dropWhile (fun current => decide (key current < key value))

/-- **Neighbours are in order exactly when all entries are.** -/
theorem isSortedUnique_iff :
    isSortedUnique key values = true ↔ (values.map key).Pairwise (· < ·) := by
  rw [← isChain_iff_pairwise]
  induction values with
  | nil => simp [isSortedUnique]
  | cons b values ih =>
    obtain _ | ⟨c, values⟩ := values
    · simp [isSortedUnique]
    · rw [map_cons, map_cons, isChain_cons_cons, ← map_cons, ← ih]
      simp [isSortedUnique]

theorem nodup_map_key (hvalues : (values.map key).Pairwise (· < ·)) : (values.map key).Nodup :=
  hvalues.imp ne_of_lt

theorem perm_insertSorted : (insertSorted key values a).Perm (a :: values) := by
  refine perm_middle.trans (List.Perm.cons a ?_)
  rw [takeWhile_append_dropWhile]

theorem mem_insertSorted {b : α} : b ∈ insertSorted key values a ↔ b = a ∨ b ∈ values := by
  rw [perm_insertSorted.mem_iff, mem_cons]

theorem length_insertSorted : (insertSorted key values a).length = values.length + 1 := by
  rw [perm_insertSorted.length_eq, length_cons]

/-- Whatever distinguishes the entries after an insertion distinguished the new
one from the others. -/
theorem ne_of_nodup_insertSorted {β : Type*} {f : α → β} {b : α}
    (hnd : ((insertSorted key values a).map f).Nodup) (hb : b ∈ values) : f b ≠ f a := by
  rw [(perm_insertSorted.map f).nodup_iff, map_cons, nodup_cons] at hnd
  exact fun heq => hnd.1 (heq ▸ mem_map_of_mem hb)

theorem filter_insertSorted {p : α → Bool} (ha : p a = true)
    (hvalues : ∀ b ∈ values, p b = false) : (insertSorted key values a).filter p = [a] := by
  have hn : ∀ part : List α, part.Sublist values → part.filter p = [] := by
    intro part hp
    rw [filter_eq_nil_iff]
    intro b hb
    rw [hvalues b (hp.subset hb)]
    exact Bool.false_ne_true
  rw [insertSorted, filter_append, filter_cons_of_pos ha,
    hn _ (takeWhile_sublist _), hn _ (dropWhile_sublist _)]
  rfl

section

variable (hvalues : (values.map key).Pairwise (· < ·))
include hvalues

/-- **Sorted lists with the same entries are equal.** It is enough that one
contains the other and is not longer. -/
theorem eq_of_subset (ho : (others.map key).Pairwise (· < ·)) (hs : values ⊆ others)
    (hl : others.length ≤ values.length) : values = others := by
  have hp : values.Perm others :=
    (subperm_of_subset (List.Nodup.of_map key (nodup_map_key hvalues)) hs).perm_of_length_le
      hl
  refine hp.eq_of_pairwise ?_ (pairwise_map.mp hvalues) (pairwise_map.mp ho)
  intro b c _ _ hbc hcb
  exact absurd hbc (lt_asymm hcb)

theorem lt_of_mem_dropWhile {b : α} (hn : ∀ b ∈ values, key b ≠ key a)
    (hb : b ∈ values.dropWhile (fun current => decide (key current < key a))) : key a < key b := by
  induction values with
  | nil => exact absurd hb not_mem_nil
  | cons c values ih =>
    obtain ⟨hh, ht⟩ := pairwise_cons.mp hvalues
    rw [dropWhile_cons] at hb
    split at hb
    · exact ih ht (fun b hb => hn b (mem_cons_of_mem c hb)) hb
    · -- the first entry that is not below the new one, and all after it
      rename_i hc
      have hc : key a < key c :=
        lt_of_le_of_ne (not_lt.mp (by simpa using hc)) (hn c mem_cons_self).symm
      obtain rfl | hb := mem_cons.mp hb
      · exact hc
      · exact hc.trans (hh (key b) (mem_map_of_mem hb))

theorem pairwise_insertSorted (hn : ∀ b ∈ values, key b ≠ key a) :
    ((insertSorted key values a).map key).Pairwise (· < ·) := by
  have hbl : ∀ b ∈ values.takeWhile (fun current => decide (key current < key a)),
      key b < key a := by
    intro b hb
    have hlt := mem_takeWhile_imp hb
    exact of_decide_eq_true hlt
  have ha : ∀ b ∈ values.dropWhile (fun current => decide (key current < key a)),
      key a < key b :=
    fun b hb => lt_of_mem_dropWhile hvalues hn hb
  rw [pairwise_map] at hvalues ⊢
  rw [insertSorted, pairwise_append, pairwise_cons]
  refine ⟨hvalues.sublist (takeWhile_sublist _),
    ⟨ha, hvalues.sublist (dropWhile_sublist _)⟩, ?_⟩
  rintro b hb c hc
  obtain rfl | hc := mem_cons.mp hc
  · exact hbl b hb
  · exact (hbl b hb).trans (ha c hc)

/-- **A sorted list with one more entry is the insertion of that entry.** -/
theorem eq_insertSorted (ho : (others.map key).Pairwise (· < ·)) (hs : values ⊆ others)
    (hl : others.length = values.length + 1) (ha : a ∈ others) (hn : a ∉ values) :
    insertSorted key values a = others := by
  have hk : ∀ b ∈ values, key b ≠ key a := by
    intro b hb heq
    rw [inj_on_of_nodup_map (nodup_map_key ho) (hs hb) ha heq] at hb
    exact hn hb
  refine eq_of_subset (pairwise_insertSorted hvalues hk) ho ?_ ?_
  · intro b hb
    obtain rfl | hb := mem_insertSorted.mp hb
    · exact ha
    · exact hs hb
  · rw [length_insertSorted, hl]

end

/-! ## Sorting by a comparison -/

section Comparison

variable {β : Type*} {f : α → β} {cmp : α → α → Ordering} [Std.TransCmp cmp]

theorem pairwise_insertionSort_cmp (values : List α) :
    (values.insertionSort fun a b => cmp a b ≠ .gt).Pairwise fun a b => cmp a b ≠ .gt := by
  have ht : Std.Total fun a b => cmp a b ≠ .gt := by
    refine ⟨fun a b => ?_⟩
    rw [@Std.OrientedCmp.eq_swap _ cmp _ b a]
    cases cmp a b <;> simp
  have htr : IsTrans α fun a b => cmp a b ≠ .gt := by
    refine ⟨fun a b c hab hbc => ?_⟩
    exact Ordering.isLE_iff_ne_gt.mp (Std.TransCmp.isLE_trans
      (Ordering.isLE_iff_ne_gt.mpr hab) (Ordering.isLE_iff_ne_gt.mpr hbc))
  exact pairwise_insertionSort _ _

variable (hcmp : ∀ a b, cmp a b = .eq → f a = f b)

include hcmp

/-- **Entries with keys of their own are sorted strictly.** -/
theorem pairwise_insertionSort_lt (hnd : (values.map f).Nodup) :
    (values.insertionSort fun a b => cmp a b ≠ .gt).Pairwise fun a b => cmp a b = .lt := by
  have hs := ((perm_insertionSort (fun a b => cmp a b ≠ .gt) values).map f).nodup_iff.mpr hnd
  rw [Nodup, pairwise_map] at hs
  refine ((pairwise_insertionSort_cmp values).and hs).imp fun {a b} h => ?_
  cases hab : cmp a b with
  | lt => rfl
  | eq => exact absurd (hcmp a b hab) h.2
  | gt => exact absurd hab h.1

/-- **Sorting forgets the order** of entries with keys of their own. -/
theorem insertionSort_eq_of_perm (hnd : (values.map f).Nodup) (hp : others.Perm values) :
    others.insertionSort (fun a b => cmp a b ≠ .gt)
      = values.insertionSort fun a b => cmp a b ≠ .gt := by
  refine Perm.eq_of_pairwise ?_ (pairwise_insertionSort_lt hcmp ((hp.map f).nodup_iff.mpr hnd))
    (pairwise_insertionSort_lt hcmp hnd)
    ((perm_insertionSort _ _).trans (hp.trans (perm_insertionSort _ _).symm))
  intro a b _ _ hab hba
  rw [@Std.OrientedCmp.eq_swap _ cmp _ a b, hba] at hab
  cases hab

end Comparison

end SortedList
