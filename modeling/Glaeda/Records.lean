import Mathlib.Data.List.Basic
import Mathlib.Data.List.Infix

/-!
# Records ended by a mark

A log of records that never contain the mark, each written with the mark after
it. Whatever prefix of such a log is left – a write was cut off somewhere – is
some complete records and the beginning of one more: the number of the complete
ones is the number of marks that are left (`take_join`), and splitting at the
marks finds them again (`splitOn_join`).
-/

namespace Records

open List

variable {α : Type*} [DecidableEq α] {mark : α} {records : List (List α)} {k : ℕ}

/-- Records, each with a mark after it. -/
def join (mark : α) (records : List (List α)) : List α :=
  records.flatMap (· ++ [mark])

omit [DecidableEq α] in
@[simp] theorem join_nil : join mark [] = [] := rfl

omit [DecidableEq α] in
@[simp] theorem join_cons {record : List α} :
    join mark (record :: records) = record ++ mark :: join mark records := by
  simp [join]

omit [DecidableEq α] in
theorem join_append {more : List (List α)} :
    join mark (records ++ more) = join mark records ++ join mark more :=
  flatMap_append

theorem count_join (h : ∀ record ∈ records, mark ∉ record) :
    (join mark records).count mark = records.length := by
  induction records with
  | nil => rfl
  | cons record rest ih =>
    obtain ⟨hrec, hr⟩ := forall_mem_cons.mp h
    rw [join_cons, count_append, count_eq_zero.mpr hrec, count_cons_self,
      ih hr, length_cons, Nat.zero_add]

/-- What a crash leaves of a last record. -/
def IsTorn (mark : α) (records : List (List α)) (tail : List α) : Prop :=
  mark ∉ tail ∧ (tail ≠ [] → ∃ record ∈ records, tail.length ≤ record.length)

/-- **A cut leaves complete records and the beginning of one more**, and the
marks that are left count the complete ones. -/
theorem take_join (h : ∀ record ∈ records, mark ∉ record) (k : ℕ) :
    ∃ tail, (join mark records).take k
        = join mark (records.take (((join mark records).take k).count mark)) ++ tail
      ∧ IsTorn mark records tail := by
  induction records generalizing k with
  | nil => exact ⟨[], by simp, by simp [IsTorn]⟩
  | cons record rest ih =>
    obtain ⟨hrec, hr⟩ := forall_mem_cons.mp h
    have hf : mark ∉ record.take k := fun hm => hrec (mem_of_mem_take hm)
    rw [join_cons, take_append]
    cases hl : k - record.length with
    | zero =>
      -- the cut is inside the first record
      refine ⟨record.take k, ?_, hf, fun _ => ⟨record, mem_cons_self, ?_⟩⟩
      · simp [count_eq_zero.mpr hf]
      · exact length_take_le' k record
    | succ left =>
      obtain ⟨tail, ht, htr, hlen⟩ := ih hr left
      have hw : record.take k = record := take_of_length_le (by omega)
      refine ⟨tail, ?_, htr, fun hne => ?_⟩
      · rw [hw, take_succ_cons, count_append, count_eq_zero.mpr hrec,
          count_cons_self, Nat.zero_add, take_succ_cons, join_cons, append_assoc,
          cons_append, ← ht]
      · obtain ⟨found, hfnd, hle⟩ := hlen hne
        exact ⟨found, mem_cons_of_mem _ hfnd, hle⟩

omit [DecidableEq α] in
theorem join_append_eq_intercalate {tail : List α} :
    join mark records ++ tail = [mark].intercalate (records ++ [tail]) := by
  induction records with
  | nil => simp
  | cons record rest ih =>
    rw [join_cons, append_assoc, cons_append, ih, cons_append,
      intercalate_cons_of_ne_nil (by simp), append_assoc, singleton_append]

/-- **Splitting at the marks** gives the records back, and the tail. -/
theorem splitOn_join {tail : List α} (h : ∀ record ∈ records, mark ∉ record) (ht : mark ∉ tail) :
    (join mark records ++ tail).splitOn mark = records ++ [tail] := by
  rw [join_append_eq_intercalate, splitOn_intercalate]
  · intro record hm
    obtain hr | hl := mem_append.mp hm
    · exact h record hr
    · rw [mem_singleton.mp hl]
      exact ht
  · simp

end Records
