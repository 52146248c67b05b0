import Mathlib.Tactic

/-!
# Lists with keys

A list in which every entry has a key, and no two entries the same one, is a
finite map that remembers an order. It is searched by key, an entry is
replaced where it stands, one is removed, one is added at the end. The
lemmas below say what a search finds after each of these – **an operation on
one key is seen under that key and under no other** – for arbitrary entries
and keys.
-/

namespace KeyedList

open List

variable {α κ : Type*} [DecidableEq κ] {key : α → κ}

/-- The first entry of a key. -/
def lookup (key : α → κ) (k : κ) (entries : List α) : Option α :=
  entries.find? (fun a => key a = k)

variable {k : κ} {a b : α} {entries before after : List α}

theorem key_of_lookup (h : lookup key k entries = some a) : key a = k := by
  simpa using List.find?_some h

theorem mem_of_lookup (h : lookup key k entries = some a) : a ∈ entries := mem_of_find?_eq_some h

theorem lookup_eq_none : lookup key k entries = none ↔ ∀ a ∈ entries, key a ≠ k := by
  simp [lookup]

theorem lookup_eq_some (hk : (entries.map key).Nodup) :
    lookup key k entries = some a ↔ a ∈ entries ∧ key a = k := by
  constructor
  · intro h
    exact ⟨mem_of_lookup h, key_of_lookup h⟩
  · rintro ⟨hm, hkey⟩
    cases hf : lookup key k entries with
    | none => exact absurd hkey (lookup_eq_none.mp hf a hm)
    | some b =>
      rw [inj_on_of_nodup_map hk (mem_of_lookup hf) hm
        ((key_of_lookup hf).trans hkey.symm)]

theorem lookup_append : lookup key k (before ++ after)
    = (lookup key k before).or (lookup key k after) :=
  List.find?_append

theorem lookup_cons_self (h : key a = k) : lookup key k (a :: entries) = some a := by
  rw [lookup, List.find?_cons_of_pos (by simpa using h)]

theorem lookup_cons_of_ne (h : key a ≠ k) : lookup key k (a :: entries) = lookup key k entries := by
  rw [lookup, List.find?_cons_of_neg (by simpa using h), lookup]

theorem lookup_split_self (hk : ((before ++ a :: after).map key).Nodup) :
    lookup key (key a) (before ++ a :: after) = some a :=
  (lookup_eq_some hk).mpr ⟨by simp, rfl⟩

theorem lookup_split_of_ne (h : key a ≠ k) :
    lookup key k (before ++ a :: after) = lookup key k (before ++ after) := by
  rw [lookup_append, lookup_append, lookup_cons_of_ne h]

/-- **Replacing an entry** by one with the same key changes what is found
under that key only. -/
theorem lookup_replace (hk : ((before ++ a :: after).map key).Nodup) (hkey : key b = key a) :
    lookup key k (before ++ b :: after)
      = if key a = k then some b else lookup key k (before ++ a :: after) := by
  split
  · rename_i h
    rw [← h, ← hkey]
    refine lookup_split_self ?_
    rw [map_append, map_cons, hkey, ← map_cons, ← map_append]
    exact hk
  · rename_i h
    rw [lookup_split_of_ne (hkey ▸ h), lookup_split_of_ne h]

omit [DecidableEq κ] in
theorem key_ne_of_nodup (hk : ((before ++ a :: after).map key).Nodup) :
    ∀ b ∈ before ++ after, key b ≠ key a := by
  rw [map_append, map_cons, nodup_middle, nodup_cons, ← map_append] at hk
  exact fun b hb heq => hk.1 (heq ▸ mem_map_of_mem hb)

/-- **Removing an entry** makes its key absent and changes nothing else. -/
theorem lookup_remove (hk : ((before ++ a :: after).map key).Nodup) :
    lookup key k (before ++ after)
      = if key a = k then none else lookup key k (before ++ a :: after) := by
  split
  · rename_i h
    rw [← h, lookup_eq_none]
    exact key_ne_of_nodup hk
  · rename_i h
    rw [lookup_split_of_ne h]

/-- **Adding an entry** with a new key at the end. -/
theorem lookup_concat (hn : lookup key (key a) entries = none) :
    lookup key k (entries ++ [a]) = if key a = k then some a else lookup key k entries := by
  rw [lookup_append]
  split
  · rename_i h
    rw [← h, hn, lookup_cons_self rfl]
    rfl
  · rename_i h
    rw [lookup_cons_of_ne h]
    exact Option.or_none

omit [DecidableEq κ] in
/-- **Keys that are not always there** are distinct when those of the others
are, and the key of the entry, if it has one, is none of them. -/
theorem nodup_filterMap_middle {key : α → Option κ} :
    ((before ++ a :: after).filterMap key).Nodup ↔ ((before ++ after).filterMap key).Nodup
        ∧ ∀ k, key a = some k → ∀ b ∈ before ++ after, key b ≠ some k := by
  cases hkey : key a with
  | none =>
    rw [filterMap_append, filterMap_cons_none hkey, ← filterMap_append]
    simp
  | some k =>
    rw [filterMap_append, filterMap_cons_some hkey, nodup_middle,
      ← filterMap_append, nodup_cons, and_comm]
    refine and_congr Iff.rfl ?_
    constructor
    · rintro hn k' hk' b hb hbk
      obtain rfl := Option.some.inj hk'
      exact hn (mem_filterMap.mpr ⟨b, hb, hbk⟩)
    · rintro hn hm
      obtain ⟨b, hb, hbk⟩ := mem_filterMap.mp hm
      exact hn k rfl b hb hbk

omit [DecidableEq κ] in
theorem eq_of_singleton_eq_split (h : [b] = before ++ a :: after) :
    b = a ∧ before = [] ∧ after = [] := by
  cases before with
  | nil =>
    obtain ⟨rfl, rfl⟩ := cons.inj h
    exact ⟨rfl, rfl, rfl⟩
  | cons x before =>
    have hn := (cons.inj h).2
    exact absurd hn.symm (append_ne_nil_of_right_ne_nil _ (cons_ne_nil _ _))

/-! ## Differences

Two versions of a list are compared entry by entry. -/

section Differences

variable {xs ys : List α}

omit [DecidableEq κ] in
theorem filter_zip_eq_nil [DecidableEq α] (hl : xs.length = ys.length) :
    (xs.zip ys).filter (fun pair => pair.1 ≠ pair.2) = [] ↔ xs = ys := by
  induction xs generalizing ys with
  | nil =>
    obtain rfl := length_eq_zero_iff.mp hl.symm
    simp
  | cons x xs ih =>
    obtain _ | ⟨y, ys⟩ := ys
    · cases hl
    · rw [zip_cons_cons, filter_cons]
      have hr := ih (Nat.succ.inj hl)
      by_cases h : x = y
      · rw [if_neg (by simpa using h), hr, h]
        exact ⟨fun heq => heq ▸ rfl, fun heq => (cons.inj heq).2⟩
      · rw [if_pos (by simpa using h)]
        exact ⟨nofun, fun heq => absurd (cons.inj heq).1 h⟩

omit [DecidableEq κ] in
/-- **Two lists with one difference** agree before it and after it. -/
theorem filter_zip_eq_singleton [DecidableEq α] (hlen : xs.length = ys.length) :
    (xs.zip ys).filter (fun pair => pair.1 ≠ pair.2) = [(a, b)]
      ↔ a ≠ b ∧ ∃ before after, xs = before ++ a :: after ∧ ys = before ++ b :: after := by
  induction xs generalizing ys with
  | nil =>
    constructor
    · intro h
      cases h
    · rintro ⟨-, before, after, hnil, -⟩
      exact absurd hnil.symm (append_ne_nil_of_right_ne_nil _ (cons_ne_nil _ _))
  | cons x xs ih =>
    obtain _ | ⟨y, ys⟩ := ys
    · cases hlen
    · have hr := Nat.succ.inj hlen
      rw [zip_cons_cons, filter_cons]
      by_cases h : x = y
      · subst h
        rw [if_neg (by simp), ih hr]
        refine and_congr_right fun hne => ?_
        constructor
        · rintro ⟨before, after, rfl, rfl⟩
          exact ⟨x :: before, after, rfl, rfl⟩
        · rintro ⟨before, after, hxs, hys⟩
          obtain _ | ⟨z, before⟩ := before
          · -- the difference would be at the head, where there is none
            exact absurd ((cons.inj hxs).1.symm.trans (cons.inj hys).1) hne
          · exact ⟨before, after, (cons.inj hxs).2, (cons.inj hys).2⟩
      · rw [if_pos (by simpa using h), cons.injEq, Prod.mk.injEq, filter_zip_eq_nil hr]
        constructor
        · rintro ⟨⟨rfl, rfl⟩, rfl⟩
          exact ⟨h, [], xs, rfl, rfl⟩
        · rintro ⟨-, before, after, hxs, hys⟩
          obtain _ | ⟨z, before⟩ := before
          · obtain ⟨rfl, rfl⟩ := cons.inj hxs
            obtain ⟨rfl, rfl⟩ := cons.inj hys
            exact ⟨⟨rfl, rfl⟩, rfl⟩
          · exact absurd ((cons.inj hxs).1.trans (cons.inj hys).1.symm) h

end Differences

/-! ## Places

A program finds the place of an entry and then works on the place. -/

omit [DecidableEq κ] in
/-- **A list with one entry more, cut at an entry**: that is the new one, or
the list was cut before it came. -/
theorem concat_eq_append_cons {new : α} :
    entries ++ [new] = before ++ a :: after ↔ (before = entries ∧ a = new ∧ after = [])
      ∨ ∃ rest, entries = before ++ a :: rest ∧ after = rest ++ [new] := by
  constructor
  · intro h
    rcases eq_nil_or_concat after with rfl | ⟨rest, last, rfl⟩
    · obtain ⟨rfl, hl⟩ := append_inj' h rfl
      exact .inl ⟨rfl, (cons.inj hl).1.symm, rfl⟩
    · rw [concat_eq_append, ← cons_append, ← append_assoc] at h
      obtain ⟨he, hl⟩ := append_inj' h rfl
      exact .inr ⟨rest, he, by rw [(cons.inj hl).1, concat_eq_append]⟩
  · rintro (⟨rfl, rfl, rfl⟩ | ⟨rest, rfl, rfl⟩)
    · rfl
    · rw [append_assoc, cons_append]

theorem lookup_eq_map_place :
    lookup key k entries = (entries.findFinIdx? (fun a => key a = k)).map (entries.get ·) := by
  rw [lookup, List.find?_eq_map_findFinIdx?_getElem]
  rfl

theorem split_at (entries : List α) (i : Fin entries.length) :
    entries = entries.take i ++ entries.get i :: entries.drop (i + 1) := by
  conv_lhs => rw [← take_append_drop i entries]
  rw [drop_eq_getElem_cons i.isLt]
  rfl

theorem set_at (entries : List α) (i : Fin entries.length) (a : α) :
    entries.set i a = entries.take i ++ a :: entries.drop (i + 1) := by
  rw [set_eq_take_append_cons_drop, if_pos i.isLt]

/-! A program that finds the place of an entry and changes or removes what
stands there works on the entries before, the entry, and the entries after. -/

/-- **The list around the first entry with a key.** -/
def split (key : α → κ) (k : κ) : List α → Option (List α × α × List α)
  | [] => none
  | a :: entries =>
    if key a = k then some ([], a, entries)
    else (split key k entries).map (fun parts => (a :: parts.1, parts.2))

theorem split_eq_none : split key k entries = none ↔ ∀ a ∈ entries, key a ≠ k := by
  induction entries with
  | nil => simp [split]
  | cons a entries ih =>
    unfold split
    by_cases h : key a = k
    · simp [h]
    · rw [if_neg h, Option.map_eq_none_iff, ih, forall_mem_cons]
      exact ⟨fun hr => ⟨h, hr⟩, And.right⟩

/-- **The list is split where the key stands for the first time.** -/
theorem split_eq_some : split key k entries = some (before, a, after)
    ↔ entries = before ++ a :: after ∧ key a = k ∧ ∀ b ∈ before, key b ≠ k := by
  induction entries generalizing before with
  | nil => simp [split]
  | cons b entries ih =>
    unfold split
    by_cases h : key b = k
    · rw [if_pos h, Option.some.injEq, Prod.mk.injEq, Prod.mk.injEq]
      constructor
      · rintro ⟨rfl, rfl, rfl⟩
        exact ⟨rfl, h, forall_mem_nil _⟩
      · rintro ⟨hs, -, hbef⟩
        obtain _ | ⟨c, before⟩ := before
        · obtain ⟨rfl, rfl⟩ := cons.inj hs
          exact ⟨rfl, rfl, rfl⟩
        · -- the key would stand earlier than where the list is split
          obtain ⟨rfl, -⟩ := cons.inj hs
          exact absurd h (hbef b mem_cons_self)
    · rw [if_neg h, Option.map_eq_some_iff]
      constructor
      · rintro ⟨⟨before', a', after'⟩, hs, heq⟩
        obtain ⟨rfl, rfl, rfl⟩ : b :: before' = before ∧ a' = a ∧ after' = after := by
          simpa using heq
        obtain ⟨rfl, hkey, hbef⟩ := ih.mp hs
        exact ⟨rfl, hkey, forall_mem_cons.mpr ⟨h, hbef⟩⟩
      · rintro ⟨hs, hkey, hbef⟩
        obtain _ | ⟨c, before⟩ := before
        · obtain ⟨rfl, -⟩ := cons.inj hs
          exact absurd hkey h
        · obtain ⟨rfl, rfl⟩ := cons.inj hs
          exact ⟨(before, a, after), ih.mpr ⟨rfl, hkey, (forall_mem_cons.mp hbef).2⟩, rfl⟩

theorem split_of_nodup (hk : (entries.map key).Nodup) (h : entries = before ++ a :: after) :
    split key (key a) entries = some (before, a, after) := by
  subst h
  exact split_eq_some.mpr ⟨rfl, rfl, fun b hb => key_ne_of_nodup hk b (mem_append_left _ hb)⟩

theorem split_replace (h : split key k entries = some (before, a, after)) (hk : key b = key a) :
    split key k (before ++ b :: after) = some (before, b, after) := by
  obtain ⟨-, ha, hb⟩ := split_eq_some.mp h
  exact split_eq_some.mpr ⟨rfl, hk.trans ha, hb⟩

omit [DecidableEq κ] in
theorem mem_middle (h : b ∈ before ++ after) : b ∈ before ++ a :: after :=
  ((sublist_cons_self a after).append_left before).subset h

omit [DecidableEq κ] in
theorem eq_of_mem_middle (hm : b ∈ before ++ a :: after)
    (hg : key b ∉ (before ++ after).map key) : b = a := by
  obtain hb | hb := mem_append.mp hm
  · exact absurd (mem_map_of_mem (mem_append_left _ hb)) hg
  · obtain rfl | hb := mem_cons.mp hb
    · rfl
    · exact absurd (mem_map_of_mem (mem_append_right _ hb)) hg

omit [DecidableEq κ] in
theorem map_replace (hk : key b = key a) :
    (before ++ b :: after).map key = (before ++ a :: after).map key := by
  rw [map_append, map_append, map_cons, map_cons, hk]

/-- With distinct keys, dropping the entries under the key of one of them
drops that one. -/
theorem filter_key_ne (hk : ((before ++ a :: after).map key).Nodup) :
    (before ++ a :: after).filter (fun b => key b ≠ key a) = before ++ after := by
  rw [filter_append, filter_cons_of_neg (by simp), ← filter_append, filter_eq_self]
  intro b hb
  rw [decide_eq_true_eq]
  exact key_ne_of_nodup hk b hb

end KeyedList
