import Glaeda.Protobuf
import Mathlib.Data.List.Dedup
import Mathlib.Data.List.Sort
import Mathlib.Logic.Relation

/-!
# The ids an index entry names

The value of an index entry is a record of another program, and the store
does not know its schema. It reads the record as a message of the wire format
and collects **every field of 32 bytes that a length delimits**; a field of
another length is read as a message in its turn, and gives nothing when it is
none.

Nothing is missed: a field of 32 bytes is no message with such a field inside,
and a message is never taken for broken. And nothing is made up: what is
returned stands in the entry with its length before it (`embeddedIds_exact`).
-/

namespace Glaeda.FleetCas.Embedded

open List Protobuf Relation

/-! ## Reading a message -/

/-- **A number, from these shifts on**: too many groups are refused, and the
bits above the sixty-fourth are lost. -/
def varintFrom (r : Nat) : List Nat → List UInt8 → Option (Nat × List UInt8)
  | shift :: shifts, c :: b =>
    let r := r ||| ((c.toNat &&& 0x7f) <<< shift) % 2 ^ 64
    if c.toNat < 0x80 then some (r, b) else varintFrom r shifts b
  | _, _ => none

/-- A number of up to ten groups of seven bits. -/
def varint (b : List UInt8) : Option (Nat × List UInt8) :=
  varintFrom 0 ((range' 0 10).map (7 * ·)) b

/-- **One field**: what its length delimits, if it has one, and the bytes after
it. -/
def readField (b : List UInt8) : Option (Option (List UInt8) × List UInt8) := do
  let (key, b) ← varint b
  match key % 8 with
  | 0 => return (none, (← varint b).2)
  | 1 => if b.length < 8 then none else some (none, b.drop 8)
  | 5 => if b.length < 4 then none else some (none, b.drop 4)
  | 2 =>
    let (len, b) ← varint b
    if b.length < len then none else some (some (b.take len), b.drop len)
  | _ => none

theorem length_varintFrom {r n : Nat} {shifts : List Nat} {b rest : List UInt8}
    (h : varintFrom r shifts b = some (n, rest)) : rest.length < b.length := by
  fun_induction varintFrom r shifts b with
  | case1 r shift shifts c b r' hl =>
    obtain ⟨-, rfl⟩ := Prod.mk.inj (Option.some.inj h)
    exact Nat.lt_succ_self _
  | case2 r shift shifts c b r' hl ih => exact (ih h).trans (Nat.lt_succ_self _)
  | case3 => cases h

theorem length_readField {b rest : List UInt8} {value : Option (List UInt8)}
    (h : readField b = some (value, rest)) : rest.length < b.length := by
  obtain ⟨⟨key, b'⟩, hk, h⟩ := Option.bind_eq_some_iff.mp h
  have hlt := length_varintFrom hk
  dsimp only at h
  split at h
  · obtain ⟨⟨n, b''⟩, hn, h⟩ := Option.bind_eq_some_iff.mp h
    obtain ⟨-, rfl⟩ := Prod.mk.inj (Option.some.inj h)
    exact (length_varintFrom hn).trans hlt
  · split at h
    · cases h
    · obtain ⟨-, rfl⟩ := Prod.mk.inj (Option.some.inj h)
      exact lt_of_le_of_lt (drop_sublist ..).length_le hlt
  · split at h
    · cases h
    · obtain ⟨-, rfl⟩ := Prod.mk.inj (Option.some.inj h)
      exact lt_of_le_of_lt (drop_sublist ..).length_le hlt
  · obtain ⟨⟨len, b''⟩, hl, h⟩ := Option.bind_eq_some_iff.mp h
    split at h
    · cases h
    · obtain ⟨-, rfl⟩ := Prod.mk.inj (Option.some.inj h)
      exact lt_of_le_of_lt (drop_sublist ..).length_le ((length_varintFrom hl).trans hlt)
  · cases h

/-- **The fields of a message**, as far as it can be read. -/
def fields (nested : List UInt8 → List (List UInt8)) (b : List UInt8)
    (found : List (List UInt8)) : Option (List (List UInt8)) :=
  if b = [] then some found
  else match _h : readField b with
  | none => none
  | some (value, rest) => fields nested rest (found ++ value.elim [] fun field =>
      if field.length = 32 then [field] else nested field)
termination_by b.length
decreasing_by exact length_readField _h

/-- **What a field is walked for**, with so many levels of messages left. -/
def walk : Nat → List UInt8 → List (List UInt8)
  | 0, _ => []
  | levels + 1, b => (fields (walk levels) b []).getD []

/-- **The ids that the values of an index entry name.** -/
def embeddedIds (entries : List (List UInt8)) : List (List UInt8) :=
  ((entries.flatMap fun v => if v.length = 32 then [v] else walk 9 v).insertionSort (· ≤ ·)).dedup

/-! ## Nothing is missed -/

section Encoded

variable {b rest value : List UInt8} {n num : Nat}

theorem varintFrom_encodeVarint {i k r : Nat} (hi : i + k = 9) (hr : r < 2 ^ (7 * i))
    (hn : n * 2 ^ (7 * i) < 2 ^ 64) :
    varintFrom r ((range' i (k + 1)).map (7 * ·)) (encodeVarint n ++ rest)
      = some (r + n * 2 ^ (7 * i), rest) := by
  induction n using Nat.strongRecOn generalizing i k r with
  | ind n ih =>
    have hg (c : UInt8) (m : Nat) (hc : c.toNat % 2 ^ 7 = m) (hm : m ≤ n) :
        r ||| ((c.toNat &&& 0x7f) <<< (7 * i)) % 2 ^ 64 = r + m * 2 ^ (7 * i) := by
      -- the groups read before lie below this one
      rw [Nat.and_two_pow_sub_one_eq_mod _ 7, hc, Nat.or_comm, Nat.mod_eq_of_lt,
        ← Nat.shiftLeft_add_eq_or_of_lt hr, Nat.shiftLeft_eq, Nat.add_comm]
      rw [Nat.shiftLeft_eq]
      exact lt_of_le_of_lt (Nat.mul_le_mul_right _ hm) hn
    rw [encodeVarint, range'_succ, map_cons]
    split
    · have hb : (UInt8.ofNat n).toNat = n := Nat.mod_eq_of_lt (by omega)
      rw [singleton_append, varintFrom, hg _ n (by omega) le_rfl, if_pos (by omega)]
    · have hb : (UInt8.ofNat (n % 128 + 128)).toNat = n % 128 + 128 :=
        Nat.mod_eq_of_lt (by omega)
      rw [cons_append, varintFrom, hg _ (n % 128) (by omega) (Nat.mod_le ..), if_neg (by omega)]
      cases k with
      | zero =>
        obtain rfl : i = 9 := hi
        omega
      | succ k =>
        have hpow : 2 ^ (7 * (i + 1)) = 128 * 2 ^ (7 * i) := by
          rw [Nat.mul_succ, Nat.pow_add, Nat.mul_comm]
        have hs : n * 2 ^ (7 * i) = n % 128 * 2 ^ (7 * i) + n / 128 * 2 ^ (7 * (i + 1)) := by
          rw [hpow, ← Nat.mul_assoc, ← Nat.add_mul, Nat.mul_comm _ 128, Nat.mod_add_div]
        have hnx : n % 128 * 2 ^ (7 * i) + 2 ^ (7 * i) ≤ 2 ^ (7 * (i + 1)) := by
          rw [hpow, ← Nat.succ_mul]
          exact Nat.mul_le_mul_right _ (Nat.mod_lt _ (by decide))
        rw [ih (n / 128) (by omega) (by omega) (by omega) (by omega), hs, Nat.add_assoc]

/-- **A number is read back**, whatever follows it. -/
theorem varint_encodeVarint (hn : n < 2 ^ 64) :
    varint (encodeVarint n ++ rest) = some (n, rest) := by
  have hr := @varintFrom_encodeVarint rest n 0 9 0 rfl Nat.one_pos (by omega)
  rwa [Nat.mul_zero, Nat.pow_zero, Nat.mul_one, Nat.zero_add] at hr

theorem varint_key {kind : Nat} (hn : num < 2 ^ 29) (hk : kind < 8) :
    varint (key num kind ++ rest) = some (num * 8 + kind, rest) :=
  varint_encodeVarint (by omega)

theorem readField_delimited (hn : num < 2 ^ 29) (hv : value.length < 2 ^ 64) :
    readField (delimited num value ++ rest) = some (some value, rest) := by
  simp [readField, delimited, varint_key hn, varint_encodeVarint hv]

/-- **The message is read to its end, and these leaves are found.** -/
def Finds (levels : Nat) (b : List UInt8) (leaves : List (List UInt8)) : Prop :=
  ∀ fd, ∃ out, fields (walk levels) b fd = some out ∧ fd ⊆ out
    ∧ ∀ leaf ∈ leaves, leaf.length = 32 → leaf ∈ out

theorem Finds.cons {levels : Nat} {field : Option (List UInt8)} {leaves new : List (List UInt8)}
    (h : Finds levels rest leaves) (hr : readField b = some (field, rest))
    (hnew : ∀ leaf ∈ new, leaf.length = 32 → leaf ∈ field.elim [] fun field =>
      if field.length = 32 then [field] else walk levels field) :
    Finds levels b (new ++ leaves) := by
  intro fd
  obtain ⟨out, ho, hf, hlv⟩ := h _
  refine ⟨out, ?_, fun x hx => hf (mem_append_left _ hx), forall_mem_append.mpr
    ⟨fun leaf hlf hl => hf (mem_append_right _ (hnew leaf hlf hl)), hlv⟩⟩
  have hb : b ≠ [] := by
    rintro rfl
    cases hr
  rw [fields, if_neg hb]
  split
  · rename_i hn
    rw [hr] at hn
    cases hn
  · rename_i hs
    rw [hr] at hs
    obtain ⟨rfl, rfl⟩ := Prod.mk.inj (Option.some.inj hs)
    exact ho

/-- **Nothing is missed in a message.** The induction is on how it was
encoded; a message within it that is itself of 32 bytes is not walked, but it
has no leaf of that length. -/
theorem finds_of_encodes {depth : Nat} {leaves : List (List UInt8)} (h : Encodes depth b leaves)
    (hb : b.length < 2 ^ 64) : Finds (depth - 1) b leaves := by
  induction h with
  | nil =>
    refine fun fd => ⟨fd, ?_, Subset.refl _, by simp⟩
    rw [fields, if_pos rfl]
  | @varint _ num value rest _ hnum hv _ ih =>
    simp only [length_append] at hb
    refine @Finds.cons _ _ _ none _ [] (ih (by omega)) ?_ (by simp)
    simp [readField, varint_key hnum, varint_encodeVarint hv]
  | @fixed _ num kind value rest _ hnum hk _ ih =>
    simp only [length_append] at hb
    refine @Finds.cons _ _ _ none _ [] (ih (by omega)) ?_ (by simp)
    obtain ⟨rfl, hl⟩ | ⟨rfl, hl⟩ := hk <;>
      simp [readField, varint_key hnum, hl]
  | leaf hnum _ ih =>
    simp only [delimited, length_append] at hb
    refine (ih (by omega)).cons (readField_delimited hnum (by omega)) ?_
    simp +contextual
  | @message depth _ inner _ _ _ hnum hi _ ihinner ih =>
    simp only [delimited, length_append] at hb
    refine (ih (by omega)).cons (readField_delimited hnum (by omega))
      fun leaf hlf hl => ?_
    have hlt := hi.length_lt leaf hlf
    obtain ⟨levels, rfl⟩ : ∃ levels, depth = levels + 1 := by
      cases hi <;> exact ⟨_, rfl⟩
    obtain ⟨out, hout, -, hlv⟩ := ihinner (by omega) []
    rw [Option.elim_some, if_neg (by omega)]
    show leaf ∈ (fields (walk levels) inner []).getD []
    rw [show fields (walk levels) inner [] = some out from hout]
    exact hlv leaf hlf hl

end Encoded

/-! ## Nothing is made up -/

/-- **The value is a field of the message that a length delimits.** -/
inductive FieldOf (value : List UInt8) : List UInt8 → Prop
  | here {b rest : List UInt8} (h : readField b = some (some value, rest)) : FieldOf value b
  | there {b rest : List UInt8} {field : Option (List UInt8)}
      (h : readField b = some (field, rest)) (hrest : FieldOf value rest) : FieldOf value b

section Found

variable {nested : List UInt8 → List (List UInt8)} {fd out : List (List UInt8)}
variable {b id : List UInt8}

theorem mem_fields (h : fields nested b fd = some out) (hid : id ∈ out) :
    id ∈ fd ∨ ∃ field, FieldOf field b
      ∧ id ∈ if field.length = 32 then [field] else nested field := by
  fun_induction fields nested b fd with
  | case1 =>
    obtain rfl := Option.some.inj h
    exact .inl hid
  | case2 => cases h
  | case3 b fd hb value rest hr ih =>
    obtain hf | ⟨field, hfld, hid⟩ := ih h
    · obtain hf | hn := mem_append.mp hf
      · exact .inl hf
      · cases value with
        | none => cases hn
        | some field => exact .inr ⟨field, .here hr, hn⟩
    · exact .inr ⟨field, .there hr hfld, hid⟩

theorem mem_walk {levels : Nat} (h : id ∈ walk levels b) :
    id.length = 32 ∧ TransGen FieldOf id b := by
  induction levels generalizing b with
  | zero => cases h
  | succ levels ih =>
    rw [walk] at h
    cases ho : fields (walk levels) b [] with
    | none =>
      rw [ho] at h
      cases h
    | some out =>
      rw [ho] at h
      obtain hfnd | ⟨field, hf, hid⟩ := mem_fields ho h
      · cases hfnd
      · split at hid
        · rename_i hl
          obtain rfl := mem_singleton.mp hid
          exact ⟨hl, .single hf⟩
        · obtain ⟨hl, hw⟩ := ih hid
          exact ⟨hl, hw.tail hf⟩

end Found

/-- **The embedded ids are exact.** They are sorted and distinct; each of them
is an entry of 32 bytes, or stands in one as a field that a length delimits,
however deep; and every entry of 32 bytes is among them, and every such leaf
of an entry that encodes a message of messages at most nine deep. -/
theorem embeddedIds_exact (entries : List (List UInt8)) :
    (embeddedIds entries).Pairwise (· < ·)
      ∧ (∀ id ∈ embeddedIds entries, id.length = 32 ∧ ∃ v ∈ entries, id = v ∨ TransGen FieldOf id v)
      ∧ ∀ v ∈ entries, (v.length = 32 → v ∈ embeddedIds entries)
        ∧ ∀ leaves, Encodes 9 v leaves → v.length < 2 ^ 64 →
          ∀ leaf ∈ leaves, leaf.length = 32 → leaf ∈ embeddedIds entries := by
  have hmem (id : List UInt8) : id ∈ embeddedIds entries
      ↔ ∃ v ∈ entries, id ∈ if v.length = 32 then [v] else walk 9 v := by
    rw [embeddedIds, mem_dedup, mem_insertionSort, mem_flatMap]
  refine ⟨?_, fun id hid => ?_, fun v hv => ⟨fun hl => ?_, ?_⟩⟩
  · unfold embeddedIds
    generalize entries.flatMap _ = ids
    have hsrt := (pairwise_insertionSort (· ≤ ·) ids).sublist (dedup_sublist _)
    exact (hsrt.and (nodup_dedup _)).imp fun h => Std.lt_of_le_of_ne h.1 h.2
  · obtain ⟨v, hv, hid⟩ := (hmem id).mp hid
    split at hid
    · rename_i hl
      obtain rfl := mem_singleton.mp hid
      exact ⟨hl, id, hv, .inl rfl⟩
    · obtain ⟨hl, hfld⟩ := mem_walk hid
      exact ⟨hl, v, hv, .inr hfld⟩
  · refine (hmem v).mpr ⟨v, hv, ?_⟩
    rw [if_pos hl]
    exact mem_singleton_self v
  · intro leaves he hb leaf hlf hl
    have hlt := he.length_lt leaf hlf
    obtain ⟨out, hout, -, hlv⟩ := finds_of_encodes he hb []
    refine (hmem leaf).mpr ⟨v, hv, ?_⟩
    rw [if_neg (by omega), walk, show fields (walk 8) v [] = some out from hout]
    exact hlv leaf hlf hl

end Glaeda.FleetCas.Embedded
