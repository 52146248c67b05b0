import Glaeda.Json

/-!
# Reading JSON text

What is written as JSON is read back by another program, of which one thing
is known: **it reads back what was written**, as long as the numbers fit
their machine integers and the nesting stays below its limit. A `Reader` is
any function with that property; what it makes of other texts is left open.

`compactReader` is a reader: a recursive descent over the text, which
accepts compact texts only. It shows that the property can be had, and the
documents below can be evaluated with it.

A value that was read is taken apart into the fields of a record. A record
has a fixed set of field names; a document that names another one, or one
of them twice, is refused (`recordFields`). A value that is kept without a
type of its own has its fields sorted, and of two fields with one name the
last is kept (`dynamic`).
-/

namespace Json

open List

/-! ## Readers -/

/-- Where the numbers end. -/
def numberLimit : Nat := 2 ^ 64

/-- **A value that is read back**: its numbers fit, and its arrays and
objects are nested at most so deep. -/
inductive Readable : Nat → Value → Prop where
  | null (depth : Nat) : Readable depth .null
  | bool (depth : Nat) (b : Bool) : Readable depth (.bool b)
  | num (depth : Nat) {n : Nat} (h : n < numberLimit) : Readable depth (.num n)
  | str (depth : Nat) (s : String) : Readable depth (.str s)
  | arr {depth : Nat} {items : List Value} (h : ∀ v ∈ items, Readable depth v) :
      Readable (depth + 1) (.arr items)
  | obj {depth : Nat} {fields : List (String × Value)} (h : ∀ f ∈ fields, Readable depth f.2) :
      Readable (depth + 1) (.obj fields)

variable {depth : Nat}

/-- An object is readable when the value of each field is. -/
theorem Readable.fields {fields : List (String × Value)}
    (h : fields.Forall fun f => Readable depth f.2) : Readable (depth + 1) (.obj fields) :=
  .obj (forall_iff_forall_mem.mp h)

theorem readable_arr_map {α : Type} {write : α → Value} (xs : List α)
    (h : ∀ a, Readable depth (write a)) : Readable (depth + 1) (.arr (xs.map write)) := by
  refine .arr fun v hv => ?_
  obtain ⟨a, -, rfl⟩ := mem_map.mp hv
  exact h a

/-- How deep values are nested. -/
def maxDepth : Nat := 127

/-- **A reader of JSON text.** -/
structure Reader where
  read : List UInt8 → Option Value
  read_encode : ∀ value, Readable maxDepth value → read (encode value) = some value

/-! ## A reader of compact text -/

/-- The character after a backslash. -/
def unescape : Char → Option Char
  | '"' => some '"'
  | '\\' => some '\\'
  | '/' => some '/'
  | 'b' => some (Char.ofNat 8)
  | 't' => some '\t'
  | 'n' => some '\n'
  | 'f' => some (Char.ofNat 12)
  | 'r' => some '\r'
  | _ => none

/-- The value of a digit. -/
def hexDigit (c : Char) : Option Nat :=
  (List.range 16).find? (fun n => Nat.digitChar n = c.toLower)

/-- The character of four digits. -/
def unescapeHex (a b c d : Char) : Option Char := do
  let n := 4096 * (← hexDigit a) + 256 * (← hexDigit b) + 16 * (← hexDigit c) + (← hexDigit d)
  if n.isValidChar then some (Char.ofNat n) else none

/-- **A quoted text**, after its opening quote: the text and what follows. -/
def readText : List Char → Option (List Char × List Char)
  | [] => none
  | '"' :: rest => some ([], rest)
  | '\\' :: 'u' :: a :: b :: c :: d :: rest => do
    let c ← unescapeHex a b c d
    let (text, rest) ← readText rest
    return (c :: text, rest)
  | '\\' :: c :: rest => do
    let c ← unescape c
    let (text, rest) ← readText rest
    return (c :: text, rest)
  | c :: rest => do
    if c.toNat < 32 then none
    let (text, rest) ← readText rest
    return (c :: text, rest)

/-- **A number**: its decimal digits, without leading zeros. -/
def readNumber (cs : List Char) : Option (Value × List Char) :=
  let digits := cs.takeWhile Char.isDigit
  let n := Nat.ofDigitChars 10 digits 0
  if Nat.toDigits 10 n = digits ∧ n < numberLimit then some (.num n, cs.dropWhile Char.isDigit)
  else none

/-- A word that stands for a value. -/
def readWord (word : List Char) (value : Value) (cs : List Char) : Option (Value × List Char) :=
  if cs.take word.length = word then some (value, cs.drop word.length) else none

mutual

/-- **A value** at the front of a text, and what follows. -/
def readValue : Nat → List Char → Option (Value × List Char)
  | 0, _ => none
  | _ + 1, [] => none
  | _ + 1, '"' :: rest => (readText rest).map (fun p => (.str (String.ofList p.1), p.2))
  | _ + 1, '[' :: ']' :: rest => some (.arr [], rest)
  | fuel + 1, '[' :: rest => (readItems fuel rest).map (fun p => (.arr p.1, p.2))
  | _ + 1, '{' :: '}' :: rest => some (.obj [], rest)
  | fuel + 1, '{' :: rest => (readFields fuel rest).map (fun p => (.obj p.1, p.2))
  | _ + 1, 'n' :: rest => readWord ['u', 'l', 'l'] .null rest
  | _ + 1, 't' :: rest => readWord ['r', 'u', 'e'] (.bool true) rest
  | _ + 1, 'f' :: rest => readWord ['a', 'l', 's', 'e'] (.bool false) rest
  | _ + 1, c :: rest => readNumber (c :: rest)

/-- Items up to the bracket. -/
def readItems : Nat → List Char → Option (List Value × List Char)
  | 0, _ => none
  | fuel + 1, cs => do
    let (item, rest) ← readValue fuel cs
    match rest with
    | ',' :: rest => (readItems fuel rest).map (fun p => (item :: p.1, p.2))
    | ']' :: rest => some ([item], rest)
    | _ => none

/-- Fields up to the brace. -/
def readFields : Nat → List Char → Option (List (String × Value) × List Char)
  | 0, _ => none
  | fuel + 1, cs => do
    let (field, rest) ← readField fuel cs
    match rest with
    | ',' :: rest => (readFields fuel rest).map (fun p => (field :: p.1, p.2))
    | '}' :: rest => some ([field], rest)
    | _ => none

/-- One field. -/
def readField : Nat → List Char → Option ((String × Value) × List Char)
  | 0, _ => none
  | fuel + 1, '"' :: rest => do
    let (name, rest) ← readText rest
    match rest with
    | ':' :: rest => (readValue fuel rest).map (fun p => ((String.ofList name, p.1), p.2))
    | _ => none
  | _ + 1, _ => none

end

/-- Nothing is left over. -/
def wholeText : Option (Value × List Char) → Option Value
  | some (value, []) => some value
  | _ => none

/-- **The value of a whole compact text.** -/
def readCompact (bytes : List UInt8) : Option Value := do
  let text ← textOfUtf8 bytes
  wholeText (readValue (text.toList.length + 1) text.toList)

/-! ### It reads back what was written -/

theorem hexDigit_digitChar : ∀ n < 16, hexDigit (Nat.digitChar n) = some n := by decide

/-- **A character is read back from its escape.** -/
theorem readText_escape (c : Char) (rest : List Char) :
    readText (escape c ++ rest) = (readText rest).map (fun p => (c :: p.1, p.2)) := by
  have hc {n : Nat} (h : c.toNat = n) : c = Char.ofNat n := by rw [← h, Char.ofNat_toNat]
  unfold escape
  split
  case h_8 hq hbac _ _ _ _ _ =>
    split
    · have hh := hexDigit_digitChar (c.toNat / 16) (by omega)
      have hlow := hexDigit_digitChar (c.toNat % 16) (by omega)
      have hz : hexDigit '0' = some 0 := by decide
      have hu : unescapeHex '0' '0' (Nat.digitChar (c.toNat / 16))
          (Nat.digitChar (c.toNat % 16)) = some c := by
        have hn : 4096 * 0 + 256 * 0 + 16 * (c.toNat / 16) + c.toNat % 16 = c.toNat := by omega
        have hval : c.toNat.isValidChar := c.valid
        simp only [unescapeHex, hh, hlow, hz, Option.bind_eq_bind, Option.bind_some, hn,
          hval, if_true, Char.ofNat_toNat]
      show readText ('\\' :: 'u' :: '0' :: '0' :: _ :: _ :: rest) = _
      rw [readText, hu]
      cases readText rest <;> rfl
    · rename_i hge
      show readText (c :: rest) = _
      rw [readText, if_neg hge]
      · cases readText rest <;> rfl
      · rintro rfl
        exact hq rfl
      all_goals
        intros
        subst_vars
        exact hbac rfl
  all_goals
    rename_i h
    rw [hc h]
    show readText ('\\' :: _ :: rest) = _
    rw [readText]
    · cases readText rest <;> rfl
    · nofun

/-- **A text is read back from its quoted form.** -/
theorem readText_flatMap_escape (text rest : List Char) :
    readText (text.flatMap escape ++ '"' :: rest) = some (text, rest) := by
  induction text with
  | nil => rfl
  | cons c text ih => rw [flatMap_cons, append_assoc, readText_escape, ih, Option.map_some]

/-- What can follow a number. -/
def EndsNumber (rest : List Char) : Prop := ∀ c ∈ rest.head?, c.isDigit = false

theorem takeWhile_isDigit_of_endsNumber {rest : List Char} (h : EndsNumber rest) :
    rest.takeWhile Char.isDigit = [] ∧ rest.dropWhile Char.isDigit = rest := by
  cases rest with
  | nil => exact ⟨rfl, rfl⟩
  | cons c rest =>
    have hc : c.isDigit = false := h c rfl
    exact ⟨takeWhile_cons_of_neg (by simp [hc]), dropWhile_cons_of_neg (by simp [hc])⟩

/-- **A number is read back from its digits.** -/
theorem readNumber_toDigits {n : Nat} (hn : n < numberLimit) {rest : List Char}
    (hr : EndsNumber rest) : readNumber (Nat.toDigits 10 n ++ rest) = some (.num n, rest) := by
  have hdig : ∀ c ∈ Nat.toDigits 10 n, c.isDigit = true := fun c hc =>
    Nat.isDigit_of_mem_toDigits (by decide) (by decide) hc
  obtain ⟨ht, hd⟩ := takeWhile_isDigit_of_endsNumber hr
  simp only [readNumber]
  rw [takeWhile_append_of_pos hdig, dropWhile_append_of_pos hdig, ht, hd,
    append_nil, Nat.ofDigitChars_toDigits (by decide) (by decide)]
  exact if_pos ⟨rfl, hn⟩

theorem exists_render_eq_cons (value : Value) : ∃ c cs, render value = c :: cs ∧ c ≠ ']' := by
  cases value with
  | null => exact ⟨_, _, rfl, by decide⟩
  | bool b => cases b <;> exact ⟨_, _, rfl, by decide⟩
  | num n =>
    obtain ⟨c, cs, hcs⟩ := exists_cons_of_ne_nil (Nat.toDigits_ne_nil (n := n) (b := 10))
    refine ⟨c, cs, by rw [render, hcs], ?_⟩
    rintro rfl
    have hm : ']' ∈ Nat.toDigits 10 n := hcs ▸ mem_cons_self
    exact absurd (Nat.isDigit_of_mem_toDigits (by decide) (by decide) hm) (by decide)
  | str s => exact ⟨'"', _, rfl, by decide⟩
  | arr xs => exact ⟨'[', _, rfl, by decide⟩
  | obj fields => exact ⟨'{', _, rfl, by decide⟩

theorem readValue_digit {c : Char} (hc : c.isDigit = true) (fuel : Nat) (cs : List Char) :
    readValue (fuel + 1) (c :: cs) = readNumber (c :: cs) := by
  rw [readValue]
  all_goals
    intros
    subst_vars
    revert hc
    decide

theorem endsNumber_cons {c : Char} (h : c.isDigit = false) (rest : List Char) :
    EndsNumber (c :: rest) := by
  rintro _ ⟨⟩
  exact h

/-- A value is read back, whatever follows. -/
def ReadsBack (value : Value) : Prop :=
  ∀ fuel rest, (render value).length ≤ fuel → EndsNumber rest →
    readValue fuel (render value ++ rest) = some (value, rest)

/-- **Items are read back.** -/
theorem readItems_renderItems {xs : List Value} (hi : ∀ v ∈ xs, ReadsBack v)
    (hne : xs ≠ []) (fuel : Nat) (rest : List Char)
    (hf : (renderItems xs).length < fuel) :
    readItems fuel (renderItems xs ++ ']' :: rest) = some (xs, rest) := by
  induction xs generalizing fuel with
  | nil => exact absurd rfl hne
  | cons v xs ih =>
    obtain ⟨fuel, rfl⟩ : ∃ f, fuel = f + 1 := ⟨fuel - 1, by omega⟩
    have hv := hi v mem_cons_self
    cases xs with
    | nil =>
      simp only [renderItems] at hf ⊢
      rw [readItems, hv fuel _ (by omega) (endsNumber_cons (by decide) _)]
      rfl
    | cons w xs =>
      have hr := ih (fun u hu => hi u (mem_cons_of_mem v hu)) (cons_ne_nil _ _)
      simp only [renderItems, length_append, length_cons] at hf
      rw [renderItems, append_assoc, readItems, cons_append,
        hv fuel _ (by omega) (endsNumber_cons (by decide) _)]
      · show (readItems fuel (renderItems (w :: xs) ++ ']' :: rest)).map _ = _
        rw [hr fuel (by omega)]
        rfl
      · exact cons_ne_nil _ _

variable {name : String} {value : Value}

/-- **A field is read back.** -/
theorem readField_renderField (hv : ReadsBack value)
    (fuel : Nat) (rest : List Char) (hf : (renderField (name, value)).length ≤ fuel)
    (hr : EndsNumber rest) :
    readField fuel (renderField (name, value) ++ rest) = some ((name, value), rest) := by
  simp only [renderField, quote, length_append, length_cons] at hf
  obtain ⟨fuel, rfl⟩ : ∃ f, fuel = f + 1 := ⟨fuel - 1, by omega⟩
  have ht : renderField (name, value) ++ rest
      = '"' :: (name.toList.flatMap escape ++ '"' :: ':' :: (render value ++ rest)) := by
    simp [renderField, quote]
  rw [ht, readField, readText_flatMap_escape]
  show (readValue fuel (render value ++ rest)).map _ = _
  rw [hv fuel rest (by omega) hr, Option.map_some, String.ofList_toList]

variable {fields : List (String × Value)}

/-- **Fields are read back.** -/
theorem readFields_renderFields
    (hfl : ∀ f ∈ fields, ReadsBack f.2) (hne : fields ≠ []) (fuel : Nat) (rest : List Char)
    (hfuel : (renderFields fields).length < fuel) :
    readFields fuel (renderFields fields ++ '}' :: rest) = some (fields, rest) := by
  induction fields generalizing fuel with
  | nil => exact absurd rfl hne
  | cons f fields ih =>
    obtain ⟨fuel, rfl⟩ : ∃ f, fuel = f + 1 := ⟨fuel - 1, by omega⟩
    obtain ⟨name, value⟩ := f
    have hf : ReadsBack value := hfl (name, value) mem_cons_self
    cases fields with
    | nil =>
      simp only [renderFields] at hfuel ⊢
      rw [readFields, readField_renderField hf fuel _ (by omega) (endsNumber_cons (by decide) _)]
      rfl
    | cons g fields =>
      have hr := ih (fun u hu => hfl u (mem_cons_of_mem _ hu)) (cons_ne_nil _ _)
      simp only [renderFields, length_append, length_cons] at hfuel
      rw [renderFields, append_assoc, readFields, cons_append,
        readField_renderField hf fuel _ (by omega) (endsNumber_cons (by decide) _)]
      · show (readFields fuel (renderFields (g :: fields) ++ '}' :: rest)).map _ = _
        rw [hr fuel (by omega)]
        rfl
      · exact cons_ne_nil _ _

/-- **Every readable value is read back.** -/
theorem readsBack_of_readable (h : Readable depth value) : ReadsBack value := by
  induction h with
  | null depth =>
    intro fuel rest hf _
    cases fuel <;> first | rfl | exact absurd hf (by decide)
  | bool depth b =>
    intro fuel rest hf _
    cases b <;> cases fuel <;> first | rfl | exact absurd hf (by decide)
  | @num depth n hn =>
    intro fuel rest hf hrs
    obtain ⟨c, cs, hcs⟩ := exists_cons_of_ne_nil (Nat.toDigits_ne_nil (n := n) (b := 10))
    have hr := readNumber_toDigits hn hrs
    simp only [render] at hf ⊢
    rw [hcs] at hf hr ⊢
    obtain ⟨fuel, rfl⟩ : ∃ f, fuel = f + 1 := ⟨fuel - 1, by simp at hf; omega⟩
    have hc : c.isDigit = true := Nat.isDigit_of_mem_toDigits (by decide) (by decide)
      (hcs ▸ mem_cons_self : c ∈ Nat.toDigits 10 n)
    exact (readValue_digit hc fuel _).trans hr
  | str depth s =>
    intro fuel rest hf _
    simp only [render, quote, length_cons] at hf
    obtain ⟨fuel, rfl⟩ : ∃ f, fuel = f + 1 := ⟨fuel - 1, by omega⟩
    have ht : render (.str s) ++ rest
        = '"' :: (s.toList.flatMap escape ++ '"' :: rest) := by simp [render, quote]
    rw [ht, readValue, readText_flatMap_escape, Option.map_some, String.ofList_toList]
  | @arr depth xs _ ih =>
    intro fuel rest hf _
    simp only [render, length_cons, length_append] at hf
    obtain ⟨fuel, rfl⟩ : ∃ f, fuel = f + 1 := ⟨fuel - 1, by omega⟩
    by_cases hne : xs = []
    · subst hne
      rfl
    · obtain ⟨v, tail, rfl⟩ := exists_cons_of_ne_nil hne
      have ht : render (.arr (v :: tail)) ++ rest
          = '[' :: (renderItems (v :: tail) ++ ']' :: rest) := by simp [render]
      rw [ht, readValue, readItems_renderItems ih hne fuel rest (by omega), Option.map_some]
      -- the text is not the one of an empty array
      obtain ⟨c, cs, hcs, hc⟩ := exists_render_eq_cons v
      intro rest' h
      cases tail <;> simp [renderItems, hcs] at h <;> exact hc h.1
  | @obj depth fields _ ih =>
    intro fuel rest hf _
    simp only [render, length_cons, length_append] at hf
    obtain ⟨fuel, rfl⟩ : ∃ f, fuel = f + 1 := ⟨fuel - 1, by omega⟩
    by_cases hne : fields = []
    · subst hne
      rfl
    · obtain ⟨⟨name, v⟩, tail, rfl⟩ := exists_cons_of_ne_nil hne
      have ht : render (.obj ((name, v) :: tail)) ++ rest
          = '{' :: (renderFields ((name, v) :: tail) ++ '}' :: rest) := by simp [render]
      rw [ht, readValue, readFields_renderFields ih hne fuel rest (by omega), Option.map_some]
      intro rest' h
      cases tail <;> simp [renderFields, renderField, quote] at h

/-- **The compact reader is a reader.** -/
def compactReader : Reader where
  read := readCompact
  read_encode := by
    intro value h
    unfold readCompact encode
    rw [textOfUtf8_utf8]
    show wholeText (readValue ((String.ofList (render value)).toList.length + 1)
      (String.ofList (render value)).toList) = some value
    have hread := readsBack_of_readable h ((render value).length + 1) [] (Nat.le_succ _) nofun
    rw [List.append_nil] at hread
    rw [String.toList_ofList, hread]
    rfl

/-! ## Records -/

/-- A number below a limit. -/
def Value.asNat (limit : Nat) : Value → Option Nat
  | .num n => if n < limit then some n else none
  | _ => none

/-- A text. -/
def Value.asText : Value → Option String
  | .str s => some s
  | _ => none

/-- A truth value. -/
def Value.asBool : Value → Option Bool
  | .bool b => some b
  | _ => none

/-- A list. -/
def Value.asList {α : Type} (read : Value → Option α) : Value → Option (List α)
  | .arr items => items.mapM read
  | _ => none

theorem num_ne_null (n : Nat) : Value.num n ≠ .null := Value.noConfusion

theorem str_ne_null (s : String) : Value.str s ≠ .null := Value.noConfusion

/-- **The fields of a record** with these names: no other name, and none
twice. -/
def recordFields (names : List String) : Value → Option (List (String × Value))
  | .obj fields =>
    if (fields.map Prod.fst).Nodup ∧ ∀ f ∈ fields, f.1 ∈ names then some fields else none
  | _ => none

/-- A field of a value that may have others. -/
def looseField {α : Type} (name : String) (read : Value → Option α) : Value → Option α
  | .obj fields =>
    match fields.filter (fun f => f.1 = name) with
    | [(_, value)] => read value
    | _ => none
  | _ => none

/-- A field. -/
def field {α : Type} (fields : List (String × Value)) (name : String)
    (read : Value → Option α) : Option α :=
  (fields.lookup name).bind read

/-- A field that may be missing or null. -/
def optionalField {α : Type} (fields : List (String × Value)) (name : String)
    (read : Value → Option α) : Option (Option α) :=
  match fields.lookup name with
  | none | some .null => some none
  | some value => (read value).map some

section

variable {names : List String} (hnd : (fields.map Prod.fst).Nodup)
    (hnames : ∀ f ∈ fields, f.1 ∈ names)
include hnd hnames

theorem recordFields_obj : recordFields names (.obj fields) = some fields :=
  if_pos ⟨hnd, hnames⟩

theorem recordFields_bind {α : Type} {read : List (String × Value) → Option α} :
    (recordFields names (.obj fields) >>= read) = read fields := by
  rw [recordFields_obj hnd hnames]
  rfl

end

theorem asNat_num {limit n : Nat} (h : n < limit) : (Value.num n).asNat limit = some n := if_pos h

@[simp] theorem asText_str (s : String) : (Value.str s).asText = some s := rfl

variable {α : Type}

@[simp] theorem field_of_lookup {read : Value → Option α} (h : fields.lookup name = some value) :
    field fields name read = read value := by
  rw [field, h, Option.bind_some]

variable {β : Type} {read : Value → Option β} {write : α → Value} {view : α → β}

theorem optionalField_of_lookup {value : Option α} (h : fields.lookup name = value.map write)
    (hr : ∀ a, read (write a) = some (view a)) (hw : ∀ a, write a ≠ .null) :
    optionalField fields name read = some (value.map view) := by
  cases value with
  | none => simp only [optionalField, h, Option.map_none]
  | some a =>
    unfold optionalField
    rw [h]
    split
    · cases ‹_›
    · exact absurd (Option.some.inj ‹_›) (hw a)
    · rename_i v hv
      rw [← Option.some.inj hv, hr]
      rfl

theorem asList_arr_map (xs : List α) (h : ∀ a ∈ xs, read (write a) = some (view a)) :
    (Value.arr (xs.map write)).asList read = some (xs.map view) := by
  show (xs.map write).mapM read = _
  induction xs with
  | nil => rfl
  | cons a xs ih =>
    rw [map_cons, mapM_cons, h a mem_cons_self, ih fun b hb => h b (mem_cons_of_mem a hb)]
    rfl

/-- **What a record looks up is what it contains.** -/
theorem lookup_eq_some_iff_mem (hnd : (fields.map Prod.fst).Nodup) :
    fields.lookup name = some value ↔ (name, value) ∈ fields := by
  rw [lookup_eq_some_iff]
  constructor
  · rintro ⟨before, after, rfl, -⟩
    exact mem_append_right _ mem_cons_self
  · intro h
    obtain ⟨before, after, rfl⟩ := append_of_mem h
    refine ⟨before, after, rfl, fun f hf => bne_iff_ne.mpr fun heq => ?_⟩
    rw [map_append, map_cons] at hnd
    exact disjoint_of_nodup_append hnd (mem_map_of_mem hf) (heq ▸ mem_cons_self)

theorem lookup_eq_of_perm {fields' : List (String × Value)} (h : fields.Perm fields')
    (hnd : (fields.map Prod.fst).Nodup) (name : String) :
    fields.lookup name = fields'.lookup name := by
  ext value
  rw [lookup_eq_some_iff_mem hnd,
    lookup_eq_some_iff_mem ((h.map Prod.fst).nodup_iff.mp hnd), h.mem_iff]

theorem looseField_of_lookup {read : Value → Option α} (hnd : (fields.map Prod.fst).Nodup)
    (h : fields.lookup name = some value) : looseField name read (.obj fields) = read value := by
  have hfil : fields.filter (fun f => f.1 = name) = [(name, value)] := by
    induction fields with
    | nil => cases h
    | cons f fields ih =>
      obtain ⟨key, v⟩ := f
      obtain ⟨hk, hfl⟩ := nodup_cons.mp hnd
      by_cases heq : key = name
      · subst heq
        have hn : fields.filter (fun f => f.1 = key) = [] := by
          refine filter_eq_nil_iff.mpr fun f hf hfk => hk ?_
          exact mem_map.mpr ⟨f, hf, of_decide_eq_true hfk⟩
        have hv : some v = some value := by simpa using h
        rw [filter_cons_of_pos (by simp), hn, Option.some.inj hv]
      · rw [filter_cons_of_neg (by simpa using heq)]
        refine ih hfl ?_
        rw [lookup_cons] at h
        simpa [beq_eq_false_iff_ne.mpr (Ne.symm heq)] using h
  simp only [looseField, hfil]

theorem looseField_num {limit n : Nat} (hnd : (fields.map Prod.fst).Nodup)
    (h : fields.lookup name = some (.num n)) (hn : n < limit) :
    looseField name (Value.asNat limit) (.obj fields) = some n :=
  (looseField_of_lookup hnd h).trans (asNat_num hn)

theorem lookup_optional (name key : String) (value : Option Value) :
    (optional name value).lookup key = if key = name then value else none := by
  cases value with
  | none => simp [optional]
  | some v =>
    rw [optional, lookup_cons]
    by_cases h : key = name
    · rw [if_pos h, beq_iff_eq.mpr h]
    · rw [if_neg h, beq_eq_false_iff_ne.mpr h, lookup_nil]

/-! ## Values without a type of their own -/

/-- Of fields of one name, the last. -/
def keepLast : List (String × Value) → List (String × Value)
  | [] => []
  | f :: fields => if f.1 ∈ fields.map Prod.fst then keepLast fields else f :: keepLast fields

mutual

/-- **A value that is kept without a type of its own**: the fields of its
objects are sorted, and of two with one name the last is kept. -/
def dynamic : Value → Value
  | .arr items => .arr (dynamicItems items)
  | .obj fields => sortFields (.obj (keepLast (dynamicFields fields)))
  | value => value

/-- The same for items. -/
def dynamicItems : List Value → List Value
  | [] => []
  | item :: items => dynamic item :: dynamicItems items

/-- The same for fields. -/
def dynamicFields : List (String × Value) → List (String × Value)
  | [] => []
  | (name, value) :: fields => (name, dynamic value) :: dynamicFields fields

end

/-- Neither an array nor an object. -/
def Value.isScalar : Value → Bool
  | .arr _ | .obj _ => false
  | _ => true

theorem keepLast_of_nodup (h : (fields.map Prod.fst).Nodup) : keepLast fields = fields := by
  induction fields with
  | nil => rfl
  | cons f fields ih =>
    obtain ⟨hf, hfl⟩ := nodup_cons.mp h
    rw [keepLast, if_neg hf, ih hfl]

theorem dynamicFields_of_isScalar
    (h : ∀ f ∈ fields, f.2.isScalar = true) : dynamicFields fields = fields := by
  induction fields with
  | nil => rfl
  | cons f fields ih =>
    obtain ⟨name, value⟩ := f
    rw [dynamicFields, ih (fun f hf => h f (mem_cons_of_mem _ hf))]
    have hv : value.isScalar = true := h _ mem_cons_self
    cases value <;> first | rfl | cases hv

section

variable (hnd : (fields.map Prod.fst).Nodup) (hscal : ∀ f ∈ fields, f.2.isScalar = true)
include hnd hscal

theorem dynamic_obj : dynamic (.obj fields) = sortFields (.obj fields) := by
  rw [dynamic, dynamicFields_of_isScalar hscal, keepLast_of_nodup hnd]

/-- **A flat object whose fields are sorted stays as it is.** -/
theorem dynamic_sortFields : dynamic (sortFields (.obj fields)) = sortFields (.obj fields) := by
  have hp := perm_insertionSort (fun f g : String × Value => f.1 ≤ g.1) fields
  show dynamic (.obj (fields.insertionSort (fun f g => f.1 ≤ g.1))) = _
  rw [dynamic_obj ((hp.map Prod.fst).nodup_iff.mpr hnd)
    (fun f hf => hscal f (hp.mem_iff.mp hf))]
  show Value.obj _ = Value.obj _
  congr 1
  exact (pairwise_insertionSort (fun f g : String × Value => f.1 ≤ g.1) fields).insertionSort_eq

end

end Json
