import Mathlib.Tactic
import Mathlib.Data.List.Sort

/-!
# Compact JSON text

The documents below are written as compact JSON: no blanks, fields in the
order they are listed, numbers in decimal, and texts with the two mandatory
escapes and the control characters escaped. A document is a `Value`, its
text is `render`, and what a file holds is `encode`, the UTF-8 bytes of the
text.

**Documents have byte limits**, so the lemmas here bound the bytes of a
value by the bytes of its parts: `cost` is the number of bytes, and one
lemma per constructor says what it adds. A text of printable ASCII at most
doubles.
-/

namespace Json

open List

/-! ## Values and their text -/

/-- A JSON value; the numbers are natural. -/
inductive Value where
  | null
  | bool (b : Bool)
  | num (n : Nat)
  | str (s : String)
  | arr (items : List Value)
  | obj (fields : List (String × Value))
deriving Repr

/-- A character in a text. -/
def escape (c : Char) : List Char :=
  match c.toNat with
  | 34 => ['\\', '"']
  | 92 => ['\\', '\\']
  | 8 => ['\\', 'b']
  | 9 => ['\\', 't']
  | 10 => ['\\', 'n']
  | 12 => ['\\', 'f']
  | 13 => ['\\', 'r']
  | n =>
    if n < 32 then ['\\', 'u', '0', '0', Nat.digitChar (n / 16), Nat.digitChar (n % 16)]
    else [c]

/-- A text in quotes. -/
def quote (s : String) : List Char := '"' :: (s.toList.flatMap escape ++ ['"'])

mutual

/-- **The compact text of a value.** -/
def render : Value → List Char
  | .null => "null".toList
  | .bool b => (if b then "true" else "false").toList
  | .num n => Nat.toDigits 10 n
  | .str s => quote s
  | .arr items => '[' :: (renderItems items ++ [']'])
  | .obj fields => '{' :: (renderFields fields ++ ['}'])

/-- Items with commas between them. -/
def renderItems : List Value → List Char
  | [] => []
  | [item] => render item
  | item :: items => render item ++ ',' :: renderItems items

/-- Fields with commas between them. -/
def renderFields : List (String × Value) → List Char
  | [] => []
  | [field] => renderField field
  | field :: fields => renderField field ++ ',' :: renderFields fields

/-- A name, a colon and a value. -/
def renderField : String × Value → List Char
  | (name, value) => quote name ++ ':' :: render value

end

/-! Written over several lines, every item and every field stands on a line of
its own, two blanks further in than what holds it. -/

/-- A new line at a depth. -/
def newLine (depth : Nat) : List Char := '\n' :: List.replicate (2 * depth) ' '

mutual

/-- **The text of a value over several lines.** -/
def renderPretty (depth : Nat) : Value → List Char
  | .null => render .null
  | .bool b => render (.bool b)
  | .num n => render (.num n)
  | .str s => render (.str s)
  | .arr [] => ['[', ']']
  | .arr (item :: items) =>
    '[' :: (renderPrettyItems (depth + 1) (item :: items) ++ newLine depth ++ [']'])
  | .obj [] => ['{', '}']
  | .obj (field :: fields) =>
    '{' :: (renderPrettyFields (depth + 1) (field :: fields) ++ newLine depth ++ ['}'])

/-- Items, each on a line. -/
def renderPrettyItems (depth : Nat) : List Value → List Char
  | [] => []
  | [item] => newLine depth ++ renderPretty depth item
  | item :: items => newLine depth ++ renderPretty depth item
    ++ ',' :: renderPrettyItems depth items

/-- Fields, each on a line. -/
def renderPrettyFields (depth : Nat) : List (String × Value) → List Char
  | [] => []
  | [field] => newLine depth ++ renderPrettyField depth field
  | field :: fields =>
    newLine depth ++ renderPrettyField depth field ++ ',' :: renderPrettyFields depth fields

/-- A name, a colon, a space and a value. -/
def renderPrettyField (depth : Nat) : String × Value → List Char
  | (name, value) => quote name ++ ':' :: ' ' :: renderPretty depth value

end

/-- The bytes of a text. -/
def utf8 (cs : List Char) : List UInt8 := cs.flatMap String.utf8EncodeChar

/-- **The bytes of a value.** -/
def encode (value : Value) : List UInt8 := utf8 (render value)

/-- The bytes of a value, over several lines. -/
def encodePretty (value : Value) : List UInt8 := utf8 (renderPretty 0 value)

/-- The text of some bytes. -/
def textOfUtf8 (bytes : List UInt8) : Option String := String.fromUTF8? ⟨bytes.toArray⟩

/-- An object with its fields sorted by name, which is how a dynamically
typed value keeps them. -/
def sortFields : Value → Value
  | .obj fields => .obj (fields.insertionSort (fun f g => f.1 ≤ g.1))
  | value => value

/-- A field that may be missing. -/
def optional (name : String) : Option Value → List (String × Value)
  | none => []
  | some value => [(name, value)]

/-- A value, or null. -/
def orNull : Option Value → Value
  | none => .null
  | some value => value

/-- The bytes of a value, if they are not too many. -/
def encodeWithin {ε : Type} (limit : Nat) (error : ε) (value : Value) : Except ε (List UInt8) :=
  if (encode value).length > limit then .error error else .ok (encode value)

theorem encodeWithin_eq_ok {ε : Type} {limit : Nat} {error : ε} {value : Value}
    {bytes : List UInt8} :
    encodeWithin limit error value = .ok bytes
      ↔ (encode value).length ≤ limit ∧ encode value = bytes := by
  unfold encodeWithin
  split
  · rename_i h
    simp [not_le.mpr h]
  · rename_i h
    simp [not_lt.mp h]

/-! ## Bytes of a text -/

theorem utf8_cons (c : Char) (cs : List Char) :
    utf8 (c :: cs) = String.utf8EncodeChar c ++ utf8 cs :=
  flatMap_cons

theorem utf8_append (cs ds : List Char) : utf8 (cs ++ ds) = utf8 cs ++ utf8 ds :=
  flatMap_append

variable {c : Char}

theorem utf8EncodeChar_of_lt (hc : c.toNat < 128) :
    String.utf8EncodeChar c = [UInt8.ofNat c.toNat] := by
  rw [String.utf8EncodeChar_eq_singleton]
  · rfl
  · rw [Char.utf8Size_eq_one_iff, UInt32.le_iff_toNat_le]
    exact Nat.le_of_lt_succ hc

variable {cs : List Char}

/-- **ASCII text can be read back from its bytes.** -/
theorem map_utf8 (hcs : ∀ c ∈ cs, c.toNat < 128) :
    (utf8 cs).map (fun b => Char.ofNat b.toNat) = cs := by
  induction cs with
  | nil => rfl
  | cons c cs ih =>
    have hc : c.toNat < 128 := hcs c mem_cons_self
    rw [utf8_cons, utf8EncodeChar_of_lt hc, map_append,
      ih (fun d hd => hcs d (mem_cons_of_mem c hd))]
    show [Char.ofNat (UInt8.ofNat c.toNat).toNat] ++ cs = c :: cs
    rw [UInt8.toNat_ofNat_of_lt' (lt_trans hc (by decide)), Char.ofNat_toNat]
    rfl

theorem eq_of_utf8_eq {ds : List Char} (hcs : ∀ c ∈ cs, c.toNat < 128)
    (hds : ∀ d ∈ ds, d.toNat < 128) (h : utf8 cs = utf8 ds) : cs = ds := by
  rw [← map_utf8 hcs, h, map_utf8 hds]

theorem length_utf8 (hcs : ∀ c ∈ cs, c.toNat < 128) : (utf8 cs).length = cs.length := by
  rw [← length_map (fun b : UInt8 => Char.ofNat b.toNat), map_utf8 hcs]

/-! ## Bytes of a value -/

/-- How many bytes a value takes. -/
def cost (value : Value) : Nat := (encode value).length

/-- How many bytes a field takes. -/
def fieldCost (field : String × Value) : Nat := (utf8 (renderField field)).length

theorem cost_bool_le (b : Bool) : cost (.bool b) ≤ 5 := by
  cases b <;> decide

theorem cost_num_le {n k : Nat} (hk : 0 < k) (hn : n < 10 ^ k) : cost (.num n) ≤ k := by
  have hd : ∀ c ∈ Nat.toDigits 10 n, c.toNat < 128 := by
    intro c hc
    have := Nat.isDigit_of_mem_toDigits (by decide) (by decide) hc
    simp only [Char.isDigit, Bool.and_eq_true, decide_eq_true_eq, UInt32.le_iff_toNat_le] at this
    exact lt_of_le_of_lt this.2 (by decide)
  show (utf8 (Nat.toDigits 10 n)).length ≤ k
  rw [length_utf8 hd]
  exact (Nat.length_toDigits_le_iff (by decide) hk).mpr hn

/-- A printable character. -/
def Printable (c : Char) : Prop := 32 ≤ c.toNat ∧ c.toNat < 127

instance (c : Char) : Decidable (Printable c) := inferInstanceAs (Decidable (_ ∧ _))

theorem length_utf8_escape_le (hc : Printable c) : (utf8 (escape c)).length ≤ 2 := by
  unfold escape
  split <;> try decide
  rw [if_neg (not_lt.mpr hc.1), length_utf8]
  · show 1 ≤ 2
    decide
  · intro d hd
    rw [mem_singleton.mp hd]
    exact lt_trans hc.2 (by decide)

/-- **A printable text at most doubles**, and gains its two quotes. -/
theorem cost_str_le {s : String} (hs : ∀ c ∈ s.toList, Printable c) :
    cost (.str s) ≤ 2 * s.toList.length + 2 := by
  have hb : ∀ cs : List Char, (∀ c ∈ cs, Printable c) →
      (utf8 (cs.flatMap escape)).length ≤ 2 * cs.length := by
    intro cs hcs
    induction cs with
    | nil => exact le_refl 0
    | cons c cs ih =>
      have hc := length_utf8_escape_le (hcs c mem_cons_self)
      have hr := ih (fun d hd => hcs d (mem_cons_of_mem c hd))
      rw [flatMap_cons, utf8_append, length_append, length_cons]
      omega
  have := hb s.toList hs
  show (utf8 ('"' :: (s.toList.flatMap escape ++ ['"']))).length ≤ _
  rw [utf8_cons, utf8_append, length_append, length_append]
  show 1 + (_ + 1) ≤ _
  omega

/-- A text of characters that are written as they are takes two bytes and its
characters. -/
theorem cost_str_ofList (h : ∀ c ∈ cs, c.toNat < 128 ∧ escape c = [c]) :
    cost (.str (String.ofList cs)) = cs.length + 2 := by
  have hf : cs.flatMap escape = cs := by
    conv_rhs => rw [← flatMap_singleton' cs]
    exact flatMap_congr fun c hc => (h c hc).2
  show (utf8 ('"' :: ((String.ofList cs).toList.flatMap escape ++ ['"']))).length = _
  rw [String.toList_ofList, hf, utf8_cons, utf8_append, length_append, length_append,
    length_utf8 fun c hc => (h c hc).1]
  show 1 + (_ + 1) = _
  ring

variable (name : String)

theorem fieldCost_eq (value : Value) :
    fieldCost (name, value) = (utf8 (quote name)).length + 1 + cost value := by
  rw [fieldCost, renderField, utf8_append, utf8_cons, length_append, length_append]
  show _ + (1 + cost value) = _
  ring

variable (fields : List (String × Value))

/-- How many bytes fields take, each with a comma. -/
def fieldsCost : Nat :=
  (fields.map (fun f => fieldCost f + 1)).sum

@[simp] theorem fieldsCost_nil : fieldsCost [] = 0 := rfl

@[simp] theorem fieldsCost_cons (value : Value) (fields : List (String × Value)) :
    fieldsCost ((name, value) :: fields)
      = (utf8 (quote name)).length + 2 + cost value + fieldsCost fields := by
  show fieldCost (name, value) + 1 + fieldsCost fields = _
  rw [fieldCost_eq]
  ring

@[simp] theorem fieldsCost_append (fields fields' : List (String × Value)) :
    fieldsCost (fields ++ fields') = fieldsCost fields + fieldsCost fields' := by
  rw [fieldsCost, map_append, sum_append]
  rfl

theorem fieldsCost_optional_le {α : Type} (toValue : α → Value) {bound : Nat}
    (h : ∀ a, cost (toValue a) ≤ bound) (value : Option α) :
    fieldsCost (optional name (value.map toValue)) ≤ (utf8 (quote name)).length + 2 + bound := by
  cases value with
  | none => exact Nat.zero_le _
  | some a =>
    rw [Option.map_some, optional, fieldsCost_cons]
    exact Nat.add_le_add_left (h a) _

theorem length_renderFields {fields : List (String × Value)} (h : fields ≠ []) :
    (utf8 (renderFields fields)).length + 1 = fieldsCost fields := by
  induction fields with
  | nil => exact absurd rfl h
  | cons f fs ih =>
    cases fs with
    | nil => rfl
    | cons g gs =>
      rw [renderFields, utf8_append, utf8_cons, length_append, length_append]
      · show fieldCost f + (1 + _) + 1 = fieldCost f + 1 + fieldsCost (g :: gs)
        rw [← ih (cons_ne_nil _ _)]
        omega
      · simp

/-- **An object with fields takes two bytes, its fields and the commas between
them.** -/
theorem cost_obj_eq {fields : List (String × Value)} (h : fields ≠ []) :
    cost (.obj fields) = fieldsCost fields + 1 := by
  show (utf8 ('{' :: (renderFields fields ++ ['}']))).length = _
  rw [utf8_cons, utf8_append, length_append, length_append, ← length_renderFields h]
  show 1 + (_ + 1) = _
  omega

/-- **An object takes two bytes and, for every field, a comma and the
field.** -/
theorem cost_obj_le : cost (.obj fields) ≤ fieldsCost fields + 2 := by
  by_cases h : fields = []
  · subst h
    decide
  · rw [cost_obj_eq h]
    exact Nat.le_succ _

/-- **An object with short names** takes, for every field, the bound of the
names and two bytes beside the value. -/
theorem cost_obj_le_of_names (bound : Nat) {fields : List (String × Value)}
    (h : ∀ f ∈ fields, (utf8 (quote f.1)).length ≤ bound) :
    cost (.obj fields) ≤ (fields.map (fun f => cost f.2 + (bound + 2))).sum + 2 := by
  refine le_trans (cost_obj_le fields) (Nat.add_le_add_right (sum_le_sum ?_) 2)
  intro f hf
  have hn := h f hf
  rw [fieldCost_eq]
  omega

/-- How many bytes items take, each with a comma. -/
def itemsCost (items : List Value) : Nat := (items.map (fun v => cost v + 1)).sum

variable {items : List Value}

theorem length_renderItems (h : items ≠ []) :
    (utf8 (renderItems items)).length + 1 = itemsCost items := by
  induction items with
  | nil => exact absurd rfl h
  | cons v vs ih =>
    cases vs with
    | nil => rfl
    | cons w ws =>
      rw [renderItems, utf8_append, utf8_cons, length_append, length_append]
      · show cost v + (1 + _) + 1 = cost v + 1 + itemsCost (w :: ws)
        rw [← ih (cons_ne_nil _ _)]
        omega
      · simp

/-- **An array with items takes two bytes, its items and the commas between
them.** -/
theorem cost_arr_eq (h : items ≠ []) : cost (.arr items) = itemsCost items + 1 := by
  show (utf8 ('[' :: (renderItems items ++ [']']))).length = _
  rw [utf8_cons, utf8_append, length_append, length_append, ← length_renderItems h]
  show 1 + (_ + 1) = _
  omega

/-- **Arrays that write the same entries in two ways** differ by what their
items differ by. -/
theorem cost_arr_map_eq_add {α : Type} {entries : List α} {f g : α → Value} {more : α → Nat}
    (h : ∀ a ∈ entries, cost (f a) = cost (g a) + more a) :
    cost (.arr (entries.map f)) = cost (.arr (entries.map g)) + (entries.map more).sum := by
  have hi : ∀ as : List α, (∀ a ∈ as, cost (f a) = cost (g a) + more a) →
      itemsCost (as.map f) = itemsCost (as.map g) + (as.map more).sum := by
    intro as has
    induction as with
    | nil => rfl
    | cons a as ih =>
      obtain ⟨ha, has⟩ := forall_mem_cons.mp has
      show cost (f a) + 1 + itemsCost (as.map f)
        = cost (g a) + 1 + itemsCost (as.map g) + (more a + (as.map more).sum)
      rw [ha, ih has]
      ring
  by_cases he : entries = []
  · subst he
    rfl
  · have hm : ∀ k : α → Value, entries.map k ≠ [] := fun k =>
      mt map_eq_nil_iff.mp he
    rw [cost_arr_eq (hm f), cost_arr_eq (hm g), hi entries h]
    ring

theorem cost_arr_replicate {n : Nat} (hn : n ≠ 0) (value : Value) :
    cost (.arr (replicate n value)) = n * (cost value + 1) + 1 := by
  rw [cost_arr_eq (mt (replicate_eq_nil_iff _).mp hn), itemsCost, map_replicate,
    sum_replicate, smul_eq_mul]

/-- **An array takes two bytes and, for every item, a comma and the
item.** -/
theorem cost_arr_le (items : List Value) : cost (.arr items) ≤ itemsCost items + 2 := by
  by_cases h : items = []
  · subst h
    decide
  · rw [cost_arr_eq h]
    exact Nat.le_succ _

theorem cost_arr_map_le {α : Type} {f : α → Value} {bound : Nat} (h : ∀ a, cost (f a) ≤ bound)
    (xs : List α) : cost (.arr (xs.map f)) ≤ xs.length * (bound + 1) + 2 := by
  have hs : itemsCost (xs.map f) ≤ (xs.map f).length * (bound + 1) := by
    rw [itemsCost, ← smul_eq_mul, ← length_map (fun v => cost v + 1)]
    refine sum_le_card_nsmul _ _ ?_
    intro n hn
    obtain ⟨v, hv, rfl⟩ := mem_map.mp hn
    obtain ⟨a, -, rfl⟩ := mem_map.mp hv
    exact Nat.succ_le_succ (h a)
  rw [length_map] at hs
  exact le_trans (cost_arr_le _) (Nat.add_le_add_right hs 2)

theorem cost_sortFields_obj_le (fields : List (String × Value)) :
    cost (sortFields (.obj fields)) ≤ fieldsCost fields + 2 := by
  rw [fieldsCost, ← ((perm_insertionSort (fun f g : String × Value => f.1 ≤ g.1) fields).map
    (fun f => fieldCost f + 1)).sum_eq]
  exact cost_obj_le _

/-! ## Texts inside texts -/

/-- **The text of encoded characters is the text of those characters.** -/
theorem textOfUtf8_utf8 (cs : List Char) : textOfUtf8 (utf8 cs) = some (String.ofList cs) := by
  have hb : (⟨(utf8 cs).toArray⟩ : ByteArray) = cs.utf8Encode := by
    unfold utf8 utf8Encode
    ext1
    simp
  unfold textOfUtf8 String.fromUTF8?
  rw [dif_pos (hb ▸ ByteArray.isValidUTF8_utf8Encode)]
  simp only [String.fromUTF8, hb]
  rfl

theorem le_toNat_digitChar : ∀ n < 16, 32 ≤ (Nat.digitChar n).toNat := by decide

variable {d : Char}

theorem le_toNat_of_mem_escape (h : d ∈ escape c) : 32 ≤ d.toNat := by
  unfold escape at h
  split at h
  case h_8 =>
    split at h
    · simp only [mem_cons, not_mem_nil, or_false] at h
      rcases h with rfl | rfl | rfl | rfl | rfl | rfl
      · decide
      · decide
      · decide
      · decide
      · exact le_toNat_digitChar _ (by omega)
      · exact le_toNat_digitChar _ (by omega)
    · rw [mem_singleton.mp h]
      omega
  all_goals
    simp only [mem_cons, not_mem_nil, or_false] at h
    rcases h with rfl | rfl <;> decide

theorem le_toNat_of_mem_quote {s : String} (h : d ∈ quote s) : 32 ≤ d.toNat := by
  unfold quote at h
  simp only [mem_cons, mem_append, mem_flatMap, not_mem_nil, or_false] at h
  obtain rfl | ⟨c, -, hc⟩ | rfl := h
  · decide
  · exact le_toNat_of_mem_escape hc
  · decide

mutual

/-- **No text of a value contains a control character.** -/
theorem le_toNat_of_mem_render : ∀ {value : Value}, d ∈ render value → 32 ≤ d.toNat
  | .null, h => by
    have ha : (render .null).all (fun c => decide (32 ≤ c.toNat)) = true := by decide
    exact of_decide_eq_true (all_eq_true.mp ha d h)
  | .bool b, h => by
    have ha : (render (.bool b)).all (fun c => decide (32 ≤ c.toNat)) = true := by
      cases b <;> decide
    exact of_decide_eq_true (all_eq_true.mp ha d h)
  | .num n, h => by
    have hm : d ∈ Nat.toDigits 10 n := by simpa [render] using h
    have hd := Nat.isDigit_of_mem_toDigits (by decide) (by decide) hm
    simp only [Char.isDigit, Bool.and_eq_true, decide_eq_true_eq, UInt32.le_iff_toNat_le] at hd
    exact le_trans (by decide) hd.1
  | .str s, h => le_toNat_of_mem_quote (by simpa [render] using h)
  | .arr items, h => by
    simp only [render, mem_cons, mem_append, not_mem_nil, or_false] at h
    obtain rfl | h | rfl := h
    · decide
    · exact le_toNat_of_mem_renderItems h
    · decide
  | .obj fields, h => by
    simp only [render, mem_cons, mem_append, not_mem_nil, or_false] at h
    obtain rfl | h | rfl := h
    · decide
    · exact le_toNat_of_mem_renderFields h
    · decide

theorem le_toNat_of_mem_renderItems :
    ∀ {items : List Value}, d ∈ renderItems items → 32 ≤ d.toNat
  | [], h => by simp [renderItems] at h
  | [item], h => le_toNat_of_mem_render (by simpa [renderItems] using h)
  | item :: next :: items, h => by
    simp only [renderItems, mem_append, mem_cons] at h
    obtain h | rfl | h := h
    · exact le_toNat_of_mem_render h
    · decide
    · exact le_toNat_of_mem_renderItems h

theorem le_toNat_of_mem_renderFields :
    ∀ {fields : List (String × Value)}, d ∈ renderFields fields → 32 ≤ d.toNat
  | [], h => by simp [renderFields] at h
  | [field], h => le_toNat_of_mem_renderField (by simpa [renderFields] using h)
  | field :: next :: fields, h => by
    simp only [renderFields, mem_append, mem_cons] at h
    obtain h | rfl | h := h
    · exact le_toNat_of_mem_renderField h
    · decide
    · exact le_toNat_of_mem_renderFields h

theorem le_toNat_of_mem_renderField :
    ∀ {field : String × Value}, d ∈ renderField field → 32 ≤ d.toNat
  | (name, value), h => by
    simp only [renderField, mem_append, mem_cons] at h
    obtain h | rfl | h := h
    · exact le_toNat_of_mem_quote h
    · decide
    · exact le_toNat_of_mem_render h

end

/-- A character that is no control character at most doubles when it is
escaped. -/
theorem length_utf8_escape_le_double (hc : 32 ≤ c.toNat) :
    (utf8 (escape c)).length ≤ 2 * (String.utf8EncodeChar c).length := by
  have hp : 0 < (String.utf8EncodeChar c).length := by
    rw [String.length_utf8EncodeChar]
    exact Char.utf8Size_pos c
  unfold escape
  split
  case h_8 =>
    rw [if_neg (not_lt.mpr hc)]
    show (String.utf8EncodeChar c ++ []).length ≤ _
    rw [append_nil]
    omega
  all_goals exact le_trans (by decide) (Nat.mul_le_mul_left 2 hp)

/-- **A text inside a text at most doubles**, and gains its two quotes: the
inner text has no control characters to escape. -/
theorem cost_str_render_le (value : Value) :
    cost (.str (String.ofList (render value))) ≤ 2 * (encode value).length + 2 := by
  have hb : ∀ cs : List Char, (∀ c ∈ cs, 32 ≤ c.toNat) →
      (utf8 (cs.flatMap escape)).length ≤ 2 * (utf8 cs).length := by
    intro cs hcs
    induction cs with
    | nil => exact le_refl 0
    | cons c cs ih =>
      have hc := length_utf8_escape_le_double (hcs c mem_cons_self)
      have hr := ih (fun d hd => hcs d (mem_cons_of_mem c hd))
      rw [flatMap_cons, utf8_append, utf8_cons, length_append, length_append]
      omega
  have := hb (render value) (fun c hc => le_toNat_of_mem_render hc)
  show (utf8 ('"' :: ((String.ofList (render value)).toList.flatMap escape ++ ['"']))).length ≤ _
  rw [String.toList_ofList, utf8_cons, utf8_append, length_append, length_append]
  show 1 + (_ + 1) ≤ 2 * (utf8 (render value)).length + 2
  omega

end Json
