import Glaeda.Sha256

/-!
# Texts framed by their lengths

A vector is written as its length, eight bytes with the lowest first, and then
its items. **Such a text delimits itself**: where it ends, and what it was
written from, can be told whatever follows (`SelfDelimiting`). Texts put
together from such parts delimit themselves as well.
-/

namespace Framing

open List

/-- **A vector**: its length is a machine word. -/
abbrev Vec (α : Type) := { items : List α // items.length < 256 ^ 8 }

/-- A sequence of bytes. -/
abbrev Bytes := Vec UInt8

/-- A length in eight bytes, the lowest first. -/
def lengthBytes (n : Nat) : List UInt8 := (Sha256.beBytes 8 n).reverse

/-- The length, and then each item. -/
def frames {α : Type} (f : α → List UInt8) (v : Vec α) : List UInt8 :=
  lengthBytes v.1.length ++ v.1.flatMap f

/-- **Bytes after their length.** -/
def push : Bytes → List UInt8 := frames fun b => [b]

/-- Where an item ends is seen from the item. -/
def SelfDelimiting {α : Type} (f : α → List UInt8) : Prop :=
  ∀ ⦃a b x y⦄, f a ++ x = f b ++ y → a = b ∧ x = y

variable {α β : Type} {f : α → List UInt8} {g : β → List UInt8}

theorem SelfDelimiting.pair (hf : SelfDelimiting f) (hg : SelfDelimiting g) :
    SelfDelimiting fun p : α × β => f p.1 ++ g p.2 := by
  intro p q x y h
  simp only [append_assoc] at h
  obtain ⟨hfst, h⟩ := hf h
  obtain ⟨hs, h⟩ := hg h
  exact ⟨Prod.ext hfst hs, h⟩

theorem SelfDelimiting.flatMap (hf : SelfDelimiting f) {as bs : List α} {x y : List UInt8}
    (hl : as.length = bs.length) (h : as.flatMap f ++ x = bs.flatMap f ++ y) :
    as = bs ∧ x = y := by
  induction as generalizing bs with
  | nil =>
    obtain rfl := eq_nil_of_length_eq_zero hl.symm
    exact ⟨rfl, h⟩
  | cons a as ih =>
    obtain ⟨b, bs, rfl⟩ := exists_cons_of_length_eq_add_one hl.symm
    simp only [flatMap_cons, append_assoc] at h
    obtain ⟨rfl, hr⟩ := hf h
    obtain ⟨rfl, he⟩ := ih (Nat.succ.inj hl) hr
    exact ⟨rfl, he⟩

theorem SelfDelimiting.frames (hf : SelfDelimiting f) : SelfDelimiting (frames f) := by
  intro v w x y h
  simp only [Framing.frames, append_assoc] at h
  obtain ⟨hl, h⟩ := append_inj h (by simp [lengthBytes])
  have hl := Sha256.eq_of_beBytes_eq v.2 w.2 (reverse_inj.mp hl)
  obtain ⟨hi, h⟩ := hf.flatMap hl h
  exact ⟨Subtype.ext hi, h⟩

theorem selfDelimiting_push : SelfDelimiting push :=
  SelfDelimiting.frames fun _ _ _ _ h => ⟨(cons.inj h).1, (cons.inj h).2⟩

/-- **Different values are written differently.** -/
theorem SelfDelimiting.injective (hf : SelfDelimiting f) : Function.Injective f :=
  fun _ _ h => (hf (congrArg (· ++ []) h)).1

end Framing
