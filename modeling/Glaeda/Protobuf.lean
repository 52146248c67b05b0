import Mathlib.Data.Nat.Bitwise
import Mathlib.Tactic.Ring

/-!
# The wire format of protocol buffers

A message is a sequence of fields. A field begins with a key, which has the
number of the field and the kind of what follows: a number, eight bytes, four
bytes, or so many bytes as a length says. **What such a length delimits may be
anything** – a text, or another message – and nothing in the bytes says which.
-/

namespace Protobuf

open List

/-- **A number in groups of seven bits**, the lowest first. -/
def encodeVarint (n : Nat) : List UInt8 :=
  if n < 128 then [UInt8.ofNat n] else UInt8.ofNat (n % 128 + 128) :: encodeVarint (n / 128)

/-- The number of a field and its kind. -/
def key (number kind : Nat) : List UInt8 := encodeVarint (number * 8 + kind)

/-- A field with its length. -/
def delimited (number : Nat) (value : List UInt8) : List UInt8 :=
  key number 2 ++ encodeVarint value.length ++ value

/-- **The bytes of a message** whose messages are at most so many deep, with
the values of its length-delimited leaves. -/
inductive Encodes : Nat → List UInt8 → List (List UInt8) → Prop
  | nil {depth} : Encodes (depth + 1) [] []
  | varint {depth number value rest leaves} (hnum : number < 2 ^ 29) (hvalue : value < 2 ^ 64)
      (h : Encodes (depth + 1) rest leaves) :
      Encodes (depth + 1) (key number 0 ++ encodeVarint value ++ rest) leaves
  | fixed {depth number kind value rest leaves} (hnum : number < 2 ^ 29)
      (hkind : kind = 1 ∧ value.length = 8 ∨ kind = 5 ∧ value.length = 4)
      (h : Encodes (depth + 1) rest leaves) :
      Encodes (depth + 1) (key number kind ++ value ++ rest) leaves
  | leaf {depth number value rest leaves} (hnum : number < 2 ^ 29)
      (h : Encodes (depth + 1) rest leaves) :
      Encodes (depth + 1) (delimited number value ++ rest) ([value] ++ leaves)
  | message {depth number inner within rest leaves} (hnum : number < 2 ^ 29)
      (hinner : Encodes depth inner within) (h : Encodes (depth + 1) rest leaves) :
      Encodes (depth + 1) (delimited number inner ++ rest) (within ++ leaves)

theorem length_lt_delimited (number : Nat) (value : List UInt8) :
    value.length < (delimited number value).length := by
  have hk : 0 < (encodeVarint (number * 8 + 2)).length := by
    rw [encodeVarint]
    split
    · exact Nat.one_pos
    · exact Nat.succ_pos _
  simp only [delimited, key, length_append]
  omega

/-- **A message is longer than its leaves.** -/
theorem Encodes.length_lt {depth : Nat} {b : List UInt8} {leaves : List (List UInt8)}
    (h : Encodes depth b leaves) : ∀ leaf ∈ leaves, leaf.length < b.length := by
  induction h with
  | nil => simp
  | varint _ _ _ ih | fixed _ _ _ ih =>
    intro leaf hl
    rw [length_append]
    exact (ih leaf hl).trans_le (Nat.le_add_left ..)
  | @leaf _ number value rest _ _ _ ih =>
    have hlt := length_lt_delimited number value
    rw [forall_mem_append, forall_mem_singleton, length_append]
    exact ⟨by omega, fun leaf hl => (ih leaf hl).trans_le (Nat.le_add_left ..)⟩
  | @message _ number inner _ rest _ _ _ _ ihinner ih =>
    have hlt := length_lt_delimited number inner
    rw [forall_mem_append, length_append]
    exact ⟨fun leaf hl => (ihinner leaf hl).trans (by omega),
      fun leaf hl => (ih leaf hl).trans_le (Nat.le_add_left ..)⟩

end Protobuf
