import Glaeda.Checked
import Glaeda.Sha256

/-!
# Identities and bounded values

The attempt state machine, the delivery documents and the store all speak of
the same few kinds of value: short names chosen by the worker, positive
numbers assigned by the service, opaque printable texts received from it,
and content digests. Each of them is constructed through one check and can
only be read afterwards, so each is a structure that carries the check it
passed – **a value of one of these types is always well formed**, and the
state machines above never have to check it again.

Texts are measured in characters here and in bytes in the program. All
alphabets below are ASCII, so a text that passes its check has as many bytes
as characters, and one that does not is refused on either count.
-/

namespace Glaeda

open Checked List

/-- An error that names the field it is about, a stable code and a message.
Every value check and every attempt transition refuses with one of these. -/
structure FieldError where
  field : String
  code : String
  message : String
deriving DecidableEq, Repr

/-! ## Alphabets -/

/-- A character of a name. -/
def isNameChar (c : Char) : Bool := c.isLower || c.isDigit || c == '-'

/-- A printable character, not a space. -/
def isAsciiGraphic (c : Char) : Bool := 33 ≤ c.toNat && c.toNat ≤ 126

/-- A hexadecimal digit. -/
def isLowerHex (c : Char) : Bool := c.isDigit || (97 ≤ c.toNat && c.toNat ≤ 102)

/-- **A name**: bounded lowercase ASCII with interior hyphens only. -/
def isBoundedName (maxLen : Nat) (value : String) : Bool :=
  let cs := value.toList
  !cs.isEmpty && cs.length ≤ maxLen && cs.all isNameChar
    && cs.head? != some '-' && cs.getLast? != some '-'

/-! ## Names the worker chooses -/

/-- The longest name. -/
def maxIdentifierLen : Nat := 96

/-- **An identifier of the worker.** The attempt, capacity claim and virtual
machine identifiers are three copies of one type that differ in the field
their errors name. -/
structure Identifier (field : String) where
  value : String
  valid : isBoundedName maxIdentifierLen value = true
deriving DecidableEq, Repr

/-- A name, checked. -/
def Identifier.parse (field value : String) : Except FieldError (Identifier field) :=
  if h : isBoundedName maxIdentifierLen value = true then .ok ⟨value, h⟩
  else .error ⟨field, "invalid_identifier",
    "identifier must be bounded lowercase ASCII with interior hyphens only"⟩

/-- An attempt. -/
abbrev DisposableAttemptId := Identifier "attempt_id"

/-- A claim of capacity. -/
abbrev CapacityClaimId := Identifier "capacity_claim_id"

/-- A virtual machine. -/
abbrev DisposableVmId := Identifier "vm_id"

/-- The longest name of a runner. -/
def maxRunnerNameLen : Nat := 96

/-- **The stable runner name**, chosen before the runner is registered. -/
structure ScaleSetRunnerName where
  value : String
  valid : isBoundedName maxRunnerNameLen value = true
deriving DecidableEq, Repr

/-- The name of a runner, checked. -/
def ScaleSetRunnerName.parse (value : String) : Except FieldError ScaleSetRunnerName :=
  if h : isBoundedName maxRunnerNameLen value = true then .ok ⟨value, h⟩
  else .error ⟨"runner_name", "invalid_runner_name",
    "runner name must be bounded lowercase ASCII with interior hyphens only"⟩

/-! ## Numbers the service assigns -/

/-- How many numbers of 64 bits there are. -/
def u64Size : Nat := 2 ^ 64

/-- A sum, unless it overflows. -/
def checkedAdd (size a b : Nat) : Option Nat := if a + b < size then some (a + b) else none

theorem checkedAdd_eq_some {size a b c : Nat} :
    checkedAdd size a b = some c ↔ a + b < size ∧ a + b = c := by
  unfold checkedAdd
  split
  · simp_all
  · rename_i h
    simp [h]

/-- How many numbers of 32 bits there are. -/
def u32Size : Nat := 2 ^ 32

/-- **Addition that stops at the largest value** of a counter. -/
def saturatingAdd (size a b : Nat) : Nat := min (a + b) (size - 1)

theorem saturatingAdd_le {size a b : Nat} : saturatingAdd size a b ≤ size - 1 := min_le_right _ _

theorem saturatingAdd_of_lt {size a b : Nat} (h : a + b < size) : saturatingAdd size a b = a + b :=
  min_eq_left (Nat.le_sub_one_of_lt h)

/-- **A positive unsigned 64-bit number.** The tag keeps the kinds of number
apart; the service identifiers and the timestamps are instances. -/
structure PositiveU64 (tag : String) where
  val : Nat
  pos : 0 < val
  lt_size : val < u64Size
deriving DecidableEq, Repr

instance (tag : String) : LawfulBEq (PositiveU64 tag) := inferInstance

/-- A runner, by its number. -/
abbrev ScaleSetRunnerId := PositiveU64 "runner_id"

/-- A request for a runner. -/
abbrev ScaleSetRunnerRequestId := PositiveU64 "runner_request_id"

/-- A time in milliseconds. -/
abbrev EpochMillis := PositiveU64 "observed_at"

/-- Construct a positive number, or refuse zero. A value outside the machine
integer cannot reach the check in the program; here it is refused with it. -/
def PositiveU64.new (tag : String) (error : FieldError) (value : Nat) :
    Except FieldError (PositiveU64 tag) :=
  if h : 0 < value ∧ value < u64Size then .ok ⟨value, h.1, h.2⟩ else .error error

/-- The number everything counted starts with. -/
def PositiveU64.first (tag : String) : PositiveU64 tag := ⟨1, Nat.one_pos, by decide⟩

/-- The number after the first. -/
def PositiveU64.second (tag : String) : PositiveU64 tag := ⟨2, Nat.two_pos, by decide⟩

/-- A number that is not zero and fits. -/
def PositiveU64.ofNat? (tag : String) (value : Nat) : Option (PositiveU64 tag) :=
  if h : 0 < value ∧ value < u64Size then some ⟨value, h.1, h.2⟩ else none

theorem PositiveU64.ofNat?_eq_some {tag : String} {value : Nat} {number : PositiveU64 tag} :
    PositiveU64.ofNat? tag value = some number ↔ number.val = value := by
  unfold PositiveU64.ofNat?
  constructor
  · intro h
    split at h
    · rw [← Option.some.inj h]
    · cases h
  · rintro rfl
    rw [dif_pos ⟨number.pos, number.lt_size⟩]

/-- The number of a runner, checked. -/
def ScaleSetRunnerId.new : Nat → Except FieldError ScaleSetRunnerId :=
  PositiveU64.new "runner_id"
    ⟨"runner_id", "invalid_runner_id", "runner ID must be greater than zero"⟩

/-- A request, checked. -/
def ScaleSetRunnerRequestId.new : Nat → Except FieldError ScaleSetRunnerRequestId :=
  PositiveU64.new "runner_request_id"
    ⟨"runner_request_id", "invalid_runner_request_id",
      "runner request ID must be greater than zero"⟩

/-- A time, checked. -/
def EpochMillis.new : Nat → Except FieldError EpochMillis :=
  PositiveU64.new "observed_at"
    ⟨"observed_at", "invalid_observation_time",
      "observation time must be greater than zero"⟩

/-! ## Revisions -/

/-- **A revision counter**: positive and bounded. Every durable document
carries one, each with its own bound and its own errors. -/
@[ext] structure BoundedRevision (max : Nat) where
  val : Nat
  one_le : 1 ≤ val
  le_max : val ≤ max
deriving DecidableEq, Repr

namespace BoundedRevision

variable {ε : Type} {max : Nat}

/-- The first revision. -/
def first (h : 1 ≤ max) : BoundedRevision max := ⟨1, Nat.le_refl 1, h⟩

/-- A revision within its bounds. -/
def new (max : Nat) (error : ε) (value : Nat) : Except ε (BoundedRevision max) :=
  if h : 1 ≤ value ∧ value ≤ max then .ok ⟨value, h.1, h.2⟩ else .error error

theorem new_eq_ok {error : ε} {value : Nat} {r : BoundedRevision max} :
    new max error value = .ok r ↔ r.val = value := by
  unfold new
  constructor
  · intro h
    split at h <;> simp at h
    rw [← h]
  · rintro rfl
    rw [dif_pos ⟨r.one_le, r.le_max⟩]

theorem new_succ_eq_error {error e : ε} {r : BoundedRevision max} :
    new max error (r.val + 1) = .error e ↔ error = e ∧ r.val = max := by
  have hm := r.le_max
  unfold new
  by_cases h : 1 ≤ r.val + 1 ∧ r.val + 1 ≤ max
  · rw [dif_pos h]
    simp
    omega
  · have hv : r.val = max := by omega
    simp [hv]

/-- **The next revision is a machine integer.** -/
theorem checkedAdd_of_succ {r s : BoundedRevision max} (hm : max < u64Size)
    (h : s.val = r.val + 1) : checkedAdd u64Size r.val 1 = some s.val :=
  checkedAdd_eq_some.mpr ⟨h ▸ s.le_max.trans_lt hm, h.symm⟩

end BoundedRevision

/-! ## Texts the service sends -/

/-- The longest name of a job. -/
def maxJobIdLen : Nat := 256

/-- The longest result of a job. -/
def maxJobResultLen : Nat := 128

variable (value : String)

/-- The name of a job. -/
def isJobId : Bool :=
  let cs := value.toList
  !cs.isEmpty && cs.length ≤ maxJobIdLen && cs.all isAsciiGraphic

/-- The result of a job. -/
def isJobResult : Bool :=
  let cs := value.toList
  !cs.isEmpty && cs.length ≤ maxJobResultLen
    && cs.head? != some ' ' && cs.getLast? != some ' '
    && cs.all (fun c => isAsciiGraphic c || c == ' ')

/-- **The opaque job identifier** of the service. Only equality is ever
asked of it. -/
structure ScaleSetJobId where
  value : String
  valid : isJobId value = true
deriving DecidableEq, Repr

/-- The name of a job, checked. -/
def ScaleSetJobId.parse : Except FieldError ScaleSetJobId :=
  if h : isJobId value = true then .ok ⟨value, h⟩
  else .error ⟨"job_id", "invalid_job_id",
    "Scale Set job ID must be bounded non-whitespace printable ASCII"⟩

/-- **The result of a completed job**, an open set of texts: the program
singles out cancellation and otherwise compares for equality. -/
@[ext]
structure ScaleSetJobResult where
  value : String
  valid : isJobResult value = true
deriving DecidableEq, Repr

/-- The result of a job, checked. -/
def ScaleSetJobResult.parse : Except FieldError ScaleSetJobResult :=
  if h : isJobResult value = true then .ok ⟨value, h⟩
  else .error ⟨"job_result", "invalid_job_result",
    "Scale Set job result must be bounded printable ASCII without edge whitespace"⟩

/-! ## Runners and job events -/

/-- A runner, by its number and name. -/
structure ScaleSetRunnerReference where
  id : ScaleSetRunnerId
  name : ScaleSetRunnerName
deriving DecidableEq, Repr

/-- **What the service reports about a job** once a runner may be involved.
A completion names its runner when the service knows one. -/
inductive ScaleSetJobEvent where
  | started (runner : ScaleSetRunnerReference) (jobId : ScaleSetJobId)
  | completed (runner : Option ScaleSetRunnerReference) (jobId : ScaleSetJobId)
      (result : ScaleSetJobResult)
deriving DecidableEq, Repr

/-! ## Digests -/

/-- The text of a canonical digest: the prefix and 64 lowercase hexadecimal
digits. -/
def isSha256Digest : Bool :=
  let cs := value.toList
  cs.take 7 == "sha256:".toList && (cs.drop 7).length == 64 && (cs.drop 7).all isLowerHex

/-- **A content digest** in canonical form. -/
structure Sha256Digest where
  value : String
  valid : isSha256Digest value = true
deriving DecidableEq, Repr

/-- What is wrong with which field. -/
structure ArtifactIdentityError where
  field : String
  problem : String
deriving DecidableEq, Repr

/-- A digest, checked. -/
def Sha256Digest.parse : Except ArtifactIdentityError Sha256Digest :=
  if h : isSha256Digest value = true then .ok ⟨value, h⟩
  else .error ⟨"digest",
    "must use canonical sha256:<64 lowercase hexadecimal characters> form"⟩

/-- **The identity of one observed virtual machine**, a digest of host
evidence of which only equality is ever asked. -/
structure DisposableVmIdentity where
  digest : Sha256Digest
deriving DecidableEq, Repr

/-- **The identity of the prepared template** an attempt is cloned from. -/
structure DisposablePreparedTemplateIdentity where
  digest : Sha256Digest
deriving DecidableEq, Repr

/-! ## What was constructed is constructed again -/

theorem Identifier.parse_value {name : String} (id : Identifier name) :
    Identifier.parse name id.value = .ok id :=
  dif_pos id.valid

theorem ScaleSetRunnerName.parse_value (name : ScaleSetRunnerName) :
    ScaleSetRunnerName.parse name.value = .ok name :=
  dif_pos name.valid

theorem ScaleSetJobId.parse_value (id : ScaleSetJobId) : ScaleSetJobId.parse id.value = .ok id :=
  dif_pos id.valid

theorem ScaleSetJobResult.parse_value (result : ScaleSetJobResult) :
    ScaleSetJobResult.parse result.value = .ok result :=
  dif_pos result.valid

theorem Sha256Digest.parse_value (digest : Sha256Digest) :
    Sha256Digest.parse digest.value = .ok digest :=
  dif_pos digest.valid

theorem isSha256Digest_hexDigest (message : List UInt8) :
    isSha256Digest (String.ofList ("sha256:".toList ++ Sha256.hexDigest message)) = true := by
  have hs : "sha256:".toList.length = 7 := by decide
  unfold isSha256Digest
  rw [String.toList_ofList]
  dsimp only
  rw [take_left' hs, drop_left' hs,
    Sha256.length_hexDigest, all_eq_true.mpr (Sha256.forall_mem_hexDigest (by decide) _)]
  decide

/-- **Every computed digest is accepted.** -/
theorem Sha256Digest.exists_parse_hexDigest (message : List UInt8) : ∃ digest,
    Sha256Digest.parse (String.ofList ("sha256:".toList ++ Sha256.hexDigest message))
      = .ok digest :=
  ⟨_, dif_pos (isSha256Digest_hexDigest message)⟩

theorem PositiveU64.new_val {tag : String} {error : FieldError} (n : PositiveU64 tag) :
    PositiveU64.new tag error n.val = .ok n :=
  dif_pos ⟨n.pos, n.lt_size⟩

end Glaeda
