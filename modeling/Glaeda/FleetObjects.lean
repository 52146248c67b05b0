import Glaeda.Checked
import Glaeda.Framing
import Glaeda.Json

/-!
# Objects of a fleet store

An object of the fleet store is named by the digest of its references and its
data. The store keeps each object in a file under that name and trusts no
file: what it reads is decoded and its id is computed again, and a file that
does not fit is a miss.

The object in a file may carry its data inline, name a file that holds it, or
carry none, and the id is computed as if the last two had no data. So **the
store answers with what it was asked for, inline, exactly when no such file
stands under the id of an object without data** (`answers_iff`). What is
fetched from another store is rebuilt from its data and has no such exception.
-/

namespace Glaeda.FleetCas

open Checked Framing Json

/-! ## Objects and their ids -/

/-- Where the data of a blob is: inline, or in a file. -/
inductive Contents where
  | data (bytes : Bytes)
  | filePath (path : Bytes)
deriving DecidableEq

/-- A blob of the protocol; a message may leave its contents out. -/
structure CasBytes where
  contents : Option Contents
deriving DecidableEq

/-- An object of the protocol: a blob and the ids it refers to. -/
structure CasObject where
  blob : Option CasBytes
  references : Vec Bytes
deriving DecidableEq

theorem length_nil_lt : ([] : List UInt8).length < 256 ^ 8 := by decide

/-- The empty data. -/
def noBytes : Bytes := ⟨[], length_nil_lt⟩

/-- **The data of an object**: none when it is not inline. -/
def CasObject.blobData (obj : CasObject) : Bytes :=
  match obj.blob with
  | some ⟨some (.data bytes)⟩ => bytes
  | _ => noBytes

variable (references : Vec Bytes) (data : Bytes)

/-- The object that carries these data inline. -/
def dataObject : CasObject :=
  ⟨some ⟨some (.data data)⟩, references⟩

/-- The framed text whose digest is the id. -/
def objectMessage : List UInt8 :=
  utf8 "glaeda-fleet-cas-v1\x00".toList ++ (frames push references ++ push data)

theorem length_digest_lt (message : List UInt8) : (Sha256.digest message).length < 256 ^ 8 := by
  rw [Sha256.length_digest]
  decide

/-- The id of references and data. -/
def objectId : Bytes :=
  ⟨Sha256.digest (objectMessage references data), length_digest_lt _⟩

/-- The id, computed again from what the object carries. -/
def CasObject.id (obj : CasObject) : Bytes := objectId obj.references obj.blobData

/-- The text whose digest that id is. -/
def CasObject.message (obj : CasObject) : List UInt8 := objectMessage obj.references obj.blobData

/-! ## The files of a store -/

/-- **An object file**: what its bytes decode to, if they can be read. -/
inductive ObjectFile where
  | absent
  | unreadable (error : String)
  | damaged
  | holds (obj : CasObject)

/-- The object files of a store, by id. -/
abbrev Files := Bytes → ObjectFile

/-- **The object of an id**, if its file holds it. -/
def get (files : Files) (id : Bytes) : Except String (Option CasObject) :=
  if id.1.length ≠ 32 then .ok none
  else match files id with
  | .absent | .damaged => .ok none
  | .unreadable error => .error error
  | .holds obj => .ok (if obj.id ≠ id then none else some obj)

/-- The file of the id holds its object. -/
def intact (files : Files) (id : Bytes) : Bool :=
  match files id with
  | .holds obj => obj.id = id
  | _ => false

/-- **Store an object**: its file is written when it is absent or damaged. -/
def put (files : Files) (references : Vec Bytes) (data : Bytes) : Bytes × Files :=
  let id := objectId references data
  if intact files id then (id, files)
  else (id, Function.update files id (.holds (dataObject references data)))

/-- **Get an object here or from the fleet store**, which answers anything or
nothing: what it answers is verified, kept, and rebuilt from its data. -/
def getOrFetch (files : Files) (fetched : Option CasObject) (id : Bytes) :
    Except String (Option CasObject × Files) := do
  match ← get files id with
  | some obj => return (some obj, files)
  | none =>
    if id.1.length ≠ 32 then return (none, files)
    match fetched with
    | none => return (none, files)
    | some obj =>
      if obj.id ≠ id then return (none, files)
      return (some (dataObject obj.references obj.blobData),
        (put files obj.references obj.blobData).2)

/-- The blob of an object, for a caller that wants no references. -/
def load (files : Files) (fetched : Option CasObject) (id : Bytes) :
    Except String (Option (Option CasBytes)) := do
  return (← getOrFetch files fetched id).1.map (·.blob)

/-- A message of a closure stream. -/
structure ClosureObject where
  id : Bytes
  object : CasObject

/-- Queue the references that were not seen yet. -/
def enqueue (queue seen references : List Bytes) : List Bytes × List Bytes :=
  references.foldl (fun (queue, seen) r =>
    if r ∈ seen then (queue, seen) else (r :: queue, r :: seen)) (queue, seen)

/-- **What a closure walk sends** in so many rounds. -/
def walk (files : Files) : Nat → List Bytes → List Bytes → List ClosureObject
  | 0, _, _ | _ + 1, [], _ => []
  | rounds + 1, id :: queue, seen =>
    match get files id with
    | .ok (some obj) =>
      let (queue, seen) := enqueue queue seen obj.references.1
      ⟨id, obj⟩ :: walk files rounds queue seen
    | _ => walk files rounds queue seen

/-- The most roots of one walk. -/
def maxClosureRoots : Nat := 4096

/-- **Walk the closure of the roots**, unless there are too many of them or
too many walks. -/
def getClosure (files : Files) (busy : Bool) (roots : List Bytes) (rounds : Nat) :
    Except String (List ClosureObject) := do
  let queue := (roots.insertionSort (fun a b => a.1 ≤ b.1)).dedup
  refuseIf (queue.length > maxClosureRoots) "too many closure roots"
  refuseIf (busy = true) "closure walks busy"
  -- the queue is popped from its end
  return walk files rounds queue.reverse queue

/-! ## What is answered -/

/-- **The object of an id**, with its data inline. -/
structure CasObject.IsFor (obj : CasObject) (id : Bytes) : Prop where
  isData : ∃ data, obj.blob = some ⟨some (.data data)⟩
  id_eq : obj.id = id

/-- Two texts with one digest. -/
def Collide (m m' : List UInt8) : Prop := Sha256.digest m = Sha256.digest m' ∧ m ≠ m'

/-- **Never a wrong answer**: what is got, loaded or sent for an id is its
object, an id names one object, and what was put is got back. -/
structure Answers (files : Files) : Prop where
  got : ∀ {id obj}, get files id = .ok (some obj) → obj.IsFor id
  fetches : ∀ {fetched id obj files'}, getOrFetch files fetched id = .ok (some obj, files') →
    obj.IsFor id
  loads : ∀ {fetched id blob}, load files fetched id = .ok (some blob) →
    ∃ obj : CasObject, obj.IsFor id ∧ obj.blob = blob
  sends : ∀ {busy roots rounds sent}, getClosure files busy roots rounds = .ok sent →
    ∀ m ∈ sent, m.object.IsFor m.id
  unique : ∀ {obj obj' : CasObject}, ¬ Collide obj.message obj'.message → obj.id = obj'.id →
    obj.references = obj'.references ∧ obj.blobData = obj'.blobData
  kept : ∀ {references data files'}, (∀ obj, files (put files references data).1 = .holds obj →
      ¬ Collide obj.message (objectMessage references data)) →
    files' (put files references data).1 =
      (put files references data).2 (put files references data).1 →
    get files' (put files references data).1 = .ok (some (dataObject references data))

/-- **No file passes for an object without data**: under the id of references
and no data there is no object of these references that leaves its blob or its
contents out, or that names a file. -/
def Inline (files : Files) : Prop :=
  ∀ references, files (objectId references noBytes) ≠ .holds ⟨none, references⟩
    ∧ files (objectId references noBytes) ≠ .holds ⟨some ⟨none⟩, references⟩
    ∧ ∀ path, files (objectId references noBytes)
        ≠ .holds ⟨some ⟨some (.filePath path)⟩, references⟩

variable {files : Files} {id : Bytes} {obj : CasObject}

/-- **The framed text shows references and data.** -/
theorem eq_of_objectMessage_eq {refs refs' : Vec Bytes} {data data' : Bytes}
    (h : objectMessage refs data = objectMessage refs' data') : refs = refs' ∧ data = data' :=
  Prod.mk.inj ((selfDelimiting_push.frames.pair selfDelimiting_push).injective
    (List.append_cancel_left h) : (refs, data) = (refs', data'))

/-- **An id names one object.** -/
theorem eq_of_objectId_eq {refs refs' : Vec Bytes} {data data' : Bytes}
    (hc : ¬ Collide (objectMessage refs data) (objectMessage refs' data'))
    (h : objectId refs data = objectId refs' data') : refs = refs' ∧ data = data' := by
  by_contra hne
  exact hc ⟨congrArg Subtype.val h, fun heq => hne (eq_of_objectMessage_eq heq)⟩

theorem get_eq_some : get files id = .ok (some obj) ↔ files id = .holds obj ∧ obj.id = id := by
  unfold get
  constructor
  · intro h
    split at h
    · cases h
    · cases hf : files id with
      | absent | damaged | unreadable => rw [hf] at h; cases h
      | holds found =>
        rw [hf] at h
        dsimp only at h
        split at h
        · cases h
        · obtain rfl := Option.some.inj (Except.ok.inj h)
          exact ⟨rfl, not_not.mp ‹_›⟩
  · rintro ⟨hf, rfl⟩
    have hl : obj.id.1.length = 32 := Sha256.length_digest _
    rw [if_neg (not_not.mpr hl), hf]
    exact congrArg _ (if_neg (not_not.mpr rfl))

theorem CasObject.IsFor.eq_dataObject (h : obj.IsFor id) :
    obj = dataObject obj.references obj.blobData := by
  obtain ⟨data, hd⟩ := h.isData
  obtain ⟨blob, refs⟩ := obj
  obtain rfl := hd
  rfl

namespace Inline

variable (h : Inline files)
include h

/-- **A file whose object has its id holds it inline**: an object that is not
inline has the id of no data. -/
theorem isFor (hf : files id = .holds obj) (hid : obj.id = id) : obj.IsFor id := by
  refine ⟨?_, hid⟩
  obtain ⟨blob, references⟩ := obj
  obtain ⟨hn, he, hp⟩ := h references
  subst hid
  match blob with
  | none => exact absurd hf hn
  | some ⟨none⟩ => exact absurd hf he
  | some ⟨some (.filePath path)⟩ => exact absurd hf (hp path)
  | some ⟨some (.data data)⟩ => exact ⟨data, rfl⟩

theorem isFor_of_get (hg : get files id = .ok (some obj)) : obj.IsFor id := by
  obtain ⟨hf, hid⟩ := get_eq_some.mp hg
  exact h.isFor hf hid

theorem isFor_of_getOrFetch {fetched : Option CasObject} {files' : Files}
    (hf : getOrFetch files fetched id = .ok (some obj, files')) : obj.IsFor id := by
  unfold getOrFetch at hf
  rw [bind_eq_ok] at hf
  obtain ⟨here, hg, hf⟩ := hf
  cases here with
  | some found =>
    obtain rfl := Option.some.inj (Prod.mk.inj (Except.ok.inj hf)).1
    exact h.isFor_of_get hg
  | none =>
    dsimp only at hf
    split at hf
    · cases hf
    · cases fetched with
      | none => cases hf
      | some found =>
        dsimp only at hf
        split at hf
        · cases hf
        · rename_i hid
          obtain rfl := Option.some.inj (Prod.mk.inj (Except.ok.inj hf)).1
          exact ⟨⟨_, rfl⟩, not_not.mp hid⟩

theorem isFor_of_mem_walk {rounds : Nat} {queue seen : List Bytes} {m : ClosureObject}
    (hm : m ∈ walk files rounds queue seen) : m.object.IsFor m.id := by
  induction rounds generalizing queue seen with
  | zero => cases hm
  | succ rounds ih =>
    cases queue with
    | nil => cases hm
    | cons id queue =>
      rw [walk] at hm
      split at hm
      · rename_i obj hg
        obtain rfl | hm := List.mem_cons.mp hm
        · exact h.isFor_of_get hg
        · exact ih hm
      · exact ih hm

/-- **What was put is got back**, whatever file was there. -/
theorem get_put {refs : Vec Bytes} {data : Bytes} {files' : Files}
    (hc : ∀ obj, files (put files refs data).1 = .holds obj →
      ¬ Collide obj.message (objectMessage refs data))
    (hs : files' (put files refs data).1 = (put files refs data).2 (put files refs data).1) :
    get files' (put files refs data).1 = .ok (some (dataObject refs data)) := by
  have hid : (put files refs data).1 = objectId refs data := by
    unfold put
    dsimp only
    split <;> rfl
  rw [hid] at hc hs ⊢
  refine get_eq_some.mpr ⟨hs.trans ?_, rfl⟩
  unfold put
  dsimp only
  split
  · rename_i hi
    unfold intact at hi
    cases hf : files (objectId refs data) with
    | absent | damaged | unreadable => rw [hf] at hi; cases hi
    | holds obj =>
      rw [hf] at hi
      have ho := of_decide_eq_true hi
      obtain ⟨rfl, rfl⟩ := eq_of_objectId_eq (hc obj hf) ho
      exact hf.trans (congrArg _ (h.isFor hf ho).eq_dataObject)
  · exact Function.update_self ..

end Inline

/-- **The store never answers wrongly exactly when no file passes for an object
without data.** -/
theorem answers_iff (files : Files) : Answers files ↔ Inline files := by
  constructor
  · intro h references
    have hd {blob : Option CasBytes} (hid : (CasObject.mk blob references).blobData = noBytes)
        (hf : files (objectId references noBytes) = .holds ⟨blob, references⟩) :
        ∃ data, blob = some ⟨some (.data data)⟩ :=
      (h.got (get_eq_some.mpr ⟨hf, congrArg (objectId references) hid⟩)).isData
    refine ⟨fun hf => ?_, fun hf => ?_, fun path hf => ?_⟩
    all_goals
      obtain ⟨_, hb⟩ := hd rfl hf
      cases hb
  · intro h
    refine ⟨h.isFor_of_get, h.isFor_of_getOrFetch, ?_, ?_, eq_of_objectId_eq, h.get_put⟩
    · intro fetched id blob hl
      unfold load at hl
      simp only [bind_eq_ok, pure_eq_ok_iff, Option.map_eq_some_iff] at hl
      obtain ⟨⟨found, files'⟩, hft, obj, rfl, hb⟩ := hl
      exact ⟨obj, h.isFor_of_getOrFetch hft, hb⟩
    · intro busy roots rounds sent hs m hm
      unfold getClosure at hs
      simp only [bind_eq_ok, pure_eq_ok_iff] at hs
      obtain ⟨_, -, _, -, rfl⟩ := hs
      exact h.isFor_of_mem_walk hm

/-- An object without data that names a file instead. -/
def pathObject : CasObject := ⟨some ⟨some (.filePath noBytes)⟩, ⟨[], length_nil_lt⟩⟩

/-- A store whose only file is that object, under its id. -/
def pathFiles : Files := fun id => if id = pathObject.id then .holds pathObject else .absent

/-- **A path is answered where data was asked for.** -/
theorem not_answers_pathFiles : ¬ Answers pathFiles := by
  intro h
  have hg : get pathFiles pathObject.id = .ok (some pathObject) :=
    get_eq_some.mpr ⟨if_pos rfl, rfl⟩
  obtain ⟨data, hd⟩ := (h.got hg).isData
  cases hd

end Glaeda.FleetCas
