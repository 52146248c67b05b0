import Glaeda.FleetIndex
import Glaeda.FleetObjects

/-!
# Signed index entries

A writer signs a text that frames the key and every entry of the value, and
the signature travels inside the value, in a reserved entry. A node that has
trusted keys verifies a value before it answers with it, keeps it, or fetches
the objects it names. A warm run fills the files of the node beforehand: it
reads a signed marker, the manifest that the marker names, and then the
entries that the manifest lists.

The framed text delimits itself, so that it shows the key and the entries. As
far as signatures cannot be forged, **every value that a node or a warm run
uses is one that the holder of a trusted key signed for its key**
(`answers_signed`), whatever files there are, whatever the fleet store
answers, and however the calls and the runs interleave.
-/

namespace Glaeda.FleetCas

open Framing Json List

/-- **A value**: its entries, in the order of their names. -/
@[ext] structure Value where
  entries : Vec (Bytes × Bytes)
  sorted : entries.1.Pairwise fun a b => a.1.1 < b.1.1

/-- The name of the entry that carries the signature. -/
def sigEntry : List UInt8 := utf8 "glaeda.fleet-cas.sig.v1".toList

/-- What the value holds under a name. -/
def Value.entry (value : Value) (name : List UInt8) : Option Bytes :=
  (value.entries.1.find? fun e => e.1.1 = name).map Prod.snd

/-- **The value without its signature.** -/
def strip (value : Value) : Value where
  entries := ⟨value.entries.1.filter fun e => e.1.1 ≠ sigEntry,
    Nat.lt_of_le_of_lt (List.length_filter_le _ _) value.entries.2⟩
  sorted := value.sorted.filter _

/-- **The text that is signed.** -/
def message (key : Bytes) (value : Value) : List UInt8 :=
  utf8 "glaeda-fleet-cas-kv-v1\x00".toList
    ++ (push key ++ frames (fun e => push e.1 ++ push e.2) (strip value).entries)

/-- **The signed text shows key and entries.** -/
theorem eq_of_message_eq {key key' : Bytes} {value value' : Value}
    (h : message key value = message key' value') : key = key' ∧ strip value = strip value' := by
  have hp := (selfDelimiting_push.pair
    (selfDelimiting_push.pair selfDelimiting_push).frames).injective
  obtain ⟨hk, he⟩ := Prod.mk.inj (hp (append_cancel_left h) :
    (key, (strip value).entries) = (key', (strip value').entries))
  exact ⟨hk, Value.ext he⟩

/-- **A signature scheme**, and the texts that the holder of each key signed: no
other text verifies under that key. -/
structure Ed25519 where
  /-- Whether the signature, the last, is one of the text under the key. -/
  verifyStrict : List UInt8 → List UInt8 → List UInt8 → Bool
  signed : List UInt8 → List UInt8 → Prop
  unforgeable : ∀ {vk text sig}, verifyStrict vk text sig = true → signed vk text

/-- **The value carries a valid signature** by one of the trusted keys. -/
def Ed25519.verify (ed : Ed25519) (trusted : List (List UInt8)) (key : Bytes) (value : Value) :
    Bool :=
  match value.entry sigEntry with
  | none => false
  | some entry =>
    if entry.1.length ≠ 96 then false
    else match trusted.find? fun vk => vk = entry.1.take 32 with
    | none => false
    | some vk => ed.verifyStrict vk (message key value) (entry.1.drop 32)

/-- **A trusted key signed** these entries for this key. -/
def Ed25519.Authentic (ed : Ed25519) (trusted : List (List UInt8)) (key : Bytes) (value : Value) :
    Prop :=
  ∃ vk ∈ trusted, ed.signed vk (message key value)

theorem Ed25519.authentic_of_verify {ed : Ed25519} {trusted : List (List UInt8)} {key : Bytes}
    {value : Value} (h : ed.verify trusted key value = true) : ed.Authentic trusted key value := by
  unfold verify at h
  split at h
  · cases h
  · split at h
    · cases h
    · split at h
      · cases h
      · rename_i vk hvk
        exact ⟨vk, mem_of_find?_eq_some hvk, ed.unforgeable h⟩

/-! ## The manifest of a warm run -/

/-- The value of a hexadecimal digit. -/
def hexDigit (b : UInt8) : Option UInt8 :=
  if 48 ≤ b ∧ b ≤ 57 then some (b - 48)
  else if 97 ≤ b ∧ b ≤ 102 then some (b - 87)
  else if 65 ≤ b ∧ b ≤ 70 then some (b - 55)
  else none

/-- The bytes that pairs of hexadecimal digits stand for. -/
def hexBytes : List UInt8 → Option (List UInt8)
  | [] => some []
  | [_] => none
  | high :: low :: rest => do
    return (16 * (← hexDigit high) + (← hexDigit low)) :: (← hexBytes rest)

/-- The lines of a text, without the ends of the lines. -/
def textLines (text : List UInt8) : List (List UInt8) :=
  let lines := text.splitOn 10
  lines.dropLast.map (fun line => if line.getLast? = some 13 then line.dropLast else line)
    ++ lines.getLast?.toList

/-- An index key in a line of a manifest. -/
def manifestKey (line : List UInt8) : Option Bytes := do
  let key ← hexBytes line
  if h : key.length < 256 ^ 8 then some ⟨key, h⟩ else none

/-- **The index keys that a manifest lists**, one to a line. A text that is not
UTF-8 has a line that is not hexadecimal. -/
def parseManifest (data : Bytes) : Option (List Bytes) := do
  let keys ← ((textLines data.1).filter (· ≠ [])).mapM manifestKey
  if keys = [] then none else some keys

/-- The first bytes of the key of a marker. -/
def markerStart : List UInt8 := utf8 "glaeda-fleet-cas-marker-v1\x00".toList

/-- The key is that of a marker. -/
def isMarker (key : Bytes) : Bool := markerStart.isPrefixOf key.1

/-- The name of the entry of a marker that names the manifest. -/
def manifestEntry : List UInt8 := utf8 "manifest".toList

/-! ## A warm run -/

/-- How a warm run ends, by its exit code. -/
inductive WarmOutcome where
  | warmed | nothing | untrusted | incomplete
deriving DecidableEq

/-- **How far a warm run has come.** -/
inductive Warm where
  /-- The marker is asked for. -/
  | marker (key : Bytes)
  /-- The marker verified, and the manifest that it names is asked for. -/
  | manifest (key : Bytes) (marker : Value) (id : Bytes)
  /-- The entries are looked up and fetched, many at once; `unverified` when
  one did not verify. -/
  | entries (calls : List (Bytes × Call Value)) (unverified : Bool)
  /-- The objects that the fetched entries reach are streamed. -/
  | objects (calls : List (Bytes × Call Value))
  /-- The entries are written. -/
  | writes (calls : List (Bytes × Call Value))
  | ended (outcome : WarmOutcome)

/-- **What happens to a warm run**, most of it an answer of the fleet store. -/
inductive WarmEvent where
  | value (answer : Option Value)
  | object (answer : Option CasObject)
  /-- One of the entries goes on. -/
  | entry (index : Nat) (answer : Option Value)
  /-- The entries are collected, or they are all written. -/
  | collect
  /-- The streams end, all right or with an object that is not what it should
  be. -/
  | streamed (ok : Bool)
  /-- A call fails, or the time is over. -/
  | failed

/-- The call was answered, locally or by the fleet store. -/
def Call.settled {V : Type} : Call V → Bool
  | .keep _ _ | .done _ => true
  | _ => false

/-- The call has nothing left to do. -/
def Call.isDone {V : Type} : Call V → Bool
  | .done _ => true
  | _ => false

variable (ed : Ed25519) (trusted : List (List UInt8))

instance Value.decidableEq : DecidableEq Value := fun _ _ => decidable_of_iff _ Value.ext_iff.symm

/-- The index files, by the digest of their keys. -/
abbrev IndexFiles := List UInt8 → IndexFile Value

/-- **One step of the call for a key**, with the file of the key. -/
def stepCall (files : IndexFiles) (key : Bytes) (call : Call Value) (answer : Option Value) :
    IndexFiles × Call Value :=
  let path := Sha256.digest key.1
  let next := call.step (ed.verify trusted key) (isMarker key) (files path) answer
  (Function.update files path next.1, next.2)

/-- The fleet store answers the call with a value that does not verify. -/
def refusesAnswer (key : Bytes) (call : Call Value) (answer : Option Value) : Bool :=
  match call, answer with
  | .fetch _, some value => !ed.verify trusted key value
  | _, _ => false

/-- **One step of a warm run.** An event that does not fit its stage does
nothing. -/
def Warm.step (files : IndexFiles) : Warm → WarmEvent → IndexFiles × Warm
  | .ended outcome, _ => (files, .ended outcome)
  | _, .failed => (files, .ended .incomplete)
  | .marker _, .value none => (files, .ended .nothing)
  | .marker key, .value (some found) =>
    if ed.verify trusted key found = false then (files, .ended .untrusted)
    else match found.entry manifestEntry with
    | none => (files, .ended .nothing)
    | some id => (files, .manifest key found id)
  | .manifest _ _ _, .object none => (files, .ended .incomplete)
  | .manifest _ _ id, .object (some obj) =>
    if obj.id ≠ id then (files, .ended .untrusted)
    else match parseManifest obj.blobData with
    | none => (files, .ended .untrusted)
    | some keys => (files, .entries (keys.map fun key => (key, .warm)) false)
  | .entries calls unverified, .entry index answer =>
    match calls[index]? with
    | some (key, call) =>
      -- what was fetched is kept in memory until the objects are there
      if call.settled then (files, .entries calls unverified)
      else
        let next := stepCall ed trusted files key call answer
        (next.1, .entries (calls.set index (key, next.2))
          (unverified || refusesAnswer ed trusted key call answer))
    | none => (files, .entries calls unverified)
  | .entries calls unverified, .collect =>
    if calls.any (fun entry => !entry.2.settled) then (files, .entries calls unverified)
    else if unverified then (files, .ended .untrusted)
    else (files, .objects calls)
  | .objects calls, .streamed ok => (files, if ok then .writes calls else .ended .untrusted)
  | .writes calls, .entry index answer =>
    match calls[index]? with
    | some (key, call) =>
      let next := stepCall ed trusted files key call answer
      (next.1, .writes (calls.set index (key, next.2)))
    | none => (files, .writes calls)
  | .writes calls, .collect =>
    (files, if calls.all (·.2.isDone) then .ended .warmed else .writes calls)
  | warm, _ => (files, warm)

/-- **The value a call uses**: its objects are prefetched, or it is answered. -/
def Call.uses {V : Type} : Call V → Option V
  | .keep value _ => some value
  | .done answer => answer
  | _ => none

/-- **What a warm run uses for a key**: the marker, or a value that it fetched. -/
def Warm.Uses (key : Bytes) (value : Value) : Warm → Prop
  | .manifest key' found _ => key' = key ∧ found = value
  | .entries calls _ | .objects calls | .writes calls =>
    ∃ call, (key, call) ∈ calls ∧ call.uses = some value
  | .marker _ | .ended _ => False

/-! ## A node -/

/-- **The index files of a node**, its calls, and the warm runs that fill it. -/
structure Node where
  files : IndexFiles
  calls : Nat → Bytes × Call Value
  warms : Nat → Warm

/-- **A step of a call or of a warm run**, with what it is answered. -/
inductive Event where
  | call (p : Nat) (answer : Option Value)
  | warm (p : Nat) (event : WarmEvent)

/-- One event at a node. -/
def Node.step (s : Node) : Event → Node
  | .call p answer =>
    let (key, call) := s.calls p
    let next := stepCall ed trusted s.files key call answer
    { s with files := next.1, calls := Function.update s.calls p (key, next.2) }
  | .warm p event =>
    let next := Warm.step ed trusted s.files (s.warms p) event
    { s with files := next.1, warms := Function.update s.warms p next.2 }

/-- A run of a node. -/
def Node.run (s : Node) (events : List Event) : Node := events.foldl (Node.step ed trusted) s

/-- **A call or a warm run uses the value for the key.** -/
def Node.Uses (s : Node) (key : Bytes) (value : Value) : Prop :=
  (∃ p, (s.calls p).1 = key ∧ (s.calls p).2.uses = some value)
    ∨ ∃ p, (s.warms p).Uses key value

/-! ## Only verified values are used -/

theorem Call.verified_of_step {V : Type} [DecidableEq V] {servable : V → Bool} {marker : Bool}
    {file : IndexFile V} {fetched : Option V} {call : Call V}
    (h : ∀ value, call.uses = some value → servable value = true) (value : V)
    (hv : (call.step servable marker file fetched).2.uses = some value) :
    servable value = true := by
  cases call with
  | put _ | putExisting _ | putReplace _ | get | warm | fetch _ =>
    simp only [Call.step] at hv
    repeat' split at hv
    all_goals simp_all [Call.uses]
  | keep kept replace =>
    simp only [Call.step] at hv
    repeat' split at hv
    all_goals exact h value hv
  | done answer => exact h value hv

variable {ed trusted}

/-- **The entries of a warm run stay verified** when one of them goes on. -/
theorem verified_of_set {files : IndexFiles} {calls : List (Bytes × Call Value)} {index : Nat}
    {key : Bytes} {call : Call Value} {answer : Option Value}
    (h : ∀ key call value, (key, call) ∈ calls → call.uses = some value →
      ed.verify trusted key value = true) (hc : calls[index]? = some (key, call)) :
    ∀ key' call' value, (key', call') ∈ calls.set index
        (key, (stepCall ed trusted files key call answer).2) → call'.uses = some value →
      ed.verify trusted key' value = true := by
  intro key' call' value hm hu
  obtain hm | heq := mem_or_eq_of_mem_set hm
  · exact h key' call' value hm hu
  · obtain ⟨rfl, rfl⟩ := Prod.mk.inj heq
    exact Call.verified_of_step (fun v => h key' call v (mem_of_getElem? hc)) value hu

/-- **A step of a warm run keeps what it uses verified.** -/
theorem Warm.verified_of_step {files : IndexFiles} {warm : Warm} {event : WarmEvent}
    (h : ∀ key value, warm.Uses key value → ed.verify trusted key value = true) (key : Bytes)
    (value : Value) (hus : (Warm.step ed trusted files warm event).2.Uses key value) :
    ed.verify trusted key value = true := by
  cases warm with
  | ended outcome => cases hus
  | marker mkey =>
    cases event with
    | value answer =>
      cases answer with
      | none => cases hus
      | some found =>
        simp only [Warm.step] at hus
        split at hus
        · cases hus
        · rename_i hver
          split at hus
          · cases hus
          · obtain ⟨rfl, rfl⟩ := hus
            simpa using hver
    | _ => cases hus
  | manifest mkey found id =>
    cases event with
    | object answer =>
      cases answer with
      | none => cases hus
      | some obj =>
        simp only [Warm.step] at hus
        split at hus
        · cases hus
        · split at hus
          · cases hus
          · obtain ⟨call, hmem, hc⟩ := hus
            obtain ⟨_, -, hc'⟩ := mem_map.mp hmem
            obtain ⟨-, rfl⟩ := Prod.mk.inj hc'
            cases hc
    | failed => cases hus
    | _ => exact h key value hus
  | entries calls unverified =>
    cases event with
    | entry index answer =>
      simp only [Warm.step] at hus
      split at hus
      · split at hus
        · exact h key value hus
        · obtain ⟨call, hmem, hc⟩ := hus
          exact verified_of_set (fun k c v hm hu => h k v ⟨c, hm, hu⟩) ‹_› key call value hmem hc
      · exact h key value hus
    | collect =>
      simp only [Warm.step] at hus
      split at hus
      · exact h key value hus
      · split at hus
        · cases hus
        · exact h key value hus
    | failed => cases hus
    | _ => exact h key value hus
  | objects calls =>
    cases event with
    | streamed ok =>
      cases ok with
      | false => cases hus
      | true => exact h key value hus
    | failed => cases hus
    | _ => exact h key value hus
  | writes calls =>
    cases event with
    | entry index answer =>
      simp only [Warm.step] at hus
      split at hus
      · obtain ⟨call, hmem, hc⟩ := hus
        exact verified_of_set (fun k c v hm hu => h k v ⟨c, hm, hu⟩) ‹_› key call value hmem hc
      · exact h key value hus
    | collect =>
      simp only [Warm.step] at hus
      split at hus
      · cases hus
      · exact h key value hus
    | failed => cases hus
    | _ => exact h key value hus

/-- **A step of a node keeps what it uses verified.** -/
theorem Node.verified_of_step {s : Node} {event : Event}
    (h : ∀ key value, s.Uses key value → ed.verify trusted key value = true) (key : Bytes)
    (value : Value) (hu : (s.step ed trusted event).Uses key value) :
    ed.verify trusted key value = true := by
  cases event with
  | call p answer =>
    obtain ⟨q, hk, hu⟩ | hu := hu
    · by_cases hq : q = p
      · subst hq
        simp only [Node.step, Function.update_self] at hk hu
        subst hk
        exact Call.verified_of_step (fun v hv => h _ v (.inl ⟨q, rfl, hv⟩)) value hu
      · simp only [Node.step, Function.update_of_ne hq] at hk hu
        exact h key value (.inl ⟨q, hk, hu⟩)
    · exact h key value (.inr hu)
  | warm p event =>
    obtain hu | ⟨q, hu⟩ := hu
    · exact h key value (.inl hu)
    · by_cases hq : q = p
      · subst hq
        simp only [Node.step, Function.update_self] at hu
        exact Warm.verified_of_step (fun k v hv => h k v (.inr ⟨q, hv⟩)) key value hu
      · simp only [Node.step, Function.update_of_ne hq] at hu
        exact h key value (.inr ⟨q, hu⟩)

/-- **Only verified values are used**, in every run. -/
theorem Node.run_verified {s : Node}
    (h : ∀ key value, s.Uses key value → ed.verify trusted key value = true)
    (events : List Event) (key : Bytes) (value : Value) :
    (s.run ed trusted events).Uses key value → ed.verify trusted key value = true := by
  induction events generalizing s with
  | nil => exact h key value
  | cons event events ih => exact ih (Node.verified_of_step h)

/-- **A node with trusted keys uses signed values only**: whatever its calls
answer or prefetch for, and whatever its warm runs follow, fetch or write, a
trusted key signed it for its key; and a signed text is the text of one key
and one value. -/
theorem answers_signed (ed : Ed25519) (trusted : List (List UInt8)) (s : Node)
    (hc : ∀ p, (s.calls p).2.Starts) (hw : ∀ p, ∃ key, s.warms p = .marker key)
    (events : List Event) :
    (∀ key value, (s.run ed trusted events).Uses key value → ed.Authentic trusted key value)
      ∧ ∀ key key' value value', message key value = message key' value' →
        key = key' ∧ strip value = strip value' := by
  refine ⟨fun key value hu => ?_, fun _ _ _ _ => eq_of_message_eq⟩
  refine Ed25519.authentic_of_verify (Node.run_verified (fun _ _ h => ?_) events key value hu)
  obtain ⟨p, -, hp⟩ | ⟨p, hp⟩ := h
  · obtain hq | ⟨_, hq⟩ := hc p <;> rw [hq] at hp <;> cases hp
  · obtain ⟨_, hq⟩ := hw p
    rw [hq] at hp
    cases hp

/-! ## A signed marker is followed -/

/-- The bytes of a short text. -/
def sampleBytes (bytes : List UInt8) : Bytes :=
  ⟨bytes.take 255, (length_take_le ..).trans_lt (by decide)⟩

/-- The bytes of a text in hexadecimal. -/
def ofHex (text : String) : List UInt8 := (hexBytes (utf8 text.toList)).getD []

/-- A public key. -/
def writerKey : List UInt8 :=
  ofHex "d75a980182b10ab7d54bfed3c964073a0ee172f3daa62325af021a68f707511a"

/-- Its signature of the text of the marker below. -/
def markerSignature : List UInt8 :=
  ofHex ("823c05a0148097e4285c1c729b0a60a29741de27f4e7ecf1115ba4b277763d56"
    ++ "a8225a6f96fb61959aafbed480d6c8889335aa0ccb8c32245b9a5d7874d32c0e")

/-- The key of a marker. -/
def mainKey : Bytes := sampleBytes (markerStart ++ utf8 "main".toList)

/-- A manifest with two keys. -/
def mainManifest : CasObject :=
  dataObject ⟨[], length_nil_lt⟩ (sampleBytes (utf8 "00ff\nab\n".toList))

/-- The id of that manifest. -/
def manifestId : Bytes :=
  sampleBytes (ofHex "4a6266340592a2758d1a1837f180f3a1743f9c46833e20ccb1d568799953fc09")

/-- **A signed marker**: the signature was made with the key of the first test
vector of the scheme. -/
def mainMarker : Value where
  entries := ⟨[(sampleBytes sigEntry, sampleBytes (writerKey ++ markerSignature)),
    (sampleBytes manifestEntry, manifestId)], by decide⟩
  sorted := by decide +kernel

/-- A verifier that knows this one signature. -/
def oneSigned : Ed25519 where
  verifyStrict vk text sig :=
    decide (vk = writerKey ∧ text = message mainKey mainMarker ∧ sig = markerSignature)
  signed vk text := vk = writerKey ∧ text = message mainKey mainMarker
  unforgeable h := ⟨(of_decide_eq_true h).1, (of_decide_eq_true h).2.1⟩

/-- A node without files that is asked for the marker, and a warm run of it. -/
def emptyNode : Node :=
  ⟨fun _ => .absent, fun _ => (mainKey, .get), fun _ => .marker mainKey⟩

/-- The marker is fetched and answered, and a warm run follows it to the keys
of its manifest. -/
def mainEvents : List Event :=
  [.call 0 none, .call 0 (some mainMarker), .call 0 none, .warm 0 (.value (some mainMarker)),
    .warm 0 (.object (some mainManifest))]

theorem answers_signed_mainMarker :
    let s := emptyNode.run oneSigned [writerKey] mainEvents
    s.calls 0 = (mainKey, .done (some mainMarker))
      ∧ s.warms 0 = .entries [(sampleBytes [0x00, 0xff], .warm), (sampleBytes [0xab], .warm)] false
      ∧ oneSigned.Authentic [writerKey] mainKey mainMarker := by
  have hv : oneSigned.verify [writerKey] mainKey mainMarker = true := by decide +kernel
  have he : mainMarker.entry manifestEntry = some manifestId := by decide +kernel
  have hid : mainManifest.id = manifestId := by decide +kernel
  have hk : parseManifest mainManifest.blobData
      = some [sampleBytes [0x00, 0xff], sampleBytes [0xab]] := by decide +kernel
  intro s
  have hc : s.calls 0 = (mainKey, .done (some mainMarker)) := by
    simp [s, emptyNode, mainEvents, Node.run, Node.step, stepCall, Call.step, hv]
  refine ⟨hc, ?_, ?_⟩
  · simp [s, emptyNode, mainEvents, Node.run, Node.step, Warm.step, hv, he, hid, hk]
  · exact (answers_signed oneSigned [writerKey] emptyNode (fun _ => .inl rfl)
      (fun _ => ⟨mainKey, rfl⟩) mainEvents).1 mainKey mainMarker
      (.inl ⟨0, congrArg Prod.fst hc, congrArg (fun c => c.2.uses) hc⟩)

end Glaeda.FleetCas
