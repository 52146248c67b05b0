import Glaeda.RecoveryCodec
import Glaeda.BridgeMessage

/-!
# Reading a recovery document

A recovery document carries the documents of its messages and catalogs as
texts. To read one is to read those texts as well: each is decoded by its
own reader, the state is rebuilt and validated, and the document is
**written again and compared with the text it came from**.

A state has a document exactly when the later message its phase carries has
one, and is then read back as it was (`recovery_roundTrip_iff`). That one
condition is not part of the validation of a state: the message of the state
itself is checked to have a document, the later message of a resolution is not.
-/

namespace Glaeda

open Checked Json List Option ScaleSetLifecycleResolution Except ScaleSetDeliveryRecoveryPhase
open ScaleSetDeliveryJob

/-! ## The fields of the document -/

/-- The fields of a resolution. -/
structure LifecycleResolutionWire where
  baseRevision : Nat
  deliveryJson : String
  acquiredRequestIds : List Nat
  priorCatalogJson : String
  catalogRevision : Nat
  catalogDigest : String
deriving DecidableEq, Repr

/-- The fields of a proof. -/
inductive SettlementProofWire where
  | acknowledged
  | acquisitionRecovery
  | lifecycleEvidence (resolution : LifecycleResolutionWire)
deriving DecidableEq, Repr

/-- The fields of a phase. -/
inductive RecoveryPhaseWire where
  | reconciled
  | acknowledgementStarted
  | acknowledged (acquiredRequestIds : List Nat)
  | acquisitionRecoveryObserved (acquiredRequestIds : List Nat)
  | lifecycleReconciled (resolution : LifecycleResolutionWire)
  | lifecycleAcknowledgementStarted (resolution : LifecycleResolutionWire)
  | lifecycleAcknowledged (resolution : LifecycleResolutionWire)
  | settlementPrepared (proof : SettlementProofWire) (acquiredRequestIds : List Nat)
      (priorCatalogJson : String) (catalogRevision : Nat) (catalogDigest : String)
deriving DecidableEq, Repr

/-- **The fields of a recovery document**, before any of them is checked. -/
structure RecoveryWire where
  schemaVersion : Nat
  revision : Nat
  priorCatalogRevision : Nat
  priorCatalogDigest : String
  catalogRevision : Nat
  catalogDigest : String
  deliveryJson : String
  phase : RecoveryPhaseWire
deriving DecidableEq, Repr

variable (value : Value)

/-- Read a resolution. -/
def LifecycleResolutionWire.ofJson : Option LifecycleResolutionWire := do
  let fields ← recordFields ["base_revision", "delivery_json", "acquired_request_ids",
    "prior_catalog_json", "catalog_revision", "catalog_digest"] value
  let baseRevision ← field fields "base_revision" (Value.asNat u64Size)
  let deliveryJson ← field fields "delivery_json" Value.asText
  let acquiredRequestIds ← field fields "acquired_request_ids"
    (Value.asList (Value.asNat u64Size))
  let priorCatalogJson ← field fields "prior_catalog_json" Value.asText
  let catalogRevision ← field fields "catalog_revision" (Value.asNat u64Size)
  let catalogDigest ← field fields "catalog_digest" Value.asText
  return ⟨baseRevision, deliveryJson, acquiredRequestIds, priorCatalogJson, catalogRevision,
    catalogDigest⟩

/-- Read a proof. -/
def SettlementProofWire.ofJson : Value → Option SettlementProofWire
  | .str "acknowledged" => some .acknowledged
  | .str "acquisition_recovery" => some .acquisitionRecovery
  | .obj [("lifecycle_evidence", evidence)] =>
    (looseField "resolution" LifecycleResolutionWire.ofJson evidence).map .lifecycleEvidence
  | _ => none

/-- The acquired requests of a phase. -/
def acquiredWire : Option (List Nat) := do
  let fields ← recordFields ["phase", "acquired_request_ids"] value
  field fields "acquired_request_ids" (Value.asList (Value.asNat u64Size))

/-- The resolution of a phase. -/
def resolutionWire : Option LifecycleResolutionWire := do
  let fields ← recordFields ["phase", "resolution"] value
  field fields "resolution" LifecycleResolutionWire.ofJson

/-- Read a phase by its name. -/
def RecoveryPhaseWire.ofJson (value : Value) : Option RecoveryPhaseWire := do
  match ← looseField "phase" Value.asText value with
  | "reconciled" => some .reconciled
  | "acknowledgement_started" => some .acknowledgementStarted
  | "acknowledged" => (acquiredWire value).map .acknowledged
  | "acquisition_recovery_observed" => (acquiredWire value).map .acquisitionRecoveryObserved
  | "lifecycle_reconciled" => (resolutionWire value).map .lifecycleReconciled
  | "lifecycle_acknowledgement_started" =>
    (resolutionWire value).map .lifecycleAcknowledgementStarted
  | "lifecycle_acknowledged" => (resolutionWire value).map .lifecycleAcknowledged
  | "settlement_prepared" => do
    let fields ← recordFields ["phase", "proof", "acquired_request_ids", "prior_catalog_json",
      "catalog_revision", "catalog_digest"] value
    let proof ← field fields "proof" SettlementProofWire.ofJson
    let acquiredRequestIds ← field fields "acquired_request_ids"
      (Value.asList (Value.asNat u64Size))
    let priorCatalogJson ← field fields "prior_catalog_json" Value.asText
    let catalogRevision ← field fields "catalog_revision" (Value.asNat u64Size)
    let catalogDigest ← field fields "catalog_digest" Value.asText
    return .settlementPrepared proof acquiredRequestIds priorCatalogJson catalogRevision
      catalogDigest
  | _ => none

/-- Read a recovery document. -/
def RecoveryWire.ofJson (value : Value) : Option RecoveryWire := do
  let fields ← recordFields ["schema_version", "revision", "prior_catalog_revision",
    "prior_catalog_digest", "catalog_revision", "catalog_digest", "delivery_json", "phase"] value
  let schemaVersion ← field fields "schema_version" (Value.asNat 256)
  let revision ← field fields "revision" (Value.asNat u64Size)
  let priorCatalogRevision ← field fields "prior_catalog_revision" (Value.asNat u64Size)
  let priorCatalogDigest ← field fields "prior_catalog_digest" Value.asText
  let catalogRevision ← field fields "catalog_revision" (Value.asNat u64Size)
  let catalogDigest ← field fields "catalog_digest" Value.asText
  let deliveryJson ← field fields "delivery_json" Value.asText
  let phase ← field fields "phase" RecoveryPhaseWire.ofJson
  return ⟨schemaVersion, revision, priorCatalogRevision, priorCatalogDigest, catalogRevision,
    catalogDigest, deliveryJson, phase⟩

/-! ## Rebuilding a state -/

section Rebuild

variable (serde : Reader)

/-- The message a text holds. -/
def extractDelivery (text : String) : Except ScaleSetDeliveryRecoveryError ScaleSetDelivery :=
  (decodeScaleSetDelivery serde (utf8 text.toList)).mapError (fun _ => corruptRecoveryState)

/-- The catalog a text holds. -/
def extractCatalog (text : String) :
    Except ScaleSetDeliveryRecoveryError DisposableAttemptCatalogDocument :=
  (decodeDisposableAttemptCatalog serde (utf8 text.toList)).mapError
    (fun _ => corruptRecoveryState)

/-- The requests of some numbers. -/
def parseRequestIds (values : List Nat) :
    Except ScaleSetDeliveryRecoveryError (List ScaleSetRunnerRequestId) :=
  values.mapM (fun value =>
    (ScaleSetRunnerRequestId.new value).mapError (fun _ => corruptRecoveryState))

/-- The revision of a number. -/
def parseCatalogRevision (value : Nat) :
    Except ScaleSetDeliveryRecoveryError DisposableAttemptCatalogRevision :=
  (DisposableAttemptCatalogRevision.new value).mapError (fun _ => corruptRecoveryState)

/-- The digest of a text. -/
def parseCatalogDigest (value : String) : Except ScaleSetDeliveryRecoveryError Sha256Digest :=
  (Sha256Digest.parse value).mapError (fun _ => corruptRecoveryState)

/-- Rebuild a resolution. -/
def LifecycleResolutionWire.intoResolution (wire : LifecycleResolutionWire) :
    Except ScaleSetDeliveryRecoveryError ScaleSetLifecycleResolution := do
  let delivery ← extractDelivery serde wire.deliveryJson
  let acquired ← parseRequestIds wire.acquiredRequestIds
  let priorCatalog ← extractCatalog serde wire.priorCatalogJson
  let catalogRevision ← parseCatalogRevision wire.catalogRevision
  let catalogDigest ← parseCatalogDigest wire.catalogDigest
  return ⟨wire.baseRevision, delivery, acquired, priorCatalog, catalogRevision, catalogDigest⟩

/-- Rebuild a proof. -/
def SettlementProofWire.intoProof :
    SettlementProofWire → Except ScaleSetDeliveryRecoveryError ScaleSetDeliverySettlementProof
  | .acknowledged => .ok .acknowledged
  | .acquisitionRecovery => .ok .acquisitionRecovery
  | .lifecycleEvidence resolution => .lifecycleEvidence <$> resolution.intoResolution serde

/-- Rebuild a phase. -/
def RecoveryPhaseWire.intoPhase :
    RecoveryPhaseWire → Except ScaleSetDeliveryRecoveryError ScaleSetDeliveryRecoveryPhase
  | .reconciled => .ok .reconciled
  | .acknowledgementStarted => .ok .acknowledgementStarted
  | .acknowledged ids => .acknowledged <$> parseRequestIds ids
  | .acquisitionRecoveryObserved ids => .acquisitionRecoveryObserved <$> parseRequestIds ids
  | .lifecycleReconciled resolution =>
    .lifecycleReconciled <$> resolution.intoResolution serde
  | .lifecycleAcknowledgementStarted resolution =>
    .lifecycleAcknowledgementStarted <$> resolution.intoResolution serde
  | .lifecycleAcknowledged resolution =>
    .lifecycleAcknowledged <$> resolution.intoResolution serde
  | .settlementPrepared proof ids catalogJson revision digest => do
    let proof ← proof.intoProof serde
    let acquired ← parseRequestIds ids
    let priorCatalog ← extractCatalog serde catalogJson
    let catalogRevision ← parseCatalogRevision revision
    let catalogDigest ← parseCatalogDigest digest
    return .settlementPrepared proof acquired priorCatalog catalogRevision catalogDigest

/-- **A state is rebuilt from its fields and validated.** -/
def RecoveryWire.intoState (wire : RecoveryWire) :
    Except ScaleSetDeliveryRecoveryError ScaleSetDeliveryRecoveryState := do
  let delivery ← extractDelivery serde wire.deliveryJson
  let priorCatalogRevision ← parseCatalogRevision wire.priorCatalogRevision
  let priorCatalogDigest ← parseCatalogDigest wire.priorCatalogDigest
  let catalogRevision ← parseCatalogRevision wire.catalogRevision
  let catalogDigest ← parseCatalogDigest wire.catalogDigest
  let phase ← wire.phase.intoPhase serde
  ScaleSetDeliveryRecoveryState.accept ⟨wire.schemaVersion, wire.revision, priorCatalogRevision,
    priorCatalogDigest, catalogRevision, catalogDigest, delivery, phase⟩

/-- The text is no recovery document. -/
def invalidRecoveryDocument : ScaleSetDeliveryRecoveryError :=
  ⟨.invalidDocument, "Scale Set delivery recovery JSON is invalid"⟩

/-- **Read and check one recovery document.** -/
def decodeScaleSetDeliveryRecovery (bytes : List UInt8) :
    Except ScaleSetDeliveryRecoveryError ScaleSetDeliveryRecoveryState := do
  refuseIf (bytes.length > maxScaleSetDeliveryRecoveryBytes)
    ⟨.documentTooLarge, "Scale Set delivery recovery state exceeds the reviewed byte limit"⟩
  let version ← okOr ((serde.read bytes).bind (looseField "schema_version" (Value.asNat 256)))
    invalidRecoveryDocument
  refuseIf (version ≠ scaleSetDeliveryRecoverySchemaVersion)
    ⟨.versionIncompatible, "Scale Set delivery recovery schema version is unsupported"⟩
  let wire ← okOr ((serde.read bytes).bind RecoveryWire.ofJson) invalidRecoveryDocument
  let state ← wire.intoState serde
  state.validate
  let canonical ← encodeScaleSetDeliveryRecovery state
  refuseIf (canonical ≠ bytes)
    ⟨.nonCanonical, "Scale Set delivery recovery state is not canonical JSON"⟩
  return state

end Rebuild

/-! ## Texts inside the document -/

section Texts

variable (serde : Reader)

theorem extractDelivery_deliveryText {d : ScaleSetDelivery} (h : HasDocument d) :
    extractDelivery serde (deliveryText d) = .ok d := by
  obtain ⟨bytes, hb⟩ := h
  obtain ⟨-, rfl⟩ := encodeScaleSetDelivery_eq_ok.mp hb
  unfold extractDelivery deliveryText
  rw [String.toList_ofList]
  show ((decodeScaleSetDelivery serde (encode d.toJson)).mapError _) = _
  rw [d.decode_encode serde hb]
  rfl

theorem extractCatalog_catalogText (c : DisposableAttemptCatalogDocument) :
    extractCatalog serde (catalogText c) = .ok c := by
  unfold extractCatalog catalogText
  rw [String.toList_ofList]
  show ((decodeDisposableAttemptCatalog serde (encode (.obj c.wireFields))).mapError _) = _
  rw [c.decode_encode serde]
  rfl

variable (ids : List ScaleSetRunnerRequestId)

theorem parseRequestIds_map : parseRequestIds (ids.map (fun id => id.val)) = .ok ids := by
  refine mapM_map_eq_self fun id _ => ?_
  have hid : ScaleSetRunnerRequestId.new id.val = .ok id := PositiveU64.new_val id
  rw [hid]
  rfl

variable (r : DisposableAttemptCatalogRevision)

theorem parseCatalogRevision_val : parseCatalogRevision r.val = .ok r := by
  have hr : DisposableAttemptCatalogRevision.new r.val = .ok r := BoundedRevision.new_eq_ok.mpr rfl
  unfold parseCatalogRevision
  rw [hr]
  rfl

theorem parseCatalogDigest_value (digest : Sha256Digest) :
    parseCatalogDigest digest.value = .ok digest := by
  unfold parseCatalogDigest
  rw [Sha256Digest.parse_value]
  rfl

theorem asList_requestsJson :
    (requestsJson ids).asList (Value.asNat u64Size) = some (ids.map (fun id => id.val)) :=
  asList_arr_map _ fun id _ => asNat_num id.lt_size

theorem readable_requestsJson (depth : Nat) : Readable (depth + 1) (requestsJson ids) :=
  readable_arr_map _ fun id => .num _ id.lt_size

theorem catalogRevision_lt : r.val < u64Size :=
  lt_of_le_of_lt r.le_max (by decide)

end Texts

/-! ## Resolutions are read back -/

namespace ScaleSetLifecycleResolution

variable (resolution : ScaleSetLifecycleResolution)

/-- The fields of a resolution. -/
def wire : LifecycleResolutionWire where
  baseRevision := resolution.baseRevision
  deliveryJson := deliveryText resolution.delivery
  acquiredRequestIds := resolution.acquired.map (fun id => id.val)
  priorCatalogJson := catalogText resolution.priorCatalog
  catalogRevision := resolution.catalogRevision.val
  catalogDigest := resolution.catalogDigest.value

variable {resolution}

/-- **The fields of a resolution are read back.** -/
theorem ofJson_value (h : resolution.baseRevision < u64Size) :
    LifecycleResolutionWire.ofJson resolution.value = some resolution.wire := by
  unfold LifecycleResolutionWire.ofJson value
  rw [recordFields_bind (by simp) (by simp),
    field_of_lookup rfl, asNat_num h, field_of_lookup rfl, field_of_lookup rfl,
    asList_requestsJson, field_of_lookup rfl, field_of_lookup rfl,
    asNat_num (catalogRevision_lt _), field_of_lookup rfl]
  rfl

theorem readable_value (h : resolution.baseRevision < u64Size) (depth : Nat) :
    Readable (depth + 2) resolution.value :=
  .fields ⟨.num _ h, .str _ _, readable_requestsJson _ _, .str _ _,
    .num _ (catalogRevision_lt _), .str _ _⟩

/-- **A resolution is rebuilt.** -/
theorem intoResolution_wire (serde : Reader) (h : HasDocument resolution.delivery) :
    resolution.wire.intoResolution serde = .ok resolution := by
  unfold LifecycleResolutionWire.intoResolution wire
  simp only [extractDelivery_deliveryText serde h, parseRequestIds_map,
    extractCatalog_catalogText, parseCatalogRevision_val, parseCatalogDigest_value, ok_bind]
  rfl

end ScaleSetLifecycleResolution

/-! ## Phases are read back -/

/-- The revision a resolution starts from is a machine integer. -/
def CarriedFits (phase : ScaleSetDeliveryRecoveryPhase) : Prop :=
  ∀ resolution, carriedResolution phase = some resolution → resolution.baseRevision < u64Size

namespace ScaleSetDeliverySettlementProof

/-- The fields of a proof. -/
def wire : ScaleSetDeliverySettlementProof → SettlementProofWire
  | .acknowledged => .acknowledged
  | .acquisitionRecovery => .acquisitionRecovery
  | .lifecycleEvidence resolution => .lifecycleEvidence resolution.wire

end ScaleSetDeliverySettlementProof

namespace ScaleSetDeliveryRecoveryPhase

/-- The fields of a phase. -/
def wire : ScaleSetDeliveryRecoveryPhase → RecoveryPhaseWire
  | .reconciled => .reconciled
  | .acknowledgementStarted => .acknowledgementStarted
  | .acknowledged acquired => .acknowledged (acquired.map (fun id => id.val))
  | .acquisitionRecoveryObserved acquired =>
    .acquisitionRecoveryObserved (acquired.map (fun id => id.val))
  | .lifecycleReconciled resolution => .lifecycleReconciled resolution.wire
  | .lifecycleAcknowledgementStarted resolution =>
    .lifecycleAcknowledgementStarted resolution.wire
  | .lifecycleAcknowledged resolution => .lifecycleAcknowledged resolution.wire
  | .settlementPrepared proof acquired priorCatalog catalogRevision catalogDigest =>
    .settlementPrepared proof.wire (acquired.map (fun id => id.val)) (catalogText priorCatalog)
      catalogRevision.val catalogDigest.value

variable {phase : ScaleSetDeliveryRecoveryPhase}

theorem acquiredWire_obj (name : String) (acq : List ScaleSetRunnerRequestId) :
    acquiredWire (.obj [("phase", .str name), ("acquired_request_ids", requestsJson acq)])
      = some (acq.map (fun id => id.val)) := by
  unfold acquiredWire
  rw [recordFields_bind (by simp) (by simp), field_of_lookup rfl, asList_requestsJson]

theorem resolutionWire_obj (name : String) {resolution : ScaleSetLifecycleResolution}
    (h : resolution.baseRevision < u64Size) :
    resolutionWire (.obj [("phase", .str name), ("resolution", resolution.value)])
      = some resolution.wire := by
  unfold resolutionWire
  rw [recordFields_bind (by simp) (by simp), field_of_lookup rfl, ofJson_value h]

theorem ofJson_proofValue {proof : ScaleSetDeliverySettlementProof}
    (h : ∀ resolution, proof = .lifecycleEvidence resolution → resolution.baseRevision < u64Size) :
    SettlementProofWire.ofJson proof.value = some proof.wire := by
  cases proof with
  | acknowledged => rfl
  | acquisitionRecovery => rfl
  | lifecycleEvidence resolution =>
    show (looseField "resolution" LifecycleResolutionWire.ofJson
      (.obj [("resolution", resolution.value)])).map _ = _
    rw [looseField_of_lookup (by simp) rfl, ofJson_value (h resolution rfl)]
    rfl

/-- **The fields of a phase are read back.** -/
theorem ofJson_value (h : CarriedFits phase) :
    RecoveryPhaseWire.ofJson phase.value = some phase.wire := by
  unfold RecoveryPhaseWire.ofJson value
  cases phase with
  | reconciled => rfl
  | acknowledgementStarted => rfl
  | acknowledged acq | acquisitionRecoveryObserved acq =>
    show (acquiredWire _).map _ = _
    rw [acquiredWire_obj]
    rfl
  | lifecycleReconciled resolution | lifecycleAcknowledgementStarted resolution
  | lifecycleAcknowledged resolution =>
    show (resolutionWire _).map _ = _
    rw [resolutionWire_obj _ (h resolution rfl)]
    rfl
  | settlementPrepared proof acq priorCatalog catalogRevision catalogDigest =>
    have hp := ofJson_proofValue (by
      rintro resolution rfl
      exact h resolution rfl : ∀ resolution, proof = .lifecycleEvidence resolution → _)
    rw [looseField_of_lookup (by simp) rfl, asText_str, bind_eq_bind, bind_some]
    show (recordFields ["phase", "proof", "acquired_request_ids", "prior_catalog_json",
      "catalog_revision", "catalog_digest"] _ >>= fun fields => _) = _
    rw [recordFields_bind (by simp) (by simp),
      field_of_lookup rfl, hp, field_of_lookup rfl, asList_requestsJson, field_of_lookup rfl,
      field_of_lookup rfl, asNat_num (catalogRevision_lt _), field_of_lookup rfl]
    rfl

theorem readable_value (h : CarriedFits phase) (depth : Nat) :
    Readable (depth + 5) phase.value := by
  cases phase with
  | reconciled | acknowledgementStarted => exact .fields (.str _ _)
  | acknowledged acq | acquisitionRecoveryObserved acq =>
    exact .fields ⟨.str _ _, readable_requestsJson _ _⟩
  | lifecycleReconciled resolution | lifecycleAcknowledgementStarted resolution
  | lifecycleAcknowledged resolution =>
    exact .fields ⟨.str _ _, ScaleSetLifecycleResolution.readable_value (h resolution rfl) _⟩
  | settlementPrepared proof acq priorCatalog catalogRevision catalogDigest =>
    have hp : Readable (depth + 4) proof.value := by
      cases proof with
      | acknowledged | acquisitionRecovery => exact .str _ _
      | lifecycleEvidence resolution =>
        refine .fields (Readable.fields ?_)
        exact ScaleSetLifecycleResolution.readable_value (h resolution rfl) _
    exact .fields ⟨.str _ _, hp, readable_requestsJson _ _, .str _ _,
      .num _ (catalogRevision_lt _), .str _ _⟩

/-- **A phase is rebuilt.** -/
theorem intoPhase_wire (serde : Reader) (h : CarriedHasDocument phase) :
    phase.wire.intoPhase serde = .ok phase := by
  have hr {resolution : ScaleSetLifecycleResolution}
      (hc : carriedResolution phase = some resolution) :
      resolution.wire.intoResolution serde = .ok resolution :=
    intoResolution_wire serde (h resolution hc)
  cases phase with
  | reconciled | acknowledgementStarted => rfl
  | acknowledged acq | acquisitionRecoveryObserved acq =>
    simp only [wire, RecoveryPhaseWire.intoPhase, parseRequestIds_map]
    rfl
  | lifecycleReconciled resolution | lifecycleAcknowledgementStarted resolution
  | lifecycleAcknowledged resolution =>
    simp only [wire, RecoveryPhaseWire.intoPhase, hr rfl]
    rfl
  | settlementPrepared proof acq priorCatalog catalogRevision catalogDigest =>
    have hp : proof.wire.intoProof serde = .ok proof := by
      cases proof with
      | acknowledged | acquisitionRecovery => rfl
      | lifecycleEvidence resolution =>
        simp only [ScaleSetDeliverySettlementProof.wire, SettlementProofWire.intoProof, hr rfl]
        rfl
    simp only [wire, RecoveryPhaseWire.intoPhase, hp, parseRequestIds_map,
      extractCatalog_catalogText, parseCatalogRevision_val, parseCatalogDigest_value, ok_bind]
    rfl

end ScaleSetDeliveryRecoveryPhase

/-! ## States are read back -/

namespace ScaleSetDeliveryRecoveryState

variable (s : ScaleSetDeliveryRecoveryState)

theorem carriedFits : CarriedFits s.phase := by
  have hval := (guard_bind_eq_ok.mp s.valid).2
  intro resolution hc
  have hb : resolution.baseRevision = 3 := by
    unfold carriedResolution at hc
    split at hc
    case h_4 proof acq priorCatalog catalogRevision catalogDigest hph =>
      obtain rfl := some.inj hc
      rw [hph] at hval
      simp only [bind_eq_ok] at hval
      obtain ⟨_, -, _, -, _, -, _, -, _, hp, -⟩ := hval
      unfold RecoveryRecord.validateProof at hp
      simp only [bind_eq_ok] at hp
      obtain ⟨_, -, _, -, _, -, hv⟩ := hp
      exact (resolution_bounds hv).1
    case h_5 => cases hc
    all_goals
      rename_i hph
      obtain rfl := some.inj hc
      rw [hph] at hval
      exact (resolution_bounds hval).1
  rw [hb]
  decide

/-- The document of a state. -/
def wireFields : List (String × Value) :=
  [("schema_version", .num s.schemaVersion), ("revision", .num s.revision),
    ("prior_catalog_revision", .num s.priorCatalogRevision.val),
    ("prior_catalog_digest", .str s.priorCatalogDigest.value),
    ("catalog_revision", .num s.catalogRevision.val),
    ("catalog_digest", .str s.catalogDigest.value),
    ("delivery_json", .str (deliveryText s.delivery)), ("phase", s.phase.value)]

/-- The fields of a state. -/
def wire : RecoveryWire where
  schemaVersion := s.schemaVersion
  revision := s.revision
  priorCatalogRevision := s.priorCatalogRevision.val
  priorCatalogDigest := s.priorCatalogDigest.value
  catalogRevision := s.catalogRevision.val
  catalogDigest := s.catalogDigest.value
  deliveryJson := deliveryText s.delivery
  phase := s.phase.wire

theorem schemaVersion_eq : s.schemaVersion = scaleSetDeliveryRecoverySchemaVersion :=
  (RecoveryRecord.validateHeader_eq_ok_iff.mp s.header).1

theorem schemaVersion_lt : s.schemaVersion < 256 := by
  rw [s.schemaVersion_eq]
  decide

theorem revision_lt : s.revision < u64Size :=
  lt_of_le_of_lt (RecoveryRecord.validateHeader_eq_ok_iff.mp s.header).2.1.2 (by decide)

theorem encode_eq_ok {bytes : List UInt8} (h : encodeScaleSetDeliveryRecovery s = .ok bytes) :
    CarriedHasDocument s.phase ∧ bytes.length ≤ maxScaleSetDeliveryRecoveryBytes
      ∧ bytes = encode (.obj s.wireFields) := by
  unfold encodeScaleSetDeliveryRecovery at h
  rw [s.valid, ok_bind, embedDelivery_eq_ok_iff.mpr ⟨s.hasDocument, rfl⟩, ok_bind, bind_eq_ok] at h
  obtain ⟨phase, hph, h⟩ := h
  obtain ⟨hc, rfl⟩ := toJson_eq_ok_iff.mp hph
  obtain ⟨hl, rfl⟩ := encodeWithin_eq_ok.mp h
  exact ⟨hc, hl, rfl⟩

theorem readable_wireFields : Readable maxDepth (.obj s.wireFields) := by
  exact .fields ⟨.num _ (s.schemaVersion_lt.trans (by decide)), .num _ s.revision_lt,
    .num _ (catalogRevision_lt _), .str _ _,
    .num _ (catalogRevision_lt _), .str _ _, .str _ _, readable_value s.carriedFits _⟩

/-- **The fields of a state are read back.** -/
theorem ofJson_wireFields : RecoveryWire.ofJson (.obj s.wireFields) = some s.wire := by
  unfold RecoveryWire.ofJson wireFields
  rw [recordFields_bind (by simp) (by simp),
    field_of_lookup rfl, asNat_num s.schemaVersion_lt, field_of_lookup rfl, asNat_num s.revision_lt,
    field_of_lookup rfl, asNat_num (catalogRevision_lt _), field_of_lookup rfl,
    field_of_lookup rfl, asNat_num (catalogRevision_lt _), field_of_lookup rfl,
    field_of_lookup rfl, field_of_lookup rfl,
    ofJson_value s.carriedFits]
  rfl

/-- **A state is rebuilt.** -/
theorem intoState_wire (serde : Reader) (h : CarriedHasDocument s.phase) :
    s.wire.intoState serde = .ok s := by
  unfold RecoveryWire.intoState wire
  simp only [extractDelivery_deliveryText serde s.hasDocument, parseCatalogRevision_val,
    parseCatalogDigest_value, intoPhase_wire serde h, ok_bind]
  exact accept_eq_ok.mpr rfl

/-- **A state that has a document is read back from it.** -/
theorem decode_encode (serde : Reader) {bytes : List UInt8}
    (h : encodeScaleSetDeliveryRecovery s = .ok bytes) :
    decodeScaleSetDeliveryRecovery serde bytes = .ok s := by
  obtain ⟨hc, hlen, rfl⟩ := s.encode_eq_ok h
  have hl : looseField "schema_version" (Value.asNat 256) (.obj s.wireFields)
      = some scaleSetDeliveryRecoverySchemaVersion :=
    (looseField_num (by simp [wireFields]) rfl s.schemaVersion_lt).trans
      (congrArg some s.schemaVersion_eq)
  unfold decodeScaleSetDeliveryRecovery
  rw [refuseIf_bind (not_lt.mpr hlen), serde.read_encode _ s.readable_wireFields,
    bind_some, bind_some, hl, s.ofJson_wireFields]
  simp only [okOr, ok_bind, ne_eq, not_true_eq_false, refuseIf, if_false,
    s.intoState_wire serde hc, s.valid, h]
  rfl

end ScaleSetDeliveryRecoveryState

theorem encode_of_decodeRecovery {serde : Reader} {bytes : List UInt8}
    {s : ScaleSetDeliveryRecoveryState} (h : decodeScaleSetDeliveryRecovery serde bytes = .ok s) :
    encodeScaleSetDeliveryRecovery s = .ok bytes := by
  unfold decodeScaleSetDeliveryRecovery at h
  simp only [bind_eq_ok, refuseIf_eq_ok, not_not, pure_eq_ok_iff] at h
  obtain ⟨_, -, _, -, _, -, _, -, _, -, _, -, _, hc, _, rfl, rfl⟩ := h
  exact hc

/-- **The round trip of the recovery file.** A state is written within the
limit and read back as it was, in every phase, exactly when the later message
of a resolution it carries has a document of its own; and a text that is read
as a state is the one that state is written as. -/
theorem recovery_roundTrip_iff (serde : Reader) :
    (∀ s : ScaleSetDeliveryRecoveryState, (∃ bytes, encodeScaleSetDeliveryRecovery s = .ok bytes
        ∧ bytes.length ≤ maxScaleSetDeliveryRecoveryBytes
        ∧ decodeScaleSetDeliveryRecovery serde bytes = .ok s) ↔ CarriedHasDocument s.phase)
      ∧ ∀ bytes s, decodeScaleSetDeliveryRecovery serde bytes = .ok s →
        encodeScaleSetDeliveryRecovery s = .ok bytes := by
  refine ⟨fun s => ⟨?_, fun h => ?_⟩, fun bytes s h => encode_of_decodeRecovery h⟩
  · rintro ⟨bytes, hb, -, -⟩
    exact (s.encode_eq_ok hb).1
  · obtain ⟨bytes, hb⟩ := exists_encodeScaleSetDeliveryRecovery s h
    exact ⟨bytes, hb, (s.encode_eq_ok hb).2.1, s.decode_encode serde hb⟩

theorem observedState_roundTrip :
    ∃ bytes, decodeScaleSetDeliveryRecovery compactReader bytes = .ok observedState
      ∧ encodeScaleSetDeliveryRecovery observedState = .ok bytes := by
  have hc : CarriedHasDocument observedState.phase := nofun
  obtain ⟨bytes, -, -, hd⟩ :=
    ((recovery_roundTrip_iff compactReader).1 observedState).mpr hc
  exact ⟨bytes, hd, (recovery_roundTrip_iff compactReader).2 bytes observedState hd⟩

/-! ## A state without a document -/

theorem accepted_labelledOffer :
    Accepted 1 oneAssigned (List.replicate 1 (.available (labelledJob 24))) := by
  refine ⟨by decide, by decide, by decide, ?_, by decide⟩
  intro event hev
  obtain rfl := eq_of_mem_replicate hev
  exact validate_labelledJob (by decide)

/-- A message that offers one job. -/
def labelledOffer : ScaleSetDelivery where
  toDeliveryRecord := bridgeRecord 1 oneAssigned (List.replicate 1 (.available (labelledJob 24)))
  valid := accepted_labelledOffer.validate_bridgeRecord

theorem hasDocument_labelledOffer : HasDocument labelledOffer := by
  have hl : cost labelledOffer.toJson ≤ maxScaleSetDeliveryBytes := by
    rw [labelledOffer, accepted_labelledOffer.cost_toJson,
      cost_messageLine_replicate _ _ one_ne_zero, ScaleSetBridgeEvent.toLine,
      cost_eventLine_labelledJob _ (by decide)]
    show 199 + 1 + 1 * (132 + 11 + 24 * 103 + 1) + (17 + (1 + 0) + (8 + 0)) ≤ 128 * 1024
    decide
  exact ⟨_, encodeScaleSetDelivery_eq_ok.mpr ⟨hl, rfl⟩⟩

/-- The request of that job. -/
def firstRequest : ScaleSetRunnerRequestId := .first _

/-- The job, as it is read back. -/
def labelledEvidence : ScaleSetDeliveryJobEvidence :=
  ⟨firstRequest, "repository", "owner", ⟨"job-0001", isJobId_sample⟩, 7,
    (labelledJob 24).requestLabels⟩

theorem toJobEvidence_labelledJob :
    (fromBridge (labelledJob 24)).toJobEvidence = .ok labelledEvidence := by
  unfold toJobEvidence
  rw [validate_labelledJob (by decide), ok_bind, parseJobId_fromBridge]
  rfl

theorem retainedEvents_replicate {d : ScaleSetDelivery} {event : ScaleSetDeliveryEvent}
    {read : ScaleSetDeliveryLifecycleEvent} {n : Nat} (he : d.events = List.replicate n event)
    (hr : event.toLifecycleEvent = .ok read) :
    d.retainedEvents = .ok (List.replicate n read) := by
  unfold ScaleSetDelivery.retainedEvents
  rw [d.valid, ok_bind, he, mapM_eq_ok]
  exact forall₂_iff_get.mpr ⟨by simp, fun i hi hi' => by simpa using hr⟩

theorem toLifecycleEvent_labelledJob :
    (ScaleSetDeliveryEvent.available (.fromBridge (labelledJob 24))).toLifecycleEvent
        = .ok (.available labelledEvidence)
      ∧ (ScaleSetDeliveryEvent.assigned (.fromBridge (labelledJob 24))).toLifecycleEvent
        = .ok (.assigned labelledEvidence) := by
  have hv : (fromBridge (labelledJob 24)).validate = .ok () :=
    validate_labelledJob (by decide)
  unfold ScaleSetDeliveryEvent.toLifecycleEvent ScaleSetDeliveryEvent.validate
    ScaleSetDeliveryEvent.readBack
  simp only [hv, ok_bind, toJobEvidence_labelledJob]
  exact ⟨rfl, rfl⟩

theorem retainedEvents_labelledOffer :
    labelledOffer.retainedEvents = .ok (List.replicate 1 (.available labelledEvidence)) :=
  retainedEvents_replicate rfl toLifecycleEvent_labelledJob.1

theorem retainedEvents_crowdedDelivery :
    crowdedDelivery.retainedEvents = .ok (List.replicate 50 (.assigned labelledEvidence)) :=
  retainedEvents_replicate (map_replicate ..) toLifecycleEvent_labelledJob.2

theorem foldlM_reconstructEvent_replicate (n : Nat) (ids : List ScaleSetRunnerRequestId) :
    (List.replicate n (ScaleSetDeliveryLifecycleEvent.assigned labelledEvidence)).foldlM
        (reconstructEvent [.available labelledEvidence]) (reservedCatalog, ids)
      = .ok (reservedCatalog, ids ++ List.replicate n firstRequest) := by
  have hj : originalJob [.available labelledEvidence] labelledEvidence.runnerRequestId
      = some labelledEvidence := rfl
  obtain ⟨reservation, hf, hph⟩ : ∃ reservation,
      reservedCatalog.findActiveByRunnerRequestId firstRequest = some reservation
        ∧ reservation.attempt.phase = .reserved := ⟨_, rfl, rfl⟩
  have hs : ∀ ids, reconstructEvent [.available labelledEvidence] (reservedCatalog, ids)
      (.assigned labelledEvidence) = .ok (reservedCatalog, ids ++ [firstRequest]) := by
    intro ids
    unfold reconstructEvent
    have hf : reservedCatalog.findActiveByRunnerRequestId labelledEvidence.runnerRequestId
        = some reservation := hf
    simp only [lifecycleJob, ok_bind, hj, okOr, hf,
      refuseIf_of_not (fun hne : labelledEvidence ≠ labelledEvidence => hne rfl),
      refuseIf_of_not (fun hne : reservation.attempt.phase ≠ .reserved => hne hph)]
    rfl
  induction n generalizing ids with
  | zero => rw [replicate_zero, replicate_zero, append_nil]; rfl
  | succ n ih =>
    rw [replicate_succ, foldlM_cons, hs, ok_bind, ih, append_assoc,
      replicate_succ, singleton_append]

/-- A resolution whose message is too long for a document. -/
def crowdedResolution : ScaleSetLifecycleResolution where
  baseRevision := 3
  delivery := crowdedDelivery
  acquired := [firstRequest]
  priorCatalog := reservedCatalog
  catalogRevision := reservedCatalog.revision
  catalogDigest := observedState.catalogDigest

/-- A state that carries it. -/
def crowdedRecord : RecoveryRecord :=
  { observedState.toRecoveryRecord with
    revision := 4
    delivery := labelledOffer
    phase := .lifecycleReconciled crowdedResolution }

theorem validate_crowdedRecord : crowdedRecord.validate = .ok () := by
  obtain ⟨hrev, hdig⟩ := bindsCatalog_iff.mp matchesCatalog_observedState
  obtain ⟨document, hdoc⟩ := hasDocument_labelledOffer
  have hlt : observedState.priorCatalogRevision.val < observedState.catalogRevision.val := by decide
  have hhdr {revision : Nat} (phase : ScaleSetDeliveryRecoveryPhase) (hfst : 1 ≤ revision)
      (hl : revision ≤ 4) :
      { crowdedRecord with revision := revision, phase := phase }.validateHeader = .ok () :=
    RecoveryRecord.validateHeader_eq_ok_iff.mpr ⟨rfl, ⟨hfst, hl.trans (by decide)⟩,
      hlt.le, fun heq => absurd (congrArg BoundedRevision.val heq) hlt.ne, document, hdoc⟩
  refine guard_bind_eq_ok.mpr ⟨hhdr _ (by decide) (le_refl 4), ?_⟩
  refine validate_eq_ok_iff.mpr
    ⟨1, observedState.catalogDigest, [.available labelledEvidence],
      replicate 50 (.assigned labelledEvidence),
      (reservedCatalog, replicate 50 firstRequest), ?_⟩
  exact {
    expected_eq := rfl
    revision := rfl
    baseRevision := rfl
    later := by decide
    available := rfl
    acquired_ne := cons_ne_nil _ _
    catalog := ⟨rfl, rfl⟩
    revision_le := le_refl _
    digest_eq := hdig
    header := hhdr _ (by decide) (by decide)
    observed := by decide
    prior := matchesCatalog_observedState
    acquired := by decide
    original_eq := retainedEvents_labelledOffer
    events_eq := retainedEvents_crowdedDelivery
    fold := foldlM_reconstructEvent_replicate 50 []
    acquired_eq := by decide
    target := matchesCatalog_observedState }

/-- The state is valid. -/
def crowdedState : ScaleSetDeliveryRecoveryState := ⟨crowdedRecord, validate_crowdedRecord⟩

/-- **A valid state that has no document.** -/
theorem crowdedState_not_encode :
    crowdedState.validate = .ok ()
      ∧ ∀ bytes, encodeScaleSetDeliveryRecovery crowdedState ≠ .ok bytes := by
  refine ⟨crowdedState.valid, fun bytes hb => ?_⟩
  obtain ⟨document, hd⟩ := (crowdedState.encode_eq_ok hb).1 crowdedResolution rfl
  exact crowdedDelivery_not_encode document hd

end Glaeda
