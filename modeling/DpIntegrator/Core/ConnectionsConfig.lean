import DpIntegrator.Core.Types
import DpIntegrator.Effects.FirstError

/-!
# The configuration of the connections

`DPI_CONNECTIONS_JSON` is an array of connections. Each is checked when it is read, and the first
that is wrong fails the start.
-/

namespace DpIntegrator

open Effects

/-- A text that is not empty. -/
abbrev FilledText : Type := {s : String // s ≠ ""}

/-- A connection as it is configured; no required text of it is empty. -/
structure ConnectionRecord where
  connectionId : FilledText
  environment : Environment
  shopifyStore : FilledText
  shopifyAppTokenRef : FilledText
  shopifyWebhookSecretRef : FilledText
  nsAccountId : FilledText
  nsSubsidiary : FilledText
  nsLocation : Option String
  baseCurrency : FilledText
  taxEngine : TaxEngine
  orderTarget : OrderTarget
  mapVersion : FilledText
  enabled : Bool
  extraOrderHeaderMappings : Option (List Js.Value)
  defaultShipItemId : Option String
  defaultItemId : Option String
  defaultDiscountItemId : Option String
  writeTagsOnImport : Option Bool
  shopifyAddressIdField : Option String

/-! ## Reading a connection -/

def TaxEngine.text : TaxEngine → String
  | .suitetax => "suitetax"
  | .legacy => "legacy"

def OrderTarget.text : OrderTarget → String
  | .salesOrder => "sales_order"
  | .cashSale => "cash_sale"

def Environment.ofJs? : Js.Value → Option Environment
  | .str s => Environment.ofText? s
  | _ => none

def TaxEngine.ofJs? : Js.Value → Option TaxEngine
  | .str s => if s = "suitetax" then some .suitetax else if s = "legacy" then some .legacy else none
  | _ => none

def OrderTarget.ofJs? : Js.Value → Option OrderTarget
  | .str s =>
    if s = "sales_order" then some .salesOrder else if s = "cash_sale" then some .cashSale else none
  | _ => none

/-- The error about the record at an index. -/
def configError (idx : ℕ) (text : String) : Thrown :=
  newError ("parseConnectionsConfig[" ++ toString idx ++ "]: " ++ text)

/-- What a reader found, or the error that the record is invalid. -/
def orInvalid {α : Type} (idx : ℕ) (text : String) : Option α → Except Thrown α
  | some a => .ok a
  | none => .error (configError idx text)

def FilledText.ofJs? : Js.Value → Option FilledText
  | .str s => if h : s = "" then none else some ⟨s, h⟩
  | _ => none

/-- The text of a required field. -/
def required (v : Js.Value) (idx : ℕ) (key : String) : Except Thrown FilledText :=
  orInvalid idx ("missing/empty string field '" ++ key ++ "'") (FilledText.ofJs? (v.prop key))

/-- `raw === undefined || raw === null ? undefined : String(raw)`. -/
def optionalText (raw : Js.Value) : Option String := if raw.isNullish then none else some raw.toText

/-- `raw === undefined || raw === null ? undefined : Boolean(raw)`. -/
def optionalBool (raw : Js.Value) : Option Bool := if raw.isNullish then none else some raw.truthy

/-- `raw === undefined ? true : Boolean(raw)`. -/
def enabledOf : Js.Value → Bool
  | .undefined => true
  | raw => raw.truthy

/-- An array, nothing, or something else. -/
def mappingsOf? : Js.Value → Option (Option (List Js.Value))
  | .undefined | .null => some none
  | .arr items => some (some items)
  | _ => none

def coerceConnection (value : Js.Value) (idx : ℕ) : Except Thrown ConnectionRecord :=
  if value.isObject = false then
    throw (configError idx ("expected object, got " ++ value.typeOf))
  else do
    let environment ← orInvalid idx
      ("invalid environment '" ++ (value.prop "environment").toText ++ "'")
      (Environment.ofJs? (value.prop "environment"))
    let taxEngine ← orInvalid idx ("invalid taxEngine '" ++ (value.prop "taxEngine").toText ++ "'")
      (TaxEngine.ofJs? (value.prop "taxEngine"))
    let orderTarget ← orInvalid idx
      ("invalid orderTarget '" ++ (value.prop "orderTarget").toText ++ "'")
      (OrderTarget.ofJs? (value.prop "orderTarget"))
    let extraOrderHeaderMappings ← orInvalid idx
      "extraOrderHeaderMappings must be an array if provided"
      (mappingsOf? (value.prop "extraOrderHeaderMappings"))
    let connectionId ← required value idx "connectionId"
    let shopifyStore ← required value idx "shopifyStore"
    let shopifyAppTokenRef ← required value idx "shopifyAppTokenRef"
    let shopifyWebhookSecretRef ← required value idx "shopifyWebhookSecretRef"
    let nsAccountId ← required value idx "nsAccountId"
    let nsSubsidiary ← required value idx "nsSubsidiary"
    let baseCurrency ← required value idx "baseCurrency"
    let mapVersion ← required value idx "mapVersion"
    return {
      connectionId, environment, shopifyStore, shopifyAppTokenRef, shopifyWebhookSecretRef
      nsAccountId, nsSubsidiary
      nsLocation := optionalText (value.prop "nsLocation")
      baseCurrency, taxEngine, orderTarget, mapVersion
      enabled := enabledOf (value.prop "enabled")
      extraOrderHeaderMappings
      defaultShipItemId := optionalText (value.prop "defaultShipItemId")
      defaultItemId := optionalText (value.prop "defaultItemId")
      defaultDiscountItemId := optionalText (value.prop "defaultDiscountItemId")
      writeTagsOnImport := optionalBool (value.prop "writeTagsOnImport")
      shopifyAddressIdField := optionalText (value.prop "shopifyAddressIdField") }

/-- Read the connections of a text. `parseJson` is `JSON.parse`, with the message of its error. -/
def parseConnectionsConfig (parseJson : String → Except String Js.Value) (raw : String) :
    Except Thrown (List ConnectionRecord) :=
  match parseJson raw with
  | .error message =>
    .error (newError ("parseConnectionsConfig: input is not valid JSON: " ++ message))
  | .ok (.arr items) => items.zipIdx.mapM fun item => coerceConnection item.1 item.2
  | .ok _ => .error (newError "parseConnectionsConfig: expected a JSON array of connections")

/-! ## What is read -/

namespace ConnectionRecord

/-- The required texts of a connection, by field. -/
def filledTexts (r : ConnectionRecord) : List (String × FilledText) :=
  [("connectionId", r.connectionId), ("shopifyStore", r.shopifyStore),
    ("shopifyAppTokenRef", r.shopifyAppTokenRef),
    ("shopifyWebhookSecretRef", r.shopifyWebhookSecretRef), ("nsAccountId", r.nsAccountId),
    ("nsSubsidiary", r.nsSubsidiary), ("baseCurrency", r.baseCurrency),
    ("mapVersion", r.mapVersion)]

/-- The optional texts of a connection, by field. -/
def optionalTexts (r : ConnectionRecord) : List (String × Option String) :=
  [("nsLocation", r.nsLocation), ("defaultShipItemId", r.defaultShipItemId),
    ("defaultItemId", r.defaultItemId), ("defaultDiscountItemId", r.defaultDiscountItemId),
    ("shopifyAddressIdField", r.shopifyAddressIdField)]

end ConnectionRecord

/-- The connection that a value describes. -/
structure Describes (value : Js.Value) (r : ConnectionRecord) : Prop where
  object : value.isObject = true
  environment : value.prop "environment" = .str r.environment.text
  taxEngine : value.prop "taxEngine" = .str r.taxEngine.text
  orderTarget : value.prop "orderTarget" = .str r.orderTarget.text
  mappings : mappingsOf? (value.prop "extraOrderHeaderMappings") = some r.extraOrderHeaderMappings
  filled : r.filledTexts.Forall fun field => value.prop field.1 = .str field.2
  optional : r.optionalTexts.Forall fun field => field.2 = optionalText (value.prop field.1)
  enabled : r.enabled = enabledOf (value.prop "enabled")
  writeTags : r.writeTagsOnImport = optionalBool (value.prop "writeTagsOnImport")

section Reading

variable {value : Js.Value} {idx : ℕ} {key text : String} {r : ConnectionRecord}

theorem Environment.ofJs?_eq_some {e : Environment} :
    Environment.ofJs? value = some e ↔ value = .str e.text := by
  constructor
  · intro h
    unfold Environment.ofJs? at h
    split at h
    · rw [Environment.ofText?_eq_some h]
    · cases h
  · rintro rfl
    exact Environment.ofText?_text e

theorem TaxEngine.ofJs?_eq_some {e : TaxEngine} :
    TaxEngine.ofJs? value = some e ↔ value = .str e.text := by
  constructor
  · intro h
    unfold TaxEngine.ofJs? at h
    split at h
    · split at h
      · cases h
        simp_all [TaxEngine.text]
      · obtain ⟨rfl, ⟨⟩⟩ := Option.ite_none_right_eq_some.mp h
        rfl
    · cases h
  · rintro rfl
    cases e <;> rfl

theorem OrderTarget.ofJs?_eq_some {e : OrderTarget} :
    OrderTarget.ofJs? value = some e ↔ value = .str e.text := by
  constructor
  · intro h
    unfold OrderTarget.ofJs? at h
    split at h
    · split at h
      · cases h
        simp_all [OrderTarget.text]
      · obtain ⟨rfl, ⟨⟩⟩ := Option.ite_none_right_eq_some.mp h
        rfl
    · cases h
  · rintro rfl
    cases e <;> rfl

theorem FilledText.ofJs?_eq_some {s : FilledText} :
    FilledText.ofJs? value = some s ↔ value = .str s := by
  constructor
  · intro h
    unfold FilledText.ofJs? at h
    split at h
    · split at h
      · cases h
      · cases h
        rfl
    · cases h
  · rintro rfl
    unfold FilledText.ofJs?
    dsimp only
    rw [dif_neg s.2]

theorem orInvalid_eq_ok {α : Type} {o : Option α} {a : α} :
    orInvalid idx text o = .ok a ↔ o = some a := by
  cases o with
  | none => exact ⟨by rintro ⟨⟩, by rintro ⟨⟩⟩
  | some b =>
    exact ⟨fun h => congrArg some (Except.ok.inj h),
      fun h => congrArg Except.ok (Option.some.inj h)⟩

theorem required_eq_ok {s : FilledText} :
    required value idx key = .ok s ↔ value.prop key = .str s :=
  orInvalid_eq_ok.trans FilledText.ofJs?_eq_some

/-- A record is accepted if and only if it describes a connection, and then it is read as that. -/
theorem coerceConnection_eq_ok : coerceConnection value idx = .ok r ↔ Describes value r := by
  constructor
  · intro h
    unfold coerceConnection at h
    split at h
    · cases h
    rename_i hobject
    obtain ⟨environment, henv, h⟩ := bind_eq_ok.mp h
    obtain ⟨taxEngine, htax, h⟩ := bind_eq_ok.mp h
    obtain ⟨orderTarget, htarget, h⟩ := bind_eq_ok.mp h
    obtain ⟨mappings, hmappings, h⟩ := bind_eq_ok.mp h
    obtain ⟨connectionId, hid, h⟩ := bind_eq_ok.mp h
    obtain ⟨shopifyStore, hstore, h⟩ := bind_eq_ok.mp h
    obtain ⟨tokenRef, htoken, h⟩ := bind_eq_ok.mp h
    obtain ⟨secretRef, hsecret, h⟩ := bind_eq_ok.mp h
    obtain ⟨account, haccount, h⟩ := bind_eq_ok.mp h
    obtain ⟨subsidiary, hsubsidiary, h⟩ := bind_eq_ok.mp h
    obtain ⟨currency, hcurrency, h⟩ := bind_eq_ok.mp h
    obtain ⟨version, hversion, h⟩ := bind_eq_ok.mp h
    cases h
    rw [orInvalid_eq_ok] at henv htax htarget hmappings
    rw [required_eq_ok] at hid hstore htoken hsecret haccount hsubsidiary hcurrency hversion
    refine ⟨Bool.eq_true_of_not_eq_false hobject, Environment.ofJs?_eq_some.mp henv,
      TaxEngine.ofJs?_eq_some.mp htax, OrderTarget.ofJs?_eq_some.mp htarget, hmappings, ?_, ?_,
      rfl, rfl⟩
    · exact ⟨hid, hstore, htoken, hsecret, haccount, hsubsidiary, hcurrency, hversion⟩
    · exact ⟨rfl, rfl, rfl, rfl, rfl⟩
  · rintro ⟨hobject, henv, htax, htarget, hmappings, hfilled, hoptional, henabled, htags⟩
    obtain ⟨hid, hstore, htoken, hsecret, haccount, hsubsidiary, hcurrency, hversion⟩ := hfilled
    obtain ⟨hlocation, hship, hitem, hdiscount, haddress⟩ := hoptional
    unfold coerceConnection
    rw [if_neg (by simp [hobject])]
    refine bind_eq_ok.mpr ⟨_, orInvalid_eq_ok.mpr (Environment.ofJs?_eq_some.mpr henv), ?_⟩
    refine bind_eq_ok.mpr ⟨_, orInvalid_eq_ok.mpr (TaxEngine.ofJs?_eq_some.mpr htax), ?_⟩
    refine bind_eq_ok.mpr ⟨_, orInvalid_eq_ok.mpr (OrderTarget.ofJs?_eq_some.mpr htarget), ?_⟩
    refine bind_eq_ok.mpr ⟨_, orInvalid_eq_ok.mpr hmappings, ?_⟩
    refine bind_eq_ok.mpr ⟨_, required_eq_ok.mpr hid, ?_⟩
    refine bind_eq_ok.mpr ⟨_, required_eq_ok.mpr hstore, ?_⟩
    refine bind_eq_ok.mpr ⟨_, required_eq_ok.mpr htoken, ?_⟩
    refine bind_eq_ok.mpr ⟨_, required_eq_ok.mpr hsecret, ?_⟩
    refine bind_eq_ok.mpr ⟨_, required_eq_ok.mpr haccount, ?_⟩
    refine bind_eq_ok.mpr ⟨_, required_eq_ok.mpr hsubsidiary, ?_⟩
    refine bind_eq_ok.mpr ⟨_, required_eq_ok.mpr hcurrency, ?_⟩
    refine bind_eq_ok.mpr ⟨_, required_eq_ok.mpr hversion, ?_⟩
    rw [← hlocation, ← hship, ← hitem, ← hdiscount, ← haddress, ← henabled, ← htags]
    rfl

/-- Every error about a record names its index. -/
theorem coerceConnection_error {e : Thrown} (h : coerceConnection value idx = .error e) :
    ∃ text, e = configError idx text := by
  have hinvalid {α : Type} {text : String} {o : Option α} {e : Thrown}
      (h : orInvalid idx text o = .error e) : e = configError idx text := by
    cases o with
    | none => exact (Except.error.inj h).symm
    | some a => cases h
  have hrequired {key : String} {e : Thrown} (h : required value idx key = .error e) :
      ∃ text, e = configError idx text := ⟨_, hinvalid h⟩
  unfold coerceConnection at h
  split at h
  · exact ⟨_, (Except.error.inj h).symm⟩
  obtain henv | ⟨_, _, h⟩ := bind_eq_error.mp h
  · exact ⟨_, hinvalid henv⟩
  obtain htax | ⟨_, _, h⟩ := bind_eq_error.mp h
  · exact ⟨_, hinvalid htax⟩
  obtain htarget | ⟨_, _, h⟩ := bind_eq_error.mp h
  · exact ⟨_, hinvalid htarget⟩
  obtain hmappings | ⟨_, _, h⟩ := bind_eq_error.mp h
  · exact ⟨_, hinvalid hmappings⟩
  obtain hid | ⟨_, _, h⟩ := bind_eq_error.mp h
  · exact hrequired hid
  obtain hstore | ⟨_, _, h⟩ := bind_eq_error.mp h
  · exact hrequired hstore
  obtain htoken | ⟨_, _, h⟩ := bind_eq_error.mp h
  · exact hrequired htoken
  obtain hsecret | ⟨_, _, h⟩ := bind_eq_error.mp h
  · exact hrequired hsecret
  obtain haccount | ⟨_, _, h⟩ := bind_eq_error.mp h
  · exact hrequired haccount
  obtain hsubsidiary | ⟨_, _, h⟩ := bind_eq_error.mp h
  · exact hrequired hsubsidiary
  obtain hcurrency | ⟨_, _, h⟩ := bind_eq_error.mp h
  · exact hrequired hcurrency
  obtain hversion | ⟨_, _, h⟩ := bind_eq_error.mp h
  · exact hrequired hversion
  · cases h

end Reading

/-! ## The configuration -/

/-- The value of a text that may be missing. -/
def optionalJs (s : Option String) : Js.Value := (s.map Js.Value.str).getD .undefined

/-- The object that configures a connection. -/
def ConnectionRecord.toJs (r : ConnectionRecord) : Js.Value :=
  .obj [("connectionId", .str r.connectionId), ("environment", .str r.environment.text),
    ("shopifyStore", .str r.shopifyStore), ("shopifyAppTokenRef", .str r.shopifyAppTokenRef),
    ("shopifyWebhookSecretRef", .str r.shopifyWebhookSecretRef),
    ("nsAccountId", .str r.nsAccountId), ("nsSubsidiary", .str r.nsSubsidiary),
    ("nsLocation", optionalJs r.nsLocation), ("baseCurrency", .str r.baseCurrency),
    ("taxEngine", .str r.taxEngine.text), ("orderTarget", .str r.orderTarget.text),
    ("mapVersion", .str r.mapVersion), ("enabled", .bool r.enabled),
    ("extraOrderHeaderMappings", (r.extraOrderHeaderMappings.map .arr).getD .undefined),
    ("defaultShipItemId", optionalJs r.defaultShipItemId),
    ("defaultItemId", optionalJs r.defaultItemId),
    ("defaultDiscountItemId", optionalJs r.defaultDiscountItemId),
    ("writeTagsOnImport", (r.writeTagsOnImport.map .bool).getD .undefined),
    ("shopifyAddressIdField", optionalJs r.shopifyAddressIdField)]

@[simp] theorem optionalText_optionalJs (s : Option String) : optionalText (optionalJs s) = s := by
  cases s <;> rfl

/-- What configures a connection describes it. -/
theorem describes_toJs (r : ConnectionRecord) : Describes r.toJs r where
  object := rfl
  environment := rfl
  taxEngine := rfl
  orderTarget := rfl
  mappings := by
    change mappingsOf? ((r.extraOrderHeaderMappings.map .arr).getD .undefined) = _
    cases r.extraOrderHeaderMappings <;> rfl
  filled := ⟨rfl, rfl, rfl, rfl, rfl, rfl, rfl, rfl⟩
  optional := ⟨(optionalText_optionalJs _).symm, (optionalText_optionalJs _).symm,
    (optionalText_optionalJs _).symm, (optionalText_optionalJs _).symm,
    (optionalText_optionalJs _).symm⟩
  enabled := rfl
  writeTags := by
    change _ = optionalBool ((r.writeTagsOnImport.map .bool).getD .undefined)
    cases r.writeTagsOnImport <;> rfl

section Config

variable {parseJson : String → Except String Js.Value} {raw : String} {items : List Js.Value}
  {rs : List ConnectionRecord} {e : Thrown}

theorem coerceAll_eq_ok : (items.zipIdx.mapM fun item => coerceConnection item.1 item.2) = .ok rs ↔
    List.Forall₂ Describes items rs := by
  rw [mapM_eq_ok_iff]
  simp only [coerceConnection_eq_ok]
  have hitems : items.zipIdx.map Prod.fst = items := List.zipIdx_map_fst ..
  conv_rhs => rw [← hitems]
  rw [List.forall₂_map_left_iff]

/-- The error is about the first record that describes no connection. -/
theorem coerceAll_eq_error
    (h : (items.zipIdx.mapM fun item => coerceConnection item.1 item.2) = .error e) :
    ∃ front item rest text, items = front ++ item :: rest ∧ e = configError front.length text ∧
      (∀ v ∈ front, ∃ r, Describes v r) ∧ ∀ r, ¬Describes item r := by
  obtain ⟨front, ⟨item, idx⟩, rest, hsplit, hfront, hitem⟩ := mapM_eq_error_iff.mp h
  obtain ⟨text, rfl⟩ := coerceConnection_error hitem
  have hitems : items = front.map Prod.fst ++ item :: rest.map Prod.fst := by
    have hfst := congrArg (List.map Prod.fst) hsplit
    rwa [List.zipIdx_map_fst, List.map_append, List.map_cons] at hfst
  have hidx : idx = front.length := by
    have hsnd := congrArg (List.map Prod.snd) hsplit
    rw [List.zipIdx_map_snd, List.map_append, List.map_cons] at hsnd
    have hget := congrArg (fun l => l[front.length]?) hsnd
    simpa [hitems, List.getElem?_append_right] using hget.symm
  subst hidx
  refine ⟨front.map Prod.fst, item, rest.map Prod.fst, text, hitems, by rw [List.length_map], ?_,
      ?_⟩
  · intro v hv
    obtain ⟨entry, hentry, rfl⟩ := List.mem_map.mp hv
    obtain ⟨r, hr⟩ := hfront entry hentry
    exact ⟨r, coerceConnection_eq_ok.mp hr⟩
  · intro r hr
    rw [coerceConnection_eq_ok.mpr hr] at hitem
    cases hitem

theorem parseConnectionsConfig_eq_ok : parseConnectionsConfig parseJson raw = .ok rs ↔
    ∃ items, parseJson raw = .ok (.arr items) ∧ List.Forall₂ Describes items rs := by
  unfold parseConnectionsConfig
  constructor
  · intro h
    split at h
    · cases h
    next items hparse => exact ⟨items, hparse, coerceAll_eq_ok.mp h⟩
    · cases h
  · rintro ⟨items, hparse, hitems⟩
    rw [hparse]
    exact coerceAll_eq_ok.mpr hitems

/-- A configuration is accepted if and only if every record of it describes a connection; what
configures connections is read back as them; and where the records are not all right, the error
names the index of the first one that is wrong. -/
theorem connections_config_reads (parseJson : String → Except String Js.Value) (raw : String) :
    (∀ rs, parseConnectionsConfig parseJson raw = .ok rs ↔
      ∃ items, parseJson raw = .ok (.arr items) ∧ List.Forall₂ Describes items rs) ∧
    (∀ rs : List ConnectionRecord, parseJson raw = .ok (.arr (rs.map ConnectionRecord.toJs)) →
      parseConnectionsConfig parseJson raw = .ok rs) ∧
    ∀ items e, parseJson raw = .ok (.arr items) → parseConnectionsConfig parseJson raw = .error e →
      ∃ front item rest text, items = front ++ item :: rest ∧ e = configError front.length text ∧
        (∀ v ∈ front, ∃ r, Describes v r) ∧ ∀ r, ¬Describes item r := by
  refine ⟨fun rs => parseConnectionsConfig_eq_ok, fun rs hparse => ?_,
    fun items e hparse herror => ?_⟩
  · refine parseConnectionsConfig_eq_ok.mpr ⟨_, hparse, ?_⟩
    rw [List.forall₂_map_left_iff]
    exact List.forall₂_same.mpr fun r _ => describes_toJs r
  · unfold parseConnectionsConfig at herror
    rw [hparse] at herror
    exact coerceAll_eq_error herror

/-- A connection of a development store. -/
def devStore : ConnectionRecord where
  connectionId := ⟨"conn-a", by simp⟩
  environment := .dev
  shopifyStore := ⟨"dev-store-1.myshopify.com", by simp⟩
  shopifyAppTokenRef := ⟨"shopify-token", by simp⟩
  shopifyWebhookSecretRef := ⟨"shopify-secret", by simp⟩
  nsAccountId := ⟨"1234567_SB1", by simp⟩
  nsSubsidiary := ⟨"1", by simp⟩
  nsLocation := none
  baseCurrency := ⟨"USD", by simp⟩
  taxEngine := .suitetax
  orderTarget := .salesOrder
  mapVersion := ⟨"v1", by simp⟩
  enabled := true
  extraOrderHeaderMappings := none
  defaultShipItemId := some "42"
  defaultItemId := none
  defaultDiscountItemId := none
  writeTagsOnImport := some true
  shopifyAddressIdField := none

/-- The connection is read back, and a record after it that is null is reported. -/
theorem connections_config_reads_devStore :
    parseConnectionsConfig (fun _ => .ok (.arr ([devStore].map ConnectionRecord.toJs))) "" =
      .ok [devStore] ∧
    ∃ front item rest text, [Js.Value.null] = front ++ item :: rest ∧
      configError 0 "expected object, got object" = configError front.length text ∧
      (∀ v ∈ front, ∃ r, Describes v r) ∧ ∀ r, ¬Describes item r :=
  ⟨(connections_config_reads _ "").2.1 _ rfl,
    (connections_config_reads (fun _ => .ok (.arr [.null])) "").2.2 _ _ rfl rfl⟩

end Config

end DpIntegrator
