import DpIntegrator.Core.ConnectionsConfig
import DpIntegrator.Core.Keys
import DpIntegrator.Delivery.Producers
import DpIntegrator.Js.Map
import Mathlib.Data.List.Induction

/-!
# The table of connections

At start the configuration is read, and its connections are put into two maps, by shop and by
id. The start fails on a shop or an id that an environment has twice; otherwise the maps answer
as a search of the list does, and the list is as the producers of messages need it.
-/

namespace DpIntegrator

open Effects

/-! ## Maps as indexes -/

section Index

variable {κ α : Type} [DecidableEq κ] {m : Js.Map κ α} {keyOf : α → κ} {done : List α} {a : α}

/-- The map finds every entry of the list by its key, and nothing else. -/
def Indexes (m : Js.Map κ α) (keyOf : α → κ) (done : List α) : Prop :=
  ∀ key a, m.get key = some a ↔ a ∈ done ∧ keyOf a = key

theorem Indexes.empty : Indexes (.empty : Js.Map κ α) keyOf [] := by
  simp [Indexes, Js.Map.get_empty]

theorem Indexes.isSome_get (h : Indexes m keyOf done) {key : κ} :
    (m.get key).isSome = true ↔ ∃ a ∈ done, keyOf a = key := by
  rw [Option.isSome_iff_exists]
  exact exists_congr fun a => h key a

theorem Indexes.set (h : Indexes m keyOf done) (hnew : (m.get (keyOf a)).isSome = false) :
    Indexes (m.set (keyOf a) a) keyOf (done ++ [a]) := by
  intro key b
  rw [Js.Map.get_set, List.mem_append, List.mem_singleton]
  by_cases hkey : key = keyOf a
  · subst hkey
    rw [Function.update_self]
    have hnone : ¬∃ c ∈ done, keyOf c = keyOf a := by simp [← h.isSome_get, hnew]
    constructor
    · rintro ⟨⟩
      exact ⟨.inr rfl, rfl⟩
    · rintro ⟨hmem | rfl, heq⟩
      · exact absurd ⟨b, hmem, heq⟩ hnone
      · rfl
  · rw [Function.update_of_ne hkey, h key b]
    constructor
    · rintro ⟨hmem, heq⟩
      exact ⟨.inl hmem, heq⟩
    · rintro ⟨hmem | rfl, heq⟩
      · exact ⟨hmem, heq⟩
      · exact absurd heq.symm hkey

/-- An index answers as a search of the list. -/
theorem Indexes.get_eq_find? (h : Indexes m keyOf done) {p : α → Bool} {key : κ}
    (hp : ∀ a, p a = true ↔ keyOf a = key) : m.get key = done.find? p := by
  cases hfind : done.find? p with
  | none =>
    have hnone := List.find?_eq_none.mp hfind
    refine Option.eq_none_iff_forall_ne_some.mpr fun a hget => ?_
    obtain ⟨hmem, hkey⟩ := (h key a).mp hget
    exact hnone a hmem ((hp a).mpr hkey)
  | some a =>
    exact (h key a).mpr ⟨List.mem_of_find?_eq_some hfind, (hp a).mp (List.find?_some hfind)⟩

end Index

/-! ## The repository -/

def shopKeyFor (environment : Environment) (shop : String) : String :=
  environment.text ++ "|" ++ Js.toLowerCase shop

def idKeyFor (environment : Environment) (id : String) : String := environment.text ++ "|" ++ id

/-- The two maps of the repository. -/
structure ConnectionMaps where
  byShop : Js.Map String Connection
  byId : Js.Map String Connection

namespace ConnectionMaps

def duplicateShop (c : Connection) : Thrown :=
  newError ("InMemoryConnectionsRepo: duplicate shop '" ++ c.shopifyStore ++ "' in environment '" ++
    c.environment.text ++ "'")

def duplicateId (c : Connection) : Thrown :=
  newError ("InMemoryConnectionsRepo: duplicate connection_id '" ++ c.connectionId ++
    "' in environment '" ++ c.environment.text ++ "'")

/-- One round of the loop of the constructor. -/
def add (maps : ConnectionMaps) (c : Connection) : Except Thrown ConnectionMaps :=
  let shopKey := shopKeyFor c.environment c.shopifyStore
  if (maps.byShop.get shopKey).isSome then .error (duplicateShop c)
  else
    let idKey := idKeyFor c.environment c.connectionId
    if (maps.byId.get idKey).isSome then .error (duplicateId c)
    else .ok ⟨maps.byShop.set shopKey c, maps.byId.set idKey c⟩

end ConnectionMaps

structure InMemoryConnectionsRepo where
  all : List Connection
  maps : ConnectionMaps

namespace InMemoryConnectionsRepo

/-- The constructor. -/
def ofSeed (seed : List Connection) : Except Thrown InMemoryConnectionsRepo := do
  let maps ← seed.foldlM ConnectionMaps.add ⟨.empty, .empty⟩
  return ⟨seed, maps⟩

def findByShopDomain (repo : InMemoryConnectionsRepo) (environment : Environment)
    (shopDomain : String) : Option Connection :=
  repo.maps.byShop.get (shopKeyFor environment shopDomain)

def findById (repo : InMemoryConnectionsRepo) (environment : Environment) (connectionId : String) :
    Option Connection :=
  repo.maps.byId.get (idKeyFor environment connectionId)

def listEnabled (repo : InMemoryConnectionsRepo) (environment : Environment) : List Connection :=
  repo.all.filter fun c => c.environment = environment && c.enabled

end InMemoryConnectionsRepo

/-! ## What the constructor accepts -/

/-- The connections have a shop or an id of an environment in common. -/
def SeedClash (c c' : Connection) : Prop :=
  c.environment = c'.environment ∧
    (Js.toLowerCase c.shopifyStore = Js.toLowerCase c'.shopifyStore ∨
      c.connectionId = c'.connectionId)

theorem envKey_inj {e e' : Environment} {s s' : String}
    (h : e.text ++ "|" ++ s = e'.text ++ "|" ++ s') : e = e' ∧ s = s' := by
  have hfront (e : Environment) (s : String) :
      (e.text ++ "|" ++ s).toList = e.text.toList ++ '|' :: s.toList := by
    rw [String.toList_append, String.toList_append, List.append_assoc]
    rfl
  have hbar (e : Environment) : '|' ∉ e.text.toList := by cases e <;> decide
  have hchars := congrArg String.toList h
  rw [hfront, hfront] at hchars
  obtain ⟨htext, hrest⟩ := Js.append_cons_inj_of_left (hbar e) (hbar e') hchars
  exact ⟨Environment.text_inj (String.toList_inj.mp htext), String.toList_inj.mp hrest⟩

theorem shopKeyFor_inj {e e' : Environment} {s s' : String} :
    shopKeyFor e s = shopKeyFor e' s' ↔ e = e' ∧ Js.toLowerCase s = Js.toLowerCase s' := by
  constructor
  · exact envKey_inj
  · rintro ⟨rfl, heq⟩
    rw [shopKeyFor, shopKeyFor, heq]

theorem idKeyFor_inj {e e' : Environment} {s s' : String} :
    idKeyFor e s = idKeyFor e' s' ↔ e = e' ∧ s = s' := by
  constructor
  · exact envKey_inj
  · rintro ⟨rfl, rfl⟩
    rfl

section Constructor

variable {done seed : List Connection} {maps maps' : ConnectionMaps} {c : Connection}
  {repo : InMemoryConnectionsRepo} {w : World}

/-- The maps find the connections of a list. -/
structure ConnectionMaps.Hold (done : List Connection) (maps : ConnectionMaps) : Prop where
  byShop : Indexes maps.byShop (fun c => shopKeyFor c.environment c.shopifyStore) done
  byId : Indexes maps.byId (fun c => idKeyFor c.environment c.connectionId) done

/-- A connection is added unless it clashes with one that is there. -/
theorem ConnectionMaps.add_eq_ok (h : maps.Hold done) :
    (∃ maps', maps.add c = .ok maps') ↔ ∀ c' ∈ done, ¬SeedClash c' c := by
  have hshop : (maps.byShop.get (shopKeyFor c.environment c.shopifyStore)).isSome ↔ _ :=
    h.byShop.isSome_get
  have hid : (maps.byId.get (idKeyFor c.environment c.connectionId)).isSome ↔ _ := h.byId.isSome_get
  simp only [shopKeyFor_inj] at hshop
  simp only [idKeyFor_inj] at hid
  unfold ConnectionMaps.add
  dsimp only
  split
  next hfound =>
    obtain ⟨c', hmem, henv, heq⟩ := hshop.mp hfound
    constructor
    · rintro ⟨_, ⟨⟩⟩
    · intro hnone
      exact absurd ⟨henv, .inl heq⟩ (hnone c' hmem)
  next hshops =>
    split
    next hfound =>
      obtain ⟨c', hmem, henv, heq⟩ := hid.mp hfound
      constructor
      · rintro ⟨_, ⟨⟩⟩
      · intro hnone
        exact absurd ⟨henv, .inr heq⟩ (hnone c' hmem)
    next hids =>
      refine ⟨fun _ c' hmem hclash => ?_, fun _ => ⟨_, rfl⟩⟩
      obtain ⟨henv, heq | heq⟩ := hclash
      · exact hshops (hshop.mpr ⟨c', hmem, henv, heq⟩)
      · exact hids (hid.mpr ⟨c', hmem, henv, heq⟩)

theorem ConnectionMaps.Hold.add (h : maps.Hold done) (hadd : maps.add c = .ok maps') :
    maps'.Hold (done ++ [c]) := by
  unfold ConnectionMaps.add at hadd
  dsimp only at hadd
  split at hadd
  · cases hadd
  next hshop =>
    split at hadd
    · cases hadd
    next hid =>
      cases hadd
      exact ⟨h.byShop.set (Bool.eq_false_iff.mpr hshop), h.byId.set (Bool.eq_false_iff.mpr hid)⟩

theorem hold_empty : ConnectionMaps.Hold [] ⟨.empty, .empty⟩ := ⟨.empty, .empty⟩

theorem pairwise_iff_of_splits {α : Type} {R : α → α → Prop} {l : List α} : l.Pairwise R ↔
    ∀ front a rest, l = front ++ a :: rest → ∀ b ∈ front, R b a := by
  constructor
  · rintro h front a rest rfl b hb
    exact (List.pairwise_append.mp h).2.2 b hb a (List.mem_cons_self ..)
  · intro h
    induction l using List.reverseRecOn with
    | nil => exact .nil
    | append_singleton l a ih =>
      refine List.pairwise_append.mpr ⟨ih fun front b rest heq => ?_,
        List.pairwise_singleton .., ?_⟩
      · exact h front b (rest ++ [a]) (by rw [heq, List.append_assoc]; rfl)
      · intro b hb c hc
        obtain rfl := List.mem_singleton.mp hc
        exact h l c [] rfl b hb

/-- The constructor accepts the lists in which no two connections clash. -/
theorem ofSeed_eq_ok : (∃ repo, InMemoryConnectionsRepo.ofSeed seed = .ok repo) ↔
    seed.Pairwise fun c c' => ¬SeedClash c c' := by
  have hfold : (∃ maps, seed.foldlM ConnectionMaps.add ⟨.empty, .empty⟩ = .ok maps) ↔
      ∀ front c rest, seed = front ++ c :: rest → ∀ c' ∈ [] ++ front, ¬SeedClash c' c :=
    @exists_foldlM_eq_ok _ _ _ _ seed ConnectionMaps.Hold
      (fun done c => ∀ c' ∈ done, ¬SeedClash c' c)
      (fun _ _ _ h => ConnectionMaps.add_eq_ok h) (fun _ _ _ _ h hadd => h.add hadd) [] _ hold_empty
  rw [pairwise_iff_of_splits]
  refine Iff.trans ⟨?_, ?_⟩ hfold
  · rintro ⟨repo, hrepo⟩
    obtain ⟨maps, hmaps, _⟩ := bind_eq_ok.mp hrepo
    exact ⟨maps, hmaps⟩
  · rintro ⟨maps, hmaps⟩
    exact ⟨⟨seed, maps⟩, bind_eq_ok.mpr ⟨maps, hmaps, rfl⟩⟩

theorem hold_of_ofSeed (h : InMemoryConnectionsRepo.ofSeed seed = .ok repo) :
    repo.all = seed ∧ repo.maps.Hold seed := by
  obtain ⟨maps, hmaps, hrepo⟩ := bind_eq_ok.mp h
  cases hrepo
  exact ⟨rfl, inv_of_foldlM_eq_ok (fun _ _ _ _ h hadd => h.add hadd) hold_empty hmaps⟩

/-- The repository answers every lookup as the stores with its connections do. -/
structure InMemoryConnectionsRepo.Serves (repo : InMemoryConnectionsRepo) (w : World) : Prop where
  findById : ∀ now environment id, w.serve now (.findConnection environment id) =
    some (.ok (repo.findById environment id), w)
  findByShopDomain : ∀ now environment shop, w.serve now (.findByShopDomain environment shop) =
    some (.ok (repo.findByShopDomain environment shop), w)
  listEnabled : ∀ now environment, w.serve now (.listEnabled environment) =
    some (.ok (repo.listEnabled environment), w)

theorem serves_of_ofSeed (h : InMemoryConnectionsRepo.ofSeed seed = .ok repo)
    (hw : w.connections = seed) : repo.Serves w := by
  obtain ⟨hall, hshops, hids⟩ := hold_of_ofSeed h
  refine ⟨fun now environment id => ?_, fun now environment shop => ?_, fun now environment => ?_⟩
  · have hfind : repo.findById environment id = w.findById environment id := by
      rw [World.findById, hw]
      refine hids.get_eq_find? fun c => ?_
      simp [idKeyFor_inj]
    rw [hfind]
    rfl
  · have hfind : repo.findByShopDomain environment shop = w.findByShopDomain environment shop := by
      rw [World.findByShopDomain, hw]
      refine hshops.get_eq_find? fun c => ?_
      simp [shopKeyFor_inj]
    rw [hfind]
    rfl
  · rw [InMemoryConnectionsRepo.listEnabled, hall, ← hw]
    rfl

end Constructor

/-! ## The start -/

/-- The connection of a record, with the mappings that its extra entries are. -/
def ConnectionRecord.connection (mappings : List Js.Value → List Mapping) (r : ConnectionRecord) :
    Connection where
  connectionId := r.connectionId
  environment := r.environment
  shopifyStore := r.shopifyStore
  shopifyWebhookSecretRef := r.shopifyWebhookSecretRef
  nsAccountId := r.nsAccountId
  nsSubsidiary := r.nsSubsidiary
  nsLocation := r.nsLocation
  baseCurrency := r.baseCurrency
  taxEngine := r.taxEngine
  orderTarget := r.orderTarget
  enabled := r.enabled
  extraOrderHeaderMappings := mappings (r.extraOrderHeaderMappings.getD [])
  defaultShipItemId := r.defaultShipItemId
  defaultItemId := r.defaultItemId
  defaultDiscountItemId := r.defaultDiscountItemId
  writeTagsOnImport := r.writeTagsOnImport.getD false
  shopifyAddressIdField := r.shopifyAddressIdField

/-- The repository that the start builds from `DPI_CONNECTIONS_JSON`. -/
def bootConnections (parseJson : String → Except String Js.Value)
    (mappings : List Js.Value → List Mapping) (raw : String) :
    Except Thrown InMemoryConnectionsRepo := do
  let parsed ← parseConnectionsConfig parseJson raw
  InMemoryConnectionsRepo.ofSeed (parsed.map fun r => r.connection mappings)

section Boot

variable {mappings : List Js.Value → List Mapping} {rs : List ConnectionRecord}

theorem configured_of_records
    (h : (rs.map fun r => r.connection mappings).Pairwise fun c c' => ¬SeedClash c c') :
    Configured (rs.map fun r => r.connection mappings) where
  connectionId := by
    intro c hc
    obtain ⟨r, _, rfl⟩ := List.mem_map.mp hc
    exact r.connectionId.2
  shopifyStore := by
    intro c hc
    obtain ⟨r, _, rfl⟩ := List.mem_map.mp hc
    exact r.shopifyStore.2
  distinct := h.imp fun hclash henv hid => hclash ⟨henv, .inr hid⟩

/-- The start succeeds if and only if every record describes a connection and no two of them
clash. Then the repository answers as the stores with its connections do, and the table is as
the producers of messages need it. -/
theorem boot_table (parseJson : String → Except String Js.Value)
    (mappings : List Js.Value → List Mapping) (raw : String) :
    ((∃ repo, bootConnections parseJson mappings raw = .ok repo) ↔
      ∃ items rs, parseJson raw = .ok (.arr items) ∧ List.Forall₂ Describes items rs ∧
        (rs.map fun r => r.connection mappings).Pairwise fun c c' => ¬SeedClash c c') ∧
    ∀ repo, bootConnections parseJson mappings raw = .ok repo →
      Configured repo.all ∧ ∀ w : World, w.connections = repo.all → repo.Serves w := by
  constructor
  · constructor
    · rintro ⟨repo, hboot⟩
      obtain ⟨rs, hparsed, hseed⟩ := bind_eq_ok.mp hboot
      obtain ⟨items, hitems, hall⟩ := parseConnectionsConfig_eq_ok.mp hparsed
      exact ⟨items, rs, hitems, hall, ofSeed_eq_ok.mp ⟨repo, hseed⟩⟩
    · rintro ⟨items, rs, hitems, hall, hdistinct⟩
      obtain ⟨repo, hseed⟩ := ofSeed_eq_ok.mpr hdistinct
      exact ⟨repo, bind_eq_ok.mpr
        ⟨rs, parseConnectionsConfig_eq_ok.mpr ⟨items, hitems, hall⟩, hseed⟩⟩
  · intro repo hboot
    obtain ⟨rs, _, hseed⟩ := bind_eq_ok.mp hboot
    obtain ⟨hall, _⟩ := hold_of_ofSeed hseed
    rw [hall]
    exact ⟨configured_of_records (ofSeed_eq_ok.mp ⟨repo, hseed⟩),
      fun w hw => serves_of_ofSeed hseed hw⟩

/-- One connection boots. -/
theorem boot_table_devStore : ∃ repo,
    bootConnections (fun _ => .ok (.arr [devStore.toJs])) (fun _ => []) "" = .ok repo ∧
      Configured repo.all := by
  have htable := boot_table (fun _ => .ok (.arr [devStore.toJs])) (fun _ => []) ""
  obtain ⟨repo, hboot⟩ := htable.1.mpr
    ⟨_, [devStore], rfl, .cons (describes_toJs _) .nil, List.pairwise_singleton ..⟩
  exact ⟨repo, hboot, (htable.2 repo hboot).1⟩

end Boot

end DpIntegrator
