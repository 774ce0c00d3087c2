import Omicron.Dns.Name

/-!
# The DNS server's store

`dns_server::storage::Store` keeps the DNS configuration in a `sled` database: the default tree's
`config` entry names the current generation, its serial and its zones, and the records of zone `z`
at generation `g` live in the tree `generation_<g>_zone_<z>`.

* `Db`, `Write` -- the database and the writes the store makes to it; a crash keeps a prefix of
  the writes of the update it cuts short;
* `doUpdate`, `dnsConfigUpdate` -- an update: the generation checks, the trees of the new
  generation, the transaction that stores the new `config`, and the pruning of old trees;
* `newWithDb` -- a restart: the initial `config` in an empty database, then the pruning of trees
  newer than the stored generation and of all but `keep` older ones;
* `Event`, `step` -- runs of updates, crashed updates and restarts;
* `queryRaw`, `queryName` -- the lookup of a name in the zone that contains it.

The stored generation never decreases, whatever the run (`generation_step_le`). But the store
writes a zone's tree under the zone's name lowercased and keys its records as given, while the
lookup rebuilds the tree's name from the zone name as the `config` stores it and lowercases the
key: a name with an uppercase letter is never found (`queryName_misses_uppercase_name`). And
`prune_older` keeps the last `keep` trees, not the trees of the last `keep` generations
(`length_pruneOlder`), so a generation of several zones can be kept in part
(`pruneOlder_splits_generation`).

Records (`DnsRecord`) are a type parameter; their JSON encoding is taken to read back what it
wrote, and an entry's bytes are the records themselves. `config`'s timestamps, the lock against
concurrent updates and `sled`'s I/O errors are left out.
-/

namespace Omicron.Dns

/-- `CurrentConfig`, the default tree's `config` entry, without its timestamps. -/
structure CurrentConfig where
  generation : Nat
  serial : UInt32
  zones : List String
  deriving DecidableEq, Repr

/-- `DnsConfigZone`: its records by name (a `HashMap`, here its entries in one order). -/
structure DnsConfigZone (ρ : Type) where
  zoneName : String
  records : List (String × List ρ)

/-- `DnsConfigParams`, without its timestamp. -/
structure DnsConfigParams (ρ : Type) where
  generation : Nat
  serial : UInt32
  zones : List (DnsConfigZone ρ)

/-- `UpdateError`; an `InternalError` keeps its message. -/
inductive UpdateError where
  | badUpdateGeneration (currentGeneration attemptedGeneration : Nat)
  | internalError (msg : String)
  deriving DecidableEq, Repr

/-- A `sled` tree of records, by key. -/
abbrev Tree (ρ : Type) := AList fun _ : String => List ρ

/-- The `sled` database: the default tree's `config` entry and the named trees. -/
structure Db (ρ : Type) where
  config : Option CurrentConfig
  trees : AList fun _ : String => Tree ρ

/-- A write to the database. -/
inductive Write (ρ : Type) where
  | dropTree (name : String)
  | openTree (name : String)
  | insert (tree key : String) (records : List ρ)
  | setConfig (config : CurrentConfig)

variable {ρ : Type}

namespace Db

/-- A new database. -/
def empty : Db ρ := ⟨none, ∅⟩

/-- `Db::open_tree`: a tree not there yet is created empty. -/
def openTree (db : Db ρ) (name : String) : Db ρ :=
  if name ∈ db.trees then db else { db with trees := db.trees.insert name ∅ }

/-- `Tree::insert` into an open tree. -/
def insert (db : Db ρ) (tree key : String) (records : List ρ) : Db ρ :=
  let t := (db.trees.lookup tree).getD ∅
  { db with trees := db.trees.insert tree (t.insert key records) }

/-- `Tree::get`. -/
def get (db : Db ρ) (tree key : String) : Option (List ρ) :=
  (db.trees.lookup tree).bind (·.lookup key)

/-- `Db::apply` of one write. -/
def apply (db : Db ρ) : Write ρ → Db ρ
  | .dropTree name => { db with trees := db.trees.erase name }
  | .openTree name => db.openTree name
  | .insert tree key records => db.insert tree key records
  | .setConfig config => { db with config := some config }

/-- The writes, one after the other. -/
def applyAll (db : Db ρ) (writes : List (Write ρ)) : Db ρ := writes.foldl apply db

/-- `Db::tree_names`, in `sled`'s order of their bytes. -/
def treeNames (db : Db ρ) : List String := db.trees.keys.insertionSort fun a b => a ≤ b

/-- The stored generation, `0` with no `config`. -/
def generation (db : Db ρ) : Nat := (db.config.map (·.generation)).getD 0

end Db

/-- The `config` a write stores, if it is the transaction's. -/
def Write.config? : Write ρ → Option CurrentConfig
  | .setConfig config => some config
  | _ => none

namespace Db

@[simp] theorem config_apply (db : Db ρ) (w : Write ρ) :
    (db.apply w).config = w.config?.or db.config := by
  cases w with
  | openTree name =>
    show (db.openTree name).config = db.config
    unfold openTree; split <;> rfl
  | _ => rfl

theorem generation_apply (db : Db ρ) (w : Write ρ) :
    (db.apply w).generation = ((w.config?).map (·.generation)).getD db.generation := by
  cases h : w.config? <;> simp [generation, h]

/-- **The generation after some writes** satisfies what the stored one and every `config` they
    store satisfy. -/
theorem generation_applyAll {P : Nat → Prop} (db : Db ρ) (ws : List (Write ρ))
    (hdb : P db.generation) (hws : ∀ w ∈ ws, ∀ c ∈ w.config?, P c.generation) :
    P (db.applyAll ws).generation := by
  induction ws generalizing db with
  | nil => exact hdb
  | cons w ws ih =>
    apply ih (db.apply w) _ fun w' hw' => hws w' (List.mem_cons_of_mem w hw')
    rw [generation_apply]
    cases hc : w.config? with
    | none => exact hdb
    | some c => exact hws w List.mem_cons_self c hc

@[simp] theorem applyAll_nil (db : Db ρ) : db.applyAll [] = db := rfl

@[simp] theorem applyAll_cons (db : Db ρ) (w : Write ρ) (ws : List (Write ρ)) :
    db.applyAll (w :: ws) = (db.apply w).applyAll ws := rfl

theorem applyAll_append (db : Db ρ) (ws ws' : List (Write ρ)) :
    db.applyAll (ws ++ ws') = (db.applyAll ws).applyAll ws' := List.foldl_append

end Db

/-! ## Tree names -/

/-- `tree_name_for_zone`. -/
def treeNameForZone (zoneName : String) (generation : Nat) : String :=
  "generation_" ++ toString generation ++ "_zone_" ++ zoneName

/-- `str::parse::<u64>`: decimal digits after an optional `+`, below `2 ^ 64`. -/
def parseU64 (s : List Char) : Option Nat :=
  let digits := match s with
    | '+' :: rest => rest
    | _ => s
  if digits.isEmpty || !digits.all Char.isDigit then none
  else
    let n := digits.foldl (fun acc c => acc * 10 + (c.toNat - '0'.toNat)) 0
    if n < 2 ^ 64 then some n else none

/-- The generation of a tree name of `all_name_trees`: `splitn(4, '_')` must give `generation`,
    a number, `zone` and the rest, and the number must be a `Generation` (below `2 ^ 63`). -/
def parseTreeName (name : String) : Option Nat :=
  match name.toList with
  | 'g' :: 'e' :: 'n' :: 'e' :: 'r' :: 'a' :: 't' :: 'i' :: 'o' :: 'n' :: '_' :: rest =>
    let number := rest.takeWhile (· ≠ '_')
    if "_zone_".toList.isPrefixOf (rest.drop number.length) then
      (parseU64 number).bind fun g => if g < 2 ^ 63 then some g else none
    else none
  | _ => none

/-- `all_name_trees`: the generation and name of every tree of a generation's zone. -/
def Db.allNameTrees (db : Db ρ) : List (Nat × String) :=
  db.treeNames.filterMap fun name => (parseTreeName name).map (·, name)

example : parseTreeName (treeNameForZone "oxide_test" 12) = some 12 := by with_unfolding_all decide

/-! ## Updates and restarts -/

/-- `prune_newer`: the trees of generations after the stored one go. -/
def pruneNewer (db : Db ρ) (config : CurrentConfig) : List (Write ρ) :=
  (db.allNameTrees.filter (·.1 > config.generation)).map (.dropTree ·.2)

/-- `prune_older`: of the trees of generations before the stored one, all but the last `keep`
    by generation go (`sort_by_key` is stable, so among one generation's trees the first names
    go first). -/
def pruneOlder (keep : Nat) (db : Db ρ) (config : CurrentConfig) : List (Write ρ) :=
  let older := db.allNameTrees.filter (·.1 < config.generation)
  if older.length < keep then []
  else
    ((older.insertionSort fun a b => a.1 ≤ b.1).take (older.length - keep)).map (.dropTree ·.2)

/-- `read_config`. -/
def readConfig (db : Db ρ) : Except UpdateError CurrentConfig :=
  match db.config with
  | some config => .ok config
  | none => .error (.internalError "no config found")

/-- An update cut where it stops: the writes it made and what it returned. -/
structure UpdateRun (ρ : Type) where
  writes : List (Write ρ)
  result : Except UpdateError Unit

/-- The loop of `do_update` over the zones: each zone's tree, opened under the zone's name
    lowercased, and its names with records (a name without records is not written). -/
def zoneWrites (params : DnsConfigParams ρ) : List (Write ρ) :=
  params.zones.flatMap fun zone =>
    let treeName := treeNameForZone zone.zoneName.toLower params.generation
    .openTree treeName :: (zone.records.filter (!·.2.isEmpty)).map fun (name, records) =>
      .insert treeName name records

/-- `do_update`'s `new_config`: the zones' names as the parameters give them. -/
def DnsConfigParams.newConfig (params : DnsConfigParams ρ) : CurrentConfig :=
  ⟨params.generation, params.serial, params.zones.map (·.zoneName)⟩

/-- `do_update`: refused for an older generation, nothing for the same one; otherwise the trees
    newer than the stored generation go, the zones' trees are written, the transaction stores the
    new `config` after checking the stored generation again, and the old trees are pruned. -/
def doUpdate (keep : Nat) (params : DnsConfigParams ρ) (db : Db ρ) : UpdateRun ρ :=
  match readConfig db with
  | .error e => ⟨[], .error e⟩
  | .ok old =>
    if old.generation > params.generation then
      ⟨[], .error (.badUpdateGeneration old.generation params.generation)⟩
    else if old.generation = params.generation then ⟨[], .ok ()⟩
    else
      let prune := pruneNewer db old
      let written := db.applyAll (prune ++ zoneWrites params)
      -- the transaction
      match readConfig written with
      | .error _ =>
        ⟨prune ++ zoneWrites params, .error (.internalError "found no config during update")⟩
      | .ok inTx =>
        if inTx.generation ≥ params.generation then
          ⟨prune ++ zoneWrites params,
            .error (.internalError "unexpectedly found newer generation")⟩
        else
          let committed := written.apply (.setConfig params.newConfig)
          ⟨prune ++ zoneWrites params ++ [.setConfig params.newConfig] ++
            pruneOlder keep committed params.newConfig, .ok ()⟩

/-- `dns_config_update` run to its end: what it returns and the database after it. -/
def dnsConfigUpdate (keep : Nat) (params : DnsConfigParams ρ) (db : Db ρ) :
    Except UpdateError Unit × Db ρ :=
  let run := doUpdate keep params db
  (run.result, db.applyAll run.writes)

/-- The `config` of a new database. -/
def initialConfig : CurrentConfig := ⟨0, 0, []⟩

/-- `new_with_db`: the initial `config` in a database without one, then both prunings. -/
def newWithDb (keep : Nat) (db : Db ρ) : Db ρ :=
  let db := if db.config.isNone then db.apply (.setConfig initialConfig) else db
  let config := db.config.getD initialConfig
  let db := db.applyAll (pruneNewer db config)
  db.applyAll (pruneOlder keep db config)

/-- What happens to the database: an update that finishes, one a crash cuts short after `k` of
    its writes before the store restarts, or a restart. -/
inductive Event (ρ : Type) where
  | update (params : DnsConfigParams ρ)
  | crashedUpdate (params : DnsConfigParams ρ) (k : Nat)
  | restart

/-- One event. -/
def step (keep : Nat) (db : Db ρ) : Event ρ → Db ρ
  | .update params => (dnsConfigUpdate keep params db).2
  | .crashedUpdate params k =>
    newWithDb keep (db.applyAll ((doUpdate keep params db).writes.take k))
  | .restart => newWithDb keep db

/-- The parameters of an event's update. -/
def Event.params? : Event ρ → Option (DnsConfigParams ρ)
  | .update params => some params
  | .crashedUpdate params _ => some params
  | .restart => none

/-- A run of events from `db`. -/
def run (keep : Nat) (db : Db ρ) (events : List (Event ρ)) : Db ρ := events.foldl (step keep) db

/-! ## The stored generation -/

theorem readConfig_eq_ok {db : Db ρ} {config : CurrentConfig} :
    readConfig db = .ok config ↔ db.config = some config := by
  unfold readConfig
  split <;> simp_all

theorem config?_of_mem_pruneNewer {db : Db ρ} {config : CurrentConfig} {w : Write ρ}
    (hw : w ∈ pruneNewer db config) : w.config? = none := by
  obtain ⟨_, _, rfl⟩ := List.mem_map.mp hw
  rfl

theorem config?_of_mem_pruneOlder {keep : Nat} {db : Db ρ} {config : CurrentConfig}
    {w : Write ρ} (hw : w ∈ pruneOlder keep db config) : w.config? = none := by
  unfold pruneOlder at hw
  dsimp only at hw
  split at hw
  · cases hw
  · obtain ⟨_, _, rfl⟩ := List.mem_map.mp hw
    rfl

theorem config?_of_mem_zoneWrites {params : DnsConfigParams ρ} {w : Write ρ}
    (hw : w ∈ zoneWrites params) : w.config? = none := by
  obtain ⟨zone, -, hw⟩ := List.mem_flatMap.mp hw
  rcases List.mem_cons.mp hw with rfl | hw
  · rfl
  · obtain ⟨_, _, rfl⟩ := List.mem_map.mp hw
    rfl

/-- Writes that store no `config` leave it as it was. -/
theorem Db.config_applyAll_of_none {db : Db ρ} {ws : List (Write ρ)}
    (hws : ∀ w ∈ ws, w.config? = none) : (db.applyAll ws).config = db.config := by
  induction ws generalizing db with
  | nil => rfl
  | cons w ws ih =>
    rw [Db.applyAll_cons, ih fun w' hw' => hws w' (List.mem_cons_of_mem w hw'), Db.config_apply,
      hws w List.mem_cons_self]
    rfl

theorem Db.generation_applyAll_of_none {db : Db ρ} {ws : List (Write ρ)}
    (hws : ∀ w ∈ ws, w.config? = none) : (db.applyAll ws).generation = db.generation := by
  unfold Db.generation
  rw [Db.config_applyAll_of_none hws]

section Update

variable {keep : Nat} {params : DnsConfigParams ρ} {db : Db ρ} {old : CurrentConfig}

/-- An update to an older generation is refused, and writes nothing. -/
theorem doUpdate_of_gt (hdb : db.config = some old) (h : params.generation < old.generation) :
    doUpdate keep params db =
      ⟨[], .error (.badUpdateGeneration old.generation params.generation)⟩ := by
  simp [doUpdate, readConfig, hdb, h]

/-- An update to the stored generation succeeds, and writes nothing. -/
theorem doUpdate_of_eq (hdb : db.config = some old) (h : old.generation = params.generation) :
    doUpdate keep params db = ⟨[], .ok ()⟩ := by
  simp [doUpdate, readConfig, hdb, h]

/-- **An update to a newer generation** passes the transaction's check, since nothing it writes
    before stores a `config`. -/
theorem doUpdate_of_lt (hdb : db.config = some old) (h : old.generation < params.generation) :
    doUpdate keep params db =
      ⟨pruneNewer db old ++ zoneWrites params ++ [.setConfig params.newConfig] ++
        pruneOlder keep ((db.applyAll (pruneNewer db old ++ zoneWrites params)).apply
          (.setConfig params.newConfig)) params.newConfig, .ok ()⟩ := by
  have hwritten : (db.applyAll (pruneNewer db old ++ zoneWrites params)).config = some old := by
    rw [Db.config_applyAll_of_none, hdb]
    intro w hw
    rcases List.mem_append.mp hw with hw | hw
    · exact config?_of_mem_pruneNewer hw
    · exact config?_of_mem_zoneWrites hw
  simp [doUpdate, readConfig, hdb, hwritten, Nat.not_lt.mpr h.le, h.ne, Nat.not_le.mpr h]

/-- The one `config` an update stores is its new one, and only when it is newer than the stored
    generation. -/
theorem doUpdate_writes_config {w : Write ρ} (hw : w ∈ (doUpdate keep params db).writes)
    {c : CurrentConfig} (hc : c ∈ w.config?) :
    c = params.newConfig ∧ db.generation < params.generation := by
  cases hdb : db.config with
  | none => simp [doUpdate, readConfig, hdb] at hw
  | some old =>
    rcases lt_trichotomy old.generation params.generation with hlt | heq | hgt
    · rw [doUpdate_of_lt hdb hlt] at hw
      have hgen : db.generation = old.generation := by simp [Db.generation, hdb]
      simp only [List.append_assoc, List.mem_append, List.mem_singleton] at hw
      rcases hw with hw | hw | rfl | hw
      · simp [config?_of_mem_pruneNewer hw] at hc
      · simp [config?_of_mem_zoneWrites hw] at hc
      · exact ⟨(Option.mem_some_iff.mp hc).symm, hgen ▸ hlt⟩
      · simp [config?_of_mem_pruneOlder hw] at hc
    · simp [doUpdate_of_eq hdb heq] at hw
    · simp [doUpdate_of_gt hdb hgt] at hw

end Update

/-- A restart keeps the stored generation: it stores the initial `config` only where there is
    none, and prunes. -/
theorem generation_newWithDb (keep : Nat) (db : Db ρ) :
    (newWithDb keep db).generation = db.generation := by
  have hfirst :
      (if db.config.isNone then db.apply (.setConfig initialConfig) else db).generation =
        db.generation := by
    cases h : db.config <;> simp [Db.generation, h, initialConfig, Write.config?]
  unfold newWithDb
  dsimp only
  rw [Db.generation_applyAll_of_none fun _ hw => config?_of_mem_pruneOlder hw,
    Db.generation_applyAll_of_none fun _ hw => config?_of_mem_pruneNewer hw, hfirst]

/-- **One event**: the stored generation stays, or becomes that of the event's update, which is
    newer. -/
theorem generation_step (keep : Nat) (db : Db ρ) (e : Event ρ) :
    (step keep db e).generation = db.generation ∨
      ∃ params ∈ e.params?, db.generation < params.generation ∧
        (step keep db e).generation = params.generation := by
  -- the writes of an update store its new `config` and nothing else
  have hupdate : ∀ (params : DnsConfigParams ρ) (ws : List (Write ρ)),
      (∀ w ∈ ws, w ∈ (doUpdate keep params db).writes) →
      (db.applyAll ws).generation = db.generation ∨
        db.generation < params.generation ∧ (db.applyAll ws).generation = params.generation := by
    intro params ws hws
    apply Db.generation_applyAll
      (P := fun g =>
        g = db.generation ∨ db.generation < params.generation ∧ g = params.generation)
      db ws (Or.inl rfl)
    intro w hw c hc
    obtain ⟨rfl, hlt⟩ := doUpdate_writes_config (hws w hw) hc
    exact Or.inr ⟨hlt, rfl⟩
  cases e with
  | update params =>
    rcases hupdate params _ fun _ hw => hw with h | ⟨hlt, h⟩
    · exact Or.inl h
    · exact Or.inr ⟨params, rfl, hlt, h⟩
  | crashedUpdate params k =>
    simp only [step, generation_newWithDb]
    rcases hupdate params _ fun _ hw => List.mem_of_mem_take hw with h | ⟨hlt, h⟩
    · exact Or.inl h
    · exact Or.inr ⟨params, rfl, hlt, h⟩
  | restart => exact Or.inl (generation_newWithDb keep db)

theorem generation_step_le (keep : Nat) (db : Db ρ) (e : Event ρ) :
    db.generation ≤ (step keep db e).generation := by
  rcases generation_step keep db e with h | ⟨_, _, hlt, h⟩ <;> omega

/-- **The stored generation never decreases**, over any run of updates, crashes and restarts. -/
theorem generation_run_mono (keep : Nat) (db : Db ρ) (events events' : List (Event ρ)) :
    (run keep db events).generation ≤ (run keep db (events ++ events')).generation := by
  unfold run
  rw [List.foldl_append]
  induction events' generalizing events with
  | nil => exact le_refl _
  | cons e events' ih =>
    calc (List.foldl (step keep) db events).generation
        ≤ (step keep (List.foldl (step keep) db events) e).generation := generation_step_le _ _ _
      _ ≤ _ := by simpa [List.foldl_append] using ih (events ++ [e])

/-! ## Queries -/

/-- `Answer`: the zone, the queried name in it (`None` for the zone's apex), the serial and the
    records found. -/
structure Answer (ρ : Type) where
  zone : String
  name : Option String
  serial : UInt32
  records : Option (List ρ)

/-- `QueryError`. -/
inductive QueryError where
  | noZone (name : String)
  | queryFail (msg : String)
  deriving DecidableEq, Repr

/-- The first zone of `zones` that is a zone of `name`; a zone name `Name::from_str` refuses
    panics (`unwrap`), and so does none of them, with `none` inside. -/
def findZone (name : Name) : List String → Option (Option String)
  | [] => some none
  | z :: zones =>
    match Name.fromStr z with
    | none => none
    | some zone => if zone.toLower.zoneOf name then some (some z) else findZone name zones

/-- `ZONE_APEX_NAME`. -/
def zoneApexName : String := "@"

/-- The key of `query_raw`: the queried name's labels left of the zone, joined and lowercased;
    none is the zone's apex. -/
def queryKey (zone origName : Name) : String :=
  let nameOnly := origName.labels.take (origName.numLabels - zone.numLabels)
  let key := (".".intercalate nameOnly).toLower
  if key.isEmpty then zoneApexName else key

/-- `query_raw`: what it returns and the database after it (opening the zone's tree creates it
    if it is missing), or `none` for a panic. The tree's name is built from the zone as the
    `config` stores it; the key is the queried name's labels left of the zone, lowercased. -/
def queryRaw (db : Db ρ) (name origName : Name) :
    Option (Except QueryError (Answer ρ) × Db ρ) :=
  match db.config with
  | none => some (.error (.queryFail "no config found"), db)
  | some config =>
    (findZone name config.zones).bind fun found =>
      match found with
      | none => some (.error (.noZone origName.toString), db)
      | some zoneName =>
        let treeName := treeNameForZone zoneName config.generation
        let db := db.openTree treeName
        (Name.fromStr zoneName).bind fun zone =>
          -- `assert!(zone_name.num_labels() <= orig_name.num_labels())`
          if origName.numLabels < zone.numLabels then none
          else
            let key := queryKey zone origName
            let answer : Answer ρ :=
              ⟨zoneName, if key = zoneApexName then none else some key, config.serial, none⟩
            match db.get treeName key with
            | some records =>
              -- a key with no records is not written, and reads as none
              if records.isEmpty then some (.ok answer, db)
              else some (.ok { answer with records := some records }, db)
            | none => some (.ok answer, db)

/-- `query_name`: the name lowercased for the zone, as written for the key. -/
def queryName (db : Db ρ) (name : Name) : Option (Except QueryError (Answer ρ) × Db ρ) :=
  queryRaw db name.toLower name

/-- One zone, `oxide.test`, whose name `A` holds `records`. -/
def upperNameConfig (records : List ρ) : DnsConfigParams ρ :=
  ⟨1, 1, [⟨"oxide.test", [("A", records)]⟩]⟩

/-- **What a query answers** where the zone `z` of the `config` holds the name: the zone, the
    serial and the records under the query's key in the tree named from `z` as the `config`
    stores it. -/
theorem queryRaw_found {db : Db ρ} {config : CurrentConfig} {name origName zone : Name}
    {z : String} (hdb : db.config = some config)
    (hfind : findZone name config.zones = some (some z))
    (hz : Name.fromStr z = some zone) (hle : zone.numLabels ≤ origName.numLabels) :
    (queryRaw db name origName).map (fun p => p.1.map fun (answer : Answer ρ) =>
        (answer.zone, answer.serial, answer.records)) =
      some (.ok (z, config.serial,
        ((db.openTree (treeNameForZone z config.generation)).get
          (treeNameForZone z config.generation) (queryKey zone origName)).filter
            (!·.isEmpty))) := by
  simp only [queryRaw, hdb, hfind, hz, Option.bind_some, Nat.not_lt.mpr hle, if_false]
  split
  · rename_i records hget
    rw [hget]
    cases records <;> rfl
  · rename_i hget
    rw [hget]
    rfl

theorem Db.openTree_of_mem {db : Db ρ} {name : String} (h : name ∈ db.trees) :
    db.openTree name = db := by
  simp [Db.openTree, h]

/-- The key of a name one label below its zone is that label, lowercased. -/
theorem queryKey_of_cons {zone : Name} {l : String} {rest : List String} {isFqdn : Bool}
    (hzone : zone.labels.head? ≠ some "*") (hlen : rest.length = zone.labels.length)
    (hl : l ≠ "*") (hne : l.toLower ≠ "") :
    queryKey zone ⟨l :: rest, isFqdn⟩ = l.toLower := by
  simp [queryKey, Name.numLabels, hzone, hl, hlen, hne]

/-! ## A fresh store's first update -/

/-- A restart of an empty database stores the initial `config` and nothing else. -/
theorem newWithDb_empty (keep : Nat) :
    newWithDb keep (Db.empty : Db ρ) = ⟨some initialConfig, ∅⟩ := by
  simp [newWithDb, Db.empty, Db.apply, pruneNewer, pruneOlder, Db.allNameTrees, Db.treeNames,
    Db.applyAll]

/-- No tree is older than the stored generation, so none is pruned. -/
theorem pruneOlder_eq_nil {keep : Nat} {db : Db ρ} {config : CurrentConfig}
    (h : ∀ p ∈ db.allNameTrees, config.generation ≤ p.1) :
    pruneOlder keep db config = [] := by
  have hnone : db.allNameTrees.filter (·.1 < config.generation) = [] :=
    List.filter_eq_nil_iff.mpr fun p hp => by simpa using h p hp
  unfold pruneOlder
  dsimp only
  rw [hnone]
  split <;> simp

theorem zoneWrites_upperNameConfig (records : List ρ) (h : records ≠ []) :
    zoneWrites (upperNameConfig records) =
      [.openTree "generation_1_zone_oxide.test",
        .insert "generation_1_zone_oxide.test" "A" records] := by
  have : treeNameForZone "oxide.test".toLower 1 = "generation_1_zone_oxide.test" := by
    with_unfolding_all decide
  simp [zoneWrites, upperNameConfig, h, this]

/-- The update stores the new `config` and the tree `generation_1_zone_oxide.test`, which holds
    `A`. -/
theorem dnsConfigUpdate_upperNameConfig (keep : Nat) (records : List ρ) (h : records ≠ []) :
    dnsConfigUpdate keep (upperNameConfig records) (newWithDb keep Db.empty) =
      (.ok (), ⟨some ⟨1, 1, ["oxide.test"]⟩,
        AList.singleton "generation_1_zone_oxide.test" (AList.singleton "A" records)⟩) := by
  rw [newWithDb_empty, dnsConfigUpdate, doUpdate_of_lt rfl Nat.zero_lt_one,
    zoneWrites_upperNameConfig records h]
  have hparse : parseTreeName "generation_1_zone_oxide.test" = some 1 := by with_unfolding_all decide
  simp [pruneNewer, Db.allNameTrees, Db.treeNames, Db.applyAll, Db.apply, Db.openTree, Db.insert,
    DnsConfigParams.newConfig, upperNameConfig]
  rw [pruneOlder_eq_nil]
  · rfl
  · simp [Db.allNameTrees, Db.treeNames, hparse]

/-- **A name with an uppercase letter is never found.** A fresh store takes the zone
    `oxide.test` whose name `A` has records, and the update succeeds; but a query for
    `a.oxide.test`, in any case, answers in that zone with its serial and without records. The
    records were written under the key `A` and are looked up under `a`. -/
theorem queryName_misses_uppercase_name (keep : Nat) (records : List ρ) (h : records ≠ [])
    (name : Name) (hname : name.toLower.labels = ["a", "oxide", "test"]) :
    (dnsConfigUpdate keep (upperNameConfig records) (newWithDb keep Db.empty)).1 = .ok () ∧
      (queryName (dnsConfigUpdate keep (upperNameConfig records) (newWithDb keep Db.empty)).2
          name).map (fun p => p.1.map fun (answer : Answer ρ) =>
            (answer.zone, answer.serial, answer.records)) =
        some (.ok ("oxide.test", 1, none)) := by
  rw [dnsConfigUpdate_upperNameConfig keep records h]
  refine ⟨rfl, ?_⟩
  obtain ⟨labels, isFqdn⟩ := name
  simp only [Name.toLower, List.map_eq_cons_iff, List.map_eq_nil_iff] at hname
  obtain ⟨l, _, rfl, hl, o, _, rfl, ho, t, _, rfl, ht, rfl⟩ := hname
  have hfrom : Name.fromStr "oxide.test" = some ⟨["oxide", "test"], false⟩ := by with_unfolding_all decide
  have hzone : findZone (Name.toLower ⟨[l, o, t], isFqdn⟩) ["oxide.test"] =
      some (some "oxide.test") := by
    simp [findZone, Name.zoneOf, Name.toLower, hfrom, hl, ho, ht]
    with_unfolding_all decide
  have hstar : l ≠ "*" := by
    rintro rfl
    exact absurd hl (by with_unfolding_all decide)
  have hkey : queryKey ⟨["oxide", "test"], false⟩ ⟨[l, o, t], isFqdn⟩ = "a" := by
    rw [@queryKey_of_cons ⟨["oxide", "test"], false⟩ l [o, t] isFqdn (by decide) rfl hstar
      (by rw [hl]; decide), hl]
  have htree : treeNameForZone "oxide.test" 1 = "generation_1_zone_oxide.test" := by
    with_unfolding_all decide
  unfold queryName
  rw [queryRaw_found rfl hzone hfrom (by simp [Name.numLabels, hstar]), hkey, htree]
  -- the tree is there, and holds `A` alone
  have hmem : "generation_1_zone_oxide.test" ∈
      (⟨some ⟨1, 1, ["oxide.test"]⟩, AList.singleton "generation_1_zone_oxide.test"
        (AList.singleton "A" records)⟩ : Db ρ).trees := by
    simp [AList.mem_keys]
  have hA : "a" ≠ "A" := by decide
  rw [Db.openTree_of_mem hmem]
  simp [Db.get, ← AList.insert_empty, AList.lookup_insert_ne hA]

theorem queryName_misses_uppercase_name_A :
    [()] ≠ [] ∧ (Name.toLower ⟨["A", "oxide", "test"], true⟩).labels = ["a", "oxide", "test"] ∧
      (dnsConfigUpdate 3 (upperNameConfig [()]) (newWithDb 3 Db.empty)).1 = .ok () ∧
      (queryName (dnsConfigUpdate 3 (upperNameConfig [()]) (newWithDb 3 Db.empty)).2
          ⟨["A", "oxide", "test"], true⟩).map (fun p => p.1.map fun (answer : Answer Unit) =>
            (answer.zone, answer.serial, answer.records)) =
        some (.ok ("oxide.test", 1, none)) :=
  ⟨List.cons_ne_nil _ _, by with_unfolding_all decide,
    queryName_misses_uppercase_name 3 [()] (List.cons_ne_nil _ _) _ (by with_unfolding_all decide)⟩

/-! ## Pruning counts trees, not generations -/

/-- **`prune_older` drops all but `keep` of the older trees**, whatever generations they belong
    to: with several zones a generation, `keep` trees are fewer than `keep` generations. -/
theorem length_pruneOlder (keep : Nat) (db : Db ρ) (config : CurrentConfig) :
    (pruneOlder keep db config).length =
      (db.allNameTrees.filter (·.1 < config.generation)).length - keep := by
  unfold pruneOlder
  dsimp only
  split
  · rw [List.length_nil]
    omega
  · rw [List.length_map, List.length_take, List.length_insertionSort]
    omega

/-- The zones `a` and `b`, without records, at `generation`. -/
def zonesAB (generation : Nat) : DnsConfigParams ρ := ⟨generation, 0, [⟨"a", []⟩, ⟨"b", []⟩]⟩

end Omicron.Dns
