import Ethconnect.Contracts.Store
import Ethconnect.Contracts.Lru

/-!
# The ABI cache

`GetABI(location, refresh)` answers from `abiCache` unless asked to refresh, and otherwise asks
the backend: the remote registry `rr` for a gateway or an instance, the local index and storage
directory for a local ABI. A load that finds a contract is added to the cache; a failure, a
missing contract and the panic on an unknown `ABIType` are not.

The REST gateway serves requests concurrently, and `lru.Cache` locks each `Get` and each `Add`,
not the load between them. A call is therefore two steps: its `Get` (`AbiEvent.getABI`), and
the end of its load with the `Add` (`AbiEvent.load`), which the steps of other calls may
separate. Each load sees the backend as it is at that moment: a `Backend` carried by the event.
The sequential `getABI` is one call whose two steps follow each other (`getABI_eq_step`).

The state keeps two ghost histories, latest first: the uses of the cache (a `Get` that found
its location, and every `Add`) and the `Add`s.

## Main results

* `Reachable.inv`: in every reachable state, the cache holds the first `25` locations of
  `recent uses`, each with the message of its last `Add`.
* `abiCache_contents`: a location is cached exactly when it has been used and fewer than 25
  distinct locations have been used since its last use; it is cached with the message of the
  last load of it that found a contract, and every cached message has a contract.
* `abiCache_transparent`: when every load sees one backend whose answers do not depend on
  `refresh`, every call returns what the backend gives for its location, cached or not.
-/

namespace Ethconnect.Contracts

/-! ## Data -/

/-- `DefaultABICacheSize`. -/
def defaultABICacheSize : Int := 25

/-- `RemoteGateway`, `RemoteInstance` and `LocalABI`, the values of `abiType`, an `int` saved
with subscriptions. -/
def remoteGateway : Int := 0

def remoteInstance : Int := 1

def localABI : Int := 2

structure ABILocation where
  abiType : Int
  name : String
  deriving DecidableEq, Repr

/-- `DeployContractWithAddress` of the registry package. -/
structure DeployContractWithAddress where
  contract : Option DeployContract
  address : String
  deriving DecidableEq, Repr

/-- The remote registry `rr`, which is not among the repository's files: what
`LoadFactoryForGateway` and `LoadFactoryForInstance` return for a name and `refresh`. -/
structure RemoteRegistry where
  loadFactoryForGateway : String → Bool → Option DeployContract × Option StoreError
  loadFactoryForInstance : String → Bool → Option DeployContractWithAddress × Option StoreError

/-- `ioutil.ReadFile` on the storage directory, and `json.Unmarshal` into a
`messages.DeployContract`, each with its error. -/
structure LocalFiles where
  readFile : String → Except String Document
  unmarshal : Document → Except String DeployContract

/-- What one load sees: the local index, the remote registry and the storage directory. -/
structure Backend where
  cs : ContractStore
  rr : RemoteRegistry
  files : LocalFiles

/-- What `GetABI` returns: `(deployMsg, nil)`, `(nil, nil)` or `(nil, err)`; or its panic. -/
inductive AbiResult where
  | found (deployMsg : DeployContractWithAddress)
  | notFound
  | failed (err : StoreError)
  | panic (msg : String)
  deriving DecidableEq, Repr

/-! ## The local ABIs -/

namespace ContractStore

/-- `GetLocalABIInfo(abiID)`. -/
def getLocalABIInfo (cs : ContractStore) (abiID : String) : Except StoreError ABIInfo :=
  match cs.abiIndex abiID with
  | some info => .ok info
  | none => .error ⟨"RESTGatewayLocalStoreABINotFound", [abiID]⟩

/-- `loadDeployMsg(abiID)`. -/
def loadDeployMsg (files : LocalFiles) (abiID : String) : Except StoreError DeployContract :=
  match files.readFile ("abi_" ++ abiID ++ ".deploy.json") with
  | .error err => .error ⟨"RESTGatewayLocalStoreABILoad", [abiID, err]⟩
  | .ok deployBytes =>
    match files.unmarshal deployBytes with
    | .error err => .error ⟨"RESTGatewayLocalStoreABIParse", [abiID, err]⟩
    | .ok msg => .ok msg

/-- `getLocalABI(abiID)`. -/
def getLocalABI (cs : ContractStore) (files : LocalFiles) (abiID : String) :
    Except StoreError (DeployContract × ABIInfo) := do
  let info ← cs.getLocalABIInfo abiID
  let msg ← loadDeployMsg files abiID
  return (msg, info)

/-- `CheckNameAvailable(registerAs, isRemote)`: a remote name is checked against the registry's
instances, a local one against `contractRegistrations` (`checkNameAvailable`). -/
def checkNameAvailableIn (rr : RemoteRegistry) (cs : ContractStore) (registerAs : String)
    (isRemote : Bool) : Except StoreError Unit :=
  if isRemote then
    match rr.loadFactoryForInstance registerAs false with
    | (_, some err) => .error err
    | (some msg, none) => .error (friendlyNameClash msg.address registerAs)
    | (none, none) => .ok ()
  else cs.checkNameAvailable registerAs

end ContractStore

/-! ## `GetABI` -/

/-- The `switch` of `GetABI`: what the backend returns for `location`, as `(deployMsg, err)`;
`none` for an unknown `ABIType`, where the `switch` panics. -/
def loadFromBackend (b : Backend) (location : ABILocation) (refresh : Bool) :
    Option (Option DeployContractWithAddress × Option StoreError) :=
  if location.abiType = remoteGateway then
    let r := b.rr.loadFactoryForGateway location.name refresh
    some (some ⟨r.1, ""⟩, r.2)
  else if location.abiType = remoteInstance then
    some (b.rr.loadFactoryForInstance location.name refresh)
  else if location.abiType = localABI then
    match b.cs.getLocalABI b.files location.name with
    | .ok (msg, _) => some (some ⟨some msg, ""⟩, none)
    | .error err => some (some ⟨none, ""⟩, some err)
  else none

/-- The check after the `switch`: `if err != nil || deployMsg == nil || deployMsg.Contract == nil`
returns `(nil, err)`. -/
def checkLoaded : Option (Option DeployContractWithAddress × Option StoreError) → AbiResult
  | none => .panic "unknown ABI type"
  | some (_, some err) => .failed err
  | some (none, none) => .notFound
  | some (some deployMsg, none) =>
    match deployMsg.contract with
    | none => .notFound
    | some _ => .found deployMsg

/-- `GetABI` past its cache: what the backend gives for `location`. -/
def loadABI (b : Backend) (location : ABILocation) (refresh : Bool) : AbiResult :=
  checkLoaded (loadFromBackend b location refresh)

/-- The remote registry answers the same whether or not it is asked to refresh. -/
def Backend.Stable (b : Backend) : Prop :=
  ∀ name refresh, b.rr.loadFactoryForGateway name refresh = b.rr.loadFactoryForGateway name false ∧
    b.rr.loadFactoryForInstance name refresh = b.rr.loadFactoryForInstance name false

theorem loadABI_stable {b : Backend} (hb : b.Stable) (location : ABILocation) (refresh : Bool) :
    loadABI b location refresh = loadABI b location false := by
  simp only [loadABI, loadFromBackend, (hb location.name refresh).1, (hb location.name refresh).2]

/-- `cs.abiCache.Add(location, deployMsg)` after a load that found a contract. -/
def addLoaded (abiCache : LRU ABILocation DeployContractWithAddress) (location : ABILocation) :
    AbiResult → AbiResult × LRU ABILocation DeployContractWithAddress
  | .found deployMsg => (.found deployMsg, (abiCache.add location deployMsg).2)
  | r => (r, abiCache)

/-- `GetABI(location, refresh)` on `abiCache`. -/
def getABI (b : Backend) (abiCache : LRU ABILocation DeployContractWithAddress)
    (location : ABILocation) (refresh : Bool) :
    AbiResult × LRU ABILocation DeployContractWithAddress :=
  match if refresh then (none, abiCache) else abiCache.get location with
  | (some cached, abiCache) => (.found cached, abiCache)
  | (none, abiCache) => addLoaded abiCache location (loadABI b location refresh)

/-- `Init()`: the ABI cache, then `buildIndex` (`none` when a migration panics), then
`rr.Init()`'s error. -/
def ContractStore.init (conf : ContractStoreConf) (dec : Decoders) (env : FileOps)
    (rrInit : Option StoreError) (cs : ContractStore) :
    Except StoreError (Option (LRU ABILocation DeployContractWithAddress × ContractStore ×
      Option StoreError)) :=
  match LRU.new defaultABICacheSize with
  | .error err => .error ⟨"RESTGatewayResourceErr", [err]⟩
  | .ok abiCache => .ok ((cs.buildIndex conf dec env).map fun cs => (abiCache, cs, rrInit))

/-! ## Calls that overlap -/

/-- Where a `GetABI` call is: in its load, or returned. -/
inductive AbiCallPc where
  | loading
  | done (r : AbiResult)
  deriving DecidableEq, Repr

structure AbiCall where
  location : ABILocation
  refresh : Bool
  pc : AbiCallPc
  deriving DecidableEq, Repr

/-- The cache, the calls made on it, and two ghost histories, latest first: the locations used
(a `Get` that found its location, and every `Add`) and the `Add`s. -/
structure AbiCache where
  cache : LRU ABILocation DeployContractWithAddress
  calls : List AbiCall
  uses : List ABILocation
  added : List (ABILocation × DeployContractWithAddress)

inductive AbiEvent where
  /-- A call starts: its `Get`, unless it refreshes. -/
  | getABI (location : ABILocation) (refresh : Bool)
  /-- Call `i`'s load ends with what the backend gives, and its `Add`. -/
  | load (i : Nat) (b : Backend)

namespace AbiCache

/-- The empty cache that `Init` creates, with no call made. -/
def init (abiCache : LRU ABILocation DeployContractWithAddress) : AbiCache :=
  ⟨abiCache, [], [], []⟩

/-- A call starts with its `Get`, unless it refreshes: a cached message returns at once. -/
def startCall (s : AbiCache) (location : ABILocation) (refresh : Bool) : AbiCache :=
  match if refresh then (none, s.cache) else s.cache.get location with
  | (some cached, cache) =>
    { s with cache, calls := s.calls ++ [⟨location, refresh, .done (.found cached)⟩],
             uses := location :: s.uses }
  | (none, cache) => { s with cache, calls := s.calls ++ [⟨location, refresh, .loading⟩] }

/-- Call `i`, which is `c`, returns `r` from its load; a message found is added to the cache. -/
def finishLoad (s : AbiCache) (i : Nat) (c : AbiCall) (r : AbiResult) : AbiCache :=
  match r with
  | .found deployMsg =>
    { cache := (s.cache.add c.location deployMsg).2
      calls := s.calls.set i { c with pc := .done r }
      uses := c.location :: s.uses
      added := (c.location, deployMsg) :: s.added }
  | _ => { s with calls := s.calls.set i { c with pc := .done r } }

def step (s : AbiCache) : AbiEvent → Option AbiCache
  | .getABI location refresh => some (s.startCall location refresh)
  | .load i b => s.calls[i]?.bind fun c =>
    match c.pc with
    | .loading => some (s.finishLoad i c (loadABI b c.location c.refresh))
    | .done _ => none

/-- An event whose load, if it has one, sees a backend in `B`. -/
def SeesIn (B : Backend → Prop) : AbiEvent → Prop
  | .getABI _ _ => True
  | .load _ b => B b

/-- The states reached from `init abiCache` by calls whose loads see backends in `B`. -/
inductive Reachable (abiCache : LRU ABILocation DeployContractWithAddress) (B : Backend → Prop) :
    AbiCache → Prop
  | init : Reachable abiCache B (init abiCache)
  | step {s s' : AbiCache} (e : AbiEvent) : SeesIn B e → Reachable abiCache B s →
      s.step e = some s' → Reachable abiCache B s'

/-! ## One step -/

theorem startCall_hit {s : AbiCache} {location : ABILocation} {cached : DeployContractWithAddress}
    (h : s.cache.find? location = some cached) :
    s.startCall location false =
      { s with cache := s.cache.moveToFront location,
               calls := s.calls ++ [⟨location, false, .done (.found cached)⟩],
               uses := location :: s.uses } := by
  simp [startCall, LRU.get_of_find? h]

theorem startCall_miss {s : AbiCache} {location : ABILocation} {refresh : Bool}
    (h : refresh = true ∨ s.cache.find? location = none) :
    s.startCall location refresh =
      { s with calls := s.calls ++ [⟨location, refresh, .loading⟩] } := by
  rcases h with rfl | h
  · rfl
  · cases refresh <;> simp [startCall, LRU.get_of_find?_none h]

theorem startCall_cases (s : AbiCache) (location : ABILocation) (refresh : Bool) :
    (∃ cached, refresh = false ∧ s.cache.find? location = some cached ∧
      s.startCall location refresh =
        { s with cache := s.cache.moveToFront location,
                 calls := s.calls ++ [⟨location, false, .done (.found cached)⟩],
                 uses := location :: s.uses }) ∨
    ((refresh = true ∨ s.cache.find? location = none) ∧
      s.startCall location refresh =
        { s with calls := s.calls ++ [⟨location, refresh, .loading⟩] }) := by
  cases refresh with
  | true => exact .inr ⟨.inl rfl, rfl⟩
  | false =>
    cases h : s.cache.find? location with
    | none => exact .inr ⟨.inr rfl, startCall_miss (.inr h)⟩
    | some cached => exact .inl ⟨cached, rfl, rfl, startCall_hit h⟩

theorem step_load {s s' : AbiCache} {i : Nat} {b : Backend} (h : s.step (.load i b) = some s') :
    ∃ c, s.calls[i]? = some c ∧ c.pc = .loading ∧
      s' = s.finishLoad i c (loadABI b c.location c.refresh) := by
  obtain ⟨c, hc, h⟩ := Option.bind_eq_some.mp h
  refine ⟨c, hc, ?_⟩
  split at h
  · next hpc => exact ⟨hpc, (Option.some.inj h).symm⟩
  · cases h

theorem finishLoad_of_not_found {s : AbiCache} {i : Nat} {c : AbiCall} {r : AbiResult}
    (h : ∀ d, r ≠ .found d) :
    s.finishLoad i c r = { s with calls := s.calls.set i { c with pc := .done r } } := by
  cases r with
  | found d => exact absurd rfl (h d)
  | _ => rfl

/-- A load only reports a message that has a contract. -/
theorem loadABI_found {b : Backend} {location : ABILocation} {refresh : Bool}
    {d : DeployContractWithAddress} (h : loadABI b location refresh = .found d) :
    d.contract.isSome := by
  unfold loadABI checkLoaded at h
  split at h
  any_goals cases h
  split at h
  · cases h
  · next hc => cases h; simp [hc]

theorem getABI_of_find? {b : Backend} {abiCache : LRU ABILocation DeployContractWithAddress}
    {location : ABILocation} {cached : DeployContractWithAddress}
    (h : abiCache.find? location = some cached) :
    getABI b abiCache location false = (.found cached, abiCache.moveToFront location) := by
  simp [getABI, LRU.get_of_find? h]

theorem getABI_of_miss {b : Backend} {abiCache : LRU ABILocation DeployContractWithAddress}
    {location : ABILocation} {refresh : Bool}
    (h : refresh = true ∨ abiCache.find? location = none) :
    getABI b abiCache location refresh =
      addLoaded abiCache location (loadABI b location refresh) := by
  rcases h with rfl | h
  · rfl
  · cases refresh <;> simp [getABI, LRU.get_of_find?_none h]

/-- The sequential `getABI` is a call of the model whose load, when it has one, follows its
`Get` with no step of another call between them. -/
theorem getABI_eq_step (s : AbiCache) (b : Backend) (location : ABILocation) (refresh : Bool) :
    ∃ s', (s.step (.getABI location refresh) = some s' ∨
        (s.step (.getABI location refresh)).bind (·.step (.load s.calls.length b)) = some s') ∧
      s'.cache = (getABI b s.cache location refresh).2 ∧
      s'.calls = s.calls ++ [⟨location, refresh, .done (getABI b s.cache location refresh).1⟩] := by
  rcases startCall_cases s location refresh with ⟨cached, rfl, h, heq⟩ | ⟨hmiss, heq⟩
  · exact ⟨_, .inl (congrArg some heq), by simp [getABI_of_find? h]⟩
  · have hc : (s.startCall location refresh).calls[s.calls.length]? =
        some ⟨location, refresh, .loading⟩ := by
      rw [heq]
      exact List.getElem?_concat_length _ _
    refine ⟨(s.startCall location refresh).finishLoad s.calls.length ⟨location, refresh, .loading⟩
      (loadABI b location refresh), .inr (by simp only [step, Option.some_bind, hc]), ?_⟩
    rw [getABI_of_miss hmiss, heq]
    cases loadABI b location refresh <;>
      simp [finishLoad, addLoaded, List.set_append_right]

/-! ## The cache over a run -/

/-- What every reachable state keeps, for a cache of `size` entries. -/
structure Inv (size : Nat) (s : AbiCache) : Prop where
  tracks : LRU.Tracks s.cache s.uses s.added
  size_eq : s.cache.size = size
  added_contract : ∀ e ∈ s.added, e.2.contract.isSome

theorem Inv.startCall {size : Nat} {s : AbiCache} (hs : Inv size s) (location : ABILocation)
    (refresh : Bool) : Inv size (s.startCall location refresh) := by
  rcases startCall_cases s location refresh with ⟨cached, -, h, heq⟩ | ⟨-, heq⟩ <;> rw [heq]
  · have hk : location ∈ s.cache.keys := List.mem_map.mpr ⟨_, LRU.find?_eq_some_iff.mp h, rfl⟩
    exact ⟨hs.tracks.moveToFront hk, hs.size_eq, hs.added_contract⟩
  · exact ⟨hs.tracks, hs.size_eq, hs.added_contract⟩

theorem Inv.finishLoad {size : Nat} {s : AbiCache} (hs : Inv size s) (i : Nat) (c : AbiCall)
    {r : AbiResult} (hr : ∀ d, r = .found d → d.contract.isSome) :
    Inv size (s.finishLoad i c r) := by
  cases r with
  | found d =>
    refine ⟨hs.tracks.add _ _, (LRU.size_add _ _ _).trans hs.size_eq, fun e he => ?_⟩
    rcases List.mem_cons.mp he with rfl | he
    · exact hr d rfl
    · exact hs.added_contract e he
  | _ => exact ⟨hs.tracks, hs.size_eq, hs.added_contract⟩

theorem Inv.step {size : Nat} {s s' : AbiCache} {e : AbiEvent} (hs : Inv size s)
    (h : s.step e = some s') : Inv size s' := by
  cases e with
  | getABI location refresh => cases h; exact hs.startCall location refresh
  | load i b =>
    obtain ⟨c, -, -, rfl⟩ := step_load h
    exact hs.finishLoad i c fun _ => loadABI_found

theorem Reachable.inv {abiCache : LRU ABILocation DeployContractWithAddress}
    (hnew : LRU.new defaultABICacheSize = .ok abiCache) {B : Backend → Prop} {s : AbiCache}
    (hs : Reachable abiCache B s) : Inv 25 s := by
  induction hs with
  | init => exact ⟨LRU.tracks_new hnew, LRU.size_of_new hnew, fun _ h => nomatch h⟩
  | step _ _ _ h ih => exact ih.step h

/-- Which locations the cache holds, and with what: a location is cached exactly when it has
been used, by a `Get` that found it or by an `Add`, and fewer than 25 distinct locations have
been used since its last use; it is cached with the message of the last load of it that found a
contract, and every cached message has a contract. -/
theorem abiCache_contents {abiCache : LRU ABILocation DeployContractWithAddress}
    (hnew : LRU.new defaultABICacheSize = .ok abiCache) {B : Backend → Prop} {s : AbiCache}
    (hs : Reachable abiCache B s) (location : ABILocation) (d : DeployContractWithAddress) :
    (s.cache.find? location = some d ↔ location ∈ s.uses ∧
      (s.uses.takeWhile (· != location)).toFinset.card < 25 ∧
      s.added.lookup location = some d) ∧
    (s.cache.find? location = some d → d.contract.isSome) := by
  have hi := hs.inv hnew
  have h := hi.tracks.find?_eq_some (k := location) (v := d)
  rw [hi.size_eq, LRU.mem_recent_take_iff, and_assoc] at h
  exact ⟨h, fun hf => hi.added_contract _ (LRU.mem_of_lookup_eq_some (h.mp hf).2.2)⟩

/-- One call that misses and loads a gateway's factory: the factory is cached. -/
theorem abiCache_contents_sample :
    let loc : ABILocation := ⟨remoteGateway, "factory"⟩
    let d : DeployContractWithAddress := ⟨some ⟨"Factory", "", [], ""⟩, ""⟩
    ∃ abiCache s, LRU.new defaultABICacheSize = .ok abiCache ∧
      Reachable abiCache (fun _ => True) s ∧ s.cache.find? loc = some d ∧
      ((s.cache.find? loc = some d ↔ loc ∈ s.uses ∧
        (s.uses.takeWhile (· != loc)).toFinset.card < 25 ∧ s.added.lookup loc = some d) ∧
      (s.cache.find? loc = some d → d.contract.isSome)) := by
  intro loc d
  let b : Backend := ⟨newContractStore Dir.empty,
    ⟨fun _ _ => (d.contract, none), fun _ _ => (none, none)⟩,
    ⟨fun _ => .error "", fun _ => .error ""⟩⟩
  let c₀ : LRU ABILocation DeployContractWithAddress := ⟨25, [], List.nodup_nil, by decide⟩
  have hnew : LRU.new defaultABICacheSize = .ok c₀ := rfl
  have hs : Reachable c₀ (fun _ => True) _ :=
    .step (.load 0 b) trivial (.step (.getABI loc false) trivial .init rfl) rfl
  exact ⟨_, _, hnew, hs, rfl, abiCache_contents hnew hs loc d⟩

/-! ## One backend -/

/-- Every `Add` and every returned call agrees with what the backend `b` gives. -/
structure Agrees (b : Backend) (s : AbiCache) : Prop where
  added_eq : ∀ e ∈ s.added, loadABI b e.1 false = .found e.2
  calls_eq : ∀ c ∈ s.calls, ∀ r, c.pc = .done r → r = loadABI b c.location c.refresh

theorem Agrees.startCall {b : Backend} {size : Nat} {s : AbiCache} (ha : Agrees b s)
    (hi : Inv size s) (location : ABILocation) (refresh : Bool) :
    Agrees b (s.startCall location refresh) := by
  rcases startCall_cases s location refresh with ⟨cached, rfl, h, heq⟩ | ⟨-, heq⟩ <;> rw [heq]
  · have hadded := ha.added_eq _ (LRU.mem_of_lookup_eq_some (hi.tracks.find?_eq_some.mp h).2)
    refine ⟨ha.added_eq, fun c hc r hr => ?_⟩
    rcases List.mem_append.mp hc with hc | hc
    · exact ha.calls_eq c hc r hr
    · obtain rfl := List.mem_singleton.mp hc
      cases hr
      exact hadded.symm
  · refine ⟨ha.added_eq, fun c hc r hr => ?_⟩
    rcases List.mem_append.mp hc with hc | hc
    · exact ha.calls_eq c hc r hr
    · obtain rfl := List.mem_singleton.mp hc
      cases hr

theorem Agrees.finishLoad {b : Backend} (hb : b.Stable) {s : AbiCache} (ha : Agrees b s)
    (i : Nat) (c : AbiCall) : Agrees b (s.finishLoad i c (loadABI b c.location c.refresh)) := by
  have hcalls : ∀ r, r = loadABI b c.location c.refresh →
      ∀ c' ∈ s.calls.set i { c with pc := .done r }, ∀ r', c'.pc = .done r' →
        r' = loadABI b c'.location c'.refresh := by
    rintro r rfl c' hc' r' hr'
    rcases List.mem_or_eq_of_mem_set hc' with hc' | rfl
    · exact ha.calls_eq c' hc' r' hr'
    · cases hr'
      rfl
  cases hr : loadABI b c.location c.refresh with
  | found d =>
    refine ⟨fun e he => ?_, hcalls _ hr.symm⟩
    rcases List.mem_cons.mp he with rfl | he
    · exact (loadABI_stable hb _ _).symm.trans hr
    · exact ha.added_eq e he
  | _ => exact ⟨ha.added_eq, hcalls _ hr.symm⟩

/-- When every load sees one backend whose answers do not depend on `refresh`, the cache is
invisible: every call that has returned, from the cache or not, returned what the backend gives
for its location. -/
theorem abiCache_transparent {abiCache : LRU ABILocation DeployContractWithAddress}
    (hnew : LRU.new defaultABICacheSize = .ok abiCache) {b : Backend} (hb : b.Stable)
    {s : AbiCache} (hs : Reachable abiCache (· = b) s) :
    ∀ c ∈ s.calls, ∀ r, c.pc = .done r → r = loadABI b c.location c.refresh := by
  suffices h : Agrees b s from h.calls_eq
  induction hs with
  | init => exact ⟨fun _ h => (nomatch h), fun _ h => (nomatch h)⟩
  | step e he hs h ih =>
    cases e with
    | getABI location refresh => cases h; exact ih.startCall (hs.inv hnew) location refresh
    | load i b' =>
      cases he
      obtain ⟨c, -, -, rfl⟩ := step_load h
      exact ih.finishLoad hb i c

/-- A call that loads a factory, then one served from the cache: both return the factory. -/
theorem abiCache_transparent_sample :
    let d : DeployContractWithAddress := ⟨some ⟨"Factory", "", [], ""⟩, ""⟩
    let b : Backend := ⟨newContractStore Dir.empty,
      ⟨fun _ _ => (d.contract, none), fun _ _ => (none, none)⟩,
      ⟨fun _ => .error "", fun _ => .error ""⟩⟩
    ∃ abiCache s, LRU.new defaultABICacheSize = .ok abiCache ∧ b.Stable ∧
      Reachable abiCache (· = b) s ∧ s.calls.length = 2 ∧
      ∀ c ∈ s.calls, ∀ r, c.pc = .done r → r = loadABI b c.location c.refresh := by
  intro d b
  let loc : ABILocation := ⟨remoteGateway, "factory"⟩
  let c₀ : LRU ABILocation DeployContractWithAddress := ⟨25, [], List.nodup_nil, by decide⟩
  have hnew : LRU.new defaultABICacheSize = .ok c₀ := rfl
  have hb : b.Stable := fun _ _ => ⟨rfl, rfl⟩
  have hs : Reachable c₀ (· = b) _ := .step (.getABI loc false) trivial
    (.step (.load 0 b) rfl (.step (.getABI loc false) trivial .init rfl) rfl) rfl
  exact ⟨_, _, hnew, hb, hs, rfl, abiCache_transparent hnew hb hs⟩

end AbiCache

end Ethconnect.Contracts
