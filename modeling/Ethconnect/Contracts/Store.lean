import Mathlib.Data.List.Sort
import Mathlib.Data.String.Basic
import Mathlib.Logic.Function.Basic
import Ethconnect.Basic

/-!
# The local contract store

`contractStore` keeps three maps in memory, `contractIndex` by address,
`contractRegistrations` by friendly name and `abiIndex` by ABI id, and one file per contract
instance and per ABI under `conf.StoragePath`. `addToContractIndex` and `AddABI` change the
maps under `idxLock`, so each change is one step; `buildIndex` rebuilds them from the
directory at startup, migrating legacy swagger files into instance files on the way.

A file holds a `Document`: the JSON of a value, or anything else. Decoding a file with
`encoding/json` is a `Decoders` parameter. Go strings are modelled by Lean strings, which are
valid UTF-8; a Go string holding other bytes, which `encoding/json` rewrites to U+FFFD, is
outside the model. The file-system calls
are the environment's: how each one ends is part of the event. A panic (a failed `ext.(string)`
assertion in a migration) ends the process, so it has no successor state.

## Main results

* `StoreInv`: every registration is filed under its own name, and every index entry under its
  own address; every step keeps it.
* `friendlyName_bindings`: in every reachable state, no step changes a name's binding, and
  every `AddContract` or instance file that registers a bound name is refused with
  `RESTGatewayFriendlyNameClash`.
-/

namespace Ethconnect.Contracts

/-! ## Data -/

structure ContractStoreConf where
  storagePath : String
  baseURL : String

/-- `ContractInfo`. Of the embedded `messages.TimeSorted`, which is not among the repository's
files, the store sets only `CreatedISO8601`. -/
structure ContractInfo where
  createdISO8601 : String
  address : String
  path : String
  abi : String
  swaggerURL : String
  registeredAs : String
  deriving DecidableEq, Repr

/-- `ABIInfo`, with `CreatedISO8601` as for `ContractInfo`. -/
structure ABIInfo where
  createdISO8601 : String
  id : String
  name : String
  description : String
  path : String
  deployable : Bool
  swaggerURL : String
  compilerVersion : String
  deriving DecidableEq, Repr

/-- The fields of `messages.DeployContract` that `AddABI` reads. -/
structure DeployContract where
  contractName : String
  description : String
  compiled : List UInt8
  compilerVersion : String
  deriving DecidableEq, Repr

/-- The part of `spec.Swagger` a migration reads: `Info.Extensions`, or `none` for a nil
`Info`. -/
structure Swagger where
  info : Option JObj

/-- What a file holds. -/
inductive Document where
  /-- The JSON `json.MarshalIndent` writes for a `ContractInfo`. -/
  | contractInfo (info : ContractInfo)
  | deployContract (msg : DeployContract)
  | swagger (s : Swagger)
  | other (bytes : String)

/-- `json.NewDecoder(bufio.NewReader(file)).Decode(&v)` for the three types the index reads. -/
structure Decoders where
  contractInfo : Document → Option ContractInfo
  deployContract : Document → Option DeployContract
  swagger : Document → Option Swagger

/-- Decoders that accept only a document of their own type. -/
def strictDecoders : Decoders where
  contractInfo d := match d with
    | .contractInfo info => some info
    | _ => none
  deployContract d := match d with
    | .deployContract msg => some msg
    | _ => none
  swagger d := match d with
    | .swagger s => some s
    | _ => none

/-! ## The storage directory -/

/-- The files under `conf.StoragePath`, each name once. -/
structure Dir where
  entries : List (String × Document)
  names_nodup : (entries.map Prod.fst).Nodup

namespace Dir

def empty : Dir := ⟨[], List.nodup_nil⟩

def read (d : Dir) (name : String) : Option Document := d.entries.lookup name

/-- `os.Remove(name)`. -/
def remove (d : Dir) (name : String) : Dir :=
  ⟨d.entries.filter (·.1 != name), ((List.filter_sublist _).map _).nodup d.names_nodup⟩

/-- A completed `ioutil.WriteFile(name, doc)`. -/
def write (d : Dir) (name : String) (doc : Document) : Dir :=
  ⟨(name, doc) :: (d.remove name).entries,
    List.nodup_cons.mpr ⟨by simp [remove], (d.remove name).names_nodup⟩⟩

/-- `ioutil.ReadDir`: the names, sorted. -/
def readDir (d : Dir) : List String := (d.entries.map Prod.fst).insertionSort (· ≤ ·)

@[simp] theorem read_empty (name : String) : empty.read name = none := rfl

@[simp] theorem read_write (d : Dir) (name name' : String) (doc : Document) :
    (d.write name doc).read name' = if name' = name then some doc else d.read name' := by
  by_cases h : name' = name
  · subst h; simp [read, write, List.lookup_cons]
  · have hb : (name' == name) = false := by simpa using h
    simp only [read, write, remove, List.lookup_cons, hb, if_neg h]
    exact lookup_filter_ne d.entries h

theorem mem_names_write {d : Dir} {name name' : String} {doc : Document}
    (h : name' ∈ (d.write name doc).entries.map Prod.fst) :
    name' = name ∨ name' ∈ d.entries.map Prod.fst := by
  simp only [write, remove, List.map_cons, List.mem_cons, List.mem_map, List.mem_filter] at h
  rcases h with h | ⟨p, ⟨hp, -⟩, rfl⟩
  · exact .inl h
  · exact .inr (List.mem_map_of_mem _ hp)

theorem readDir_perm (d : Dir) : d.readDir.Perm (d.entries.map Prod.fst) :=
  List.perm_insertionSort _ _

theorem read_isSome_iff {d : Dir} {name : String} :
    (d.read name).isSome ↔ name ∈ d.entries.map Prod.fst := by
  rw [read, List.lookup_isSome_iff, List.mem_map]
  exact ⟨fun ⟨p, hp, h⟩ => ⟨p, hp, (beq_iff_eq.mp h).symm⟩,
    fun ⟨p, hp, h⟩ => ⟨p, hp, beq_iff_eq.mpr h.symm⟩⟩

end Dir

/-- How `ioutil.WriteFile` ends: written, or failed, leaving the file as it was (`none`) or
holding what was written of it. -/
inductive WriteOutcome where
  | ok
  | failed (err : String) (left : Option Document)

/-- The directory after `ioutil.WriteFile(name, doc)`, and the call's error. -/
def Dir.writeFile (d : Dir) (name : String) (doc : Document) : WriteOutcome → Dir × Option String
  | .ok => (d.write name doc, none)
  | .failed err none => (d, some err)
  | .failed err (some left) => (d.write name left, some err)

/-- What the file-system calls of one `buildIndex` run return. -/
structure FileOps where
  /-- `ioutil.ReadDir(conf.StoragePath)` succeeds. -/
  readDirOk : Bool
  /-- `os.OpenFile(name, os.O_RDONLY, 0)` succeeds on an existing file. -/
  openOk : String → Bool
  /-- `file.ModTime().UTC().Format(time.RFC3339)`. -/
  modTime : String → String
  /-- `time.Now().UTC().Format(time.RFC3339)` in a migration's `AddContract`. -/
  now : String
  /-- How `ioutil.WriteFile` of each instance file ends. -/
  write : String → WriteOutcome
  /-- `os.Remove(name)` succeeds. -/
  removeOk : String → Bool

/-- `os.OpenFile` then reading the file. -/
def FileOps.open (env : FileOps) (d : Dir) (name : String) : Option Document :=
  if env.openOk name then d.read name else none

/-! ## File names -/

/-- `[0-9a-z]`. -/
def isAddressChar (c : Char) : Bool := c.isDigit || c.isLower

/-- `^contract_([0-9a-z]{40})<suffix>$`, with `suffix` escaped: the group, when `fileName`
matches. -/
def matchContractFile (suffix fileName : String) : Option String :=
  let cs := fileName.toList
  let address := (cs.drop 9).take 40
  if cs = "contract_".toList ++ address ++ suffix.toList ∧ address.length = 40 ∧
      address.all isAddressChar then some (String.mk address) else none

/-- `legacyContractMatcher`: `^contract_([0-9a-z]{40})\.swagger\.json$`. -/
def legacyContractMatcher (fileName : String) : Option String :=
  matchContractFile ".swagger.json" fileName

/-- `instanceMatcher`: `^contract_([0-9a-z]{40})\.instance\.json$`. -/
def instanceMatcher (fileName : String) : Option String :=
  matchContractFile ".instance.json" fileName

/-- `abiMatcher`: `^abi_([0-9a-z-]+)\.deploy.json$`. The group holds no `.`, so it ends at the
first dot, and the dot before `json` is unescaped: any character but a newline. -/
def abiMatcher (fileName : String) : Option String :=
  let cs := fileName.toList
  let id := (cs.drop 4).take (cs.length - 16)
  let rest := cs.drop (4 + id.length)
  if cs.take 4 = "abi_".toList ∧ id ≠ [] ∧ id.all (fun c => isAddressChar c || c == '-') ∧
      rest.length = 12 ∧ rest.take 7 = ".deploy".toList ∧ rest[7]? ≠ some '\n' ∧
      rest.drop 8 = "json".toList then some (String.mk id) else none

/-- The instance file `storeContractInfo` writes for an address. -/
def instanceFileName (address : String) : String := "contract_" ++ address ++ ".instance.json"

/-! ## The store -/

/-- An `ethconnecterrors.Errorf` error: its message key and arguments. -/
structure StoreError where
  key : String
  args : List String
  deriving DecidableEq, Repr

/-- `RESTGatewayFriendlyNameClash`, with the address already registered and the name. -/
def friendlyNameClash (address registerAs : String) : StoreError :=
  ⟨"RESTGatewayFriendlyNameClash", [address, registerAs]⟩

structure ContractStore where
  contractIndex : String → Option ContractInfo
  contractRegistrations : String → Option ContractInfo
  abiIndex : String → Option ABIInfo
  /-- The files under `conf.StoragePath`. -/
  storage : Dir

/-- `NewContractStore` over a storage directory. -/
def newContractStore (storage : Dir) : ContractStore :=
  ⟨fun _ => none, fun _ => none, fun _ => none, storage⟩

namespace ContractStore

/-- `CheckNameAvailable(registerAs, false)`. -/
def checkNameAvailable (cs : ContractStore) (registerAs : String) : Except StoreError Unit :=
  match cs.contractRegistrations registerAs with
  | some existing => .error (friendlyNameClash existing.address registerAs)
  | none => .ok ()

/-- `cs.contractRegistrations[info.RegisteredAs] = info`. -/
def register (cs : ContractStore) (info : ContractInfo) : ContractStore :=
  { cs with contractRegistrations :=
      Function.update cs.contractRegistrations info.registeredAs (some info) }

/-- `cs.contractIndex[info.Address] = info`. -/
def index (cs : ContractStore) (info : ContractInfo) : ContractStore :=
  { cs with contractIndex := Function.update cs.contractIndex info.address (some info) }

@[simp] theorem register_contractIndex (cs : ContractStore) (info : ContractInfo) :
    (cs.register info).contractIndex = cs.contractIndex := rfl

@[simp] theorem register_contractRegistrations (cs : ContractStore) (info : ContractInfo) :
    (cs.register info).contractRegistrations =
      Function.update cs.contractRegistrations info.registeredAs (some info) := rfl

@[simp] theorem register_abiIndex (cs : ContractStore) (info : ContractInfo) :
    (cs.register info).abiIndex = cs.abiIndex := rfl

@[simp] theorem register_storage (cs : ContractStore) (info : ContractInfo) :
    (cs.register info).storage = cs.storage := rfl

@[simp] theorem index_contractIndex (cs : ContractStore) (info : ContractInfo) :
    (cs.index info).contractIndex = Function.update cs.contractIndex info.address (some info) :=
  rfl

@[simp] theorem index_contractRegistrations (cs : ContractStore) (info : ContractInfo) :
    (cs.index info).contractRegistrations = cs.contractRegistrations := rfl

@[simp] theorem index_abiIndex (cs : ContractStore) (info : ContractInfo) :
    (cs.index info).abiIndex = cs.abiIndex := rfl

@[simp] theorem index_storage (cs : ContractStore) (info : ContractInfo) :
    (cs.index info).storage = cs.storage := rfl

/-- `addToContractIndex`, run under `idxLock`. -/
def addToContractIndex (cs : ContractStore) (info : ContractInfo) :
    Except StoreError ContractStore :=
  if info.registeredAs ≠ "" then
    match cs.checkNameAvailable info.registeredAs with
    | .error e => .error e
    | .ok () => .ok ((cs.register info).index info)
  else .ok (cs.index info)

/-- `storeContractInfo` with `ioutil.WriteFile`'s outcome: the result and the state after. The
index is updated before the write, so a failed write leaves it updated. -/
def storeContractInfo (cs : ContractStore) (w : WriteOutcome) (info : ContractInfo) :
    Except StoreError Unit × ContractStore :=
  match cs.addToContractIndex info with
  | .error e => (.error e, cs)
  | .ok cs' =>
    match cs'.storage.writeFile (instanceFileName info.address) (.contractInfo info) w with
    | (storage, none) => (.ok (), { cs' with storage })
    | (storage, some err) =>
      (.error ⟨"RESTGatewayLocalStoreContractSave", [err]⟩, { cs' with storage })

/-- The `ContractInfo` that `AddContract` builds; `created` is `time.Now()` formatted. -/
def newContractInfo (conf : ContractStoreConf)
    (created addrHexNo0x abiID pathName registerAs : String) : ContractInfo where
  createdISO8601 := created
  address := addrHexNo0x
  path := "/contracts/" ++ pathName
  abi := abiID
  swaggerURL := conf.baseURL ++ "/contracts/" ++ pathName ++ "?swagger"
  registeredAs := registerAs

@[simp] theorem newContractInfo_address (conf : ContractStoreConf)
    (created addrHexNo0x abiID pathName registerAs : String) :
    (newContractInfo conf created addrHexNo0x abiID pathName registerAs).address = addrHexNo0x :=
  rfl

@[simp] theorem newContractInfo_registeredAs (conf : ContractStoreConf)
    (created addrHexNo0x abiID pathName registerAs : String) :
    (newContractInfo conf created addrHexNo0x abiID pathName registerAs).registeredAs =
      registerAs := rfl

/-- `AddContract(addrHexNo0x, abiID, pathName, registerAs)`. -/
def addContract (conf : ContractStoreConf) (cs : ContractStore) (w : WriteOutcome)
    (created addrHexNo0x abiID pathName registerAs : String) :
    Except StoreError ContractInfo × ContractStore :=
  let contractInfo := newContractInfo conf created addrHexNo0x abiID pathName registerAs
  match cs.storeContractInfo w contractInfo with
  | (.error e, cs') => (.error e, cs')
  | (.ok (), cs') => (.ok contractInfo, cs')

/-- `AddABI(id, deployMsg, createdTime)`, with `createdTime` formatted. -/
def addABI (conf : ContractStoreConf) (cs : ContractStore) (id : String)
    (deployMsg : DeployContract) (createdTime : String) : ABIInfo × ContractStore :=
  let info : ABIInfo :=
    { id
      name := deployMsg.contractName
      description := deployMsg.description
      deployable := 0 < deployMsg.compiled.length
      compilerVersion := deployMsg.compilerVersion
      path := "/abis/" ++ id
      swaggerURL := conf.baseURL ++ "/abis/" ++ id ++ "?swagger"
      createdISO8601 := createdTime }
  (info, { cs with abiIndex := Function.update cs.abiIndex id (some info) })

/-! ## Rebuilding the index -/

/-- `ext.(string)`: the string, or `none` for the panic of a failed assertion. -/
def assertString : JVal → Option String
  | .str s => some s
  | _ => none

/-- The `registeredAs` of a migration: `""` without the extension. -/
def registeredNameOf (ext : JObj) : Option String :=
  match ext.get "x-firefly-registered-name" with
  | some v => assertString v
  | none => some ""

/-- `migrateLegacyContract(address, fileName, createdTime)`; `createdTime` is not used, and
`none` is a panic. -/
def migrateLegacyContract (conf : ContractStoreConf) (dec : Decoders) (env : FileOps)
    (cs : ContractStore) (address fileName : String) : Option ContractStore :=
  match (env.open cs.storage fileName).bind dec.swagger with
  | none => some cs
  | some swagger =>
    match swagger.info with
    | none => some cs
    | some ext =>
      (registeredNameOf ext).bind fun registeredAs =>
      match ext.get "x-firefly-deployment-id" with
      | none => some cs
      | some v => (assertString v).map fun abiID =>
        match cs.addContract conf (env.write (instanceFileName address)) env.now address abiID
            address registeredAs with
        | (.error _, cs') => cs'
        | (.ok _, cs') =>
          if env.removeOk fileName then { cs' with storage := cs'.storage.remove fileName }
          else cs'

/-- `addFileToContractIndex(address, fileName)`; the captured `address` is not used, and a
failed `addToContractIndex` is only logged. -/
def addFileToContractIndex (dec : Decoders) (env : FileOps) (cs : ContractStore)
    (fileName : String) : ContractStore :=
  match (env.open cs.storage fileName).bind dec.contractInfo with
  | none => cs
  | some contractInfo =>
    match cs.addToContractIndex contractInfo with
    | .ok cs' => cs'
    | .error _ => cs

/-- `addFileToABIIndex(id, fileName, createdTime)`. -/
def addFileToABIIndex (conf : ContractStoreConf) (dec : Decoders) (env : FileOps)
    (cs : ContractStore) (id fileName : String) : ContractStore :=
  match (env.open cs.storage fileName).bind dec.deployContract with
  | none => cs
  | some deployMsg => (cs.addABI conf id deployMsg (env.modTime fileName)).2

/-- One iteration of `buildIndex`'s loop. -/
def indexFile (conf : ContractStoreConf) (dec : Decoders) (env : FileOps) (cs : ContractStore)
    (fileName : String) : Option ContractStore :=
  match legacyContractMatcher fileName, instanceMatcher fileName, abiMatcher fileName with
  | some address, _, _ => cs.migrateLegacyContract conf dec env address fileName
  | none, some _, _ => some (cs.addFileToContractIndex dec env fileName)
  | none, none, some id => some (cs.addFileToABIIndex conf dec env id fileName)
  | none, none, none => some cs

def indexFiles (conf : ContractStoreConf) (dec : Decoders) (env : FileOps) :
    ContractStore → List String → Option ContractStore
  | cs, [] => some cs
  | cs, fileName :: files =>
    (cs.indexFile conf dec env fileName).bind fun cs' => cs'.indexFiles conf dec env files

/-- `buildIndex`: the files `ioutil.ReadDir` listed, in order. -/
def buildIndex (conf : ContractStoreConf) (dec : Decoders) (env : FileOps) (cs : ContractStore) :
    Option ContractStore :=
  if env.readDirOk then cs.indexFiles conf dec env cs.storage.readDir else some cs

end ContractStore

/-! ## Runs -/

inductive StoreEvent where
  | addContract (w : WriteOutcome) (created addrHexNo0x abiID pathName registerAs : String)
  | addABI (id : String) (deployMsg : DeployContract) (createdTime : String)
  | buildIndex (env : FileOps)

namespace ContractStore

section Runs

variable (conf : ContractStoreConf) (dec : Decoders)

def step (cs : ContractStore) : StoreEvent → Option ContractStore
  | .addContract w created addrHexNo0x abiID pathName registerAs =>
    some (cs.addContract conf w created addrHexNo0x abiID pathName registerAs).2
  | .addABI id deployMsg createdTime => some (cs.addABI conf id deployMsg createdTime).2
  | .buildIndex env => cs.buildIndex conf dec env

/-- The states reachable from an empty store over any storage directory. -/
inductive Reachable : ContractStore → Prop
  | init (storage : Dir) : Reachable (newContractStore storage)
  | step {cs cs' : ContractStore} (e : StoreEvent) : Reachable cs → cs.step conf dec e = some cs' →
      Reachable cs'

end Runs

/-! ## The invariant -/

structure StoreInv (cs : ContractStore) : Prop where
  registered_as : ∀ n info, cs.contractRegistrations n = some info → info.registeredAs = n
  unnamed_free : cs.contractRegistrations "" = none
  indexed_at : ∀ a info, cs.contractIndex a = some info → info.address = a

/-- `cs'` keeps every binding of a name that `cs` has. -/
def Keeps (cs cs' : ContractStore) : Prop :=
  ∀ n info, cs.contractRegistrations n = some info → cs'.contractRegistrations n = some info

theorem keeps_refl (cs : ContractStore) : Keeps cs cs := fun _ _ h => h

theorem Keeps.trans {cs₁ cs₂ cs₃ : ContractStore} (h₁ : Keeps cs₁ cs₂) (h₂ : Keeps cs₂ cs₃) :
    Keeps cs₁ cs₃ := fun n info h => h₂ n info (h₁ n info h)

theorem storeInv_new (storage : Dir) : StoreInv (newContractStore storage) :=
  ⟨fun _ _ h => (nomatch h), rfl, fun _ _ h => (nomatch h)⟩

/-- A change that leaves both contract maps as they were (a file written or removed, an ABI
indexed) keeps the invariant and every binding. -/
theorem storeInv_of_maps {cs₀ cs cs' : ContractStore} (hs : StoreInv cs ∧ Keeps cs₀ cs)
    (hi : cs'.contractIndex = cs.contractIndex)
    (hr : cs'.contractRegistrations = cs.contractRegistrations) : StoreInv cs' ∧ Keeps cs₀ cs' :=
  ⟨⟨hr ▸ hs.1.registered_as, hr ▸ hs.1.unnamed_free, hi ▸ hs.1.indexed_at⟩,
    fun n i h => hr ▸ hs.2 n i h⟩

/-- What `addToContractIndex` can do: index an unnamed contract, register and index a contract
under a free name, or refuse a bound name. -/
theorem addToContractIndex_cases (cs : ContractStore) (info : ContractInfo) :
    (info.registeredAs = "" ∧ cs.addToContractIndex info = .ok (cs.index info)) ∨
    (info.registeredAs ≠ "" ∧ cs.contractRegistrations info.registeredAs = none ∧
      cs.addToContractIndex info = .ok ((cs.register info).index info)) ∨
    (∃ existing, info.registeredAs ≠ "" ∧
      cs.contractRegistrations info.registeredAs = some existing ∧
      cs.addToContractIndex info = .error (friendlyNameClash existing.address info.registeredAs)) := by
  by_cases hn : info.registeredAs = ""
  · exact .inl ⟨hn, by simp [addToContractIndex, hn]⟩
  · cases hr : cs.contractRegistrations info.registeredAs with
    | none => exact .inr (.inl ⟨hn, rfl, by simp [addToContractIndex, checkNameAvailable, hn, hr]⟩)
    | some existing =>
      exact .inr (.inr ⟨existing, hn, rfl, by simp [addToContractIndex, checkNameAvailable, hn, hr]⟩)

theorem storeInv_index {cs : ContractStore} (hs : StoreInv cs) (info : ContractInfo) :
    StoreInv (cs.index info) := by
  refine ⟨hs.registered_as, hs.unnamed_free, fun a i h => ?_⟩
  rw [index_contractIndex, Function.update_apply] at h
  split_ifs at h with ha
  · cases h; exact ha.symm
  · exact hs.indexed_at a i h

theorem storeInv_addToContractIndex {cs cs' : ContractStore} (hs : StoreInv cs)
    {info : ContractInfo} (h : cs.addToContractIndex info = .ok cs') :
    StoreInv cs' ∧ Keeps cs cs' := by
  rcases addToContractIndex_cases cs info with ⟨-, he⟩ | ⟨hn, hfree, he⟩ | ⟨_, -, -, he⟩
  · rw [he] at h; cases h
    exact ⟨storeInv_index hs info, keeps_refl cs⟩
  · rw [he] at h; cases h
    have hreg : StoreInv (cs.register info) := by
      refine ⟨fun n i h => ?_, ?_, hs.indexed_at⟩
      · rw [register_contractRegistrations, Function.update_apply] at h
        split_ifs at h with hni
        · cases h; exact hni.symm
        · exact hs.registered_as n i h
      · simpa [Function.update_apply, Ne.symm hn] using hs.unnamed_free
    refine ⟨storeInv_index hreg info, fun n i h => ?_⟩
    have hne : n ≠ info.registeredAs := by rintro rfl; rw [hfree] at h; cases h
    simpa [Function.update_apply, hne] using h
  · rw [he] at h; cases h

theorem storeInv_storeContractInfo {cs : ContractStore} (hs : StoreInv cs) (w : WriteOutcome)
    (info : ContractInfo) :
    StoreInv (cs.storeContractInfo w info).2 ∧ Keeps cs (cs.storeContractInfo w info).2 := by
  unfold storeContractInfo
  split
  · exact ⟨hs, keeps_refl cs⟩
  · rename_i cs' h
    obtain ⟨hs', hk⟩ := storeInv_addToContractIndex hs h
    split <;> exact storeInv_of_maps ⟨hs', hk⟩ rfl rfl

/-- `AddContract` leaves the state `storeContractInfo` leaves. -/
theorem addContract_snd (conf : ContractStoreConf) (cs : ContractStore) (w : WriteOutcome)
    (created addrHexNo0x abiID pathName registerAs : String) :
    (cs.addContract conf w created addrHexNo0x abiID pathName registerAs).2 =
      (cs.storeContractInfo w (newContractInfo conf created addrHexNo0x abiID pathName registerAs)).2 := by
  unfold addContract
  dsimp only
  split <;> rename_i heq <;> rw [heq]

/-- A contract the index accepts is written to its instance file and returned. -/
theorem addContract_of_ok {conf : ContractStoreConf} {cs cs₁ : ContractStore}
    {created addrHexNo0x abiID pathName registerAs : String}
    (h : cs.addToContractIndex
      (newContractInfo conf created addrHexNo0x abiID pathName registerAs) = .ok cs₁) :
    cs.addContract conf .ok created addrHexNo0x abiID pathName registerAs =
      (.ok (newContractInfo conf created addrHexNo0x abiID pathName registerAs),
        { cs₁ with storage := (cs₁.storage.write (instanceFileName addrHexNo0x)
            (.contractInfo (newContractInfo conf created addrHexNo0x abiID pathName registerAs))) }) := by
  simp [addContract, storeContractInfo, h, Dir.writeFile]

/-- A contract the index refuses is refused with the index's error, and nothing changes. -/
theorem addContract_of_error {conf : ContractStoreConf} {cs : ContractStore} {e : StoreError}
    {w : WriteOutcome} {created addrHexNo0x abiID pathName registerAs : String}
    (h : cs.addToContractIndex
      (newContractInfo conf created addrHexNo0x abiID pathName registerAs) = .error e) :
    cs.addContract conf w created addrHexNo0x abiID pathName registerAs = (.error e, cs) := by
  simp [addContract, storeContractInfo, h]

theorem storeInv_addContract {cs : ContractStore} (hs : StoreInv cs) (conf : ContractStoreConf)
    (w : WriteOutcome) (created addrHexNo0x abiID pathName registerAs : String) :
    StoreInv (cs.addContract conf w created addrHexNo0x abiID pathName registerAs).2 ∧
      Keeps cs (cs.addContract conf w created addrHexNo0x abiID pathName registerAs).2 := by
  rw [addContract_snd]
  exact storeInv_storeContractInfo hs w _

theorem storeInv_migrateLegacyContract {cs cs' : ContractStore} (hs : StoreInv cs)
    {conf : ContractStoreConf} {dec : Decoders} {env : FileOps} {address fileName : String}
    (h : cs.migrateLegacyContract conf dec env address fileName = some cs') :
    StoreInv cs' ∧ Keeps cs cs' := by
  unfold migrateLegacyContract at h
  split at h
  · cases h; exact ⟨hs, keeps_refl cs⟩
  split at h
  · cases h; exact ⟨hs, keeps_refl cs⟩
  obtain ⟨registeredAs, -, h⟩ := Option.bind_eq_some.mp h
  split at h
  · cases h; exact ⟨hs, keeps_refl cs⟩
  obtain ⟨abiID, -, h⟩ := Option.map_eq_some'.mp h
  obtain ⟨hs', hk⟩ := storeInv_addContract hs conf (env.write (instanceFileName address)) env.now
    address abiID address registeredAs
  split at h <;> rename_i heq <;> rw [heq] at hs' hk <;> subst h
  · exact ⟨hs', hk⟩
  · split
    · exact storeInv_of_maps ⟨hs', hk⟩ rfl rfl
    · exact ⟨hs', hk⟩

theorem storeInv_indexFile {cs cs' : ContractStore} (hs : StoreInv cs)
    {conf : ContractStoreConf} {dec : Decoders} {env : FileOps} {fileName : String}
    (h : cs.indexFile conf dec env fileName = some cs') : StoreInv cs' ∧ Keeps cs cs' := by
  unfold indexFile at h
  split at h
  · exact storeInv_migrateLegacyContract hs h
  · cases h
    unfold addFileToContractIndex
    split
    · exact ⟨hs, keeps_refl cs⟩
    · split
      · rename_i hadd; exact storeInv_addToContractIndex hs hadd
      · exact ⟨hs, keeps_refl cs⟩
  · cases h
    unfold addFileToABIIndex
    split
    · exact ⟨hs, keeps_refl cs⟩
    · exact storeInv_of_maps ⟨hs, keeps_refl cs⟩ rfl rfl
  · cases h; exact ⟨hs, keeps_refl cs⟩

theorem storeInv_indexFiles {conf : ContractStoreConf} {dec : Decoders} {env : FileOps} :
    ∀ {cs cs' : ContractStore} (files : List String), StoreInv cs →
      cs.indexFiles conf dec env files = some cs' → StoreInv cs' ∧ Keeps cs cs'
  | cs, _, [], hs, h => by cases h; exact ⟨hs, keeps_refl cs⟩
  | _, _, _ :: files, hs, h => by
    obtain ⟨cs₁, h₁, h⟩ := Option.bind_eq_some.mp h
    obtain ⟨hs₁, hk₁⟩ := storeInv_indexFile hs h₁
    obtain ⟨hs', hk⟩ := storeInv_indexFiles files hs₁ h
    exact ⟨hs', hk₁.trans hk⟩

theorem storeInv_step {conf : ContractStoreConf} {dec : Decoders} {cs cs' : ContractStore}
    (hs : StoreInv cs) {e : StoreEvent} (h : cs.step conf dec e = some cs') :
    StoreInv cs' ∧ Keeps cs cs' := by
  cases e with
  | addContract w created addrHexNo0x abiID pathName registerAs =>
    cases h; exact storeInv_addContract hs conf w created addrHexNo0x abiID pathName registerAs
  | addABI id deployMsg createdTime => cases h; exact storeInv_of_maps ⟨hs, keeps_refl cs⟩ rfl rfl
  | buildIndex env =>
    change cs.buildIndex conf dec env = some cs' at h
    unfold buildIndex at h
    split at h
    · exact storeInv_indexFiles _ hs h
    · cases h; exact ⟨hs, keeps_refl cs⟩

theorem Reachable.storeInv {conf : ContractStoreConf} {dec : Decoders} {cs : ContractStore}
    (h : Reachable conf dec cs) : StoreInv cs := by
  induction h with
  | init storage => exact storeInv_new storage
  | step e _ hstep ih => exact (storeInv_step ih hstep).1

/-! ## Refusing a bound name -/

theorem addToContractIndex_clash {cs : ContractStore} (hs : StoreInv cs) {n : String}
    {existing : ContractInfo} (hb : cs.contractRegistrations n = some existing)
    {info : ContractInfo} (hn : info.registeredAs = n) :
    cs.addToContractIndex info = .error (friendlyNameClash existing.address n) := by
  subst hn
  rcases addToContractIndex_cases cs info with ⟨he, -⟩ | ⟨-, hfree, -⟩ | ⟨e, -, he, h⟩
  · rw [he, hs.unnamed_free] at hb; cases hb
  · rw [hfree] at hb; cases hb
  · rw [hb] at he; cases he; exact h

theorem addContract_clash {cs : ContractStore} (hs : StoreInv cs) {n : String}
    {existing : ContractInfo} (hb : cs.contractRegistrations n = some existing)
    (conf : ContractStoreConf) (w : WriteOutcome) (created addrHexNo0x abiID pathName : String) :
    cs.addContract conf w created addrHexNo0x abiID pathName n =
      (.error (friendlyNameClash existing.address n), cs) := by
  exact addContract_of_error (addToContractIndex_clash hs hb rfl)

/-- Friendly names are unique and never rebound: in every reachable state each registration is
filed under its own name and each index entry under its own address; no step changes a bound
name; and while `n` is bound, every `AddContract` registering `n` fails with
`RESTGatewayFriendlyNameClash` and changes nothing, as does every instance file registering `n`
that `buildIndex` reads. -/
theorem friendlyName_bindings (conf : ContractStoreConf) (dec : Decoders) {cs : ContractStore}
    (hs : Reachable conf dec cs) :
    (∀ n info, cs.contractRegistrations n = some info → info.registeredAs = n) ∧
    (∀ a info, cs.contractIndex a = some info → info.address = a) ∧
    (∀ e cs', cs.step conf dec e = some cs' → ∀ n info,
      cs.contractRegistrations n = some info → cs'.contractRegistrations n = some info) ∧
    (∀ n existing, cs.contractRegistrations n = some existing →
      (∀ w created addrHexNo0x abiID pathName,
        cs.addContract conf w created addrHexNo0x abiID pathName n =
          (.error (friendlyNameClash existing.address n), cs)) ∧
      (∀ info : ContractInfo, info.registeredAs = n →
        cs.addToContractIndex info = .error (friendlyNameClash existing.address n))) := by
  have hinv := hs.storeInv
  exact ⟨hinv.registered_as, hinv.indexed_at, fun e cs' h => (storeInv_step hinv h).2,
    fun n existing hb => ⟨fun w created a abi p => addContract_clash hinv hb conf w created a abi p,
      fun info hn => addToContractIndex_clash hinv hb hn⟩⟩

/-- A configuration and two addresses for the runs below. -/
def sampleConf : ContractStoreConf := ⟨"contracts", ""⟩

def sampleAddress : String := "4b1d4b1d4b1d4b1d4b1d4b1d4b1d4b1d4b1d4b1d"

def otherAddress : String := "0000000000000000000000000000000000000001"

/-- After registering one contract as `erc20`, a second contract asking for the name is
refused and the store is left as it was. -/
theorem friendlyName_bindings_sample :
    ∃ cs : ContractStore, Reachable sampleConf strictDecoders cs ∧
      cs.contractRegistrations "erc20" =
        some (newContractInfo sampleConf "t0" sampleAddress "abi-1" "erc20" "erc20") ∧
      cs.addContract sampleConf .ok "t1" otherAddress "abi-1" "token" "erc20" =
        (.error (friendlyNameClash sampleAddress "erc20"), cs) := by
  have h : Reachable sampleConf strictDecoders _ :=
    .step (.addContract .ok "t0" sampleAddress "abi-1" "erc20" "erc20") (.init .empty) rfl
  exact ⟨_, h, rfl, ((friendlyName_bindings sampleConf strictDecoders h).2.2.2 "erc20"
    (newContractInfo sampleConf "t0" sampleAddress "abi-1" "erc20" "erc20") rfl).1 .ok "t1"
    otherAddress "abi-1" "token"⟩

end ContractStore

end Ethconnect.Contracts
