import Ethconnect.Contracts.Store

/-!
# Restarting the contract store

A run of `AddContract` calls that all succeed leaves the live maps and a directory holding one
instance file per address, with the last contract added at that address. A fresh store whose
`buildIndex` reads that directory indexes every file's contract again, whatever order the files
come in.

The index comes back as it was. The registrations come back exactly when every registered
contract is still the one indexed at its address: registering a second contract at an address
overwrites the address's instance file, and the first contract's name, still live in memory,
is not in any file (`restart_rebuilds_index`, `restart_forgets_reregistered_name`).

The rebuild reads each contract back through `json.Decode`, so it relies on `encoding/json`
decoding a `ContractInfo` that `json.MarshalIndent` wrote back to itself. That holds of Go strings
that are valid UTF-8, which are the strings the model has, and is a hypothesis of the results
below.
-/

namespace Ethconnect.Contracts

/-- Forty lowercase hex digits. -/
def hexDigits : List Char := "0123456789abcdef".toList

def isHexAddress (a : String) : Bool :=
  a.toList.length == 40 && a.toList.all (· ∈ hexDigits)

/-- The arguments of one `AddContract` call, with `time.Now()` formatted as `created`. -/
structure AddContractCall where
  created : String
  addrHexNo0x : String
  abiID : String
  pathName : String
  registerAs : String

namespace ContractStore

/-- A sequence of `AddContract` calls whose writes complete, up to the first error. -/
def addContracts (conf : ContractStoreConf) : ContractStore → List AddContractCall →
    Except StoreError ContractStore
  | cs, [] => .ok cs
  | cs, c :: calls =>
    match cs.addContract conf .ok c.created c.addrHexNo0x c.abiID c.pathName c.registerAs with
    | (.ok _, cs') => addContracts conf cs' calls
    | (.error e, _) => .error e

/-! ## Instance file names -/

theorem instanceFileName_toList (a : String) :
    (instanceFileName a).toList = "contract_".toList ++ a.toList ++ ".instance.json".toList := rfl

theorem instanceFileName_inj {a b : String} (h : instanceFileName a = instanceFileName b) :
    a = b := by
  have := congrArg String.toList h
  rw [instanceFileName_toList, instanceFileName_toList] at this
  exact String.ext (List.append_cancel_left (List.append_cancel_right this))

theorem mem_cons_instanceFileName {a a' : String} {done : List String} :
    instanceFileName a' ∈ instanceFileName a :: done ↔ a' = a ∨ instanceFileName a' ∈ done := by
  rw [List.mem_cons]
  exact or_congr_left ⟨instanceFileName_inj, congrArg _⟩

theorem isAddressChar_of_hex : ∀ c ∈ hexDigits, isAddressChar c = true := by decide

/-- The instance file of an address is read as such, and not as a legacy swagger file. -/
theorem matchers_instanceFileName {a : String} (ha : isHexAddress a) :
    legacyContractMatcher (instanceFileName a) = none ∧
      instanceMatcher (instanceFileName a) = some a := by
  simp only [isHexAddress, Bool.and_eq_true, beq_iff_eq, List.all_eq_true,
    decide_eq_true_eq] at ha
  have hgroup : (("contract_".toList ++ a.toList ++ ".instance.json".toList).drop 9).take 40 =
      a.toList := by
    rw [List.append_assoc, List.drop_left' (show "contract_".toList.length = 9 from rfl),
      List.take_left' ha.1]
  have hchars : a.toList.all isAddressChar = true :=
    List.all_eq_true.mpr fun c hc => isAddressChar_of_hex c (ha.2 c hc)
  constructor
  · simp only [legacyContractMatcher, matchContractFile, instanceFileName_toList, hgroup]
    rw [if_neg]
    rintro ⟨h, -⟩
    exact absurd (List.append_cancel_left h) (by decide)
  · simp only [instanceMatcher, matchContractFile, instanceFileName_toList, hgroup]
    rw [if_pos ⟨trivial, ha.1, hchars⟩]
    rfl

/-! ## The live store -/

/-- What successful `AddContract` calls leave: the store invariant, each indexed contract in its
address's instance file and nothing else in the directory, each indexed named contract
registered, and no ABI. -/
structure LiveInv (cs : ContractStore) : Prop where
  store : StoreInv cs
  files : ∀ a, cs.storage.read (instanceFileName a) = (cs.contractIndex a).map .contractInfo
  names : ∀ name ∈ cs.storage.entries.map Prod.fst, ∃ a, name = instanceFileName a ∧ isHexAddress a
  indexed_registered : ∀ a info, cs.contractIndex a = some info → info.registeredAs ≠ "" →
    cs.contractRegistrations info.registeredAs = some info
  abis : ∀ id, cs.abiIndex id = none

theorem liveInv_new : LiveInv (newContractStore .empty) :=
  ⟨storeInv_new _, fun _ => rfl, fun _ h => (nomatch h), fun _ _ h => (nomatch h),
    fun _ => rfl⟩

/-- A contract the index accepted, at a hex address, written to its instance file. -/
theorem liveInv_add {cs cs₁ : ContractStore} (hs : LiveInv cs) {info : ContractInfo}
    (hhex : isHexAddress info.address) (h : cs.addToContractIndex info = .ok cs₁) :
    LiveInv { cs₁ with storage :=
      (cs₁.storage.write (instanceFileName info.address) (.contractInfo info)) } := by
  obtain ⟨hs₁, hk⟩ := storeInv_addToContractIndex hs.store h
  have hcases : cs₁ = cs.index info ∧ info.registeredAs = "" ∨
      cs₁ = (cs.register info).index info ∧ info.registeredAs ≠ "" := by
    rcases addToContractIndex_cases cs info with ⟨hn, he⟩ | ⟨hn, -, he⟩ | ⟨_, -, -, he⟩ <;>
      rw [he] at h <;> cases h
    · exact .inl ⟨rfl, hn⟩
    · exact .inr ⟨rfl, hn⟩
  have hidx : cs₁.contractIndex = Function.update cs.contractIndex info.address (some info) := by
    rcases hcases with ⟨rfl, -⟩ | ⟨rfl, -⟩ <;> rfl
  have hsto : cs₁.storage = cs.storage := by rcases hcases with ⟨rfl, -⟩ | ⟨rfl, -⟩ <;> rfl
  refine ⟨⟨hs₁.registered_as, hs₁.unnamed_free, hs₁.indexed_at⟩, fun a => ?_, fun name hname => ?_,
    fun a i hi hn => ?_, fun id => ?_⟩
  · simp only [Dir.read_write, hidx, hsto, Function.update_apply]
    by_cases ha : a = info.address
    · simp [ha]
    · simp [ha, mt instanceFileName_inj ha, hs.files a]
  · rcases Dir.mem_names_write hname with rfl | hname
    · exact ⟨_, rfl, hhex⟩
    · exact hs.names name (hsto ▸ hname)
  · change cs₁.contractIndex a = some i at hi
    rw [hidx, Function.update_apply] at hi
    split_ifs at hi with ha
    · cases hi
      rcases hcases with ⟨-, hn'⟩ | ⟨rfl, -⟩
      · exact absurd hn' hn
      · simp
    · exact hk _ _ (hs.indexed_registered a i hi hn)
  · rcases hcases with ⟨rfl, -⟩ | ⟨rfl, -⟩ <;> exact hs.abis id

theorem liveInv_addContracts (conf : ContractStoreConf) :
    ∀ (calls : List AddContractCall) {cs live : ContractStore}, LiveInv cs →
      (∀ c ∈ calls, isHexAddress c.addrHexNo0x) → cs.addContracts conf calls = .ok live →
      LiveInv live
  | [], _, _, hs, _, h => by cases h; exact hs
  | c :: calls, cs, _, hs, hhex, h => by
    simp only [addContracts] at h
    cases hadd : cs.addToContractIndex
        (newContractInfo conf c.created c.addrHexNo0x c.abiID c.pathName c.registerAs) with
    | error e => rw [addContract_of_error hadd] at h; cases h
    | ok cs₁ =>
      rw [addContract_of_ok hadd] at h
      exact liveInv_addContracts conf calls (liveInv_add hs (hhex c (List.mem_cons_self _ _)) hadd)
        (fun c' hc' => hhex c' (List.mem_cons_of_mem _ hc')) h

/-! ## The rebuild -/

/-- The rebuild has read the files `done` of the live store's directory. -/
structure Rebuilding (live : ContractStore) (done : List String) (cs : ContractStore) : Prop where
  storage : cs.storage = live.storage
  abis : ∀ id, cs.abiIndex id = none
  index_iff : ∀ a info, cs.contractIndex a = some info ↔
    instanceFileName a ∈ done ∧ live.contractIndex a = some info
  registrations_iff : ∀ n info, cs.contractRegistrations n = some info ↔
    instanceFileName info.address ∈ done ∧ live.contractIndex info.address = some info ∧
      info.registeredAs = n ∧ n ≠ ""

section Rebuild

variable (conf : ContractStoreConf) (dec : Decoders) {env : FileOps} {live : ContractStore}
  (hjson : ∀ info, dec.contractInfo (.contractInfo info) = some info)

theorem rebuilding_new : Rebuilding live [] (newContractStore live.storage) :=
  ⟨rfl, fun _ => rfl, fun _ _ => by simp [newContractStore], fun _ _ => by simp [newContractStore]⟩

/-- Indexing the contract of the file of address `a`, read once. -/
theorem rebuilding_index {done : List String} {cs : ContractStore} (hr : Rebuilding live done cs)
    {info : ContractInfo} (hinfo : live.contractIndex info.address = some info) (a : String)
    (i : ContractInfo) :
    (cs.index info).contractIndex a = some i ↔
      instanceFileName a ∈ instanceFileName info.address :: done ∧ live.contractIndex a = some i := by
  rw [mem_cons_instanceFileName, index_contractIndex, Function.update_apply]
  split_ifs with ha
  · subst ha; rw [hinfo]; simp
  · rw [hr.index_iff]; simp [ha]

/-- Reading the file of `info` leaves the registrations of every other name as they were. -/
theorem rebuilding_registration_other {done : List String} {cs : ContractStore}
    (hr : Rebuilding live done cs) {info : ContractInfo}
    (hinfo : live.contractIndex info.address = some info) {n : String}
    (hn : ¬(info.registeredAs = n ∧ n ≠ "")) (i : ContractInfo) :
    cs.contractRegistrations n = some i ↔
      instanceFileName i.address ∈ instanceFileName info.address :: done ∧
        live.contractIndex i.address = some i ∧ i.registeredAs = n ∧ n ≠ "" := by
  rw [hr.registrations_iff, mem_cons_instanceFileName]
  constructor
  · exact fun ⟨h1, h2⟩ => ⟨.inr h1, h2⟩
  · rintro ⟨h1 | h1, h2, h3, h4⟩
    · rw [h1, hinfo] at h2; cases h2; exact absurd ⟨h3, h4⟩ hn
    · exact ⟨h1, h2, h3, h4⟩

include hjson in
/-- One step of the loop over a file of the live directory not read before. -/
theorem rebuilding_indexFile (hl : LiveInv live) (hopen : ∀ f, env.openOk f = true)
    {done : List String} {cs : ContractStore} (hr : Rebuilding live done cs) {f : String}
    (hf : f ∈ live.storage.entries.map Prod.fst) (hnew : f ∉ done) :
    ∃ cs', cs.indexFile conf dec env f = some cs' ∧ Rebuilding live (f :: done) cs' := by
  obtain ⟨a, rfl, ha⟩ := hl.names f hf
  obtain ⟨hleg, hinst⟩ := matchers_instanceFileName ha
  obtain ⟨info, hinfo⟩ := Option.isSome_iff_exists.mp (by
    simpa [hl.files a] using Dir.read_isSome_iff.mpr hf)
  have haddr : info.address = a := hl.store.indexed_at a info hinfo
  subst haddr
  have hread : (env.open cs.storage (instanceFileName info.address)).bind dec.contractInfo =
      some info := by
    simp [FileOps.open, hopen, hr.storage, hl.files, hinfo, hjson]
  simp only [indexFile, hleg, hinst, addFileToContractIndex, hread, Option.some.injEq,
    exists_eq_left']
  rcases addToContractIndex_cases cs info with ⟨hn, he⟩ | ⟨hn, hfree, he⟩ | ⟨e, hn, hb, _⟩
  · rw [he]
    exact ⟨hr.storage, hr.abis, rebuilding_index hr hinfo,
      fun n => rebuilding_registration_other hr hinfo fun h => h.2 (h.1 ▸ hn)⟩
  · rw [he]
    refine ⟨hr.storage, hr.abis, rebuilding_index hr hinfo, fun n i => ?_⟩
    rw [index_contractRegistrations, register_contractRegistrations, Function.update_apply]
    split_ifs with hni
    · subst hni
      rw [mem_cons_instanceFileName]
      constructor
      · rintro ⟨⟩; exact ⟨.inl rfl, hinfo, rfl, hn⟩
      · rintro ⟨h1 | h1, h2, h3, -⟩
        · rw [h1, hinfo] at h2; exact h2
        · have := (hr.registrations_iff _ i).mpr ⟨h1, h2, h3, hn⟩
          rw [hfree] at this; cases this
    · exact rebuilding_registration_other hr hinfo (fun h => hni h.1.symm) i
  · obtain ⟨hdone, hex, hname, -⟩ := (hr.registrations_iff _ e).mp hb
    have := (hl.indexed_registered _ _ hex (hname ▸ hn)).symm.trans
      (hname ▸ hl.indexed_registered _ _ hinfo hn)
    cases this
    exact absurd hdone hnew

include hjson in
theorem rebuilding_indexFiles (hl : LiveInv live) (hopen : ∀ f, env.openOk f = true) :
    ∀ (files : List String) {done : List String} {cs : ContractStore}, files.Nodup →
      (∀ f ∈ files, f ∈ live.storage.entries.map Prod.fst ∧ f ∉ done) →
      Rebuilding live done cs →
      ∃ cs', cs.indexFiles conf dec env files = some cs' ∧
        Rebuilding live (files.reverse ++ done) cs'
  | [], _, cs, _, _, hr => ⟨cs, rfl, hr⟩
  | f :: files, done, cs, hnd, hfiles, hr => by
    obtain ⟨hf, hnew⟩ := hfiles f (List.mem_cons_self _ _)
    obtain ⟨cs₁, h₁, hr₁⟩ := rebuilding_indexFile conf dec hjson hl hopen hr hf hnew
    have hrest : ∀ g ∈ files, g ∈ live.storage.entries.map Prod.fst ∧ g ∉ f :: done := by
      intro g hg
      refine ⟨(hfiles g (List.mem_cons_of_mem _ hg)).1, ?_⟩
      rw [List.mem_cons, not_or]
      exact ⟨fun h => (List.nodup_cons.mp hnd).1 (h ▸ hg), (hfiles g (List.mem_cons_of_mem _ hg)).2⟩
    obtain ⟨cs', h', hr'⟩ :=
      rebuilding_indexFiles hl hopen files (List.nodup_cons.mp hnd).2 hrest hr₁
    refine ⟨cs', by simp [indexFiles, h₁, h'], ?_⟩
    simpa using hr'

end Rebuild

/-- Restart reproduces the contract index: after any run of `AddContract` calls at hex
addresses that all succeed, a fresh store whose `buildIndex` reads the directory, its listing
and its files readable and its decoder reading back what was written, ends with the live
`contractIndex` and `abiIndex`, and with the live `contractRegistrations` exactly when every
registered contract is still the one indexed at its address. -/
theorem restart_rebuilds_index (conf : ContractStoreConf) (dec : Decoders) (env : FileOps)
    (hjson : ∀ info, dec.contractInfo (.contractInfo info) = some info) (hdir : env.readDirOk = true) (hopen : ∀ f, env.openOk f = true)
    (calls : List AddContractCall) {live : ContractStore}
    (hrun : (newContractStore .empty).addContracts conf calls = .ok live)
    (hhex : ∀ c ∈ calls, isHexAddress c.addrHexNo0x) :
    ∃ rebuilt, (newContractStore live.storage).buildIndex conf dec env = some rebuilt ∧
      rebuilt.contractIndex = live.contractIndex ∧ rebuilt.abiIndex = live.abiIndex ∧
      (rebuilt.contractRegistrations = live.contractRegistrations ↔
        ∀ n info, live.contractRegistrations n = some info →
          live.contractIndex info.address = some info) := by
  have hl := liveInv_addContracts conf calls liveInv_new hhex hrun
  have hperm := Dir.readDir_perm live.storage
  obtain ⟨rebuilt, hb, hr⟩ := rebuilding_indexFiles conf dec hjson hl hopen
    live.storage.readDir (hperm.nodup_iff.mpr live.storage.names_nodup)
    (fun f hf => ⟨hperm.subset hf, List.not_mem_nil f⟩) rebuilding_new
  have hdone : ∀ a, instanceFileName a ∈ live.storage.readDir.reverse ++ [] ↔
      (live.contractIndex a).isSome := by
    intro a
    rw [List.append_nil, List.mem_reverse, hperm.mem_iff, ← Dir.read_isSome_iff, hl.files]
    simp
  have hreg : ∀ n info, rebuilt.contractRegistrations n = some info ↔
      live.contractIndex info.address = some info ∧ info.registeredAs = n ∧ n ≠ "" := by
    intro n info
    rw [hr.registrations_iff, hdone]
    exact ⟨fun ⟨_, h⟩ => h, fun h => ⟨by simp [h.1], h⟩⟩
  refine ⟨rebuilt, by rw [buildIndex, if_pos hdir]; exact hb, ?_, ?_, ?_⟩
  · funext a
    apply Option.ext
    intro info
    rw [Option.mem_def, Option.mem_def, hr.index_iff, hdone]
    exact ⟨fun ⟨_, h⟩ => h, fun h => ⟨by simp [h], h⟩⟩
  · funext id; rw [hr.abis, hl.abis]
  · constructor
    · intro heq n info h
      rw [← heq, hreg] at h
      exact h.1
    · intro hall
      funext n
      apply Option.ext
      intro info
      rw [Option.mem_def, Option.mem_def, hreg]
      constructor
      · rintro ⟨h1, rfl, h3⟩; exact hl.indexed_registered _ _ h1 h3
      · intro h
        exact ⟨hall n info h, hl.store.registered_as n info h,
          fun hn => by rw [hn, hl.store.unnamed_free] at h; cases h⟩

/-- A listing and files that read back, for the runs below. -/
def openAll : FileOps := ⟨true, fun _ => true, fun _ => "", "", fun _ => .ok, fun _ => true⟩

/-- The contract at `sampleAddress` registered as `x`, then registered again as `y`. -/
def reregistration : List AddContractCall :=
  [⟨"t0", sampleAddress, "abi-1", "x", "x"⟩, ⟨"t1", sampleAddress, "abi-1", "y", "y"⟩]

theorem restart_rebuilds_index_sample :
    (∀ info, strictDecoders.contractInfo (.contractInfo info) = some info) ∧ ∃ live : ContractStore,
      (newContractStore .empty).addContracts sampleConf reregistration = .ok live ∧
      ∃ rebuilt, (newContractStore live.storage).buildIndex sampleConf strictDecoders openAll =
          some rebuilt ∧
        rebuilt.contractIndex = live.contractIndex ∧ rebuilt.abiIndex = live.abiIndex ∧
        (rebuilt.contractRegistrations = live.contractRegistrations ↔
          ∀ n info, live.contractRegistrations n = some info →
            live.contractIndex info.address = some info) :=
  ⟨fun _ => rfl, _, rfl, restart_rebuilds_index sampleConf strictDecoders openAll (fun _ => rfl) rfl
    (fun _ => rfl) reregistration rfl (by decide)⟩

/-- Both calls succeed, and after the restart the name `x`, which the live store still
resolves, is unknown. -/
theorem restart_forgets_reregistered_name :
    ∃ live rebuilt : ContractStore,
      (∀ c ∈ reregistration, isHexAddress c.addrHexNo0x) ∧
      (newContractStore .empty).addContracts sampleConf reregistration = .ok live ∧
      (newContractStore live.storage).buildIndex sampleConf strictDecoders openAll = some rebuilt ∧
      live.contractRegistrations "x" ≠ none ∧ rebuilt.contractRegistrations "x" = none :=
  ⟨_, _, by decide, rfl, rfl, by decide, rfl⟩

end ContractStore

end Ethconnect.Contracts
