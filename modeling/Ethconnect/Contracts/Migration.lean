import Ethconnect.Contracts.FileNames
import Ethconnect.Contracts.Restart

/-!
# Building the index over any directory

`buildIndex` reads every file of the storage directory that matches one of its patterns and
logs and skips what it cannot open or parse. The migration of a legacy swagger file asserts
`ext.(string)` on its `x-firefly-registered-name` and `x-firefly-deployment-id` extensions
without checking, so a file whose extension holds another JSON value panics the whole index
build (`buildIndex_panics_iff`, `buildIndex_panics_on_numeric_name`).

A file is read as it was when `ReadDir` listed it: the loop writes only instance files, which
no legacy name matches, and removes only files it has already read.
-/

namespace Ethconnect.Contracts

/-! ## What a step writes -/

namespace Dir

theorem read_remove_ne (d : Dir) {name name' : String} (h : name' ≠ name) :
    (d.remove name).read name' = d.read name' :=
  lookup_filter_ne d.entries h

theorem read_writeFile_ne (d : Dir) {name name' : String} (doc : Document) (w : WriteOutcome)
    (h : name' ≠ name) : (d.writeFile name doc w).1.read name' = d.read name' := by
  rcases w with _ | ⟨err, _ | left⟩ <;> simp [writeFile, h]

end Dir

namespace ContractStore

theorem addToContractIndex_storage {cs cs' : ContractStore} {info : ContractInfo}
    (h : cs.addToContractIndex info = .ok cs') : cs'.storage = cs.storage := by
  rcases addToContractIndex_cases cs info with ⟨-, he⟩ | ⟨-, -, he⟩ | ⟨_, -, -, he⟩ <;>
    rw [he] at h <;> cases h <;> rfl

/-- `storeContractInfo` writes only the instance file of the contract's address. -/
theorem storeContractInfo_read_ne (cs : ContractStore) (w : WriteOutcome) (info : ContractInfo)
    {name : String} (h : name ≠ instanceFileName info.address) :
    (cs.storeContractInfo w info).2.storage.read name = cs.storage.read name := by
  unfold storeContractInfo
  split
  · rfl
  · rename_i cs' hadd
    rw [← addToContractIndex_storage hadd]
    have := Dir.read_writeFile_ne cs'.storage (.contractInfo info) w h
    split <;> rename_i heq <;> rw [heq] at this <;> exact this

/-- A migration writes only the instance file of its address and removes only its own file. -/
theorem migrateLegacyContract_read_ne {conf : ContractStoreConf} {dec : Decoders}
    {env : FileOps} {cs cs' : ContractStore} {address fileName name : String}
    (h : cs.migrateLegacyContract conf dec env address fileName = some cs')
    (hf : name ≠ fileName) (hi : name ≠ instanceFileName address) :
    cs'.storage.read name = cs.storage.read name := by
  unfold migrateLegacyContract at h
  split at h
  · cases h; rfl
  split at h
  · cases h; rfl
  obtain ⟨registeredAs, -, h⟩ := Option.bind_eq_some.mp h
  split at h
  · cases h; rfl
  obtain ⟨abiID, -, rfl⟩ := Option.map_eq_some'.mp h
  have hw := storeContractInfo_read_ne cs (env.write (instanceFileName address))
    (newContractInfo conf env.now address abiID address registeredAs) hi
  rw [← addContract_snd] at hw
  split <;> rename_i heq <;> rw [heq] at hw
  · exact hw
  · split
    · rw [Dir.read_remove_ne _ hf]; exact hw
    · exact hw

/-- `indexFile` leaves every legacy file but its own as it was. -/
theorem indexFile_read_ne {conf : ContractStoreConf} {dec : Decoders} {env : FileOps}
    {cs cs' : ContractStore} {fileName name : String}
    (h : cs.indexFile conf dec env fileName = some cs') (hf : name ≠ fileName)
    (hlegacy : legacyContractMatcher name ≠ none) :
    cs'.storage.read name = cs.storage.read name := by
  unfold indexFile at h
  split at h
  · refine migrateLegacyContract_read_ne h hf fun hi => hlegacy ?_
    rw [hi, legacyContractMatcher_instanceFileName]
  · cases h
    unfold addFileToContractIndex
    split
    · rfl
    · split
      · rename_i hadd; rw [addToContractIndex_storage hadd]
      · rfl
  · cases h
    unfold addFileToABIIndex
    split <;> rfl
  · cases h; rfl

/-! ## Where the index build panics -/

/-- A legacy file whose migration panics: it opens and decodes as a swagger document with an
`Info`, and its `x-firefly-registered-name` or `x-firefly-deployment-id` extension is present
and not a JSON string. -/
def PanicsOnMigration (dec : Decoders) (env : FileOps) (d : Dir) (fileName : String) : Prop :=
  legacyContractMatcher fileName ≠ none ∧
    ∃ swagger ext, (env.open d fileName).bind dec.swagger = some swagger ∧
      swagger.info = some ext ∧
      ((∃ v, ext.get "x-firefly-registered-name" = some v ∧ assertString v = none) ∨
        (∃ v, ext.get "x-firefly-deployment-id" = some v ∧ assertString v = none))

theorem registeredNameOf_eq_none {ext : JObj} :
    registeredNameOf ext = none ↔
      ∃ v, ext.get "x-firefly-registered-name" = some v ∧ assertString v = none := by
  unfold registeredNameOf
  split <;> simp_all

theorem migrateLegacyContract_eq_none {conf : ContractStoreConf} {dec : Decoders}
    {env : FileOps} {cs : ContractStore} {address fileName : String} :
    cs.migrateLegacyContract conf dec env address fileName = none ↔
      ∃ swagger ext, (env.open cs.storage fileName).bind dec.swagger = some swagger ∧
        swagger.info = some ext ∧
        ((∃ v, ext.get "x-firefly-registered-name" = some v ∧ assertString v = none) ∨
          (∃ v, ext.get "x-firefly-deployment-id" = some v ∧ assertString v = none)) := by
  unfold migrateLegacyContract
  split
  · rename_i h; simp [h]
  rename_i swagger h
  split
  · rename_i hi; simp [h, hi]
  rename_i ext hi
  simp only [h, hi, Option.some.injEq, exists_and_left, exists_eq_left', ← registeredNameOf_eq_none]
  cases hreg : registeredNameOf ext with
  | none => simp
  | some registeredAs =>
    simp only [Option.some_bind, reduceCtorEq, false_or]
    split <;> simp_all

theorem indexFile_eq_none {conf : ContractStoreConf} {dec : Decoders} {env : FileOps}
    {cs : ContractStore} {fileName : String} :
    cs.indexFile conf dec env fileName = none ↔ PanicsOnMigration dec env cs.storage fileName := by
  unfold indexFile PanicsOnMigration
  split
  · rename_i hl; simp [hl, migrateLegacyContract_eq_none]
  all_goals simp_all

theorem panicsOnMigration_congr {dec : Decoders} {env : FileOps} {d d' : Dir} {fileName : String}
    (h : legacyContractMatcher fileName ≠ none → d.read fileName = d'.read fileName) :
    PanicsOnMigration dec env d fileName ↔ PanicsOnMigration dec env d' fileName := by
  unfold PanicsOnMigration
  constructor <;> rintro ⟨hl, rest⟩ <;> refine ⟨hl, ?_⟩ <;>
    simpa only [FileOps.open, h hl] using rest

/-- The loop over the listed files panics exactly at a legacy file whose migration panics, each
file read as the directory `d` held it. -/
theorem indexFiles_eq_none {conf : ContractStoreConf} {dec : Decoders} {env : FileOps} {d : Dir} :
    ∀ (files : List String) {cs : ContractStore}, files.Nodup →
      (∀ name ∈ files, legacyContractMatcher name ≠ none → cs.storage.read name = d.read name) →
      (cs.indexFiles conf dec env files = none ↔ ∃ f ∈ files, PanicsOnMigration dec env d f)
  | [], _, _, _ => by simp [indexFiles]
  | f :: files, cs, hnd, hread => by
    have hf : PanicsOnMigration dec env cs.storage f ↔ PanicsOnMigration dec env d f :=
      panicsOnMigration_congr (hread f (List.mem_cons_self _ _))
    simp only [indexFiles, List.mem_cons, exists_eq_or_imp]
    cases h : cs.indexFile conf dec env f with
    | none => exact iff_of_true rfl (.inl (hf.mp (indexFile_eq_none.mp h)))
    | some cs' =>
      have hnot : ¬PanicsOnMigration dec env d f := by
        rw [← hf, ← indexFile_eq_none, h]; exact Option.some_ne_none _
      have hrest : ∀ name ∈ files, legacyContractMatcher name ≠ none →
          cs'.storage.read name = d.read name := fun name hn hl => by
        rw [indexFile_read_ne h (fun he => (List.nodup_cons.mp hnd).1 (he ▸ hn)) hl]
        exact hread name (List.mem_cons_of_mem _ hn) hl
      rw [Option.some_bind, indexFiles_eq_none files (List.nodup_cons.mp hnd).2 hrest]
      simp only [hnot, false_or]

/-- Index building over any directory: `buildIndex` panics exactly when `ReadDir` succeeds and a
listed legacy swagger file opens and decodes with an `Info` whose `x-firefly-registered-name` or
`x-firefly-deployment-id` extension is present and not a JSON string; otherwise it returns,
having skipped every file it could not open, parse or migrate. -/
theorem buildIndex_panics_iff (conf : ContractStoreConf) (dec : Decoders) (env : FileOps)
    (cs : ContractStore) :
    cs.buildIndex conf dec env = none ↔
      env.readDirOk ∧ ∃ f ∈ cs.storage.readDir, PanicsOnMigration dec env cs.storage f := by
  unfold buildIndex
  split
  · rename_i hdir
    rw [indexFiles_eq_none _ ((Dir.readDir_perm _).nodup_iff.mpr cs.storage.names_nodup)
      fun _ _ _ => rfl]
    simp only [hdir, true_and]
  · simp_all

/-- One legacy swagger file, for `sampleAddress`, whose registered name is the number `1`. -/
def numericNameDir : Dir :=
  Dir.empty.write ("contract_" ++ sampleAddress ++ ".swagger.json")
    (.swagger ⟨some [("x-firefly-registered-name", .num 1),
      ("x-firefly-deployment-id", .str "abi-1")]⟩)

/-- The index build over that directory panics. -/
theorem buildIndex_panics_on_numeric_name :
    (newContractStore numericNameDir).buildIndex sampleConf strictDecoders openAll = none :=
  rfl

end ContractStore

end Ethconnect.Contracts
