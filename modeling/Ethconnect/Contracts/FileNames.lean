import Ethconnect.Contracts.Store

/-!
# Storage file names

`storeContractInfo` writes `contract_<address>.instance.json` and `loadDeployMsg(id)` reads
`abi_<id>.deploy.json`; `buildIndex` recognises the files of the storage directory by three
regular expressions. This module states, for each expression, exactly which names it accepts
and what its group captures, as the concatenation the writer builds.

The instance and legacy expressions accept the names built around a group of forty characters
over `[0-9a-z]`, and no instance file name matches the legacy expression. The ABI expression
leaves the dot before `json` unescaped, so besides every name `loadDeployMsg` reads it accepts
names such as `abi_x.deployXjson` that it never reads (`storageFileNames_roundTrip`,
`abiMatcher_accepts_unread_name`).
-/

namespace Ethconnect.Contracts

/-- The file `loadDeployMsg(abiID)` reads under `conf.StoragePath`. -/
def deployFileName (abiID : String) : String := "abi_" ++ abiID ++ ".deploy.json"

/-! ## The contract patterns -/

theorem matchContractFile_eq_some {suffix fileName a : String} :
    matchContractFile suffix fileName = some a ↔
      fileName = "contract_" ++ a ++ suffix ∧ a.length = 40 ∧ a.toList.all isAddressChar := by
  unfold matchContractFile
  dsimp only
  constructor
  · intro h
    split_ifs at h with hc
    cases h
    exact ⟨String.ext hc.1, hc.2⟩
  · rintro ⟨rfl, hlen, hall⟩
    have haddr : ((("contract_" ++ a ++ suffix).toList).drop 9).take 40 = a.toList := by
      show (("contract_".toList ++ a.toList ++ suffix.toList).drop 9).take 40 = a.toList
      rw [List.append_assoc, List.drop_left' (show "contract_".toList.length = 9 from rfl),
        List.take_left' (show a.toList.length = 40 from hlen)]
    rw [haddr, if_pos ⟨rfl, hlen, hall⟩]
    rfl

/-- A legacy swagger file name is never an instance file name: the two end differently. -/
theorem legacyContractMatcher_instanceFileName (a : String) :
    legacyContractMatcher (instanceFileName a) = none := by
  cases h : legacyContractMatcher (instanceFileName a) with
  | none => rfl
  | some b =>
    obtain ⟨hname, -⟩ := matchContractFile_eq_some.mp h
    have hsuf : ".swagger.json".toList <:+ (instanceFileName a).toList := by
      rw [hname]; exact List.suffix_append _ _
    have hsuf' : ".instance.json".toList <:+ (instanceFileName a).toList :=
      List.suffix_append _ _
    rcases List.suffix_or_suffix_of_suffix hsuf hsuf' with h' | h' <;> exact absurd h' (by decide)

/-! ## The ABI pattern -/

theorem abiMatcher_eq_some {f i : String} :
    abiMatcher f = some i ↔ ∃ c, c ≠ '\n' ∧
      f.toList = "abi_".toList ++ i.toList ++ ".deploy".toList ++ c :: "json".toList ∧
      i.toList ≠ [] ∧ i.toList.all (fun c => isAddressChar c || c == '-') := by
  have e4 : "abi_".toList.length = 4 := rfl
  unfold abiMatcher
  dsimp only
  constructor
  · intro h
    split_ifs at h with hc
    cases h
    obtain ⟨h4, hne, hall, hlen, h7, hnl, h8⟩ := hc
    have hid : ((f.toList.drop 4).take (f.toList.length - 16)).length = f.toList.length - 16 := by
      simp only [List.length_take, List.length_drop] at hlen ⊢; omega
    rw [hid] at h7 h8 hnl hlen
    set rest := f.toList.drop (4 + (f.toList.length - 16)) with hrest
    have h7lt : 7 < rest.length := by omega
    have hsplit : rest = ".deploy".toList ++ rest[7] :: "json".toList := by
      rw [← h7, ← h8, ← List.drop_eq_getElem_cons h7lt, List.take_append_drop]
    have hcs : f.toList = "abi_".toList ++ (f.toList.drop 4).take (f.toList.length - 16) ++ rest := by
      rw [← h4, hrest, ← List.drop_drop, List.append_assoc, List.take_append_drop,
        List.take_append_drop]
    obtain ⟨c, hc⟩ : ∃ c, rest[7] = c := ⟨_, rfl⟩
    rw [hc] at hsplit
    refine ⟨c, fun h => hnl (by rw [List.getElem?_eq_getElem h7lt, hc, h]), ?_, hne, hall⟩
    conv_lhs => rw [hcs, hsplit]
    simp only [List.append_assoc]
    rfl
  · rintro ⟨c, hc, hf, hne, hall⟩
    have hlen : f.toList.length - 16 = i.toList.length := by
      rw [hf]; simp only [List.length_append, List.length_cons, e4]
      have : ".deploy".toList.length + ("json".toList.length + 1) = 12 := rfl
      omega
    have hd : f.toList.drop 4 = i.toList ++ (".deploy".toList ++ c :: "json".toList) := by
      rw [hf, List.append_assoc, List.append_assoc, List.drop_left' e4]
    rw [hlen, hd, List.take_left' rfl, if_pos]
    · rfl
    · refine ⟨by rw [hf, List.append_assoc, List.append_assoc, List.take_left' e4], hne, hall, ?_⟩
      rw [← List.drop_drop, hd, List.drop_left' rfl]
      exact ⟨rfl, rfl, by simpa using hc, rfl⟩

/-- The names of the storage directory against the three expressions of `buildIndex`: the ABI
expression accepts `abi_<id>.deploy`, any character but a newline, and `json`, capturing `id`,
non-empty over `[0-9a-z-]`; the instance expression accepts exactly the instance file names of
forty-character addresses over `[0-9a-z]`, capturing the address. -/
theorem storageFileNames_roundTrip :
    (∀ f i : String, abiMatcher f = some i ↔
      ∃ c, c ≠ '\n' ∧ f = "abi_" ++ i ++ ".deploy" ++ c.toString ++ "json" ∧ i ≠ "" ∧
        i.toList.all (fun c => isAddressChar c || c == '-')) ∧
    (∀ f a : String, instanceMatcher f = some a ↔
      f = instanceFileName a ∧ a.length = 40 ∧ a.toList.all isAddressChar) := by
  refine ⟨fun f i => ?_, fun f a => matchContractFile_eq_some⟩
  have hname : ∀ c : Char, ("abi_" ++ i ++ ".deploy" ++ c.toString ++ "json").toList =
      "abi_".toList ++ i.toList ++ ".deploy".toList ++ c :: "json".toList := fun c => by
    simp only [String.toList, String.data_append, List.append_assoc]; rfl
  rw [abiMatcher_eq_some]
  refine exists_congr fun c => and_congr_right fun _ =>
    and_congr ⟨fun h => String.ext (h.trans (hname c).symm), fun h => by rw [h, hname]⟩ ?_
  rw [Ne, Ne, String.ext_iff]
  rfl

/-- `abi_x.deployXjson` is taken for the ABI `x`, whose deployment file is `abi_x.deploy.json`. -/
theorem abiMatcher_accepts_unread_name :
    abiMatcher "abi_x.deployXjson" = some "x" ∧ "abi_x.deployXjson" ≠ deployFileName "x" := by
  decide

end Ethconnect.Contracts
