import Ethconnect.Contracts.Store

/-!
# What `AddContract` leaves for the lookups

`AddContract` updates the index and the registrations under `idxLock` before it writes the
instance file, so a failed write returns an error with the contract already indexed and its
name taken; only a refused name leaves the maps as they were (`addContract_failure_state`,
`addContract_failed_write_indexed`).

`ResolveContractAddress` looks a name up after `url.QueryUnescape`, and `GetContractByAddress`
looks an address up after `strings.ToLower` and `strings.TrimPrefix(·, "0x")`, while both maps
hold names and addresses as `AddContract` was given them. A lookup finds what is filed under the
unescaped name or the lower-cased address: a registered name holding `+` or `%`, or an address
written with capitals, is not found under itself (`contractLookups_agree`,
`contractLookups_miss_registered`).
-/

namespace Ethconnect.Contracts

/-! ## `url.QueryUnescape` -/

/-- The value of a hex digit. -/
def unhex (c : Char) : Option Nat :=
  if c.isDigit then some (c.toNat - '0'.toNat)
  else if 'a' ≤ c ∧ c ≤ 'f' then some (c.toNat - 'a'.toNat + 10)
  else if 'A' ≤ c ∧ c ≤ 'F' then some (c.toNat - 'A'.toNat + 10)
  else none

/-- What `unescape(s, encodeQueryComponent)` writes, piece by piece: a character (`+` as a
space) or the byte of a `%XX` escape; `none` when a `%` is not followed by two hex digits. -/
def unescapePieces : List Char → Option (List (Char ⊕ UInt8))
  | [] => some []
  | '%' :: h :: l :: rest =>
    match unhex h, unhex l with
    | some a, some b => (unescapePieces rest).map (.inr (16 * a + b).toUInt8 :: ·)
    | _, _ => none
  | '%' :: _ => none
  | '+' :: rest => (unescapePieces rest).map (.inl ' ' :: ·)
  | c :: rest => (unescapePieces rest).map (.inl c :: ·)

/-- A run of escaped bytes as characters, or `none` when it is not UTF-8. -/
def decodeEscapes (bytes : List UInt8) : Option (List Char) :=
  if bytes = [] then some [] else (String.fromUTF8? ⟨bytes.toArray⟩).map String.toList

/-- The characters of the Go string the pieces write, with the escaped bytes met since the last
character pending. A character's UTF-8 bytes begin with a byte that continues no sequence and
end one, so the whole string is UTF-8 exactly when each run of escaped bytes is. -/
def decodePieces : List (Char ⊕ UInt8) → List UInt8 → Option (List Char)
  | [], pending => decodeEscapes pending
  | .inr b :: ps, pending => decodePieces ps (pending ++ [b])
  | .inl c :: ps, pending => do
    let run ← decodeEscapes pending
    let rest ← decodePieces ps []
    some (run ++ c :: rest)

/-- `url.QueryUnescape(s)` with its error ignored, as `ResolveContractAddress` calls it: the name
it looks up. A bad escape looks up `""`; `none` is a byte string that is not UTF-8, equal to no
name of the maps. -/
def queryUnescape (s : String) : Option String :=
  match unescapePieces s.toList with
  | none => some ""
  | some ps => (decodePieces ps []).map String.mk

theorem unescapePieces_plain : ∀ {l : List Char}, '%' ∉ l → '+' ∉ l →
    unescapePieces l = some (l.map .inl)
  | [], _, _ => rfl
  | c :: l, hp, hq => by
    have hc : c ≠ '%' ∧ c ≠ '+' := ⟨fun h => hp (h ▸ List.mem_cons_self _ _),
      fun h => hq (h ▸ List.mem_cons_self _ _)⟩
    have ih := unescapePieces_plain (fun h => hp (List.mem_cons_of_mem _ h))
      (fun h => hq (List.mem_cons_of_mem _ h))
    rw [unescapePieces.eq_def]
    split <;> simp_all

theorem decodePieces_plain : ∀ l : List Char, decodePieces (l.map .inl) [] = some l
  | [] => rfl
  | c :: l => by simp [decodePieces, decodeEscapes, decodePieces_plain l]

/-- A name with no `+` and no `%` is looked up as itself. -/
theorem queryUnescape_plain {n : String} (hp : '%' ∉ n.toList) (hq : '+' ∉ n.toList) :
    queryUnescape n = some n := by
  rw [queryUnescape, unescapePieces_plain hp hq]
  simp only [decodePieces_plain, Option.map_some']
  rfl

/-- `strings.TrimPrefix(s, pre)`. -/
def trimPrefix (s pre : String) : String :=
  if pre.toList.isPrefixOf s.toList then ⟨s.toList.drop pre.length⟩ else s

theorem trimPrefix_append (pre a : String) : trimPrefix (pre ++ a) pre = a := by
  have h : pre.toList.isPrefixOf (pre ++ a).toList := List.isPrefixOf_iff_prefix.mpr ⟨a.toList, rfl⟩
  rw [trimPrefix, if_pos h]
  exact String.ext (List.drop_left' rfl)

theorem trimPrefix_of_not_prefix {s pre : String} (h : ¬pre.toList.isPrefixOf s.toList) :
    trimPrefix s pre = s := if_neg h

namespace ContractStore

/-! ## Failed registrations -/

theorem addContract_eq_error {conf : ContractStoreConf} {cs cs' : ContractStore}
    {w : WriteOutcome} {created addrHexNo0x abiID pathName registerAs : String} {e : StoreError} :
    cs.addContract conf w created addrHexNo0x abiID pathName registerAs = (.error e, cs') ↔
      cs.storeContractInfo w (newContractInfo conf created addrHexNo0x abiID pathName registerAs) =
        (.error e, cs') := by
  unfold addContract
  dsimp only
  split <;> rename_i heq <;> rw [heq] <;> simp

/-- Once the index has taken `info`, `storeContractInfo` fails only at the write, and the maps
stay as the index left them. -/
theorem storeContractInfo_error_of_ok {cs cs₁ cs' : ContractStore} {w : WriteOutcome}
    {info : ContractInfo} {e : StoreError} (h₁ : cs.addToContractIndex info = .ok cs₁)
    (h : cs.storeContractInfo w info = (.error e, cs')) :
    ∃ err, e = ⟨"RESTGatewayLocalStoreContractSave", [err]⟩ ∧
      cs'.contractIndex = cs₁.contractIndex ∧ cs'.contractRegistrations = cs₁.contractRegistrations := by
  unfold storeContractInfo at h
  rw [h₁] at h
  dsimp only at h
  split at h <;> cases h
  exact ⟨_, rfl, rfl, rfl⟩

/-- A failed `AddContract` left the maps as they were only if the name was refused; if the
instance file could not be written, the contract is indexed under its address and, when it has
a name, registered under it. -/
theorem addContract_failure_state (conf : ContractStoreConf) {cs cs' : ContractStore}
    {w : WriteOutcome} {created addrHexNo0x abiID pathName registerAs : String} {e : StoreError}
    (h : cs.addContract conf w created addrHexNo0x abiID pathName registerAs = (.error e, cs')) :
    (∃ existing, registerAs ≠ "" ∧ cs.contractRegistrations registerAs = some existing ∧
      e = friendlyNameClash existing.address registerAs ∧ cs' = cs) ∨
    (∃ err, e = ⟨"RESTGatewayLocalStoreContractSave", [err]⟩ ∧
      cs'.contractIndex = Function.update cs.contractIndex addrHexNo0x
        (some (newContractInfo conf created addrHexNo0x abiID pathName registerAs)) ∧
      cs'.contractRegistrations = if registerAs = "" then cs.contractRegistrations else
        Function.update cs.contractRegistrations registerAs
          (some (newContractInfo conf created addrHexNo0x abiID pathName registerAs))) := by
  rw [addContract_eq_error] at h
  rcases addToContractIndex_cases cs (newContractInfo conf created addrHexNo0x abiID pathName
    registerAs) with ⟨hn, he⟩ | ⟨hn, -, he⟩ | ⟨existing, hn, hb, he⟩
  · obtain ⟨err, rfl, hi, hr⟩ := storeContractInfo_error_of_ok he h
    exact .inr ⟨err, rfl, hi, by rw [hr]; simp at hn; simp [hn]⟩
  · obtain ⟨err, rfl, hi, hr⟩ := storeContractInfo_error_of_ok he h
    exact .inr ⟨err, rfl, hi, by rw [hr]; simp at hn; simp [hn]⟩
  · simp only [storeContractInfo, he, Prod.mk.injEq, Except.error.injEq] at h
    exact .inl ⟨existing, hn, hb, h.1.symm, h.2.symm⟩

/-- An instance file that cannot be written: `AddContract` fails, and the contract is indexed and
its name taken all the same. -/
theorem addContract_failed_write_indexed :
    let run := (newContractStore .empty).addContract sampleConf (.failed "disk full" none) "t0"
      sampleAddress "abi-1" "erc20" "erc20"
    run.1 = .error ⟨"RESTGatewayLocalStoreContractSave", ["disk full"]⟩ ∧
      run.2.contractIndex sampleAddress =
        some (newContractInfo sampleConf "t0" sampleAddress "abi-1" "erc20" "erc20") ∧
      run.2.contractRegistrations "erc20" =
        some (newContractInfo sampleConf "t0" sampleAddress "abi-1" "erc20" "erc20") :=
  ⟨rfl, rfl, rfl⟩

/-- The failed write above, as `addContract_failure_state` describes it. -/
theorem addContract_failure_state_sample :
    ∃ e cs', (newContractStore .empty).addContract sampleConf (.failed "disk full" none) "t0"
        sampleAddress "abi-1" "erc20" "erc20" = (.error e, cs') ∧
      ((∃ existing, "erc20" ≠ "" ∧ (newContractStore .empty).contractRegistrations "erc20" =
          some existing ∧ e = friendlyNameClash existing.address "erc20" ∧
          cs' = newContractStore .empty) ∨
        (∃ err, e = ⟨"RESTGatewayLocalStoreContractSave", [err]⟩ ∧
          cs'.contractIndex = Function.update (newContractStore .empty).contractIndex sampleAddress
            (some (newContractInfo sampleConf "t0" sampleAddress "abi-1" "erc20" "erc20")) ∧
          cs'.contractRegistrations = if "erc20" = "" then
            (newContractStore .empty).contractRegistrations else
            Function.update (newContractStore .empty).contractRegistrations "erc20"
              (some (newContractInfo sampleConf "t0" sampleAddress "abi-1" "erc20" "erc20")))) := by
  have h : (newContractStore .empty).addContract sampleConf (.failed "disk full" none) "t0"
      sampleAddress "abi-1" "erc20" "erc20" = (.error _, _) := rfl
  exact ⟨_, _, h, addContract_failure_state sampleConf h⟩

/-! ## The lookups -/

/-- `ResolveContractAddress(registeredName)`. -/
def resolveContractAddress (cs : ContractStore) (registeredName : String) :
    Except StoreError String :=
  match (queryUnescape registeredName).bind cs.contractRegistrations with
  | some info => .ok info.address
  | none => .error ⟨"RESTGatewayLocalStoreContractLoad", [registeredName]⟩

/-- `GetContractByAddress(addrHex)`; `lower` is `unicode.ToLower` beyond ASCII. The assertion
`info.(*ContractInfo)` holds of every entry of a local store. -/
def getContractByAddress (lower : Char → Char) (cs : ContractStore) (addrHex : String) :
    Except StoreError ContractInfo :=
  let addrHexNo0x := trimPrefix (toLower lower addrHex) "0x"
  match cs.contractIndex addrHexNo0x with
  | some info => .ok info
  | none => .error ⟨"RESTGatewayLocalStoreContractNotFound", [addrHexNo0x]⟩

theorem resolveContractAddress_eq_ok {cs : ContractStore} {q addr : String} :
    cs.resolveContractAddress q = .ok addr ↔
      ∃ n info, queryUnescape q = some n ∧ cs.contractRegistrations n = some info ∧
        info.address = addr := by
  unfold resolveContractAddress
  split
  · rename_i info h
    obtain ⟨n, hn, hi⟩ := Option.bind_eq_some.mp h
    constructor
    · rintro ⟨⟩; exact ⟨n, info, hn, hi, rfl⟩
    · rintro ⟨n', info', hn', hi', rfl⟩
      rw [hn] at hn'; cases hn'; rw [hi] at hi'; cases hi'; rfl
  · rename_i h
    refine ⟨fun h' => (nomatch h'), fun ⟨n, info, hn, hi, _⟩ => ?_⟩
    rw [hn, Option.some_bind, hi] at h
    cases h

/-- Lower-case ASCII addresses are found as they are and with a `0x` prefix. -/
theorem getContractByAddress_ascii (lower : Char → Char) {cs : ContractStore} {a : String}
    {info : ContractInfo} (hi : cs.contractIndex a = some info)
    (ha : ∀ c ∈ a.toList, c.toNat < 65 ∨ 90 < c.toNat ∧ c.toNat < 128) :
    cs.getContractByAddress lower ("0x" ++ a) = .ok info ∧
      (¬"0x".toList.isPrefixOf a.toList → cs.getContractByAddress lower a = .ok info) := by
  have hlow := toLower_of_ascii lower ha
  have h0x : toLower lower "0x" = "0x" := toLower_of_ascii lower (by decide)
  refine ⟨?_, fun hp => ?_⟩
  · simp only [getContractByAddress, toLower_append, hlow, h0x, trimPrefix_append, hi]
  · simp only [getContractByAddress, hlow, trimPrefix_of_not_prefix hp, hi]

/-- The lookups in every reachable state: `ResolveContractAddress(q)` returns exactly the
address of the contract registered under `QueryUnescape(q)`, a contract registered as that
name; a name with no `+` and no `%` resolves to the address it was registered with; and a
contract indexed under an address of ASCII characters without capitals is the one added at
that address, and is found under `0x` and the address, and under the address itself unless it
begins with `0x`. -/
theorem contractLookups_agree (conf : ContractStoreConf) (dec : Decoders) (lower : Char → Char)
    {cs : ContractStore} (hs : Reachable conf dec cs) :
    (∀ q addr, cs.resolveContractAddress q = .ok addr ↔ ∃ n info, queryUnescape q = some n ∧
      cs.contractRegistrations n = some info ∧ info.registeredAs = n ∧ info.address = addr) ∧
    (∀ n info, cs.contractRegistrations n = some info → '%' ∉ n.toList → '+' ∉ n.toList →
      cs.resolveContractAddress n = .ok info.address) ∧
    (∀ a info, cs.contractIndex a = some info →
      (∀ c ∈ a.toList, c.toNat < 65 ∨ 90 < c.toNat ∧ c.toNat < 128) →
      info.address = a ∧ cs.getContractByAddress lower ("0x" ++ a) = .ok info ∧
      (¬"0x".toList.isPrefixOf a.toList → cs.getContractByAddress lower a = .ok info)) := by
  have hinv := hs.storeInv
  refine ⟨fun q addr => ?_, fun n info hi hp hq => ?_, fun a info hi ha =>
    ⟨hinv.indexed_at a info hi, getContractByAddress_ascii lower hi ha⟩⟩
  · rw [resolveContractAddress_eq_ok]
    exact ⟨fun ⟨n, info, hn, hi, he⟩ => ⟨n, info, hn, hi, hinv.registered_as n info hi, he⟩,
      fun ⟨n, info, hn, hi, _, he⟩ => ⟨n, info, hn, hi, he⟩⟩
  · exact resolveContractAddress_eq_ok.mpr ⟨n, info, queryUnescape_plain hp hq, hi, rfl⟩

/-- A contract registered as `erc20` at a lower-case address is found by name and by address. -/
theorem contractLookups_agree_sample :
    ∃ cs : ContractStore, Reachable sampleConf strictDecoders cs ∧
      cs.resolveContractAddress "erc20" = .ok sampleAddress ∧
      ∀ lower, cs.getContractByAddress lower ("0x" ++ sampleAddress) =
        .ok (newContractInfo sampleConf "t0" sampleAddress "abi-1" "erc20" "erc20") := by
  have h : Reachable sampleConf strictDecoders _ :=
    .step (.addContract .ok "t0" sampleAddress "abi-1" "erc20" "erc20") (.init .empty) rfl
  exact ⟨_, h, (contractLookups_agree sampleConf strictDecoders id h).2.1 "erc20" _ rfl
    (by decide) (by decide), fun lower =>
      ((contractLookups_agree sampleConf strictDecoders lower h).2.2 sampleAddress _ rfl
        (by decide)).2.1⟩

/-- `sampleAddress` in capitals. -/
def upperAddress : String := "4B1D4B1D4B1D4B1D4B1D4B1D4B1D4B1D4B1D4B1D"

/-- A contract registered as `a+b` at an address given in capitals is found neither by its name,
which is looked up as `a b`, nor by its address, which is looked up in lower case. -/
theorem contractLookups_miss_registered :
    ∃ cs : ContractStore, Reachable sampleConf strictDecoders cs ∧
      cs.contractRegistrations "a+b" =
        some (newContractInfo sampleConf "t0" upperAddress "abi-1" "ab" "a+b") ∧
      cs.contractIndex upperAddress =
        some (newContractInfo sampleConf "t0" upperAddress "abi-1" "ab" "a+b") ∧
      cs.resolveContractAddress "a+b" = .error ⟨"RESTGatewayLocalStoreContractLoad", ["a+b"]⟩ ∧
      ∀ lower, cs.getContractByAddress lower upperAddress =
        .error ⟨"RESTGatewayLocalStoreContractNotFound", [sampleAddress]⟩ :=
  ⟨_, .step (.addContract .ok "t0" upperAddress "abi-1" "ab" "a+b") (.init .empty) rfl,
    rfl, rfl, rfl, fun _ => rfl⟩

end ContractStore

end Ethconnect.Contracts
