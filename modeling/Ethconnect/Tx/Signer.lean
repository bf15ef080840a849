import Ethconnect.Tx.HDWallet
import Ethconnect.Contracts.Lookup

/-!
# The HD wallet signer

`newHDWallet` parses the URL template, panicking when it does not parse, defaults the names of
the two response properties it reads to `address` and `privateKey`, and parses the chain ID.
`SignerFor` executes the template on a request, fetches the URL, and reads the signer's address
and private key from the response: a failed request is `HDWalletSigningFailed`, and any missing
or ill-formed datum in the response is `HDWalletSigningBadData`.

The template engine, `big.Int`, the HTTP requester and the key parser are not among the
repository's files: what they return is a parameter (`WalletLibs`). An error is its message key.

## Main results

* `signerFor_eq_ok`, `signerFor_eq_error`: what `SignerFor` returns, for every response.
* `newHDWallet_eq_ok`: the template, chain ID and property names a wallet is built with.
-/

namespace Ethconnect.Tx

/-- `HDWalletConfPropNames`. -/
structure HDWalletConfPropNames where
  address : String
  privateKey : String

/-- The fields of `HDWalletConf` that `newHDWallet` and `SignerFor` read. -/
structure HDWalletConf where
  urlTemplate : String
  chainID : String
  propNames : HDWalletConfPropNames

def defaultAddressProp : String := "address"

def defaultPrivateKeyProp : String := "privateKey"

/-- What the libraries return: `template.Parse(urlTemplate)`, `chainID.SetString(s, 0)`,
`hr.DoRequest("GET", url, nil)`, `hr.GetResponseString(result, prop, false)` and
`ethbind.API.HexToECDSA(hex)`. -/
structure WalletLibs (Key : Type) where
  parse : String → Except String (List TemplatePiece)
  setString : String → Int
  doRequest : List UInt8 → Except String JObj
  getResponseString : JObj → String → Except String String
  hexToECDSA : String → Except String Key

/-- `hdWallet`. -/
structure HDWallet where
  conf : HDWalletConf
  urlTemplate : List TemplatePiece
  chainID : Int

/-- `hdwalletSigner`; `address` is the string `HexToAddress` is given. -/
structure HDWalletSigner (Key : Type) where
  address : String
  key : Key
  chainID : Int

variable {Key : Type}

/-- `newHDWallet(conf)`: `template.Must` panics with the parse error. The defaults are written
into `conf.PropNames`, which the wallet shares. -/
def newHDWallet (libs : WalletLibs Key) (conf : HDWalletConf) : GoResult HDWallet :=
  match libs.parse conf.urlTemplate with
  | .error err => .panic err
  | .ok urlTemplate =>
    let propNames : HDWalletConfPropNames :=
      ⟨if conf.propNames.address = "" then defaultAddressProp else conf.propNames.address,
        if conf.propNames.privateKey = "" then defaultPrivateKeyProp else conf.propNames.privateKey⟩
    .ok ⟨{ conf with propNames }, urlTemplate, libs.setString conf.chainID⟩

/-- `hd.SignerFor(request)`. -/
def signerFor (libs : WalletLibs Key) (hd : HDWallet) (request : HDWalletRequest) :
    Except String (HDWalletSigner Key) :=
  match libs.doRequest (executeTemplate hd.urlTemplate request) with
  | .error _ => .error "HDWalletSigningFailed"
  | .ok result =>
    match libs.getResponseString result hd.conf.propNames.address with
    | .error _ => .error "HDWalletSigningBadData"
    | .ok address =>
      -- `result[...].(string)`: a missing key, a `null` and any other type all fail.
      match result.get hd.conf.propNames.privateKey with
      | some (.str keyStr) =>
        match libs.hexToECDSA (Contracts.trimPrefix keyStr "0x") with
        | .error _ => .error "HDWalletSigningBadData"
        | .ok key => .ok ⟨address, key, hd.chainID⟩
      | _ => .error "HDWalletSigningBadData"

/-- `SignerFor` returns a signer exactly when every read of the response succeeds: the address
property through `GetResponseString`, and the private-key property as a string that parses once
a leading `0x` is cut. -/
theorem signerFor_eq_ok {libs : WalletLibs Key} {hd : HDWallet} {request : HDWalletRequest}
    {signer : HDWalletSigner Key} :
    signerFor libs hd request = .ok signer ↔
      ∃ result keyStr, libs.doRequest (executeTemplate hd.urlTemplate request) = .ok result ∧
        libs.getResponseString result hd.conf.propNames.address = .ok signer.address ∧
        result.get hd.conf.propNames.privateKey = some (.str keyStr) ∧
        libs.hexToECDSA (Contracts.trimPrefix keyStr "0x") = .ok signer.key ∧
        signer.chainID = hd.chainID := by
  constructor
  · intro h
    unfold signerFor at h
    split at h
    · cases h
    next result hr =>
      split at h
      · cases h
      next address ha =>
        split at h
        next keyStr hk =>
          split at h
          · cases h
          next key hkey =>
            cases h
            exact ⟨result, keyStr, hr, ha, hk, hkey, rfl⟩
        · cases h
  · rintro ⟨result, keyStr, hr, ha, hk, hkey, hc⟩
    obtain ⟨address, key, chainID⟩ := signer
    simp only at ha hkey hc
    simp [signerFor, hr, ha, hk, hkey, hc]

/-- `SignerFor` fails with `HDWalletSigningFailed` exactly when the request fails, and with
`HDWalletSigningBadData` on a response it cannot read. -/
theorem signerFor_eq_error {libs : WalletLibs Key} {hd : HDWallet} {request : HDWalletRequest}
    {e : String} (h : signerFor libs hd request = .error e) :
    (e = "HDWalletSigningFailed" ∧
        ∃ err, libs.doRequest (executeTemplate hd.urlTemplate request) = .error err) ∨
      (e = "HDWalletSigningBadData" ∧
        ∃ result, libs.doRequest (executeTemplate hd.urlTemplate request) = .ok result) := by
  unfold signerFor at h
  split at h
  next err hr => cases h; exact .inl ⟨rfl, err, hr⟩
  next result hr =>
    refine .inr ⟨?_, result, hr⟩
    split at h
    · cases h; rfl
    · split at h
      · split at h
        · cases h; rfl
        · cases h
      · cases h; rfl

theorem newHDWallet_eq_ok {libs : WalletLibs Key} {conf : HDWalletConf} {hd : HDWallet}
    (hnew : newHDWallet libs conf = .ok hd) :
    libs.parse conf.urlTemplate = .ok hd.urlTemplate ∧ hd.chainID = libs.setString conf.chainID ∧
      hd.conf.propNames.address =
        (if conf.propNames.address = "" then defaultAddressProp else conf.propNames.address) ∧
      hd.conf.propNames.privateKey =
        (if conf.propNames.privateKey = "" then defaultPrivateKeyProp
          else conf.propNames.privateKey) := by
  unfold newHDWallet at hnew
  split at hnew
  · cases hnew
  next t ht => cases hnew; exact ⟨ht, rfl, rfl, rfl⟩

end Ethconnect.Tx
