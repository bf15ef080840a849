import Ethconnect.Contracts.Store

/-!
# Orion privacy groups

`GetOrionPrivacyGroup` resolves `privateFrom` and `privateFor` into a privacy group: it asks the
node for the groups of the members, `privateFrom` first, and takes the first one; only when
there is none does it ask the node to create one. An RPC failure is reported with the method
that failed.

The RPC client is not among the repository's files: what `CallContext` returns for each method
is a parameter. The call's 30-second deadline is left out, and so is `addr`, which the function
does not read.

## Main results

* `getOrionPrivacyGroup_calls`: the RPCs made, for every answer of the node.
* `getOrionPrivacyGroup_eq_ok`: where the group returned comes from.
-/

namespace Ethconnect.Eth

open Contracts (StoreError)

/-- `OrionPrivacyGroup`. -/
structure OrionPrivacyGroup where
  privacyGroupID : String
  deriving DecidableEq, Repr

/-- An RPC that `GetOrionPrivacyGroup` makes: the method, and its one argument as JSON. -/
structure RPCCall where
  method : String
  arg : JVal

/-- What `rpc.CallContext` returns, decoded, for the two methods. -/
structure RPCClient where
  findPrivacyGroup : JVal → Except String (List OrionPrivacyGroup)
  createPrivacyGroup : JVal → Except String String

/-- `allMembers`, as the argument of `priv_findPrivacyGroup`. -/
def allMembers (privateFrom : String) (privateFor : List String) : JVal :=
  .arr ((privateFrom :: privateFor).map .str)

/-- `GetOrionPrivacyGroup(ctx, rpc, addr, privateFrom, privateFor)`: the RPCs it makes, in order,
and its result. -/
def getOrionPrivacyGroup (rpc : RPCClient) (privateFrom : String) (privateFor : List String) :
    List RPCCall × Except StoreError String :=
  let members := allMembers privateFrom privateFor
  let params : JVal := .obj [("addresses", members)]
  let find : RPCCall := ⟨"priv_findPrivacyGroup", members⟩
  match rpc.findPrivacyGroup members with
  | .error err => ([find], .error ⟨"RPCCallReturnedError", ["priv_findPrivacyGroup", err]⟩)
  | .ok [] =>
    let create : RPCCall := ⟨"priv_createPrivacyGroup", params⟩
    match rpc.createPrivacyGroup params with
    | .error err =>
      ([find, create], .error ⟨"RPCCallReturnedError", ["priv_createPrivacyGroup", err]⟩)
    | .ok privacyGroup => ([find, create], .ok privacyGroup)
  | .ok (privacyGroup :: _) => ([find], .ok privacyGroup.privacyGroupID)

/-- `GetOrionPrivacyGroup` always looks the members up first, and creates a group, once, exactly
when the lookup succeeded and found none; both RPCs carry the same members, `privateFrom`
first. -/
theorem getOrionPrivacyGroup_calls (rpc : RPCClient) (privateFrom : String)
    (privateFor : List String) :
    ∃ rest, (getOrionPrivacyGroup rpc privateFrom privateFor).1 =
        ⟨"priv_findPrivacyGroup", allMembers privateFrom privateFor⟩ :: rest ∧
      (rpc.findPrivacyGroup (allMembers privateFrom privateFor) = .ok [] ∧
          rest = [⟨"priv_createPrivacyGroup",
            .obj [("addresses", allMembers privateFrom privateFor)]⟩] ∨
        rpc.findPrivacyGroup (allMembers privateFrom privateFor) ≠ .ok [] ∧ rest = []) := by
  unfold getOrionPrivacyGroup
  dsimp only
  split
  · next err h => exact ⟨[], rfl, .inr ⟨by simp [h], rfl⟩⟩
  · next h => split <;> exact ⟨_, rfl, .inl ⟨h, rfl⟩⟩
  · next g gs h => exact ⟨[], rfl, .inr ⟨by simp [h], rfl⟩⟩

/-- The group returned is the first one the lookup found, or, when it found none, the one the
node created. -/
theorem getOrionPrivacyGroup_eq_ok {rpc : RPCClient} {privateFrom : String}
    {privateFor : List String} {id : String}
    (h : (getOrionPrivacyGroup rpc privateFrom privateFor).2 = .ok id) :
    (∃ g gs, rpc.findPrivacyGroup (allMembers privateFrom privateFor) = .ok (g :: gs) ∧
        id = g.privacyGroupID) ∨
      rpc.findPrivacyGroup (allMembers privateFrom privateFor) = .ok [] ∧
        rpc.createPrivacyGroup (.obj [("addresses", allMembers privateFrom privateFor)]) =
          .ok id := by
  unfold getOrionPrivacyGroup at h
  dsimp only at h
  split at h
  · cases h
  · next hf =>
    split at h
    · cases h
    · next hc => cases h; exact .inr ⟨hf, hc⟩
  · next g gs hf => cases h; exact .inl ⟨g, gs, hf, rfl⟩

end Ethconnect.Eth
