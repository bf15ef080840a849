import Ethconnect.Basic

/-!
# The receipt store: configuration and reply processing

`newReceiptStore` replaces non-positive settings by the package defaults. `processReply`
parses a reply, correlates it through `headers.requestId`, and decides what to persist: the
reply itself stamped with `receivedAt` and `_id`, or, for a redelivery-prevented reply whose
request has no terminal receipt yet, the reply turned into the
`ResubmissionPreventedCheckTransactionHash` error.

The persistence is a `Stored` map; `Stored.addReceipt` is `AddReceipt` as the
`ReceiptStorePersistence` contract states it. `processReply` is stated over the answer the
persistence gives to its one `GetReceipt` call, so the same definition serves the sequential
store here and the interleaved runs of `Ethconnect.Receipts.Redelivery`.
-/

namespace Ethconnect.Receipts

def defaultReceiptLimit : Int := 10
def defaultRetryTimeout : Int := 120 * 1000
def defaultRetryInitialDelay : Int := 500
def defaultMaxDocs : Int := 250

/-- The settings of `receipts.ReceiptStoreConf` the store reads. -/
structure ReceiptStoreConf where
  maxDocs : Int
  queryLimit : Int
  retryTimeoutMS : Int
  retryInitialDelayMS : Int
  deriving Repr, DecidableEq

/-- The configuration `newReceiptStore` leaves behind. -/
def newReceiptStore (conf : ReceiptStoreConf) : ReceiptStoreConf :=
  { conf with
    retryTimeoutMS := if conf.retryTimeoutMS ≤ 0 then defaultRetryTimeout else conf.retryTimeoutMS
    retryInitialDelayMS :=
      if conf.retryInitialDelayMS ≤ 0 then defaultRetryInitialDelay else conf.retryInitialDelayMS
    maxDocs := if conf.maxDocs ≤ 0 then defaultMaxDocs else conf.maxDocs }

/-- Every default passes the check that selects it: the three settings end positive. -/
theorem newReceiptStore_pos (conf : ReceiptStoreConf) :
    0 < (newReceiptStore conf).retryTimeoutMS ∧ 0 < (newReceiptStore conf).retryInitialDelayMS ∧
      0 < (newReceiptStore conf).maxDocs := by
  simp only [newReceiptStore, defaultRetryTimeout, defaultRetryInitialDelay, defaultMaxDocs]
  refine ⟨?_, ?_, ?_⟩ <;> split_ifs <;> omega

/-! ## Message types and the idempotency error -/

/-- The `messages.MsgType*` constants `processReply` compares against. They are not among the
repository's files; only their being pairwise different is used. -/
structure MsgTypes where
  error : String
  transactionSuccess : String
  transactionFailure : String
  transactionRedeliveryPrevented : String
  distinct : [error, transactionSuccess, transactionFailure, transactionRedeliveryPrevented].Nodup

/-- `errors.Errorf(errors.ResubmissionPreventedCheckTransactionHash)`: its `Code()` and
`ErrorNoCode()`, which are not among the repository's files. -/
structure IdempotencyErr where
  code : String
  message : String

section Types

variable (mt : MsgTypes)

theorem MsgTypes.redelivery_ne_error : mt.transactionRedeliveryPrevented ≠ mt.error := by
  have := mt.distinct; simp at this; exact fun h => this.1.2.2 h.symm

theorem MsgTypes.redelivery_ne_success :
    mt.transactionRedeliveryPrevented ≠ mt.transactionSuccess := by
  have := mt.distinct; simp at this; exact fun h => this.2.1.2 h.symm

theorem MsgTypes.redelivery_ne_failure :
    mt.transactionRedeliveryPrevented ≠ mt.transactionFailure := by
  have := mt.distinct; simp at this; exact fun h => this.2.2 h.symm

/-- The receipt types `processReply` treats as a valid receipt already in the DB. -/
def MsgTypes.IsTerminal (msgType : String) : Prop :=
  msgType = mt.transactionFailure ∨ msgType = mt.transactionSuccess

instance (msgType : String) : Decidable (mt.IsTerminal msgType) :=
  inferInstanceAs (Decidable (_ ∨ _))

end Types

/-! ## Reply processing -/

/-- `parsedMsg["receivedAt"] = ...; parsedMsg["_id"] = requestID`. -/
def stampReceipt (parsedMsg : JObj) (requestID : String) (receivedAt : Int) : JObj :=
  (parsedMsg.set "receivedAt" (.num receivedAt)).set "_id" (.str requestID)

/-- The pending receipt `writeAccepted(msgID, msgAck, msg)` hands to
`writeReceipt(msgID, msg, false)`. -/
def acceptedReceipt (msgID msgAck : String) (msg : JObj) (receivedAt : Int) : JObj :=
  (((msg.set "receivedAt" (.num receivedAt)).set "pending" (.bool true)).set "msgAck"
    (.str msgAck)).set "_id" (.str msgID)

/-- The reply rewritten into the synthetic idempotency error. -/
def idempotencyReceipt (ie : IdempotencyErr) (parsedMsg : JObj) : JObj :=
  (parsedMsg.set "errorCode" (.str ie.code)).set "errorMessage" (.str ie.message)

/-- What one `processReply` call hands on: whether the reply is offered to the gateway's
`PostDeploy` hook, and the receipt given to `writeReceipt(requestID, ..., true)`. -/
structure ReplyEffects where
  postDeploy : Bool
  persist : Option (String × JObj)

def ReplyEffects.dropped : ReplyEffects := ⟨false, none⟩

/-- The tail of `processReply` once the message to store is known. -/
def finishReply (mt : MsgTypes) (gateway hasPersistence : Bool) (now : Int) (parsedMsg : JObj)
    (requestID msgType contractAddr : String) : ReplyEffects :=
  { postDeploy := gateway && msgType == mt.transactionSuccess && contractAddr != ""
    persist := if hasPersistence then some (requestID, stampReceipt parsedMsg requestID now)
      else none }

/-- `processReply`. `parsed` is the outcome of `json.Unmarshal` into a map (`none` when it
fails); `getReceipt` is the persistence's `GetReceipt`, `none` for a nil persistence, and is
called only for a redelivery-prevented reply, where a panic it raises unwinds `processReply`;
`now` is the `receivedAt` stamp in milliseconds. -/
def processReply (mt : MsgTypes) (ie : IdempotencyErr) (gateway : Bool)
    (getReceipt : Option (String → GoResult (Option JObj))) (now : Int) :
    Option JObj → GoResult ReplyEffects
  | none => .ok .dropped
  | some parsedMsg =>
    match extractHeaders parsedMsg with
    | none => .ok .dropped
    | some headers =>
      let requestID := getMapString (some headers) "requestId"
      if requestID = "" then .ok .dropped else
      let msgType := getMapString (some headers) "type"
      let contractAddr := getMapString (some parsedMsg) "contractAddress"
      let finish (msg : JObj) :=
        finishReply mt gateway getReceipt.isSome now msg requestID msgType contractAddr
      if msgType = mt.error then .ok (finish parsedMsg)
      else if msgType = mt.transactionRedeliveryPrevented then
        match getReceipt with
        | none => .panic nilDereference
        | some get =>
          match get requestID with
          | .ok (some existingReceipt) =>
            if mt.IsTerminal (getMapString (extractHeaders existingReceipt) "type") then
              .ok .dropped
            else .ok (finish (idempotencyReceipt ie parsedMsg))
          | .panic msg => .panic msg
          | _ => .ok (finish (idempotencyReceipt ie parsedMsg))
      else .ok (finish parsedMsg)

/-- A reply whose `headers` object names request `r` and message type `ty`. -/
def IsReplyFor (msg : JObj) (r ty : String) : Prop :=
  ∃ headers, extractHeaders msg = some headers ∧
    headers.get "requestId" = some (.str r) ∧ headers.get "type" = some (.str ty)

/-- A stored receipt whose `headers.type` is `TransactionSuccess` or `TransactionFailure`. -/
def IsTerminalReceipt (mt : MsgTypes) (receipt : JObj) : Prop :=
  mt.IsTerminal (getMapString (extractHeaders receipt) "type")

instance (mt : MsgTypes) (receipt : JObj) : Decidable (IsTerminalReceipt mt receipt) :=
  inferInstanceAs (Decidable (mt.IsTerminal _))

section Replies

variable (mt : MsgTypes) (ie : IdempotencyErr) (gateway : Bool)
  (getReceipt : Option (String → GoResult (Option JObj))) (now : Int)

/-- Any reply other than a redelivery-prevented one is persisted as it came, stamped. -/
theorem processReply_of_ne_redelivery {msg : JObj} {r ty : String} (hr : r ≠ "")
    (hmsg : IsReplyFor msg r ty) (hty : ty ≠ mt.transactionRedeliveryPrevented) :
    processReply mt ie gateway getReceipt now (some msg) =
      .ok (finishReply mt gateway getReceipt.isSome now msg r ty
        (getMapString (some msg) "contractAddress")) := by
  obtain ⟨headers, hh, hid, hty'⟩ := hmsg
  simp only [processReply, hh, getMapString_of_get hid, getMapString_of_get hty', hr, if_false,
    hty]
  split_ifs <;> rfl

/-- A stamped receipt holds `_id` and `receivedAt` as stamped, and every other key as the reply
held it. -/
theorem stampReceipt_spec (parsedMsg : JObj) (requestID : String) (receivedAt : Int) :
    (stampReceipt parsedMsg requestID receivedAt).get "_id" = some (.str requestID) ∧
    (stampReceipt parsedMsg requestID receivedAt).get "receivedAt" = some (.num receivedAt) ∧
    ∀ k, k ≠ "_id" → k ≠ "receivedAt" →
      (stampReceipt parsedMsg requestID receivedAt).get k = parsedMsg.get k :=
  ⟨JObj.get_set_self .., by rw [stampReceipt, JObj.get_set_ne _ _ (by decide), JObj.get_set_self],
    fun _ h₁ h₂ => by rw [stampReceipt, JObj.get_set_ne _ _ h₁, JObj.get_set_ne _ _ h₂]⟩

/-- The idempotency error carries the error's code and message over the reply. -/
theorem idempotencyReceipt_spec (ie : IdempotencyErr) (parsedMsg : JObj) :
    (idempotencyReceipt ie parsedMsg).get "errorCode" = some (.str ie.code) ∧
    (idempotencyReceipt ie parsedMsg).get "errorMessage" = some (.str ie.message) ∧
    ∀ k, k ≠ "errorCode" → k ≠ "errorMessage" →
      (idempotencyReceipt ie parsedMsg).get k = parsedMsg.get k :=
  ⟨by rw [idempotencyReceipt, JObj.get_set_ne _ _ (by decide), JObj.get_set_self],
    JObj.get_set_self .., fun _ h₁ h₂ => by
      rw [idempotencyReceipt, JObj.get_set_ne _ _ h₂, JObj.get_set_ne _ _ h₁]⟩

theorem extractHeaders_stampReceipt (msg : JObj) (r : String) (ts : Int) :
    extractHeaders (stampReceipt msg r ts) = extractHeaders msg := by
  simp [extractHeaders, stampReceipt]

/-- A stamped success or failure reply reads back as a terminal receipt. -/
theorem isTerminalReceipt_stampReceipt {msg : JObj} {r ty : String} (hmsg : IsReplyFor msg r ty)
    (hty : mt.IsTerminal ty) (ts : Int) : IsTerminalReceipt mt (stampReceipt msg r ts) := by
  obtain ⟨headers, hh, -, hty'⟩ := hmsg
  rw [IsTerminalReceipt, extractHeaders_stampReceipt, hh, getMapString_of_get hty']
  exact hty

end Replies

/-! ## The persistence contract -/

/-- The receipts a persistence holds, by `_id`. -/
abbrev Stored := String → Option JObj

/-- `receipts[id] = receipt`. -/
def Stored.put (s : Stored) (id : String) (receipt : JObj) : Stored :=
  fun k => if k = id then some receipt else s k

@[simp] theorem Stored.put_self (s : Stored) (id : String) (receipt : JObj) :
    s.put id receipt id = some receipt := by simp [Stored.put]

@[simp] theorem Stored.put_ne (s : Stored) {id k : String} (receipt : JObj) (h : k ≠ id) :
    s.put id receipt k = s k := by simp [Stored.put, h]

/-- `AddReceipt` as its contract states it, when the write goes through: with
`overwrite = false` it fails on an existing id, otherwise it stores the receipt. -/
def Stored.addReceipt (s : Stored) (id : String) (receipt : JObj) (overwrite : Bool) :
    Option Stored :=
  if !overwrite && (s id).isSome then none else some (s.put id receipt)

/-- The store after `writeReceipt(requestID, ..., true)` of a processed reply has succeeded. -/
def Stored.persistReply (s : Stored) (e : ReplyEffects) : Stored :=
  match e.persist with
  | some (id, receipt) => s.put id receipt
  | none => s

/-! ## Redelivery-prevented replies and terminal receipts -/

section Redelivery

variable (mt : MsgTypes) (ie : IdempotencyErr) (gateway : Bool)
  (get : String → GoResult (Option JObj)) (now : Int)

/-- The branch a redelivery-prevented reply for `r` takes, whatever `GetReceipt` answers. -/
theorem processReply_redelivery {msg : JObj} {r : String} (hr : r ≠ "")
    (hmsg : IsReplyFor msg r mt.transactionRedeliveryPrevented) :
    processReply mt ie gateway (some get) now (some msg) =
      match get r with
      | .ok (some existing) =>
        if IsTerminalReceipt mt existing then .ok .dropped
        else .ok (finishReply mt gateway true now (idempotencyReceipt ie msg) r
          mt.transactionRedeliveryPrevented (getMapString (some msg) "contractAddress"))
      | .panic m => .panic m
      | _ => .ok (finishReply mt gateway true now (idempotencyReceipt ie msg) r
          mt.transactionRedeliveryPrevented (getMapString (some msg) "contractAddress")) := by
  obtain ⟨headers, hh, hid, hty⟩ := hmsg
  simp only [processReply, hh, getMapString_of_get hid, getMapString_of_get hty, hr,
    if_false, mt.redelivery_ne_error, Option.isSome_some, IsTerminalReceipt]
  rfl

end Redelivery

/-- The message types as the spec spells them. -/
def sampleMsgTypes : MsgTypes where
  error := "error"
  transactionSuccess := "transaction-success"
  transactionFailure := "transaction-failure"
  transactionRedeliveryPrevented := "transaction-redelivery-prevented"
  distinct := by decide

/-- Scenario S4's stored receipt: `req-4` already succeeded. -/
def sampleSuccess : JObj :=
  [("headers", .obj [("requestId", .str "req-4"), ("type", .str "transaction-success")])]

/-- A redelivery-prevented reply for `req-4`. -/
def sampleRedelivery : JObj :=
  [("headers", .obj [("requestId", .str "req-4"),
    ("type", .str "transaction-redelivery-prevented")])]

def sampleStored : Stored := fun k => if k = "req-4" then some sampleSuccess else none

end Ethconnect.Receipts
