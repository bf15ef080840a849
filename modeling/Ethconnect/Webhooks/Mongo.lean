import Mathlib.Logic.Relation
import Ethconnect.Webhooks.Reply

/-!
# The webhooks bridge's MongoDB collection

`connectMongoDB` does nothing when no URL is configured. Otherwise it connects, sets `w.mongo` to
the collection that `conf.MongoDB.Database` and `Collection` name, and creates it, capped when
`MaxDocs` is positive. A failed `Create` only means that the collection exists and is logged, so
the one error `connectMongoDB` returns is the connect's. `processReply` inserts a reply only
while `w.mongo` is set.

The bridge's state is `w.mongo` and the documents handed to `Insert`. Its events are calls of
`connectMongoDB` and the replies `ConsumerMessagesLoop` hands to `processReply`, in any order,
until a panic ends the loop. The MongoDB driver is not among the repository's files: what
`Connect` returns is a parameter of each call, as the tests' `mockMongo` makes it.

## Main results

* `connectMongoDB_eq_error`: `connectMongoDB` fails only when `Connect` does, with its message.
* `webhooksBridge_inserts`: with no URL configured nothing is ever inserted, and every insert goes
  to the configured collection, keyed by a non-empty request ID.
-/

namespace Ethconnect.Webhooks

/-- `conf.MongoDB`: the settings `connectMongoDB` reads. -/
structure MongoDBConf where
  url : String
  database : String
  collection : String
  maxDocs : Int

/-- The fields of `mgo.CollectionInfo` that `connectMongoDB` sets. -/
structure CollectionInfo where
  capped : Bool
  maxDocs : Int
  deriving DecidableEq, Repr

/-- `w.mongo`: the collection `GetCollection(database, collection)` returned, and the
`CollectionInfo` it was created with. -/
structure MongoCollection where
  database : String
  collection : String
  info : CollectionInfo
  deriving DecidableEq, Repr

/-- The collection that `connectMongoDB` sets `w.mongo` to. -/
def MongoDBConf.mongoCollection (conf : MongoDBConf) : MongoCollection :=
  ⟨conf.database, conf.collection, ⟨conf.maxDocs > 0, conf.maxDocs⟩⟩

/-- `connectMongoDB(mongo)`, where `connect` is the error of `mongo.Connect(url)`: the collection
`w.mongo` is set to, or `none` when it is left as it was. -/
def connectMongoDB (connect : String → Option String) (conf : MongoDBConf) :
    Except String (Option MongoCollection) :=
  if conf.url = "" then .ok none
  else match connect conf.url with
    | some err => .error ("Unable to connect to MongoDB: " ++ err)
    | none => .ok (some conf.mongoCollection)

theorem connectMongoDB_eq_error {connect : String → Option String} {conf : MongoDBConf}
    {e : String} :
    connectMongoDB connect conf = .error e ↔
      conf.url ≠ "" ∧
        ∃ err, connect conf.url = some err ∧ e = "Unable to connect to MongoDB: " ++ err := by
  unfold connectMongoDB
  split_ifs with hu
  · simp [hu]
  · cases connect conf.url <;> simp [hu, eq_comm]

theorem connectMongoDB_eq_some {connect : String → Option String} {conf : MongoDBConf}
    {c : MongoCollection} (h : connectMongoDB connect conf = .ok (some c)) :
    conf.url ≠ "" ∧ c = conf.mongoCollection := by
  unfold connectMongoDB at h
  split_ifs at h with hu
  · cases h
  · cases hc : connect conf.url <;> simp only [hc] at h <;> cases h
    exact ⟨hu, rfl⟩

/-- A document `processReply` hands to `Insert` is the parsed reply keyed by a non-empty request
ID, and is handed on only while a collection is set. -/
theorem processReply_eq_some {msgTypeError : String} {mongo : Bool} {parsed : Option JVal}
    {doc : JObj} (h : processReply msgTypeError mongo parsed = .ok (some doc)) :
    mongo = true ∧ ∃ parsedMsg : JObj, ∃ requestId, requestId ≠ "" ∧
      doc = parsedMsg.set "_id" (.str requestId) := by
  simp only [processReply] at h
  rcases hu : unmarshalMap parsed with _ | parsedMsg <;> simp only [hu] at h
  · cases h
  rcases hh : parsedMsg.get "headers" with _ | iHeaders <;> simp only [hh] at h
  · cases h
  cases iHeaders <;> simp only at h
  case obj headers =>
    obtain ⟨requestId, -, h⟩ := GoResult.bind_eq_ok.mp h
    by_cases hid : requestId = ""
    · simp [hid] at h
    rw [if_neg hid] at h
    obtain ⟨_, -, h⟩ := GoResult.bind_eq_ok.mp h
    obtain ⟨_, -, h⟩ := GoResult.bind_eq_ok.mp h
    obtain ⟨_, -, h⟩ := GoResult.bind_eq_ok.mp h
    -- Both branches of the message type end in the same insert.
    have hfinal : ∀ r : GoResult String, (r >>= fun _ =>
        if requestId ≠ "" ∧ mongo = true then pure (some (parsedMsg.set "_id" (.str requestId)))
        else pure none) = .ok (some doc) →
        mongo = true ∧ doc = parsedMsg.set "_id" (.str requestId) := by
      intro r hr
      obtain ⟨_, -, hr⟩ := GoResult.bind_eq_ok.mp hr
      split_ifs at hr with hm
      · cases hr
        exact ⟨hm.2, rfl⟩
      · cases hr
    have hdoc : mongo = true ∧ doc = parsedMsg.set "_id" (.str requestId) := by
      split at h <;> exact hfinal _ h
    exact ⟨hdoc.1, parsedMsg, requestId, hid, hdoc.2⟩
  all_goals cases h

/-! ## The bridge -/

structure WebhooksBridge where
  mongo : Option MongoCollection
  /-- The documents handed to `w.mongo.Insert`, latest first, with the collection. -/
  inserted : List (MongoCollection × JObj)
  /-- The panic that ended `ConsumerMessagesLoop`. -/
  stopped : Option String

inductive WebhooksEvent where
  /-- A call of `connectMongoDB`, whose `Connect` returns `connect url`. -/
  | connectMongoDB (connect : String → Option String)
  /-- `ConsumerMessagesLoop` hands a reply to `processReply`. -/
  | reply (parsed : Option JVal)

namespace WebhooksBridge

/-- A new bridge: `w.mongo` is nil. -/
def init : WebhooksBridge := ⟨none, [], none⟩

def step (msgTypeError : String) (conf : MongoDBConf) (s : WebhooksBridge) :
    WebhooksEvent → Option WebhooksBridge
  | .connectMongoDB connect => some (match connectMongoDB connect conf with
      | .ok (some c) => { s with mongo := some c }
      | _ => s)
  | .reply parsed =>
    if s.stopped.isSome then none
    else some (match processReply msgTypeError s.mongo.isSome parsed, s.mongo with
      | .ok (some doc), some c => { s with inserted := (c, doc) :: s.inserted }
      | .panic msg, _ => { s with stopped := some msg }
      | _, _ => s)

/-- The states a run of the bridge reaches. -/
def Reachable (msgTypeError : String) (conf : MongoDBConf) (s : WebhooksBridge) : Prop :=
  Relation.ReflTransGen (fun s t => ∃ e, step msgTypeError conf s e = some t) init s

/-- What every reachable state keeps. -/
structure Inv (conf : MongoDBConf) (s : WebhooksBridge) : Prop where
  mongo_eq : ∀ c, s.mongo = some c → conf.url ≠ "" ∧ c = conf.mongoCollection
  inserted_eq : ∀ e ∈ s.inserted, s.mongo = some e.1 ∧
    ∃ requestId, requestId ≠ "" ∧ e.2.get "_id" = some (.str requestId)

theorem Inv.step {msgTypeError : String} {conf : MongoDBConf} {s t : WebhooksBridge}
    {e : WebhooksEvent} (hs : Inv conf s) (h : s.step msgTypeError conf e = some t) :
    Inv conf t := by
  cases e with
  | connectMongoDB connect =>
    simp only [WebhooksBridge.step, Option.some.injEq] at h
    subst h
    split
    · next c hc =>
      obtain ⟨hu, rfl⟩ := connectMongoDB_eq_some hc
      refine ⟨fun c' h' => by cases h'; exact ⟨hu, rfl⟩, fun e he => ⟨?_, (hs.inserted_eq e he).2⟩⟩
      obtain ⟨hm, -⟩ := hs.inserted_eq e he
      rw [← (hs.mongo_eq _ hm).2]
    · exact hs
  | reply parsed =>
    simp only [WebhooksBridge.step] at h
    split_ifs at h
    cases h
    split
    · next doc c hp hc =>
      obtain ⟨-, parsedMsg, requestId, hid, rfl⟩ := processReply_eq_some hp
      refine ⟨hs.mongo_eq, fun e he => ?_⟩
      rcases List.mem_cons.mp he with rfl | he
      · exact ⟨hc, requestId, hid, JObj.get_set_self _ _ _⟩
      · exact hs.inserted_eq e he
    · exact ⟨hs.mongo_eq, hs.inserted_eq⟩
    · exact hs

theorem Reachable.inv {msgTypeError : String} {conf : MongoDBConf} {s : WebhooksBridge}
    (hs : Reachable msgTypeError conf s) : Inv conf s := by
  induction hs with
  | refl => exact ⟨nofun, nofun⟩
  | tail _ h ih => obtain ⟨e, he⟩ := h; exact ih.step he

/-- In every run, a bridge with no MongoDB URL never inserts, and every document inserted went to
the configured collection, created capped exactly when `MaxDocs` is positive, keyed by a
non-empty request ID. -/
theorem webhooksBridge_inserts {msgTypeError : String} {conf : MongoDBConf} {s : WebhooksBridge}
    (hs : Reachable msgTypeError conf s) :
    (conf.url = "" → s.inserted = []) ∧
      ∀ e ∈ s.inserted, e.1 = ⟨conf.database, conf.collection, ⟨conf.maxDocs > 0, conf.maxDocs⟩⟩ ∧
        ∃ requestId, requestId ≠ "" ∧ e.2.get "_id" = some (.str requestId) := by
  have hi := hs.inv
  have hcoll : ∀ e ∈ s.inserted, conf.url ≠ "" ∧ e.1 = conf.mongoCollection :=
    fun e he => hi.mongo_eq _ (hi.inserted_eq e he).1
  refine ⟨fun hu => List.eq_nil_iff_forall_not_mem.mpr fun e he => (hcoll e he).1 hu,
    fun e he => ⟨(hcoll e he).2, (hi.inserted_eq e he).2⟩⟩

/-- A bridge connected to a capped collection stores a success reply. -/
theorem webhooksBridge_inserts_sample : ∃ s, Reachable "Error"
      ⟨"mongodb://localhost:27017", "receipts", "replies", 1000⟩ s ∧ s.inserted ≠ [] ∧
    (("mongodb://localhost:27017" = "" → s.inserted = []) ∧
      ∀ e ∈ s.inserted, e.1 = ⟨"receipts", "replies", ⟨(1000 : Int) > 0, 1000⟩⟩ ∧
        ∃ requestId, requestId ≠ "" ∧ e.2.get "_id" = some (.str requestId)) := by
  have h : Reachable "Error" ⟨"mongodb://localhost:27017", "receipts", "replies", 1000⟩ _ :=
    .tail (.single ⟨.connectMongoDB fun _ => none, rfl⟩)
      ⟨.reply (some (.obj [("headers", .obj [("requestId", .str "req-1"),
        ("type", .str "TransactionSuccess")]), ("transactionHash", .str "0x1")])), rfl⟩
  exact ⟨_, h, nofun, webhooksBridge_inserts h⟩

end WebhooksBridge

end Ethconnect.Webhooks
