import Ethconnect.Basic

/-!
# The webhooks bridge: reply processing

`ConsumerMessagesLoop` hands every reply read from Kafka to `processReply`, which parses it,
takes `headers.requestId` as the key, and inserts the parsed reply into MongoDB with `_id` set to
that key. `processReply` means to contain all errors, but two of its checks go through
reflection and type assertions that panic: `headers` is asserted to be an object whatever its
type, and `getString` asks `reflect.TypeOf(val).Kind()` of a JSON `null`, whose type is nil.

A message enters the model as the value `encoding/json` decodes its bytes to (`none` when they
are not JSON); every value is the decoding of its own text, so quantifying over values covers
every byte string. `kldmessages.MsgTypeError` is not among the repository's files and is a
parameter.

`processReply_contract` says exactly when `processReply` panics and when it inserts, and with
what document; `processReply_panics_on_headers` is a reply on which it panics.
-/

namespace Ethconnect.Webhooks

/-- The dynamic type of a decoded JSON value, as a failed type assertion names it. -/
def goTypeName : JVal → String
  | .null => "nil"
  | .bool _ => "bool"
  | .num _ => "float64"
  | .str _ => "string"
  | .arr _ => "[]interface \x7b\x7d"
  | .obj _ => "map[string]interface \x7b\x7d"

/-- `getString(genericMap, key)`: the string under `key`, `""` for an absent key or another
kind; `reflect.TypeOf` of a `null` is a nil `Type`, on which `Kind()` panics. -/
def getString (genericMap : JObj) (key : String) : GoResult String :=
  match genericMap.get key with
  | some .null => .panic nilDereference
  | some (.str s) => .ok s
  | _ => .ok ""

/-- `json.Unmarshal(msgBytes, &parsedMsg)` into a `map[string]interface{}`: an object gives its
map, `null` leaves the map nil, any other value is a type error. -/
def unmarshalMap : Option JVal → Option JObj
  | some (.obj m) => some m
  | some .null => some []
  | _ => none

/-- `processReply(msgBytes)`, with the document it hands to `w.mongo.Insert`; `mongo` says
whether a collection is configured. -/
def processReply (msgTypeError : String) (mongo : Bool) (parsed : Option JVal) :
    GoResult (Option JObj) := do
  let some parsedMsg := unmarshalMap parsed | return none
  let some iHeaders := parsedMsg.get "headers" | return none
  -- `reflect.TypeOf(headers)` is the type of the nil map declared above: always a map.
  let .obj headers := iHeaders
    | .panic ("interface conversion: interface \x7b\x7d is " ++ goTypeName iHeaders ++
        ", not map[string]interface \x7b\x7d")
  let requestId ← getString headers "requestId"
  if requestId = "" then return none
  let _reqOffset ← getString headers "reqOffset"
  let msgType ← getString headers "type"
  let _result ← if msgType = msgTypeError then getString parsedMsg "errorMessage"
    else getString parsedMsg "transactionHash"
  if requestId ≠ "" ∧ mongo then return some (parsedMsg.set "_id" (.str requestId))
  else return none

/-- `ConsumerMessagesLoop`: `processReply` on each message in turn, until a panic ends the
loop, and the process with it. The documents inserted, and the panic if there was one. -/
def consumerMessagesLoop (msgTypeError : String) (mongo : Bool) :
    List (Option JVal) → List JObj × Option String
  | [] => ([], none)
  | msg :: msgs =>
    match processReply msgTypeError mongo msg with
    | .ok inserted =>
      let (docs, stop) := consumerMessagesLoop msgTypeError mongo msgs
      (inserted.toList ++ docs, stop)
    | .error _ => consumerMessagesLoop msgTypeError mongo msgs
    | .panic msg => ([], some msg)

/-! ## `getString` -/

theorem getString_of_ne_null {m : JObj} {key : String} (h : m.get key ≠ some .null) :
    getString m key = .ok (getMapString (some m) key) := by
  unfold getString getMapString
  split <;> simp_all

theorem getString_of_null {m : JObj} {key : String} (h : m.get key = some .null) :
    getString m key = .panic nilDereference := by
  simp [getString, h]

/-! ## What `processReply` does -/

/-- After a non-empty request ID, `processReply` panics on a `null` where it reads `reqOffset`,
`type`, or the result field the type selects. -/
def TailPanics (msgTypeError : String) (parsedMsg headers : JObj) : Prop :=
  headers.get "reqOffset" = some .null ∨ headers.get "type" = some .null ∨
    getMapString (some headers) "type" = msgTypeError ∧
      parsedMsg.get "errorMessage" = some .null ∨
    getMapString (some headers) "type" ≠ msgTypeError ∧
      parsedMsg.get "transactionHash" = some .null

/-- The parsed replies `processReply` panics on: a `headers` member that is no object, a `null`
request ID, or a non-empty request ID followed by a `TailPanics` read. -/
def Panics (msgTypeError : String) (parsedMsg : JObj) : Prop :=
  ∃ iHeaders, parsedMsg.get "headers" = some iHeaders ∧
    match iHeaders with
    | .obj headers => JObj.get headers "requestId" = some .null ∨
      getMapString (some headers) "requestId" ≠ "" ∧ TailPanics msgTypeError parsedMsg headers
    | _ => True

/-- Once `processReply` has read a non-empty request ID, it panics exactly on a `TailPanics`
read, and otherwise inserts when a collection is configured. -/
theorem processReply_of_requestId (msgTypeError : String) (mongo : Bool) {parsed : Option JVal}
    {parsedMsg headers : JObj} (hp : unmarshalMap parsed = some parsedMsg)
    (hh : parsedMsg.get "headers" = some (.obj headers))
    (hnull : JObj.get headers "requestId" ≠ some .null)
    (hid : getMapString (some headers) "requestId" ≠ "") :
    TailPanics msgTypeError parsedMsg headers ∧
        processReply msgTypeError mongo parsed = .panic nilDereference ∨
      ¬TailPanics msgTypeError parsedMsg headers ∧
        processReply msgTypeError mongo parsed = .ok (if mongo then
          some (parsedMsg.set "_id" (.str (getMapString (some headers) "requestId"))) else none) := by
  simp only [processReply, hp, hh, getString_of_ne_null hnull, GoResult.ok_bind, if_neg hid]
  by_cases h1 : headers.get "reqOffset" = some .null
  · exact .inl ⟨.inl h1, by simp [getString_of_null h1]⟩
  rw [getString_of_ne_null h1, GoResult.ok_bind]
  by_cases h2 : headers.get "type" = some .null
  · exact .inl ⟨.inr (.inl h2), by simp [getString_of_null h2]⟩
  rw [getString_of_ne_null h2, GoResult.ok_bind]
  by_cases ht : getMapString (some headers) "type" = msgTypeError
  · by_cases h3 : parsedMsg.get "errorMessage" = some .null
    · exact .inl ⟨by simp [TailPanics, ht, h3], by simp [ht, getString_of_null h3]⟩
    · refine .inr ⟨by simp [TailPanics, h1, h2, ht, h3], ?_⟩
      cases mongo <;> simp [ht, getString_of_ne_null h3, hid]
  · by_cases h3 : parsedMsg.get "transactionHash" = some .null
    · exact .inl ⟨by simp [TailPanics, ht, h3], by simp [ht, getString_of_null h3]⟩
    · refine .inr ⟨by simp [TailPanics, h1, h2, ht, h3], ?_⟩
      cases mongo <;> simp [ht, getString_of_ne_null h3, hid]

theorem getMapString_ne_empty {m : JObj} {key : String} (h : getMapString (some m) key ≠ "") :
    m.get key = some (.str (getMapString (some m) key)) := by
  unfold getMapString at *
  split at h
  · rename_i s hs; simpa using hs
  · exact absurd rfl h

section Outcomes

variable {r : GoResult (Option JObj)} {P : Prop} {I : JObj → Prop}

/-- The contract below for a call that returns without inserting. -/
theorem contract_of_returns (hr : r = .ok none) (hP : ¬P) (hI : ∀ doc, ¬I doc) :
    (∀ e, r ≠ .error e) ∧ ((∃ m, r = .panic m) ↔ P) ∧ ∀ doc, r = .ok (some doc) ↔ I doc := by
  subst hr
  refine ⟨fun _ h => (nomatch h), ⟨fun ⟨_, h⟩ => (nomatch h), fun h => absurd h hP⟩, fun doc => ?_⟩
  exact ⟨fun h => (nomatch h), fun h => absurd h (hI doc)⟩

/-- The contract below for a call that panics. -/
theorem contract_of_panics {m : String} (hr : r = .panic m) (hP : P) (hI : ∀ doc, ¬I doc) :
    (∀ e, r ≠ .error e) ∧ ((∃ m, r = .panic m) ↔ P) ∧ ∀ doc, r = .ok (some doc) ↔ I doc := by
  subst hr
  refine ⟨fun _ h => (nomatch h), ⟨fun _ => hP, fun _ => ⟨m, rfl⟩⟩, fun doc => ?_⟩
  exact ⟨fun h => (nomatch h), fun h => absurd h (hI doc)⟩

/-- The contract below for a call that inserts `d`. -/
theorem contract_of_inserts {d : JObj} (hr : r = .ok (some d)) (hP : ¬P)
    (hI : ∀ doc, I doc ↔ doc = d) :
    (∀ e, r ≠ .error e) ∧ ((∃ m, r = .panic m) ↔ P) ∧ ∀ doc, r = .ok (some doc) ↔ I doc := by
  subst hr
  refine ⟨fun _ h => (nomatch h), ⟨fun ⟨_, h⟩ => (nomatch h), fun h => absurd h hP⟩, fun doc => ?_⟩
  rw [hI doc]
  exact ⟨fun h => by cases h; rfl, fun h => h ▸ rfl⟩

end Outcomes

/-- `processReply` never returns an error. It panics exactly on the replies `Panics` names, and
otherwise inserts one document exactly when a collection is configured and `headers.requestId` is
a non-empty string: the parsed reply with `_id` set to it. -/
theorem processReply_contract (msgTypeError : String) (mongo : Bool) (parsed : Option JVal) :
    (∀ e, processReply msgTypeError mongo parsed ≠ .error e) ∧
    ((∃ msg, processReply msgTypeError mongo parsed = .panic msg) ↔
      ∃ parsedMsg, unmarshalMap parsed = some parsedMsg ∧ Panics msgTypeError parsedMsg) ∧
    ∀ doc, processReply msgTypeError mongo parsed = .ok (some doc) ↔
      mongo = true ∧ ∃ parsedMsg headers requestId, unmarshalMap parsed = some parsedMsg ∧
        parsedMsg.get "headers" = some (.obj headers) ∧
        JObj.get headers "requestId" = some (.str requestId) ∧ requestId ≠ "" ∧
        ¬TailPanics msgTypeError parsedMsg headers ∧ doc = parsedMsg.set "_id" (.str requestId) := by
  rcases hp : unmarshalMap parsed with _ | parsedMsg
  case none =>
    exact contract_of_returns (by simp only [processReply, hp]; rfl)
      (fun ⟨_, h, _⟩ => nomatch h) fun _ ⟨_, _, _, _, h, _⟩ => nomatch h
  simp only [Option.some.injEq, exists_and_left, exists_eq_left']
  rcases hh : parsedMsg.get "headers" with _ | iHeaders
  case none =>
    exact contract_of_returns (by simp only [processReply, hp, hh]; rfl)
      (fun ⟨_, h, _⟩ => nomatch hh.symm.trans h) fun _ ⟨_, _, h, _⟩ => nomatch h
  cases iHeaders
  case obj headers =>
    have hsame : ∀ {h'}, some (JVal.obj headers) = some (.obj h') → h' = headers := by
      intro h' h; cases h; rfl
    by_cases hnull : JObj.get headers "requestId" = some .null
    · have hr : processReply msgTypeError mongo parsed = .panic nilDereference := by
        simp only [processReply, hp, hh, getString_of_null hnull, GoResult.panic_bind]
      refine contract_of_panics hr ⟨_, hh, .inl hnull⟩ fun _ ⟨_, _, hh', r, hr', _⟩ => ?_
      rw [hsame hh', hnull] at hr'
      cases hr'
    by_cases hid : getMapString (some headers) "requestId" = ""
    · have hr : processReply msgTypeError mongo parsed = .ok none := by
        simp only [processReply, hp, hh, getString_of_ne_null hnull, GoResult.ok_bind, hid]; rfl
      refine contract_of_returns hr (fun ⟨_, h, hP⟩ => ?_) fun _ ⟨_, _, hh', r, hr', hne, _⟩ => ?_
      · rw [hh] at h; cases h
        exact hP.elim hnull fun h => h.1 hid
      · rw [hsame hh'] at hr'
        exact hne (by rw [← hid, getMapString_of_get hr'])
    have hget := getMapString_ne_empty hid
    have hnotP : ¬TailPanics msgTypeError parsedMsg headers → ¬Panics msgTypeError parsedMsg :=
      fun ht ⟨_, h, hP⟩ => by
        rw [hh] at h; cases h
        exact hP.elim hnull fun h => ht h.2
    rcases processReply_of_requestId msgTypeError mongo hp hh hnull hid with ⟨ht, hr⟩ | ⟨ht, hr⟩
    · exact contract_of_panics hr ⟨_, hh, .inr ⟨hid, ht⟩⟩
        fun _ ⟨_, _, hh', _, _, _, hnt, _⟩ => hnt (hsame hh' ▸ ht)
    cases mongo
    · exact contract_of_returns hr (hnotP ht) fun _ ⟨h, _⟩ => nomatch h
    · refine contract_of_inserts hr (hnotP ht) fun doc => ⟨fun ⟨_, _, hh', r, hr', _, _, hd⟩ => ?_,
        fun hd => ⟨rfl, headers, rfl, _, hget, hid, ht, hd⟩⟩
      rw [hsame hh', hget] at hr'
      cases hr'
      exact hd
  all_goals
    obtain ⟨m, hr⟩ : ∃ m, processReply msgTypeError mongo parsed = .panic m :=
      ⟨_, by simp only [processReply, hp, hh]; rfl⟩
    exact contract_of_panics hr ⟨_, hh, trivial⟩ fun _ ⟨_, _, h, _⟩ => nomatch h

/-- A `headers` member that is a number, or a `null` request ID: `processReply` panics, with a
collection configured and `MsgTypeError` = `Error`. -/
theorem processReply_panics_on_headers :
    processReply "Error" true (some (.obj [("headers", .num 1)])) =
        .panic ("interface conversion: interface \x7b\x7d is float64, not " ++
          "map[string]interface \x7b\x7d") ∧
      processReply "Error" true (some (.obj [("headers", .obj [("requestId", .null)])])) =
        .panic nilDereference :=
  ⟨rfl, rfl⟩

/-! ## The consumer loop -/

section Loop

variable (msgTypeError : String) (mongo : Bool)

theorem consumerMessagesLoop_panic {m : Option JVal} {msg : String}
    (h : processReply msgTypeError mongo m = .panic msg) (post : List (Option JVal)) :
    consumerMessagesLoop msgTypeError mongo (m :: post) = ([], some msg) := by
  simp [consumerMessagesLoop, h]

/-- A run that does not panic hands the rest of the stream to the loop unchanged, and its own
documents come first. -/
theorem consumerMessagesLoop_append {pre : List (Option JVal)}
    (hpre : (consumerMessagesLoop msgTypeError mongo pre).2 = none) (post : List (Option JVal)) :
    consumerMessagesLoop msgTypeError mongo (pre ++ post) =
      ((consumerMessagesLoop msgTypeError mongo pre).1 ++
        (consumerMessagesLoop msgTypeError mongo post).1,
        (consumerMessagesLoop msgTypeError mongo post).2) := by
  induction pre with
  | nil => rfl
  | cons m pre ih =>
    rcases hm : processReply msgTypeError mongo m with d | e | msg
    · simp only [consumerMessagesLoop, hm] at hpre ⊢
      simp [ih hpre]
    · simp only [consumerMessagesLoop, hm] at hpre ⊢
      exact ih hpre
    · simp [consumerMessagesLoop, hm] at hpre

/-- Once a reply panics, no reply after it is inserted: the loop's documents are those of the
replies before it. -/
theorem consumerMessagesLoop_stops {pre : List (Option JVal)} {m : Option JVal} {msg : String}
    (hpre : (consumerMessagesLoop msgTypeError mongo pre).2 = none)
    (hm : processReply msgTypeError mongo m = .panic msg) (post : List (Option JVal)) :
    consumerMessagesLoop msgTypeError mongo (pre ++ m :: post) =
      ((consumerMessagesLoop msgTypeError mongo pre).1, some msg) := by
  rw [consumerMessagesLoop_append msgTypeError mongo hpre, consumerMessagesLoop_panic _ _ hm,
    List.append_nil]

end Loop

end Ethconnect.Webhooks
