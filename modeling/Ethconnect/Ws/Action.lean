import Mathlib.Data.List.Nodup
import Ethconnect.Basic

/-!
# Batch delivery over one WebSocket topic

Every `attemptBatch` call on a topic runs the same two selects: send the batch on the topic's
channel, then, in unicast mode, wait for one value on the topic's receiver channel. All calls
on the topic share the sender and the receiver channel. The subscriber acknowledges the
batches it takes, once each and in the order it took them. The update-interrupt and closing
channels may fire at any point, so either select may lose to them.

A run is a sequence of rendezvous: `take i` (the subscriber takes call `i`'s batch), `ack i`
(call `i` takes the subscriber's next acknowledgement), and the interrupts. As ghost state the
topic records the calls whose batches were taken, in order, and how many acknowledgements
have been received, and each call the operations it made on the channels. Nothing ties an
acknowledgement to the call that waits for it: the `n`-th acknowledgement received belongs to
the `n`-th batch taken (`attemptBatch_ack_order`). Each call that has returned did and returned
what the one-call `attemptBatch` does for the winners of its selects (`attemptBatch_refines`);
with a nil spec, `attemptBatch` panics (`attemptBatch_nil_spec_panics`).
-/

namespace Ethconnect.Ws

/-- What `attemptBatch` returns. -/
inductive BatchResult where
  | ok
  | clientError (err : String)
  | interruptedSend
  | interruptedReceive
  deriving DecidableEq, Repr

/-- `err = <-receiver`: the client's acknowledgement, nil or an error. -/
def ackResult : Option String → BatchResult
  | none => .ok
  | some err => .clientError err

/-- The results that come from the receiver channel: a nil or an error acknowledgement. -/
def BatchResult.IsAck : BatchResult → Prop
  | .ok => True
  | .clientError _ => True
  | _ => False

/-! ## One call

`attemptBatch` on its own: which case wins each select is an input, so every behaviour of the
subscriber, the update-interrupt channel and the topic's closing channel is one choice of the
two inputs. `DistributionModeBroadcast` is not among the repository's files and is a
parameter. -/

/-- What `attemptBatch` reads of `webSocketActionInfo`. -/
structure WebSocketActionInfo where
  topic : String
  distributionMode : String
  deriving DecidableEq, Repr

/-- `webSocketAction`: the event stream's WebSocket channels are configured, and the spec may
be nil. -/
structure WebSocketAction where
  spec : Option WebSocketActionInfo
  deriving DecidableEq, Repr

/-- `newWebSocketAction(es, spec)`, with `wsChannels` whether `es.wsChannels` is non-nil. -/
def newWebSocketAction (wsChannels : Bool) (spec : Option WebSocketActionInfo) :
    Except String WebSocketAction :=
  if wsChannels then .ok ⟨spec⟩ else .error "EventStreamsWebSocketNotConfigured"

/-- The case that wins the first select. -/
inductive SendCase where
  | sent
  | updateInterrupt
  | closing
  deriving DecidableEq, Repr

/-- The case that wins the second select; `received err` is `err = <-receiver`. -/
inductive ReceiveCase where
  | received (err : Option String)
  | updateInterrupt
  | closing
  deriving DecidableEq, Repr

/-- What happens on the channels during a call. -/
inductive ChannelOp where
  | getChannels (topic : String)
  /-- The subscriber took the batch, from the broadcaster channel or from the sender channel. -/
  | taken (fromBroadcaster : Bool)
  /-- The call took a value from the receiver channel. -/
  | received (err : Option String)
  deriving DecidableEq, Repr

/-- `w.attemptBatch(batchNumber, attempt, events)`: the channel operations, in order, and how
the call ends. -/
def WebSocketAction.attemptBatch (distributionModeBroadcast : String) (w : WebSocketAction)
    (send : SendCase) (receive : ReceiveCase) : List ChannelOp × GoResult BatchResult :=
  let topic := match w.spec with
    | some spec => spec.topic
    | none => ""
  let ops := [ChannelOp.getChannels topic]
  match w.spec with
  | none => (ops, .panic nilDereference)
  | some spec =>
    let toBroadcaster := spec.distributionMode = distributionModeBroadcast
    match send with
    | .updateInterrupt | .closing => (ops, .ok .interruptedSend)
    | .sent =>
      let ops := ops ++ [.taken toBroadcaster]
      if spec.distributionMode ≠ distributionModeBroadcast then
        match receive with
        | .received err => (ops ++ [.received err], .ok (ackResult err))
        | .updateInterrupt | .closing => (ops, .ok .interruptedReceive)
      else (ops, .ok .ok)

/-- A nil spec, which `newWebSocketAction` accepts: `GetChannels("")` runs, and then reading
`w.spec.DistributionMode` panics. -/
theorem attemptBatch_nil_spec_panics :
    newWebSocketAction true none = .ok ⟨none⟩ ∧
      (WebSocketAction.mk none).attemptBatch "broadcast" .sent (.received none) =
        ([.getChannels ""], .panic nilDereference) :=
  ⟨rfl, rfl⟩

inductive CallPc where
  /-- In the first select, offering the batch. -/
  | sending
  /-- In the second select, waiting on the receiver channel. -/
  | waiting
  | done (r : BatchResult)
  deriving DecidableEq, Repr

structure BatchCall where
  /-- `w.spec.DistributionMode == DistributionModeBroadcast`. -/
  broadcast : Bool
  pc : CallPc
  /-- Ghost: the position of this call's batch among the batches taken. -/
  takenAt : Option Nat
  /-- Ghost: the position of the acknowledgement this call received among those received. -/
  ackAt : Option Nat
  /-- Ghost: the call whose batch that acknowledgement answered. -/
  ackOf : Option Nat
  /-- Ghost: what the call has done on the topic's channels since `GetChannels`, in order. -/
  ops : List ChannelOp
  deriving Repr

structure TopicDelivery where
  calls : List BatchCall
  /-- The subscriber's batches taken and not yet acknowledged, oldest first, by call. -/
  unacked : List Nat
  /-- Ghost: the calls whose batches were taken from the sender channel, in order. -/
  taken : List Nat
  /-- Ghost: the acknowledgements received so far. -/
  acks : Nat
  deriving Repr

def TopicDelivery.init : TopicDelivery := ⟨[], [], [], 0⟩

inductive DeliveryEvent where
  /-- An event stream calls `attemptBatch` on the topic. -/
  | attemptBatch (broadcast : Bool)
  /-- A subscriber takes call `i`'s batch. -/
  | take (i : Nat)
  /-- Call `i` receives the subscriber's acknowledgement of its oldest unacknowledged batch. -/
  | ack (i : Nat) (err : Option String)
  /-- `<-w.es.updateInterrupt` or `<-closing` wins call `i`'s first select. -/
  | interruptSend (i : Nat)
  /-- `<-w.es.updateInterrupt` or `<-closing` wins call `i`'s second select. -/
  | interruptReceive (i : Nat)

namespace TopicDelivery

def setCall (s : TopicDelivery) (i : Nat) (c : BatchCall) : TopicDelivery :=
  { s with calls := s.calls.set i c }

@[simp] theorem setCall_calls (s : TopicDelivery) (i : Nat) (c : BatchCall) :
    (s.setCall i c).calls = s.calls.set i c := rfl

@[simp] theorem setCall_unacked (s : TopicDelivery) (i : Nat) (c : BatchCall) :
    (s.setCall i c).unacked = s.unacked := rfl

@[simp] theorem setCall_taken (s : TopicDelivery) (i : Nat) (c : BatchCall) :
    (s.setCall i c).taken = s.taken := rfl

@[simp] theorem setCall_acks (s : TopicDelivery) (i : Nat) (c : BatchCall) :
    (s.setCall i c).acks = s.acks := rfl

def step (s : TopicDelivery) : DeliveryEvent → Option TopicDelivery
  | .attemptBatch broadcast =>
    some { s with calls := s.calls ++ [⟨broadcast, .sending, none, none, none, []⟩] }
  | .take i => s.calls[i]?.bind fun c =>
    match c.pc, c.broadcast with
    | .sending, true => some (s.setCall i { c with pc := .done .ok, ops := c.ops ++ [.taken true] })
    | .sending, false => some
      { s.setCall i { c with
          pc := .waiting, takenAt := some s.taken.length, ops := c.ops ++ [.taken false] } with
        taken := s.taken ++ [i], unacked := s.unacked ++ [i] }
    | _, _ => none
  | .ack i err => s.calls[i]?.bind fun c =>
    match c.pc, s.unacked with
    | .waiting, b :: rest => some
      { s.setCall i { c with
          pc := .done (ackResult err), ackAt := some s.acks, ackOf := some b,
          ops := c.ops ++ [.received err] } with
        unacked := rest, acks := s.acks + 1 }
    | _, _ => none
  | .interruptSend i => s.calls[i]?.bind fun c =>
    match c.pc with
    | .sending => some (s.setCall i { c with pc := .done .interruptedSend })
    | _ => none
  | .interruptReceive i => s.calls[i]?.bind fun c =>
    match c.pc with
    | .waiting => some (s.setCall i { c with pc := .done .interruptedReceive })
    | _ => none

inductive Reachable : TopicDelivery → Prop
  | init : Reachable init
  | step {s s' : TopicDelivery} (e : DeliveryEvent) : Reachable s → s.step e = some s' →
      Reachable s'

/-! ## The invariant -/

/-- What the topic's history says about call `i`. -/
def CallOk (s : TopicDelivery) (i : Nat) (c : BatchCall) : Prop :=
  (c.pc = .sending → i ∉ s.taken) ∧
  (∀ k, c.takenAt = some k → s.taken[k]? = some i) ∧
  (∀ n, c.ackAt = some n → n < s.acks ∧ c.ackOf = s.taken[n]?) ∧
  (c.pc = .waiting → c.takenAt.isSome) ∧
  (c.broadcast = false → ∀ r, c.pc = .done r → r.IsAck → c.takenAt.isSome ∧ c.ackAt.isSome)

structure DeliveryInv (s : TopicDelivery) : Prop where
  unacked_eq : s.unacked = s.taken.drop s.acks
  acks_le : s.acks ≤ s.taken.length
  taken_nodup : s.taken.Nodup
  taken_lt : ∀ i ∈ s.taken, i < s.calls.length
  calls_ok : ∀ i c, s.calls[i]? = some c → CallOk s i c

theorem deliveryInv_init : DeliveryInv init :=
  ⟨rfl, le_rfl, List.nodup_nil, by simp [init], by simp [init]⟩

/-- A call's history stays true when more batches are taken and more acknowledgements arrive. -/
theorem CallOk.mono {s s' : TopicDelivery} {i : Nat} {c : BatchCall} (h : CallOk s i c)
    (hle : s.acks ≤ s.taken.length) (extra : List Nat) (htaken : s'.taken = s.taken ++ extra)
    (hacks : s.acks ≤ s'.acks) (hsend : c.pc = .sending → i ∉ extra) : CallOk s' i c := by
  obtain ⟨h1, h2, h3, h4, h5⟩ := h
  refine ⟨fun hs => ?_, fun k hk => ?_, fun n hn => ?_, h4, h5⟩
  · rw [htaken, List.mem_append, not_or]; exact ⟨h1 hs, hsend hs⟩
  · have := h2 k hk
    rw [htaken, List.getElem?_append_left (List.getElem?_eq_some_iff.mp this).1, this]
  · obtain ⟨hn, hof⟩ := h3 n hn
    rw [htaken, List.getElem?_append_left (by omega)]
    exact ⟨by omega, hof⟩

theorem getElem?_setCall {s : TopicDelivery} {i j : Nat} {c c' : BatchCall}
    (hi : s.calls[i]? = some c) : (s.setCall i c').calls[j]? = if j = i then some c' else s.calls[j]? := by
  have hlt : i < s.calls.length := (List.getElem?_eq_some_iff.mp hi).1
  rw [setCall, List.getElem?_set]
  by_cases h : j = i
  · subst h; simp [hlt]
  · simp [Ne.symm h, h]

/-- Replacing call `i` keeps the invariant when the new call's history is right and the other
calls' histories survive. -/
theorem DeliveryInv.of_setCall {s s' : TopicDelivery} {i : Nat} {c c' : BatchCall}
    (hi : s.calls[i]? = some c) (hcalls : s'.calls = (s.setCall i c').calls)
    (hu : s'.unacked = s'.taken.drop s'.acks) (hle : s'.acks ≤ s'.taken.length)
    (hnd : s'.taken.Nodup) (hlt : ∀ j ∈ s'.taken, j < s.calls.length)
    (hnew : CallOk s' i c') (hold : ∀ j d, j ≠ i → s.calls[j]? = some d → CallOk s' j d) :
    DeliveryInv s' := by
  refine ⟨hu, hle, hnd, fun j hj => by simpa [hcalls] using hlt j hj, fun j d hd => ?_⟩
  rw [hcalls, getElem?_setCall hi] at hd
  split_ifs at hd with hj
  · cases hd; subst hj; exact hnew
  · exact hold j d hj hd

/-- A call that ends other than with an acknowledgement keeps its history. -/
theorem CallOk.done {s : TopicDelivery} {i : Nat} {c : BatchCall} (h : CallOk s i c)
    (r : BatchResult) (ops : List ChannelOp) (hr : c.broadcast = false → ¬r.IsAck) :
    CallOk s i { c with pc := .done r, ops := ops } := by
  obtain ⟨-, h2, h3, -, -⟩ := h
  refine ⟨fun h => ?_, h2, h3, fun h => ?_, fun hb r' hr' hack => ?_⟩
  · cases h
  · cases h
  · cases hr'; exact absurd hack (hr hb)

theorem deliveryInv_attemptBatch {s : TopicDelivery} (hs : DeliveryInv s) (broadcast : Bool) :
    DeliveryInv { s with calls := s.calls ++ [⟨broadcast, .sending, none, none, none, []⟩] } := by
  refine ⟨hs.unacked_eq, hs.acks_le, hs.taken_nodup,
    fun j hj => by have := hs.taken_lt j hj; simp; omega, fun j d hd => ?_⟩
  rcases lt_or_ge j s.calls.length with hj | hj
  · rw [List.getElem?_append_left hj] at hd
    exact (hs.calls_ok j d hd).mono hs.acks_le [] (by simp) le_rfl (by simp)
  · rw [List.getElem?_append_right hj] at hd
    have hz : j - s.calls.length = 0 := by
      by_contra hne
      rw [List.getElem?_eq_none (by simp; omega)] at hd; cases hd
    rw [hz] at hd
    cases hd
    exact ⟨fun _ hm => absurd (hs.taken_lt j hm) (by omega), by simp, by simp, by simp, by simp⟩

theorem deliveryInv_take {s s' : TopicDelivery} (hs : DeliveryInv s) {i : Nat}
    (h : s.step (.take i) = some s') : DeliveryInv s' := by
  obtain ⟨c, hc, h⟩ := Option.bind_eq_some.mp h
  have hok := hs.calls_ok i c hc
  have hlt : i < s.calls.length := (List.getElem?_eq_some_iff.mp hc).1
  split at h
  · rename_i hpc hb
    cases h
    refine DeliveryInv.of_setCall hc rfl hs.unacked_eq hs.acks_le hs.taken_nodup hs.taken_lt
      (hok.done _ _ (by simp [hb])) fun j d _ hd => hs.calls_ok j d hd
  · rename_i hpc hb
    cases h
    have hi : i ∉ s.taken := hok.1 hpc
    obtain ⟨-, -, h3, -, -⟩ := hok
    refine DeliveryInv.of_setCall hc rfl ?_ (by simp; have := hs.acks_le; omega)
      (List.nodup_append.mpr ⟨hs.taken_nodup, List.nodup_singleton i, by simpa using hi⟩)
      (fun j hj => by
        rcases List.mem_append.mp hj with hj | hj
        · exact hs.taken_lt j hj
        · simp at hj; omega) ⟨(fun h => nomatch h), fun k hk => ?_, fun n hn => ?_,
        fun _ => rfl, fun _ r h => (nomatch h)⟩ fun j d hji hd => ?_
    · simp [hs.unacked_eq, List.drop_append_of_le_length hs.acks_le]
    · cases hk; simp
    · obtain ⟨hn, hof⟩ := h3 n hn
      have := hs.acks_le
      exact ⟨hn, by simpa [List.getElem?_append_left (show n < s.taken.length by omega)] using hof⟩
    · exact (hs.calls_ok j d hd).mono hs.acks_le [i] rfl le_rfl (fun _ => by simpa using hji)
  · cases h

theorem deliveryInv_ack {s s' : TopicDelivery} (hs : DeliveryInv s) {i : Nat} {err : Option String}
    (h : s.step (.ack i err) = some s') : DeliveryInv s' := by
  obtain ⟨c, hc, h⟩ := Option.bind_eq_some.mp h
  have hok := hs.calls_ok i c hc
  split at h
  · rename_i b rest hpc hun
    cases h
    have hu := hs.unacked_eq
    rw [hun] at hu
    have hlen : s.acks < s.taken.length := by
      by_contra hge; rw [List.drop_eq_nil_of_le (by omega)] at hu; cases hu
    rw [List.drop_eq_getElem_cons hlen] at hu
    obtain ⟨rfl, rfl⟩ := List.cons.inj hu
    obtain ⟨-, h2, h3, h4, -⟩ := hok
    refine DeliveryInv.of_setCall hc rfl rfl (by simp; omega) hs.taken_nodup hs.taken_lt
      ⟨(fun h => nomatch h), h2, fun n hn => ?_, (fun h => nomatch h),
        fun _ r _ _ => ⟨h4 hpc, rfl⟩⟩
      fun j d _ hd => (hs.calls_ok j d hd).mono hs.acks_le [] (by simp) (by simp) (by simp)
    cases hn
    exact ⟨Nat.lt_succ_self _, by simp [List.getElem?_eq_getElem hlen]⟩
  · cases h

theorem deliveryInv_step {s s' : TopicDelivery} (hs : DeliveryInv s) {e : DeliveryEvent}
    (h : s.step e = some s') : DeliveryInv s' := by
  cases e with
  | attemptBatch broadcast => cases h; exact deliveryInv_attemptBatch hs broadcast
  | take i => exact deliveryInv_take hs h
  | ack i err => exact deliveryInv_ack hs h
  | interruptSend i | interruptReceive i =>
    obtain ⟨c, hc, h⟩ := Option.bind_eq_some.mp h
    split at h
    · cases h
      exact DeliveryInv.of_setCall hc rfl hs.unacked_eq hs.acks_le hs.taken_nodup hs.taken_lt
        ((hs.calls_ok i c hc).done _ c.ops fun _ h => h) fun j d _ hd => hs.calls_ok j d hd
    · cases h

theorem Reachable.deliveryInv {s : TopicDelivery} (h : Reachable s) : DeliveryInv s := by
  induction h with
  | init => exact deliveryInv_init
  | step e _ hstep ih => exact deliveryInv_step ih hstep

/-! ## Which acknowledgement a call receives -/

/-- A unicast call that returns nil or a client error received the `n`-th acknowledgement,
which answers the `n`-th batch taken; its own batch was the `k`-th taken, and the
acknowledgement is its own exactly when `k = n`. -/
theorem attemptBatch_ack_order {s : TopicDelivery} (hs : Reachable s) {i : Nat} {c : BatchCall}
    {r : BatchResult} (hc : s.calls[i]? = some c) (hb : c.broadcast = false)
    (hr : c.pc = .done r) (hack : r.IsAck) :
    ∃ k n, c.takenAt = some k ∧ c.ackAt = some n ∧ s.taken[k]? = some i ∧
      c.ackOf = s.taken[n]? ∧ (c.ackOf = some i ↔ k = n) := by
  have hinv := hs.deliveryInv
  obtain ⟨-, h2, h3, -, h5⟩ := hinv.calls_ok i c hc
  obtain ⟨hk, hn⟩ := h5 hb r hr hack
  obtain ⟨k, hk⟩ := Option.isSome_iff_exists.mp hk
  obtain ⟨n, hn⟩ := Option.isSome_iff_exists.mp hn
  have htk := h2 k hk
  have hof := (h3 n hn).2
  refine ⟨k, n, hk, hn, htk, hof, ?_⟩
  rw [hof, ← htk]
  exact ⟨fun h => (List.getElem?_inj (List.getElem?_eq_some_iff.mp htk).1 hinv.taken_nodup
    h.symm), fun h => h ▸ rfl⟩

/-- Two unicast calls: the subscriber takes call 0's batch, then call 1's, and call 1 wins the
receive of the first acknowledgement, which answers call 0's batch. -/
theorem attemptBatch_ack_order_sample :
    ∃ s : TopicDelivery, Reachable s ∧ ∃ c, s.calls[1]? = some c ∧
      ∃ k n, c.takenAt = some k ∧ c.ackAt = some n ∧ s.taken[k]? = some 1 ∧
        c.ackOf = s.taken[n]? ∧ (c.ackOf = some 1 ↔ k = n) := by
  have h : Reachable _ := .step (.ack 1 none) (.step (.take 1) (.step (.take 0)
    (.step (.attemptBatch false) (.step (.attemptBatch false) .init rfl) rfl) rfl) rfl) rfl
  exact ⟨_, h, _, rfl, attemptBatch_ack_order h rfl rfl rfl trivial⟩

/-- The same run: call 1 returns nil holding the acknowledgement of call 0's batch. The same
happens to a single event stream, whose calls never overlap: call 0's wait for its
acknowledgement is interrupted, and the next call, made after it returned, receives that
acknowledgement. -/
theorem attemptBatch_ack_misattributed :
    (∃ s : TopicDelivery, Reachable s ∧ ∃ c, s.calls[1]? = some c ∧ c.broadcast = false ∧
      c.pc = .done .ok ∧ c.takenAt = some 1 ∧ c.ackOf = some 0) ∧
    ∃ s₁ s₂ s₃ s₄ s₅ s₆ : TopicDelivery, init.step (.attemptBatch false) = some s₁ ∧
      s₁.step (.take 0) = some s₂ ∧ s₂.step (.interruptReceive 0) = some s₃ ∧
      s₃.calls.map (·.pc) = [.done .interruptedReceive] ∧ s₃.step (.attemptBatch false) = some s₄ ∧
      s₄.step (.take 1) = some s₅ ∧ s₅.step (.ack 1 none) = some s₆ ∧
      ∃ c, s₆.calls[1]? = some c ∧ c.pc = .done .ok ∧ c.takenAt = some 1 ∧ c.ackOf = some 0 := by
  have h : Reachable _ := .step (.ack 1 none) (.step (.take 1) (.step (.take 0)
    (.step (.attemptBatch false) (.step (.attemptBatch false) .init rfl) rfl) rfl) rfl) rfl
  exact ⟨⟨_, h, _, rfl, rfl, rfl, rfl, rfl⟩,
    ⟨_, _, _, _, _, _, rfl, rfl, rfl, rfl, rfl, rfl, rfl, _, rfl, rfl, rfl, rfl⟩⟩

/-! ## The calls against one `attemptBatch`

The run above abstracts each call to the two selects of `attemptBatch`. Every call that has
returned in a reachable run did on the channels, and returned, exactly what the one-call model
does and returns for some winner of each select (`attemptBatch_refines`). -/

/-- What a call has done on the channels, by where it is: nothing while it offers its batch or
after its send was interrupted; the take of its batch from the sender channel while it waits
for an acknowledgement or after that wait was interrupted, followed by the acknowledgement once
it has one; and, for a broadcast call, the take from the broadcaster channel that ends it. -/
def OpsOk (c : BatchCall) : Prop :=
  match c.pc with
  | .sending | .done .interruptedSend => c.ops = []
  | .waiting | .done .interruptedReceive => c.broadcast = false ∧ c.ops = [.taken false]
  | .done .ok => c.broadcast = true ∧ c.ops = [.taken true] ∨
      c.broadcast = false ∧ c.ops = [.taken false, .received none]
  | .done (.clientError err) => c.broadcast = false ∧ c.ops = [.taken false, .received (some err)]

theorem opsOk_setCall {s : TopicDelivery}
    (hs : ∀ (i : Nat) c, s.calls[i]? = some c → OpsOk c) {i : Nat} {c c' : BatchCall}
    (hc : s.calls[i]? = some c) (hnew : OpsOk c') :
    ∀ (j : Nat) d, (s.setCall i c').calls[j]? = some d → OpsOk d := by
  intro j d hd
  rw [getElem?_setCall hc] at hd
  split_ifs at hd
  · cases hd; exact hnew
  · exact hs j d hd

theorem opsOk_step {s s' : TopicDelivery}
    (hs : ∀ (i : Nat) c, s.calls[i]? = some c → OpsOk c) {e : DeliveryEvent}
    (h : s.step e = some s') : ∀ (i : Nat) c, s'.calls[i]? = some c → OpsOk c := by
  cases e with
  | attemptBatch broadcast =>
    cases h
    intro j d hd
    rcases lt_or_ge j s.calls.length with hj | hj
    · rw [List.getElem?_append_left hj] at hd
      exact hs j d hd
    · rw [List.getElem?_append_right hj] at hd
      cases List.mem_singleton.mp (List.getElem?_mem hd)
      exact rfl
  | take i =>
    obtain ⟨c, hc, h⟩ := Option.bind_eq_some.mp h
    have hok := hs i c hc
    split at h
    · rename_i hpc hb
      simp only [OpsOk, hpc] at hok
      cases h
      exact opsOk_setCall hs hc (.inl ⟨hb, by simp [hok]⟩)
    · rename_i hpc hb
      simp only [OpsOk, hpc] at hok
      cases h
      exact opsOk_setCall hs hc ⟨hb, by simp [hok]⟩
    · cases h
  | ack i err =>
    obtain ⟨c, hc, h⟩ := Option.bind_eq_some.mp h
    have hok := hs i c hc
    split at h
    · rename_i hpc _
      simp only [OpsOk, hpc] at hok
      cases h
      refine opsOk_setCall hs hc ?_
      cases err <;> simp [OpsOk, ackResult, hok]
    · cases h
  | interruptSend i | interruptReceive i =>
    obtain ⟨c, hc, h⟩ := Option.bind_eq_some.mp h
    have hok := hs i c hc
    split at h
    · rename_i hpc
      simp only [OpsOk, hpc] at hok
      cases h
      exact opsOk_setCall hs hc hok
    · cases h

theorem Reachable.opsOk {s : TopicDelivery} (h : Reachable s) :
    ∀ (i : Nat) c, s.calls[i]? = some c → OpsOk c := by
  induction h with
  | init => intro i c hc; cases hc
  | step e _ hstep ih => exact opsOk_step ih hstep

/-- Every call of a reachable run that has returned did on the channels, after `GetChannels`, and
returned exactly what `attemptBatch` does and returns, for a spec whose distribution mode is the
call's, when the selects are won as the run had them. -/
theorem attemptBatch_refines {s : TopicDelivery} (hs : Reachable s) {i : Nat} {c : BatchCall}
    {r : BatchResult} (hc : s.calls[i]? = some c) (hr : c.pc = .done r)
    (distributionModeBroadcast : String) (spec : WebSocketActionInfo)
    (hmode : spec.distributionMode = distributionModeBroadcast ↔ c.broadcast = true) :
    ∃ send receive, (WebSocketAction.mk (some spec)).attemptBatch distributionModeBroadcast
      send receive = (.getChannels spec.topic :: c.ops, .ok r) := by
  have hok := hs.opsOk i c hc
  have hu : c.broadcast = false → spec.distributionMode ≠ distributionModeBroadcast :=
    fun hb h => nomatch hb.symm.trans (hmode.mp h)
  simp only [OpsOk, hr] at hok
  cases r with
  | ok =>
    rcases hok with ⟨hb, hops⟩ | ⟨hb, hops⟩
    · exact ⟨.sent, .closing, by simp [WebSocketAction.attemptBatch, hmode.mpr hb, hops]⟩
    · exact ⟨.sent, .received none, by simp [WebSocketAction.attemptBatch, hu hb, hops, ackResult]⟩
  | clientError err =>
    exact ⟨.sent, .received (some err),
      by simp [WebSocketAction.attemptBatch, hu hok.1, hok.2, ackResult]⟩
  | interruptedSend => exact ⟨.closing, .closing, by simp [WebSocketAction.attemptBatch, hok]⟩
  | interruptedReceive =>
    exact ⟨.sent, .closing, by simp [WebSocketAction.attemptBatch, hu hok.1, hok.2]⟩

/-- Call 1 of the run above took its batch and returned nil on a nil acknowledgement, as
`attemptBatch` does in unicast mode. -/
theorem attemptBatch_refines_sample :
    ∃ s : TopicDelivery, Reachable s ∧ ∃ c, s.calls[1]? = some c ∧ c.pc = .done .ok ∧
      ("unicast" = "broadcast" ↔ c.broadcast = true) ∧ ∃ send receive,
        (WebSocketAction.mk (some ⟨"t", "unicast"⟩)).attemptBatch "broadcast" send receive =
          (.getChannels "t" :: c.ops, .ok .ok) := by
  have h : Reachable _ := .step (.ack 1 none) (.step (.take 1) (.step (.take 0)
    (.step (.attemptBatch false) (.step (.attemptBatch false) .init rfl) rfl) rfl) rfl) rfl
  have hmode : ("unicast" = "broadcast" ↔ false = true) := iff_of_false (by decide) (by decide)
  refine ⟨_, h, _, rfl, rfl, hmode, ?_⟩
  exact attemptBatch_refines h (i := 1) rfl rfl "broadcast"
    ⟨"t", "unicast"⟩ hmode

end TopicDelivery

end Ethconnect.Ws