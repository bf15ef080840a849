import Ethconnect.Receipts.Store

/-!
# Redelivered replies and the ingress write

Two tasks write the receipt of one request: the ingress task's `writeAccepted`, a single
`AddReceipt(..., false)`, and the bus consumer, which runs `processReply` on each reply in
turn and persists the result with `AddReceipt(..., true)`. A consumer step is split where
another task can act in between: `consume` runs `processReply` up to its `writeReceipt`
(including the `GetReceipt` a redelivery-prevented reply makes), and `persist` is the
`AddReceipt` that succeeds. A failed attempt changes nothing, so only the successful one is a
step. The persistence honours the `AddReceipt` contract and `GetReceipt` returns what it
holds.

When the consumer's replies are copies of one success or failure reply `t` and any
redelivery-prevented replies, every run that finishes leaves `t`, stamped, under its id.
-/

namespace Ethconnect.Receipts

structure RedeliveryState where
  stored : Stored
  /-- The pending receipt `writeAccepted` still has to add, with its id. -/
  accepted : Option (String × JObj)
  /-- The replies the consumer has yet to process, in order. -/
  replies : List JObj
  /-- The receipt the consumer's `writeReceipt` is persisting. -/
  writing : Option (String × JObj)

inductive RedeliveryEvent where
  /-- The ingress `AddReceipt(..., false)`, going through or failing. -/
  | accept (succeeded : Bool)
  /-- The consumer processes its next reply, stamping it at `now`. -/
  | consume (now : Int)
  /-- The consumer's `AddReceipt(..., true)` succeeds. -/
  | persist

section Run

variable (mt : MsgTypes) (ie : IdempotencyErr) (gateway : Bool)

/-- The consumer's `processReply` of `msg` against the persistence in `s`: what it will write. -/
def RedeliveryState.consumeNext (s : RedeliveryState) (now : Int) (msg : JObj) :
    Option (String × JObj) :=
  match processReply mt ie gateway (some fun id => .ok (s.stored id)) now (some msg) with
  | .ok e => e.persist
  | _ => none

def RedeliveryState.step (s : RedeliveryState) : RedeliveryEvent → Option RedeliveryState
  | .accept succeeded => s.accepted.map fun (id, receipt) =>
    { s with
      accepted := none
      stored := if succeeded then (s.stored.addReceipt id receipt false).getD s.stored
        else s.stored }
  | .consume now =>
    match s.writing, s.replies with
    | none, msg :: rest =>
      some { s with replies := rest, writing := s.consumeNext mt ie gateway now msg }
    | _, _ => none
  | .persist => s.writing.map fun (id, receipt) =>
    { s with stored := s.stored.put id receipt, writing := none }

inductive RedeliveryState.Reaches : RedeliveryState → RedeliveryState → Prop
  | refl (s : RedeliveryState) : Reaches s s
  | step {s s' s'' : RedeliveryState} (e : RedeliveryEvent) :
      s.step mt ie gateway e = some s' → Reaches s' s'' → Reaches s s''

/-- Both tasks are done: the ingress write happened (or never was due) and the consumer has
persisted its last reply. -/
def RedeliveryState.Finished (s : RedeliveryState) : Prop :=
  s.accepted = none ∧ s.replies = [] ∧ s.writing = none

end Run

/-! ## The invariant -/

section Converge

variable (mt : MsgTypes) (ie : IdempotencyErr) (gateway : Bool) (r : String) (t : JObj)

/-- A reply the consumer may see: `t` itself or a redelivery-prevented reply for `r`. -/
def ReplyFor (m : JObj) : Prop := m = t ∨ IsReplyFor m r mt.transactionRedeliveryPrevented

/-- After the last copy of `t` is taken: only redelivery-prevented replies are left, the write
in progress is `t` stamped, and with no write in progress `t` stamped is what is stored. -/
def Settled (s : RedeliveryState) : Prop :=
  (∀ m ∈ s.replies, IsReplyFor m r mt.transactionRedeliveryPrevented) ∧
  (∀ w, s.writing = some w → ∃ ts, w = (r, stampReceipt t r ts)) ∧
  (s.writing = none → ∃ ts, s.stored r = some (stampReceipt t r ts))

def Converging (s : RedeliveryState) : Prop :=
  (∀ m ∈ s.replies, ReplyFor mt r t m) ∧ (t ∈ s.replies ∨ Settled mt r t s)

variable {mt r t}
variable (hr : r ≠ "") (ht : ∃ ty, mt.IsTerminal ty ∧ IsReplyFor t r ty)
include hr ht

/-- The consumer's reading of `t`: write it stamped. -/
theorem consumeNext_terminal (s : RedeliveryState) (now : Int) :
    s.consumeNext mt ie gateway now t = some (r, stampReceipt t r now) := by
  obtain ⟨ty, hty, hmsg⟩ := ht
  have hne : ty ≠ mt.transactionRedeliveryPrevented := by
    rcases hty with rfl | rfl
    exacts [mt.redelivery_ne_failure.symm, mt.redelivery_ne_success.symm]
  simp [RedeliveryState.consumeNext, processReply_of_ne_redelivery mt ie gateway _ now hr hmsg hne,
    finishReply]

/-- With `t` stamped in the store, a redelivery-prevented reply for `r` writes nothing. -/
theorem consumeNext_redelivery (s : RedeliveryState) (now : Int) {m : JObj} {ts : Int}
    (hm : IsReplyFor m r mt.transactionRedeliveryPrevented)
    (hs : s.stored r = some (stampReceipt t r ts)) : s.consumeNext mt ie gateway now m = none := by
  obtain ⟨ty, hty, hmsg⟩ := ht
  simp [RedeliveryState.consumeNext, processReply_redelivery mt ie gateway _ now hr hm, hs,
    isTerminalReceipt_stampReceipt mt hmsg hty, ReplyEffects.dropped]

theorem settled_step {s s' : RedeliveryState} {e : RedeliveryEvent} (hs : Settled mt r t s)
    (h : s.step mt ie gateway e = some s') : Settled mt r t s' := by
  obtain ⟨hrep, hw, hidle⟩ := hs
  cases e with
  | accept succeeded =>
    obtain ⟨⟨id, receipt⟩, -, rfl⟩ := Option.map_eq_some'.mp h
    refine ⟨hrep, hw, fun hn => ?_⟩
    obtain ⟨ts, hts⟩ := hidle hn
    refine ⟨ts, ?_⟩
    by_cases hid : r = id
    · subst hid; cases succeeded <;> simp [Stored.addReceipt, hts]
    · cases succeeded <;>
        simp [Stored.addReceipt, hts, Stored.put_ne _ _ hid]; split_ifs <;> simp [hts, hid]
  | consume now =>
    simp only [RedeliveryState.step] at h
    split at h
    · rename_i msg rest hwr hrs
      cases h
      obtain ⟨ts, hts⟩ := hidle hwr
      have hm : IsReplyFor msg r mt.transactionRedeliveryPrevented := hrep msg (by simp [hrs])
      refine ⟨fun m hm' => hrep m (by simp [hrs, hm']), ?_, fun _ => ⟨ts, hts⟩⟩
      simp [consumeNext_redelivery ie gateway hr ht s now hm hts]
    · cases h
  | persist =>
    obtain ⟨⟨id, receipt⟩, hwr, rfl⟩ := Option.map_eq_some'.mp h
    obtain ⟨ts, hts⟩ := hw _ hwr
    cases hts
    exact ⟨hrep, by simp, fun _ => ⟨ts, by simp⟩⟩

theorem converging_step {s s' : RedeliveryState} {e : RedeliveryEvent}
    (hs : Converging mt r t s) (h : s.step mt ie gateway e = some s') : Converging mt r t s' := by
  obtain ⟨hrep, ht' | hset⟩ := hs
  · cases e with
    | consume now =>
      simp only [RedeliveryState.step] at h
      split at h
      · rename_i msg rest hwr hrs
        cases h
        rw [hrs] at hrep ht'
        have hrest : ∀ m ∈ rest, ReplyFor mt r t m := fun m hm => hrep m (by simp [hm])
        refine ⟨hrest, ?_⟩
        by_cases htr : t ∈ rest
        · exact .inl htr
        · have hmt : msg = t := by
            rcases List.mem_cons.mp ht' with h | h
            · exact h.symm
            · exact absurd h htr
          subst hmt
          refine .inr ⟨fun m hm => ?_, fun w hw => ⟨now, ?_⟩, fun hn => ?_⟩
          · rcases hrest m hm with rfl | h
            · exact absurd hm htr
            · exact h
          · simpa [consumeNext_terminal ie gateway hr ht] using hw.symm
          · simp [consumeNext_terminal ie gateway hr ht] at hn
      · cases h
    | accept succeeded =>
      obtain ⟨_, -, rfl⟩ := Option.map_eq_some'.mp h
      exact ⟨hrep, .inl ht'⟩
    | persist =>
      obtain ⟨_, -, rfl⟩ := Option.map_eq_some'.mp h
      exact ⟨hrep, .inl ht'⟩
  · have hset' := settled_step ie gateway hr ht hset h
    exact ⟨fun m hm => .inr (hset'.1 m hm), .inr hset'⟩

theorem converging_reaches {s s' : RedeliveryState} (hs : Converging mt r t s)
    (h : s.Reaches mt ie gateway s') : Converging mt r t s' := by
  induction h with
  | refl => exact hs
  | step e hstep _ ih => exact ih (converging_step ie gateway hr ht hs hstep)

end Converge

/-- Receipt convergence under redelivery: from any persistence state, with at most one
pending `writeAccepted` and a consumer whose replies are at least one copy of a success or
failure reply `t` for `r` and any redelivery-prevented replies for `r`, every interleaving
that finishes stores under `r` a receipt with `_id = r`, a `receivedAt` stamp, and every other
key as `t` has it. -/
theorem redelivery_converges (mt : MsgTypes) (ie : IdempotencyErr) (gateway : Bool)
    {r : String} {t : JObj} (hr : r ≠ "") (ht : ∃ ty, mt.IsTerminal ty ∧ IsReplyFor t r ty)
    (stored : Stored) (accepted : Option (String × JObj)) (replies : List JObj)
    (hcopy : t ∈ replies)
    (hreplies : ∀ m ∈ replies, m = t ∨ IsReplyFor m r mt.transactionRedeliveryPrevented)
    {s' : RedeliveryState} (hrun : RedeliveryState.Reaches mt ie gateway
      ⟨stored, accepted, replies, none⟩ s') (hfin : s'.Finished) :
    ∃ d ts, s'.stored r = some d ∧ d.get "_id" = some (.str r) ∧
      d.get "receivedAt" = some (.num ts) ∧
      ∀ k, k ≠ "_id" → k ≠ "receivedAt" → d.get k = t.get k := by
  obtain ⟨-, hcon⟩ := converging_reaches ie gateway hr ht ⟨hreplies, .inl hcopy⟩ hrun
  obtain ⟨-, hrep, hwr⟩ := hfin
  rcases hcon with hmem | ⟨-, -, hidle⟩
  · simp [hrep] at hmem
  · obtain ⟨ts, hts⟩ := hidle hwr
    exact ⟨_, ts, hts, stampReceipt_spec t r ts⟩

/-- Ingress accepts `req-4`, then the consumer stores its success reply and drops a
redelivery-prevented one. -/
def sampleRedeliveryStart : RedeliveryState :=
  ⟨fun _ => none, some ("req-4", acceptedReceipt "req-4" "ack" [] 0),
    [sampleSuccess, sampleRedelivery], none⟩

theorem redelivery_converges_sample :
    ∃ s', RedeliveryState.Reaches sampleMsgTypes ⟨"code", "message"⟩ false
        sampleRedeliveryStart s' ∧ s'.Finished ∧
      ∃ d ts, s'.stored "req-4" = some d ∧ d.get "_id" = some (.str "req-4") ∧
        d.get "receivedAt" = some (.num ts) ∧
        ∀ k, k ≠ "_id" → k ≠ "receivedAt" → d.get k = sampleSuccess.get k := by
  have hrun : RedeliveryState.Reaches sampleMsgTypes ⟨"code", "message"⟩ false
      sampleRedeliveryStart _ :=
    .step (.accept true) rfl (.step (.consume 1) rfl (.step .persist rfl
      (.step (.consume 2) rfl (.refl _))))
  have hreplies : ∀ m ∈ [sampleSuccess, sampleRedelivery], m = sampleSuccess ∨
      IsReplyFor m "req-4" sampleMsgTypes.transactionRedeliveryPrevented := by
    intro m hm
    rcases List.mem_pair.mp hm with rfl | rfl
    exacts [.inl rfl, .inr ⟨_, rfl, rfl, rfl⟩]
  have ht : ∃ ty, sampleMsgTypes.IsTerminal ty ∧ IsReplyFor sampleSuccess "req-4" ty :=
    ⟨_, .inr rfl, _, rfl, rfl, rfl⟩
  exact ⟨_, hrun, ⟨rfl, rfl, rfl⟩, redelivery_converges sampleMsgTypes ⟨"code", "message"⟩ false
    (by decide) ht _ _ _ (by simp) hreplies hrun ⟨rfl, rfl, rfl⟩⟩

end Ethconnect.Receipts
