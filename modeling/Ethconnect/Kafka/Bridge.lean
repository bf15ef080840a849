import Mathlib.Logic.Relation
import Ethconnect.Kafka.Config

/-!
# The bridge's lifecycle

`kafkaCommon.Start` connects, starts the consumer, starts the producer, and waits for an
interrupt; it then closes both and waits on their `WaitGroup`s. `startConsumer` adds three to
`consumerWG` and starts three loops on it: one over `consumer.Errors()`, one over
`consumer.Notifications()`, and `ConsumerMessagesLoop`. `startProducer` adds two to
`producerWG` and starts `ProducerErrorLoop` and `ProducerSuccessLoop`. Each loop ranges over
its channel and calls `Done` once the channel is closed: the two inline loops and the
webhooks bridge's `ConsumerMessagesLoop` do so in the source, and the producer loops are
assumed to keep the same contract.

The channels are sarama's: `consumer.Close()` closes the consumer's channels before it returns,
and `producer.AsyncClose()` starts a shutdown that closes the producer's later
(`producerShutdown`). Every goroutine is a party of its own, so the events of the loops, of the
library and of `Start` interleave in any order that the channels allow.

## Main results

* `bridge_waitGroups`: in every reachable state each `WaitGroup` counts the loops still running
  on it, so no `Done` takes it below zero, and `Start` returns nil only once every loop has
  ended.
* `bridge_shutdown_completes`: once the interrupt has come, `Start` can always go on to return.
-/

namespace Ethconnect.Kafka

/-- The loops `Start` runs, each on a goroutine of its own. -/
inductive Loop where
  /-- `for err := range k.consumer.Errors()`, then `k.consumerWG.Done()`. -/
  | consumerErrors
  /-- `for ntf := range k.consumer.Notifications()`, then `k.consumerWG.Done()`. -/
  | consumerNotifications
  /-- `k.kafkaGoRoutines.ConsumerMessagesLoop(k.consumer, k.producer, &k.consumerWG)`. -/
  | consumerMessages
  /-- `k.kafkaGoRoutines.ProducerErrorLoop(k.consumer, k.producer, &k.producerWG)`. -/
  | producerErrors
  /-- `k.kafkaGoRoutines.ProducerSuccessLoop(k.consumer, k.producer, &k.producerWG)`. -/
  | producerSuccesses
  deriving DecidableEq, Repr

/-- Whether a loop runs on `consumerWG` and ranges over a consumer channel, or on
`producerWG` over a producer channel. -/
def Loop.onConsumer : Loop → Bool
  | .consumerErrors | .consumerNotifications | .consumerMessages => true
  | .producerErrors | .producerSuccesses => false

def consumerLoops : List Loop := [.consumerErrors, .consumerNotifications, .consumerMessages]

def producerLoops : List Loop := [.producerErrors, .producerSuccesses]

inductive LoopState where
  | notStarted
  | running
  | finished
  deriving DecidableEq, Repr

/-- Where `Start` is. -/
inductive StartPc where
  | connecting
  | startingConsumer
  | startingProducer
  /-- In the `select` on `k.signals`. -/
  | waiting
  /-- In `k.producerWG.Wait()`, after `AsyncClose` and `Close`. -/
  | waitingProducer
  /-- In `k.consumerWG.Wait()`. -/
  | waitingConsumer
  | returned (err : Option String)
  deriving DecidableEq, Repr

structure Bridge where
  pc : StartPc
  /-- `k.consumer` and `k.producer` are set. -/
  consumerSet : Bool
  producerSet : Bool
  consumerWG : Int
  producerWG : Int
  loops : Loop → LoopState
  /-- For a `KafkaGoRoutines` loop: whether the consumer and the producer it was handed were
  set. -/
  args : Loop → Bool × Bool
  /-- `consumer.Close()` has closed the consumer's channels. -/
  consumerClosed : Bool
  /-- `producer.AsyncClose()` has been called. -/
  producerClosing : Bool
  /-- The producer's shutdown has closed its channels. -/
  producerClosed : Bool

inductive BridgeEvent where
  /-- `k.connect()` returns `err`. -/
  | connect (err : Option String)
  /-- `k.client.NewConsumer(k)` returns `err`. -/
  | newConsumer (err : Option String)
  /-- `k.client.NewProducer(k)` returns `err`. -/
  | newProducer (err : Option String)
  /-- An interrupt on `k.signals`. -/
  | signal
  /-- The producer's shutdown closes `Errors()` and `Successes()`. -/
  | producerShutdown
  /-- A loop's channel is closed and drained: the loop calls `Done`. -/
  | loopEnds (l : Loop)
  /-- A `Wait` returns. -/
  | waitReturns

namespace Bridge

def init : Bridge :=
  ⟨.connecting, false, false, 0, 0, fun _ => .notStarted, fun _ => (false, false), false, false,
    false⟩

/-- `startConsumer` after `NewConsumer` succeeded: `consumerWG.Add(3)` and its three loops,
`ConsumerMessagesLoop` handed `k.consumer` and `k.producer` as they are then. -/
def startConsumer (s : Bridge) : Bridge :=
  { s with
    pc := .startingProducer
    consumerSet := true
    consumerWG := s.consumerWG + 3
    loops := fun l => if l.onConsumer then .running else s.loops l
    args := fun l => if l = .consumerMessages then (true, s.producerSet) else s.args l }

/-- `startProducer` after `NewProducer` succeeded: `producerWG.Add(2)` and its two loops, handed
`k.consumer` and `k.producer`; then `Start` waits for an interrupt. -/
def startProducer (s : Bridge) : Bridge :=
  { s with
    pc := .waiting
    producerSet := true
    producerWG := s.producerWG + 2
    loops := fun l => if l.onConsumer then s.loops l else .running
    args := fun l => if l.onConsumer then s.args l else (s.consumerSet, true) }

/-- A loop calls `Done` on its `WaitGroup`. -/
def loopDone (s : Bridge) (l : Loop) : Bridge :=
  { s with
    loops := Function.update s.loops l .finished
    consumerWG := if l.onConsumer then s.consumerWG - 1 else s.consumerWG
    producerWG := if l.onConsumer then s.producerWG else s.producerWG - 1 }

/-- Whether a loop's channel is closed. -/
def channelClosed (s : Bridge) (l : Loop) : Bool :=
  if l.onConsumer then s.consumerClosed else s.producerClosed

def step (s : Bridge) : BridgeEvent → Option Bridge
  | .connect err =>
    match s.pc with
    | .connecting => some { s with pc := match err with
        | some e => .returned (some e)
        | none => .startingConsumer }
    | _ => none
  | .newConsumer err =>
    match s.pc with
    | .startingConsumer => some (match err with
        | some e => { s with pc := .returned (some e) }
        | none => s.startConsumer)
    | _ => none
  | .newProducer err =>
    match s.pc with
    | .startingProducer => some (match err with
        | some e => { s with pc := .returned (some e) }
        | none => s.startProducer)
    | _ => none
  | .signal =>
    match s.pc with
    | .waiting =>
      some { s with pc := .waitingProducer, producerClosing := true, consumerClosed := true }
    | _ => none
  | .producerShutdown =>
    if s.producerClosing && !s.producerClosed then some { s with producerClosed := true } else none
  | .loopEnds l =>
    if s.loops l = .running && s.channelClosed l then some (s.loopDone l) else none
  | .waitReturns =>
    match s.pc with
    | .waitingProducer => if s.producerWG = 0 then some { s with pc := .waitingConsumer } else none
    | .waitingConsumer => if s.consumerWG = 0 then some { s with pc := .returned none } else none
    | _ => none

/-- One event of any party. -/
def Next (s t : Bridge) : Prop := ∃ e, s.step e = some t

/-- The states a run of `Start` reaches. -/
def Reachable (s : Bridge) : Prop := Relation.ReflTransGen Next init s

/-- How many of the loops are running. -/
def running (s : Bridge) (ls : List Loop) : Nat := ls.countP fun l => s.loops l = .running

end Bridge

/-- `Start` has had the interrupt, closed both ends, and not failed. -/
def StartPc.closing : StartPc → Bool
  | .waitingProducer | .waitingConsumer | .returned none => true
  | _ => false

/-- `Start` has started the producer. -/
def StartPc.started : StartPc → Bool
  | .waiting | .waitingProducer | .waitingConsumer | .returned none => true
  | _ => false

namespace Bridge

/-! ## The invariant -/

/-- What holds in every state of a run. -/
structure Inv (s : Bridge) : Prop where
  consumerWG_eq : s.consumerWG = s.running consumerLoops
  producerWG_eq : s.producerWG = s.running producerLoops
  consumerClosed_eq : s.consumerClosed = s.pc.closing
  producerClosing_eq : s.producerClosing = s.pc.closing
  producerClosed_imp : s.producerClosed = true → s.producerClosing = true
  producerSet_eq : s.producerSet = s.pc.started
  consumerSet_of : s.pc = .startingProducer → s.consumerSet = true
  fresh : s.pc = .connecting ∨ s.pc = .startingConsumer → s.consumerSet = false
  unset_fresh : s.consumerSet = false → ∀ l, s.loops l = .notStarted
  producer_fresh : s.pc.started = false → ∀ l, l.onConsumer = false → s.loops l = .notStarted
  consumer_started : s.consumerSet = true → ∀ l, l.onConsumer = true → s.loops l ≠ .notStarted
  all_started : s.pc.started = true → ∀ l, s.loops l ≠ .notStarted
  finished_closed : ∀ l, s.loops l = .finished → s.channelClosed l = true
  producers_done : s.pc = .waitingConsumer ∨ s.pc = .returned none → s.running producerLoops = 0
  consumers_done : s.pc = .returned none → s.running consumerLoops = 0
  messages_args : s.loops .consumerMessages ≠ .notStarted → s.args .consumerMessages = (true, false)

/-! ### Counting running loops -/

theorem running_startConsumer_consumerLoops (s : Bridge) :
    s.startConsumer.running consumerLoops = 3 := rfl

theorem running_startConsumer_producerLoops (s : Bridge) :
    s.startConsumer.running producerLoops = s.running producerLoops := rfl

theorem running_startProducer_consumerLoops (s : Bridge) :
    s.startProducer.running consumerLoops = s.running consumerLoops := rfl

theorem running_startProducer_producerLoops (s : Bridge) :
    s.startProducer.running producerLoops = 2 := rfl

/-- `Done` of a running loop takes its occurrences off the count of running loops. -/
theorem running_loopDone_count {s : Bridge} {l : Loop} (hl : s.loops l = .running)
    (ls : List Loop) : (s.loopDone l).running ls + ls.count l = s.running ls := by
  induction ls with
  | nil => rfl
  | cons a ls ih =>
    simp only [running, List.countP_cons, List.count_cons] at ih ⊢
    by_cases ha : a = l
    · subst ha
      simp [loopDone, hl] at ih ⊢
      omega
    · simp [loopDone, Function.update_noteq ha, ha] at ih ⊢
      omega

/-- `Done` of a running loop takes one off the count of its own `WaitGroup`'s loops and leaves
the other count as it was. -/
theorem running_loopDone {s : Bridge} {l : Loop} (hl : s.loops l = .running) :
    (s.loopDone l).running consumerLoops + (if l.onConsumer then 1 else 0) =
        s.running consumerLoops ∧
      (s.loopDone l).running producerLoops + (if l.onConsumer then 0 else 1) =
        s.running producerLoops := by
  have hc : consumerLoops.count l = if l.onConsumer then 1 else 0 := by cases l <;> rfl
  have hp : producerLoops.count l = if l.onConsumer then 0 else 1 := by cases l <;> rfl
  rw [← hc, ← hp]
  exact ⟨running_loopDone_count hl _, running_loopDone_count hl _⟩

theorem running_eq_zero_iff {s : Bridge} {ls : List Loop} :
    s.running ls = 0 ↔ ∀ l ∈ ls, s.loops l ≠ .running := by
  simp [running, List.countP_eq_zero]

theorem mem_consumerLoops {l : Loop} : l ∈ consumerLoops ↔ l.onConsumer = true := by
  cases l <;> decide

theorem mem_producerLoops {l : Loop} : l ∈ producerLoops ↔ l.onConsumer = false := by
  cases l <;> decide

theorem inv_init : Inv init where
  consumerWG_eq := rfl
  producerWG_eq := rfl
  consumerClosed_eq := rfl
  producerClosing_eq := rfl
  producerClosed_imp := fun h => h
  producerSet_eq := rfl
  consumerSet_of := fun h => nomatch h
  fresh := fun _ => rfl
  unset_fresh := fun _ _ => rfl
  producer_fresh := fun _ _ _ => rfl
  consumer_started := fun h => nomatch h
  all_started := fun h => nomatch h
  finished_closed := fun _ h => nomatch h
  producers_done := fun h => by rcases h with h | h <;> cases h
  consumers_done := fun h => nomatch h
  messages_args := fun h => absurd rfl h

/-! ### One event -/

/-- `Start` moves on without touching anything else. -/
theorem Inv.setPc {s : Bridge} (hs : Inv s) (p : StartPc) (hclosing : p.closing = s.pc.closing)
    (hstarted : p.started = s.pc.started)
    (hfresh : p = .connecting ∨ p = .startingConsumer →
      s.pc = .connecting ∨ s.pc = .startingConsumer)
    (hconsumerSet : p = .startingProducer → s.consumerSet = true)
    (hproducers : p = .waitingConsumer ∨ p = .returned none → s.running producerLoops = 0)
    (hconsumers : p = .returned none → s.running consumerLoops = 0) : Inv { s with pc := p } where
  consumerWG_eq := hs.consumerWG_eq
  producerWG_eq := hs.producerWG_eq
  consumerClosed_eq := hs.consumerClosed_eq.trans hclosing.symm
  producerClosing_eq := hs.producerClosing_eq.trans hclosing.symm
  producerClosed_imp := hs.producerClosed_imp
  producerSet_eq := hs.producerSet_eq.trans hstarted.symm
  consumerSet_of := hconsumerSet
  fresh h := hs.fresh (hfresh h)
  unset_fresh := hs.unset_fresh
  producer_fresh h := hs.producer_fresh (hstarted ▸ h)
  consumer_started := hs.consumer_started
  all_started h := hs.all_started (hstarted ▸ h)
  finished_closed := hs.finished_closed
  producers_done := hproducers
  consumers_done := hconsumers
  messages_args := hs.messages_args

/-- A call that fails ends `Start` with its error, before the producer has started. -/
theorem Inv.fail {s : Bridge} (hs : Inv s) (e : String) (hclosing : s.pc.closing = false)
    (hstarted : s.pc.started = false) : Inv { s with pc := .returned (some e) } :=
  hs.setPc _ hclosing.symm hstarted.symm nofun nofun nofun nofun

theorem Inv.startConsumer {s : Bridge} (hs : Inv s) (hpc : s.pc = .startingConsumer) :
    Inv s.startConsumer := by
  have hfresh := hs.unset_fresh (hs.fresh (.inr hpc))
  have hzero : s.running consumerLoops = 0 :=
    running_eq_zero_iff.mpr fun l _ => by rw [hfresh l]; exact nofun
  exact
  { consumerWG_eq := by
      rw [running_startConsumer_consumerLoops]
      simp only [Bridge.startConsumer, hs.consumerWG_eq, hzero]
      rfl
    producerWG_eq := hs.producerWG_eq
    consumerClosed_eq := hs.consumerClosed_eq.trans (by rw [hpc]; rfl)
    producerClosing_eq := hs.producerClosing_eq.trans (by rw [hpc]; rfl)
    producerClosed_imp := hs.producerClosed_imp
    producerSet_eq := hs.producerSet_eq.trans (by rw [hpc]; rfl)
    consumerSet_of := fun _ => rfl
    fresh := fun h => by rcases h with h | h <;> cases h
    unset_fresh := nofun
    producer_fresh := fun _ l hl => by simp [Bridge.startConsumer, hl, hfresh l]
    consumer_started := fun _ l hl => by simp [Bridge.startConsumer, hl]
    all_started := fun h => nomatch h
    finished_closed := fun l hl => by
      cases hc : l.onConsumer <;> simp [Bridge.startConsumer, hc, hfresh l] at hl
    producers_done := fun h => by rcases h with h | h <;> cases h
    consumers_done := fun h => nomatch h
    messages_args := fun _ => by
      simp [Bridge.startConsumer, hs.producerSet_eq, hpc, StartPc.started] }

theorem Inv.startProducer {s : Bridge} (hs : Inv s) (hpc : s.pc = .startingProducer) :
    Inv s.startProducer := by
  have hzero : s.running producerLoops = 0 := running_eq_zero_iff.mpr fun l hl => by
    rw [hs.producer_fresh (by rw [hpc]; rfl) l (mem_producerLoops.mp hl)]; exact nofun
  have hcs := hs.consumerSet_of hpc
  exact
  { consumerWG_eq := hs.consumerWG_eq
    producerWG_eq := by
      rw [running_startProducer_producerLoops]
      simp only [Bridge.startProducer, hs.producerWG_eq, hzero]
      rfl
    consumerClosed_eq := hs.consumerClosed_eq.trans (by rw [hpc]; rfl)
    producerClosing_eq := hs.producerClosing_eq.trans (by rw [hpc]; rfl)
    producerClosed_imp := hs.producerClosed_imp
    producerSet_eq := rfl
    consumerSet_of := fun h => nomatch h
    fresh := fun h => by rcases h with h | h <;> cases h
    unset_fresh := fun h => absurd (hcs.symm.trans h) nofun
    producer_fresh := fun h => nomatch h
    consumer_started := fun _ l hl => by
      simpa [Bridge.startProducer, hl] using hs.consumer_started hcs l hl
    all_started := fun _ l => by
      cases hl : l.onConsumer
      · simp [Bridge.startProducer, hl]
      · simpa [Bridge.startProducer, hl] using hs.consumer_started hcs l hl
    finished_closed := fun l hl => by
      cases hc : l.onConsumer
      · simp [Bridge.startProducer, hc] at hl
      · simp only [Bridge.startProducer, hc, if_true] at hl
        exact hs.finished_closed l hl
    producers_done := fun h => by rcases h with h | h <;> cases h
    consumers_done := fun h => nomatch h
    messages_args := hs.messages_args }

theorem Inv.signal {s : Bridge} (hs : Inv s) (hpc : s.pc = .waiting) :
    Inv { s with pc := .waitingProducer, producerClosing := true, consumerClosed := true } where
  consumerWG_eq := hs.consumerWG_eq
  producerWG_eq := hs.producerWG_eq
  consumerClosed_eq := rfl
  producerClosing_eq := rfl
  producerClosed_imp := fun _ => rfl
  producerSet_eq := hs.producerSet_eq.trans (by rw [hpc]; rfl)
  consumerSet_of := fun h => nomatch h
  fresh := fun h => by rcases h with h | h <;> cases h
  unset_fresh := hs.unset_fresh
  producer_fresh := fun h => nomatch h
  consumer_started := hs.consumer_started
  all_started := fun _ => hs.all_started (by rw [hpc]; rfl)
  finished_closed := fun l hl => by
    have := hs.finished_closed l hl
    cases hc : l.onConsumer <;> simp_all [channelClosed]
  producers_done := fun h => by rcases h with h | h <;> cases h
  consumers_done := fun h => nomatch h
  messages_args := hs.messages_args

theorem Inv.producerShutdown {s : Bridge} (hs : Inv s) (hclosing : s.producerClosing = true) :
    Inv { s with producerClosed := true } :=
  { hs with
    producerClosed_imp := fun _ => hclosing
    finished_closed := fun l hl => by
      have := hs.finished_closed l hl
      cases hc : l.onConsumer <;> simp_all [channelClosed] }

theorem Inv.loopDone {s : Bridge} (hs : Inv s) {l : Loop} (hl : s.loops l = .running)
    (hclosed : s.channelClosed l = true) : Inv (s.loopDone l) := by
  obtain ⟨hc, hp⟩ := running_loopDone hl
  have hne : ∀ l', (s.loopDone l).loops l' ≠ .notStarted → s.loops l' ≠ .notStarted := by
    intro l' h
    by_cases hl' : l' = l
    · rw [hl', hl]; exact nofun
    · simpa [Bridge.loopDone, hl'] using h
  have hupd : ∀ l', (s.loopDone l).loops l' = if l' = l then .finished else s.loops l' :=
    fun l' => Function.update_apply _ _ _ _
  exact
  { consumerWG_eq := by
      have := hs.consumerWG_eq
      cases ho : l.onConsumer <;> simp [Bridge.loopDone, ho] at hc ⊢ <;> omega
    producerWG_eq := by
      have := hs.producerWG_eq
      cases ho : l.onConsumer <;> simp [Bridge.loopDone, ho] at hp ⊢ <;> omega
    consumerClosed_eq := hs.consumerClosed_eq
    producerClosing_eq := hs.producerClosing_eq
    producerClosed_imp := hs.producerClosed_imp
    producerSet_eq := hs.producerSet_eq
    consumerSet_of := hs.consumerSet_of
    fresh := hs.fresh
    unset_fresh := fun h => absurd (hs.unset_fresh h l) (by rw [hl]; exact nofun)
    producer_fresh := fun h l' hl' => by
      by_cases he : l' = l
      · subst he; exact absurd (hs.producer_fresh h l' hl') (by rw [hl]; exact nofun)
      · rw [hupd, if_neg he]; exact hs.producer_fresh h l' hl'
    consumer_started := fun h l' hl' => by
      rw [hupd]; split_ifs
      · exact nofun
      · exact hs.consumer_started h l' hl'
    all_started := fun h l' => by
      rw [hupd]; split_ifs
      · exact nofun
      · exact hs.all_started h l'
    finished_closed := fun l' hl' => by
      rw [hupd] at hl'
      split_ifs at hl' with he
      · subst he; exact hclosed
      · exact hs.finished_closed l' hl'
    producers_done := fun h => by
      have := hs.producers_done h
      split_ifs at hp <;> omega
    consumers_done := fun h => by
      have := hs.consumers_done h
      split_ifs at hc <;> omega
    messages_args := fun h => hs.messages_args (hne _ h) }

theorem Inv.step {s t : Bridge} (hs : Inv s) {e : BridgeEvent} (h : s.step e = some t) : Inv t := by
  cases e with
  | connect err =>
    simp only [Bridge.step] at h
    split at h
    · next hpc =>
      cases h
      exact hs.setPc _ (by cases err <;> rw [hpc] <;> rfl) (by cases err <;> rw [hpc] <;> rfl)
        (fun _ => .inl hpc) (by cases err <;> exact nofun) (by cases err <;> exact nofun)
        (by cases err <;> exact nofun)
    · cases h
  | newConsumer err =>
    simp only [Bridge.step] at h
    split at h
    · next hpc =>
      cases h
      cases err with
      | none => exact hs.startConsumer hpc
      | some e => exact hs.fail e (by rw [hpc]; rfl) (by rw [hpc]; rfl)
    · cases h
  | newProducer err =>
    simp only [Bridge.step] at h
    split at h
    · next hpc =>
      cases h
      cases err with
      | none => exact hs.startProducer hpc
      | some e => exact hs.fail e (by rw [hpc]; rfl) (by rw [hpc]; rfl)
    · cases h
  | signal =>
    simp only [Bridge.step] at h
    split at h
    · next hpc => cases h; exact hs.signal hpc
    · cases h
  | producerShutdown =>
    simp only [Bridge.step] at h
    split at h
    · next hg =>
      cases h
      exact hs.producerShutdown (by simp_all)
    · cases h
  | loopEnds l =>
    simp only [Bridge.step] at h
    split at h
    · next hg =>
      cases h
      simp only [Bool.and_eq_true, decide_eq_true_eq] at hg
      exact hs.loopDone hg.1 hg.2
    · cases h
  | waitReturns =>
    simp only [Bridge.step] at h
    split at h
    · next hpc =>
      split at h
      · next hwg =>
        cases h
        have hzero : s.running producerLoops = 0 := by have := hs.producerWG_eq; omega
        exact hs.setPc _ (by rw [hpc]; rfl) (by rw [hpc]; rfl) nofun nofun
          (fun _ => hzero) nofun
      · cases h
    · next hpc =>
      split at h
      · next hwg =>
        cases h
        have hzero : s.running consumerLoops = 0 := by have := hs.consumerWG_eq; omega
        exact hs.setPc _ (by rw [hpc]; rfl) (by rw [hpc]; rfl) nofun nofun
          (fun _ => hs.producers_done (.inl hpc)) (fun _ => hzero)
      · cases h
    · cases h

theorem Reachable.inv {s : Bridge} (h : Reachable s) : Inv s := by
  induction h with
  | refl => exact inv_init
  | tail _ hnext ih =>
    obtain ⟨e, he⟩ := hnext
    exact ih.step he

/-! ## Over a run -/

/-- In every state of a run, each `WaitGroup` counts the loops still running on it, so no
`Done` takes a counter below zero; and `Start` returns nil only once every loop has ended. -/
theorem bridge_waitGroups {s : Bridge} (hs : Reachable s) :
    s.consumerWG = s.running consumerLoops ∧ s.producerWG = s.running producerLoops ∧
      (s.pc = .returned none → ∀ l, s.loops l = .finished) := by
  have hi := hs.inv
  refine ⟨hi.consumerWG_eq, hi.producerWG_eq, fun hpc l => ?_⟩
  have hstarted := hi.all_started (by rw [hpc]; rfl) l
  have hnr : s.loops l ≠ .running := by
    cases hl : l.onConsumer
    · exact running_eq_zero_iff.mp (hi.producers_done (.inr hpc)) l (mem_producerLoops.mpr hl)
    · exact running_eq_zero_iff.mp (hi.consumers_done hpc) l (mem_consumerLoops.mpr hl)
  cases h : s.loops l
  · exact absurd h hstarted
  · exact absurd h hnr
  · rfl

/-- A whole run: start, interrupt, the producer's shutdown, every loop's end in an order the
`Wait`s allow, and `Start` returns nil. -/
theorem bridge_waitGroups_sample : ∃ s, Reachable s ∧ s.pc = .returned none ∧
    (s.consumerWG = s.running consumerLoops ∧ s.producerWG = s.running producerLoops ∧
      (s.pc = .returned none → ∀ l, s.loops l = .finished)) := by
  have h : Reachable _ :=
    .tail (.tail (.tail (.tail (.tail (.tail (.tail (.tail (.tail (.tail (.tail (.single
      ⟨.connect none, rfl⟩) ⟨.newConsumer none, rfl⟩) ⟨.newProducer none, rfl⟩) ⟨.signal, rfl⟩)
      ⟨.producerShutdown, rfl⟩) ⟨.loopEnds .producerErrors, rfl⟩)
      ⟨.loopEnds .producerSuccesses, rfl⟩) ⟨.waitReturns, rfl⟩)
      ⟨.loopEnds .consumerErrors, rfl⟩) ⟨.loopEnds .consumerNotifications, rfl⟩)
      ⟨.loopEnds .consumerMessages, rfl⟩) ⟨.waitReturns, rfl⟩
  exact ⟨_, h, rfl, bridge_waitGroups h⟩

/-- Every state the run reaches from a reachable one is reachable. -/
theorem Reachable.trans {s t : Bridge} (hs : Reachable s) (h : Relation.ReflTransGen Next s t) :
    Reachable t :=
  Relation.ReflTransGen.trans hs h

/-- With every channel closed, the running loops can end one after another. -/
theorem endLoops {u : Bridge} (hc : u.consumerClosed = true) (hp : u.producerClosed = true)
    (ls : List Loop) :
    ∃ u', Relation.ReflTransGen Next u u' ∧ u'.pc = u.pc ∧ u'.consumerClosed = true ∧
      u'.producerClosed = true ∧ ∀ l, (l ∈ ls ∨ u.loops l ≠ .running) → u'.loops l ≠ .running := by
  induction ls generalizing u with
  | nil => exact ⟨u, .refl, rfl, hc, hp, fun l h => h.resolve_left (List.not_mem_nil l)⟩
  | cons l ls ih =>
    obtain ⟨u₁, h₁, hpc₁, hc₁, hp₁, hl₁, hkeep⟩ : ∃ u₁, Relation.ReflTransGen Next u u₁ ∧
        u₁.pc = u.pc ∧ u₁.consumerClosed = true ∧ u₁.producerClosed = true ∧
        u₁.loops l ≠ .running ∧ ∀ l', u.loops l' ≠ .running → u₁.loops l' ≠ .running := by
      by_cases hr : u.loops l = .running
      · have hstep : u.step (.loopEnds l) = some (u.loopDone l) := by
          cases ho : l.onConsumer <;> simp [Bridge.step, hr, channelClosed, ho, hc, hp]
        refine ⟨u.loopDone l, .single ⟨_, hstep⟩, rfl, hc, hp, by simp [loopDone], ?_⟩
        intro l' hl'
        by_cases he : l' = l
        · subst he; simp [loopDone]
        · simpa [loopDone, he] using hl'
      · exact ⟨u, .refl, rfl, hc, hp, hr, fun _ h => h⟩
    obtain ⟨u₂, h₂, hpc₂, hc₂, hp₂, hl₂⟩ := ih hc₁ hp₁
    refine ⟨u₂, h₁.trans h₂, hpc₂.trans hpc₁, hc₂, hp₂, fun l' hl' => ?_⟩
    rcases hl' with hl' | hl'
    · rcases List.mem_cons.mp hl' with rfl | hl'
      · exact hl₂ _ (.inr hl₁)
      · exact hl₂ _ (.inl hl')
    · exact hl₂ _ (.inr (hkeep _ hl'))

/-- Once the interrupt has come, the run can always go on until `Start` returns nil: the
producer's shutdown closes its channels, every loop ends and calls `Done`, and both `Wait`s
return. -/
theorem bridge_shutdown_completes {s : Bridge} (hs : Reachable s)
    (hpc : s.pc = .waitingProducer ∨ s.pc = .waitingConsumer) :
    ∃ t, Relation.ReflTransGen Next s t ∧ t.pc = .returned none := by
  have hi := hs.inv
  have hclosing : s.pc.closing = true := by rcases hpc with h | h <;> rw [h] <;> rfl
  obtain ⟨s₁, h₁, hpc₁, hc₁, hp₁⟩ : ∃ s₁, Relation.ReflTransGen Next s s₁ ∧ s₁.pc = s.pc ∧
      s₁.consumerClosed = true ∧ s₁.producerClosed = true := by
    cases hpcl : s.producerClosed
    · refine ⟨{ s with producerClosed := true }, .single ⟨.producerShutdown, ?_⟩, rfl,
        hi.consumerClosed_eq.trans hclosing, rfl⟩
      simp [Bridge.step, hi.producerClosing_eq, hclosing, hpcl]
    · exact ⟨s, .refl, rfl, hi.consumerClosed_eq.trans hclosing, hpcl⟩
  obtain ⟨s₂, h₂, hpc₂, -, -, hnr⟩ := endLoops hc₁ hp₁ (consumerLoops ++ producerLoops)
  have hi₂ := (hs.trans (h₁.trans h₂)).inv
  have hcz : s₂.consumerWG = 0 := by
    rw [hi₂.consumerWG_eq, running_eq_zero_iff.mpr fun l hl => hnr l (.inl (by simp [hl]))]
    rfl
  have hpz : s₂.producerWG = 0 := by
    rw [hi₂.producerWG_eq, running_eq_zero_iff.mpr fun l hl => hnr l (.inl (by simp [hl]))]
    rfl
  rw [← hpc₁, ← hpc₂] at hpc
  rcases hpc with hw | hw
  · have hwait : s₂.step .waitReturns = some { s₂ with pc := .waitingConsumer } := by
      simp [Bridge.step, hw, hpz]
    have hret : ({ s₂ with pc := .waitingConsumer } : Bridge).step .waitReturns =
        some { s₂ with pc := .returned none } := by
      simp [Bridge.step, hcz]
    exact ⟨_, h₁.trans (h₂.trans ((Relation.ReflTransGen.single ⟨_, hwait⟩).tail ⟨_, hret⟩)), rfl⟩
  · have hret : s₂.step .waitReturns = some { s₂ with pc := .returned none } := by
      simp [Bridge.step, hw, hcz]
    exact ⟨_, h₁.trans (h₂.trans (.single ⟨_, hret⟩)), rfl⟩

theorem bridge_shutdown_completes_sample : ∃ s, Reachable s ∧
    (s.pc = .waitingProducer ∨ s.pc = .waitingConsumer) ∧
    ∃ t, Relation.ReflTransGen Next s t ∧ t.pc = .returned none := by
  have h : Reachable _ :=
    .tail (.tail (.tail (.single ⟨.connect none, rfl⟩) ⟨.newConsumer none, rfl⟩)
      ⟨.newProducer none, rfl⟩) ⟨.signal, rfl⟩
  exact ⟨_, h, .inl rfl, bridge_shutdown_completes h (.inl rfl)⟩

end Bridge

end Ethconnect.Kafka
