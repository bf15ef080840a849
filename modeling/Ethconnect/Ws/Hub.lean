import Mathlib.Logic.Function.Basic
import Mathlib.Data.List.Basic

/-!
# The WebSocket topic hub

`webSocketServer` maps topic names to `webSocketTopic` objects, created by `getTopic` on
first lookup. `cycleTopic` closes a topic's closing channel and installs a fresh one, so a
producer blocked on the topic wakes when its subscriber goes. `getTopic`, `cycleTopic`,
`handler` and `connectionClosed` hold `s.mux` for their whole body and are single steps;
`GetChannels` is two steps, since it reads the topic's fields after `getTopic` has released
the lock.

Channels are named by the `make` that created them; `closed` counts the `close` calls on each,
and a `close` of a closed channel panics, which leaves the step without a successor. As ghost
state the server records the closing channels installed on each topic object and the closing
channels `GetChannels` handed out. `HubInv` holds in every reachable state.
-/

namespace Ethconnect.Ws

/-- A topic object; its channels are named by the `make` that created them. -/
structure WebSocketTopic where
  topic : String
  senderChannel : Nat
  receiverChannel : Nat
  closingChannel : Nat

structure WebSocketServer where
  topics : String → Option Nat
  /-- The topic objects, by address. -/
  heap : Nat → Option WebSocketTopic
  nextTopic : Nat
  nextChan : Nat
  closed : Nat → Nat
  connections : List String
  /-- Ghost: the closing channels installed on each topic object, newest first. -/
  installed : Nat → List Nat
  /-- Ghost: the topic object of each `GetChannels` between its lookup and its read. -/
  reading : List Nat
  /-- Ghost: each closing channel `GetChannels` returned, with its topic object. -/
  handedOut : List (Nat × Nat)

def newWebSocketServer : WebSocketServer :=
  ⟨fun _ => none, fun _ => none, 0, 0, fun _ => 0, [], fun _ => [], [], []⟩

inductive HubEvent where
  /-- `GetChannels(topic)` runs `getTopic(topic)`. -/
  | getTopic (topic : String)
  /-- The `i`-th pending `GetChannels` reads its topic's channels. -/
  | readChannels (i : Nat)
  /-- A connection listening on `topic` closes and calls `cycleTopic`. -/
  | cycleTopic (topic : String)
  | handler (id : String)
  | connectionClosed (id : String)

namespace WebSocketServer

/-- The server once `getTopic` has created the object for `topic`, with three fresh channels. -/
def createTopic (s : WebSocketServer) (topic : String) : WebSocketServer :=
  { s with
    topics := Function.update s.topics topic (some s.nextTopic)
    heap := Function.update s.heap s.nextTopic
      (some ⟨topic, s.nextChan, s.nextChan + 1, s.nextChan + 2⟩)
    nextTopic := s.nextTopic + 1
    nextChan := s.nextChan + 3
    installed := Function.update s.installed s.nextTopic [s.nextChan + 2] }

section CreateTopic

variable (s : WebSocketServer) (topic : String)

@[simp] theorem createTopic_topics :
    (s.createTopic topic).topics = Function.update s.topics topic (some s.nextTopic) := rfl
@[simp] theorem createTopic_heap : (s.createTopic topic).heap = Function.update s.heap s.nextTopic
    (some ⟨topic, s.nextChan, s.nextChan + 1, s.nextChan + 2⟩) := rfl
@[simp] theorem createTopic_nextTopic : (s.createTopic topic).nextTopic = s.nextTopic + 1 := rfl
@[simp] theorem createTopic_nextChan : (s.createTopic topic).nextChan = s.nextChan + 3 := rfl
@[simp] theorem createTopic_closed : (s.createTopic topic).closed = s.closed := rfl
@[simp] theorem createTopic_installed : (s.createTopic topic).installed =
    Function.update s.installed s.nextTopic [s.nextChan + 2] := rfl
@[simp] theorem createTopic_handedOut : (s.createTopic topic).handedOut = s.handedOut := rfl

end CreateTopic

/-- `getTopic`: the existing object, or a new one. -/
def getTopic (s : WebSocketServer) (topic : String) : WebSocketServer × Nat :=
  match s.topics topic with
  | some p => (s, p)
  | none => (s.createTopic topic, s.nextTopic)

/-- The server once `cycleTopic` has closed `t.closingChannel` and installed a fresh one. -/
def renewClosing (s : WebSocketServer) (p : Nat) (t : WebSocketTopic) : WebSocketServer :=
  { s with
    closed := Function.update s.closed t.closingChannel 1
    heap := Function.update s.heap p (some { t with closingChannel := s.nextChan })
    nextChan := s.nextChan + 1
    installed := Function.update s.installed p (s.nextChan :: s.installed p) }

section RenewClosing

variable (s : WebSocketServer) (p : Nat) (t : WebSocketTopic)

@[simp] theorem renewClosing_topics : (s.renewClosing p t).topics = s.topics := rfl
@[simp] theorem renewClosing_heap : (s.renewClosing p t).heap =
    Function.update s.heap p (some { t with closingChannel := s.nextChan }) := rfl
@[simp] theorem renewClosing_nextTopic : (s.renewClosing p t).nextTopic = s.nextTopic := rfl
@[simp] theorem renewClosing_nextChan : (s.renewClosing p t).nextChan = s.nextChan + 1 := rfl
@[simp] theorem renewClosing_closed :
    (s.renewClosing p t).closed = Function.update s.closed t.closingChannel 1 := rfl
@[simp] theorem renewClosing_installed : (s.renewClosing p t).installed =
    Function.update s.installed p (s.nextChan :: s.installed p) := rfl
@[simp] theorem renewClosing_handedOut : (s.renewClosing p t).handedOut = s.handedOut := rfl

end RenewClosing

/-- `cycleTopic(t)`: `close(t.closingChannel)`, which panics on a closed channel, then
`t.closingChannel = make(chan struct{})`. -/
def cycleTopic (s : WebSocketServer) (p : Nat) : Option WebSocketServer :=
  (s.heap p).bind fun t => if s.closed t.closingChannel = 0 then some (s.renewClosing p t) else none

def step (s : WebSocketServer) : HubEvent → Option WebSocketServer
  | .getTopic topic =>
    let (s', p) := s.getTopic topic
    some { s' with reading := p :: s'.reading }
  | .readChannels i =>
    (s.reading.get? i).bind fun p => (s.heap p).map fun t =>
      { s with reading := s.reading.eraseIdx i, handedOut := (p, t.closingChannel) :: s.handedOut }
  | .cycleTopic topic => (s.topics topic).bind s.cycleTopic
  | .handler id => some { s with connections := id :: s.connections }
  | .connectionClosed id => some { s with connections := s.connections.filter (· != id) }

inductive Reachable : WebSocketServer → Prop
  | init : Reachable newWebSocketServer
  | step {s s' : WebSocketServer} (e : HubEvent) : Reachable s → s.step e = some s' →
      Reachable s'

/-! ## The invariant -/

structure HubInv (s : WebSocketServer) : Prop where
  topic_obj : ∀ name p, s.topics name = some p → ∃ t, s.heap p = some t ∧ t.topic = name
  heap_lt : ∀ p t, s.heap p = some t → p < s.nextTopic
  chan_lt : ∀ p t, s.heap p = some t → t.closingChannel < s.nextChan
  fresh : ∀ c, s.nextChan ≤ c → s.closed c = 0
  current_open : ∀ p t, s.heap p = some t → s.closed t.closingChannel = 0
  current_installed : ∀ p t, s.heap p = some t → (s.installed p).head? = some t.closingChannel
  old_closed : ∀ p, ∀ c ∈ (s.installed p).tail, s.closed c = 1
  distinct : ∀ p q tp tq, s.heap p = some tp → s.heap q = some tq → p ≠ q →
    tp.closingChannel ≠ tq.closingChannel
  installed_nil : ∀ p, s.nextTopic ≤ p → s.installed p = []
  handed_installed : ∀ pc ∈ s.handedOut, pc.2 ∈ s.installed pc.1

theorem hubInv_init : HubInv newWebSocketServer where
  topic_obj := by simp [newWebSocketServer]
  heap_lt := by simp [newWebSocketServer]
  chan_lt := by simp [newWebSocketServer]
  fresh := by simp [newWebSocketServer]
  current_open := by simp [newWebSocketServer]
  current_installed := by simp [newWebSocketServer]
  old_closed := by simp [newWebSocketServer]
  distinct := by simp [newWebSocketServer]
  installed_nil := by simp [newWebSocketServer]
  handed_installed := by simp [newWebSocketServer]

variable {s : WebSocketServer}

theorem HubInv.heap_none (hs : HubInv s) : s.heap s.nextTopic = none := by
  cases h : s.heap s.nextTopic with
  | none => rfl
  | some t => exact absurd (hs.heap_lt _ _ h) (lt_irrefl _)

/-- A binding of a heap updated at `p` is the new object or an old binding. -/
theorem heap_update_cases {s' : WebSocketServer} {p q : Nat} {t' tq : WebSocketTopic}
    (hheap : s'.heap = Function.update s.heap p (some t')) (h : s'.heap q = some tq) :
    (q = p ∧ tq = t') ∨ (q ≠ p ∧ s.heap q = some tq) := by
  rw [hheap, Function.update_apply] at h
  split_ifs at h with hq
  · exact .inl ⟨hq, (Option.some.inj h).symm⟩
  · exact .inr ⟨hq, h⟩

/-- Installing a channel not made before on one topic object keeps every closing channel below
`nextChan`, and the closing channels of distinct objects distinct. -/
theorem HubInv.chan_update (hs : HubInv s) {s' : WebSocketServer} {p : Nat} {t' : WebSocketTopic}
    (hheap : s'.heap = Function.update s.heap p (some t'))
    (hfresh : s.nextChan ≤ t'.closingChannel) (hnext : t'.closingChannel < s'.nextChan) :
    (∀ q tq, s'.heap q = some tq → tq.closingChannel < s'.nextChan) ∧
    (∀ q r tq tr, s'.heap q = some tq → s'.heap r = some tr → q ≠ r →
      tq.closingChannel ≠ tr.closingChannel) := by
  refine ⟨fun q tq h => ?_, fun q r tq tr hq hr hqr => ?_⟩
  · rcases heap_update_cases hheap h with ⟨-, rfl⟩ | ⟨-, h⟩
    · exact hnext
    · have := hs.chan_lt q tq h; omega
  · rcases heap_update_cases hheap hq with ⟨rfl, rfl⟩ | ⟨-, hq⟩ <;>
      rcases heap_update_cases hheap hr with ⟨rfl, rfl⟩ | ⟨-, hr⟩
    · exact absurd rfl hqr
    · have := hs.chan_lt r tr hr; omega
    · have := hs.chan_lt q tq hq; omega
    · exact hs.distinct q r tq tr hq hr hqr

theorem hubInv_createTopic (hs : HubInv s) (topic : String) : HubInv (s.createTopic topic) := by
  have hheap := createTopic_heap s topic
  obtain ⟨hchan, hdistinct⟩ := hs.chan_update hheap (by dsimp only; omega) (by simp)
  constructor
  · intro name p h
    simp only [createTopic_topics, Function.update_apply] at h
    split_ifs at h with hn
    · cases h; simp [hn]
    · obtain ⟨t, ht, htn⟩ := hs.topic_obj name p h
      exact ⟨t, by simp [(hs.heap_lt p t ht).ne, ht], htn⟩
  · intro p t h
    rcases heap_update_cases hheap h with ⟨rfl, -⟩ | ⟨-, h⟩
    · simp
    · have := hs.heap_lt p t h; simp only [createTopic_nextTopic]; omega
  · exact hchan
  · intro c hc; exact hs.fresh c (by simp only [createTopic_nextChan] at hc; omega)
  · intro p t h
    rcases heap_update_cases hheap h with ⟨-, rfl⟩ | ⟨-, h⟩
    · exact hs.fresh _ (by dsimp only; omega)
    · exact hs.current_open p t h
  · intro p t h
    simp only [createTopic_installed, Function.update_apply]
    rcases heap_update_cases hheap h with ⟨rfl, rfl⟩ | ⟨hp, h⟩
    · simp
    · rw [if_neg hp]; exact hs.current_installed p t h
  · intro p c hc
    simp only [createTopic_installed, createTopic_closed, Function.update_apply] at hc ⊢
    split_ifs at hc with hp
    · simp at hc
    · exact hs.old_closed p c hc
  · exact hdistinct
  · intro p hp
    simp only [createTopic_installed, createTopic_nextTopic, Function.update_apply] at hp ⊢
    rw [if_neg (by omega)]; exact hs.installed_nil p (by omega)
  · intro pc hpc
    have hmem := hs.handed_installed pc hpc
    have hne : pc.1 ≠ s.nextTopic := fun h => by
      rw [h, hs.installed_nil _ le_rfl] at hmem; simp at hmem
    simpa [Function.update_noteq hne] using hmem

theorem hubInv_getTopic (hs : HubInv s) (topic : String) : HubInv (s.getTopic topic).1 := by
  unfold getTopic
  split
  · exact hs
  · exact hubInv_createTopic hs topic

/-- Every closing channel installed on an object is its current one or closed. -/
theorem HubInv.installed_current_or_closed (hs : HubInv s) {p : Nat} {t : WebSocketTopic}
    (ht : s.heap p = some t) : ∀ c ∈ s.installed p, c = t.closingChannel ∨ s.closed c = 1 := by
  have hcur := hs.current_installed p t ht
  have hold := hs.old_closed p
  cases hi : s.installed p with
  | nil => simp
  | cons c' rest =>
    rw [hi, List.head?_cons, Option.some.injEq] at hcur
    rw [hi, List.tail_cons] at hold
    intro c hc
    rcases List.mem_cons.mp hc with rfl | hc
    · exact .inl hcur
    · exact .inr (hold c hc)

/-- After `cycleTopic` the channel it closed, and every channel closed before, is closed. -/
theorem renewClosing_closed_of {p c : Nat} {t : WebSocketTopic}
    (hc : c = t.closingChannel ∨ s.closed c = 1) : (s.renewClosing p t).closed c = 1 := by
  rw [renewClosing_closed, Function.update_apply]
  split_ifs with h
  · rfl
  · exact hc.resolve_left h

theorem hubInv_renewClosing (hs : HubInv s) {p : Nat} {t : WebSocketTopic}
    (ht : s.heap p = some t) : HubInv (s.renewClosing p t) := by
  have hheap := renewClosing_heap s p t
  have hlt := hs.chan_lt p t ht
  obtain ⟨hchan, hdistinct⟩ := hs.chan_update hheap le_rfl (by simp)
  constructor
  · intro name q h
    obtain ⟨tq, htq, htn⟩ := hs.topic_obj name q h
    simp only [renewClosing_heap, Function.update_apply]
    split_ifs with hq
    · subst hq; rw [ht] at htq; cases htq; exact ⟨_, rfl, htn⟩
    · exact ⟨tq, htq, htn⟩
  · intro q tq h
    rcases heap_update_cases hheap h with ⟨rfl, -⟩ | ⟨-, h⟩
    · exact hs.heap_lt _ t ht
    · exact hs.heap_lt q tq h
  · exact hchan
  · intro c hc
    simp only [renewClosing_nextChan, renewClosing_closed] at hc ⊢
    rw [Function.update_noteq (by omega)]; exact hs.fresh c (by omega)
  · intro q tq h
    simp only [renewClosing_closed, Function.update_apply]
    rcases heap_update_cases hheap h with ⟨-, rfl⟩ | ⟨hq, h⟩
    · rw [if_neg (by dsimp only; omega)]; exact hs.fresh _ le_rfl
    · rw [if_neg (hs.distinct q p tq t h ht hq)]; exact hs.current_open q tq h
  · intro q tq h
    simp only [renewClosing_installed, Function.update_apply]
    rcases heap_update_cases hheap h with ⟨rfl, rfl⟩ | ⟨hq, h⟩
    · simp
    · rw [if_neg hq]; exact hs.current_installed q tq h
  · intro q c hc
    simp only [renewClosing_installed, Function.update_apply] at hc
    refine renewClosing_closed_of ?_
    split_ifs at hc with hq
    · subst hq
      rw [List.tail_cons] at hc
      exact hs.installed_current_or_closed ht c hc
    · exact .inr (hs.old_closed q c hc)
  · exact hdistinct
  · intro q hq
    have hpq : q ≠ p := by have := hs.heap_lt p t ht; simp only [renewClosing_nextTopic] at hq; omega
    simp only [renewClosing_installed, renewClosing_nextTopic] at hq ⊢
    rw [Function.update_noteq hpq]; exact hs.installed_nil q hq
  · intro pc hpc
    have hmem := hs.handed_installed pc hpc
    simp only [renewClosing_installed, Function.update_apply]
    split_ifs with hq
    · subst hq; exact List.mem_cons_of_mem _ hmem
    · exact hmem

theorem hubInv_step (hs : HubInv s) {e : HubEvent} {s' : WebSocketServer}
    (h : s.step e = some s') : HubInv s' := by
  cases e with
  | getTopic topic =>
    cases h
    have := hubInv_getTopic hs topic
    exact { this with }
  | readChannels i =>
    obtain ⟨p, -, hp⟩ := Option.bind_eq_some.mp h
    obtain ⟨t, ht, rfl⟩ := Option.map_eq_some'.mp hp
    refine { hs with handed_installed := ?_ }
    intro pc hpc
    rcases List.mem_cons.mp hpc with rfl | hpc
    · exact List.mem_of_mem_head? (hs.current_installed p t ht)
    · exact hs.handed_installed pc hpc
  | cycleTopic topic =>
    obtain ⟨p, -, hp⟩ := Option.bind_eq_some.mp h
    obtain ⟨t, ht, hc⟩ := Option.bind_eq_some.mp hp
    split_ifs at hc
    cases hc
    exact hubInv_renewClosing hs ht
  | handler id => cases h; exact { hs with }
  | connectionClosed id => cases h; exact { hs with }

theorem Reachable.hubInv (h : Reachable s) : HubInv s := by
  induction h with
  | init => exact hubInv_init
  | step e _ hstep ih => exact hubInv_step ih hstep

/-! ## Topics over runs -/

/-- What a step may do to the topic map: keep every binding and object, with its name and its
sender and receiver channels, and bind a name only on its first lookup, to a fresh object. -/
def KeepsTopics (s : WebSocketServer) (e : HubEvent) (s' : WebSocketServer) : Prop :=
  (∀ name p, s.topics name = some p → s'.topics name = some p) ∧
  (∀ name p, s'.topics name = some p → s.topics name = some p ∨
    (e = .getTopic name ∧ p = s.nextTopic ∧ s.heap p = none)) ∧
  (∀ p t, s.heap p = some t → ∃ t', s'.heap p = some t' ∧ t'.topic = t.topic ∧
    t'.senderChannel = t.senderChannel ∧ t'.receiverChannel = t.receiverChannel)

theorem keepsTopics_refl (e : HubEvent) {s' : WebSocketServer} (ht : s'.topics = s.topics)
    (hh : s'.heap = s.heap) : KeepsTopics s e s' :=
  ⟨fun _ _ h => ht ▸ h, fun _ _ h => .inl (ht ▸ h), fun _ t h => ⟨t, hh ▸ h, rfl, rfl, rfl⟩⟩

theorem keepsTopics_step (hs : HubInv s) {e : HubEvent} {s' : WebSocketServer}
    (h : s.step e = some s') : KeepsTopics s e s' := by
  cases e with
  | getTopic topic =>
    cases h
    cases hnone : s.topics topic with
    | some p => simp only [getTopic, hnone]; exact keepsTopics_refl _ rfl rfl
    | none =>
      simp only [getTopic, hnone]
      have hfree := hs.heap_none
      refine ⟨fun name p hp => ?_, fun name p hp => ?_, fun p t hp => ?_⟩
      · have hn : name ≠ topic := fun hn => by rw [hn, hnone] at hp; cases hp
        simpa [Function.update_noteq hn] using hp
      · simp only [createTopic_topics, Function.update_apply] at hp
        split_ifs at hp with hn
        · cases hp; subst hn; exact .inr ⟨rfl, rfl, hfree⟩
        · exact .inl hp
      · have hne : p ≠ s.nextTopic := (hs.heap_lt p t hp).ne
        exact ⟨t, by simp [Function.update_noteq hne, hp], rfl, rfl, rfl⟩
  | readChannels i =>
    obtain ⟨p, -, hp⟩ := Option.bind_eq_some.mp h
    obtain ⟨t, -, rfl⟩ := Option.map_eq_some'.mp hp
    exact keepsTopics_refl _ rfl rfl
  | cycleTopic topic =>
    obtain ⟨p, -, hp⟩ := Option.bind_eq_some.mp h
    obtain ⟨t, ht, hc⟩ := Option.bind_eq_some.mp hp
    split_ifs at hc
    cases hc
    refine ⟨fun _ _ h => h, fun _ _ h => .inl h, fun q tq hq => ?_⟩
    simp only [renewClosing_heap, Function.update_apply]
    split_ifs with hqp
    · subst hqp; rw [ht] at hq; cases hq; exact ⟨_, rfl, rfl, rfl, rfl⟩
    · exact ⟨tq, hq, rfl, rfl, rfl⟩
  | handler id => cases h; exact keepsTopics_refl _ rfl rfl
  | connectionClosed id => cases h; exact keepsTopics_refl _ rfl rfl

/-- A `cycleTopic` of a known topic goes through, and closes every closing channel handed out
for it before. -/
theorem cycleTopic_closes_handed (hs : HubInv s) {name : String} {p : Nat}
    (hp : s.topics name = some p) :
    ∃ s', s.step (.cycleTopic name) = some s' ∧ ∀ c, (p, c) ∈ s.handedOut → s'.closed c = 1 := by
  obtain ⟨t, ht, -⟩ := hs.topic_obj name p hp
  refine ⟨s.renewClosing p t, by simp [step, hp, cycleTopic, ht, hs.current_open p t ht],
    fun c hc => renewClosing_closed_of ?_⟩
  exact hs.installed_current_or_closed ht c (hs.handed_installed (p, c) hc)

/-- The topic hub invariant: in every reachable state each name's object carries that name,
its current closing channel is open and every closing channel installed on it before has been
closed exactly once; every step keeps the names, objects, sender and receiver channels,
binding a name only on its first lookup to a fresh object; and a `cycleTopic` never closes a
closed channel and closes every closing channel `GetChannels` handed out for that topic. -/
theorem webSocketServer_topic_invariant {s : WebSocketServer} (hs : Reachable s) :
    (∀ name p, s.topics name = some p → ∃ t, s.heap p = some t ∧ t.topic = name ∧
      s.closed t.closingChannel = 0 ∧ (s.installed p).head? = some t.closingChannel ∧
      ∀ c ∈ (s.installed p).tail, s.closed c = 1) ∧
    (∀ e s', s.step e = some s' → KeepsTopics s e s') ∧
    (∀ name p, s.topics name = some p → ∃ s', s.step (.cycleTopic name) = some s' ∧
      ∀ c, (p, c) ∈ s.handedOut → s'.closed c = 1) := by
  have hi := hs.hubInv
  refine ⟨fun name p hp => ?_, fun e s' h => keepsTopics_step hi h,
    fun name p hp => cycleTopic_closes_handed hi hp⟩
  obtain ⟨t, ht, htn⟩ := hi.topic_obj name p hp
  exact ⟨t, ht, htn, hi.current_open p t ht, hi.current_installed p t ht, hi.old_closed p⟩

/-- A producer looks up topic `t`, reads its channels, and the subscriber on `t` goes. -/
theorem webSocketServer_topic_invariant_sample :
    ∃ s, Reachable s ∧ s.handedOut = [(0, 2)] ∧
      ((∀ name p, s.topics name = some p → ∃ t, s.heap p = some t ∧ t.topic = name ∧
        s.closed t.closingChannel = 0 ∧ (s.installed p).head? = some t.closingChannel ∧
        ∀ c ∈ (s.installed p).tail, s.closed c = 1) ∧
      (∀ e s', s.step e = some s' → KeepsTopics s e s') ∧
      (∀ name p, s.topics name = some p → ∃ s', s.step (.cycleTopic name) = some s' ∧
        ∀ c, (p, c) ∈ s.handedOut → s'.closed c = 1)) := by
  have h : Reachable _ := .step (.readChannels 0) (.step (.getTopic "t") .init rfl) rfl
  exact ⟨_, h, rfl, webSocketServer_topic_invariant h⟩

end WebSocketServer

end Ethconnect.Ws
