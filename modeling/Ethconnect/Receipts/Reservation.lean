import Mathlib.Data.List.Nodup
import Ethconnect.Basic

/-!
# Request-id reservations

`reserveID` and the release function it returns each run with `reservationMux` held for
their whole body, so every interleaving of reservations and releases is a sequence of whole
calls. A reservation's outcome depends on the persistence's answer to `GetReceipt`, which is
part of the event: any persistence behaviour is allowed.

Besides `reservedIDs`, the state records as ghost data the release functions handed out and
not yet invoked, each with the id its closure captured. `Reservations.Inv` says the set is
exactly the ids of those handles, one handle per id; every step keeps it. `release_spec` says
what invoking one does to `reservedIDs`, so that the ghost list is pinned to the calls.
-/

namespace Ethconnect.Receipts

structure Reservations where
  reservedIDs : String → Bool
  /-- Ghost: the release functions not yet invoked, by handle, with their captured id. -/
  outstanding : List (Nat × String)
  /-- Ghost: the handle the next successful reservation returns. -/
  nextHandle : Nat

namespace Reservations

def init : Reservations := ⟨fun _ => false, [], 0⟩

/-- `reserveID(msgID)` given `GetReceipt(msgID)`'s answer: the release handle or the error,
and the state after the call. -/
def reserveID (s : Reservations) (msgID : String) (lookup : GoResult (Option JObj)) :
    GoResult Nat × Reservations :=
  match lookup with
  | .error e => (.error e, s)
  | .panic e => (.panic e, s)
  | .ok m =>
    if m.isSome || s.reservedIDs msgID then (.error "ReceiptStoreKeyNotUnique", s)
    else (.ok s.nextHandle,
      { reservedIDs := fun k => if k = msgID then true else s.reservedIDs k
        outstanding := (s.nextHandle, msgID) :: s.outstanding
        nextHandle := s.nextHandle + 1 })

/-- Invoking the release function `handle`: `delete(r.reservedIDs, msgID)` for the id it
captured. Each release function is invoked at most once, so only an outstanding handle can
be released. -/
def release (s : Reservations) (handle : Nat) : Option Reservations :=
  (s.outstanding.lookup handle).map fun msgID =>
    { s with
      reservedIDs := fun k => if k = msgID then false else s.reservedIDs k
      outstanding := s.outstanding.filter (·.1 != handle) }

end Reservations

inductive ReservationEvent where
  | reserveID (msgID : String) (lookup : GoResult (Option JObj))
  | release (handle : Nat)

namespace Reservations

def step (s : Reservations) : ReservationEvent → Option Reservations
  | .reserveID msgID lookup => some (s.reserveID msgID lookup).2
  | .release handle => s.release handle

inductive Reachable : Reservations → Prop
  | init : Reachable init
  | step {s s' : Reservations} (e : ReservationEvent) : Reachable s → s.step e = some s' →
      Reachable s'

structure Inv (s : Reservations) : Prop where
  reserved_iff : ∀ r, s.reservedIDs r = true ↔ r ∈ s.outstanding.map Prod.snd
  ids_nodup : (s.outstanding.map Prod.snd).Nodup
  handles_nodup : (s.outstanding.map Prod.fst).Nodup
  handles_lt : ∀ p ∈ s.outstanding, p.1 < s.nextHandle

theorem inv_init : Inv init := ⟨by simp [init], by simp [init], by simp [init], by simp [init]⟩

/-! ## Reservations -/

/-- A reservation succeeds only on a `GetReceipt` that found nothing and an id not reserved. -/
theorem reserveID_ok {s : Reservations} {msgID : String} {lookup : GoResult (Option JObj)}
    {h : Nat} (hok : (s.reserveID msgID lookup).1 = .ok h) :
    lookup = .ok none ∧ s.reservedIDs msgID = false ∧ h = s.nextHandle := by
  unfold reserveID at hok
  split at hok <;> try cases hok
  rename_i m
  split at hok
  · cases hok
  · rename_i hfree
    simp only [Bool.or_eq_true, not_or, Bool.not_eq_true] at hfree
    cases hok
    exact ⟨by cases m <;> simp_all, hfree.2, rfl⟩

/-- A reservation that returns no handle changes nothing. -/
theorem reserveID_fail {s : Reservations} {msgID : String} {lookup : GoResult (Option JObj)}
    (hfail : ∀ h, (s.reserveID msgID lookup).1 ≠ .ok h) : (s.reserveID msgID lookup).2 = s := by
  cases lookup with
  | ok m =>
    by_cases hc : (m.isSome || s.reservedIDs msgID) = true
    · simp [reserveID, hc]
    · exact absurd (by simp [reserveID, hc]) (hfail s.nextHandle)
  | _ => rfl

theorem inv_reserveID {s : Reservations} (hs : Inv s) (msgID : String)
    (lookup : GoResult (Option JObj)) : Inv (s.reserveID msgID lookup).2 := by
  by_cases hok : ∃ h, (s.reserveID msgID lookup).1 = .ok h
  · obtain ⟨h, hh⟩ := hok
    obtain ⟨rfl, hfree, rfl⟩ := reserveID_ok hh
    have hnot : msgID ∉ s.outstanding.map Prod.snd := by
      rw [← hs.reserved_iff]; simp [hfree]
    have hfresh : s.nextHandle ∉ s.outstanding.map Prod.fst := fun hm => by
      obtain ⟨p, hp, hpe⟩ := List.mem_map.mp hm
      exact absurd (hs.handles_lt p hp) (by omega)
    simp only [reserveID, Option.isSome_none, hfree, Bool.or_false, Bool.false_eq_true, if_false]
    refine ⟨fun r => ?_, ?_, ?_, ?_⟩
    · by_cases hr : r = msgID <;> simp [hr, hs.reserved_iff]
    · exact List.nodup_cons.mpr ⟨hnot, hs.ids_nodup⟩
    · exact List.nodup_cons.mpr ⟨hfresh, hs.handles_nodup⟩
    · intro p hp
      rcases List.mem_cons.mp hp with rfl | hp
      · exact Nat.lt_succ_self _
      · exact Nat.lt_succ_of_lt (hs.handles_lt p hp)
  · rw [reserveID_fail fun h hh => hok ⟨h, hh⟩]; exact hs

/-! ## Releases -/

theorem mem_of_lookup {l : List (Nat × String)} {handle : Nat} {msgID : String}
    (h : l.lookup handle = some msgID) : (handle, msgID) ∈ l := by
  induction l with
  | nil => cases h
  | cons p l ih =>
    obtain ⟨a, b⟩ := p
    by_cases ha : handle = a
    · subst ha; simp [List.lookup_cons] at h; simp [h]
    · have : (handle == a) = false := by simpa using ha
      simp only [List.lookup_cons, this] at h
      exact List.mem_cons_of_mem _ (ih h)

/-- Releasing `handle` removes exactly its captured id from the ids of outstanding handles. -/
theorem mem_release_ids {s : Reservations} (hs : Inv s) {handle : Nat} {msgID : String}
    (hmem : (handle, msgID) ∈ s.outstanding) (r : String) :
    r ∈ (s.outstanding.filter (·.1 != handle)).map Prod.snd ↔
      r ∈ s.outstanding.map Prod.snd ∧ r ≠ msgID := by
  simp only [List.mem_map, List.mem_filter, bne_iff_ne, ne_eq]
  constructor
  · rintro ⟨⟨a, b⟩, ⟨hp, hne⟩, rfl⟩
    refine ⟨⟨_, hp, rfl⟩, fun hb => hne ?_⟩
    subst hb
    exact congrArg Prod.fst (List.inj_on_of_nodup_map hs.ids_nodup hp hmem rfl)
  · rintro ⟨⟨⟨a, b⟩, hp, rfl⟩, hne⟩
    refine ⟨(a, b), ⟨hp, fun ha => hne ?_⟩, rfl⟩
    exact congrArg Prod.snd (List.inj_on_of_nodup_map hs.handles_nodup hp hmem ha)

theorem lookup_of_mem {l : List (Nat × String)} {handle : Nat} {msgID : String}
    (hnd : (l.map Prod.fst).Nodup) (h : (handle, msgID) ∈ l) : l.lookup handle = some msgID := by
  induction l with
  | nil => cases h
  | cons p l ih =>
    obtain ⟨a, b⟩ := p
    rw [List.map_cons, List.nodup_cons] at hnd
    rcases List.mem_cons.mp h with he | hl
    · cases he; simp [List.lookup_cons]
    · have ha : (handle == a) = false := beq_false_of_ne fun ha => by
        subst ha; exact hnd.1 (List.mem_map.mpr ⟨_, hl, rfl⟩)
      simp only [List.lookup_cons, ha, ih hnd.2 hl]

theorem lookup_filter_self (l : List (Nat × String)) (handle : Nat) :
    (l.filter (·.1 != handle)).lookup handle = none := by
  cases hl : (l.filter (·.1 != handle)).lookup handle with
  | none => rfl
  | some m => simpa using List.of_mem_filter (mem_of_lookup hl)

/-- Invoking an outstanding release function frees its id and no other, and the function is then
spent. -/
theorem release_spec {s : Reservations} (hs : Inv s) {handle : Nat} {r : String}
    (hmem : (handle, r) ∈ s.outstanding) :
    ∃ s', s.release handle = some s' ∧ s'.reservedIDs r = false ∧
      (∀ k, k ≠ r → s'.reservedIDs k = s.reservedIDs k) ∧ (∀ h', (h', r) ∉ s'.outstanding) ∧
      s'.release handle = none := by
  refine ⟨{ s with
      reservedIDs := fun k => if k = r then false else s.reservedIDs k
      outstanding := s.outstanding.filter (·.1 != handle) },
    by rw [release, lookup_of_mem hs.handles_nodup hmem]; rfl, by simp, fun k hk => by simp [hk],
    fun h' hh' => ((mem_release_ids hs hmem r).mp (List.mem_map_of_mem Prod.snd hh')).2 rfl,
    by rw [release, lookup_filter_self]; rfl⟩

theorem inv_release {s s' : Reservations} (hs : Inv s) {handle : Nat}
    (h : s.release handle = some s') : Inv s' := by
  unfold release at h
  obtain ⟨msgID, hl, rfl⟩ := Option.map_eq_some'.mp h
  have hmem := mem_of_lookup hl
  refine ⟨fun r => ?_, ?_, ?_, fun p hp => hs.handles_lt p (List.mem_of_mem_filter hp)⟩
  · rw [mem_release_ids hs hmem]
    by_cases hr : r = msgID <;> simp [hr, hs.reserved_iff]
  · exact (List.filter_sublist _).map _ |>.nodup hs.ids_nodup
  · exact (List.filter_sublist _).map _ |>.nodup hs.handles_nodup

theorem inv_step {s s' : Reservations} (hs : Inv s) {e : ReservationEvent}
    (h : s.step e = some s') : Inv s' := by
  cases e with
  | reserveID msgID lookup => cases h; exact inv_reserveID hs msgID lookup
  | release handle => exact inv_release hs h

theorem Reachable.inv {s : Reservations} (h : Reachable s) : Inv s := by
  induction h with
  | init => exact inv_init
  | step e _ hstep ih => exact inv_step ih hstep

/-- Reservation exclusion: in every reachable state each id is held by at most one
outstanding release function and is reserved exactly when one holds it, and invoking that
function frees the id, and only it, and spends the function. A reservation succeeds only when
`GetReceipt` found no receipt and no error and the id was free, reserves the id and hands out a
release function holding it, and does succeed on a free id that `GetReceipt` does not find; a
failed one changes nothing. -/
theorem reserveID_exclusion :
    (∀ s : Reservations, Reachable s → ∀ r,
      (s.outstanding.map Prod.snd).count r ≤ 1 ∧
      (s.reservedIDs r = true ↔ ∃ h, (h, r) ∈ s.outstanding) ∧
      ∀ h, (h, r) ∈ s.outstanding → ∃ s', s.release h = some s' ∧ s'.reservedIDs r = false ∧
        (∀ k, k ≠ r → s'.reservedIDs k = s.reservedIDs k) ∧ (∀ h', (h', r) ∉ s'.outstanding) ∧
        s'.release h = none) ∧
    (∀ (s : Reservations) msgID lookup h, (s.reserveID msgID lookup).1 = .ok h →
      lookup = .ok none ∧ s.reservedIDs msgID = false ∧
      (s.reserveID msgID lookup).2.reservedIDs msgID = true ∧
      (h, msgID) ∈ (s.reserveID msgID lookup).2.outstanding) ∧
    (∀ (s : Reservations) msgID, s.reservedIDs msgID = false →
      ∃ h, (s.reserveID msgID (.ok none)).1 = .ok h) ∧
    (∀ (s : Reservations) msgID lookup, (∀ h, (s.reserveID msgID lookup).1 ≠ .ok h) →
      (s.reserveID msgID lookup).2.reservedIDs = s.reservedIDs) := by
  refine ⟨fun s hs r => ?_, fun s msgID lookup h hh => ?_,
    fun s msgID hfree => ⟨s.nextHandle, by simp [reserveID, hfree]⟩,
    fun s msgID lookup hfail => by rw [reserveID_fail hfail]⟩
  · have hi := hs.inv
    refine ⟨List.nodup_iff_count_le_one.mp hi.ids_nodup r, ?_, fun h hmem => release_spec hi hmem⟩
    rw [hi.reserved_iff]
    simp
  · obtain ⟨rfl, hfree, rfl⟩ := reserveID_ok hh
    simp [reserveID, hfree]

/-- `req-1` is reserved, its release function invoked, and `req-1` reserved again. -/
theorem reserveID_exclusion_sample :
    ∃ s₁ s₂ s₃ : Reservations, Reachable s₃ ∧ init.step (.reserveID "req-1" (.ok none)) = some s₁ ∧
      s₁.reservedIDs "req-1" = true ∧ s₁.step (.release 0) = some s₂ ∧
      s₂.reservedIDs "req-1" = false ∧ s₂.step (.reserveID "req-1" (.ok none)) = some s₃ ∧
      (∃ h, (s₂.reserveID "req-1" (.ok none)).1 = .ok h) ∧
      (s₃.outstanding.map Prod.snd).count "req-1" ≤ 1 ∧
      (s₃.reservedIDs "req-1" = true ↔ ∃ h, (h, "req-1") ∈ s₃.outstanding) := by
  have h₁ : Reachable _ := .step (.reserveID "req-1" (.ok none)) .init rfl
  obtain ⟨s₂, hrel, hfree, -⟩ := (reserveID_exclusion.1 _ h₁ "req-1").2.2 0 (.head _)
  have h₃ : Reachable _ := .step (.reserveID "req-1" (.ok none)) (.step (.release 0) h₁ hrel) rfl
  exact ⟨_, s₂, _, h₃, rfl, rfl, hrel, hfree, rfl, reserveID_exclusion.2.2.1 s₂ "req-1" hfree,
    (reserveID_exclusion.1 _ h₃ "req-1").1, (reserveID_exclusion.1 _ h₃ "req-1").2.1⟩

end Reservations

end Ethconnect.Receipts
