import Mathlib.Data.Finset.Card

/-!
# The LRU behind the ABI cache

`contractStore.Init` creates `abiCache` with `lru.New(DefaultABICacheSize)` of
hashicorp/golang-lru. Its `simplelru.LRU` keeps its entries in `evictList`, most recently used
first, and finds them by key through `items`. `Get` of a cached key and every `Add` move the
key's entry to the front; an `Add` that takes the list over `size` removes the entry at the back.
`lru.Cache` takes a lock around each call, so each call is one step.

A use of a key is an `Add`, or a `Get` that finds it. `recent` lists the keys of a history of
uses, latest first, each once, in the order `evictList` keeps them. The cache holds the first
`size` of them, each with the value of its last `Add` (`Tracks`).

## Main results

* `Tracks.moveToFront`, `Tracks.add`: a `Get` that finds its key, and every `Add`, keep
  `Tracks`; a `Get` that misses changes nothing (`get_of_find?_none`).
* `Tracks.find?_eq_some`: what a tracked cache holds.
* `mem_recent_take_iff`: a key is among the first `size` of `recent uses` exactly when it has
  been used and fewer than `size` distinct keys have been used since its last use.
-/

namespace Ethconnect.Contracts

/-- `simplelru.LRU`: the entries of `evictList`, front first, each key once. -/
structure LRU (κ ν : Type) where
  size : Nat
  entries : List (κ × ν)
  keys_nodup : (entries.map Prod.fst).Nodup
  length_le : entries.length ≤ size

namespace LRU

variable {κ ν : Type} [DecidableEq κ]

/-- The keys of `evictList`, front first. -/
def keys (c : LRU κ ν) : List κ := c.entries.map Prod.fst

/-- `lru.New(size)`. -/
def new (size : Int) : Except String (LRU κ ν) :=
  if size ≤ 0 then .error "must provide a positive size"
  else .ok ⟨size.toNat, [], List.nodup_nil, Nat.zero_le _⟩

/-- `items[key]`: the value of the key's entry. -/
def find? (c : LRU κ ν) (key : κ) : Option ν := c.entries.lookup key

/-- `evictList.MoveToFront(items[key])`. -/
def moveToFront (c : LRU κ ν) (key : κ) : LRU κ ν where
  size := c.size
  entries := c.entries.filter (·.1 == key) ++ c.entries.filter (·.1 != key)
  keys_nodup := (((List.filter_append_perm _ _).map Prod.fst).nodup_iff).mpr c.keys_nodup
  length_le := ((List.filter_append_perm (·.1 == key) c.entries).length_eq).trans_le c.length_le

/-- `ent.Value.(*entry).value = value` on the key's entry. -/
def setValue (c : LRU κ ν) (key : κ) (value : ν) : LRU κ ν where
  size := c.size
  entries := c.entries.map fun e => if e.1 = key then (key, value) else e
  keys_nodup := by
    rw [List.map_map]
    convert c.keys_nodup using 2
    funext e
    by_cases h : e.1 = key <;> simp [h]
  length_le := (List.length_map _ _).trans_le c.length_le

/-- `Get(key)`. -/
def get (c : LRU κ ν) (key : κ) : Option ν × LRU κ ν :=
  match c.find? key with
  | some value => (some value, c.moveToFront key)
  | none => (none, c)

/-- `Add(key, value)`: whether an entry was evicted, and the cache. A new entry goes to the
front, and `removeOldest` drops the back one when the list has grown past `size`. -/
def add (c : LRU κ ν) (key : κ) (value : ν) : Bool × LRU κ ν :=
  if h : key ∈ c.keys then (false, (c.moveToFront key).setValue key value)
  else
    have hnodup : (((key, value) :: c.entries).map Prod.fst).Nodup :=
      List.nodup_cons.mpr ⟨h, c.keys_nodup⟩
    if hs : c.size < c.entries.length + 1 then
      (true, ⟨c.size, ((key, value) :: c.entries).dropLast,
        ((List.dropLast_sublist _).map _).nodup hnodup,
        by rw [List.length_dropLast, List.length_cons]; exact c.length_le⟩)
    else (false,
      ⟨c.size, (key, value) :: c.entries, hnodup, by simp only [List.length_cons]; omega⟩)

/-! ## The entries after one call -/

theorem lookup_eq_some_iff {l : List (κ × ν)} (hl : (l.map Prod.fst).Nodup) {k : κ} {v : ν} :
    l.lookup k = some v ↔ (k, v) ∈ l := by
  induction l with
  | nil => simp
  | cons e l ih =>
    obtain ⟨a, b⟩ := e
    rw [List.map_cons, List.nodup_cons] at hl
    by_cases hk : k = a
    · subst hk
      have hv : (k, v) ∉ l := fun h => hl.1 (List.mem_map.mpr ⟨_, h, rfl⟩)
      simp only [List.lookup_cons, beq_self_eq_true, Option.some.injEq, List.mem_cons,
        Prod.mk.injEq, true_and, hv, or_false]
      exact eq_comm
    · rw [List.lookup_cons, beq_false_of_ne hk]
      simp only [ih hl.2, List.mem_cons, Prod.mk.injEq, hk, false_and, false_or]

theorem lookup_eq_none_iff {l : List (κ × ν)} {k : κ} :
    l.lookup k = none ↔ k ∉ l.map Prod.fst := by
  induction l with
  | nil => simp
  | cons e l ih =>
    obtain ⟨a, b⟩ := e
    by_cases hk : k = a
    · simp [List.lookup_cons, hk]
    · rw [List.lookup_cons, beq_false_of_ne hk]
      simp only [ih, List.map_cons, List.mem_cons, hk, false_or]

theorem mem_of_lookup_eq_some {l : List (κ × ν)} {k : κ} {v : ν} (h : l.lookup k = some v) :
    (k, v) ∈ l := by
  induction l with
  | nil => cases h
  | cons e l ih =>
    obtain ⟨a, b⟩ := e
    by_cases hk : k = a
    · subst hk
      simp only [List.lookup_cons, beq_self_eq_true, Option.some.injEq] at h
      exact h ▸ List.mem_cons_self _ _
    · rw [List.lookup_cons, beq_false_of_ne hk] at h
      exact List.mem_cons_of_mem _ (ih h)

theorem find?_eq_some_iff {c : LRU κ ν} {k : κ} {v : ν} : c.find? k = some v ↔ (k, v) ∈ c.entries :=
  lookup_eq_some_iff c.keys_nodup

theorem find?_eq_none_iff {c : LRU κ ν} {k : κ} : c.find? k = none ↔ k ∉ c.keys :=
  lookup_eq_none_iff

theorem keys_moveToFront {c : LRU κ ν} {key : κ} (h : key ∈ c.keys) :
    (c.moveToFront key).keys = key :: c.keys.erase key := by
  have hsplit : (c.moveToFront key).keys =
      c.keys.filter (· == key) ++ c.keys.filter (· != key) := by
    simp only [keys, moveToFront, List.map_append, List.filter_map]; rfl
  rw [hsplit, List.filter_beq, List.count_eq_one_of_mem (l := c.keys) c.keys_nodup h,
    ← List.Nodup.erase_eq_filter (l := c.keys) c.keys_nodup]
  rfl

theorem mem_entries_moveToFront {c : LRU κ ν} {key : κ} {e : κ × ν} :
    e ∈ (c.moveToFront key).entries ↔ e ∈ c.entries :=
  (List.filter_append_perm (·.1 == key) c.entries).mem_iff

theorem keys_setValue (c : LRU κ ν) (key : κ) (value : ν) :
    (c.setValue key value).keys = c.keys := by
  simp only [keys, setValue, List.map_map]
  congr 1
  funext e
  by_cases h : e.1 = key <;> simp [h]

theorem keys_add (c : LRU κ ν) (key : κ) (value : ν) :
    (c.add key value).2.keys = (key :: c.keys.erase key).take c.size := by
  have hlen : c.keys.length = c.entries.length := List.length_map _ _
  have hle := c.length_le
  unfold add
  split_ifs with h hs
  · rw [keys_setValue, keys_moveToFront h, List.take_of_length_le]
    rw [List.length_cons, List.length_erase_of_mem h]
    have := List.length_pos_of_mem h
    omega
  · have hsize : c.size = c.entries.length := by omega
    rw [List.erase_of_not_mem h]
    simp only [keys, List.map_cons, List.map_dropLast, List.dropLast_eq_take, List.length_cons,
      List.length_map, Nat.add_sub_cancel, hsize, List.map_take]
  · rw [List.erase_of_not_mem h, List.take_of_length_le]
    · rfl
    · simp only [List.length_cons, hlen]
      omega

theorem mem_entries_add {c : LRU κ ν} {key : κ} {value : ν} {e : κ × ν}
    (he : e ∈ (c.add key value).2.entries) : e = (key, value) ∨ e ∈ c.entries ∧ e.1 ≠ key := by
  unfold add at he
  split_ifs at he with h hs
  · obtain ⟨e', he', rfl⟩ := List.mem_map.mp he
    by_cases hk : e'.1 = key
    · left; simp [hk]
    · right; simp only [hk, if_false]; exact ⟨mem_entries_moveToFront.mp he', hk⟩
  · rcases List.mem_cons.mp (List.mem_of_mem_dropLast he) with rfl | he
    · exact .inl rfl
    · exact .inr ⟨he, fun hk => h (hk ▸ List.mem_map_of_mem Prod.fst he)⟩
  · rcases List.mem_cons.mp he with rfl | he
    · exact .inl rfl
    · exact .inr ⟨he, fun hk => h (hk ▸ List.mem_map_of_mem Prod.fst he)⟩

theorem size_add (c : LRU κ ν) (key : κ) (value : ν) : (c.add key value).2.size = c.size := by
  unfold add
  split_ifs <;> rfl

/-! ## Uses -/

/-- The keys of a history of uses, latest first: each key once, in the order of its last use. -/
def recent : List κ → List κ
  | [] => []
  | k :: uses => k :: (recent uses).erase k

@[simp] theorem mem_recent {uses : List κ} {k : κ} : k ∈ recent uses ↔ k ∈ uses := by
  induction uses with
  | nil => rfl
  | cons a uses ih =>
    by_cases h : k = a
    · simp [recent, h]
    · simp [recent, h, List.mem_erase_of_ne h, ih]

theorem recent_nodup (uses : List κ) : (recent uses).Nodup := by
  induction uses with
  | nil => exact List.nodup_nil
  | cons a uses ih => exact List.nodup_cons.mpr ⟨ih.not_mem_erase, ih.erase a⟩

theorem length_recent (uses : List κ) : (recent uses).length = uses.toFinset.card := by
  have h : (recent uses).toFinset = uses.toFinset := by ext k; simp
  rw [← h, List.toFinset_card_of_nodup (recent_nodup uses)]

/-- Keys past the first `t + 1` do not reach the first `t` once one key is erased. -/
theorem take_erase_take (R : List κ) (k : κ) (t : Nat) :
    ((R.take (t + 1)).erase k).take t = (R.erase k).take t := by
  induction R generalizing t with
  | nil => simp
  | cons x xs ih =>
    rw [List.take_succ_cons]
    by_cases hx : x = k
    · subst hx
      simp [List.take_take]
    · have hb : ¬(x == k) = true := by simpa using hx
      rw [List.erase_cons_tail hb, List.erase_cons_tail hb]
      cases t with
      | zero => rfl
      | succ u => rw [List.take_succ_cons, List.take_succ_cons, ih]

theorem take_touch (R : List κ) (k : κ) (s : Nat) :
    (k :: (R.take s).erase k).take s = (k :: R.erase k).take s := by
  cases s with
  | zero => rfl
  | succ t => rw [List.take_succ_cons, List.take_succ_cons, take_erase_take]

theorem erase_takeWhile {p : κ → Bool} {a : κ} (hp : p a = true) (L : List κ) :
    (L.erase a).takeWhile p = (L.takeWhile p).erase a := by
  induction L with
  | nil => rfl
  | cons x xs ih =>
    by_cases hx : x = a
    · subst hx
      simp [List.takeWhile_cons, hp]
    · have hb : ¬(x == a) = true := by simpa using hx
      rw [List.erase_cons_tail hb, List.takeWhile_cons, List.takeWhile_cons]
      split_ifs
      · rw [ih, List.erase_cons_tail hb]
      · rfl

/-- The keys used since the last use of `k` come first in `recent`, in the same order. -/
theorem takeWhile_recent (uses : List κ) (k : κ) :
    (recent uses).takeWhile (· != k) = recent (uses.takeWhile (· != k)) := by
  induction uses with
  | nil => rfl
  | cons a uses ih =>
    by_cases ha : a = k
    · subst ha
      simp [recent, List.takeWhile_cons]
    · have hp : (a != k) = true := by simpa using ha
      rw [recent, List.takeWhile_cons, List.takeWhile_cons, if_pos hp, if_pos hp,
        erase_takeWhile (p := (· != k)) hp, ih, recent]

theorem mem_take_iff_takeWhile {L : List κ} {k : κ} (hk : k ∈ L) (s : Nat) :
    k ∈ L.take s ↔ (L.takeWhile (· != k)).length < s := by
  induction L generalizing s with
  | nil => cases hk
  | cons x xs ih =>
    cases s with
    | zero => simp
    | succ t =>
      by_cases hx : x = k
      · subst hx
        simp [List.takeWhile_cons]
      · have hk' : k ∈ xs := (List.mem_cons.mp hk).resolve_left (Ne.symm hx)
        have hp : (x != k) = true := by simpa using hx
        rw [List.take_succ_cons, List.takeWhile_cons, if_pos hp, List.length_cons,
          List.mem_cons, ih hk' t, or_iff_right (Ne.symm hx)]
        omega

/-- A key is among the first `s` of `recent uses` exactly when it has been used and fewer than
`s` distinct keys have been used since its last use. -/
theorem mem_recent_take_iff {uses : List κ} {k : κ} {s : Nat} :
    k ∈ (recent uses).take s ↔ k ∈ uses ∧ (uses.takeWhile (· != k)).toFinset.card < s := by
  by_cases hk : k ∈ uses
  · rw [mem_take_iff_takeWhile (mem_recent.mpr hk), takeWhile_recent, length_recent]
    exact (and_iff_right hk).symm
  · exact iff_of_false (fun h => hk (mem_recent.mp (List.mem_of_mem_take h))) (fun h => hk h.1)

/-! ## What the cache holds -/

/-- The cache after the uses `uses` and the `Add`s `added`, both latest first: its keys are the
first `size` of `recent uses`, each with the value of its last `Add`. -/
structure Tracks (c : LRU κ ν) (uses : List κ) (added : List (κ × ν)) : Prop where
  keys_eq : c.keys = (recent uses).take c.size
  lookup_eq : ∀ e ∈ c.entries, added.lookup e.1 = some e.2

theorem tracks_new {size : Int} {c : LRU κ ν} (h : new size = .ok c) : Tracks c [] [] := by
  unfold new at h
  split at h
  · cases h
  · cases h
    exact ⟨by simp [keys, recent], fun _ h => nomatch h⟩

omit [DecidableEq κ] in
theorem size_of_new {size : Int} {c : LRU κ ν} (h : new size = .ok c) : c.size = size.toNat := by
  unfold new at h
  split at h
  · cases h
  · cases h
    rfl

theorem Tracks.keys_touch {c : LRU κ ν} {uses : List κ} {added : List (κ × ν)}
    (ht : Tracks c uses added) (k : κ) :
    (k :: c.keys.erase k).take c.size = (recent (k :: uses)).take c.size := by
  rw [ht.keys_eq, take_touch]
  rfl

theorem Tracks.moveToFront {c : LRU κ ν} {uses : List κ} {added : List (κ × ν)}
    (ht : Tracks c uses added) {k : κ} (hk : k ∈ c.keys) :
    Tracks (c.moveToFront k) (k :: uses) added where
  keys_eq := by
    have hlen : (k :: c.keys.erase k).length ≤ c.size := by
      rw [List.length_cons, List.length_erase_of_mem hk]
      have := List.length_pos_of_mem hk
      have : c.keys.length ≤ c.size := (List.length_map _ _).trans_le c.length_le
      omega
    rw [keys_moveToFront hk, ← List.take_of_length_le hlen, ht.keys_touch]
    rfl
  lookup_eq e he := ht.lookup_eq e (mem_entries_moveToFront.mp he)

theorem Tracks.add {c : LRU κ ν} {uses : List κ} {added : List (κ × ν)}
    (ht : Tracks c uses added) (k : κ) (v : ν) :
    Tracks (c.add k v).2 (k :: uses) ((k, v) :: added) where
  keys_eq := by rw [keys_add, size_add, ht.keys_touch]
  lookup_eq e he := by
    rcases mem_entries_add he with rfl | ⟨he, hne⟩
    · simp [List.lookup_cons]
    · rw [List.lookup_cons, beq_false_of_ne hne]
      exact ht.lookup_eq e he

theorem Tracks.find?_eq_some {c : LRU κ ν} {uses : List κ} {added : List (κ × ν)}
    (ht : Tracks c uses added) {k : κ} {v : ν} :
    c.find? k = some v ↔ k ∈ (recent uses).take c.size ∧ added.lookup k = some v := by
  rw [find?_eq_some_iff, ← ht.keys_eq]
  constructor
  · intro h
    exact ⟨List.mem_map_of_mem Prod.fst h, ht.lookup_eq _ h⟩
  · rintro ⟨hk, hv⟩
    obtain ⟨⟨k', v'⟩, he, rfl⟩ := List.mem_map.mp hk
    have := ht.lookup_eq _ he
    rw [hv] at this
    cases this
    exact he

theorem get_of_find? {c : LRU κ ν} {k : κ} {v : ν} (h : c.find? k = some v) :
    c.get k = (some v, c.moveToFront k) := by
  simp [get, h]

theorem get_of_find?_none {c : LRU κ ν} {k : κ} (h : c.find? k = none) : c.get k = (none, c) := by
  simp [get, h]

end LRU

end Ethconnect.Contracts
