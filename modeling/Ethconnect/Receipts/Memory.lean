import Mathlib.Algebra.Group.Int
import Ethconnect.Basic

/-!
# The in-memory receipt store

`memoryReceipts` keeps a `container/list` of receipts, newest at the front. `AddReceipt`
evicts the back element once the list holds `MaxDocs` entries, `GetReceipts` walks the list
with a skip loop and a limit loop, and `GetReceipt` scans it for the first matching `_id`.

The abstract model is `window`: the newest `max MaxDocs 1` receipts added, newest first.
`addReceipts_window` shows every sequence of `AddReceipt` calls builds exactly that list,
and the query operations are then list operations on the window.

`skip` and `limit` are Go `int`s, 64 bits wide; the model takes any integer. `make` panics on a
capacity whose slice exceeds the runtime's `maxAlloc`; an allocation below that bound that the
machine cannot back ends the process, which the model leaves out.
-/

namespace Ethconnect.Receipts

/-- The part of `ReceiptStoreConf` the memory store reads. -/
structure MemoryConf where
  maxDocs : Int
  deriving Repr

structure MemoryReceipts where
  conf : MemoryConf
  receipts : List JObj
  deriving Repr

def newMemoryReceipts (conf : MemoryConf) : MemoryReceipts := ⟨conf, []⟩

/-- The list `AddReceipt` pushes onto: the back is removed when `curLen >= MaxDocs`. -/
def evictBack (maxDocs : Int) (receipts : List JObj) : List JObj :=
  if 0 < receipts.length ∧ maxDocs ≤ receipts.length then receipts.dropLast else receipts

/-- `AddReceipt`, which always returns a nil error. -/
def MemoryReceipts.addReceipt (m : MemoryReceipts) (receipt : JObj) : MemoryReceipts :=
  { m with receipts := receipt :: evictBack m.conf.maxDocs m.receipts }

/-- `for i := 0; i < skip && curElem != nil; i++ { curElem = curElem.Next() }`, counting the
iterations left down instead of `i` up. -/
def skipLoop : Int → List JObj → List JObj
  | _, [] => []
  | n, r :: rs => if 0 < n then skipLoop (n - 1) rs else r :: rs

/-- `for i := 0; i < limit && curElem != nil; i++ { results = append(results, ...) }`. -/
def limitLoop : Int → List JObj → List JObj
  | _, [] => []
  | n, r :: rs => if 0 < n then r :: limitLoop (n - 1) rs else []

/-- The Go runtime's `maxAlloc` on 64-bit Linux: `1 << heapAddrBits`, with 48 address bits. -/
def maxAlloc : Int := 2 ^ 48

/-- `GetReceipts`: a non-empty `ids` is refused. `make([]map[string]interface{}, 0, limit)` is
`makeslice` with length 0, which panics with `cap out of range` on a negative capacity and on
one whose 8-byte elements (a map is a pointer) need more than `maxAlloc` bytes. -/
def MemoryReceipts.getReceipts (m : MemoryReceipts) (skip limit : Int) (ids : List String) :
    GoResult (List JObj) :=
  if 0 < ids.length then .error "Memory receipts do not support id filtering"
  else if limit < 0 ∨ maxAlloc < 8 * limit then .panic "runtime error: makeslice: cap out of range"
  else .ok (limitLoop limit (skipLoop skip m.receipts))

/-- `id, exists := r["_id"]; exists && id == requestID`: an interface holding that string. -/
def idIs (requestID : String) (r : JObj) : Bool :=
  match r.get "_id" with
  | some (.str id) => id == requestID
  | _ => false

/-- `GetReceipt`, which always returns a nil error. -/
def MemoryReceipts.getReceipt (m : MemoryReceipts) (requestID : String) : Option JObj :=
  m.receipts.find? (idIs requestID)

theorem idIs_iff (requestID : String) (r : JObj) :
    idIs requestID r = true ↔ r.get "_id" = some (.str requestID) := by
  unfold idIs
  split <;> simp_all

/-- `GetReceipt` finds the newest receipt whose `_id` is the string `requestID`. -/
theorem getReceipt_eq_some {m : MemoryReceipts} {requestID : String} {d : JObj} :
    m.getReceipt requestID = some d ↔ ∃ newer older, m.receipts = newer ++ d :: older ∧
      d.get "_id" = some (.str requestID) ∧ ∀ d' ∈ newer, d'.get "_id" ≠ some (.str requestID) := by
  simp only [MemoryReceipts.getReceipt, List.find?_eq_some, idIs_iff, Bool.not_eq_true',
    Bool.eq_false_iff, ne_eq]
  exact ⟨fun ⟨hd, newer, older, hm, hnewer⟩ => ⟨newer, older, hm, hd, hnewer⟩,
    fun ⟨newer, older, hm, hd, hnewer⟩ => ⟨hd, newer, older, hm, hnewer⟩⟩

theorem getReceipt_eq_none {m : MemoryReceipts} {requestID : String} :
    m.getReceipt requestID = none ↔ ∀ d ∈ m.receipts, d.get "_id" ≠ some (.str requestID) := by
  simp only [MemoryReceipts.getReceipt, List.find?_eq_none, idIs_iff, ne_eq]

/-! ## The loops as list operations -/

theorem skipLoop_eq (n : Int) (rs : List JObj) : skipLoop n rs = rs.drop n.toNat := by
  induction rs generalizing n with
  | nil => simp [skipLoop]
  | cons r rs ih =>
    by_cases h : 0 < n
    · have : n.toNat = (n - 1).toNat + 1 := by omega
      rw [skipLoop, if_pos h, ih, this, List.drop_succ_cons]
    · have : n.toNat = 0 := by omega
      simp [skipLoop, h, this]

theorem limitLoop_eq (n : Int) (rs : List JObj) : limitLoop n rs = rs.take n.toNat := by
  induction rs generalizing n with
  | nil => simp [limitLoop]
  | cons r rs ih =>
    by_cases h : 0 < n
    · have : n.toNat = (n - 1).toNat + 1 := by omega
      rw [limitLoop, if_pos h, ih, this, List.take_succ_cons]
    · have : n.toNat = 0 := by omega
      simp [limitLoop, h, this]

/-! ## The sliding window -/

/-- The receipts a store keeps after `AddReceipt r₁ … rₙ`: `[rₙ, …, rₙ₋ₖ₊₁]` with
`k = min n (max MaxDocs 1)`. -/
def window (maxDocs : Int) (rs : List JObj) : List JObj :=
  rs.reverse.take (max maxDocs 1).toNat

/-- One `AddReceipt` on a window of `L` is the window of `L` with the receipt in front. -/
theorem evictBack_take (maxDocs : Int) (L : List JObj) (r : JObj) :
    r :: evictBack maxDocs (L.take (max maxDocs 1).toNat) =
      (r :: L).take (max maxDocs 1).toNat := by
  set k := (max maxDocs 1).toNat with hk
  have hk1 : 0 < k := by omega
  rw [List.take_cons hk1]
  congr 1
  unfold evictBack
  split_ifs with h
  · have hlen : (L.take k).length = k := by simp only [List.length_take] at h ⊢; omega
    rw [List.dropLast_eq_take, hlen, List.take_take, Nat.min_eq_left (by omega)]
  · have hlen : L.length ≤ k - 1 := by simp only [List.length_take] at h; omega
    rw [List.take_of_length_le hlen, List.take_of_length_le (by omega)]

theorem addReceipts_window (conf : MemoryConf) (rs : List JObj) :
    (rs.foldl MemoryReceipts.addReceipt (newMemoryReceipts conf)) =
      ⟨conf, window conf.maxDocs rs⟩ := by
  induction rs using List.reverseRecOn with
  | nil => simp [newMemoryReceipts, window]
  | append_singleton rs r ih =>
    simp only [List.foldl_append, List.foldl_cons, List.foldl_nil, ih,
      MemoryReceipts.addReceipt, window, List.reverse_append, List.reverse_singleton,
      List.singleton_append, evictBack_take]

/-- The window law: every sequence of `AddReceipt` calls leaves exactly the newest
`max MaxDocs 1` receipts; `GetReceipts` pages through them for every limit `makeslice` accepts,
panics on every other, and refuses an `ids` filter; and `GetReceipt` returns the newest receipt
whose `_id` is the string asked for, and nil when there is none. -/
theorem memoryReceipts_sliding_window (conf : MemoryConf) (rs : List JObj) :
    let m := rs.foldl MemoryReceipts.addReceipt (newMemoryReceipts conf)
    m.receipts = rs.reverse.take (max conf.maxDocs 1).toNat ∧
    (∀ skip limit : Int, 0 ≤ limit → limit ≤ 2 ^ 45 →
      m.getReceipts skip limit [] = .ok ((m.receipts.drop skip.toNat).take limit.toNat)) ∧
    (∀ skip limit : Int, limit < 0 ∨ 2 ^ 45 < limit →
      m.getReceipts skip limit [] = .panic "runtime error: makeslice: cap out of range") ∧
    (∀ (skip limit : Int) (ids : List String), ids ≠ [] →
      m.getReceipts skip limit ids = .error "Memory receipts do not support id filtering") ∧
    (∀ id d, m.getReceipt id = some d ↔ ∃ newer older, m.receipts = newer ++ d :: older ∧
      d.get "_id" = some (.str id) ∧ ∀ d' ∈ newer, d'.get "_id" ≠ some (.str id)) ∧
    (∀ id, m.getReceipt id = none ↔ ∀ d ∈ m.receipts, d.get "_id" ≠ some (.str id)) := by
  rw [addReceipts_window]
  refine ⟨rfl, fun skip limit h₀ h₁ => ?_, fun skip limit h => ?_, fun skip limit ids h => ?_,
    fun _ _ => getReceipt_eq_some, fun _ => getReceipt_eq_none⟩
  · have hcap : ¬(limit < 0 ∨ maxAlloc < 8 * limit) := by unfold maxAlloc; omega
    simp [MemoryReceipts.getReceipts, skipLoop_eq, limitLoop_eq, hcap]
  · have hcap : limit < 0 ∨ maxAlloc < 8 * limit := by unfold maxAlloc; omega
    simp [MemoryReceipts.getReceipts, hcap]
  · simp [MemoryReceipts.getReceipts, List.length_pos.mpr h]

/-- A store keeping two receipts after three are added: the oldest is gone, and `GetReceipt`
finds the newest of the two that share an `_id`. -/
theorem memoryReceipts_sliding_window_sample :
    let m := [[("_id", JVal.str "a")], [("_id", .str "b")], [("_id", .str "b"), ("n", .num 2)]].foldl
      MemoryReceipts.addReceipt (newMemoryReceipts ⟨2⟩)
    m.receipts = [[("_id", .str "b"), ("n", .num 2)], [("_id", .str "b")]] ∧
      m.getReceipts 1 5 [] = .ok [[("_id", .str "b")]] ∧
      m.getReceipt "b" = some [("_id", .str "b"), ("n", .num 2)] ∧
      ∀ d ∈ m.receipts, d.get "_id" ≠ some (.str "a") :=
  have h := memoryReceipts_sliding_window ⟨2⟩
    [[("_id", JVal.str "a")], [("_id", .str "b")], [("_id", .str "b"), ("n", .num 2)]]
  ⟨h.1, (h.2.1 1 5 (by decide) (by decide)).trans (by rw [h.1]; rfl),
    (h.2.2.2.2.1 "b" _).mpr ⟨[], _, h.1, rfl, nofun⟩,
    (h.2.2.2.2.2 "a").mp rfl⟩

/-- A limit above `2^45` asks `make` for more than `maxAlloc` bytes: `GetReceipts` panics even on
an empty store. -/
theorem getReceipts_panics_above_makeslice_bound :
    (newMemoryReceipts ⟨250⟩).getReceipts 0 (2 ^ 45 + 1) [] =
      .panic "runtime error: makeslice: cap out of range" :=
  rfl

end Ethconnect.Receipts
