import Mathlib.Data.List.Basic

/-!
# JSON documents and Go call outcomes

Replies, receipts and swagger extensions reach the code as `map[string]interface{}` values
decoded by `encoding/json`. A document is a `JVal`; a Go map is a `JObj`, an association list
read through its first binding. `set` replaces a key, so a map never holds a key twice.
A call of a Go function returning `(T, error)` ends in a `GoResult`: a value, an error, or a
panic that unwinds the goroutine.
-/

namespace Ethconnect

/-- How a Go call `(T, error)` ends. -/
inductive GoResult (α : Type) where
  | ok (a : α)
  | error (msg : String)
  | panic (msg : String)
  deriving Repr, DecidableEq

/-- The message of the panic a nil pointer dereference raises. -/
def nilDereference : String := "runtime error: invalid memory address or nil pointer dereference"

namespace GoResult

/-- Go's sequencing of calls: an error or a panic ends the caller with it. -/
def bind {α β : Type} : GoResult α → (α → GoResult β) → GoResult β
  | .ok a, k => k a
  | .error msg, _ => .error msg
  | .panic msg, _ => .panic msg

instance : Monad GoResult where
  pure := .ok
  bind := bind

@[simp] theorem pure_eq {α : Type} (a : α) : (pure a : GoResult α) = .ok a := rfl

@[simp] theorem ok_bind {α β : Type} (a : α) (k : α → GoResult β) : (GoResult.ok a >>= k) = k a :=
  rfl

@[simp] theorem panic_bind {α β : Type} (msg : String) (k : α → GoResult β) :
    (GoResult.panic msg >>= k) = .panic msg := rfl

/-- A sequence returns a value only when its first call did. -/
theorem bind_eq_ok {α β : Type} {x : GoResult α} {k : α → GoResult β} {b : β} :
    (x >>= k) = .ok b ↔ ∃ a, x = .ok a ∧ k a = .ok b := by
  cases x with
  | ok a => simp
  | error msg => exact ⟨nofun, fun ⟨_, h, _⟩ => nomatch h⟩
  | panic msg => exact ⟨nofun, fun ⟨_, h, _⟩ => nomatch h⟩

end GoResult

/-- A value decoded by `encoding/json` into an `interface{}`. -/
inductive JVal where
  | null
  | bool (b : Bool)
  | num (n : Int)
  | str (s : String)
  | arr (vs : List JVal)
  | obj (kvs : List (String × JVal))
  deriving Repr

/-- A `map[string]interface{}`. -/
abbrev JObj := List (String × JVal)

/-- Dropping the bindings of `k` from an association list leaves every other key's lookup. -/
theorem lookup_filter_ne {β : Type} (m : List (String × β)) {k k' : String} (h : k' ≠ k) :
    (m.filter (·.1 != k)).lookup k' = m.lookup k' := by
  induction m with
  | nil => rfl
  | cons p m ih =>
    obtain ⟨a, b⟩ := p
    by_cases ha : a = k
    · subst ha
      have hk : (k' == a) = false := by simpa using h
      simpa [List.filter_cons, List.lookup_cons, hk] using ih
    · by_cases hb : k' = a
      · subst hb; simp [List.filter_cons, List.lookup_cons, ha]
      · have hk : (k' == a) = false := by simpa using hb
        simpa [List.filter_cons, List.lookup_cons, ha, hk] using ih

namespace JObj

/-- `m[k]`, with the `exists` flag folded into the option. -/
def get (m : JObj) (k : String) : Option JVal := m.lookup k

/-- `m[k] = v`. -/
def set (m : JObj) (k : String) (v : JVal) : JObj := (k, v) :: m.filter (·.1 != k)

@[simp] theorem get_nil (k : String) : get [] k = none := rfl

@[simp] theorem get_set_self (m : JObj) (k : String) (v : JVal) : (m.set k v).get k = some v := by
  simp [get, set, List.lookup_cons]

@[simp] theorem get_set_ne (m : JObj) {k k' : String} (v : JVal) (h : k' ≠ k) :
    (m.set k v).get k' = m.get k' := by
  have hk : (k' == k) = false := by simpa using h
  simpa [set, get, List.lookup_cons, hk] using lookup_filter_ne m h

end JObj

/-- Modelled from the spec: `utils.GetMapString` is not among the repository's files. It returns
the string stored under `key`, and `""` when the key is absent or holds another kind of value.
A JSON `null` reads as `""` too, so that a reply whose `headers.requestId` is `null` is dropped as
the spec's reply processing drops one without it; the webhooks bridge's own `getString` panics
on a `null` instead. -/
def getMapString (genericMap : Option JObj) (key : String) : String :=
  match genericMap.bind (·.get key) with
  | some (.str s) => s
  | _ => ""

theorem getMapString_of_get {m : JObj} {key s : String} (h : m.get key = some (.str s)) :
    getMapString (some m) key = s := by
  simp [getMapString, h]

/-! ## Go string functions -/

/-- `strings.ToLower`: rune by rune, the ASCII letters as `unicode.ToLower` maps them and every
other rune by `lower`, which stands for `unicode.ToLower`'s case tables. -/
def toLower (lower : Char → Char) (s : String) : String :=
  ⟨s.toList.map fun c => if c.toNat < 128 then c.toLower else lower c⟩

/-- A string of ASCII characters without capitals is its own lower case. -/
theorem toLower_of_ascii (lower : Char → Char) {s : String}
    (h : ∀ c ∈ s.toList, c.toNat < 65 ∨ 90 < c.toNat ∧ c.toNat < 128) : toLower lower s = s := by
  refine String.ext ((List.map_congr_left fun c hc => ?_).trans (List.map_id _))
  have hc := h c hc
  rw [if_pos (by omega)]
  simp only [Char.toLower]
  rw [if_neg (by omega)]
  rfl

@[simp] theorem toLower_append (lower : Char → Char) (s t : String) :
    toLower lower (s ++ t) = toLower lower s ++ toLower lower t :=
  String.ext (List.map_append _ _ _)

/-- `extractHeaders`: the `headers` member when it is a JSON object, else a nil map. -/
def extractHeaders (parsedMsg : JObj) : Option JObj :=
  match parsedMsg.get "headers" with
  | some (.obj headers) => some headers
  | _ => none

end Ethconnect
