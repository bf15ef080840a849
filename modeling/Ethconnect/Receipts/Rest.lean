import Mathlib.Algebra.Group.Nat.Basic
import Ethconnect.Receipts.Store

/-!
# The receipt REST handlers

`getReplies` serves `GET /replies` and `getReply` serves `GET /replies/:id` and
`GET /reply/:id`. A handler run is the list of what it does in order: persistence calls,
responses written, or a panic. `strconv.ParseInt` is modelled as Go computes it for base 10,
including the value it returns with an error, because one path of `getReplies` keeps that
value after answering 400. `time.Parse(time.RFC3339Nano, ·)` is a parameter giving the
parsed instant's `UnixNano()`.
-/

namespace Ethconnect.Receipts

/-! ## Parsing helpers -/

/-- The `Err` of a `strconv.NumError`. -/
inductive NumErr where
  | errSyntax
  | errRange
  deriving DecidableEq, Repr

/-- The value of a decimal digit. -/
def digitVal (c : Char) : Nat := c.toNat - '0'.toNat

/-- The loop of `strconv.ParseUint(s, 10, bitSize)`, from the value `n` read so far. Go reads
bytes: any byte but an ASCII digit is a syntax error, which returns `0`, and so is the first byte
of a multi-byte rune, so reading runes gives the same result. A digit that takes the value past
`maxVal` is a range error, which returns `maxVal` at once, before any later byte is looked at. Go
makes that test in two steps in `uint64` arithmetic (`n >= cutoff`, then `n1 < n || n1 > maxVal`),
which together say that `10 * n + d` exceeds `maxVal`. -/
def parseUintLoop (maxVal n : Nat) : List Char → Nat × Option NumErr
  | [] => (n, none)
  | c :: cs =>
    if !c.isDigit then (0, some .errSyntax)
    else if maxVal < 10 * n + digitVal c then (maxVal, some .errRange)
    else parseUintLoop maxVal (10 * n + digitVal c) cs

/-- `strconv.ParseUint(s, 10, bitSize)` for `0 < bitSize ≤ 64`. -/
def parseUint (s : List Char) (bitSize : Nat) : Nat × Option NumErr :=
  if s.isEmpty then (0, some .errSyntax) else parseUintLoop (2 ^ bitSize - 1) 0 s

/-- `strconv.ParseInt(s, 10, bitSize)`: the value and its error. A syntax error returns `0`; a
range error, from `ParseUint` or from the signed range, returns the nearest bound of the
`bitSize` range. -/
def parseInt (s : String) (bitSize : Nat) : Int × Option NumErr :=
  if s = "" then (0, some .errSyntax) else
  let (neg, ds) : Bool × List Char := match s.toList with
    | '+' :: ds => (false, ds)
    | '-' :: ds => (true, ds)
    | ds => (false, ds)
  match parseUint ds bitSize with
  | (_, some .errSyntax) => (0, some .errSyntax)
  | (un, _) =>
    let cutoff : Nat := 2 ^ (bitSize - 1)
    if !neg && cutoff ≤ un then (cutoff - 1, some .errRange)
    else if neg && cutoff < un then (-cutoff, some .errRange)
    else (if neg then -un else un, none)

/-- The value of the digits `ds` read after the value `n`. -/
def digitsFrom (n : Nat) (ds : List Char) : Nat := ds.foldl (fun acc c => 10 * acc + digitVal c) n

theorem le_digitsFrom (n : Nat) (ds : List Char) : n ≤ digitsFrom n ds := by
  induction ds generalizing n with
  | nil => exact le_rfl
  | cons c cs ih => exact (by omega : n ≤ 10 * n + digitVal c).trans (ih _)

/-- What `ParseUint`'s loop returns: a range error as soon as the leading digits exceed
`maxVal`, whatever follows them; otherwise a syntax error when a non-digit follows, and the
value when none does. -/
theorem parseUintLoop_eq (maxVal : Nat) (s : List Char) {n : Nat} (hn : n ≤ maxVal) :
    parseUintLoop maxVal n s =
      if maxVal < digitsFrom n (s.takeWhile Char.isDigit) then (maxVal, some .errRange)
      else if s.all Char.isDigit then (digitsFrom n s, none) else (0, some .errSyntax) := by
  induction s generalizing n with
  | nil => simp [parseUintLoop, digitsFrom, Nat.not_lt.mpr hn]
  | cons c cs ih =>
    by_cases hc : c.isDigit = true
    · by_cases hover : maxVal < 10 * n + digitVal c
      · have := le_digitsFrom (10 * n + digitVal c) (cs.takeWhile Char.isDigit)
        simp only [parseUintLoop, hc, List.takeWhile_cons_of_pos, digitsFrom, List.foldl_cons,
          hover] at this ⊢
        simp [show maxVal < _ from lt_of_lt_of_le hover this]
      · simp only [parseUintLoop, hc, hover, List.takeWhile_cons_of_pos, List.all_cons,
          Bool.true_and, Bool.not_true, Bool.false_eq_true, if_false]
        exact ih (Nat.not_lt.mp hover)
    · simp [parseUintLoop, hc, digitsFrom, Nat.not_lt.mpr hn]

example : parseInt "99999999999999999999x" 64 = (9223372036854775807, some .errRange) := by decide

/-- `uuidCharsVerifier.MatchString`: `^[0-9a-zA-Z-]+$`. -/
def uuidCharsVerifier (s : String) : Bool :=
  !s.isEmpty && s.all fun c => c.isDigit || c.isLower || c.isUpper || c == '-'

/-- `req.Form`: each key with its values, as `ParseForm` leaves them. -/
abbrev Form := List (String × List String)

/-- `req.FormValue(key)`: the first value, or `""`. -/
def formValue (form : Form) (key : String) : String :=
  match form.lookup key with
  | some (v :: _) => v
  | _ => ""

/-! ## Handler runs -/

/-- The arguments of `GetReceipts(skip, limit, ids, sinceEpochMS, from, to, start)`. -/
structure ReceiptQuery where
  skip : Int
  limit : Int
  ids : List String
  sinceEpochMS : Int
  «from» : String
  «to» : String
  start : String

/-- The two reads of `ReceiptStorePersistence` the handlers make. -/
structure ReceiptReader where
  getReceipts : ReceiptQuery → GoResult (List JObj)
  getReceipt : String → GoResult (Option JObj)

/-- A response body: `sendRESTError` with the error's key, or `marshalAndReply`'s JSON. -/
inductive RestBody where
  | error (key : String)
  | json (v : JVal)

inductive HttpEvent where
  | getReceipts (q : ReceiptQuery)
  | getReceipt (id : String)
  | respond (status : Nat) (body : RestBody)
  | panic

def restError (status : Nat) (key : String) : List HttpEvent := [.respond status (.error key)]

/-- `marshalAndReply`: a document always serialises, so it answers 200. -/
def marshalAndReply (v : JVal) : List HttpEvent := [.respond 200 (.json v)]

/-- The `limit` block: the limit to use, or the 400 to answer. -/
def replyLimit (queryLimit : Int) (limitStr : String) (limit : Int) : Except String Int :=
  if limitStr = "" then .ok limit
  else match parseInt limitStr 32 with
    | (customLimit, none) =>
      if queryLimit < customLimit then .error "ReceiptStoreInvalidRequestMaxLimit"
      else if 0 < customLimit then .ok customLimit
      else .ok limit
    | (_, some _) => .error "ReceiptStoreInvalidRequestBadLimit"

/-- The `skip` block. -/
def replySkip (skipStr : String) : Except String Int :=
  if skipStr = "" then .ok 0
  else match parseInt skipStr 32 with
    | (skipI64, none) => if 0 < skipI64 then .ok skipI64 else .error "ReceiptStoreInvalidRequestBadSkip"
    | (_, some _) => .error "ReceiptStoreInvalidRequestBadSkip"

/-- The `since` block: `sinceEpochMS`, and whether it answered 400 (after which the handler
goes on). `Int.tdiv` is Go's truncating division. -/
def replySince (parseTime : String → Option Int) (since : String) : Int × Bool :=
  if since = "" then (0, false)
  else match parseTime since with
    | some unixNano => (unixNano.tdiv 1000000, false)
    | none =>
      match parseInt since 64 with
      | (v, none) => (v, false)
      | (v, some _) => (v, true)

/-- `getReplies`. `authorized` is whether `auth.AuthListAsyncReplies` returned nil. -/
def getReplies (queryLimit : Int) (parseTime : String → Option Int) (authorized : Bool)
    (persistence : Option ReceiptReader) (form : Form) : List HttpEvent :=
  if !authorized then restError 401 "Unauthorized" else
  match persistence with
  | none => restError 405 "ReceiptStoreDisabled"
  | some p =>
    let ids? := form.lookup "id"
    if ids?.any (fun ids => !ids.all uuidCharsVerifier) then
      restError 400 "ReceiptStoreInvalidRequestID" else
    match replyLimit queryLimit (formValue form "limit")
        (if ids?.isSome then 0 else defaultReceiptLimit) with
    | .error key => restError 400 key
    | .ok limit =>
      match replySkip (formValue form "skip") with
      | .error key => restError 400 key
      | .ok skip =>
        let (sinceEpochMS, badSince) := replySince parseTime (formValue form "since")
        let q : ReceiptQuery := ⟨skip, limit, ids?.getD [], sinceEpochMS,
          formValue form "from", formValue form "to", formValue form "start"⟩
        (if badSince then restError 400 "ReceiptStoreInvalidRequestBadSince" else []) ++
          .getReceipts q :: match p.getReceipts q with
            | .ok results => marshalAndReply (.arr (results.map .obj))
            | .error _ => restError 500 "ReceiptStoreFailedQuery"
            | .panic _ => [.panic]

/-- `getReply`. A nil persistence is called all the same, which panics. -/
def getReply (authorized : Bool) (persistence : Option ReceiptReader) (requestID : String) :
    List HttpEvent :=
  if !authorized then restError 401 "Unauthorized" else
  match persistence with
  | none => [.panic]
  | some p =>
    .getReceipt requestID :: match p.getReceipt requestID with
      | .error _ => restError 500 "ReceiptStoreFailedQuerySingle"
      | .ok none => restError 404 "ReceiptStoreFailedNotFound"
      | .ok (some result) => marshalAndReply (.obj result)
      | .panic _ => [.panic]

/-- A persistence holding no receipts. -/
def emptyReader : ReceiptReader := ⟨fun _ => .ok [], fun _ => .ok none⟩

/-- Where the handlers answer other than once: `getReply` on a disabled store panics instead of
answering 405; a `since` that is neither a timestamp nor an integer is answered 400 and then
queried and answered again; `skip=0` is refused as a bad skip. -/
theorem restHandlers_divergences :
    getReply true none "ABCDEFG" = [.panic] ∧
    getReplies 100 (fun _ => none) true (some emptyReader) [("since", ["yesterday"])] =
      [.respond 400 (.error "ReceiptStoreInvalidRequestBadSince"),
        .getReceipts ⟨0, 10, [], 0, "", "", ""⟩, .respond 200 (.json (.arr []))] ∧
    getReplies 100 (fun _ => none) true (some emptyReader) [("skip", ["0"])] =
      [.respond 400 (.error "ReceiptStoreInvalidRequestBadSkip")] :=
  ⟨rfl, rfl, rfl⟩

end Ethconnect.Receipts
