import Ethconnect.Basic

/-!
# Control parameters

`getFlyParam`, `getFlyParamBool` and `getFlyParamMulti` read a control parameter from the query
string, whose keys they compare without regard to case, and fall back to a header.
`getQueryParamNoCase` returns the values of the first key of `req.Form` that matches, in the
order `range` visits the map, and Go visits a map in an order of its own choosing. A request is
modelled with its form in one visiting order; any other order is a permutation of it.

When every key that matches carries the same values, the three helpers return the same under
every order (`flyParams_order_independent`); two keys that differ only in case and carry
different values give different results under two orders (`flyParams_depend_on_order`).
-/

namespace Ethconnect.Contracts

/-- What the helpers read of an `http.Request` once `ParseForm` has run. -/
structure FlyRequest where
  /-- `req.Form`, in the order `range` visits it. -/
  form : List (String × List String)
  /-- The values filed under the canonical form of a header key. -/
  header : String → List String

/-- `GetenvOrDefaultLowerCase("PREFIX_SHORT", "fly")` and `("PREFIX_LONG", "firefly")`, and
`unicode.ToLower` beyond ASCII. -/
structure FlyConf where
  prefixShort : String
  prefixLong : String
  lower : Char → Char

/-- `getQueryParamNoCase(name, req)`: the values of the first key that lower-cases to the
lower-cased `name`, or nil. -/
def getQueryParamNoCase (lower : Char → Char) (name : String)
    (form : List (String × List String)) : List String :=
  match form.find? (fun kv => toLower lower kv.1 == toLower lower name) with
  | some kv => kv.2
  | none => []

/-- `strings.Split(s, string(sep))`, with the characters of the current piece reversed. -/
def splitAux (sep : Char) : List Char → List Char → List String
  | [], acc => [String.mk acc.reverse]
  | c :: cs, acc => if c = sep then String.mk acc.reverse :: splitAux sep cs []
    else splitAux sep cs (c :: acc)

/-- `strings.Split(s, ",")`. -/
def splitComma (s : String) : List String := splitAux ',' s.toList []

namespace FlyConf

variable (conf : FlyConf) (name : String) (req : FlyRequest)

/-- The query parameter `<PREFIX_SHORT>-<name>`. -/
def queryName : String := conf.prefixShort ++ "-" ++ name

/-- The header `x-<PREFIX_LONG>-<name>`. -/
def headerName : String := "x-" ++ conf.prefixLong ++ "-" ++ name

/-- `getFlyParam(name, req)`. -/
def getFlyParam : String :=
  let valStr := (getQueryParamNoCase conf.lower (conf.queryName name) req.form).headD ""
  if valStr = "" then (req.header (conf.headerName name)).headD "" else valStr

/-- `getFlyParamBool(name, req)`: a query parameter given without a value reads as `true`. -/
def getFlyParamBool : Bool :=
  let valStr := match getQueryParamNoCase conf.lower (conf.queryName name) req.form with
    | [] => (req.header (conf.headerName name)).headD ""
    | v :: _ => if v = "" then "true" else v
  toLower conf.lower valStr == "true"

/-- `getFlyParamMulti(name, req)`: a single value is split at its commas. -/
def getFlyParamMulti : List String :=
  let val := getQueryParamNoCase conf.lower (conf.queryName name) req.form
  let val := if val.length = 0 then req.header (conf.headerName name) else val
  match val with
  | [v] => splitComma v
  | _ => val

end FlyConf

/-! ## Iteration order -/

/-- Under a permutation, `find?` lands on an element with the same second component, when all
the elements it may land on agree on it. -/
theorem find?_snd_perm {α β : Type} {p : α × β → Bool} {l l' : List (α × β)} (h : l.Perm l')
    (hsame : ∀ x ∈ l, ∀ y ∈ l, p x → p y → x.2 = y.2) :
    (l.find? p).map Prod.snd = (l'.find? p).map Prod.snd := by
  cases hl : l.find? p with
  | none =>
    have hl' : l'.find? p = none := List.find?_eq_none.mpr fun x hx =>
      List.find?_eq_none.mp hl x (h.mem_iff.mpr hx)
    rw [hl']
  | some x =>
    have hx : x ∈ l ∧ p x := ⟨List.mem_of_find?_eq_some hl, List.find?_some hl⟩
    cases hl' : l'.find? p with
    | none =>
      have := List.find?_eq_none.mp hl' x (h.mem_iff.mp hx.1)
      simp [hx.2] at this
    | some y =>
      have hy : y ∈ l := h.mem_iff.mpr (List.mem_of_find?_eq_some hl')
      exact congrArg some (hsame x hx.1 y hy hx.2 (List.find?_some hl'))

theorem getQueryParamNoCase_perm {lower : Char → Char} {name : String}
    {form form' : List (String × List String)} (h : form.Perm form')
    (hsame : ∀ kv ∈ form, ∀ kv' ∈ form, toLower lower kv.1 = toLower lower name →
      toLower lower kv'.1 = toLower lower name → kv.2 = kv'.2) :
    getQueryParamNoCase lower name form = getQueryParamNoCase lower name form' := by
  have hfind := find?_snd_perm (p := fun kv => toLower lower kv.1 == toLower lower name) h
    fun x hx y hy px py => hsame x hx y hy (eq_of_beq px) (eq_of_beq py)
  unfold getQueryParamNoCase
  split <;> split <;>
    simp_all only [Option.map_some', Option.map_none', Option.some.injEq, reduceCtorEq]

namespace FlyConf

/-- Two keys of the form that match the control parameter carry the same values. -/
def SameValues (conf : FlyConf) (name : String) (form : List (String × List String)) : Prop :=
  ∀ kv ∈ form, ∀ kv' ∈ form, toLower conf.lower kv.1 = toLower conf.lower (conf.queryName name) →
    toLower conf.lower kv'.1 = toLower conf.lower (conf.queryName name) → kv.2 = kv'.2

/-- The three helpers return the same under every order of `req.Form` once the keys that match
the parameter's name up to case agree on their values, as they do when at most one key
matches. -/
theorem flyParams_order_independent (conf : FlyConf) (name : String) (req : FlyRequest)
    {form' : List (String × List String)} (hperm : req.form.Perm form')
    (hsame : conf.SameValues name req.form) :
    conf.getFlyParam name { req with form := form' } = conf.getFlyParam name req ∧
    conf.getFlyParamBool name { req with form := form' } = conf.getFlyParamBool name req ∧
    conf.getFlyParamMulti name { req with form := form' } = conf.getFlyParamMulti name req := by
  have h := getQueryParamNoCase_perm hperm hsame
  simp only [getFlyParam, getFlyParamBool, getFlyParamMulti, h, and_self]

theorem flyParams_order_independent_single :
    let conf : FlyConf := ⟨"fly", "firefly", id⟩
    let req : FlyRequest := ⟨[("fly-sync", ["true"]), ("other", ["x"])], fun _ => []⟩
    let form' := [("other", ["x"]), ("fly-sync", ["true"])]
    req.form.Perm form' ∧ conf.SameValues "sync" req.form ∧
      (conf.getFlyParam "sync" { req with form := form' } = conf.getFlyParam "sync" req ∧
        conf.getFlyParamBool "sync" { req with form := form' } = conf.getFlyParamBool "sync" req ∧
        conf.getFlyParamMulti "sync" { req with form := form' } =
          conf.getFlyParamMulti "sync" req) := by
  intro conf req form'
  have hperm : req.form.Perm form' := List.Perm.swap _ _ _
  have hsame : conf.SameValues "sync" req.form := by
    intro kv hkv kv' hkv' h h'
    simp only [req, List.mem_cons, List.not_mem_nil, or_false] at hkv hkv'
    rcases hkv with rfl | rfl
    · rcases hkv' with rfl | rfl
      · rfl
      · exact absurd h' (by decide)
    · exact absurd h (by decide)
  exact ⟨hperm, hsame, flyParams_order_independent conf "sync" req hperm hsame⟩

/-- Keys `fly-sync` and `FLY-SYNC` with different values: the parameter reads as whichever key
`range` visits first. -/
theorem flyParams_depend_on_order :
    let conf : FlyConf := ⟨"fly", "firefly", Char.toLower⟩
    let form := [("fly-sync", ["true"]), ("FLY-SYNC", ["false"])]
    let req : FlyRequest := ⟨form, fun _ => []⟩
    form.Perm form.reverse ∧ conf.getFlyParamBool "sync" req = true ∧
      conf.getFlyParamBool "sync" { req with form := form.reverse } = false :=
  ⟨List.reverse_perm _ |>.symm, rfl, rfl⟩

end FlyConf

end Ethconnect.Contracts
