import Mathlib.Data.List.Basic

/-!
# HD wallet requests

A `from` address of the form `HD-<InstanceID>-<WalletID>-<Index>` asks the HD wallet for the
signing key. `IsHDWalletRequest` matches it against `(?i)^hd-([^-]+)-([^-]+)-(\d+)$`, escapes each
group with `url.PathEscape`, and `SignerFor` substitutes the three into the configured URL
template.

A Go string is a list of bytes. The regular expression matches runes, but a rune is `-` or a
decimal digit exactly when it is that one byte (the bytes of a longer UTF-8 sequence, and an
invalid byte, which decodes to `U+FFFD`, are all at least `0x80`), so the match is decided byte
by byte. Under `(?i)` the letters `h` and `d` match themselves and their capitals only.

Every component of a request is a non-empty run of bytes `url.PathEscape` keeps and of `%XX`
escapes, and the index is decimal digits (`hdWalletRequest_escaped`). `url.PathEscape` keeps
`$&+:=@` and dots, so a component can still carry `@` into the host of the documented template,
or be a dot segment (`hdWalletRequest_reaches_authority`).
-/

namespace Ethconnect.Tx

/-- The bytes of a Go string literal. -/
def utf8Bytes (s : String) : List UInt8 := s.toList.flatMap String.utf8EncodeChar

/-! ## `url.PathEscape` -/

/-- `c` is one of the ASCII characters of `s`. -/
def isOneOf (s : String) (c : UInt8) : Bool := (utf8Bytes s).contains c

/-- `\d`, and the decimal digits `shouldEscape` keeps. -/
def isDigit (c : UInt8) : Bool := '0'.toUInt8 ≤ c && c ≤ '9'.toUInt8

/-- The letters and digits, which `shouldEscape` keeps in every mode. -/
def isAlnum (c : UInt8) : Bool :=
  'a'.toUInt8 ≤ c && c ≤ 'z'.toUInt8 || 'A'.toUInt8 ≤ c && c ≤ 'Z'.toUInt8 || isDigit c

/-- `shouldEscape(c, encodePathSegment)`: the unreserved marks and `$&+:=@` stay, and so do
letters and digits; `/;,?` and every other byte are escaped. -/
def shouldEscape (c : UInt8) : Bool :=
  if isAlnum c then false
  else if isOneOf "-_.~" c then false
  else if isOneOf "$&+,/:;=?@" c then isOneOf "/;,?" c
  else true

/-- `upperhex[i]`. -/
def upperhex (i : Nat) : UInt8 := ("0123456789ABCDEF".get ⟨i⟩).toUInt8

/-- What `escape` writes for the byte `c`. -/
def escapeByte (c : UInt8) : List UInt8 :=
  if shouldEscape c then ['%'.toUInt8, upperhex (c >>> 4).toNat, upperhex (c &&& 15).toNat]
  else [c]

/-- `url.PathEscape(s)`. -/
def pathEscape (s : List UInt8) : List UInt8 := s.flatMap escapeByte

/-- An upper-case hexadecimal digit. -/
def isUpperHex (c : UInt8) : Bool := isDigit c || 'A'.toUInt8 ≤ c && c ≤ 'F'.toUInt8

/-- The bytes `url.PathEscape` can write: bytes it keeps, and `%` with two upper-case
hexadecimal digits. -/
def isEscapedSegment : List UInt8 → Bool
  | [] => true
  | c :: rest =>
    if c = '%'.toUInt8 then
      match rest with
      | h :: l :: rest => isUpperHex h && isUpperHex l && isEscapedSegment rest
      | _ => false
    else !shouldEscape c && isEscapedSegment rest

@[simp] theorem pathEscape_nil : pathEscape [] = [] := rfl

@[simp] theorem pathEscape_cons (c : UInt8) (s : List UInt8) :
    pathEscape (c :: s) = escapeByte c ++ pathEscape s := List.flatMap_cons ..

theorem shiftRight_four_lt (c : UInt8) : (c >>> 4).toNat < 16 := by
  show (c.toBitVec >>> 4).toNat < 16
  rw [BitVec.toNat_ushiftRight, Nat.shiftRight_eq_div_pow]
  have := c.toBitVec.isLt
  omega

theorem and_fifteen_lt (c : UInt8) : (c &&& 15).toNat < 16 := by
  rw [UInt8.and_toNat]
  exact Nat.lt_succ_of_le Nat.and_le_right

/-- The sixteen digits are upper-case hexadecimal digits, and letters or digits. -/
theorem upperhex_digit : ∀ i < 16, isUpperHex (upperhex i) = true ∧
    shouldEscape (upperhex i) = false := by
  decide

theorem shouldEscape_percent : shouldEscape '%'.toUInt8 = true := by decide

theorem isEscapedSegment_escapeByte_append (c : UInt8) (rest : List UInt8) :
    isEscapedSegment (escapeByte c ++ rest) = isEscapedSegment rest := by
  unfold escapeByte
  split
  · have h1 := (upperhex_digit _ (shiftRight_four_lt c)).1
    have h2 := (upperhex_digit _ (and_fifteen_lt c)).1
    simp only [List.cons_append, List.nil_append, isEscapedSegment, ↓reduceIte, h1, h2,
      Bool.true_and, List.append_eq]
  · rename_i hkeep
    have hc : c ≠ '%'.toUInt8 := by rintro rfl; exact hkeep shouldEscape_percent
    rw [List.singleton_append, isEscapedSegment.eq_def]
    simp [hc, hkeep]

theorem pathEscape_isEscapedSegment (s : List UInt8) : isEscapedSegment (pathEscape s) = true := by
  induction s with
  | nil => rfl
  | cons c s ih => rw [pathEscape_cons, isEscapedSegment_escapeByte_append, ih]

/-- `url.PathEscape` writes no byte it would escape, apart from the `%` of its escapes. -/
theorem mem_pathEscape {s : List UInt8} {c : UInt8} (h : c ∈ pathEscape s) :
    shouldEscape c = false ∨ c = '%'.toUInt8 := by
  obtain ⟨b, -, hb⟩ := List.mem_flatMap.mp h
  unfold escapeByte at hb
  split at hb
  · simp only [List.mem_cons, List.not_mem_nil, or_false] at hb
    rcases hb with rfl | rfl | rfl
    · exact .inr rfl
    · exact .inl (upperhex_digit _ (shiftRight_four_lt b)).2
    · exact .inl (upperhex_digit _ (and_fifteen_lt b)).2
  · rw [List.mem_singleton.mp hb]
    exact .inl (by simpa using ‹¬shouldEscape b = true›)

theorem pathEscape_eq_nil {s : List UInt8} : pathEscape s = [] ↔ s = [] := by
  cases s with
  | nil => simp
  | cons c s => simp [escapeByte]; split <;> simp

theorem pathEscape_of_digits {s : List UInt8} (h : s.all isDigit) : pathEscape s = s := by
  induction s with
  | nil => rfl
  | cons c s ih =>
    simp only [List.all_cons, Bool.and_eq_true] at h
    have hc : shouldEscape c = false := by simp [shouldEscape, isAlnum, h.1]
    simp [escapeByte, hc, ih h.2]

/-! ## `IsHDWalletRequest` -/

/-- No piece that `splitOnP` cuts holds a separator. -/
theorem splitOnP_not_mem {α : Type} {p : α → Bool} :
    ∀ {xs : List α}, ∀ l ∈ xs.splitOnP p, ∀ x ∈ l, p x = false
  | [] => by simp
  | y :: xs => by
    obtain ⟨hd, tl, h⟩ := List.exists_cons_of_ne_nil (List.splitOnP_ne_nil p xs)
    have ih := @splitOnP_not_mem α p xs
    rw [h] at ih
    rw [List.splitOnP_cons, h]
    split
    · simpa using ih
    · simp only [List.modifyHead_cons, List.mem_cons] at ih ⊢
      rintro l (rfl | hl) x hx
      · rcases List.mem_cons.mp hx with rfl | hx
        · simpa using ‹¬p x = true›
        · exact ih hd (.inl rfl) x hx
      · exact ih l (.inr hl) x hx

/-- Splitting at a separator gives three pieces exactly when the separator occurs twice. -/
theorem splitOn_eq_three {α : Type} [DecidableEq α] {sep : α} {l a b c : List α} :
    l.splitOn sep = [a, b, c] ↔
      l = a ++ sep :: (b ++ sep :: c) ∧ sep ∉ a ∧ sep ∉ b ∧ sep ∉ c := by
  have hjoin : [sep].intercalate [a, b, c] = a ++ sep :: (b ++ sep :: c) := by
    simp [List.intercalate]
  constructor
  · intro h
    have hfree : ∀ l' ∈ [a, b, c], sep ∉ l' := fun l' hl' hs => by
      have := splitOnP_not_mem (p := (· == sep)) l' (h ▸ hl') sep hs
      simp at this
    rw [← List.intercalate_splitOn l sep, h, hjoin]
    exact ⟨rfl, hfree a (by simp), hfree b (by simp), hfree c (by simp)⟩
  · rintro ⟨rfl, ha, hb, hc⟩
    rw [← hjoin, List.splitOn_intercalate _ sep (by simp [ha, hb, hc]) (by simp)]

/-- `hdWalletFromAddressMatcher.FindStringSubmatch(fromAddr)`: the three groups, when the whole
of `fromAddr` matches. -/
def hdWalletFromAddressMatch : List UInt8 → Option (List UInt8 × List UInt8 × List UInt8)
  | h :: d :: sep :: rest =>
    if (h = 'h'.toUInt8 ∨ h = 'H'.toUInt8) ∧ (d = 'd'.toUInt8 ∨ d = 'D'.toUInt8) ∧
        sep = '-'.toUInt8 then
      match rest.splitOn '-'.toUInt8 with
      | [instanceID, walletID, index] =>
        if instanceID ≠ [] ∧ walletID ≠ [] ∧ index ≠ [] ∧ index.all isDigit then
          some (instanceID, walletID, index)
        else none
      | _ => none
    else none
  | _ => none

/-- `HDWalletRequest`. -/
structure HDWalletRequest where
  instanceID : List UInt8
  walletID : List UInt8
  index : List UInt8
  deriving DecidableEq, Repr

/-- `IsHDWalletRequest(fromAddr)`. -/
def isHDWalletRequest (fromAddr : List UInt8) : Option HDWalletRequest :=
  match hdWalletFromAddressMatch fromAddr with
  | some (instanceID, walletID, index) =>
    some ⟨pathEscape instanceID, pathEscape walletID, pathEscape index⟩
  | none => none

theorem digits_dash_free {n : List UInt8} (h : n.all isDigit) : '-'.toUInt8 ∉ n := fun hn => by
  have := List.all_eq_true.mp h _ hn
  revert this
  decide

/-- The strings the matcher accepts, and the groups it returns. -/
theorem hdWalletFromAddressMatch_eq_some {fromAddr instanceID walletID index : List UInt8} :
    hdWalletFromAddressMatch fromAddr = some (instanceID, walletID, index) ↔
      ∃ h d, (h = 'h'.toUInt8 ∨ h = 'H'.toUInt8) ∧ (d = 'd'.toUInt8 ∨ d = 'D'.toUInt8) ∧
        fromAddr = h :: d :: '-'.toUInt8 ::
          (instanceID ++ '-'.toUInt8 :: (walletID ++ '-'.toUInt8 :: index)) ∧
        instanceID ≠ [] ∧ walletID ≠ [] ∧ index ≠ [] ∧ '-'.toUInt8 ∉ instanceID ∧
        '-'.toUInt8 ∉ walletID ∧ index.all isDigit := by
  constructor
  · intro hm
    match fromAddr, hm with
    | h :: d :: sep :: rest, hm =>
      simp only [hdWalletFromAddressMatch] at hm
      split_ifs at hm with hhd
      split at hm
      · rename_i i w n hsplit
        split_ifs at hm with hne
        obtain ⟨rfl, rfl, rfl⟩ : i = instanceID ∧ w = walletID ∧ n = index := by simpa using hm
        obtain ⟨rfl, hi, hw, -⟩ := splitOn_eq_three.mp hsplit
        exact ⟨h, d, hhd.1, hhd.2.1, by rw [hhd.2.2], hne.1, hne.2.1, hne.2.2.1, hi, hw, hne.2.2.2⟩
      · cases hm
  · rintro ⟨h, d, hh, hd, rfl, hi, hw, hn, hi', hw', hdig⟩
    have hsplit := splitOn_eq_three.mpr ⟨rfl, hi', hw', digits_dash_free hdig⟩
    simp only [hdWalletFromAddressMatch, hh, hd, and_self, if_true, hsplit]
    simp [hi, hw, hn, hdig]

/-- Every component of an HD wallet request is non-empty and made of bytes `url.PathEscape` keeps
and `%XX` escapes, so it holds no `/`, `?` or `#`; the index is decimal digits. -/
theorem hdWalletRequest_escaped {fromAddr : List UInt8} {r : HDWalletRequest}
    (h : isHDWalletRequest fromAddr = some r) :
    r.index.all isDigit ∧ ∀ part ∈ [r.instanceID, r.walletID, r.index],
      part ≠ [] ∧ isEscapedSegment part ∧ ∀ c ∈ part, shouldEscape c = false ∨ c = '%'.toUInt8 := by
  unfold isHDWalletRequest at h
  split at h
  · rename_i i w n hm
    obtain ⟨-, -, -, -, -, hi, hw, hn, -, -, hdig⟩ := hdWalletFromAddressMatch_eq_some.mp hm
    cases h
    have hpart : ∀ g : List UInt8, g ≠ [] → pathEscape g ≠ [] ∧
        isEscapedSegment (pathEscape g) ∧ ∀ c ∈ pathEscape g, shouldEscape c = false ∨
          c = '%'.toUInt8 :=
      fun g hg => ⟨pathEscape_eq_nil.not.mpr hg, pathEscape_isEscapedSegment g,
        fun _ hc => mem_pathEscape hc⟩
    refine ⟨by rwa [pathEscape_of_digits hdig], ?_⟩
    simp only [List.mem_cons, List.not_mem_nil, or_false]
    rintro part (rfl | rfl | rfl)
    exacts [hpart i hi, hpart w hw, hpart n hn]
  · cases h

theorem hdWalletRequest_escaped_sample :
    isHDWalletRequest (utf8Bytes "HD-a%b-w/1-07") =
        some ⟨utf8Bytes "a%25b", utf8Bytes "w%2F1", utf8Bytes "07"⟩ ∧
      (utf8Bytes "07").all isDigit = true ∧
      ∀ part ∈ [utf8Bytes "a%25b", utf8Bytes "w%2F1", utf8Bytes "07"], part ≠ [] ∧
        isEscapedSegment part ∧ ∀ c ∈ part, shouldEscape c = false ∨ c = '%'.toUInt8 := by
  have h : isHDWalletRequest (utf8Bytes "HD-a%b-w/1-07") =
      some ⟨utf8Bytes "a%25b", utf8Bytes "w%2F1", utf8Bytes "07"⟩ := by decide
  exact ⟨h, hdWalletRequest_escaped h⟩

/-! ## `SignerFor` -/

/-- A parsed URL template: text, and the actions `{{.InstanceID}}`, `{{.WalletID}}` and
`{{.Index}}`. -/
inductive TemplatePiece where
  | text (s : String)
  | instanceID
  | walletID
  | index

/-- `hd.urlTemplate.Execute(urlStr, request)`: text as written, each action as its field. -/
def executeTemplate (urlTemplate : List TemplatePiece) (request : HDWalletRequest) : List UInt8 :=
  urlTemplate.flatMap fun
    | .text s => utf8Bytes s
    | .instanceID => request.instanceID
    | .walletID => request.walletID
    | .index => request.index

/-- The template `HDWalletConf` documents,
`https://someconstant-{{.InstanceID}}/api/v1/{{.WalletID}}/{{.Index}}`. -/
def documentedURLTemplate : List TemplatePiece :=
  [.text "https://someconstant-", .instanceID, .text "/api/v1/", .walletID, .text "/", .index]

/-- `@` survives `url.PathEscape` and moves the host of the documented template to the one after
it; `..` survives too and climbs a path segment. -/
theorem hdWalletRequest_reaches_authority :
    isHDWalletRequest (utf8Bytes "hd-x@evil.example-..-0") =
        some ⟨utf8Bytes "x@evil.example", utf8Bytes "..", utf8Bytes "0"⟩ ∧
      executeTemplate documentedURLTemplate
          ⟨utf8Bytes "x@evil.example", utf8Bytes "..", utf8Bytes "0"⟩ =
        utf8Bytes "https://someconstant-x@evil.example/api/v1/../0" := by
  decide

end Ethconnect.Tx
