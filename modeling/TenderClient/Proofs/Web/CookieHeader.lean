import TenderClient.Proofs.Sync.Requests
import TenderClient.Proofs.Config.Url
/-!
# Reading a cookie back from a Cookie header

A Cookie header is read pair by pair: the header is split at each `;`, each piece loses the
blanks around it, and the first pair that starts with the name and `=` decides the value
(`cookieValue_of_first_pair`, `cookieValue_of_no_pair`); its percent escapes are decoded and
the bytes read as UTF-8.

A header written the usual way reads back: cookies whose names are not empty and hold no
`;`, `=` or blank, with values percent-encoded byte by byte except for ASCII letters and
digits, joined by `"; "` (`cookieHeader`). Splitting the joined header gives each pair back,
a blank in front of all but the first (`cookiePairs_cookieHeader`); since no name holds `=`,
a pair starts with `name=` exactly when its name is that name (`afterPrefix_pair`); and
decoding a percent-encoded value gives its bytes back (`percentDecode_percentEncodeValue`).
So the value read for a name is the value of the first cookie of that name
(`cookieValue_cookieHeader`).

Every request the client makes carries that value of the configured cookie as its CSRF
token, and no token when there is none (`call_sends_csrfToken`).

The main statement is `cookieValue_reads_first_pair`.
-/

set_option autoImplicit false

namespace TenderClient

namespace Text

/-! ## Characters and their bytes -/

/-- The bytes of a character are those core writes for it. -/
theorem encodeChar_eq_utf8EncodeChar (c : Char) : encodeChar c = String.utf8EncodeChar c := by
  have hv := c.valid
  simp only [UInt32.isValidChar, Nat.isValidChar] at hv
  unfold encodeChar String.utf8EncodeChar
  simp only [Char.toNat]
  generalize c.val.toNat = n at hv ⊢
  -- one case per width; in each the two sides compute the same numbers
  by_cases h1 : n < 128
  · rw [if_pos h1, if_pos (show n ≤ 127 by omega)]
  rw [if_neg h1, if_neg (show ¬ n ≤ 127 by omega)]
  by_cases h2 : n < 2048
  · rw [if_pos h2, if_pos (show n ≤ 2047 by omega), show n / 64 % 32 + 192 = 192 + n / 64 by omega,
      show n % 64 + 128 = 128 + n % 64 by omega]
  rw [if_neg h2, if_neg (show ¬ n ≤ 2047 by omega)]
  by_cases h3 : n < 65536
  · rw [if_pos h3, if_pos (show n ≤ 65535 by omega),
      show n / 4096 % 16 + 224 = 224 + n / 4096 by omega,
      show n / 64 % 64 + 128 = 128 + n / 64 % 64 by omega,
      show n % 64 + 128 = 128 + n % 64 by omega]
  · rw [if_neg h3, if_neg (show ¬ n ≤ 65535 by omega),
      show n / 262144 % 8 + 240 = 240 + n / 262144 by omega,
      show n / 4096 % 64 + 128 = 128 + n / 4096 % 64 by omega,
      show n / 64 % 64 + 128 = 128 + n / 64 % 64 by omega,
      show n % 64 + 128 = 128 + n % 64 by omega]

/-- A text's bytes read back as the text. -/
theorem decode?_encode (s : String) : decode? (encode s) = some s := by
  have henc : encode s = s.toList.flatMap String.utf8EncodeChar := by
    rw [encode, funext encodeChar_eq_utf8EncodeChar]
  rw [decode?, henc]
  exact Json.Reader.fromUTF8?_utf8EncodeChar s

theorem toNat_ofNat_ascii {n : Nat} (h : n < 128) : (Char.ofNat n).toNat = n := by
  have hv : n.isValidChar := Or.inl (by omega)
  rw [Char.ofNat, dif_pos hv]
  rfl

/-! ## Percent escapes of a cookie value -/

/-- Whether a byte is an ASCII letter or digit. -/
def isAlnumByte (b : UInt8) : Bool :=
  let n := b.toNat
  (48 ≤ n && n ≤ 57) || (65 ≤ n && n ≤ 90) || (97 ≤ n && n ≤ 122)

/-- A byte of a cookie value as written: an ASCII letter or digit stands for itself, any
other byte is `%` and its two uppercase hexadecimal digits. -/
def escapeByte (b : UInt8) : List Char :=
  if isAlnumByte b then [Char.ofNat b.toNat] else ['%', hexUpper (b.toNat / 16), hexUpper (b.toNat % 16)]

/-- A cookie value with every byte of its UTF-8 form percent-encoded but ASCII letters and
digits. -/
def percentEncodeValue (v : String) : String := String.ofList ((encode v).flatMap escapeByte)

/-- An uppercase hexadecimal digit is one byte, which reads back as its value, and is
neither `;` nor blank. -/
theorem hexUpper_facts : ∀ d, d < 16 →
    encodeChar (hexUpper d) = [(hexUpper d).toNat.toUInt8] ∧
      hexValue (hexUpper d).toNat.toUInt8 = some d ∧ hexUpper d ≠ ';' ∧ isBlank (hexUpper d) = false := by
  decide

/-- A byte that is not `%` is kept by decoding. -/
theorem percentDecodeBytes_cons_of_ne {b : UInt8} (h : b ≠ 37) (rest : List UInt8) :
    percentDecodeBytes (b :: rest) = b :: percentDecodeBytes rest := by
  match rest with
  | [] => rfl
  | [_] => rfl
  | _ :: _ :: _ => rw [percentDecodeBytes, if_neg (by simpa using h)]

/-- The written form of a byte decodes back to the byte. -/
theorem percentDecodeBytes_escapeByte (b : UInt8) (rest : List UInt8) :
    percentDecodeBytes ((escapeByte b).flatMap encodeChar ++ rest) = b :: percentDecodeBytes rest := by
  have hb : b.toNat < 256 := UInt8.toNat_lt_size b
  unfold escapeByte
  split
  · rename_i halnum
    -- a letter or a digit is one ASCII byte, and no `%`
    have hlt : b.toNat < 128 := by
      simp only [isAlnumByte, Bool.or_eq_true, Bool.and_eq_true, decide_eq_true_eq] at halnum
      omega
    have hone : encodeChar (Char.ofNat b.toNat) = [b] := by
      rw [encodeChar_eq_utf8EncodeChar,
        Json.Reader.utf8EncodeChar_ascii _ (by rw [toNat_ofNat_ascii hlt]; exact hlt),
        toNat_ofNat_ascii hlt, UInt8.ofNat_toNat]
    have hne : b ≠ 37 := by
      intro h37
      subst h37
      simp [isAlnumByte] at halnum
    rw [List.flatMap_cons, List.flatMap_nil, hone, List.append_nil, List.singleton_append,
      percentDecodeBytes_cons_of_ne hne]
  · -- any other byte is `%` and two digits, which read back as its value
    obtain ⟨hhi, vhi, -⟩ := hexUpper_facts (b.toNat / 16) (by omega)
    obtain ⟨hlo, vlo, -⟩ := hexUpper_facts (b.toNat % 16) (by omega)
    have hpct : encodeChar '%' = [37] := by decide
    simp only [List.flatMap_cons, List.flatMap_nil, hpct, hhi, hlo, List.append_nil,
      List.cons_append, List.nil_append]
    rw [percentDecodeBytes, if_pos (by decide)]
    simp only [vhi, vlo]
    rw [show b.toNat / 16 * 16 + b.toNat % 16 = b.toNat by omega]
    simp

/-- Written bytes decode back to the bytes. -/
theorem percentDecodeBytes_escapeBytes (bs : List UInt8) :
    percentDecodeBytes (bs.flatMap fun b => (escapeByte b).flatMap encodeChar) = bs := by
  induction bs with
  | nil => rfl
  | cons b bs ih => rw [List.flatMap_cons, percentDecodeBytes_escapeByte, ih]

/-- A percent-encoded value decodes to the bytes of the value. -/
theorem percentDecode_percentEncodeValue (v : String) :
    percentDecode (percentEncodeValue v) = encode v := by
  rw [percentDecode, percentEncodeValue, encode, String.toList_ofList, List.flatMap_assoc]
  exact percentDecodeBytes_escapeBytes (encode v)

/-- Every character of a percent-encoded value is neither `;` nor blank. -/
theorem safe_of_mem_percentEncodeValue {v : String} {ch : Char}
    (h : ch ∈ (percentEncodeValue v).toList) : ch ≠ ';' ∧ isBlank ch = false := by
  rw [percentEncodeValue, String.toList_ofList, List.mem_flatMap] at h
  obtain ⟨b, -, hb⟩ := h
  have hsize : b.toNat < 256 := UInt8.toNat_lt_size b
  unfold escapeByte at hb
  split at hb
  · rename_i halnum
    simp only [isAlnumByte, Bool.or_eq_true, Bool.and_eq_true, decide_eq_true_eq] at halnum
    rw [List.mem_singleton] at hb
    subst hb
    -- a letter or a digit lies outside the controls, the space and `;`
    have hn := toNat_ofNat_ascii (show b.toNat < 128 by omega)
    refine ⟨fun hsemi => ?_, ?_⟩
    · have := congrArg Char.toNat hsemi
      rw [hn] at this
      simp at this
      omega
    · unfold isBlank
      simp only [hn, Bool.or_eq_false_iff, Bool.and_eq_false_imp, decide_eq_true_eq,
        decide_eq_false_iff_not, beq_eq_false_iff_ne]
      omega
  · simp only [List.mem_cons, List.not_mem_nil, or_false] at hb
    rcases hb with rfl | rfl | rfl
    · exact ⟨by decide, by decide⟩
    · exact (hexUpper_facts _ (by omega)).2.2
    · exact (hexUpper_facts _ (by omega)).2.2

end Text

namespace Web

open Text

/-! ## Names and headers -/

/-- A character that may stand in a cookie name: no `;`, no `=`, no blank. -/
def nameChar (ch : Char) : Bool := ch != ';' && ch != '=' && !isBlank ch

/-- A cookie name: not empty, and made of name characters. -/
def isCookieName (k : String) : Bool := !k.isEmpty && k.toList.all nameChar

/-- A cookie as a header pair: its name, `=` and its percent-encoded value. -/
def cookiePair (c : String × String) : String := c.1 ++ "=" ++ percentEncodeValue c.2

/-- A Cookie header carrying cookies in order, pairs joined by `"; "`. -/
def cookieHeader (cookies : List (String × String)) : String :=
  "; ".intercalate (cookies.map cookiePair)

theorem nameChar_facts {ch : Char} (h : nameChar ch = true) :
    ch ≠ ';' ∧ ch ≠ '=' ∧ isBlank ch = false := by
  simp only [nameChar, Bool.and_eq_true, bne_iff_ne, ne_eq, Bool.not_eq_true'] at h
  exact ⟨h.1.1, h.1.2, h.2⟩

theorem isCookieName_facts {k : String} (h : isCookieName k = true) :
    k.toList ≠ [] ∧ ∀ ch ∈ k.toList, ch ≠ ';' ∧ ch ≠ '=' ∧ isBlank ch = false := by
  simp only [isCookieName, Bool.and_eq_true, Bool.not_eq_true', List.all_eq_true] at h
  refine ⟨fun hnil => ?_, fun ch hch => nameChar_facts (h.2 ch hch)⟩
  have : k = "" := String.toList_inj.mp hnil
  rw [this] at h
  exact absurd h.1 (by decide)

/-- The characters of a pair: the name, `=`, the encoded value. -/
theorem toList_cookiePair (c : String × String) :
    (cookiePair c).toList = c.1.toList ++ '=' :: (percentEncodeValue c.2).toList := by
  simp [cookiePair]

/-- A pair holds no `;`. -/
theorem semicolon_not_mem_cookiePair {c : String × String} (hc : isCookieName c.1 = true) :
    ';' ∉ (cookiePair c).toList := by
  rw [toList_cookiePair]
  intro hmem
  rcases List.mem_append.mp hmem with hname | hrest
  · exact ((isCookieName_facts hc).2 ';' hname).1 rfl
  · rcases List.mem_cons.mp hrest with heq | hval
    · exact absurd heq (by decide)
    · exact (safe_of_mem_percentEncodeValue hval).1 rfl

/-- A pair neither starts nor ends with a blank, so trimming keeps it, with or without a
blank put in front. -/
theorem trimBlank_cookiePair {c : String × String} (hc : isCookieName c.1 = true)
    (lead : List Char) (hlead : ∀ ch ∈ lead, isBlank ch = true) :
    trimBlank (String.ofList (lead ++ (cookiePair c).toList)) = cookiePair c := by
  obtain ⟨hne, hchars⟩ := isCookieName_facts hc
  apply String.toList_inj.mp
  rw [← List.append_nil (lead ++ _)]
  refine trimBlank_pad hlead (by simp) (fun ch hch => ?_) (fun ch hch => ?_)
  · -- the first character is the name's first
    rw [toList_cookiePair] at hch
    obtain ⟨first, rest, hfr⟩ := List.exists_cons_of_ne_nil hne
    rw [hfr, List.cons_append, List.head?_cons, Option.mem_some_iff] at hch
    subst hch
    exact (hchars first (by rw [hfr]; exact List.mem_cons_self)).2.2
  · -- the last character is the value's last, or `=`
    rw [toList_cookiePair, List.getLast?_append] at hch
    cases hlast : (percentEncodeValue c.2).toList.getLast? with
    | none =>
      rw [List.getLast?_eq_none_iff.mp hlast] at hch
      simp only [List.getLast?_singleton, Option.some_or, Option.mem_some_iff] at hch
      subst hch
      decide
    | some last =>
      have hlast' : (('=' :: (percentEncodeValue c.2).toList).getLast?) = some last := by
        rw [List.getLast?_cons, hlast]
        rfl
      rw [hlast', Option.some_or, Option.mem_some_iff] at hch
      subst hch
      exact (safe_of_mem_percentEncodeValue (List.mem_of_getLast? hlast)).2

/-- `"; "` between pieces is `;` between them with a blank put in front of all but the
first. -/
theorem intercalate_semicolon_space (x : List Char) (xs : List (List Char)) :
    [';', ' '].intercalate (x :: xs) = [';'].intercalate (x :: xs.map (' ' :: ·)) := by
  induction xs generalizing x with
  | nil => simp
  | cons y ys ih =>
    rw [List.intercalate_cons_cons, ih y, List.map_cons, List.intercalate_cons_cons,
      List.intercalate_cons_cons_left]
    simp

/-- The pairs of a header of cookies are the cookies' pairs, in order. -/
theorem cookiePairs_cookieHeader {cookies : List (String × String)} (hne : cookies ≠ [])
    (hks : ∀ c ∈ cookies, isCookieName c.1 = true) :
    cookiePairs (cookieHeader cookies) = cookies.map cookiePair := by
  obtain ⟨c, cs, rfl⟩ := List.exists_cons_of_ne_nil hne
  have hpieces : (cookieHeader (c :: cs)).toList.splitOn ';' =
      (cookiePair c).toList :: cs.map fun d => ' ' :: (cookiePair d).toList := by
    rw [cookieHeader, String.toList_intercalate, List.map_map, List.map_cons,
      show ("; " : String).toList = [';', ' '] from rfl, intercalate_semicolon_space,
      List.map_map]
    simp only [Function.comp_def]
    refine List.splitOn_intercalate ';' (fun l hl => ?_) (List.cons_ne_nil _ _)
    rcases List.mem_cons.mp hl with rfl | hl
    · exact semicolon_not_mem_cookiePair (hks c List.mem_cons_self)
    · obtain ⟨d, hd, rfl⟩ := List.mem_map.mp hl
      rw [List.mem_cons, not_or]
      exact ⟨by decide, semicolon_not_mem_cookiePair (hks d (List.mem_cons_of_mem _ hd))⟩
  -- the first pair is trimmed as it is, the others after their blank
  have hfirst : trimBlank (String.ofList (cookiePair c).toList) = cookiePair c := by
    have := trimBlank_cookiePair (hks c List.mem_cons_self) [] (by simp)
    rwa [List.nil_append] at this
  have hrest : cs.map (fun d => trimBlank (String.ofList (' ' :: (cookiePair d).toList))) =
      cs.map cookiePair :=
    List.map_congr_left fun d hd =>
      trimBlank_cookiePair (hks d (List.mem_cons_of_mem _ hd)) [' '] (List.all_eq_true.mp rfl)
  rw [cookiePairs, hpieces, List.map_cons, List.map_map]
  simp only [Function.comp_def]
  rw [hfirst, hrest, List.map_cons]

/-! ## Which pair a name picks -/

/-- Without `=` in either name, `name=` starts `key=...` exactly when the names agree. -/
theorem append_eq_prefix_iff {n k w : List Char} (hn : '=' ∉ n) (hk : '=' ∉ k) :
    n ++ ['='] <+: k ++ '=' :: w ↔ n = k := by
  induction n generalizing k with
  | nil =>
    cases k with
    | nil => simp
    | cons c k =>
      -- the name `k` would start with `=`
      simp only [List.nil_append, List.cons_append, List.cons_prefix_cons, List.nil_prefix,
        and_true, List.nil_eq, reduceCtorEq, iff_false]
      exact fun h => hk (h ▸ List.mem_cons_self)
  | cons a n ih =>
    cases k with
    | nil =>
      simp only [List.cons_append, List.nil_append, List.cons_prefix_cons, reduceCtorEq,
        iff_false, not_and]
      exact fun h => absurd (h ▸ List.mem_cons_self) hn
    | cons c k =>
      rw [List.cons_append, List.cons_append, List.cons_prefix_cons,
        ih (fun h => hn (List.mem_cons_of_mem _ h)) (fun h => hk (List.mem_cons_of_mem _ h)),
        List.cons.injEq]

/-- What follows `name=` in a pair of the header: the pair's value when the names agree. -/
theorem afterPrefix_pair {n k w : String} (hn : '=' ∉ n.toList) (hk : '=' ∉ k.toList) :
    afterPrefix (n.toList ++ ['=']) (k ++ "=" ++ w).toList =
      if n = k then some w.toList else none := by
  have hchars : (k ++ "=" ++ w).toList = k.toList ++ '=' :: w.toList := by simp
  rw [afterPrefix, hchars]
  by_cases hnk : n = k
  · subst hnk
    rw [if_pos (List.isPrefixOf_iff_prefix.mpr ((append_eq_prefix_iff hn hn).mpr rfl)), if_pos rfl,
      show n.toList ++ '=' :: w.toList = (n.toList ++ ['=']) ++ w.toList by simp,
      List.drop_left]
  · have hnot : ¬ n.toList ++ ['='] <+: k.toList ++ '=' :: w.toList := fun h =>
      hnk (String.toList_inj.mp ((append_eq_prefix_iff hn hk).mp h))
    rw [if_neg (fun h => hnot (List.isPrefixOf_iff_prefix.mp h)), if_neg hnk]

/-- The raw value a name picks from the pairs of cookies is the encoded value of the first
cookie of that name. -/
theorem findSome?_cookiePairs {n : String} (hn : '=' ∉ n.toList) (cookies : List (String × String))
    (hks : ∀ c ∈ cookies, isCookieName c.1 = true) :
    (cookies.map cookiePair).findSome?
        (fun pair => (afterPrefix (n.toList ++ ['=']) pair.toList).map String.ofList) =
      (cookies.lookup n).map percentEncodeValue := by
  induction cookies with
  | nil => rfl
  | cons c cs ih =>
    obtain ⟨k, v⟩ := c
    have hk : '=' ∉ k.toList := fun h =>
      ((isCookieName_facts (hks (k, v) List.mem_cons_self)).2 '=' h).2.1 rfl
    rw [List.map_cons, List.findSome?_cons, cookiePair, afterPrefix_pair hn hk, List.lookup_cons]
    by_cases hnk : n = k
    · subst hnk
      simp
    · have hbeq : (n == k) = false := beq_false_of_ne hnk
      rw [if_neg hnk, hbeq]
      exact ih fun c hc => hks c (List.mem_cons_of_mem _ hc)

/-- The value read for a name from a header of cookies is the value of the first cookie of
that name, and nothing when no cookie has it. -/
theorem cookieValue_cookieHeader {n : String} (hn : isCookieName n = true)
    (cookies : List (String × String)) (hks : ∀ c ∈ cookies, isCookieName c.1 = true) :
    cookieValue (cookieHeader cookies) n = cookies.lookup n := by
  obtain ⟨hnne, hnchars⟩ := isCookieName_facts hn
  have hnempty : n.isEmpty = false := by
    simp only [isCookieName, Bool.and_eq_true, Bool.not_eq_true'] at hn
    exact hn.1
  have heq : '=' ∉ n.toList := fun h => (hnchars '=' h).2.1 rfl
  rw [cookieValue, if_neg (by rw [hnempty]; decide), rawCookie]
  cases cookies with
  | nil =>
    -- the empty header is one empty pair, which starts with no name
    have hnone : afterPrefix (n.toList ++ ['=']) [] = none := by
      rw [afterPrefix, if_neg]
      cases hl : n.toList with
      | nil => exact absurd hl hnne
      | cons a rest => simp
    simp [cookieHeader, cookiePairs, trimBlank, dropBlank, hnone]
  | cons c cs =>
    rw [cookiePairs_cookieHeader (List.cons_ne_nil c cs) hks, findSome?_cookiePairs heq _ hks]
    cases (c :: cs).lookup n with
    | none => rfl
    | some v =>
      rw [Option.map_some, Option.bind_some, percentDecode_percentEncodeValue, decode?_encode]

/-! ## The first pair decides -/

/-- The first pair that starts with `name=` decides the value: its rest is decoded, and a
later pair is never looked at, even when this one does not decode. -/
theorem cookieValue_of_first_pair {h n raw : String} {pre post : List String} (hn : n ≠ "")
    (hpairs : cookiePairs h = pre ++ (n ++ "=" ++ raw) :: post)
    (hpre : ∀ p ∈ pre, ¬ (n ++ "=").toList <+: p.toList) :
    cookieValue h n = decode? (percentDecode raw) := by
  have hnempty : n.isEmpty = false := by
    rw [Bool.eq_false_iff]
    exact fun he => hn (String.isEmpty_iff.mp he)
  have hname : (n ++ "=").toList = n.toList ++ ['='] := by simp
  have hskip : pre.findSome? (fun pair =>
      (afterPrefix (n.toList ++ ['=']) pair.toList).map String.ofList) = none := by
    rw [List.findSome?_eq_none_iff]
    intro p hp
    rw [afterPrefix, if_neg (fun h => hpre p hp (hname ▸ List.isPrefixOf_iff_prefix.mp h))]
    rfl
  have hpick : afterPrefix (n.toList ++ ['=']) (n ++ "=" ++ raw).toList = some raw.toList := by
    rw [afterPrefix, if_pos (List.isPrefixOf_iff_prefix.mpr ⟨raw.toList, by simp⟩)]
    simp
  rw [cookieValue, if_neg (by rw [hnempty]; decide), rawCookie, hpairs, List.findSome?_append,
    hskip, Option.none_or, List.findSome?_cons, hpick]
  simp

/-- A header with no pair that starts with `name=` has no value for the name. -/
theorem cookieValue_of_no_pair {h n : String}
    (hnone : ∀ p ∈ cookiePairs h, ¬ (n ++ "=").toList <+: p.toList) : cookieValue h n = none := by
  have hname : (n ++ "=").toList = n.toList ++ ['='] := by simp
  unfold cookieValue
  split
  · rfl
  · have hskip : (cookiePairs h).findSome? (fun pair =>
        (afterPrefix (n.toList ++ ['=']) pair.toList).map String.ofList) = none := by
      rw [List.findSome?_eq_none_iff]
      intro p hp
      rw [afterPrefix, if_neg (fun h => hnone p hp (hname ▸ List.isPrefixOf_iff_prefix.mp h))]
      rfl
    rw [rawCookie, hskip]
    rfl

end Web

namespace Sync.Server

open Web

/-- Every request a client makes carries its CSRF token, the value of the configured cookie
of that name, and carries none when there is none; the headers a call adds name no token. -/
theorem call_sends_csrfToken (s : Server) (m : Method) (url : String) (hs : List (String × String))
    (body : Option (String × String)) (hhs : ∀ h ∈ hs, h.1.toLower ≠ "X-CSRFToken".toLower) :
    ∀ r ∈ (s.call m url hs body).run.2, r.csrf = s.csrfToken := by
  intro r hr
  rw [(call_run s m url hs body).1, Option.mem_toList] at hr
  obtain ⟨u, rfl⟩ := Request.sentTo_of_send hr
  -- the cookie header is not the token's, and the call's own headers name no token
  have hcookie : ("Cookie".toLower == "X-CSRFToken".toLower) = false := by decide +kernel
  have hrest : (hs.find? fun h => h.1.toLower == "X-CSRFToken".toLower) = none := by
    rw [List.find?_eq_none]
    intro h hh
    simpa using hhs h hh
  simp only [Request.sentTo, Request.header?, baseHeaders, List.find?_append]
  cases s.config.cookie <;> cases s.csrfToken <;> simp [hcookie, hrest]

end Sync.Server

open Web Sync in
/-- A cookie is read from a header by the first pair that starts with its name and `=`:
an empty name names nothing; the first such pair decides, its rest percent-decoded and read
as UTF-8, and no later pair is looked at; with no such pair there is no value. A header of
cookies with plain names and percent-encoded values, joined by `"; "`, gives each name the
value of its first cookie. Every request carries the configured cookie's value as its CSRF
token exactly when there is one. -/
theorem cookieValue_reads_first_pair :
    (∀ h, cookieValue h "" = none) ∧
    (∀ h n raw (pre post : List String), n ≠ "" → cookiePairs h = pre ++ (n ++ "=" ++ raw) :: post →
      (∀ p ∈ pre, ¬ (n ++ "=").toList <+: p.toList) →
      cookieValue h n = Text.decode? (Text.percentDecode raw)) ∧
    (∀ h n, (∀ p ∈ cookiePairs h, ¬ (n ++ "=").toList <+: p.toList) → cookieValue h n = none) ∧
    (∀ cookies n, isCookieName n = true → (∀ c ∈ cookies, isCookieName c.1 = true) →
      cookieValue (cookieHeader cookies) n = cookies.lookup n) ∧
    (∀ (s : Server) m url hs body, (∀ h ∈ hs, h.1.toLower ≠ "X-CSRFToken".toLower) →
      ∀ r ∈ (s.call m url hs body).run.2,
        r.csrf = s.config.cookie.bind fun c => cookieValue c s.config.csrfCookie) :=
  ⟨fun _ => rfl,
    fun _ _ _ _ _ hn hpairs hpre => cookieValue_of_first_pair hn hpairs hpre,
    fun _ _ hnone => cookieValue_of_no_pair hnone,
    fun cookies _ hn hks => cookieValue_cookieHeader hn cookies hks,
    fun s m url hs body hhs => Server.call_sends_csrfToken s m url hs body hhs⟩

open Web Sync Text in
/-- The reading at work: a header of one CSRF cookie, the empty header, a header where the
CSRF cookie comes twice after another one, and a listing request of a client configured with
that header. -/
theorem cookieValue_reads_first_pair_csrf :
    let cookies : List (String × String) :=
      [("sessionid", "s 1"), ("csrftoken", "tok!"), ("csrftoken", "second")]
    let server : Server :=
      { config := { baseUrl := "http://stub", cookie := some (cookieHeader cookies) },
        network := Web.Network.unreachable }
    ("csrftoken" ≠ "" ∧
      cookiePairs (cookieHeader [("csrftoken", "tok!")]) =
        [] ++ ("csrftoken" ++ "=" ++ percentEncodeValue "tok!") :: [] ∧
      (∀ p ∈ ([] : List String), ¬ ("csrftoken" ++ "=").toList <+: p.toList) ∧
      cookieValue (cookieHeader [("csrftoken", "tok!")]) "csrftoken" =
        Text.decode? (Text.percentDecode (percentEncodeValue "tok!"))) ∧
    ((∀ p ∈ cookiePairs "", ¬ ("csrftoken" ++ "=").toList <+: p.toList) ∧
      cookieValue "" "csrftoken" = none) ∧
    (isCookieName "csrftoken" = true ∧ (∀ c ∈ cookies, isCookieName c.1 = true) ∧
      cookieValue (cookieHeader cookies) "csrftoken" = cookies.lookup "csrftoken") ∧
    ((∀ h ∈ [("Accept", "application/json")], h.1.toLower ≠ "X-CSRFToken".toLower) ∧
      ∀ r ∈ (server.call .get "http://stub/tenders/1/followers/"
          [("Accept", "application/json")] none).run.2,
        r.csrf = server.config.cookie.bind fun c => cookieValue c server.config.csrfCookie) := by
  intro cookies server
  have hks : ∀ c ∈ cookies, isCookieName c.1 = true := List.all_eq_true.mp rfl
  have hone : ∀ c ∈ [("csrftoken", "tok!")], isCookieName c.1 = true := List.all_eq_true.mp rfl
  have hpairs : cookiePairs (cookieHeader [("csrftoken", "tok!")]) =
      [] ++ ("csrftoken" ++ "=" ++ percentEncodeValue "tok!") :: [] :=
    cookiePairs_cookieHeader (List.cons_ne_nil _ _) hone
  have hnil : ∀ p ∈ ([] : List String), ¬ ("csrftoken" ++ "=").toList <+: p.toList := by simp
  have hempty : ∀ p ∈ cookiePairs "", ¬ ("csrftoken" ++ "=").toList <+: p.toList := by
    simp [cookiePairs, Text.trimBlank, Text.dropBlank]
  have hacc : ∀ h ∈ [("Accept", "application/json")], h.1.toLower ≠ "X-CSRFToken".toLower := by
    decide +kernel
  exact ⟨⟨by decide, hpairs, hnil,
      cookieValue_reads_first_pair.2.1 _ _ _ [] [] (by decide) hpairs hnil⟩,
    ⟨hempty, cookieValue_reads_first_pair.2.2.1 _ _ hempty⟩,
    ⟨rfl, hks, cookieValue_reads_first_pair.2.2.2.1 cookies _ rfl hks⟩,
    ⟨hacc, cookieValue_reads_first_pair.2.2.2.2 server _ _ _ _ hacc⟩⟩
end TenderClient
