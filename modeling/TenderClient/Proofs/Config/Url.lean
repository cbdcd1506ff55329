import Mathlib.Data.List.TakeWhile
import TenderClient.Config.Basic
import TenderClient.Proofs.Json.ScalarRead
/-!
# The URLs of the endpoints

The URL of an endpoint for a tender is the base URL, with the blanks around it and every
trailing slash dropped, followed by the endpoint's template with the tender's decimal
identifier in place of each `{id}`, a slash put between them unless the template starts
with one.

Two facts about replacing a pattern carry the rest. Where the text holds the pattern, the
replaced text shows which replacement was used (`Text.replaceAll_inj`): the number of
occurrences fixes how the length grows with the replacement's length, and the first
occurrence stands at the same place for every replacement. And a replaced text starts as
the template does (`Text.head?_replaceAll`), since neither `{id}` nor a decimal starts with
a slash; so whether a slash is put in depends on the template alone.

Main statements:

* `urlFor_separates_tenders`: in a valid configuration, distinct tenders have distinct
  URLs at every endpoint; the base URL counts only through its trimmed form without trailing
  slashes, so blanks around it and slashes after it change no URL.
* `urlFor_scheme`: in a valid configuration, every URL starts with the scheme's `://` when
  the base URL names something after it; when the base URL is the bare scheme, the trailing
  slashes dropped are the scheme's own, and the URL is the scheme, a colon and the path.
  `urlFor_bare_scheme` is such a configuration: the validation, which is to refuse a base URL
  that is no absolute web URL, accepts it, and the URLs built from it, which are to be
  absolute, are not.
-/

set_option autoImplicit false

namespace TenderClient

namespace Text

/-! ## Replacing a pattern -/

section Replace

variable {pat : List Char}

/-- Where the pattern starts the text, it is replaced and the search goes on after it. -/
theorem replaceAll_of_starts (hpat : pat ≠ []) (rep : List Char) {l : List Char} (h : pat <+: l) :
    replaceAll pat rep l = rep ++ replaceAll pat rep (l.drop pat.length) := by
  cases l with
  | nil => exact absurd (List.prefix_nil.mp h) hpat
  | cons c rest => rw [replaceAll, dif_pos ⟨hpat, List.isPrefixOf_iff_prefix.mpr h⟩]

/-- Where it does not, the first character is kept. -/
theorem replaceAll_cons_of_not_starts (rep : List Char) {c : Char} {rest : List Char}
    (h : ¬ (pat ≠ [] ∧ pat.isPrefixOf (c :: rest) = true)) :
    replaceAll pat rep (c :: rest) = c :: replaceAll pat rep rest := by
  rw [replaceAll, dif_neg h]

/-- A nonempty pattern is held by no empty text. -/
theorem holdsIn_nil (hpat : pat ≠ []) : holdsIn pat [] = false := by
  simp [holdsIn, hpat]

/-- A text that holds the pattern is, once replaced, the text before the first occurrence,
the replacement and the rest replaced: the same split for every replacement. -/
theorem replaceAll_first (hpat : pat ≠ []) {l : List Char} (h : holdsIn pat l = true) :
    ∃ before after : List Char,
      ∀ rep, replaceAll pat rep l = before ++ rep ++ replaceAll pat rep after := by
  induction l with
  | nil => rw [holdsIn_nil hpat] at h; cases h
  | cons c rest ih =>
    by_cases hp : pat.isPrefixOf (c :: rest) = true
    · refine ⟨[], (c :: rest).drop pat.length, fun rep => ?_⟩
      rw [replaceAll_of_starts hpat rep (List.isPrefixOf_iff_prefix.mp hp), List.nil_append]
    · have hrest : holdsIn pat rest = true := by simpa [holdsIn, hp] using h
      obtain ⟨before, after, hsplit⟩ := ih hrest
      refine ⟨c :: before, after, fun rep => ?_⟩
      rw [replaceAll_cons_of_not_starts rep (fun h' => hp h'.2), hsplit]
      rfl

/-- The length of a replaced text grows with the replacement's length, by the number `k` of
occurrences: `k` does not depend on the replacement, and is positive when the text holds the
pattern. -/
theorem length_replaceAll (pat l : List Char) :
    ∃ k : Nat, (pat ≠ [] → holdsIn pat l = true → 0 < k) ∧
      ∀ rep, (replaceAll pat rep l).length + k * pat.length = l.length + k * rep.length := by
  induction l using replaceAll.induct pat with
  | case1 =>
    refine ⟨0, fun hpat h => ?_, fun rep => by simp [replaceAll]⟩
    rw [holdsIn_nil hpat] at h
    cases h
  | case2 c rest hp ih =>
    -- an occurrence at the front: one more, and the rest after it
    obtain ⟨k, -, hk⟩ := ih
    have hpre := List.isPrefixOf_iff_prefix.mp hp.2
    have hle := hpre.length_le
    refine ⟨k + 1, fun _ _ => Nat.succ_pos k, fun rep => ?_⟩
    have hrest := hk rep
    rw [List.length_drop] at hrest
    rw [replaceAll_of_starts hp.1 rep hpre, List.length_append, Nat.add_one_mul, Nat.add_one_mul]
    omega
  | case3 c rest hp ih =>
    obtain ⟨k, hpos, hk⟩ := ih
    refine ⟨k, fun hpat h => hpos hpat ?_, fun rep => ?_⟩
    · have hfront : pat.isPrefixOf (c :: rest) = false :=
        Bool.eq_false_iff.mpr fun h' => hp ⟨hpat, h'⟩
      simpa [holdsIn, hfront] using h
    · have hrest := hk rep
      rw [replaceAll_cons_of_not_starts rep hp, List.length_cons, List.length_cons]
      omega

/-- Replacing a pattern the text holds tells replacements apart. -/
theorem replaceAll_inj (hpat : pat ≠ []) {l : List Char} (h : holdsIn pat l = true)
    {r₁ r₂ : List Char} (heq : replaceAll pat r₁ l = replaceAll pat r₂ l) : r₁ = r₂ := by
  -- the same occurrences grow both texts, so the two replacements have one length
  obtain ⟨k, hpos, hk⟩ := length_replaceAll pat l
  have hlen : r₁.length = r₂.length := by
    have h₁ := hk r₁
    have h₂ := hk r₂
    rw [heq] at h₁
    exact Nat.eq_of_mul_eq_mul_left (hpos hpat h) (by omega)
  -- and both stand right after the text before the first occurrence
  obtain ⟨before, after, hsplit⟩ := replaceAll_first hpat h
  rw [hsplit r₁, hsplit r₂, List.append_assoc, List.append_assoc] at heq
  exact (List.append_inj (List.append_cancel_left heq) hlen).1

/-- The first character of a replaced text: the replacement's, when the text starts with the
pattern, else the text's own. -/
theorem head?_replaceAll (hpat : pat ≠ []) {rep : List Char} (hrep : rep ≠ []) (l : List Char) :
    (replaceAll pat rep l).head? = if pat <+: l then rep.head? else l.head? := by
  cases l with
  | nil => simp [replaceAll, hpat]
  | cons c rest =>
    by_cases hp : pat <+: c :: rest
    · obtain ⟨r, rs, rfl⟩ := List.exists_cons_of_ne_nil hrep
      rw [if_pos hp, replaceAll_of_starts hpat _ hp]
      rfl
    · rw [if_neg hp,
        replaceAll_cons_of_not_starts rep fun h' => hp (List.isPrefixOf_iff_prefix.mp h'.2)]
      rfl

end Replace

/-! ## Trimming -/

/-- A text starts with a slash exactly when its first character is one. -/
theorem startsWith_slash_iff (s : String) : s.startsWith "/" = true ↔ s.toList.head? = some '/' := by
  rw [String.startsWith_string_iff, show ("/" : String).toList = ['/'] from rfl]
  cases s.toList with
  | nil => simp
  | cons c rest => simp [List.cons_prefix_cons, eq_comm]

/-- Blanks around a text that neither starts nor ends with a blank are trimmed away, and
nothing else is. -/
theorem trimBlank_pad {lead m trail : List Char} (hlead : ∀ ch ∈ lead, isBlank ch = true)
    (htrail : ∀ ch ∈ trail, isBlank ch = true) (hhead : ∀ ch ∈ m.head?, isBlank ch = false)
    (hlast : ∀ ch ∈ m.getLast?, isBlank ch = false) :
    (trimBlank (String.ofList (lead ++ m ++ trail))).toList = m := by
  have htrail' : ∀ ch ∈ trail.reverse, isBlank ch = true := fun ch hch =>
    htrail ch (List.mem_reverse.mp hch)
  rw [trimBlank_toList, String.toList_ofList, List.append_assoc]
  unfold dropBlank
  rw [List.dropWhile_append_of_pos hlead]
  cases m with
  | nil =>
    rw [List.nil_append, ← List.append_nil trail, List.dropWhile_append_of_pos htrail]
    rfl
  | cons c cs =>
    -- the front stops at `c`; from the back, the blanks of `trail` go and `m`'s last stays
    have hfront : (c :: cs ++ trail).dropWhile isBlank = c :: cs ++ trail := dropBlank_of_head hhead
    have hback : (c :: cs).reverse.dropWhile isBlank = (c :: cs).reverse :=
      dropBlank_of_head (by rwa [List.head?_reverse])
    rw [hfront, List.reverse_append, List.dropWhile_append_of_pos htrail', hback,
      List.reverse_reverse]

/-- A text that does not end with a slash has none to strip. -/
theorem dropTrailing_of_getLast? {m : List Char} (hm : m.getLast? ≠ some '/') :
    (dropTrailing '/' (String.ofList m)).toList = m := by
  rw [dropTrailing, String.toList_ofList, String.toList_ofList,
    List.dropWhile_beq_eq_self_of_head?_ne (by rwa [List.head?_reverse]), List.reverse_reverse]

/-- Slashes only after a text are all stripped, and then the text's own trailing slashes. -/
theorem dropTrailing_append_of_slashes {pre rest : List Char} (h : ∀ ch ∈ rest, ch = '/') :
    dropTrailing '/' (String.ofList (pre ++ rest)) = dropTrailing '/' (String.ofList pre) := by
  have hall : ∀ ch ∈ rest.reverse, (ch == '/') = true := fun ch hch => by
    simpa using h ch (List.mem_reverse.mp hch)
  simp only [dropTrailing, String.toList_ofList, List.reverse_append,
    List.dropWhile_append_of_pos hall]

/-- Stripping stops at the last character that is not a slash: a text with such a character
after a prefix keeps the prefix whole. -/
theorem dropTrailing_keeps_front {pre rest : List Char} (h : ∃ ch ∈ rest, ch ≠ '/') :
    ∃ kept, (dropTrailing '/' (String.ofList (pre ++ rest))).toList = pre ++ kept := by
  have hne : (rest.reverse.dropWhile (· == '/')).isEmpty = false := by
    rw [Bool.eq_false_iff, ne_eq, List.isEmpty_iff, List.dropWhile_eq_nil_iff]
    obtain ⟨ch, hch, hslash⟩ := h
    intro hall
    exact hslash (by simpa using hall ch (List.mem_reverse.mpr hch))
  refine ⟨(rest.reverse.dropWhile (· == '/')).reverse, ?_⟩
  rw [dropTrailing, String.toList_ofList, String.toList_ofList, List.reverse_append,
    List.dropWhile_append, hne, if_neg Bool.false_ne_true, List.reverse_append, List.reverse_reverse]

/-- A text with blanks around it and slashes after it, where the text itself has none at
either end, is trimmed and stripped back to itself. -/
theorem dropTrailing_trimBlank_pad {b lead trail : String} (n : Nat)
    (hlead : ∀ ch ∈ lead.toList, isBlank ch = true)
    (htrail : ∀ ch ∈ trail.toList, isBlank ch = true)
    (hb : trimBlank b = b) (hslash : b.toList.getLast? ≠ some '/') :
    dropTrailing '/' (trimBlank (lead ++ b ++ String.ofList (List.replicate n '/') ++ trail)) = b := by
  have hslashBlank : isBlank '/' = false := by decide
  -- the text and its slashes neither start nor end with a blank
  have hhead : ∀ ch ∈ (b.toList ++ List.replicate n '/').head?, isBlank ch = false := by
    intro ch hch
    rw [List.head?_append, Option.mem_def, Option.or_eq_some_iff] at hch
    rcases hch with hch | ⟨-, hch⟩
    · rw [← hb] at hch
      exact head?_trimBlank b ch hch
    · rw [List.head?_replicate] at hch
      split at hch
      · cases hch
      · cases hch
        exact hslashBlank
  have hlast : ∀ ch ∈ (b.toList ++ List.replicate n '/').getLast?, isBlank ch = false := by
    intro ch hch
    rw [List.getLast?_append, Option.mem_def, Option.or_eq_some_iff] at hch
    rcases hch with hch | ⟨-, hch⟩
    · rw [List.getLast?_replicate] at hch
      split at hch
      · cases hch
      · cases hch
        exact hslashBlank
    · rw [← hb] at hch
      exact getLast?_trimBlank b ch hch
  have hpadded : lead ++ b ++ String.ofList (List.replicate n '/') ++ trail =
      String.ofList (lead.toList ++ (b.toList ++ List.replicate n '/') ++ trail.toList) := by
    apply String.toList_inj.mp
    simp only [String.toList_append, String.toList_ofList, List.append_assoc]
  have htrim : trimBlank (lead ++ b ++ String.ofList (List.replicate n '/') ++ trail) =
      String.ofList (b.toList ++ List.replicate n '/') := by
    apply String.toList_inj.mp
    rw [hpadded, String.toList_ofList, trimBlank_pad hlead htrail hhead hlast]
  apply String.toList_inj.mp
  rw [htrim, dropTrailing_append_of_slashes (fun ch hch => (List.mem_replicate.mp hch).2),
    dropTrailing_of_getLast? hslash]

/-- A trimmed text that does not end with a slash is its own stripped form. -/
theorem dropTrailing_trimBlank_self {b : String} (hb : trimBlank b = b)
    (hslash : b.toList.getLast? ≠ some '/') : dropTrailing '/' (trimBlank b) = b := by
  apply String.toList_inj.mp
  rw [hb, ← dropTrailing_of_getLast? hslash, String.ofList_toList]

end Text

/-! ## The URL of an endpoint -/

/-- Every template holds the placeholder exactly when none is reported without it. -/
theorem firstWithoutPlaceholder_eq_none_iff (l : List String) :
    firstWithoutPlaceholder l = none ↔ ∀ t ∈ l, Text.holds t idPlaceholder = true := by
  induction l with
  | nil => simp [firstWithoutPlaceholder]
  | cons t rest ih =>
    by_cases h : Text.holds t idPlaceholder = true
    · simp [firstWithoutPlaceholder, h, ih]
    · simp [firstWithoutPlaceholder, h]

/-- The default templates all hold the placeholder. -/
theorem firstWithoutPlaceholder_default : firstWithoutPlaceholder ({} : Endpoints).all = none := by
  decide

namespace ClientConfig

/-- The scheme check, on the characters of the trimmed base URL. -/
theorem hasWebScheme_iff (c : ClientConfig) :
    c.hasWebScheme = true ↔ "http://".toList <+: (Text.trimBlank c.baseUrl).toList ∨
      "https://".toList <+: (Text.trimBlank c.baseUrl).toList := by
  rw [hasWebScheme, Bool.or_eq_true, String.startsWith_string_iff, String.startsWith_string_iff]

/-- A base URL with a web scheme, and every other field by default, is a valid configuration. -/
theorem validate_of_hasWebScheme {b : String}
    (h : "http://".toList <+: (Text.trimBlank b).toList ∨ "https://".toList <+: (Text.trimBlank b).toList) :
    ({ baseUrl := b } : ClientConfig).validate = .ok () :=
  (validate_eq_ok_iff _).mpr ⟨(hasWebScheme_iff _).mpr h, show defaultTimeout ≠ 0 by decide,
    firstWithoutPlaceholder_default⟩

/-- Every template of a valid configuration holds the placeholder. -/
theorem holds_template_of_validate {c : ClientConfig} (hc : c.validate = .ok ()) (e : Endpoint) :
    Text.holds (c.endpoints.template e) idPlaceholder = true := by
  have hall := (firstWithoutPlaceholder_eq_none_iff _).mp ((validate_eq_ok_iff c).mp hc).2.2
  apply hall
  cases e <;> simp [Endpoints.template, Endpoints.all]

/-- The placeholder's characters. -/
theorem placeholder_toList : idPlaceholder.toList = ['{', 'i', 'd', '}'] := by decide

theorem placeholder_ne_nil : idPlaceholder.toList ≠ [] := by
  rw [placeholder_toList]
  exact List.cons_ne_nil _ _

/-- A path starts with a slash exactly when its template does: the placeholder starts with a
brace and an identifier with a digit. -/
theorem replace_startsWith_slash (template : String) (t : Ident) :
    (Text.replace template idPlaceholder t.render).startsWith "/" = template.startsWith "/" := by
  have hrep : t.render.toList ≠ [] := Text.toList_repr_ne_nil t.val
  have hdigit : t.render.toList.head? ≠ some '/' := fun h =>
    absurd (Text.isDigit_of_mem_repr (List.mem_of_mem_head? h)) (by decide)
  rw [Bool.eq_iff_iff, Text.startsWith_slash_iff, Text.startsWith_slash_iff, Text.replace,
    String.toList_ofList, Text.head?_replaceAll placeholder_ne_nil hrep]
  split
  · next hpre =>
    -- the template starts with the placeholder's brace, the path with a digit
    rw [placeholder_toList] at hpre
    obtain ⟨rest, hrest⟩ := hpre
    rw [← hrest]
    simp [hdigit]
  · rfl

/-- The URL of an endpoint is the base URL, trimmed and without trailing slashes, then a slash
unless the template starts with one, then the path. -/
theorem urlFor_eq (c : ClientConfig) (e : Endpoint) (t : Ident) :
    c.urlFor e t = Text.dropTrailing '/' (Text.trimBlank c.baseUrl) ++
      ((if (c.endpoints.template e).startsWith "/" = true then "" else "/") ++
        Text.replace (c.endpoints.template e) idPlaceholder t.render) := by
  rw [urlFor, replace_startsWith_slash]
  split
  · rw [String.empty_append]
  · rw [String.append_assoc]

/-- In a valid configuration, two tenders with the same URL at an endpoint are the same. -/
theorem urlFor_inj {c : ClientConfig} (hc : c.validate = .ok ()) (e : Endpoint) {t₁ t₂ : Ident}
    (h : c.urlFor e t₁ = c.urlFor e t₂) : t₁ = t₂ := by
  rw [urlFor_eq, urlFor_eq, String.append_right_inj, String.append_right_inj] at h
  have hlist := congrArg String.toList h
  simp only [Text.replace, String.toList_ofList] at hlist
  have hrender : t₁.render = t₂.render := String.toList_inj.mp
    (Text.replaceAll_inj placeholder_ne_nil (holds_template_of_validate hc e) hlist)
  -- the decimal text of an identifier reads back as that identifier
  have hread := Json.Reader.ofText_render t₁
  rw [hrender, Json.Reader.ofText_render t₂] at hread
  exact (Except.ok.inj hread).symm

/-- The URLs of a valid configuration tell tenders apart: distinct tenders have distinct URLs
at every endpoint. The base URL counts only through its form trimmed of blanks and stripped of
trailing slashes, so a base URL with neither keeps every URL when blanks are put around it and
slashes after it. -/
theorem urlFor_separates_tenders :
    (∀ c : ClientConfig, c.validate = .ok () →
      ∀ e t₁ t₂, t₁ ≠ t₂ → c.urlFor e t₁ ≠ c.urlFor e t₂) ∧
    (∀ (c : ClientConfig) (b : String),
      Text.dropTrailing '/' (Text.trimBlank b) = Text.dropTrailing '/' (Text.trimBlank c.baseUrl) →
      ∀ e t, { c with baseUrl := b }.urlFor e t = c.urlFor e t) ∧
    (∀ (c : ClientConfig) (lead trail : String) (n : Nat),
      (∀ ch ∈ lead.toList, Text.isBlank ch = true) →
      (∀ ch ∈ trail.toList, Text.isBlank ch = true) →
      Text.trimBlank c.baseUrl = c.baseUrl → c.baseUrl.toList.getLast? ≠ some '/' →
      ∀ e t, { c with baseUrl := lead ++ c.baseUrl ++ String.ofList (List.replicate n '/') ++ trail
        }.urlFor e t = c.urlFor e t) := by
  refine ⟨fun c hc e t₁ t₂ hne h => hne (urlFor_inj hc e h), ?_, ?_⟩
  · intro c b hb e t
    rw [urlFor_eq, urlFor_eq, hb]
  · intro c lead trail n hlead htrail hb hslash e t
    rw [urlFor_eq, urlFor_eq, Text.dropTrailing_trimBlank_pad n hlead htrail hb hslash,
      Text.dropTrailing_trimBlank_self hb hslash]

/-- A valid configuration with its base URL padded by a blank before, two slashes and a line
feed after: the delete URLs of two tenders differ, and padding changes none. -/
theorem urlFor_separates_tenders_padded :
    let c : ClientConfig := { baseUrl := "https://x.org" }
    let t₁ : Ident := ⟨1, by decide, by decide⟩
    let t₂ : Ident := ⟨2, by decide, by decide⟩
    c.urlFor .delete t₁ ≠ c.urlFor .delete t₂ ∧
      { c with baseUrl := "https://x.org/" }.urlFor .delete t₁ = c.urlFor .delete t₁ ∧
      { c with baseUrl := " " ++ c.baseUrl ++ String.ofList (List.replicate 2 '/') ++ "\n" }.urlFor
        .delete t₁ = c.urlFor .delete t₁ := by
  intro c t₁ t₂
  have hvalid : c.validate = .ok () := validate_of_hasWebScheme (.inr (by decide +kernel))
  obtain ⟨hsep, hcongr, hpad⟩ := urlFor_separates_tenders
  exact ⟨hsep c hvalid .delete t₁ t₂ (by decide), hcongr c _ (by decide +kernel) .delete t₁,
    hpad c " " "\n" 2 (List.all_eq_true.mp rfl) (List.all_eq_true.mp rfl) (by decide +kernel)
      (by decide +kernel) .delete t₁⟩

/-! ## The scheme of a URL -/

/-- The URL of an endpoint is the stripped base URL followed by a text that starts with a
slash. -/
theorem urlFor_eq_base_append (c : ClientConfig) (e : Endpoint) (t : Ident) :
    ∃ p : String, p.startsWith "/" = true ∧
      c.urlFor e t = Text.dropTrailing '/' (Text.trimBlank c.baseUrl) ++ p := by
  refine ⟨_, ?_, urlFor_eq c e t⟩
  split
  · next h => rwa [String.empty_append, replace_startsWith_slash]
  · rw [Text.startsWith_slash_iff, String.toList_append]
    rfl

/-- Once the base URL, trimmed, is a scheme's `s://` and a rest: a URL starts with `s://` when
the rest has a character other than a slash; when the rest is slashes only, the stripping takes
the scheme's slashes too and the URL is `s:` followed by a text that starts with a slash. -/
theorem urlFor_of_scheme (c : ClientConfig) (e : Endpoint) (t : Ident) {scheme : String}
    (hs : Text.dropTrailing '/' (scheme ++ "://") = scheme ++ ":") {rest : List Char}
    (hb : (Text.trimBlank c.baseUrl).toList = (scheme ++ "://").toList ++ rest) :
    ((∃ ch ∈ rest, ch ≠ '/') → (c.urlFor e t).startsWith (scheme ++ "://") = true) ∧
    ((∀ ch ∈ rest, ch = '/') →
      ∃ p : String, p.startsWith "/" = true ∧ c.urlFor e t = scheme ++ ":" ++ p) := by
  obtain ⟨p, hp, hurl⟩ := urlFor_eq_base_append c e t
  have hbase : Text.trimBlank c.baseUrl = String.ofList ((scheme ++ "://").toList ++ rest) := by
    rw [← hb, String.ofList_toList]
  refine ⟨fun hhost => ?_, fun hslashes => ⟨p, hp, ?_⟩⟩
  · -- the last character that is no slash lies after the scheme, which is kept whole
    obtain ⟨kept, hkept⟩ := @Text.dropTrailing_keeps_front (scheme ++ "://").toList rest hhost
    rw [String.startsWith_string_iff, hurl, hbase, @String.toList_append (Text.dropTrailing _ _) p,
      hkept, List.append_assoc]
    exact List.prefix_append _ _
  · rw [hurl, hbase, Text.dropTrailing_append_of_slashes hslashes, String.ofList_toList, hs]

/-- In a valid configuration, with `s` the scheme the validation accepted (`http` or `https`)
and `rest` what follows `s://` in the trimmed base URL: when `rest` has a character other than a
slash, every URL starts with `s://`; when `rest` is empty or slashes only, the trailing slashes
stripped are also the scheme's own, and every URL is `s:` followed by a text that starts with a
slash. -/
theorem urlFor_scheme (c : ClientConfig) (hc : c.validate = .ok ()) (e : Endpoint) (t : Ident) :
    ∃ scheme ∈ ["http", "https"], ∃ rest : List Char,
      (Text.trimBlank c.baseUrl).toList = (scheme ++ "://").toList ++ rest ∧
      ((∃ ch ∈ rest, ch ≠ '/') → (c.urlFor e t).startsWith (scheme ++ "://") = true) ∧
      ((∀ ch ∈ rest, ch = '/') →
        ∃ p : String, p.startsWith "/" = true ∧ c.urlFor e t = scheme ++ ":" ++ p) := by
  have hweb := (hasWebScheme_iff c).mp ((validate_eq_ok_iff c).mp hc).1
  -- the validation checked one of the two prefixes; each is the scheme and `://`
  rcases hweb with ⟨rest, hrest⟩ | ⟨rest, hrest⟩
  · refine ⟨"http", by simp, rest, hrest.symm, urlFor_of_scheme c e t (by decide) hrest.symm⟩
  · refine ⟨"https", by simp, rest, hrest.symm, urlFor_of_scheme c e t (by decide) hrest.symm⟩

/-- The bare scheme `http://` passes validation, yet its URLs start with `http:/` and not with
`http://`: stripping the trailing slashes of the base URL takes the scheme's own, and the
URL of an endpoint is no absolute URL. -/
theorem urlFor_bare_scheme :
    let c : ClientConfig := { baseUrl := "http://" }
    let t : Ident := ⟨1, by decide, by decide⟩
    c.validate = .ok () ∧ (Text.trimBlank c.baseUrl).startsWith "http://" = true ∧
      c.urlFor .followers t = "http:/tenders/1/followers/" ∧
      (c.urlFor .followers t).startsWith "http://" = false := by
  intro c t
  have hurl : c.urlFor .followers t = "http:/tenders/1/followers/" := by decide +kernel
  have hbare : ¬ "http://".toList <+: "http:/tenders/1/followers/".toList := by decide +kernel
  have hhttp : "http://".toList <+: (Text.trimBlank c.baseUrl).toList := by decide +kernel
  refine ⟨validate_of_hasWebScheme (.inl hhttp), String.startsWith_string_iff.mpr hhttp, hurl, ?_⟩
  rw [hurl, String.startsWith_string_eq_false_iff]
  exact hbare

/-- A base URL that names a host after the scheme: its URLs start with the scheme's `://`. -/
theorem urlFor_scheme_with_host :
    let c : ClientConfig := { baseUrl := " https://x.org/ " }
    c.validate = .ok () ∧
      ∃ scheme ∈ ["http", "https"], ∃ rest : List Char,
        (Text.trimBlank c.baseUrl).toList = (scheme ++ "://").toList ++ rest ∧
        ((∃ ch ∈ rest, ch ≠ '/') → (c.urlFor .tag ⟨3, by decide, by decide⟩).startsWith
          (scheme ++ "://") = true) ∧
        ((∀ ch ∈ rest, ch = '/') → ∃ p : String, p.startsWith "/" = true ∧
          c.urlFor .tag ⟨3, by decide, by decide⟩ = scheme ++ ":" ++ p) := by
  intro c
  have hvalid : c.validate = .ok () := validate_of_hasWebScheme (.inr (by decide +kernel))
  exact ⟨hvalid, urlFor_scheme c hvalid .tag ⟨3, by decide, by decide⟩⟩

end ClientConfig

end TenderClient
