import TenderClient.Yaml.Write
import TenderClient.Proofs.Text.IdentText
/-!
# How written scalars resolve

The writer's choice of style and the resolver's reading of a plain scalar, for the two kinds
of scalar a configuration holds.

* A number is written as its decimal digits, in plain style: digits hold no indicator, no
  blank, no break and nothing unprintable, so the scan of the text stays quiet
  (`analyze_digits_blockPlain`, `chooseStyle_number`). Read plain, the digits of a number
  below `2^64` are that unsigned integer (`untagged_repr`): they are no spelling of null or
  of a boolean, no radix prefix starts them and they have no leading zero.
* A text is asked to be written plain only when its plain reading is the text itself
  (`requestFor`), and the writer never picks plain against the request
  (`chooseStyle_eq_plain`); so a text written plain is neither empty nor a spelling of null,
  and a reader of an optional value finds it present (`text_present`).
-/

set_option autoImplicit false

namespace TenderClient.Yaml

/-! ## The digits of a number -/

namespace Scalar

/-- The decimal text of a number differs from every text with a character that is no
digit. -/
theorem repr_beq_eq_false (n : Nat) {w : String} (hw : w.toList.all Char.isDigit = false) :
    (Nat.repr n == w) = false := by
  rw [beq_eq_false_iff_ne]
  rintro rfl
  have hall : (Nat.repr n).toList.all Char.isDigit = true :=
    List.all_eq_true.mpr fun _ h => Text.isDigit_of_mem_repr h
  rw [hall] at hw
  cases hw

theorem isNullWord_repr (n : Nat) : isNullWord (Nat.repr n) = false := by
  simp only [isNullWord, repr_beq_eq_false n (w := "null") rfl,
    repr_beq_eq_false n (w := "Null") rfl, repr_beq_eq_false n (w := "NULL") rfl,
    repr_beq_eq_false n (w := "~") rfl, Bool.or_self]

theorem boolWord?_repr (n : Nat) : boolWord? (Nat.repr n) = none := by
  simp only [boolWord?, repr_beq_eq_false n (w := "true") rfl,
    repr_beq_eq_false n (w := "True") rfl, repr_beq_eq_false n (w := "TRUE") rfl,
    repr_beq_eq_false n (w := "false") rfl, repr_beq_eq_false n (w := "False") rfl,
    repr_beq_eq_false n (w := "FALSE") rfl, Bool.or_self, Bool.false_eq_true, if_false]

theorem digitValue_of_isDigit {c : Char} (h : c.isDigit = true) :
    digitValue c = some (c.toNat - 48) := by
  simp [digitValue, h]

/-- Decimal digits read in base ten give the value they fold to. -/
theorem foldlM_digits (cs : List Char) (h : ∀ c ∈ cs, c.isDigit = true) (acc : Nat) :
    cs.foldlM (fun acc c => match digitValue c with
        | some d => if d < 10 then some (acc * 10 + d) else none
        | none => none) acc =
      some (cs.foldl (fun a c => a * 10 + (c.toNat - 48)) acc) := by
  induction cs generalizing acc with
  | nil => rfl
  | cons c rest ih =>
    have hc := h c (List.mem_cons_self ..)
    have hlt : c.toNat - 48 < 10 := by
      have := Text.toNat_of_isDigit hc
      omega
    rw [List.foldlM_cons, digitValue_of_isDigit hc]
    simp only [hlt, if_true]
    exact ih (fun x hx => h x (List.mem_cons_of_mem _ hx)) _

theorem digitsIn_digits {cs : List Char} (hne : cs ≠ []) (h : ∀ c ∈ cs, c.isDigit = true) :
    digitsIn 10 cs = some (cs.foldl (fun a c => a * 10 + (c.toNat - 48)) 0) := by
  unfold digitsIn
  rw [if_neg (by simpa using hne)]
  exact foldlM_digits cs h 0

/-- No radix prefix starts a run of digits: the second character of each is a letter. -/
theorem viaPrefix_digits (bits : Nat) {cs : List Char} (hd : ∀ c ∈ cs, c.isDigit = true)
    (signed : List Char → Bool) :
    parseUnsigned.viaPrefix bits cs signed radixPrefixes = none := by
  have hpre : ∀ x : Char, x.isDigit = false → ['0', x].isPrefixOf cs = false := by
    intro x hx
    match cs, hd with
    | [], _ => rfl
    | [_], _ => simp [List.isPrefixOf]
    | _ :: e :: _, hd =>
      have he : e.isDigit = true := hd e (by simp)
      have hne : (x == e) = false := by
        rw [beq_eq_false_iff_ne]
        rintro rfl
        rw [hx] at he
        cases he
      simp [List.isPrefixOf, hne]
  simp [parseUnsigned.viaPrefix, radixPrefixes, hpre 'x' (by decide), hpre 'o' (by decide),
    hpre 'b' (by decide)]

/-- The decimal text of a number has no leading zero, so it is no text of digits. -/
theorem digitsButNotNumber_repr (n : Nat) : digitsButNotNumber (Nat.repr n) = false := by
  unfold digitsButNotNumber
  rw [Text.toList_repr]
  rcases Nat.eq_zero_or_pos n with rfl | hpos
  · rfl
  · obtain ⟨c, rest, hcs, hc⟩ := Text.head_toDigits_ne_zero hpos
    have hmem : c ∈ Nat.toDigits 10 n := by
      rw [hcs]
      exact List.mem_cons_self ..
    have hdigit : c.isDigit = true := Nat.isDigit_of_mem_toDigits (by decide) (by decide) hmem
    have hsign : c ≠ '-' ∧ c ≠ '+' := by
      constructor <;> rintro rfl <;> exact absurd hdigit (by decide)
    rw [hcs]
    simp [hc, hsign.1, hsign.2]

/-- The decimal text of a number below `2^64` reads as that number. -/
theorem parseUnsigned_repr {n : Nat} (hn : n < 2 ^ 64) :
    parseUnsigned 64 (Nat.repr n) = some n := by
  obtain ⟨d, rest, hs⟩ := List.exists_cons_of_ne_nil (Text.toList_repr_ne_nil n)
  have hd : ∀ c ∈ d :: rest, c.isDigit = true := fun c hc => Text.isDigit_of_mem_repr (hs ▸ hc)
  have hsign : d ≠ '-' ∧ d ≠ '+' := by
    have hdigit := hd d (List.mem_cons_self ..)
    constructor <;> rintro rfl <;> exact absurd hdigit (by decide)
  have hfold : (d :: rest).foldl (fun a c => a * 10 + (c.toNat - 48)) 0 = n := by
    rw [← hs, Text.toList_repr, Text.foldl_toDigits]
  have hvalue : unsignedIn 64 10 (d :: rest) = some n := by
    unfold unsignedIn
    split
    · rename_i heq
      cases heq
      exact absurd rfl hsign.2
    · dsimp only
      rw [digitsIn_digits (List.cons_ne_nil d rest) hd, hfold]
      simpa using hn
  unfold parseUnsigned
  dsimp only
  rw [hs]
  simp [hsign.1, hsign.2, viaPrefix_digits 64 hd, digitsButNotNumber_repr, hvalue]

/-- A number below `2^64`, written as its decimal digits, resolves plain to itself: digits
are no spelling of null or of a boolean. -/
theorem untagged_repr {n : Nat} (hn : n < 2 ^ 64) : untagged (Nat.repr n) = .unsigned n := by
  unfold untagged
  simp only [Text.isEmpty_repr, isNullWord_repr, Bool.or_self, Bool.false_eq_true, if_false,
    boolWord?_repr, intValue?, parseUnsigned_repr hn]

/-- A scalar that resolves plain to a text is not empty and no spelling of null. -/
theorem present_of_untagged_text {s t : String} (h : untagged s = .text t) :
    (!s.isEmpty && !isNullWord s) = true := by
  unfold untagged at h
  split at h
  · cases h
  · rename_i hnot
    simpa using hnot

end Scalar

/-! ## The style a scalar is written in -/

namespace Write

/-- A digit is none of the characters the writer looks out for: no indicator, blank or
break, and printable. -/
theorem digit_facts {c : Char} (h : c.isDigit = true) :
    "#,[]\x7b\x7d&*!|>'\"%@\x60".toList.contains c = false ∧ ",?[]\x7b\x7d".toList.contains c = false ∧
    c ≠ '?' ∧ c ≠ ':' ∧ c ≠ '-' ∧ c ≠ '#' ∧ c ≠ ' ' ∧ isPrintable c = true ∧
    isBreak c = false := by
  have hn := Text.toNat_of_isDigit h
  simp only [isPrintable, isBreak, ne_eq]
  simp
  simp only [← Char.toNat_inj, Char.reduceToNat]
  omega

/-- A scan that has met no block indicator, break, unprintable character or blank. -/
def Seen.Quiet (st : Seen) : Prop :=
  st.blockIndicators = false ∧ st.lineBreaks = false ∧ st.special = false ∧
    st.leadingSpace = false ∧ st.leadingBreak = false ∧ st.trailingSpace = false ∧
    st.trailingBreak = false ∧ st.breakSpace = false ∧ st.spaceBreak = false

theorem Seen.Quiet.step {st : Seen} (hq : st.Quiet) {c : Char} (hc : c.isDigit = true)
    (n i : Nat) (next : Option Char) : (st.step n c i next).Quiet := by
  obtain ⟨h1, h2, h3, h4, h5, h6, h7, h8, h9⟩ := digit_facts hc
  obtain ⟨q1, q2, q3, q4, q5, q6, q7, q8, q9⟩ := hq
  unfold Seen.step
  -- the indicator tests first, before `simp` spells the character lists out
  simp only [h1, h2]
  simp [Seen.Quiet, h3, h4, h5, h6, h7, h8, h9, q1, q2, q3, q4, q5, q6, q7, q8, q9]

/-- A scan of digits stays quiet. -/
theorem Seen.Quiet.foldl {st : Seen} (hq : st.Quiet) (n : Nat) (next : Nat → Option Char)
    (l : List (Char × Nat)) (hl : ∀ x ∈ l, x.1.isDigit = true) :
    (l.foldl (fun (st : Seen) (c, i) => st.step n c i (next i)) st).Quiet := by
  induction l generalizing st with
  | nil => exact hq
  | cons x rest ih =>
    obtain ⟨c, i⟩ := x
    exact ih (hq.step (hl (c, i) (List.mem_cons_self ..)) n i (next i))
      (fun y hy => hl y (List.mem_cons_of_mem _ hy))

/-- A nonempty run of digits may be written plain in block context. -/
theorem analyze_digits_blockPlain {s : String} (hne : s.toList ≠ [])
    (hd : ∀ c ∈ s.toList, c.isDigit = true) : (analyze s).blockPlain = true := by
  obtain ⟨d, rest, hs⟩ := List.exists_cons_of_ne_nil hne
  have hdigit : d.isDigit = true := hd d (by rw [hs]; exact List.mem_cons_self ..)
  -- a text that starts with a digit is no document marker
  have hmarker : ∀ w : String, w.toList = ['-', '-', '-'] ∨ w.toList = ['.', '.', '.'] →
      w.toList.isPrefixOf s.toList = false := by
    intro w hw
    rw [Bool.eq_false_iff]
    intro h
    have hpre := List.isPrefixOf_iff_prefix.mp h
    rw [hs] at hpre
    rcases hw with hw | hw <;> rw [hw, List.cons_prefix_cons] at hpre <;>
      rw [← hpre.1] at hdigit <;> exact absurd hdigit (by decide)
  have hsize : (s.toList.toArray.size == 0) = false := by
    rw [List.size_toArray, hs]
    rfl
  have hinit : ({ flowIndicators := false, blockIndicators := false } : Seen).Quiet := by
    simp [Seen.Quiet]
  have hq := Seen.Quiet.foldl hinit s.toList.toArray.size (fun i => s.toList.toArray[i + 1]?)
    s.toList.toArray.toList.zipIdx
    (fun x hx => hd x.1 (by simpa using List.fst_mem_of_mem_zipIdx hx))
  obtain ⟨q1, q2, q3, q4, q5, q6, q7, q8, q9⟩ := hq
  unfold analyze
  dsimp only
  rw [hsize, if_neg Bool.false_ne_true, hmarker "---" (Or.inl rfl), hmarker "..." (Or.inr rfl)]
  simp only [q1, q2, q3, q4, q5, q6, q7, q8, q9, Bool.or_false, Bool.not_false]

/-- A number is written plain. -/
theorem chooseStyle_number (n : Nat) : chooseStyle .plain (Nat.repr n) false = .plain := by
  have hplain := analyze_digits_blockPlain (Text.toList_repr_ne_nil n)
    (fun _ h => Text.isDigit_of_mem_repr h)
  unfold chooseStyle
  simp [hplain]

/-- The writer picks plain only where plain was asked for or left to it. -/
theorem chooseStyle_eq_plain {r : Requested} {text : String} {asKey : Bool}
    (h : chooseStyle r text asKey = .plain) : r = .any ∨ r = .plain := by
  unfold chooseStyle at h
  cases r with
  | any => exact .inl rfl
  | plain => exact .inr rfl
  | singleQuoted => simp at h; split_ifs at h
  | literal => simp at h; split_ifs at h

/-- A text leaves the style to the writer only when its plain reading is a text. -/
theorem untagged_of_requestFor {s : String} (h : requestFor s = .any) :
    ∃ t, Scalar.untagged s = .text t := by
  unfold requestFor at h
  split at h
  · cases h
  · split at h
    · exact ⟨_, ‹_›⟩
    · cases h

end Write

/-- The style a parser reports for a scalar written in a style. -/
def Written.toScalarStyle : Written → ScalarStyle
  | .plain => .plain
  | .singleQuoted => .singleQuoted
  | .doubleQuoted => .doubleQuoted
  | .literal => .literal

/-- A text, as the writer writes it, reads as present: it is quoted, or plain and then
neither empty nor a spelling of null. -/
theorem text_present (s : String) :
    ((Write.chooseStyle (Write.requestFor s) s false).toScalarStyle != .plain ||
      (!s.isEmpty && !Scalar.isNullWord s)) = true := by
  cases hw : Write.chooseStyle (Write.requestFor s) s false with
  | plain =>
    have hany : Write.requestFor s = .any := by
      rcases Write.chooseStyle_eq_plain hw with h | h
      · exact h
      · unfold Write.requestFor at h
        split at h <;> (try split at h) <;> (try split at h) <;> cases h
    obtain ⟨t, ht⟩ := Write.untagged_of_requestFor hany
    simp [Written.toScalarStyle, Scalar.present_of_untagged_text ht]
  | _ => rfl

/-- A number, as the writer writes it, reads as present: plain digits are neither empty nor a
spelling of null. -/
theorem number_present (n : Nat) :
    ((Write.chooseStyle .plain (Nat.repr n) false).toScalarStyle != .plain ||
      (!(Nat.repr n).isEmpty && !Scalar.isNullWord (Nat.repr n))) = true := by
  simp [Write.chooseStyle_number, Written.toScalarStyle, Text.isEmpty_repr,
    Scalar.isNullWord_repr]

end TenderClient.Yaml
