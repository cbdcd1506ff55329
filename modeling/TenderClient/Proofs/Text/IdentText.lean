import Mathlib
import TenderClient.Ident
/-!
# Reading an identifier from a text

The grammars of 64-bit decimals, stated on their own: an unsigned decimal is an optional
`+` and one or more ASCII digits, leading zeros allowed (`UnsignedDecimal`); a signed one
also allows `-` (`SignedDecimal`). The value of the digits is the one `Nat.ofDigits` gives.
The two readers accept exactly these texts within their ranges
(`readUnsigned_eq_some_iff`, `readSigned_eq_some_iff`), and a text has at most one value in
each grammar.

From these, reading an identifier is classified on every text (`ofText_classifies`). Once
blanks are trimmed: nothing left is the empty error; an unsigned decimal from `1` to
`2^64 - 1` is that identifier; a signed decimal from `-2^63` to `0` that is no identifier
(zero in every spelling, `-0` included, and every negative 64-bit value) is refused as not
positive, with its value; everything else, digits beyond `2^64 - 1` and negatives below
`-2^63` among them, is refused as no number, with the trimmed text.
-/

set_option autoImplicit false

namespace TenderClient.Text

/-! ## Decimal grammars -/

/-- The value of an ASCII digit. -/
def digitValue (c : Char) : Nat := c.toNat - '0'.toNat

/-- The value of a string of decimal digits, the most significant first. -/
def decimalValue (ds : List Char) : Nat := Nat.ofDigits 10 (ds.reverse.map digitValue)

/-- One or more ASCII digits. -/
def IsDigits (ds : List Char) : Prop := ds ≠ [] ∧ ∀ c ∈ ds, c.isDigit = true

/-- `cs` is an unsigned decimal of value `n`: an optional `+`, then one or more ASCII digits. -/
def UnsignedDecimal (cs : List Char) (n : Nat) : Prop :=
  ∃ ds, IsDigits ds ∧ (cs = ds ∨ cs = '+' :: ds) ∧ n = decimalValue ds

/-- `cs` is a signed decimal of value `v`: an optional `+` or `-`, then one or more ASCII
digits. -/
def SignedDecimal (cs : List Char) (v : Int) : Prop :=
  ∃ ds, IsDigits ds ∧
    ((cs = ds ∨ cs = '+' :: ds) ∧ v = decimalValue ds ∨ cs = '-' :: ds ∧ v = -(decimalValue ds : Int))

theorem decimalValue_append_digit (ds : List Char) (c : Char) :
    decimalValue (ds ++ [c]) = 10 * decimalValue ds + digitValue c := by
  simp only [decimalValue, List.reverse_append, List.reverse_cons, List.reverse_nil,
    List.nil_append, List.singleton_append, List.map_cons, Nat.ofDigits_cons]
  omega

/-- A sign is no digit. -/
theorem not_isDigits_sign {c : Char} (hc : c = '+' ∨ c = '-') (rest : List Char) :
    ¬ IsDigits (c :: rest) := by
  rintro ⟨-, hd⟩
  have := hd c (List.mem_cons_self ..)
  rcases hc with rfl | rfl <;> exact absurd this (by decide)

/-! ## The grammars by the first character -/

/-- After a `+`, an unsigned decimal is its digits. -/
theorem unsignedDecimal_plus (rest : List Char) (n : Nat) :
    UnsignedDecimal ('+' :: rest) n ↔ IsDigits rest ∧ n = decimalValue rest := by
  constructor
  · rintro ⟨ds, hds, hcs | hcs, rfl⟩
    · rw [← hcs] at hds
      exact absurd hds (not_isDigits_sign (.inl rfl) rest)
    · cases hcs
      exact ⟨hds, rfl⟩
  · rintro ⟨hds, rfl⟩
    exact ⟨rest, hds, .inr rfl, rfl⟩

/-- Without a leading `+`, an unsigned decimal is its digits. -/
theorem unsignedDecimal_of_not_plus {cs : List Char} (h : ∀ rest, cs ≠ '+' :: rest) (n : Nat) :
    UnsignedDecimal cs n ↔ IsDigits cs ∧ n = decimalValue cs := by
  constructor
  · rintro ⟨ds, hds, hcs | hcs, rfl⟩
    · subst hcs
      exact ⟨hds, rfl⟩
    · exact absurd hcs (h ds)
  · rintro ⟨hds, rfl⟩
    exact ⟨cs, hds, .inl rfl, rfl⟩

/-- After a `+`, a signed decimal is its digits. -/
theorem signedDecimal_plus (rest : List Char) (v : Int) :
    SignedDecimal ('+' :: rest) v ↔ IsDigits rest ∧ v = decimalValue rest := by
  constructor
  · rintro ⟨ds, hds, ⟨hcs | hcs, rfl⟩ | ⟨hcs, rfl⟩⟩
    · rw [← hcs] at hds
      exact absurd hds (not_isDigits_sign (.inl rfl) rest)
    · cases hcs
      exact ⟨hds, rfl⟩
    · cases hcs
  · rintro ⟨hds, rfl⟩
    exact ⟨rest, hds, .inl ⟨.inr rfl, rfl⟩⟩

/-- After a `-`, a signed decimal is its digits, negated. -/
theorem signedDecimal_minus (rest : List Char) (v : Int) :
    SignedDecimal ('-' :: rest) v ↔ IsDigits rest ∧ v = -(decimalValue rest : Int) := by
  constructor
  · rintro ⟨ds, hds, ⟨hcs | hcs, rfl⟩ | ⟨hcs, rfl⟩⟩
    · rw [← hcs] at hds
      exact absurd hds (not_isDigits_sign (.inr rfl) rest)
    · cases hcs
    · cases hcs
      exact ⟨hds, rfl⟩
  · rintro ⟨hds, rfl⟩
    exact ⟨rest, hds, .inr ⟨rfl, rfl⟩⟩

/-- Without a sign, a signed decimal is its digits. -/
theorem signedDecimal_of_unsigned {cs : List Char} (hp : ∀ rest, cs ≠ '+' :: rest)
    (hm : ∀ rest, cs ≠ '-' :: rest) (v : Int) :
    SignedDecimal cs v ↔ IsDigits cs ∧ v = decimalValue cs := by
  constructor
  · rintro ⟨ds, hds, ⟨hcs | hcs, rfl⟩ | ⟨hcs, rfl⟩⟩
    · subst hcs
      exact ⟨hds, rfl⟩
    · exact absurd hcs (hp ds)
    · exact absurd hcs (hm ds)
  · rintro ⟨hds, rfl⟩
    exact ⟨cs, hds, .inl ⟨.inl rfl, rfl⟩⟩

/-- An unsigned decimal is a signed one of the same value. -/
theorem UnsignedDecimal.signed {cs : List Char} {n : Nat} (h : UnsignedDecimal cs n) :
    SignedDecimal cs n := by
  obtain ⟨ds, hds, hcs, rfl⟩ := h
  exact ⟨ds, hds, .inl ⟨hcs, rfl⟩⟩

/-- A positive signed decimal has no `-`, so it is an unsigned one. -/
theorem SignedDecimal.unsigned_of_pos {cs : List Char} {v : Int} (h : SignedDecimal cs v)
    (hv : 0 < v) : UnsignedDecimal cs v.toNat := by
  obtain ⟨ds, hds, ⟨hcs, rfl⟩ | ⟨-, rfl⟩⟩ := h
  · exact ⟨ds, hds, hcs, by simp⟩
  · omega

/-- A text is an unsigned decimal of one value at most. -/
theorem UnsignedDecimal.unique {cs : List Char} {n m : Nat} (hn : UnsignedDecimal cs n)
    (hm : UnsignedDecimal cs m) : n = m := by
  by_cases hp : ∃ rest, cs = '+' :: rest
  · obtain ⟨rest, rfl⟩ := hp
    rw [(unsignedDecimal_plus rest n).trans (and_congr_right fun _ => Iff.rfl)] at hn
    exact hn.2.trans ((unsignedDecimal_plus rest m).mp hm).2.symm
  · have hp' : ∀ rest, cs ≠ '+' :: rest := fun rest h => hp ⟨rest, h⟩
    exact ((unsignedDecimal_of_not_plus hp' n).mp hn).2.trans
      ((unsignedDecimal_of_not_plus hp' m).mp hm).2.symm

/-- A text is a signed decimal of one value at most. -/
theorem SignedDecimal.unique {cs : List Char} {v w : Int} (hv : SignedDecimal cs v)
    (hw : SignedDecimal cs w) : v = w := by
  by_cases hp : ∃ rest, cs = '+' :: rest
  · obtain ⟨rest, rfl⟩ := hp
    exact ((signedDecimal_plus rest v).mp hv).2.trans ((signedDecimal_plus rest w).mp hw).2.symm
  · by_cases hm : ∃ rest, cs = '-' :: rest
    · obtain ⟨rest, rfl⟩ := hm
      exact ((signedDecimal_minus rest v).mp hv).2.trans ((signedDecimal_minus rest w).mp hw).2.symm
    · have hp' : ∀ rest, cs ≠ '+' :: rest := fun rest h => hp ⟨rest, h⟩
      have hm' : ∀ rest, cs ≠ '-' :: rest := fun rest h => hm ⟨rest, h⟩
      exact ((signedDecimal_of_unsigned hp' hm' v).mp hv).2.trans
        ((signedDecimal_of_unsigned hp' hm' w).mp hw).2.symm

/-- A decimal of either grammar has at least one character. -/
theorem UnsignedDecimal.ne_nil {cs : List Char} {n : Nat} (h : UnsignedDecimal cs n) : cs ≠ [] := by
  obtain ⟨ds, ⟨hne, -⟩, hcs | hcs, -⟩ := h
  · rw [hcs]
    exact hne
  · rw [hcs]
    exact List.cons_ne_nil _ _

theorem SignedDecimal.ne_nil {cs : List Char} {v : Int} (h : SignedDecimal cs v) : cs ≠ [] := by
  obtain ⟨ds, ⟨hne, -⟩, ⟨hcs | hcs, -⟩ | ⟨hcs, -⟩⟩ := h
  · rw [hcs]
    exact hne
  all_goals
    rw [hcs]
    exact List.cons_ne_nil _ _

/-! ## The readers -/

/-- Reading digits left to right gives their value, and stops at the first character that is
no digit. -/
theorem foldl_digits (ds : List Char) :
    ds.foldl (fun acc c => acc.bind fun n =>
        if c.isDigit then some (10 * n + (c.toNat - '0'.toNat)) else none) (some 0) =
      if ∀ c ∈ ds, c.isDigit = true then some (decimalValue ds) else none := by
  induction ds using List.reverseRecOn with
  | nil =>
    rw [if_pos (by simp)]
    rfl
  | append_singleton ds c ih =>
    rw [List.foldl_append, ih]
    by_cases hds : ∀ x ∈ ds, x.isDigit = true
    · by_cases hc : c.isDigit = true
      · have hall : ∀ x ∈ ds ++ [c], x.isDigit = true := by
          intro x hx
          rcases List.mem_append.mp hx with hx | hx
          · exact hds x hx
          · rw [List.mem_singleton.mp hx]
            exact hc
        rw [if_pos hds, if_pos hall, decimalValue_append_digit]
        simp [hc, digitValue]
      · have hall : ¬ ∀ x ∈ ds ++ [c], x.isDigit = true :=
          fun h => hc (h c (List.mem_append_right _ (List.mem_singleton_self c)))
        rw [if_pos hds, if_neg hall]
        simp [hc]
    · have hall : ¬ ∀ x ∈ ds ++ [c], x.isDigit = true :=
        fun h => hds fun x hx => h x (List.mem_append_left _ hx)
      rw [if_neg hds, if_neg hall]
      rfl

/-- The digit reader accepts exactly one or more ASCII digits, with their value. -/
theorem digitsValue_eq_some_iff (ds : List Char) (n : Nat) :
    digitsValue ds = some n ↔ IsDigits ds ∧ n = decimalValue ds := by
  unfold digitsValue IsDigits
  by_cases hne : ds = []
  · subst hne
    simp
  · rw [if_neg (by simpa using hne), foldl_digits]
    by_cases hd : ∀ c ∈ ds, c.isDigit = true
    · rw [if_pos hd, Option.some.injEq]
      exact ⟨fun h => ⟨⟨hne, hd⟩, h.symm⟩, fun h => h.2.symm⟩
    · rw [if_neg hd]
      simp only [reduceCtorEq, false_iff]
      exact fun h => hd h.1.2

/-- Reading digits and keeping a value that passes a check accepts exactly digits whose value
passes it. -/
theorem digitsValue_bind_eq_some {α : Type} (body : List Char) (P : Nat → Prop) [DecidablePred P]
    (f : Nat → α) (v : α) :
    ((digitsValue body).bind fun n => if P n then some (f n) else none) = some v ↔
      IsDigits body ∧ P (decimalValue body) ∧ f (decimalValue body) = v := by
  rw [Option.bind_eq_some_iff]
  constructor
  · rintro ⟨n, hn, hv⟩
    obtain ⟨hds, rfl⟩ := (digitsValue_eq_some_iff body n).mp hn
    by_cases hp : P (decimalValue body)
    · rw [if_pos hp, Option.some.injEq] at hv
      exact ⟨hds, hp, hv⟩
    · rw [if_neg hp] at hv
      cases hv
  · rintro ⟨hds, hp, rfl⟩
    exact ⟨decimalValue body, (digitsValue_eq_some_iff body _).mpr ⟨hds, rfl⟩, if_pos hp⟩

/-- The unsigned reader accepts exactly the unsigned decimals below `2^64`. -/
theorem readUnsigned_eq_some_iff (s : String) (n : Nat) :
    readUnsigned s = some n ↔ UnsignedDecimal s.toList n ∧ n < wordSize := by
  -- the reader drops a leading `+` and reads the digits after it
  have hbody : ∀ body : List Char,
      (UnsignedDecimal s.toList n ↔ IsDigits body ∧ n = decimalValue body) →
      (((digitsValue body).bind fun n => if n < wordSize then some n else none) = some n ↔
        UnsignedDecimal s.toList n ∧ n < wordSize) := by
    intro body hshape
    rw [digitsValue_bind_eq_some body (· < wordSize) (fun n => n) n, hshape]
    constructor
    · rintro ⟨hds, hlt, rfl⟩
      exact ⟨⟨hds, rfl⟩, hlt⟩
    · rintro ⟨⟨hds, rfl⟩, hlt⟩
      exact ⟨hds, hlt, rfl⟩
  unfold readUnsigned
  split
  · next rest hcs => exact hbody rest (hcs ▸ unsignedDecimal_plus rest n)
  · next hcs => exact hbody s.toList (unsignedDecimal_of_not_plus (fun rest h => hcs rest h) n)

/-- After a `+`, the signed reader reads the digits as a value below `2^63`. -/
theorem readSigned_of_plus {s : String} {rest : List Char} (h : s.toList = '+' :: rest) :
    readSigned s = (digitsValue rest).bind fun n => if n < 2 ^ 63 then some (n : Int) else none := by
  unfold readSigned
  simp only [h]
  rfl

/-- After a `-`, the signed reader reads the digits as a value from `-2^63`, negated. -/
theorem readSigned_of_minus {s : String} {rest : List Char} (h : s.toList = '-' :: rest) :
    readSigned s = (digitsValue rest).bind fun n =>
      if n ≤ 2 ^ 63 then some (-(n : Int)) else none := by
  unfold readSigned
  simp only [h]
  rfl

/-- Without a sign, the signed reader reads the whole text as a value below `2^63`. -/
theorem readSigned_of_unsigned {s : String} (hp : ∀ rest, s.toList ≠ '+' :: rest)
    (hm : ∀ rest, s.toList ≠ '-' :: rest) :
    readSigned s = (digitsValue s.toList).bind fun n =>
      if n < 2 ^ 63 then some (n : Int) else none := by
  unfold readSigned
  split
  · next h =>
    split at h
    · next rest hcs => exact absurd hcs (hp rest)
    · next rest hcs => exact absurd hcs (hm rest)
    · cases h
      rfl

/-- The signed reader accepts exactly the signed decimals from `-2^63` below `2^63`. -/
theorem readSigned_eq_some_iff (s : String) (v : Int) :
    readSigned s = some v ↔ SignedDecimal s.toList v ∧ -2 ^ 63 ≤ v ∧ v < 2 ^ 63 := by
  by_cases hp : ∃ rest, s.toList = '+' :: rest
  · obtain ⟨rest, hcs⟩ := hp
    rw [readSigned_of_plus hcs, digitsValue_bind_eq_some rest (· < 2 ^ 63) (fun n => (n : Int)) v,
      hcs, signedDecimal_plus]
    constructor
    · rintro ⟨hds, hlt, rfl⟩
      exact ⟨⟨hds, rfl⟩, by omega, by omega⟩
    · rintro ⟨⟨hds, rfl⟩, -, hlt⟩
      exact ⟨hds, by omega, rfl⟩
  · by_cases hm : ∃ rest, s.toList = '-' :: rest
    · obtain ⟨rest, hcs⟩ := hm
      rw [readSigned_of_minus hcs,
        digitsValue_bind_eq_some rest (· ≤ 2 ^ 63) (fun n => -(n : Int)) v, hcs, signedDecimal_minus]
      constructor
      · rintro ⟨hds, hle, rfl⟩
        exact ⟨⟨hds, rfl⟩, by omega, by omega⟩
      · rintro ⟨⟨hds, rfl⟩, hge, -⟩
        exact ⟨hds, by omega, rfl⟩
    · have hp' : ∀ rest, s.toList ≠ '+' :: rest := fun rest h => hp ⟨rest, h⟩
      have hm' : ∀ rest, s.toList ≠ '-' :: rest := fun rest h => hm ⟨rest, h⟩
      rw [readSigned_of_unsigned hp' hm',
        digitsValue_bind_eq_some s.toList (· < 2 ^ 63) (fun n => (n : Int)) v,
        signedDecimal_of_unsigned hp' hm']
      constructor
      · rintro ⟨hds, hlt, rfl⟩
        exact ⟨⟨hds, rfl⟩, by omega, by omega⟩
      · rintro ⟨⟨hds, rfl⟩, -, hlt⟩
        exact ⟨hds, by omega, rfl⟩

/-! ## The decimal text of a number -/

theorem digitChar_toNat : ∀ d, d < 10 → (Nat.digitChar d).toNat = 48 + d := by decide

/-- The decimal digits of a number read left to right give the number. -/
theorem foldl_toDigits (n : Nat) :
    (Nat.toDigits 10 n).foldl (fun a c => a * 10 + (c.toNat - 48)) 0 = n := by
  induction n using Nat.strongRecOn with
  | ind n ih =>
    by_cases h : n < 10
    · rw [Nat.toDigits_of_lt_base h]
      simp [digitChar_toNat n h]
    · rw [Nat.toDigits_of_base_le (by decide) (by omega), List.foldl_append, ih (n / 10) (by omega)]
      simp [digitChar_toNat (n % 10) (Nat.mod_lt _ (by decide))]
      omega

/-- A positive number's decimal text does not start with a zero. -/
theorem head_toDigits_ne_zero {n : Nat} (h : 0 < n) :
    ∃ c rest, Nat.toDigits 10 n = c :: rest ∧ c ≠ '0' := by
  induction n using Nat.strongRecOn with
  | ind n ih =>
    by_cases hlt : n < 10
    · rw [Nat.toDigits_of_lt_base hlt]
      refine ⟨_, [], rfl, fun hc => ?_⟩
      have := digitChar_toNat n hlt
      rw [hc] at this
      simp at this
      omega
    · obtain ⟨c, rest, hcs, hc⟩ := ih (n / 10) (by omega) (by omega)
      rw [Nat.toDigits_of_base_le (by decide) (by omega), hcs]
      exact ⟨c, _, rfl, hc⟩

/-- An ASCII digit's code is from 48 to 57. -/
theorem toNat_of_isDigit {c : Char} (h : c.isDigit = true) : 48 ≤ c.toNat ∧ c.toNat ≤ 57 := by
  simp only [Char.isDigit, Bool.and_eq_true, decide_eq_true_eq] at h
  simp only [Char.toNat]
  exact ⟨h.1, h.2⟩

theorem toNat_le_of_mem_toDigits {n : Nat} {c : Char} (h : c ∈ Nat.toDigits 10 n) :
    48 ≤ c.toNat ∧ c.toNat ≤ 57 :=
  toNat_of_isDigit (Nat.isDigit_of_mem_toDigits (by decide) (by decide) h)

theorem toList_repr (n : Nat) : (Nat.repr n).toList = Nat.toDigits 10 n := by
  rw [Nat.repr, String.toList_ofList]

theorem isDigit_of_mem_repr {n : Nat} {c : Char} (h : c ∈ (Nat.repr n).toList) :
    c.isDigit = true := by
  rw [toList_repr] at h
  exact Nat.isDigit_of_mem_toDigits (by decide) (by decide) h

theorem toList_repr_ne_nil (n : Nat) : (Nat.repr n).toList ≠ [] := by
  rw [toList_repr]
  exact Nat.toDigits_ne_nil

theorem isEmpty_repr (n : Nat) : (Nat.repr n).isEmpty = false := by
  rw [Bool.eq_false_iff]
  intro h
  rw [String.isEmpty_iff] at h
  exact toList_repr_ne_nil n (by rw [h]; rfl)

end TenderClient.Text

namespace TenderClient.Ident

open Text

/-! ## Reading an identifier -/

/-- A value names an identifier exactly when it is positive and below `2^64`. -/
theorem ofNat?_eq_none_iff (n : Nat) : ofNat? n = none ↔ ¬ (0 < n ∧ n < wordSize) := by
  unfold ofNat?
  split <;> simp_all

theorem ofNat?_val_self (i : Ident) : ofNat? i.val = some i := by
  unfold ofNat?
  rw [dif_pos ⟨i.pos, i.lt⟩]

/-- A trimmed text is empty exactly when it has no character. -/
theorem isEmpty_trimBlank_iff (s : String) :
    (trimBlank s).isEmpty = true ↔ (trimBlank s).toList = [] := by
  rw [String.isEmpty_iff, ← String.toList_eq_nil_iff]

section Outcomes

variable {s : String}

/-! Each outcome of reading, from what the two readers give on the trimmed text. -/

theorem ofText_of_readUnsigned (hne : (trimBlank s).isEmpty = false) {i : Ident}
    (h : readUnsigned (trimBlank s) = some i.val) : ofText s = .ok i := by
  unfold ofText
  simp only [hne, h, ofNat?_val_self]
  rfl

theorem ofText_of_readUnsigned_zero (hne : (trimBlank s).isEmpty = false)
    (h : readUnsigned (trimBlank s) = some 0) : ofText s = .error (.notPositive 0) := by
  have hz : ofNat? 0 = none := (ofNat?_eq_none_iff 0).mpr (by omega)
  unfold ofText
  simp only [hne, h, hz]
  rfl

theorem ofText_of_readSigned (hne : (trimBlank s).isEmpty = false)
    (hu : readUnsigned (trimBlank s) = none) {v : Int} (h : readSigned (trimBlank s) = some v) :
    ofText s = .error (.notPositive v) := by
  unfold ofText
  simp only [hne, hu, h]
  rfl

theorem ofText_of_no_decimal (hne : (trimBlank s).isEmpty = false)
    (hu : readUnsigned (trimBlank s) = none) (hs : readSigned (trimBlank s) = none) :
    ofText s = .error (.notNumeric (trimBlank s)) := by
  unfold ofText
  simp only [hne, hu, hs]
  rfl

/-- What the unsigned reader can give on a trimmed text: nothing, zero, or an identifier's
value. -/
theorem readUnsigned_cases (s : String) :
    readUnsigned (trimBlank s) = none ∨ readUnsigned (trimBlank s) = some 0 ∨
      ∃ i : Ident, readUnsigned (trimBlank s) = some i.val := by
  cases h : readUnsigned (trimBlank s) with
  | none => exact .inl rfl
  | some n =>
    have hlt := ((readUnsigned_eq_some_iff _ n).mp h).2
    by_cases hn : n = 0
    · exact .inr (.inl (by rw [hn]))
    · exact .inr (.inr ⟨⟨n, Nat.pos_of_ne_zero hn, hlt⟩, rfl⟩)

/-- A text names an identifier: an unsigned decimal from `1` to `2^64 - 1`. -/
def NamesIdent (cs : List Char) : Prop := ∃ n, UnsignedDecimal cs n ∧ 1 ≤ n ∧ n ≤ 2 ^ 64 - 1

/-- A text names a value that is no identifier: a signed decimal from `-2^63` to `0`. -/
def NamesNonPositive (cs : List Char) : Prop := ∃ v, SignedDecimal cs v ∧ -2 ^ 63 ≤ v ∧ v ≤ 0

/-- The unsigned reader gives an identifier's value exactly for a text that names one. -/
theorem namesIdent_iff (s : String) :
    NamesIdent (trimBlank s).toList ↔ ∃ i : Ident, readUnsigned (trimBlank s) = some i.val := by
  constructor
  · rintro ⟨n, hn, h1, h2⟩
    have hlt : n < wordSize := by
      unfold wordSize
      omega
    exact ⟨⟨n, h1, hlt⟩, (readUnsigned_eq_some_iff _ n).mpr ⟨hn, hlt⟩⟩
  · rintro ⟨i, hi⟩
    have hlt := i.lt
    unfold wordSize at hlt
    exact ⟨i.val, ((readUnsigned_eq_some_iff _ _).mp hi).1, i.pos, by omega⟩

end Outcomes

theorem ofText_eq_ok_iff (s : String) (i : Ident) :
    ofText s = .ok i ↔ UnsignedDecimal (trimBlank s).toList i.val := by
  constructor
  · intro h
    exact ((readUnsigned_eq_some_iff _ _).mp (ofText_val h)).1
  · intro h
    have hne : (trimBlank s).isEmpty = false := by
      rw [Bool.eq_false_iff, ne_eq, isEmpty_trimBlank_iff]
      exact h.ne_nil
    exact ofText_of_readUnsigned hne ((readUnsigned_eq_some_iff _ _).mpr ⟨h, i.lt⟩)

theorem ofText_eq_notPositive_iff (s : String) (v : Int) :
    ofText s = .error (.notPositive v) ↔
      ¬ NamesIdent (trimBlank s).toList ∧ SignedDecimal (trimBlank s).toList v ∧
        -2 ^ 63 ≤ v ∧ v ≤ 0 := by
  rw [namesIdent_iff]
  constructor
  · intro h
    have hne : (trimBlank s).isEmpty = false := by
      cases he : (trimBlank s).isEmpty with
      | false => rfl
      | true => rw [(ofText_eq_error_empty_iff s).mpr he] at h; cases h
    rcases readUnsigned_cases s with hu | hu | ⟨i, hu⟩
    · -- no unsigned reading: the signed reader gave the value, which is not positive
      cases hs : readSigned (trimBlank s) with
      | none => rw [ofText_of_no_decimal hne hu hs] at h; cases h
      | some w =>
        rw [ofText_of_readSigned hne hu hs] at h
        cases h
        obtain ⟨hsig, hge, -⟩ := (readSigned_eq_some_iff _ v).mp hs
        have hnot : ¬ ∃ i : Ident, readUnsigned (trimBlank s) = some i.val := by
          rintro ⟨i, hi⟩
          rw [hu] at hi
          cases hi
        refine ⟨hnot, hsig, hge, ?_⟩
        -- a positive value would have been read as unsigned
        by_contra hpos
        have hlt : v.toNat < wordSize := by
          have := ((readSigned_eq_some_iff _ v).mp hs).2.2
          unfold wordSize
          omega
        have := (readUnsigned_eq_some_iff _ v.toNat).mpr
          ⟨hsig.unsigned_of_pos (by omega), hlt⟩
        rw [hu] at this
        cases this
    · -- an unsigned zero: not positive, value zero
      rw [ofText_of_readUnsigned_zero hne hu] at h
      cases h
      have hz := ((readUnsigned_eq_some_iff _ 0).mp hu).1
      refine ⟨?_, hz.signed, by omega, le_refl _⟩
      rintro ⟨i, hi⟩
      rw [hu] at hi
      exact absurd (Option.some.inj hi) (Nat.ne_of_lt i.pos)
    · rw [ofText_of_readUnsigned hne hu] at h
      cases h
  · rintro ⟨hnot, hsig, hge, hle⟩
    have hne : (trimBlank s).isEmpty = false := by
      rw [Bool.eq_false_iff, ne_eq, isEmpty_trimBlank_iff]
      exact hsig.ne_nil
    rcases readUnsigned_cases s with hu | hu | ⟨i, hu⟩
    · exact ofText_of_readSigned hne hu ((readSigned_eq_some_iff _ v).mpr ⟨hsig, hge, by omega⟩)
    · -- the text also reads as an unsigned zero, so its signed value is zero
      have hv : v = 0 :=
        hsig.unique ((readUnsigned_eq_some_iff _ 0).mp hu).1.signed
      rw [hv]
      exact ofText_of_readUnsigned_zero hne hu
    · exact absurd ⟨i, hu⟩ hnot

theorem ofText_eq_notNumeric_iff (s : String) (x : String) :
    ofText s = .error (.notNumeric x) ↔
      x = trimBlank s ∧ (trimBlank s).toList ≠ [] ∧ ¬ NamesIdent (trimBlank s).toList ∧
        ¬ NamesNonPositive (trimBlank s).toList := by
  rw [namesIdent_iff]
  constructor
  · intro h
    have hne : (trimBlank s).isEmpty = false := by
      cases he : (trimBlank s).isEmpty with
      | false => rfl
      | true => rw [(ofText_eq_error_empty_iff s).mpr he] at h; cases h
    have hnil : (trimBlank s).toList ≠ [] := by
      rw [ne_eq, ← isEmpty_trimBlank_iff, hne]
      exact Bool.false_ne_true
    rcases readUnsigned_cases s with hu | hu | ⟨i, hu⟩
    · cases hs : readSigned (trimBlank s) with
      | some w => rw [ofText_of_readSigned hne hu hs] at h; cases h
      | none =>
        rw [ofText_of_no_decimal hne hu hs] at h
        cases h
        refine ⟨rfl, hnil, ?_, ?_⟩
        · rintro ⟨i, hi⟩
          rw [hu] at hi
          cases hi
        · -- a value from `-2^63` to `0` would have been read as signed
          rintro ⟨v, hsig, hge, hle⟩
          have := (readSigned_eq_some_iff _ v).mpr ⟨hsig, hge, by omega⟩
          rw [hs] at this
          cases this
    · rw [ofText_of_readUnsigned_zero hne hu] at h
      cases h
    · rw [ofText_of_readUnsigned hne hu] at h
      cases h
  · rintro ⟨rfl, hnil, hnot, hnonpos⟩
    have hne : (trimBlank s).isEmpty = false := by
      rw [Bool.eq_false_iff, ne_eq, isEmpty_trimBlank_iff]
      exact hnil
    rcases readUnsigned_cases s with hu | hu | ⟨i, hu⟩
    · cases hs : readSigned (trimBlank s) with
      | none => exact ofText_of_no_decimal hne hu hs
      | some w =>
        -- the signed value is neither positive (it would read as unsigned) nor at most zero
        obtain ⟨hsig, hge, hlt⟩ := (readSigned_eq_some_iff _ w).mp hs
        by_cases hpos : 0 < w
        · have hw : w.toNat < wordSize := by
            unfold wordSize
            omega
          have := (readUnsigned_eq_some_iff _ w.toNat).mpr ⟨hsig.unsigned_of_pos hpos, hw⟩
          rw [hu] at this
          cases this
        · exact absurd ⟨w, hsig, hge, by omega⟩ hnonpos
    · exact absurd ⟨0, ((readUnsigned_eq_some_iff _ 0).mp hu).1.signed, by omega, le_refl _⟩ hnonpos
    · exact absurd ⟨i, hu⟩ hnot

/-- Reading an identifier from a text, classified on every text. With `t` the text trimmed
of Unicode blanks: the empty error exactly when `t` is empty; an identifier exactly when `t`
is an unsigned decimal (an optional `+` and one or more ASCII digits) of its value, which
is from `1` to `2^64 - 1`; not positive, with value `v`, exactly when `t` names no
identifier and is a signed decimal (an optional `+` or `-` and one or more ASCII digits) of
value `v` from `-2^63` to `0`; and not numeric, with `t`, in every other case. -/
theorem ofText_classifies (s : String) :
    (let t := (trimBlank s).toList
    (ofText s = .error .empty ↔ t = []) ∧
    (∀ i : Ident, ofText s = .ok i ↔ UnsignedDecimal t i.val) ∧
    ((∃ i, ofText s = .ok i) ↔ ∃ n, UnsignedDecimal t n ∧ 1 ≤ n ∧ n ≤ 2 ^ 64 - 1) ∧
    (∀ v : Int, ofText s = .error (.notPositive v) ↔
      (¬ ∃ n, UnsignedDecimal t n ∧ 1 ≤ n ∧ n ≤ 2 ^ 64 - 1) ∧
        SignedDecimal t v ∧ -2 ^ 63 ≤ v ∧ v ≤ 0) ∧
    (∀ x : String, ofText s = .error (.notNumeric x) ↔
      x = trimBlank s ∧ t ≠ [] ∧ (¬ ∃ n, UnsignedDecimal t n ∧ 1 ≤ n ∧ n ≤ 2 ^ 64 - 1) ∧
        ¬ ∃ v, SignedDecimal t v ∧ -2 ^ 63 ≤ v ∧ v ≤ 0)) := by
  intro t
  refine ⟨(ofText_eq_error_empty_iff s).trans (isEmpty_trimBlank_iff s), ofText_eq_ok_iff s,
    ?_, ofText_eq_notPositive_iff s, ofText_eq_notNumeric_iff s⟩
  constructor
  · rintro ⟨i, hi⟩
    have hlt := i.lt
    unfold wordSize at hlt
    exact ⟨i.val, (ofText_eq_ok_iff s i).mp hi, i.pos, by omega⟩
  · intro h
    obtain ⟨i, hi⟩ := (namesIdent_iff s).mp h
    exact ⟨i, (ofText_eq_ok_iff s i).mpr ((readUnsigned_eq_some_iff _ _).mp hi).1⟩

end TenderClient.Ident
