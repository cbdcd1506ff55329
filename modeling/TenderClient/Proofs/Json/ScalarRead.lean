import TenderClient.Proofs.Json.ReaderSteps
import TenderClient.Json.Encode
import TenderClient.Proofs.Text.IdentText
/-!
# Reading back strings, numbers and identifiers

The scalars of a compact text read back as what was written.

* A string literal, `Json.quote s`, reads back as `s` (`stringBody_reads`): each character
  is written as its UTF-8 bytes, or as a short escape or a `\u00XX` escape below U+0020,
  and the reader turns each back into the character's UTF-8 bytes, so the bytes it
  collects are those of `s`.
* An identifier is written as its decimal digits, and read back as the number of those
  digits, which fits in 64 bits (`ident_reads`); the same digits read back as the
  identifier through `Ident.ofText` too (`ofText_render`).
* A boolean reads back from its word (`boolean_reads`), a string where a value may be
  absent as a present string (`optional_string_reads`), and a tag name from its literal,
  since its text is already trimmed (`tagName_reads`).
-/

set_option autoImplicit false

namespace TenderClient.Json.Reader

/-! ## The bytes of a text -/

/-- The UTF-8 bytes of a text. -/
def utf8 (s : String) : List UInt8 := s.toUTF8.data.toList

theorem utf8_append (s t : String) : utf8 (s ++ t) = utf8 s ++ utf8 t := by
  simp [utf8, String.toUTF8_eq_toByteArray, String.toByteArray_append]

theorem utf8_ofList (l : List Char) : utf8 (String.ofList l) = l.flatMap String.utf8EncodeChar := by
  simp [utf8, String.toUTF8_eq_toByteArray, String.toByteArray_ofList, List.utf8Encode]

theorem size_toUTF8 (s : String) : s.toUTF8.size = (utf8 s).length := by
  simp only [utf8, Array.length_toList, ByteArray.size_data]

theorem at_utf8 (s : String) : At s.toUTF8 0 (utf8 s) := by
  intro i hi
  rw [Nat.zero_add, getElem?_pos s.toUTF8 i (by rw [size_toUTF8]; exact hi)]
  simp only [utf8, Array.getElem_toList]
  rfl

theorem utf8EncodeChar_ascii (c : Char) (h : c.toNat < 128) :
    String.utf8EncodeChar c = [UInt8.ofNat c.toNat] := by
  unfold String.utf8EncodeChar
  rw [if_pos (by simp only [Char.toNat] at h; omega)]
  rfl

/-- Every byte of a character of code 128 or more is 128 or more. -/
theorem utf8EncodeChar_high (c : Char) (h : 128 ≤ c.toNat) :
    ∀ b ∈ String.utf8EncodeChar c, 128 ≤ b.toNat := by
  simp only [Char.toNat] at h
  unfold String.utf8EncodeChar
  rw [if_neg (by omega)]
  intro b hb
  split at hb
  · simp only [List.mem_cons, List.not_mem_nil, or_false] at hb
    rcases hb with rfl | rfl <;> simp <;> omega
  · split at hb
    · simp only [List.mem_cons, List.not_mem_nil, or_false] at hb
      rcases hb with rfl | rfl | rfl <;> simp <;> omega
    · simp only [List.mem_cons, List.not_mem_nil, or_false] at hb
      -- a code point stays below U+110000
      have hv := c.valid
      simp only [UInt32.isValidChar, Nat.isValidChar] at hv
      rcases hb with rfl | rfl | rfl | rfl <;> simp <;> omega

/-! ## Strings -/

/-- The bytes a character is written as inside a string literal. -/
def escBytes (c : Char) : List UInt8 := (escapeChar c).flatMap String.utf8EncodeChar

theorem utf8_quote (s : String) : utf8 (quote s) = 34 :: s.toList.flatMap escBytes ++ [34] := by
  rw [quote, utf8_ofList, List.cons_append, List.flatMap_cons, List.flatMap_append,
    List.flatMap_assoc]
  rfl

section

variable {B : ByteArray}

/-- A byte that a string takes as it stands: no quote, no backslash, no control character. -/
def Plain (b : UInt8) : Prop := b ≠ 34 ∧ b ≠ 92 ∧ 32 ≤ b.toNat

/-- Plain bytes are collected one by one, one step of fuel each. -/
theorem go_plain {ws : List UInt8} (hw : ∀ b ∈ ws, Plain b) :
    ∀ {acc : Array UInt8} {k p room : Nat}, 0 < room → At B p ws →
      (ExceptT.run (stringBody.go acc (k + ws.length))).run ⟨B, p, room⟩ =
        (ExceptT.run (stringBody.go (acc ++ ws.toArray) k)).run ⟨B, p + ws.length, room⟩ := by
  induction ws with
  | nil => intro acc k p room _ _; simp
  | cons b bs ih =>
    intro acc k p room hroom hat
    obtain ⟨hb, hbs⟩ := at_cons.mp hat
    obtain ⟨h34, h92, h32⟩ := hw b (List.mem_cons_self ..)
    rw [List.length_cons, show k + (bs.length + 1) = (k + bs.length) + 1 by omega,
      stringBody.go, Runs.run_bind (next_reads (d := 0) hb room hroom)]
    have hlt : ¬ b < 32 := by rw [UInt8.lt_iff_toNat_lt]; simp; omega
    simp only [beq_iff_eq, h34, h92, hlt, if_false]
    rw [ih (fun x hx => hw x (List.mem_cons_of_mem _ hx)) hroom hbs]
    simp [Nat.add_assoc, Nat.add_comm 1]

/-- The escapes of one letter after a backslash, and the byte each stands for. -/
def shortEscapes : List (UInt8 × UInt8) :=
  [(34, 34), (92, 92), (98, 8), (102, 12), (110, 10), (114, 13), (116, 9)]

theorem escape_short {acc : Array UInt8} {p room : Nat} {b e : UInt8} (hroom : 0 < room)
    (h : B[p]? = some b) (hb : (b, e) ∈ shortEscapes) :
    Runs (escape acc) ⟨B, p, room⟩ (acc.push e) ⟨B, p + 1, room⟩ := by
  simp only [shortEscapes, List.mem_cons, Prod.mk.injEq, List.not_mem_nil, or_false] at hb
  unfold escape
  rcases hb with ⟨rfl, rfl⟩ | ⟨rfl, rfl⟩ | ⟨rfl, rfl⟩ | ⟨rfl, rfl⟩ | ⟨rfl, rfl⟩ | ⟨rfl, rfl⟩ |
    ⟨rfl, rfl⟩ <;> exact (next_reads (d := 0) h room hroom).bind (Runs.pure _ _)

/-- A backslash hands the rest of the escape to `escape`, for one step of fuel. -/
theorem go_escape {acc acc' : Array UInt8} {k p q room : Nat} (hroom : 0 < room)
    (h : B[p]? = some 92) (he : Runs (escape acc) ⟨B, p + 1, room⟩ acc' ⟨B, q, room⟩) :
    (ExceptT.run (stringBody.go acc (k + 1))).run ⟨B, p, room⟩ =
      (ExceptT.run (stringBody.go acc' k)).run ⟨B, q, room⟩ := by
  rw [stringBody.go, Runs.run_bind (next_reads (d := 0) h room hroom)]
  show (ExceptT.run (escape acc >>= fun a => stringBody.go a k)).run ⟨B, p + 1, room⟩ = _
  rw [Runs.run_bind he]

/-- The closing quote ends the string with the bytes collected. -/
theorem go_close {acc : Array UInt8} {k p room : Nat} (hroom : 0 < room) (h : B[p]? = some 34) :
    Runs (stringBody.go acc (k + 1)) ⟨B, p, room⟩ acc ⟨B, p + 1, room⟩ := by
  unfold Runs
  rw [stringBody.go, Runs.run_bind (next_reads (d := 0) h room hroom)]
  rfl

/-- The byte of the hexadecimal digit of a number below 16. -/
def hexByte (n : Nat) : UInt8 := UInt8.ofNat (hexDigit n).toNat

theorem hexDigit_facts : ∀ n, n < 16 →
    String.utf8EncodeChar (hexDigit n) = [hexByte n] ∧ hexValue (hexByte n) = some n := by
  decide

/-- Four hexadecimal digits are read as their number. -/
theorem hexEscape_runs {p : Nat} (room : Nat) {b₀ b₁ b₂ b₃ : UInt8} {v₀ v₁ v₂ v₃ : Nat}
    (hat : At B p [b₀, b₁, b₂, b₃]) (h₀ : hexValue b₀ = some v₀) (h₁ : hexValue b₁ = some v₁)
    (h₂ : hexValue b₂ = some v₂) (h₃ : hexValue b₃ = some v₃) :
    Runs hexEscape ⟨B, p, room⟩ (((v₀ * 16 + v₁) * 16 + v₂) * 16 + v₃) ⟨B, p + 4, room⟩ := by
  have hsize := hat.le_size (by simp)
  obtain ⟨e₀, hat⟩ := at_cons.mp hat
  obtain ⟨e₁, hat⟩ := at_cons.mp hat
  obtain ⟨e₂, hat⟩ := at_cons.mp hat
  have e₃ := at_singleton.mp hat
  unfold hexEscape
  refine (Runs.get _).bind ?_
  rw [if_neg (by dsimp only; simp only [List.length_cons, List.length_nil] at hsize; omega)]
  refine (Runs.set _ _).bind ?_
  simp only [e₀, e₁, e₂, e₃, List.mapM_cons, List.mapM_nil, Option.bind_some, h₀, h₁, h₂, h₃]
  exact Runs.pure _ _

/-- A `\u00XX` escape of a control character collects the character's byte. -/
theorem escape_control {acc : Array UInt8} {p room : Nat} {c : Char} (hroom : 0 < room)
    (hc : c.toNat < 32)
    (hat : At B p [117, 48, 48, hexByte (c.toNat / 16), hexByte (c.toNat % 16)]) :
    Runs (escape acc) ⟨B, p, room⟩ (acc ++ (String.utf8EncodeChar c).toArray) ⟨B, p + 5, room⟩ := by
  obtain ⟨hu, hhex⟩ := at_cons.mp hat
  have hv₀ := (hexDigit_facts (c.toNat / 16) (by omega)).2
  have hv₁ := (hexDigit_facts (c.toNat % 16) (by omega)).2
  have hn : ((0 * 16 + 0) * 16 + c.toNat / 16) * 16 + c.toNat % 16 = c.toNat := by omega
  have hrun := hexEscape_runs room hhex (by decide : hexValue 48 = some 0)
    (by decide : hexValue 48 = some 0) hv₀ hv₁
  rw [hn] at hrun
  unfold escape
  refine (next_reads (d := 0) hu room hroom).bind ?_
  simp only [beq_iff_eq]
  refine hrun.bind ?_
  -- a control character is neither half of a surrogate pair
  rw [if_neg (by omega), if_neg (by omega), Char.ofNat_toNat]
  have henc : Text.encodeChar c = String.utf8EncodeChar c := by
    rw [utf8EncodeChar_ascii c (by omega)]
    unfold Text.encodeChar
    rw [if_pos (by omega)]
  rw [henc, show p + 1 + 4 = p + 5 by omega]
  exact Runs.pure _ _

/-- A character that needs no escape is written as its bytes, and each is plain. -/
theorem plain_of_char {c : Char} (h32 : 32 ≤ c.toNat) (hq : c ≠ '"') (hb : c ≠ '\\') :
    ∀ b ∈ String.utf8EncodeChar c, Plain b := by
  intro b hmem
  by_cases hlow : c.toNat < 128
  · rw [utf8EncodeChar_ascii c hlow, List.mem_singleton] at hmem
    subst hmem
    have hq' : c.toNat ≠ 34 := fun h => hq (Char.toNat_inj.mp h)
    have hb' : c.toNat ≠ 92 := fun h => hb (Char.toNat_inj.mp h)
    refine ⟨fun h => hq' ?_, fun h => hb' ?_, ?_⟩
    · have := congrArg UInt8.toNat h
      simp at this
      omega
    · have := congrArg UInt8.toNat h
      simp at this
      omega
    · simp
      omega
  · have hhigh := utf8EncodeChar_high c (by omega) b hmem
    refine ⟨fun h => ?_, fun h => ?_, by omega⟩ <;> subst h <;> simp at hhigh

/-- A character written as a backslash and one letter. -/
theorem go_short {cs : List Char} {c : Char} {b e : UInt8}
    (hw : cs.flatMap String.utf8EncodeChar = [92, b]) (hc : String.utf8EncodeChar c = [e])
    (hb : (b, e) ∈ shortEscapes) :
    ∃ n, n ≤ (cs.flatMap String.utf8EncodeChar).length ∧
      ∀ {acc : Array UInt8} {k p room : Nat}, 0 < room → At B p (cs.flatMap String.utf8EncodeChar) →
        (ExceptT.run (stringBody.go acc (k + n))).run ⟨B, p, room⟩ =
          (ExceptT.run (stringBody.go (acc ++ (String.utf8EncodeChar c).toArray) k)).run
            ⟨B, p + (cs.flatMap String.utf8EncodeChar).length, room⟩ := by
  rw [hw, hc]
  refine ⟨1, by simp, fun hroom hat => ?_⟩
  obtain ⟨h92, hrest⟩ := at_cons.mp hat
  rw [go_escape hroom h92 (escape_short hroom (at_singleton.mp hrest) hb)]
  simp

/-- One character of a string literal: at most as many steps of fuel as it has bytes
collect its UTF-8 bytes. -/
theorem go_char (c : Char) : ∃ n, n ≤ (escBytes c).length ∧
    ∀ {acc : Array UInt8} {k p room : Nat}, 0 < room → At B p (escBytes c) →
      (ExceptT.run (stringBody.go acc (k + n))).run ⟨B, p, room⟩ =
        (ExceptT.run (stringBody.go (acc ++ (String.utf8EncodeChar c).toArray) k)).run
          ⟨B, p + (escBytes c).length, room⟩ := by
  unfold escBytes escapeChar
  split
  · exact go_short (b := 34) (e := 34) (by decide) (by decide) (by decide)
  · exact go_short (b := 92) (e := 92) (by decide) (by decide) (by decide)
  · exact go_short (b := 110) (e := 10) (by decide) (by decide) (by decide)
  · exact go_short (b := 114) (e := 13) (by decide) (by decide) (by decide)
  · exact go_short (b := 116) (e := 9) (by decide) (by decide) (by decide)
  · exact go_short (b := 98) (e := 8) (by decide) (by decide) (by decide)
  · exact go_short (b := 102) (e := 12) (by decide) (by decide) (by decide)
  · rename_i hq hb _ _ _ _ _
    split
    · -- a control character, as a \u00XX escape
      rename_i hlt
      have hw : ['\\', 'u', '0', '0', hexDigit (c.toNat / 16), hexDigit (c.toNat % 16)].flatMap
          String.utf8EncodeChar = [92, 117, 48, 48, hexByte (c.toNat / 16), hexByte (c.toNat % 16)] := by
        simp only [List.flatMap_cons, List.flatMap_nil, (hexDigit_facts (c.toNat / 16) (by omega)).1,
          (hexDigit_facts (c.toNat % 16) (by omega)).1, List.append_nil]
        rfl
      rw [hw]
      refine ⟨1, by simp, fun hroom hat => ?_⟩
      obtain ⟨h92, hrest⟩ := at_cons.mp hat
      rw [go_escape hroom h92 (escape_control hroom hlt hrest)]
      rfl
    · -- any other character, as its own bytes
      rename_i hge
      rw [List.flatMap_singleton]
      exact ⟨_, Nat.le_refl _, fun hroom hat =>
        go_plain (plain_of_char (by omega) (fun h => hq h) (fun h => hb h)) hroom hat⟩

/-- The characters of a string literal collect their UTF-8 bytes, in order. -/
theorem go_chars (cs : List Char) : ∃ n, n ≤ (cs.flatMap escBytes).length ∧
    ∀ {acc : Array UInt8} {k p room : Nat}, 0 < room → At B p (cs.flatMap escBytes) →
      (ExceptT.run (stringBody.go acc (k + n))).run ⟨B, p, room⟩ =
        (ExceptT.run (stringBody.go (acc ++ (cs.flatMap String.utf8EncodeChar).toArray) k)).run
          ⟨B, p + (cs.flatMap escBytes).length, room⟩ := by
  induction cs with
  | nil => exact ⟨0, Nat.le_refl _, fun _ _ => by simp⟩
  | cons c cs ih =>
    obtain ⟨n₁, hn₁, h₁⟩ := go_char (B := B) c
    obtain ⟨n₂, hn₂, h₂⟩ := ih
    refine ⟨n₁ + n₂, by simp only [List.flatMap_cons, List.length_append]; omega,
      fun {acc k p room} hroom hat => ?_⟩
    rw [List.flatMap_cons, at_append] at hat
    rw [show k + (n₁ + n₂) = (k + n₂) + n₁ by omega, h₁ hroom hat.1, h₂ hroom hat.2]
    simp [List.flatMap_cons, Nat.add_assoc]

/-- A text's bytes read back as the text. -/
theorem fromUTF8?_utf8EncodeChar (s : String) :
    String.fromUTF8? ⟨(s.toList.flatMap String.utf8EncodeChar).toArray⟩ = some s := by
  have hb : (⟨(s.toList.flatMap String.utf8EncodeChar).toArray⟩ : ByteArray) = s.toByteArray := by
    rw [← String.utf8Encode_toList]
    exact congrArg ByteArray.mk List.data_toByteArray.symm
  rw [hb]
  unfold String.fromUTF8?
  rw [dif_pos s.isValidUTF8]
  rfl

/-- The rest of a string literal after its opening quote reads back as its text. -/
theorem stringBody_reads {p : Nat} (s : String) (hat : At B p (s.toList.flatMap escBytes ++ [34])) :
    Reads stringBody 0 B p s (p + (s.toList.flatMap escBytes).length + 1) := by
  have hsize := hat.le_size (by simp)
  rw [at_append] at hat
  obtain ⟨hchars, hclose⟩ := hat
  obtain ⟨n, hn, hgo⟩ := go_chars (B := B) s.toList
  unfold stringBody
  refine Reads.get_bind fun _ _ => ?_
  intro room hroom
  have hrun : Runs (stringBody.go #[] (B.size - p + 1)) ⟨B, p, room⟩
      (s.toList.flatMap String.utf8EncodeChar).toArray
      ⟨B, p + (s.toList.flatMap escBytes).length + 1, room⟩ := by
    -- the fuel is the bytes left, at least the steps the characters take and one more
    simp only [List.length_append, List.length_singleton] at hsize
    unfold Runs
    rw [show B.size - p + 1 = (B.size - p - n + 1) + n by omega, hgo hroom hchars,
      Array.empty_append]
    exact go_close hroom (at_singleton.mp hclose)
  refine hrun.bind ?_
  simp only [fromUTF8?_utf8EncodeChar]
  exact Runs.pure _ _

/-- A string literal reads back as its text. -/
theorem string_reads {p : Nat} (s : String) (hat : At B p (utf8 (quote s))) :
    Reads string 0 B p s (p + (utf8 (quote s)).length) := by
  rw [utf8_quote] at hat ⊢
  obtain ⟨h34, hrest⟩ := at_cons.mp hat
  unfold string
  refine (skipBlank_reads_some h34 (by decide)).bind ?_
  refine (bump_reads p).bind ?_
  rw [show p + (34 :: s.toList.flatMap escBytes ++ [34] : List UInt8).length =
    p + 1 + (s.toList.flatMap escBytes).length + 1 by simp; omega]
  exact stringBody_reads s hrest

/-! ## Numbers -/

/-- What may stand after an integer that ends there: the end of the text, or a byte that is
no digit, no point and no exponent letter. -/
def EndsNumber (B : ByteArray) (p : Nat) : Prop :=
  B[p]? = none ∨ ∃ b, B[p]? = some b ∧ isDigitByte b = false ∧ b ≠ 46 ∧ b ≠ 101 ∧ b ≠ 69

/-- The value of digit bytes read left to right, from a value already read. -/
def digitsFrom (sig : Nat) (ws : List UInt8) : Nat := ws.foldl (fun a b => a * 10 + (b.toNat - 48)) sig

theorem le_digitsFrom (sig : Nat) (ws : List UInt8) : sig ≤ digitsFrom sig ws := by
  induction ws generalizing sig with
  | nil => exact Nat.le_refl _
  | cons b bs ih =>
    have := ih (sig * 10 + (b.toNat - 48))
    simp only [digitsFrom, List.foldl_cons] at this ⊢
    omega

theorem overflows_eq_false {acc digit limit : Nat} (h : acc * 10 + digit ≤ limit)
    (hd : digit ≤ 9) : overflows acc digit limit = false := by
  unfold overflows
  simp only [Bool.and_eq_false_iff, decide_eq_false_iff_not, Bool.or_eq_false_iff]
  omega

theorem afterInteger_runs {p room sig : Nat} (hend : EndsNumber B p) :
    Runs (afterInteger true sig) ⟨B, p, room⟩ (.nat sig) ⟨B, p, room⟩ := by
  unfold afterInteger
  refine (Runs.get _).bind ?_
  rcases hend with hnone | ⟨b, hb, -, h46, h101, h69⟩
  · simp only [hnone]
    exact Runs.pure _ _
  · simp only [hb]
    split
    · rename_i heq; cases heq; exact absurd rfl h46
    · rename_i heq; cases heq; exact absurd rfl h101
    · rename_i heq; cases heq; exact absurd rfl h69
    · exact Runs.pure _ _

/-- The integer loop stops at a byte that ends the number, with the value read so far. -/
theorem numberGo_end {p : Nat} (room sig k : Nat) (hend : EndsNumber B p) :
    Runs (number.go true sig k) ⟨B, p, room⟩ (.nat sig) ⟨B, p, room⟩ := by
  cases k with
  | zero => exact afterInteger_runs hend
  | succ k =>
    rw [number.go]
    refine (Runs.get _).bind ?_
    rcases hend with hnone | ⟨b, hb, hdigit, hrest⟩
    · simp only [hnone]
      exact afterInteger_runs (Or.inl hnone)
    · simp only [hb, hdigit, Bool.false_eq_true, if_false]
      exact afterInteger_runs (Or.inr ⟨b, hb, hdigit, hrest⟩)

theorem isDigitByte_iff (b : UInt8) : isDigitByte b = true ↔ 48 ≤ b.toNat ∧ b.toNat ≤ 57 := by
  simp [isDigitByte, UInt8.le_iff_toNat_le]

/-- Digits that keep the value within 64 bits are read one by one, a step of fuel each. -/
theorem numberGo_digits {ws : List UInt8} (hw : ∀ b ∈ ws, isDigitByte b = true) :
    ∀ {sig k p room : Nat}, 0 < room → At B p ws → digitsFrom sig ws ≤ maxWord →
      (ExceptT.run (number.go true sig (k + ws.length))).run ⟨B, p, room⟩ =
        (ExceptT.run (number.go true (digitsFrom sig ws) k)).run ⟨B, p + ws.length, room⟩ := by
  induction ws with
  | nil => intro sig k p room _ _ _; rfl
  | cons b bs ih =>
    intro sig k p room hroom hat hmax
    obtain ⟨hb, hbs⟩ := at_cons.mp hat
    have hdigit := hw b (List.mem_cons_self ..)
    have hrange := (isDigitByte_iff b).mp hdigit
    -- every value on the way is at most the final one, so nothing overflows
    have hstep : sig * 10 + (b.toNat - 48) ≤ maxWord :=
      Nat.le_trans (le_digitsFrom _ bs) hmax
    rw [List.length_cons, show k + (bs.length + 1) = (k + bs.length) + 1 by omega, number.go,
      Runs.run_bind (peek_reads (d := 0) p room hroom), hb]
    simp only [hdigit, if_true, overflows_eq_false hstep (by omega), Bool.false_eq_true, if_false]
    rw [Runs.run_bind (bump_reads (d := 0) p room hroom),
      ih (fun x hx => hw x (List.mem_cons_of_mem _ hx)) hroom hbs hmax]
    simp only [digitsFrom, List.foldl_cons, Nat.add_assoc, Nat.add_comm 1]

/-- Digits without a leading zero that fit in 64 bits, and then the end of the number, read
as their value. -/
theorem number_reads {p : Nat} {b : UInt8} {ws : List UInt8}
    (hw : ∀ x ∈ b :: ws, isDigitByte x = true) (hlead : b ≠ 48) (hat : At B p (b :: ws))
    (hmax : digitsFrom 0 (b :: ws) ≤ maxWord) (hend : EndsNumber B (p + (b :: ws).length)) :
    Reads (number true) 0 B p (.nat (digitsFrom 0 (b :: ws))) (p + (b :: ws).length) := by
  have hsize := hat.le_size (by simp)
  obtain ⟨hb, hws⟩ := at_cons.mp hat
  have hdigit := hw b (List.mem_cons_self ..)
  unfold number
  refine (next_reads hb).bind ?_
  have h48 : (b == 48) = false := by simpa using hlead
  simp only [h48, Bool.false_eq_true, if_false, hdigit, if_true]
  refine Reads.get_bind fun _ _ => ?_
  intro room hroom
  unfold Runs
  simp only [List.length_cons] at hsize ⊢
  rw [show B.size - (p + 1) + 1 = (B.size - (p + 1) + 1 - ws.length) + ws.length by omega,
    numberGo_digits (fun x hx => hw x (List.mem_cons_of_mem _ hx)) hroom hws
      (by simpa [digitsFrom] using hmax)]
  rw [show p + 1 + ws.length = p + (ws.length + 1) by omega]
  have := numberGo_end room (digitsFrom (0 * 10 + (b.toNat - 48)) ws)
    (B.size - (p + 1) + 1 - ws.length) (by simpa using hend)
  unfold Runs at this
  simpa [digitsFrom] using this

/-! ## Identifiers -/

/-- ASCII text is written one byte per character. -/
theorem flatMap_utf8EncodeChar_ascii (cs : List Char) (h : ∀ c ∈ cs, c.toNat < 128) :
    cs.flatMap String.utf8EncodeChar = cs.map fun c => UInt8.ofNat c.toNat := by
  induction cs with
  | nil => rfl
  | cons c cs ih =>
    rw [List.flatMap_cons, utf8EncodeChar_ascii c (h c (List.mem_cons_self ..)),
      ih (fun x hx => h x (List.mem_cons_of_mem _ hx))]
    rfl

/-- The bytes of a number's decimal text: one per digit. -/
theorem utf8_repr (n : Nat) :
    utf8 (Nat.repr n) = (Nat.toDigits 10 n).map fun c => UInt8.ofNat c.toNat := by
  rw [Nat.repr, utf8_ofList, flatMap_utf8EncodeChar_ascii _ fun c hc => by
    have := Text.toNat_le_of_mem_toDigits hc
    omega]

/-- A digit byte is neither a blank nor the first byte of any other kind of value. -/
theorem digit_facts {b : UInt8} (h : isDigitByte b = true) :
    isBlankByte b = false ∧ (b == 110) = false ∧ (b == 116) = false ∧ (b == 102) = false ∧
      (b == 45) = false ∧ b ≠ 93 := by
  rw [isDigitByte_iff] at h
  have hne : ∀ v : UInt8, v.toNat < 48 ∨ 57 < v.toNat → b ≠ v := by
    intro v hv heq
    subst heq
    omega
  have h32 := hne 32 (by decide)
  have h10 := hne 10 (by decide)
  have h9 := hne 9 (by decide)
  have h13 := hne 13 (by decide)
  simp only [isBlankByte, Bool.or_eq_false_iff, beq_eq_false_iff_ne]
  exact ⟨⟨⟨⟨h32, h10⟩, h9⟩, h13⟩, hne 110 (by decide), hne 116 (by decide), hne 102 (by decide),
    hne 45 (by decide), hne 93 (by decide)⟩

/-- Digit bytes taken from characters have the characters' values. -/
theorem digitsFrom_map (cs : List Char) (h : ∀ c ∈ cs, c.toNat < 256) (sig : Nat) :
    digitsFrom sig (cs.map fun c => UInt8.ofNat c.toNat) =
      cs.foldl (fun a c => a * 10 + (c.toNat - 48)) sig := by
  induction cs generalizing sig with
  | nil => rfl
  | cons c cs ih =>
    have hc : (UInt8.ofNat c.toNat).toNat = c.toNat := by
      rw [UInt8.toNat_ofNat']
      exact Nat.mod_eq_of_lt (h c (List.mem_cons_self ..))
    simp only [List.map_cons, digitsFrom, List.foldl_cons] at ih ⊢
    rw [hc, ih (fun x hx => h x (List.mem_cons_of_mem _ hx))]

/-- The bytes of an identifier's text: digits without a leading zero, whose value is the
identifier. -/
theorem utf8_render_digits (x : TenderClient.Ident) :
    ∃ b ws, utf8 x.render = b :: ws ∧ (∀ y ∈ b :: ws, isDigitByte y = true) ∧ b ≠ 48 ∧
      digitsFrom 0 (b :: ws) = x.val := by
  obtain ⟨c, rest, hcs, hc⟩ := Text.head_toDigits_ne_zero x.pos
  have hrange : ∀ c' ∈ Nat.toDigits 10 x.val, 48 ≤ c'.toNat ∧ c'.toNat ≤ 57 :=
    fun c' h => Text.toNat_le_of_mem_toDigits h
  have hbytes := utf8_repr x.val
  have hvalue := digitsFrom_map _ (fun c' h => by have := hrange c' h; omega) 0
  rw [Text.foldl_toDigits] at hvalue
  rw [hcs, List.map_cons] at hbytes hvalue
  rw [hcs] at hrange
  refine ⟨_, _, hbytes, ?_, ?_, hvalue⟩
  · intro y hy
    obtain ⟨c', hc', rfl⟩ : ∃ c' ∈ c :: rest, UInt8.ofNat c'.toNat = y := by
      rcases List.mem_cons.mp hy with rfl | hy
      · exact ⟨c, List.mem_cons_self .., rfl⟩
      · obtain ⟨c', hc', rfl⟩ := List.mem_map.mp hy
        exact ⟨c', List.mem_cons_of_mem _ hc', rfl⟩
    have := hrange c' hc'
    rw [isDigitByte_iff, UInt8.toNat_ofNat', Nat.mod_eq_of_lt (by omega)]
    exact this
  · intro h48
    have hc48 := congrArg UInt8.toNat h48
    have := hrange c (List.mem_cons_self ..)
    rw [UInt8.toNat_ofNat', Nat.mod_eq_of_lt (by omega), show (48 : UInt8).toNat = 48 from rfl]
      at hc48
    exact hc (Char.toNat_inj.mp hc48)

/-- A non-negative integer names the identifier of its value. -/
theorem identOf_nat (x : TenderClient.Ident) : identOf (.number (.nat x.val)) = .ok x := by
  simp only [identOf, idForm?, TenderClient.Ident.ofForm, TenderClient.Ident.ofNat?_val_self]
  rfl

/-- An identifier reads back from its decimal text, where the number ends. -/
theorem ident_reads {p : Nat} (x : TenderClient.Ident) (hat : At B p (utf8 x.render))
    (hend : EndsNumber B (p + (utf8 x.render).length)) :
    Reads ident 0 B p x (p + (utf8 x.render).length) := by
  obtain ⟨b, ws, hbytes, hdigits, hlead, hvalue⟩ := utf8_render_digits x
  rw [hbytes] at hat hend ⊢
  have hmax : digitsFrom 0 (b :: ws) ≤ maxWord := by
    have := x.lt
    unfold Text.wordSize at this
    unfold maxWord
    omega
  have hnum := number_reads hdigits hlead hat hmax hend
  rw [hvalue] at hnum
  have hdigit := hdigits b (List.mem_cons_self ..)
  obtain ⟨hblank, h110, h116, h102, h45, -⟩ := digit_facts hdigit
  have hb : B[p]? = some b := (at_cons.mp hat).1
  have hv : Reads value 0 B p (.number (.nat x.val)) (p + (b :: ws).length) := by
    refine Reads.get_bind fun _ _ => ?_
    rw [show 2 * (B.size - p) + 2 = (2 * (B.size - p) + 1) + 1 by omega, anyValue]
    refine (skipBlank_reads_some hb hblank).bind ?_
    simp only [h110, h116, h102, h45, hdigit, Bool.false_eq_true, if_false, if_true]
    exact hnum.bind (Reads.pure _ _)
  unfold ident
  refine hv.bind ?_
  rw [identOf_nat]
  exact Reads.pure _ _

/-- A digit is no blank. -/
theorem isBlank_of_mem_toDigits {n : Nat} {c : Char} (h : c ∈ Nat.toDigits 10 n) :
    Text.isBlank c = false := by
  have hc := Text.toNat_le_of_mem_toDigits h
  simp only [Text.isBlank, Bool.or_eq_false_iff, Bool.and_eq_false_iff, beq_eq_false_iff_ne,
    decide_eq_false_iff_not]
  omega

/-- Digits fold to the value the decimal reading computes. -/
theorem digitsValue_fold (cs : List Char) (h : ∀ c ∈ cs, c.isDigit = true) (a : Nat) :
    cs.foldl (fun acc c => acc.bind fun n =>
        if c.isDigit then some (10 * n + (c.toNat - '0'.toNat)) else none) (some a) =
      some (cs.foldl (fun a c => a * 10 + (c.toNat - 48)) a) := by
  induction cs generalizing a with
  | nil => rfl
  | cons c cs ih =>
    simp only [List.foldl_cons, Option.bind_some, h c (List.mem_cons_self ..), if_true]
    rw [ih (fun x hx => h x (List.mem_cons_of_mem _ hx)), Nat.mul_comm]
    rfl

theorem toList_render (x : TenderClient.Ident) : x.render.toList = Nat.toDigits 10 x.val :=
  Text.toList_repr x.val

/-- Digits have no blanks around them to trim. -/
theorem trimBlank_render (x : TenderClient.Ident) : Text.trimBlank x.render = x.render := by
  apply String.toList_inj.mp
  have hfront : ∀ c ∈ (Nat.toDigits 10 x.val).head?, Text.isBlank c = false :=
    fun _ h => isBlank_of_mem_toDigits (List.mem_of_mem_head? h)
  have hback : ∀ c ∈ (Nat.toDigits 10 x.val).reverse.head?, Text.isBlank c = false :=
    fun _ h => isBlank_of_mem_toDigits (List.mem_reverse.mp (List.mem_of_mem_head? h))
  rw [Text.trimBlank_toList, toList_render, Text.dropBlank_of_head hfront,
    Text.dropBlank_of_head hback, List.reverse_reverse]

theorem isEmpty_render (x : TenderClient.Ident) : x.render.isEmpty = false :=
  Text.isEmpty_repr x.val

/-- An identifier's decimal text reads as its value: digits with no sign before them. -/
theorem readUnsigned_render (x : TenderClient.Ident) :
    Text.readUnsigned x.render = some x.val := by
  obtain ⟨c, rest, hcs, -⟩ := Text.head_toDigits_ne_zero x.pos
  have hdigit : ∀ c' ∈ Nat.toDigits 10 x.val, c'.isDigit = true :=
    fun _ h => Nat.isDigit_of_mem_toDigits (by decide) (by decide) h
  have hplus : c ≠ '+' := by
    intro h
    have := hdigit c (by rw [hcs]; exact List.mem_cons_self ..)
    rw [h] at this
    exact absurd this (by decide)
  unfold Text.readUnsigned
  dsimp only
  rw [toList_render]
  split
  · rename_i heq
    rw [hcs] at heq
    cases heq
    exact absurd rfl hplus
  · unfold Text.digitsValue
    rw [if_neg (by rw [hcs]; simp), digitsValue_fold _ hdigit, Text.foldl_toDigits]
    simp only [Option.bind_some, x.lt, if_true]

/-- An identifier's decimal text reads back as the identifier. -/
theorem ofText_render (x : TenderClient.Ident) : TenderClient.Ident.ofText x.render = .ok x := by
  unfold TenderClient.Ident.ofText
  simp only [trimBlank_render, isEmpty_render, readUnsigned_render,
    TenderClient.Ident.ofNat?_val_self]
  rfl

/-! ## Booleans, optional strings and tag names -/

/-- A boolean's word reads back as the boolean. -/
theorem boolean_reads {p : Nat} (v : Bool) (hat : At B p (utf8 (Json.bool v).compact)) :
    Reads boolean 0 B p v (p + (utf8 (Json.bool v).compact).length) := by
  cases v with
  | true =>
    obtain ⟨h116, hrest⟩ := at_cons.mp (show At B p [116, 114, 117, 101] from hat)
    unfold boolean
    refine (skipBlank_reads_some h116 (by decide)).bind ?_
    refine (bump_reads p).bind ((expectWord_reads hrest).bind ?_)
    exact Reads.pure _ _
  | false =>
    obtain ⟨h102, hrest⟩ := at_cons.mp (show At B p [102, 97, 108, 115, 101] from hat)
    unfold boolean
    refine (skipBlank_reads_some h102 (by decide)).bind ?_
    refine (bump_reads p).bind ((expectWord_reads hrest).bind ?_)
    exact Reads.pure _ _

/-- A string literal read where a value may be absent is a present string. -/
theorem optional_string_reads {p : Nat} (s : String) (hat : At B p (utf8 (quote s))) :
    Reads (optional string) 0 B p (some s) (p + (utf8 (quote s)).length) := by
  have h34 : B[p]? = some 34 := by
    rw [utf8_quote] at hat
    exact (at_cons.mp hat).1
  unfold optional
  refine (skipBlank_reads_some h34 (by decide)).bind ?_
  exact (string_reads s hat).map some

/-- A tag name reads back from its string literal: its text is already trimmed. -/
theorem tagName_reads {p : Nat} (t : TagName) (hat : At B p (utf8 (quote t.text))) :
    Reads tagName 0 B p t (p + (utf8 (quote t.text)).length) := by
  unfold tagName
  refine (string_reads t.text hat).bind ?_
  rw [TagName.ofString_text_self]
  exact Reads.pure _ _

end

end TenderClient.Json.Reader
