import TenderClient.Proofs.Json.ScalarRead
/-!
# Identifiers from JSON values

A JSON value names an identifier in one of three shapes, tried in this order: an unsigned
64-bit integer, a signed one, a string. Whichever fits first is then checked: an unsigned
zero and a signed value that is not positive are refused as not positive, with their
value, and a string is read as a text is (`Ident.ofText`). A value of no shape (null, a
boolean, a number read as a double, an array, an object) is refused as matching none.

The reader classes numbers before this: a non-negative integer below `2^64` is unsigned, a
negative one from `-2^63` is signed, and every other number (a fraction, an exponent, `-0`,
an integer out of both ranges) is a double. So a non-negative integer never reaches the
signed shape, and the shapes do not overlap on any value.

The main statement is `identOf_classifies`, which also covers reading an identifier from a
signed 64-bit integer (`Ident.ofInt`): positive values are identifiers, the rest are not
positive.
-/

set_option autoImplicit false

namespace TenderClient

namespace Ident

/-- The value of an identifier, as a signed integer, names it. -/
theorem ofInt_val (i : Ident) : ofInt (i.val : Int) = .ok i := by
  have hpos : (0 : Int) < i.val := Int.ofNat_lt.mpr i.pos
  simp only [ofInt, Int.toNat_natCast, ofNat?_val_self, if_pos hpos]

/-- A signed value that is not positive is refused with that value. -/
theorem ofInt_of_nonpos {v : Int} (h : v ≤ 0) : ofInt v = .error (.notPositive v) := by
  have hzero : ofNat? v.toNat = none := by
    rw [ofNat?_eq_none_iff, Int.toNat_eq_zero.mpr h]
    omega
  simp only [ofInt, hzero]

/-- A positive signed value below `2^64` is the identifier of that value. -/
theorem ofInt_of_pos {v : Int} (h0 : 0 < v) (h1 : v < 2 ^ 64) :
    ∃ i : Ident, (i.val : Int) = v ∧ ofInt v = .ok i := by
  have hlt : v.toNat < Text.wordSize := by
    unfold Text.wordSize
    omega
  refine ⟨⟨v.toNat, by omega, hlt⟩, Int.toNat_of_nonneg h0.le, ?_⟩
  conv_lhs => rw [← Int.toNat_of_nonneg h0.le]
  exact ofInt_val ⟨v.toNat, by omega, hlt⟩

end Ident

namespace Json.Reader

open Decode

/-! ## Each shape of a value -/

/-- An unsigned zero is not positive. -/
theorem identOf_zero : identOf (.number (.nat 0)) = .error (.ident (.notPositive 0)) := by
  have hzero : Ident.ofNat? 0 = none := (Ident.ofNat?_eq_none_iff 0).mpr (by omega)
  simp only [identOf, idForm?, Ident.ofForm, hzero]
  rfl

/-- A signed integer is read as `Ident.ofInt` reads it. -/
theorem identOf_neg (v : Int) :
    identOf (.number (.neg v)) = (Ident.ofInt v).mapError Problem.ident := rfl

/-- A string is read as `Ident.ofText` reads a text. -/
theorem identOf_string (s : String) :
    identOf (.string s) = (Ident.ofText s).mapError Problem.ident := rfl

/-- A value of none of the three shapes matches none of them. -/
theorem identOf_of_no_shape {v : Json} (hn : ∀ n, v ≠ .number (.nat n))
    (hx : ∀ x, v ≠ .number (.neg x)) (hs : ∀ s, v ≠ .string s) :
    identOf v = .error .noIdShape := by
  -- only the three shapes have a form; every other constructor falls through
  have hform : idForm? v = none := by
    cases v with
    | number n =>
      cases n with
      | nat n => exact absurd rfl (hn n)
      | neg x => exact absurd rfl (hx x)
      | float f => rfl
    | string s => exact absurd rfl (hs s)
    | null | bool _ | array _ | object _ => rfl
  simp only [identOf, hform]

/-! ## Every value -/

/-- Reading an identifier from a JSON value, by the value's shape: an integer from `1` to
`2^64 - 1` is the identifier of that value; zero and a negative integer from `-2^63` are
not positive, with their value; a string is read as the text `Ident.ofText` reads, with the
same error; every other value matches no shape, reported as such. Reading from a signed
64-bit integer gives the identifier of a positive value and refuses any other value as not
positive. -/
theorem identOf_classifies :
    (∀ n : Nat, 1 ≤ n → n ≤ 2 ^ 64 - 1 →
      ∃ i : Ident, i.val = n ∧ identOf (.number (.nat n)) = .ok i) ∧
    identOf (.number (.nat 0)) = .error (.ident (.notPositive 0)) ∧
    (∀ v : Int, -2 ^ 63 ≤ v → v < 0 →
      identOf (.number (.neg v)) = .error (.ident (.notPositive v))) ∧
    (∀ s : String, identOf (.string s) = (Ident.ofText s).mapError Problem.ident) ∧
    (∀ v : Json, (∀ n, v ≠ .number (.nat n)) → (∀ x, v ≠ .number (.neg x)) →
      (∀ s, v ≠ .string s) → identOf v = .error .noIdShape) ∧
    (∀ w : Wording, Problem.noIdShape.text w =
      "data did not match any variant of untagged enum RawId" ∧
      ∀ e : IdError, (Problem.ident e).text w = e.message) ∧
    (∀ v : Int, v < 2 ^ 63 →
      (0 < v → ∃ i : Ident, (i.val : Int) = v ∧ Ident.ofInt v = .ok i) ∧
      (v ≤ 0 → Ident.ofInt v = .error (.notPositive v))) := by
  refine ⟨?_, identOf_zero, ?_, identOf_string, fun v => identOf_of_no_shape,
    fun w => ⟨rfl, fun e => rfl⟩, ?_⟩
  · intro n h1 h2
    have hlt : n < Text.wordSize := by
      unfold Text.wordSize
      omega
    exact ⟨⟨n, h1, hlt⟩, rfl, identOf_nat ⟨n, h1, hlt⟩⟩
  · intro v _ hneg
    rw [identOf_neg, Ident.ofInt_of_nonpos hneg.le]
    rfl
  · intro v hv
    exact ⟨fun h0 => Ident.ofInt_of_pos h0 (by omega), Ident.ofInt_of_nonpos⟩

/-- At the ends of the ranges: the largest unsigned integer is an identifier, the smallest
signed one is not positive, and the signed `5` is the identifier `5`. -/
theorem identOf_classifies_at_bounds :
    (∃ i : Ident, i.val = 2 ^ 64 - 1 ∧ identOf (.number (.nat (2 ^ 64 - 1))) = .ok i) ∧
    identOf (.number (.neg (-2 ^ 63))) = .error (.ident (.notPositive (-2 ^ 63))) ∧
    ∃ i : Ident, (i.val : Int) = 5 ∧ Ident.ofInt 5 = .ok i :=
  ⟨identOf_classifies.1 _ (by decide) (by decide),
    identOf_classifies.2.2.1 _ (by decide) (by decide),
    (identOf_classifies.2.2.2.2.2.2 5 (by decide)).1 (by decide)⟩

end Json.Reader

end TenderClient
