import Mathlib.Data.Nat.Digits.Defs
import Mathlib.Data.List.Forall2
import Mathlib.Tactic.IntervalCases
import Mathlib.Tactic.Ring
import WasmBoogie.Lower.Literal

namespace WasmBoogie.Lower

open WasmBoogie.Boogie

/-- A character that writes the digit `v` of a base: the character that `Nat.digitChar` prints
for `v`, or its upper-case form. -/
def DigitText (base : Nat) (c : Char) (v : Nat) : Prop :=
  v < base ∧ (c = Nat.digitChar v ∨ c = (Nat.digitChar v).toUpper)

instance (base : Nat) (c : Char) (v : Nat) : Decidable (DigitText base c v) :=
  inferInstanceAs (Decidable (_ ∧ _))

/-- The base of a literal's digits: sixteen after `0x`, ten otherwise. -/
def radix : Bool → Nat
  | true => 16
  | false => 10

theorem digitValue_digitChar {base v : Nat} (hv : v < 16) :
    digitValue base (Nat.digitChar v) = if v < base then some v else none := by
  interval_cases v <;> simp [digitValue, Nat.digitChar, Option.filter]

theorem digitValue_digitChar_toUpper {base v : Nat} (hv : v < 16) :
    digitValue base (Nat.digitChar v).toUpper = if v < base then some v else none := by
  interval_cases v <;> simp [digitValue, Nat.digitChar, Option.filter]

/-- Reading digits left to right, each step multiplying by the base, gives the number whose
digits they are, most significant first. -/
theorem foldl_digits (base : Nat) (vs : List Nat) :
    vs.foldl (fun acc v => acc * base + v) 0 = Nat.ofDigits base vs.reverse := by
  rw [Nat.ofDigits_eq_foldr, List.foldr_reverse]
  congr 1
  funext acc v
  push_cast
  ring

section Digits

variable {base : Nat} (small : base ≤ 16)
include small

theorem digitValue_of_digitText {c : Char} {v : Nat} (h : DigitText base c v) :
    digitValue base c = some v := by
  obtain ⟨below, lower | upper⟩ := h
  · rw [lower, digitValue_digitChar (by omega), if_pos below]
  · rw [upper, digitValue_digitChar_toUpper (by omega), if_pos below]

/-- A character that is no digit of the base is not among written digits. -/
theorem not_mem_of_digitText {cs : List Char} {vs : List Nat} (h : List.Forall₂ (DigitText base) cs vs)
    {d : Char} (other : digitValue base d = none) : d ∉ cs := by
  induction h with
  | nil => exact List.not_mem_nil
  | cons head _ ih =>
    rintro (_ | ⟨_, later⟩)
    · rw [digitValue_of_digitText small head] at other
      cases other
    · exact ih later

theorem foldlM_digitValue {cs : List Char} {vs : List Nat} (h : List.Forall₂ (DigitText base) cs vs)
    (acc : Nat) :
    cs.foldlM (fun acc c => (digitValue base c).map (acc * base + ·)) acc =
      some (vs.foldl (fun acc v => acc * base + v) acc) := by
  induction h generalizing acc with
  | nil => rfl
  | cons head _ ih => simp [List.foldlM_cons, digitValue_of_digitText small head, ih]

/-- Written digits of a number below 2^128 read as that number. -/
theorem readU128_digits {cs : List Char} {vs : List Nat} (h : List.Forall₂ (DigitText base) cs vs)
    (nonempty : vs ≠ []) (fits : Nat.ofDigits base vs.reverse < 2 ^ 128) :
    readU128 base (String.ofList cs) = some (Nat.ofDigits base vs.reverse) := by
  have unsigned : '+' ∉ cs := not_mem_of_digitText small h (by simp [digitValue])
  cases h with
  | nil => contradiction
  | @cons c v cs vs head tail =>
    unfold readU128
    simp only [String.toList_ofList]
    split
    · rename_i plus
      obtain ⟨rfl, -⟩ := List.cons.inj plus
      exact absurd List.mem_cons_self unsigned
    · rw [foldlM_digitValue small (.cons head tail), foldl_digits]
      simpa using fits

end Digits

/-- The decimal real of an integer is the numeral of the signed integer, then `.0`; zero has no
minus sign. -/
theorem integerReal_eq (negative : Bool) (m : Nat) :
    integerReal negative m = .decimal (toString (if negative then -(m : ℤ) else m) ++ ".0") := by
  cases negative
  · simp [integerReal]
    rfl
  · cases m with
    | zero => rfl
    | succ k =>
      have negated : -((k + 1 : ℕ) : ℤ) = Int.negSucc k := rfl
      simp only [integerReal, if_true, negated]
      rfl

/-- An integer literal of magnitude below 2^128, with a sign or none, decimal or after `0x`, and
with underscores anywhere among its digits, has as value the decimal numeral of the exact signed
integer followed by `.0`. A float type reads such a literal the same way when it is
hexadecimal. -/
theorem literalValue_integer (ty : NumType) (sign : List Char) (hex : Bool) (body : List Char)
    (vs : List Nat) (signed : sign = [] ∨ sign = ['-'] ∨ sign = ['+'])
    (typed : ty.isFloat = true → hex = true)
    (digits : List.Forall₂ (DigitText (radix hex)) (body.filter (· != '_')) vs)
    (nonempty : vs ≠ []) (fits : Nat.ofDigits (radix hex) vs.reverse < 2 ^ 128) :
    literalValue ty (String.ofList (sign ++ (if hex then ['0', 'x'] else []) ++ body)) =
      some (.decimal (toString (if sign = ['-'] then -((Nat.ofDigits (radix hex) vs.reverse : ℕ) : ℤ)
        else ((Nat.ofDigits (radix hex) vs.reverse : ℕ) : ℤ)) ++ ".0")) := by
  have small : radix hex ≤ 16 := by cases hex <;> decide
  have read := readU128_digits small digits nonempty fits
  have cleaned : (sign ++ (if hex then ['0', 'x'] else []) ++ body).filter (· != '_') =
      sign ++ (if hex then ['0', 'x'] else []) ++ body.filter (· != '_') := by
    rcases signed with rfl | rfl | rfl <;> cases hex <;> simp
  generalize body.filter (· != '_') = ds at *
  have absent : ∀ d, digitValue (radix hex) d = none → d ∉ ds := fun _ => not_mem_of_digitText small digits
  have unsigned : ∀ r, ds ≠ '-' :: r ∧ ds ≠ '+' :: r ∧ ds ≠ '0' :: 'x' :: r := by
    intro r
    refine ⟨?_, ?_, ?_⟩ <;> rintro rfl
    · exact absent '-' (by simp [digitValue]) List.mem_cons_self
    · exact absent '+' (by simp [digitValue]) List.mem_cons_self
    · exact absent 'x' (by simp [digitValue]) (List.mem_cons_of_mem _ List.mem_cons_self)
  have integral : (ds.any fun c => c == '.' || c == 'p' || c == 'P') = false := by
    refine List.any_eq_false.2 fun c mem => ?_
    simp only [Bool.or_eq_true, beq_iff_eq]
    rintro ((rfl | rfl) | rfl) <;> exact absent _ (by simp [digitValue]) mem
  unfold literalValue
  simp only [String.toList_ofList, cleaned]
  rcases signed with rfl | rfl | rfl <;> cases hex <;>
    simp only [radix, Bool.false_eq_true, imp_false, Bool.not_eq_true] at read typed ⊢ <;>
    simp [unsigned, integral, read, integerReal_eq, typed]

/-- `2^53 + 1`, which no binary64 value holds, keeps its last digit. -/
theorem wide_decimal_literal_exact :
    literalValue .i64 "9_007_199_254_740_993" = some (.decimal "9007199254740993.0") := by
  have exact := literalValue_integer .i64 [] false "9_007_199_254_740_993".toList
    [9, 0, 0, 7, 1, 9, 9, 2, 5, 4, 7, 4, 0, 9, 9, 3] (.inl rfl) (fun float => absurd float (by decide))
    (by decide) (by simp) (by decide)
  have numeral : (9007199254740993 : ℤ).repr = "9007199254740993" := by decide
  simpa [radix, Nat.ofDigits, numeral] using exact

end WasmBoogie.Lower
