import Endorsement.Text.Decimal

/-!
# Texts that are unsigned numbers

What the unsigned numbers in settings look like, and that these texts are the ones
that are read, with the values of their digits.

* `IsUnsigned`: the texts of unsigned numbers, and their values;
* `unsigned?_eq_some_iff`, `unsigned?_eq_none_iff`: which texts are read;
* `isDigit_of_mem_toString`: how numbers are written.
-/

namespace Endorsement.Text

/-- A text is an unsigned number: one or more decimal digits, the most significant
    first, with a plus sign before them or none. -/
def IsUnsigned (text : String) (value : Nat) : Prop :=
  ∃ digits : List Char, digits ≠ [] ∧ (∀ c ∈ digits, c.isDigit = true) ∧
    Nat.ofDigitChars 10 digits 0 = value ∧ (text.toList = digits ∨ text.toList = '+' :: digits)

theorem digitsFrom_eq_some_iff {value result : Nat} {cs : List Char} :
    digitsFrom value cs = some result ↔
      (∀ c ∈ cs, c.isDigit = true) ∧ Nat.ofDigitChars 10 cs value = result := by
  induction cs generalizing value with
  | nil => simp [digitsFrom, Nat.ofDigitChars_eq_foldl]
  | cons c rest ih =>
    rw [digitsFrom, List.forall_mem_cons]
    by_cases hc : c.isDigit = true
    · rw [if_pos hc, ih, and_iff_right hc, Nat.ofDigitChars_eq_foldl, Nat.ofDigitChars_eq_foldl,
        List.foldl_cons, Nat.mul_comm value]
    · simp [hc]

theorem digits?_eq_some_iff {value : Nat} {cs : List Char} :
    digits? cs = some value ↔
      cs ≠ [] ∧ (∀ c ∈ cs, c.isDigit = true) ∧ Nat.ofDigitChars 10 cs 0 = value := by
  cases cs with
  | nil => simp [digits?]
  | cons c rest =>
    change digitsFrom 0 (c :: rest) = some value ↔ _
    rw [digitsFrom_eq_some_iff, and_iff_right (List.cons_ne_nil c rest)]

variable {limit value : Nat} {text : String}

/-- A number is read off a text that is one, up to the limit. -/
theorem unsigned?_eq_some_iff :
    unsigned? limit text = some value ↔ IsUnsigned text value ∧ value ≤ limit := by
  rw [unsigned?, Option.filter_eq_some_iff, decide_eq_true_eq]
  refine and_congr_left fun _ => ?_
  split
  · rename_i rest htext
    rw [digits?_eq_some_iff, IsUnsigned, htext]
    constructor
    · rintro ⟨hne, hdigits, hsum⟩
      exact ⟨rest, hne, hdigits, hsum, .inr rfl⟩
    · -- The plus sign is no digit.
      rintro ⟨digits, hne, hdigits, hsum, rfl | h⟩
      · exact absurd (hdigits '+' List.mem_cons_self) (by decide)
      · obtain rfl := (List.cons.inj h).2
        exact ⟨hne, hdigits, hsum⟩
  · rename_i cs hsign
    rw [digits?_eq_some_iff, IsUnsigned]
    constructor
    · rintro ⟨hne, hdigits, hsum⟩
      exact ⟨_, hne, hdigits, hsum, .inl rfl⟩
    · rintro ⟨digits, hne, hdigits, hsum, rfl | h⟩
      · exact ⟨hne, hdigits, hsum⟩
      · exact absurd h (hsign digits)

theorem unsigned?_eq_none_iff :
    unsigned? limit text = none ↔ ∀ value, IsUnsigned text value → limit < value := by
  rw [Option.eq_none_iff_forall_ne_some]
  refine forall_congr' fun value => ?_
  rw [Ne, unsigned?_eq_some_iff, not_and, Nat.not_le]

/-- A text has one value at most. -/
theorem IsUnsigned.unique {value' : Nat} (h : IsUnsigned text value) (h' : IsUnsigned text value') :
    value = value' := by
  have hread := unsigned?_eq_some_iff.2 ⟨h, Nat.le_max_left value value'⟩
  have hread' := unsigned?_eq_some_iff.2 ⟨h', Nat.le_max_right value value'⟩
  exact Option.some.inj (hread.symm.trans hread')

/-- A number is written with digits alone. -/
theorem isDigit_of_mem_toString {n : Nat} {c : Char} (h : c ∈ (toString n).toList) :
    c.isDigit = true := by
  rw [Nat.toString_eq_repr, Nat.repr_eq_ofList_toDigits, String.toList_ofList] at h
  exact Nat.isDigit_of_mem_toDigits (by decide) (by decide) h

end Endorsement.Text
