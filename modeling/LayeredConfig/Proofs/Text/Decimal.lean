import LayeredConfig.Text.Digits

/-!
# Decimal numerals

`Text.Denotes` says that a text is a nonempty run of ASCII digits for a number, leading zeros
allowed.  These are the texts that `Text.decimal?` reads (`decimal?_eq_some_iff`), and the usual
way to write a number is one of them (`denotes_toString`).
-/

namespace LayeredConfig.Text

/-- A text is a run of decimal digits for a number. -/
structure Denotes (digits : List Char) (n : Nat) : Prop where
  ne_nil : digits ≠ []
  isDigit : ∀ c ∈ digits, c.isDigit = true
  value : Nat.ofDigitChars 10 digits 0 = n

theorem continueDecimal?_eq_some_iff {before n : Nat} {digits : List Char} :
  continueDecimal? before digits = some n
    ↔ (∀ c ∈ digits, c.isDigit = true) ∧ Nat.ofDigitChars 10 digits before = n
  := by
  induction digits generalizing before with
  | nil => simp [continueDecimal?]
  | cons c digits ih =>
    rw [continueDecimal?, Nat.ofDigitChars_cons, List.forall_mem_cons]
    cases hc : c.isDigit with
    | false => simp [digit?, hc]
    | true =>
      have hdigit : digit? c = some (c.toNat - '0'.toNat) := if_pos hc
      rw [hdigit, Option.bind_some, ih]
      simp

/-- What is read is what the digits denote. -/
theorem decimal?_eq_some_iff {digits : List Char} {n : Nat} :
  decimal? digits = some n ↔ Denotes digits n
  := by
  constructor
  · intro h
    cases digits with
    | nil => cases h
    | cons c rest =>
      obtain ⟨hdigits, hvalue⟩ := continueDecimal?_eq_some_iff.1 h
      exact ⟨List.cons_ne_nil c rest, hdigits, hvalue⟩
  · rintro ⟨hne, hdigits, hvalue⟩
    cases digits with
    | nil => cases hne rfl
    | cons c rest => apply continueDecimal?_eq_some_iff.2 ⟨hdigits, hvalue⟩

/-- A number is denoted by the digits that it is written with. -/
theorem denotes_toString (n : Nat) :
  Denotes (toString n).toList n
  where
  ne_nil := by
    rw [Nat.toString_eq_repr, Nat.toList_repr]
    apply Nat.toDigits_ne_nil
  isDigit c hc := by
    rw [Nat.toString_eq_repr, Nat.toList_repr] at hc
    apply Nat.isDigit_of_mem_toDigits (by decide) (by decide) hc
  value := by
    rw [Nat.toString_eq_repr, Nat.toList_repr]
    apply Nat.ofDigitChars_toDigits (by decide) (by decide)

/-- A number is read as an unsigned word if it fits one. -/
theorem ofNat_of_lt_eq_some_iff {n : Nat} {word : UInt64} :
  (if n < UInt64.size then some (UInt64.ofNat n) else none) = some word ↔ n = word.toNat
  := by
  split
  · next h =>
    rw [Option.some.injEq, ← UInt64.toNat_inj, UInt64.toNat_ofNat_of_lt' h]
  · next h =>
    have := word.toNat_lt_size
    constructor
    · rintro ⟨⟩
    · rintro rfl
      exact absurd this h

/-- A run of digits is read as an unsigned word if it denotes one. -/
theorem word_of_decimal?_eq_some_iff {digits : List Char} {word : UInt64} :
  ((decimal? digits).bind fun n => if n < UInt64.size then some (UInt64.ofNat n) else none) = some word
    ↔ Denotes digits word.toNat
  := by
  simp only [Option.bind_eq_some_iff, ofNat_of_lt_eq_some_iff, decimal?_eq_some_iff,
    exists_eq_right]

end LayeredConfig.Text
