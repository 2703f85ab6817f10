/-!
# Splitting at a character

`Text.splitFirst?` and `Text.splitLast?` split a text at the first and at the last occurrence
of a character, which is in neither part; `Text.afterLast` is what follows the last occurrence,
and the whole text when there is none.
-/

namespace LayeredConfig.Text

/-- What stands before and after the first occurrence of a character. -/
def splitFirst? (c : Char) : List Char → Option (List Char × List Char)
  | [] => none
  | x :: xs =>
    if x = c then some ([], xs) else (splitFirst? c xs).map fun parts => (x :: parts.1, parts.2)

/-- What stands before and after the last occurrence of a character. -/
def splitLast? (c : Char) : List Char → Option (List Char × List Char)
  | [] => none
  | x :: xs =>
    match splitLast? c xs with
    | some parts => some (x :: parts.1, parts.2)
    | none => if x = c then some ([], xs) else none

/-- What follows the last occurrence of a character, or the whole text. -/
def afterLast (c : Char) (text : List Char) : List Char :=
  match splitLast? c text with
  | some parts => parts.2
  | none => text

theorem splitFirst?_eq_none_iff {c : Char} {text : List Char} :
  splitFirst? c text = none ↔ c ∉ text
  := by
  induction text with
  | nil => simp [splitFirst?]
  | cons x xs ih =>
    by_cases h : x = c
    · simp [splitFirst?, h]
    · simp [splitFirst?, h, ih, Ne.symm h]

theorem splitFirst?_append {c : Char} {before : List Char} (h : c ∉ before)
    (after : List Char) :
  splitFirst? c (before ++ c :: after) = some (before, after)
  := by
  induction before with
  | nil => simp [splitFirst?]
  | cons x xs ih =>
    simp only [List.mem_cons, not_or] at h
    simp [splitFirst?, Ne.symm h.1, ih h.2]

theorem splitFirst?_eq_some_iff {c : Char} {text before after : List Char} :
  splitFirst? c text = some (before, after) ↔ text = before ++ c :: after ∧ c ∉ before
  := by
  constructor
  · intro h
    induction text generalizing before with
    | nil => simp [splitFirst?] at h
    | cons x xs ih =>
      rw [splitFirst?] at h
      split at h
      · next hx => simp_all
      · next hx =>
        obtain ⟨⟨b, a⟩, hp, heq⟩ := Option.map_eq_some_iff.1 h
        simp only [Prod.mk.injEq] at heq
        obtain ⟨rfl, rfl⟩ := heq
        obtain ⟨rfl, hb⟩ := ih hp
        exact ⟨rfl, by simp [hb, Ne.symm hx]⟩
  · rintro ⟨rfl, h⟩
    exact splitFirst?_append h after

theorem splitLast?_eq_none_iff {c : Char} {text : List Char} :
  splitLast? c text = none ↔ c ∉ text
  := by
  induction text with
  | nil => simp [splitLast?]
  | cons x xs ih =>
    rw [splitLast?]
    split
    · next parts h =>
      have : c ∈ xs := by
        apply Decidable.byContradiction
        intro hc
        simp [ih.2 hc] at h
      simp [this]
    · next h =>
      have := ih.1 h
      by_cases hx : x = c
      · simp [hx]
      · simp [hx, Ne.symm hx, this]

theorem splitLast?_append {c : Char} (before : List Char) {after : List Char} (h : c ∉ after) :
  splitLast? c (before ++ c :: after) = some (before, after)
  := by
  induction before with
  | nil => simp [splitLast?, splitLast?_eq_none_iff.2 h]
  | cons x xs ih => simp [splitLast?, ih]

theorem splitLast?_eq_some_iff {c : Char} {text before after : List Char} :
  splitLast? c text = some (before, after) ↔ text = before ++ c :: after ∧ c ∉ after
  := by
  constructor
  · intro h
    induction text generalizing before with
    | nil => simp [splitLast?] at h
    | cons x xs ih =>
      rw [splitLast?] at h
      split at h
      · next parts hp =>
        obtain ⟨b, a⟩ := parts
        simp only [Option.some.injEq, Prod.mk.injEq] at h
        obtain ⟨rfl, rfl⟩ := h
        obtain ⟨rfl, ha⟩ := ih hp
        exact ⟨rfl, ha⟩
      · next hp =>
        split at h
        · next hx =>
          simp only [Option.some.injEq, Prod.mk.injEq] at h
          obtain ⟨rfl, rfl⟩ := h
          exact ⟨by rw [hx, List.nil_append], splitLast?_eq_none_iff.1 hp⟩
        · contradiction
  · rintro ⟨rfl, h⟩
    exact splitLast?_append before h

/-- A text with a character has a last occurrence of it. -/
theorem exists_append_of_mem {c : Char} {text : List Char} (h : c ∈ text) :
  ∃ before after, text = before ++ c :: after ∧ c ∉ after
  := by
  cases hsplit : splitLast? c text with
  | none => exact absurd h (splitLast?_eq_none_iff.1 hsplit)
  | some parts =>
    obtain ⟨before, after⟩ := parts
    exact ⟨before, after, splitLast?_eq_some_iff.1 hsplit⟩

theorem afterLast_append {c : Char} (before : List Char) {after : List Char} (h : c ∉ after) :
  afterLast c (before ++ c :: after) = after
  := by
  simp [afterLast, splitLast?_append before h]

theorem afterLast_of_not_mem {c : Char} {text : List Char} (h : c ∉ text) :
  afterLast c text = text
  := by
  simp [afterLast, splitLast?_eq_none_iff.2 h]

/-- What follows the last occurrence is the part without the character that ends the text and that
only such an occurrence can precede. -/
theorem afterLast_eq_iff {c : Char} {text after : List Char} :
  afterLast c text = after ↔ c ∉ after ∧ (text = after ∨ ∃ before, text = before ++ c :: after)
  := by
  constructor
  · rintro rfl
    cases h : splitLast? c text with
    | none =>
      have hc := splitLast?_eq_none_iff.1 h
      rw [afterLast_of_not_mem hc]
      exact ⟨hc, .inl rfl⟩
    | some parts =>
      obtain ⟨before, after⟩ := parts
      obtain ⟨rfl, hc⟩ := splitLast?_eq_some_iff.1 h
      rw [afterLast_append before hc]
      exact ⟨hc, .inr ⟨before, rfl⟩⟩
  · rintro ⟨hc, rfl | ⟨before, rfl⟩⟩
    · exact afterLast_of_not_mem hc
    · exact afterLast_append before hc

end LayeredConfig.Text
