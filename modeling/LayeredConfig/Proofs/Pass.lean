import Mathlib.Tactic.Use

/-!
# Passes that can fail

A pass goes through a list step by step, and each step can fail.  It fails with the first step that
fails (`List.foldlM_eq_error_iff`).  If every step leaves in some place what it writes there, or
else what was there before, then the pass leaves there what the last step that writes there wrote
(`List.read_of_foldlM`).
-/

section

variable {ε α β γ : Type}

/-! ### Results -/

/-- Applying a function to a result keeps its failure and adds none. -/
theorem Except.map_eq_error_iff {f : α → β} {x : Except ε α} {e : ε} :
  x.map f = .error e ↔ x = .error e
  := by
  cases x with
  | error e' => simp [Except.map]
  | ok a => simp [Except.map]

/-- Applying a function to a result keeps its success. -/
theorem Except.map_eq_ok_iff {f : α → β} {x : Except ε α} {b : β} :
  x.map f = .ok b ↔ ∃ a, x = .ok a ∧ f a = b
  := by
  cases x with
  | error e => simp [Except.map]
  | ok a => simp [Except.map]

/-- Two steps fail where the first one fails, or else where the second one does. -/
theorem Except.bind_eq_error_iff {x : Except ε α} {f : α → Except ε β} {e : ε} :
  x >>= f = .error e ↔ x = .error e ∨ ∃ a, x = .ok a ∧ f a = .error e
  := by
  cases x with
  | error e' => simp [bind, Except.bind]
  | ok a => simp [bind, Except.bind]

/-- Two steps succeed where both of them do. -/
theorem Except.bind_eq_ok_iff {x : Except ε α} {f : α → Except ε β} {b : β} :
  x >>= f = .ok b ↔ ∃ a, x = .ok a ∧ f a = .ok b
  := by
  cases x with
  | error e => simp [bind, Except.bind]
  | ok a => simp [bind, Except.bind]

/-! ### Passes over a list -/

/-- A pass over a list fails with the first step that fails; the later steps play no part. -/
theorem List.foldlM_eq_error_iff {f : β → α → Except ε β} {l : List α} {b : β} {e : ε} :
  l.foldlM f b = .error e
    ↔ ∃ lower a upper b', l = lower ++ a :: upper ∧ lower.foldlM f b = .ok b' ∧ f b' a = .error e
  := by
  constructor
  · intro h
    induction l generalizing b with
    | nil => cases h
    | cons a l ih =>
      rw [List.foldlM_cons] at h
      rcases Except.bind_eq_error_iff.1 h with hfirst | ⟨next, hnext, hrest⟩
      · use [], a, l, b, rfl, rfl, hfirst
      · obtain ⟨lower, failing, upper, b', rfl, hlower, hfailing⟩ := ih hrest
        use a :: lower, failing, upper, b', rfl
        rw [List.foldlM_cons]
        exact ⟨Except.bind_eq_ok_iff.2 ⟨next, hnext, hlower⟩, hfailing⟩
  · rintro ⟨lower, a, upper, b', rfl, hlower, hfailing⟩
    rw [List.foldlM_append]
    apply Except.bind_eq_error_iff.2 (.inr ⟨b', hlower, ?_⟩)
    rw [List.foldlM_cons]
    apply Except.bind_eq_error_iff.2 (.inl hfailing)

/-- The last of the values that a list gives is that of an element with none of them behind it. -/
theorem List.getLast?_filterMap_eq_some_iff {f : α → Option β} {l : List α} {b : β} :
  (l.filterMap f).getLast? = some b
    ↔ ∃ lower a upper, l = lower ++ a :: upper ∧ f a = some b ∧ ∀ other ∈ upper, f other = none
  := by
  rw [List.getLast?_filterMap, List.findSome?_eq_some_iff]
  constructor
  · rintro ⟨upper, a, lower, hsplit, ha, hupper⟩
    use lower.reverse, a, upper.reverse
    refine ⟨?_, ha, fun other ho => hupper other (List.mem_reverse.1 ho)⟩
    rw [← List.reverse_reverse l, hsplit]
    simp
  · rintro ⟨lower, a, upper, rfl, ha, hupper⟩
    use upper.reverse, a, lower.reverse
    refine ⟨by simp, ha, fun other ho => hupper other (List.mem_reverse.1 ho)⟩

/-- Let each step of a pass leave in a place what it writes there, or else what was there.  Then
the pass leaves in the place what the last step that writes there wrote. -/
theorem List.read_of_foldlM {f : β → α → Except ε β} {read : β → Option γ} {write : α → Option γ}
    {l : List α} {b result : β}
    (hstep : ∀ a ∈ l, ∀ b next, f b a = .ok next → read next = (write a).or (read b))
    (h : l.foldlM f b = .ok result) :
  read result = (l.filterMap write).getLast?.or (read b)
  := by
  induction l generalizing b with
  | nil =>
    cases h
    rfl
  | cons a l ih =>
    rw [List.foldlM_cons] at h
    obtain ⟨next, hnext, hrest⟩ := Except.bind_eq_ok_iff.1 h
    rw [ih (fun a ha => hstep a (List.mem_cons_of_mem _ ha)) hrest,
      hstep a List.mem_cons_self b next hnext, ← Option.or_assoc]
    congr 1
    cases hwrite : write a with
    | none => rw [List.filterMap_cons_none hwrite, Option.or_none]
    | some value => rw [List.filterMap_cons_some hwrite, List.getLast?_cons, Option.or_some]

end
