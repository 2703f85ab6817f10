import LayeredConfig.Nvr
import LayeredConfig.Proofs.Text.Decimal
import Mathlib.Logic.Basic

/-!
# Splitting the text of a build

What each step of reading a build splits off, stated from the parts: the epoch outside of the
version (`splitOuterEpoch?_eq_some_iff`), the three parts (`splitParts?_eq_some_iff`), the epoch
before the version (`splitInnerEpoch_nil_append`) and the number of the epoch
(`epochNumber?_eq_some_iff`).  A text is read if all of them succeed (`read_eq_ok_iff_of_split`).
-/

namespace LayeredConfig.Nvr

open Text

/-- What a text leaves of a build when an epoch outside of the version is taken off.  There is no
colon, or the only one has no dash behind it, or none before it, or dashes on both sides. -/
inductive LeavesBuild : (text build epoch : List Char) → Prop
  | absent {text} (h : ':' ∉ text) : LeavesBuild text text []
  | back {build epoch} (hb : ':' ∉ build) (he : ':' ∉ epoch) (hdash : '-' ∉ epoch) :
    LeavesBuild (build ++ ':' :: epoch) build epoch
  | front {epoch build} (he : ':' ∉ epoch) (hb : ':' ∉ build) (hdash : '-' ∉ epoch)
    (hbuild : '-' ∈ build) : LeavesBuild (epoch ++ ':' :: build) build epoch
  | within {before after} (hb : ':' ∉ before) (ha : ':' ∉ after) (hbefore : '-' ∈ before)
    (hafter : '-' ∈ after) : LeavesBuild (before ++ ':' :: after) (before ++ ':' :: after) []

theorem splitOuterEpoch?_of_split {text before after : List Char}
    (h : splitFirst? ':' text = some (before, after)) :
  splitOuterEpoch? text
    = if ':' ∈ after then none
      else if '-' ∉ after then some (before, after)
      else if '-' ∉ before then some (after, before)
      else some (text, [])
  := by
  rw [splitOuterEpoch?, h]

theorem splitOuterEpoch?_eq_some_iff {text build epoch : List Char} :
  splitOuterEpoch? text = some (build, epoch) ↔ LeavesBuild text build epoch
  := by
  constructor
  · intro h
    cases hsplit : splitFirst? ':' text with
    | none =>
      rw [splitOuterEpoch?, hsplit] at h
      cases h
      apply LeavesBuild.absent (splitFirst?_eq_none_iff.1 hsplit)
    | some parts =>
      obtain ⟨before, after⟩ := parts
      rw [splitOuterEpoch?_of_split hsplit] at h
      obtain ⟨rfl, hbefore⟩ := splitFirst?_eq_some_iff.1 hsplit
      split at h
      · cases h
      · next hafter =>
        split at h
        · next hdash =>
          cases h
          apply LeavesBuild.back hbefore hafter hdash
        · next hdash =>
          rw [not_not] at hdash
          split at h
          · next hfront =>
            cases h
            apply LeavesBuild.front hbefore hafter hfront hdash
          · next hfront =>
            cases h
            apply LeavesBuild.within hbefore hafter (not_not.1 hfront) hdash
  · intro h
    cases h with
    | absent h => rw [splitOuterEpoch?, splitFirst?_eq_none_iff.2 h]
    | back hb he hdash =>
      rw [splitOuterEpoch?_of_split (splitFirst?_append hb _), if_neg he, if_pos hdash]
    | front he hb hdash hbuild =>
      rw [splitOuterEpoch?_of_split (splitFirst?_append he _), if_neg hb, if_neg (not_not.2 hbuild),
        if_pos hdash]
    | within hb ha hbefore hafter =>
      rw [splitOuterEpoch?_of_split (splitFirst?_append hb _), if_neg ha, if_neg (not_not.2 hafter),
        if_neg (not_not.2 hbefore)]

theorem splitParts?_eq_some_iff {text name version release : List Char} :
  splitParts? text = some (name, version, release)
    ↔ text = name ++ '-' :: (version ++ '-' :: release) ∧ '-' ∉ version ∧ '-' ∉ release
  := by
  simp only [splitParts?, Option.bind_eq_some_iff, Option.map_eq_some_iff, Prod.exists,
    splitLast?_eq_some_iff, Prod.mk.injEq]
  constructor
  · rintro ⟨_, _, ⟨rfl, hrelease⟩, _, _, ⟨rfl, hversion⟩, rfl, rfl, rfl⟩
    exact ⟨by simp, hversion, hrelease⟩
  · rintro ⟨rfl, hversion, hrelease⟩
    exact ⟨name ++ '-' :: version, release, ⟨by simp, hrelease⟩, name, version, ⟨rfl, hversion⟩,
      rfl, rfl, rfl⟩

theorem splitInnerEpoch_of_not_mem {version : List Char} (h : ':' ∉ version) (epoch : List Char) :
  splitInnerEpoch epoch version = (epoch, version)
  := by
  rw [splitInnerEpoch, splitFirst?_eq_none_iff.2 h]
  cases epoch <;> rfl

theorem splitInnerEpoch_nil_append {epoch : List Char} (h : ':' ∉ epoch) (version : List Char) :
  splitInnerEpoch [] (epoch ++ ':' :: version) = (epoch, version)
  := by
  rw [splitInnerEpoch, splitFirst?_append h]
  rfl

/-! ### Epochs -/

/-- A text names an epoch: nothing names none, and a run of digits, perhaps behind a plus sign, the
number that it denotes. -/
inductive NamesEpoch : (epoch : List Char) → Option UInt64 → Prop
  | none : NamesEpoch [] none
  | number {digits} {n : UInt64} (h : Denotes digits n.toNat) : NamesEpoch digits (some n)
  | signed {digits} {n : UInt64} (h : Denotes digits n.toNat) : NamesEpoch ('+' :: digits) (some n)

theorem epochNumber?_eq_some_iff {epoch : List Char} {n : UInt64} :
  epochNumber? epoch = some n ↔ NamesEpoch epoch (some n)
  := by
  unfold epochNumber?
  rw [word_of_decimal?_eq_some_iff]
  split
  · next digits =>
    constructor
    · apply NamesEpoch.signed
    · intro h
      cases h with
      | number h => cases h.isDigit '+' List.mem_cons_self
      | signed h => apply h
  · next hplus =>
    constructor
    · apply NamesEpoch.number
    · intro h
      cases h with
      | number h => apply h
      | signed h => cases hplus _ rfl

theorem namesEpoch_nil_iff {n : Option UInt64} :
  NamesEpoch [] n ↔ n = none
  := by
  constructor
  · intro h
    cases h with
    | none => rfl
    | number h => cases h.ne_nil rfl
  · rintro rfl
    apply NamesEpoch.none

theorem namesEpoch_cons_iff {c : Char} {rest : List Char} {number : Option UInt64} :
  NamesEpoch (c :: rest) number ↔ ∃ n, number = some n ∧ epochNumber? (c :: rest) = some n
  := by
  simp only [epochNumber?_eq_some_iff]
  constructor
  · intro h
    cases number with
    | none => cases h
    | some n => exact ⟨n, rfl, h⟩
  · rintro ⟨n, rfl, h⟩
    apply h

/-- An epoch is written with digits and plus signs. -/
theorem NamesEpoch.isDigit_or_eq {epoch : List Char} {n : Option UInt64} (h : NamesEpoch epoch n)
    {c : Char} (hc : c ∈ epoch) :
  c.isDigit = true ∨ c = '+'
  := by
  cases h with
  | none => cases hc
  | number h => apply Or.inl (h.isDigit c hc)
  | signed h =>
    rcases List.mem_cons.1 hc with rfl | hc
    · apply Or.inr rfl
    · apply Or.inl (h.isDigit c hc)

/-- None of the characters that separate the parts of a build stands in an epoch. -/
theorem NamesEpoch.not_mem {epoch : List Char} {n : Option UInt64} (h : NamesEpoch epoch n)
    {c : Char} (hc : c ∈ ['-', ':', '/']) :
  c ∉ epoch
  := by
  intro hmem
  have hchar := h.isDigit_or_eq hmem
  simp only [List.mem_cons, List.not_mem_nil, or_false] at hc
  rcases hc with rfl | rfl | rfl
  · exact absurd hchar (by decide)
  · exact absurd hchar (by decide)
  · exact absurd hchar (by decide)

/-! ### Reading -/

/-- A text that can be split is read if its epoch can. -/
theorem read_eq_ok_iff_of_split {text build outer name version release epoch inner : List Char}
    (ho : splitOuterEpoch? (afterLast '/' text) = some (build, outer))
    (hp : splitParts? build = some (name, version, release))
    (hi : splitInnerEpoch outer version = (epoch, inner)) {nvr : Nvr} :
  read text = .ok nvr
    ↔ NamesEpoch epoch nvr.epoch ∧ nvr.name = .ofList name ∧ nvr.version = .ofList inner
      ∧ nvr.release = .ofList release
  := by
  obtain ⟨ownName, ownVersion, ownRelease, ownEpoch⟩ := nvr
  simp only [read, ho, hp, hi]
  cases epoch with
  | nil =>
    rw [namesEpoch_nil_iff]
    constructor
    · intro h
      cases h
      exact ⟨rfl, rfl, rfl, rfl⟩
    · rintro ⟨rfl, rfl, rfl, rfl⟩
      rfl
  | cons c rest =>
    rw [namesEpoch_cons_iff]
    cases hn : epochNumber? (c :: rest) with
    | none =>
      constructor
      · rintro ⟨⟩
      · rintro ⟨⟨n, -, ⟨⟩⟩, -⟩
    | some n =>
      constructor
      · intro h
        cases h
        exact ⟨⟨n, rfl, rfl⟩, rfl, rfl, rfl⟩
      · rintro ⟨⟨n, rfl, ⟨⟩⟩, rfl, rfl, rfl⟩
        rfl

end LayeredConfig.Nvr
