import LayeredConfig.Proofs.Layering.Failure

/-!
# Merging mappings name by name

Three keys of an overlay can stand for one name: the name itself, if it does not end in a
marker, and the name behind either marker.  They are met in this order, and entries for other
names do not touch the value under the name.  So the merged value under a name is what the
three make, one after the other, of the value below it (`layName_of_mergeEntries`), and a
merge succeeds if this succeeds for every name (`exists_mergeEntries`).
-/

namespace LayeredConfig

namespace MergeKey

/-! ### The keys for a name -/

/-- A plain key is written as its name. -/
theorem written_plain (name : String) :
  written ⟨name, .plain⟩ = name
  := by simp [written, MergeDirective.marker]

/-- A name without a marker is read as a plain key. -/
theorem parse_plain_iff {name : String} :
  parse name = ⟨name, .plain⟩ ↔ isMarked name = false
  := by
  constructor
  · intro h
    simp [isMarked, h]
  · intro h
    have hdirective : (parse name).directive = .plain := by simpa [isMarked] using h
    rw [parse] at hdirective ⊢
    split at hdirective
    · cases hdirective
    · cases hdirective
    · rfl

/-- A name comes before the name with a marker. -/
theorem lt_written_override (name : String) :
  name < written ⟨name, .override⟩
  := by
  rw [String.lt_iff]
  have h : name.toList ++ [] < name.toList ++ ['!'] := List.append_left_lt (by decide)
  simpa [written, MergeDirective.marker] using h

/-- The name with the overriding marker comes before the name with the other one. -/
theorem written_override_lt (name : String) :
  written ⟨name, .override⟩ < written ⟨name, .fallback⟩
  := by
  rw [String.lt_iff]
  have h : name.toList ++ ['!'] < name.toList ++ ['?'] := List.append_left_lt (by decide)
  simpa [written, MergeDirective.marker] using h

end MergeKey

namespace Tree

/-! ### One entry -/

/-- What a value of an overlay makes of the value below it. -/
def layValue (below : Option Tree) (value : Tree) : MergeDirective → Except Error (Option Tree)
  | .plain =>
    match below with
    | none => .ok (some value)
    | some existing => (value.mergeOver existing).map some
  | .override => .ok (some value)
  | .fallback => .ok (some (below.getD value))

/-- What an entry of an overlay makes of the value below the name that it stands for. -/
def layEntry (below : Option Tree) (e : String × Tree) : Except Error (Option Tree) :=
  layValue below e.2 (MergeKey.parse e.1).directive

/-- An entry either fails to be laid over the value below it, and the merge fails with it, or it
changes that value alone. -/
theorem mergeEntries_cons (e : String × Tree) (base : Entries Tree) :
  (∃ err, layEntry (base.find? (MergeKey.parse e.1).name) e = .error err
      ∧ ∀ rest, mergeEntries (e :: rest) base = .error err)
    ∨ ∃ next : Entries Tree,
      layEntry (base.find? (MergeKey.parse e.1).name) e
          = .ok (next.find? (MergeKey.parse e.1).name)
        ∧ (∀ other, (MergeKey.parse e.1).name ≠ other → next.find? other = base.find? other)
        ∧ ∀ rest, mergeEntries (e :: rest) base = mergeEntries rest next
  := by
  obtain ⟨raw, value⟩ := e
  generalize hkey : MergeKey.parse raw = key
  obtain ⟨name, directive⟩ := key
  have hself : ∀ v, (base.insert name v).find? name = some v :=
    fun v => Entries.find?_insert_self name v base
  have hother : ∀ v other, name ≠ other → (base.insert name v).find? other = base.find? other :=
    fun v _ hne => Entries.find?_insert_of_ne hne v base
  simp only [layEntry, mergeEntries, hkey]
  cases directive with
  | override =>
    right
    use base.insert name value
    refine ⟨?_, hother value, fun _ => rfl⟩
    rw [hself]
    rfl
  | fallback =>
    right
    cases hb : base.find? name with
    | none =>
      use base.insert name value
      refine ⟨?_, hother value, fun _ => rfl⟩
      rw [hself]
      rfl
    | some existing =>
      use base
      refine ⟨?_, fun _ _ => rfl, fun _ => rfl⟩
      rw [hb]
      rfl
  | plain =>
    cases hb : base.find? name with
    | none =>
      right
      use base.insert name value
      refine ⟨?_, hother value, fun _ => rfl⟩
      rw [hself]
      rfl
    | some existing =>
      cases hv : value.mergeOver existing with
      | error err =>
        left
        use err
        simp [layValue, hv, Except.map]
      | ok combined =>
        right
        use base.insert name combined
        refine ⟨?_, hother combined, ?_⟩
        · rw [hself]
          simp [layValue, hv, Except.map]
        · intro rest
          simp only [hv]

/-! ### All entries for one name -/

/-- The entries of an overlay that stand for a name. -/
def entriesFor (overlay : Entries Tree) (name : String) : Entries Tree :=
  overlay.filter fun e => (MergeKey.parse e.1).name == name

/-- A merge lays the entries for a name one after the other over the value below it. -/
theorem foldlM_entriesFor {overlay : List (String × Tree)} {base merged : Entries Tree}
    (h : mergeEntries overlay base = .ok merged) (name : String) :
  (entriesFor overlay name).foldlM layEntry (base.find? name) = .ok (merged.find? name)
  := by
  induction overlay generalizing base with
  | nil =>
    cases h
    rfl
  | cons e rest ih =>
    rcases mergeEntries_cons e base with ⟨err, -, hrest⟩ | ⟨next, hlay, hother, hrest⟩
    · cases (hrest rest).symm.trans h
    · have ih := ih ((hrest rest).symm.trans h)
      rw [entriesFor, List.filter_cons]
      by_cases hname : (MergeKey.parse e.1).name = name
      · subst hname
        rw [if_pos (beq_self_eq_true _), List.foldlM_cons, hlay]
        apply ih
      · rw [if_neg (by simpa using hname), ← hother name hname]
        apply ih

/-- A merge succeeds if under every name the entries for it can be laid over the value below. -/
theorem exists_mergeEntries {overlay : List (String × Tree)} {base : Entries Tree}
    (h : ∀ name, ∃ result, (entriesFor overlay name).foldlM layEntry (base.find? name) = .ok result) :
  ∃ merged, mergeEntries overlay base = .ok merged
  := by
  induction overlay generalizing base with
  | nil =>
    use base
    rfl
  | cons e rest ih =>
    have hfirst : ∀ name, (MergeKey.parse e.1).name = name →
        ∃ result, (layEntry (base.find? name) e).bind ((entriesFor rest name).foldlM layEntry)
          = .ok result := by
      rintro _ rfl
      obtain ⟨result, hr⟩ := h (MergeKey.parse e.1).name
      rw [entriesFor, List.filter_cons, if_pos (beq_self_eq_true _), List.foldlM_cons] at hr
      use result, hr
    rcases mergeEntries_cons e base with ⟨err, hlay, -⟩ | ⟨next, hlay, hother, hrest⟩
    · obtain ⟨result, hr⟩ := hfirst _ rfl
      rw [hlay] at hr
      cases hr
    · rw [hrest]
      apply ih
      intro name
      by_cases hname : (MergeKey.parse e.1).name = name
      · obtain ⟨result, hr⟩ := hfirst name hname
        subst hname
        rw [hlay] at hr
        use result, hr
      · rw [hother name hname]
        obtain ⟨result, hr⟩ := h name
        rw [entriesFor, List.filter_cons, if_neg (by simpa using hname)] at hr
        use result, hr

/-! ### The three entries for one name -/

/-- The value that an overlay has for a key. -/
def valueFor? (overlay : Entries Tree) (key : MergeKey) : Option Tree :=
  if MergeKey.parse key.written = key then overlay.find? key.written else none

/-- What a value of an overlay, if there is one, makes of the value below it. -/
def layOption (below value : Option Tree) (directive : MergeDirective) :
    Except Error (Option Tree) :=
  match value with
  | none => .ok below
  | some value => layValue below value directive

/-- What an overlay makes of the value below a name: its plain value comes first, then the one
that overrides, then the one that fills a gap. -/
def layName (overlay : Entries Tree) (name : String) (below : Option Tree) :
    Except Error (Option Tree) :=
  [MergeDirective.plain, .override, .fallback].foldlM
    (fun below directive => layOption below (valueFor? overlay ⟨name, directive⟩) directive) below

theorem mem_entriesFor_iff {overlay : Entries Tree} (ho : overlay.Ascending) {name : String}
    {e : String × Tree} :
  e ∈ entriesFor overlay name
    ↔ ∃ directive, valueFor? overlay ⟨name, directive⟩ = some e.2
      ∧ e.1 = MergeKey.written ⟨name, directive⟩
  := by
  obtain ⟨raw, value⟩ := e
  simp only [entriesFor, List.mem_filter, beq_iff_eq, valueFor?]
  constructor
  · rintro ⟨hm, rfl⟩
    use (MergeKey.parse raw).directive
    have hkey : MergeKey.written ⟨(MergeKey.parse raw).name, (MergeKey.parse raw).directive⟩ = raw :=
      MergeKey.written_parse raw
    rw [hkey, if_pos rfl, ho.find?_of_mem hm]
    exact ⟨rfl, rfl⟩
  · rintro ⟨directive, hv, rfl⟩
    split at hv
    · next hparse =>
      use Entries.mem_of_find? hv
      rw [hparse]
    · cases hv

/-- An ascending overlay has the entries for a name in the order of their directives. -/
theorem entriesFor_eq {overlay : Entries Tree} (ho : overlay.Ascending) (name : String) :
  entriesFor overlay name
    = [MergeDirective.plain, .override, .fallback].filterMap fun directive =>
        (valueFor? overlay ⟨name, directive⟩).map fun value =>
          (MergeKey.written ⟨name, directive⟩, value)
  := by
  have hright : Entries.Ascending ([MergeDirective.plain, .override, .fallback].filterMap
      fun directive => (valueFor? overlay ⟨name, directive⟩).map fun value =>
        (MergeKey.written ⟨name, directive⟩, value)) := by
    apply List.Pairwise.filterMap (R := fun d d' => MergeKey.written ⟨name, d⟩
      < MergeKey.written ⟨name, d'⟩)
    · intro d d' hlt e he e' he'
      obtain ⟨_, -, rfl⟩ := Option.map_eq_some_iff.1 he
      obtain ⟨_, -, rfl⟩ := Option.map_eq_some_iff.1 he'
      apply hlt
    · have hfirst := MergeKey.lt_written_override name
      have hsecond := MergeKey.written_override_lt name
      refine .cons ?_ (List.pairwise_pair.2 hsecond)
      rw [List.forall_mem_cons, List.forall_mem_singleton, MergeKey.written_plain]
      exact ⟨hfirst, String.lt_trans hfirst hsecond⟩
  have hleft : Entries.Ascending (entriesFor overlay name) := ho.filter _
  apply hleft.eq_of_mem_iff hright
  intro e
  rw [mem_entriesFor_iff ho, List.mem_filterMap]
  constructor
  · rintro ⟨directive, hv, hkey⟩
    use directive, by cases directive <;> simp
    rw [hv, ← hkey]
    rfl
  · rintro ⟨directive, -, he⟩
    obtain ⟨value, hv, rfl⟩ := Option.map_eq_some_iff.1 he
    use directive, hv

theorem parse_written_of_valueFor? {overlay : Entries Tree} {key : MergeKey} {value : Tree}
    (h : valueFor? overlay key = some value) :
  MergeKey.parse key.written = key
  := by
  rw [valueFor?] at h
  split at h
  · assumption
  · cases h

/-- The entries of an ascending overlay for a name make of a value what the overlay makes of
it. -/
theorem foldlM_entriesFor_eq {overlay : Entries Tree} (ho : overlay.Ascending) (name : String)
    (below : Option Tree) :
  (entriesFor overlay name).foldlM layEntry below = layName overlay name below
  := by
  rw [entriesFor_eq ho, List.foldlM_filterMap, layName]
  congr 1
  funext below directive
  cases hv : valueFor? overlay ⟨name, directive⟩ with
  | none => rfl
  | some value =>
    simp only [Option.map_some, layEntry]
    rw [parse_written_of_valueFor? hv]
    rfl

/-- Merging makes of the value under a name what the overlay makes of it. -/
theorem layName_of_mergeEntries {overlay base merged : Entries Tree} (ho : overlay.Ascending)
    (h : mergeEntries overlay base = .ok merged) (name : String) :
  layName overlay name (base.find? name) = .ok (merged.find? name)
  := by
  rw [← foldlM_entriesFor_eq ho]
  apply foldlM_entriesFor h

/-- A merge succeeds if the overlay can be laid over the value below every name, and gives what this
makes. -/
theorem exists_mergeEntries_of_layName {overlay base : Entries Tree} (ho : overlay.Ascending)
    {result : String → Option Tree}
    (h : ∀ name, layName overlay name (base.find? name) = .ok (result name)) :
  ∃ merged, mergeEntries overlay base = .ok merged ∧ ∀ name, merged.find? name = result name
  := by
  have hname : ∀ name, ∃ made,
      (entriesFor overlay name).foldlM layEntry (base.find? name) = .ok made := by
    intro name
    use result name
    rw [foldlM_entriesFor_eq ho, h]
  obtain ⟨merged, hmerged⟩ := exists_mergeEntries hname
  use merged, hmerged
  intro name
  apply Except.ok.inj ((layName_of_mergeEntries ho hmerged name).symm.trans (h name))

/-- A merge gives the mapping that has under every name what the overlay makes there. -/
theorem mergeEntries_eq_ok_of_layName {overlay base result : Entries Tree} (ho : overlay.Ascending)
    (hb : base.Ascending) (hr : result.Ascending)
    (h : ∀ name, layName overlay name (base.find? name) = .ok (result.find? name)) :
  mergeEntries overlay base = .ok result
  := by
  obtain ⟨merged, hmerged, hfind⟩ := exists_mergeEntries_of_layName ho h
  rw [hmerged, (ascending_of_mergeEntries hb hmerged).ext hr hfind]

/-! ### What one of the three makes -/

section

variable {overlay : Entries Tree} {name : String} {below result : Option Tree}

theorem valueFor?_plain (h : MergeKey.isMarked name = false) :
  valueFor? overlay ⟨name, .plain⟩ = overlay.find? name
  := by
  rw [valueFor?, MergeKey.written_plain, if_pos (MergeKey.parse_plain_iff.2 h)]

theorem valueFor?_plain_eq_none_iff :
  valueFor? overlay ⟨name, .plain⟩ = none
    ↔ MergeKey.isMarked name = true ∨ overlay.find? name = none
  := by
  cases hm : MergeKey.isMarked name with
  | false =>
    rw [valueFor?_plain hm]
    simp
  | true =>
    have hparse : MergeKey.parse name ≠ ⟨name, .plain⟩ := by
      intro h
      cases hm.symm.trans (MergeKey.parse_plain_iff.1 h)
    rw [valueFor?, MergeKey.written_plain, if_neg hparse]
    simp

theorem valueFor?_override :
  valueFor? overlay ⟨name, .override⟩ = overlay.find? (MergeKey.written ⟨name, .override⟩)
  := by
  rw [valueFor?, if_pos (MergeKey.parse_override name)]

theorem valueFor?_fallback :
  valueFor? overlay ⟨name, .fallback⟩ = overlay.find? (MergeKey.written ⟨name, .fallback⟩)
  := by
  rw [valueFor?, if_pos (MergeKey.parse_fallback name)]

/-- Laying a value over another one leaves something. -/
theorem exists_of_layValue {value : Tree} {directive : MergeDirective}
    (h : layValue below value directive = .ok result) :
  ∃ laid, result = some laid
  := by
  cases directive with
  | plain =>
    cases below with
    | none =>
      cases h
      use value
    | some existing =>
      obtain ⟨combined, -, rfl⟩ := Except.map_eq_ok_iff.1 h
      use combined
  | override =>
    cases h
    use value
  | fallback =>
    cases h
    use below.getD value

/-- A value that fills gaps is not taken where something lies below. -/
theorem layOption_fallback_of_some (laid : Tree) (value : Option Tree) :
  layOption (some laid) value .fallback = .ok (some laid)
  := by
  cases value with
  | none => rfl
  | some value => rfl

theorem layName_eq (overlay : Entries Tree) (name : String) (below : Option Tree) :
  layName overlay name below
    = (layOption below (valueFor? overlay ⟨name, .plain⟩) .plain).bind fun below =>
      (layOption below (valueFor? overlay ⟨name, .override⟩) .override).bind fun below =>
        layOption below (valueFor? overlay ⟨name, .fallback⟩) .fallback
  := by
  rw [layName]
  simp only [List.foldlM_cons, List.foldlM_nil, bind_pure]
  rfl

/-- A value that overrides is the result, whatever lies below and beside it. -/
theorem eq_of_layName_of_override {value : Tree}
    (hv : valueFor? overlay ⟨name, .override⟩ = some value)
    (h : layName overlay name below = .ok result) :
  result = some value
  := by
  rw [layName_eq, hv] at h
  cases hplain : layOption below (valueFor? overlay ⟨name, .plain⟩) .plain with
  | error e =>
    rw [hplain] at h
    cases h
  | ok laid =>
    rw [hplain] at h
    cases (layOption_fallback_of_some value _).symm.trans h
    rfl

/-- Without a value that overrides a plain one is merged over the value below it. -/
theorem layName_of_plain {value : Tree} (hplain : valueFor? overlay ⟨name, .plain⟩ = some value)
    (hover : valueFor? overlay ⟨name, .override⟩ = none) :
  layName overlay name below = layValue below value .plain
  := by
  rw [layName_eq, hplain, hover, layOption]
  cases hlay : layValue below value .plain with
  | error e => rfl
  | ok result =>
    obtain ⟨laid, rfl⟩ := exists_of_layValue hlay
    apply layOption_fallback_of_some

/-- A value that fills a gap is taken where nothing lies below and beside it. -/
theorem layName_of_fallback {value : Tree} (hplain : valueFor? overlay ⟨name, .plain⟩ = none)
    (hover : valueFor? overlay ⟨name, .override⟩ = none)
    (hfall : valueFor? overlay ⟨name, .fallback⟩ = some value) :
  layName overlay name below = .ok (some (below.getD value))
  := by
  rw [layName_eq, hplain, hover, hfall]
  rfl

/-- A name that the overlay has no key for keeps the value below it. -/
theorem layName_of_none (h : ∀ directive, valueFor? overlay ⟨name, directive⟩ = none) :
  layName overlay name below = .ok below
  := by
  rw [layName_eq, h, h, h]
  rfl

end

end Tree

end LayeredConfig
