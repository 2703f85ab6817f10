import LayeredConfig.Proofs.Release.Inheritance

/-!
# The nearest event

An assembly fixes an event if its basis gives one that counts as true (`FixesEvent`).  The
search for it stops at the first assembly that fixes one, so what it finds is the first event
along the chain (`basisEvent_some`).  Hence the basis event of an assembly is that of the first
assembly on its chain that fixes one (`basisEvent_eq_nearest`).  If this event has no number,
reading it fails and names the assembly that fixes it; the events of farther assemblies are not
looked at.
-/

namespace LayeredConfig.ReleasesDocument

variable {doc : ReleasesDocument} {name : String}

/-- The assembly of a given name fixes an event: its basis gives it, and it counts as true. -/
def FixesEvent (doc : ReleasesDocument) (name : String) (event : Tree) : Prop :=
  ∃ target, doc.assembly? name = some target
    ∧ target.definition.lookup ["basis", "brew_event"] = some event ∧ event.isTruthy = true

/-- The first of several names whose assembly fixes an event, with the event. -/
def NearestEvent (doc : ReleasesDocument) (path : List String) (nearest : String)
    (event : Tree) : Prop :=
  ∃ nearer farther, path = nearer ++ nearest :: farther
    ∧ (∀ other ∈ nearer, ∀ event, ¬ doc.FixesEvent other event) ∧ doc.FixesEvent nearest event

/-- The event that the assembly of a given name fixes, with the name. -/
def eventAt? (doc : ReleasesDocument) (name : String) : Option (String × Tree) :=
  (doc.assembly? name).bind fun target => target.event?.map fun event => (name, event)

theorem eventAt?_eq_some_iff {other : String} {event : Tree} :
  doc.eventAt? name = some (other, event) ↔ name = other ∧ doc.FixesEvent name event
  := by
  rw [eventAt?, FixesEvent, Option.bind_eq_some_iff]
  constructor
  · rintro ⟨target, ha, he⟩
    obtain ⟨_, he, heq⟩ := Option.map_eq_some_iff.1 he
    cases heq
    obtain ⟨hl, ht⟩ := Option.filter_eq_some_iff.1 he
    use rfl, target, ha, hl, ht
  · rintro ⟨rfl, target, ha, hl, ht⟩
    use target, ha
    have he : target.event? = some event := Option.filter_eq_some_iff.2 ⟨hl, ht⟩
    rw [he, Option.map_some]

theorem eventAt?_eq_none_iff :
  doc.eventAt? name = none ↔ ∀ event, ¬ doc.FixesEvent name event
  := by
  constructor
  · intro h event he
    cases h.symm.trans (eventAt?_eq_some_iff.2 ⟨rfl, he⟩)
  · intro h
    cases he : doc.eventAt? name with
    | none => rfl
    | some found => exact absurd (eventAt?_eq_some_iff.1 he).2 (h _)

/-- Searching along names finds the first event. -/
theorem findSome?_eventAt?_eq_some_iff {path : List String} {nearest : String} {event : Tree} :
  path.findSome? doc.eventAt? = some (nearest, event) ↔ doc.NearestEvent path nearest event
  := by
  rw [List.findSome?_eq_some_iff]
  constructor
  · rintro ⟨nearer, other, farther, hpath, he, hn⟩
    obtain ⟨rfl, hf⟩ := eventAt?_eq_some_iff.1 he
    refine ⟨nearer, farther, hpath, ?_, hf⟩
    intro other ho
    apply eventAt?_eq_none_iff.1 (hn other ho)
  · rintro ⟨nearer, farther, hpath, hn, hf⟩
    refine ⟨nearer, nearest, farther, hpath, eventAt?_eq_some_iff.2 ⟨rfl, hf⟩, ?_⟩
    intro other ho
    apply eventAt?_eq_none_iff.2 (hn other ho)

/-! ### The search along the chain -/

/-- A chain that fails makes the search fail. -/
theorem eventFrom_of_chain_eq_error {e : Error} (h : doc.chain name = .error e) :
  doc.eventFrom name = .error e
  := by
  have hn : name ≠ "" := by
    rintro rfl
    cases h
  rw [eventFrom, if_neg hn]
  split
  · next hc =>
    cases h.symm.trans hc
    rfl
  · next hc => cases h.symm.trans hc

/-- One step of the search: an event here ends it, and without one it goes on at the parent. -/
theorem eventFrom_of_chain_eq_ok {path : List String} (hn : name ≠ "")
    (hc : doc.chain name = .ok path) :
  doc.eventFrom name
    = match doc.eventAt? name, doc.parent? name with
      | some (nearest, event), _ => (eventNumber nearest event).map some
      | none, some parent => doc.eventFrom parent
      | none, none => .ok none
  := by
  rw [eventFrom, if_neg hn]
  split
  · next hc' => cases hc.symm.trans hc'
  · split
    · next ha => rw [eventAt?, parent?, ha, Option.bind_none, Option.bind_none]
    · next target ha =>
      rw [eventAt?, parent?, ha, Option.bind_some, Option.bind_some, name_eq_of_assembly? ha]
      cases target.event? with
      | some event => rfl
      | none =>
        simp only [Option.map_none]
        split
        · next hp => rw [hp]
        · next parent hp => rw [hp]

/-- The number of the first event along several names, if there is one. -/
def firstEvent (doc : ReleasesDocument) (path : List String) : Except Error (Option Int64) :=
  match path.findSome? doc.eventAt? with
  | none => .ok none
  | some (nearest, event) => (eventNumber nearest event).map some

/-- The search finds the first event along the walk from a name. -/
theorem eventFrom_eq_firstEvent {path : List String} (hs : doc.isStructured = true)
    (hn : name ≠ "") (hl : doc.LeadsThrough name path) :
  doc.eventFrom name = doc.firstEvent path
  := by
  induction hl with
  | @last name h =>
    rw [eventFrom_of_chain_eq_ok hn ((chain_eq_ok_iff hs hn).2 (.last h)), h, firstEvent,
      List.findSome?_singleton]
    cases doc.eventAt? name <;> rfl
  | @step name parent path h hl ih =>
    rw [eventFrom_of_chain_eq_ok hn ((chain_eq_ok_iff hs hn).2 (.step h hl)), h, firstEvent,
      List.findSome?_cons]
    cases doc.eventAt? name with
    | none => apply ih (parent?_ne_empty h)
    | some found => rfl

/-! ### The basis event -/

/-- The basis event is the first event along the chain; it fails at once where the chain fails. -/
theorem basisEvent_some (name : String) :
  doc.basisEvent (some name) = (doc.chain name).bind doc.firstEvent
  := by
  by_cases ha : doc.isStructured = true ∧ name ≠ ""
  · obtain ⟨hs, hn⟩ := ha
    rw [basisEvent, active?_of_active hs hn]
    cases hc : doc.chain name with
    | error e => apply eventFrom_of_chain_eq_error hc
    | ok path => apply eventFrom_eq_firstEvent hs hn ((chain_eq_ok_iff hs hn).1 hc)
  · rw [basisEvent, active?_of_inactive ha, chain_of_inactive ha]
    rfl

theorem basisEvent_eq_firstEvent {path : List String} (hc : doc.chain name = .ok path) :
  doc.basisEvent (some name) = doc.firstEvent path
  := by
  rw [basisEvent_some, hc]
  rfl

theorem basisEvent_of_none {path : List String} (hc : doc.chain name = .ok path)
    (h : ∀ other ∈ path, ∀ event, ¬ doc.FixesEvent other event) :
  doc.basisEvent (some name) = .ok none
  := by
  have hnone : path.findSome? doc.eventAt? = none := by
    apply List.findSome?_eq_none_iff.2
    intro other ho
    apply eventAt?_eq_none_iff.2 (h other ho)
  rw [basisEvent_eq_firstEvent hc, firstEvent, hnone]

theorem basisEvent_of_nearestEvent {path : List String} {nearest : String} {event : Tree}
    (hc : doc.chain name = .ok path) (h : doc.NearestEvent path nearest event) :
  doc.basisEvent (some name)
    = match event.eventNumber? with
      | some number => .ok (some number)
      | none => .error (.invalidEvent nearest event)
  := by
  rw [basisEvent_eq_firstEvent hc, firstEvent, findSome?_eventAt?_eq_some_iff.2 h]
  simp only [eventNumber]
  cases event.eventNumber? <;> rfl

/-- Along a chain that ends, the basis event fails exactly if the nearest event has no number. -/
theorem basisEvent_eq_error_iff {path : List String} {e : Error} (hc : doc.chain name = .ok path) :
  doc.basisEvent (some name) = .error e
    ↔ ∃ nearest event, doc.NearestEvent path nearest event ∧ event.eventNumber? = none
      ∧ e = .invalidEvent nearest event
  := by
  constructor
  · intro h
    cases hfound : path.findSome? doc.eventAt? with
    | none =>
      rw [basisEvent_eq_firstEvent hc, firstEvent, hfound] at h
      cases h
    | some found =>
      obtain ⟨nearest, event⟩ := found
      have hn : doc.NearestEvent path nearest event := findSome?_eventAt?_eq_some_iff.1 hfound
      use nearest, event, hn
      rw [basisEvent_of_nearestEvent hc hn] at h
      split at h
      · cases h
      · next he =>
        cases h
        exact ⟨he, rfl⟩
  · rintro ⟨nearest, event, hn, he, rfl⟩
    rw [basisEvent_of_nearestEvent hc hn, he]

/-- Along a chain that ends, the basis event is the number of the event that the nearest
assembly fixes which fixes one, and is missing if none does.  If this event has no number, the
basis event fails and names that assembly.  Nothing else plays a part: neither the events of
farther assemblies nor those of nearer ones that count as false. -/
theorem basisEvent_eq_nearest {path : List String} (hc : doc.chain name = .ok path) :
  ((∀ other ∈ path, ∀ event, ¬ doc.FixesEvent other event) →
      doc.basisEvent (some name) = .ok none)
    ∧ ∀ nearest event, doc.NearestEvent path nearest event →
      (∀ number, event.eventNumber? = some number →
          doc.basisEvent (some name) = .ok (some number))
        ∧ (event.eventNumber? = none →
          doc.basisEvent (some name) = .error (.invalidEvent nearest event))
  := by
  constructor
  · intro h
    apply basisEvent_of_none hc h
  · intro nearest event h
    have heq := basisEvent_of_nearestEvent hc h
    constructor
    · intro number he
      rw [heq, he]
    · intro he
      rw [heq, he]

/-! ### Releases with events -/

/-- Six releases.  The event of `4.1` is no number; that of `4.2` has leading zeros; `4.3` is
built on it with an event that counts as false, and `4.4` on that without one.  The event of
`4.5` is no number although it is built on `4.2`, and `4.6` is built on `4.5`. -/
def eventfulReleases : ReleasesDocument where
  root := .mapping [("releases", .mapping [
    ("4.1", release [("brew_event", .string "soon")] []),
    ("4.2", release [("assembly", .string "4.1"), ("brew_event", .string "0042")] []),
    ("4.3", release [("assembly", .string "4.2"), ("brew_event", .integer 0)] []),
    ("4.4", release [("assembly", .string "4.3")] []),
    ("4.5", release [("assembly", .string "4.2"), ("brew_event", .bool true)] []),
    ("4.6", release [("assembly", .string "4.5")] [])])]

theorem basisEvent_eventfulReleases :
  eventfulReleases.chain "4.4" = .ok ["4.4", "4.3", "4.2", "4.1"]
    ∧ eventfulReleases.basisEvent (some "4.4") = .ok (some 42)
    ∧ eventfulReleases.chain "4.6" = .ok ["4.6", "4.5", "4.2", "4.1"]
    ∧ eventfulReleases.basisEvent (some "4.6") = .error (.invalidEvent "4.5" (.bool true))
    ∧ eventfulReleases.chain "4.7" = .ok ["4.7"]
    ∧ eventfulReleases.basisEvent (some "4.7") = .ok none
  := by
  have hc₄ : eventfulReleases.chain "4.4" = .ok ["4.4", "4.3", "4.2", "4.1"] := by decide +kernel
  have hc₆ : eventfulReleases.chain "4.6" = .ok ["4.6", "4.5", "4.2", "4.1"] := by decide +kernel
  have hc₇ : eventfulReleases.chain "4.7" = .ok ["4.7"] := by decide +kernel
  refine ⟨hc₄, ?_, hc₆, ?_, hc₇, ?_⟩
  · have hn : eventfulReleases.NearestEvent ["4.4", "4.3", "4.2", "4.1"] "4.2" (.string "0042") := by
      apply findSome?_eventAt?_eq_some_iff.1
      decide +kernel
    apply ((basisEvent_eq_nearest hc₄).2 _ _ hn).1
    decide +kernel
  · have hn : eventfulReleases.NearestEvent ["4.6", "4.5", "4.2", "4.1"] "4.5" (.bool true) := by
      apply findSome?_eventAt?_eq_some_iff.1
      decide +kernel
    apply ((basisEvent_eq_nearest hc₆).2 _ _ hn).2
    decide +kernel
  · apply (basisEvent_eq_nearest hc₇).1
    intro other ho
    apply eventAt?_eq_none_iff.1
    cases List.mem_singleton.1 ho
    decide +kernel

end LayeredConfig.ReleasesDocument
