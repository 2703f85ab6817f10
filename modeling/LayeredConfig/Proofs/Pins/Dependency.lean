import LayeredConfig.Pins
import LayeredConfig.Proofs.Layering.Name
import LayeredConfig.Proofs.Nvr.Spelling
import LayeredConfig.Proofs.Text.Decimal

/-!
# Reading the pins of dependencies

`dependencies` are the entries that a configuration lists under `dependencies` and `rpms`, and
`pin?` is the build that one of them pins of a package.  What `dependencyPins` finds for a package
is what the last entry that pins it says (`find?_dependencyPins`).  Nothing else is found, and
nothing is left out but what pins no text for the el version; the first text that is no build is
the error (`dependencyPins_exact`).
-/

namespace LayeredConfig.Tree

variable {config entry : Tree} {el : UInt32} {package text : String}

/-! ### Keys of el versions -/

/-- Different el versions have different keys. -/
theorem elKey_inj {el other : UInt32} :
  elKey el = elKey other ↔ el = other
  := by
  constructor
  · intro h
    rw [← String.toList_inj, elKey, elKey, String.toList_append, String.toList_append] at h
    have hvalue := (Text.denotes_toString el.toNat).value
    rw [List.append_cancel_left h, (Text.denotes_toString other.toNat).value] at hvalue
    apply UInt32.toNat_inj.1 hvalue.symm
  · exact congrArg elKey

/-- The key of an el version ends in a digit, hence in no marker. -/
theorem isMarked_elKey (el : UInt32) :
  MergeKey.isMarked (elKey el) = false
  := by
  obtain ⟨hne, hdigit, -⟩ := Text.denotes_toString el.toNat
  have hlast : (elKey el).toList.getLast? = some ((toString el.toNat).toList.getLast hne) := by
    rw [elKey, String.toList_append, List.getLast?_append, List.getLast?_eq_some_getLast hne,
      Option.some_or]
  have hc := hdigit _ (List.getLast_mem hne)
  rw [MergeKey.isMarked, MergeKey.parse, hlast]
  split
  · next h =>
    rw [Option.some.inj h] at hc
    cases hc
  · next h =>
    rw [Option.some.inj h] at hc
    cases hc
  · rfl

/-! ### The list -/

/-- The path of the list of dependencies. -/
def dependencyPath : List String := ["dependencies", "rpms"]

/-- The entries of the list of dependencies. -/
def dependencies (config : Tree) : List Tree :=
  match config.lookup dependencyPath with
  | some dependencies => dependencies.items
  | none => []

theorem dependencyTexts_eq (config : Tree) (el : UInt32) :
  config.dependencyTexts el
    = config.dependencies.filterMap fun entry => entry.nonemptyString? (elKey el)
  := by
  rw [dependencyTexts, dependencies, dependencyPath]
  cases config.lookup ["dependencies", "rpms"] <;> rfl

/-! ### One entry -/

/-- The package that a text names a build of. -/
def packageOf? (text : String) : Option String := (Nvr.parse text).toOption.map Nvr.name

/-- The build of a package that an entry of the list pins. -/
def pin? (entry : Tree) (el : UInt32) (package : String) : Option String :=
  (entry.nonemptyString? (elKey el)).filter fun text => packageOf? text == some package

/-- An entry has a text for an el version: it is a mapping with the text, which is not empty, under
the key of the el version. -/
def PinsText (entry : Tree) (el : UInt32) (text : String) : Prop :=
  ∃ entries : Entries Tree, entry = .mapping entries
    ∧ entries.find? (elKey el) = some (.string text) ∧ text ≠ ""

theorem nonemptyString?_eq_some_iff {key : String} :
  entry.nonemptyString? key = some text
    ↔ entry.get? key = some (.string text) ∧ text.isEmpty = false
  := by
  rw [nonemptyString?, Option.filter_eq_some_iff, bind_string?_eq_some_iff, Bool.not_eq_true']

theorem nonemptyString?_elKey_eq_some_iff :
  entry.nonemptyString? (elKey el) = some text ↔ entry.PinsText el text
  := by
  rw [nonemptyString?_eq_some_iff, PinsText]
  constructor
  · rintro ⟨hget, htext⟩
    obtain ⟨entries, rfl⟩ := exists_mapping_of_get? hget
    use entries, rfl, hget
    simpa using htext
  · rintro ⟨entries, rfl, hget, htext⟩
    use hget
    simpa using htext

theorem pin?_eq_some_iff :
  entry.pin? el package = some text ↔ entry.PinsText el text ∧ packageOf? text = some package
  := by
  rw [pin?, Option.filter_eq_some_iff, nonemptyString?_elKey_eq_some_iff, beq_iff_eq]

/-! ### The last pin of a list -/

/-- The build of a package that the last entry with one pins. -/
def lastPin? (entries : List Tree) (el : UInt32) (package : String) : Option String :=
  (entries.filterMap fun entry => entry.pin? el package).getLast?

section

variable {xs ys : List Tree}

theorem lastPin?_append (xs ys : List Tree) (el : UInt32) (package : String) :
  lastPin? (xs ++ ys) el package = (lastPin? ys el package).or (lastPin? xs el package)
  := by
  rw [lastPin?, List.filterMap_append, List.getLast?_append]
  rfl

theorem lastPin?_eq_none_iff :
  lastPin? xs el package = none ↔ ∀ entry ∈ xs, entry.pin? el package = none
  := by
  rw [lastPin?, List.getLast?_eq_none_iff, List.filterMap_eq_nil_iff]

theorem exists_of_lastPin? (h : lastPin? xs el package = some text) :
  ∃ entry ∈ xs, entry.pin? el package = some text
  := List.mem_filterMap.1 (List.mem_of_getLast? h)

/-- The last entry that pins a package decides. -/
theorem lastPin?_append_cons (xs : List Tree) (hentry : entry.pin? el package = some text)
    (hys : ∀ later ∈ ys, later.pin? el package = none) :
  lastPin? (xs ++ entry :: ys) el package = some text
  := List.getLast?_filterMap_eq_some_iff.2 ⟨xs, entry, ys, rfl, hentry, hys⟩

end

/-! ### One step of the reader -/

/-- Puts the text that an entry has for an el version, if it has one, under its package. -/
def addEntryPin (el : UInt32) (pins : Entries String) (entry : Tree) :
    Except Error (Entries String) :=
  match entry.nonemptyString? (elKey el) with
  | none => .ok pins
  | some text => addPin pins text

/-- The reader goes through the list entry by entry. -/
theorem dependencyPins_eq_foldlM (config : Tree) (el : UInt32) :
  config.dependencyPins el = config.dependencies.foldlM (addEntryPin el) []
  := by
  rw [dependencyPins, dependencyTexts_eq, List.foldlM_filterMap]
  congr 1
  funext pins entry
  rw [addEntryPin]
  cases entry.nonemptyString? (elKey el) <;> rfl

section

variable {pins next : Entries String} {e : Error}

theorem addPin_eq_ok_iff :
  addPin pins text = .ok next
    ↔ ∃ package, packageOf? text = some package ∧ next = pins.insert package text
  := by
  rw [addPin, packageOf?]
  cases Nvr.parse text with
  | error e => simp [Except.map, Except.toOption]
  | ok nvr => simp [Except.map, Except.toOption, eq_comm]

/-- An entry with a text puts it under its package, and any other entry changes nothing. -/
theorem addEntryPin_eq_ok_iff :
  addEntryPin el pins entry = .ok next
    ↔ (entry.nonemptyString? (elKey el) = none ∧ next = pins)
      ∨ ∃ text package, entry.nonemptyString? (elKey el) = some text
        ∧ packageOf? text = some package ∧ next = pins.insert package text
  := by
  rw [addEntryPin]
  cases entry.nonemptyString? (elKey el) with
  | none => simp [eq_comm]
  | some text => simp [addPin_eq_ok_iff]

/-- Only the text of an entry is rejected. -/
theorem addEntryPin_eq_error_iff :
  addEntryPin el pins entry = .error e
    ↔ ∃ text, entry.PinsText el text ∧ Nvr.parse text = .error e
  := by
  simp only [← nonemptyString?_elKey_eq_some_iff, addEntryPin]
  cases entry.nonemptyString? (elKey el) with
  | none => simp
  | some text => simp [addPin, Except.map_eq_error_iff]

/-- What is found for a package after an entry is what the entry pins of it, or else what was found
before. -/
theorem find?_addEntryPin (h : addEntryPin el pins entry = .ok next) (package : String) :
  next.find? package = (entry.pin? el package).or (pins.find? package)
  := by
  rw [pin?]
  rcases addEntryPin_eq_ok_iff.1 h with ⟨hnone, rfl⟩ | ⟨text, own, htext, hown, rfl⟩
  · rw [hnone]
    rfl
  · rw [htext, Entries.find?_insert]
    by_cases hp : own = package
    · simp [Option.filter, hown, hp]
    · simp [Option.filter, hown, hp]

theorem ascending_addEntryPin (hp : pins.Ascending) (h : addEntryPin el pins entry = .ok next) :
  next.Ascending
  := by
  rcases addEntryPin_eq_ok_iff.1 h with ⟨-, rfl⟩ | ⟨text, own, -, -, rfl⟩
  · apply hp
  · apply hp.insert

end

/-! ### The whole list -/

section

variable {pins result : Entries String} {xs : List Tree} {e : Error}

theorem ascending_foldlM_addEntryPin (hp : pins.Ascending)
    (h : xs.foldlM (addEntryPin el) pins = .ok result) :
  result.Ascending
  := by
  induction xs generalizing pins with
  | nil =>
    cases h
    apply hp
  | cons entry xs ih =>
    rw [List.foldlM_cons] at h
    obtain ⟨next, hnext, hrest⟩ := Except.bind_eq_ok_iff.1 h
    apply ih (ascending_addEntryPin hp hnext) hrest

/-- A list is read through if each of its texts is a build. -/
theorem exists_foldlM_addEntryPin_iff :
  (∃ result, xs.foldlM (addEntryPin el) pins = .ok result)
    ↔ ∀ entry ∈ xs, ∀ text, entry.PinsText el text → ∃ nvr, Nvr.parse text = .ok nvr
  := by
  induction xs generalizing pins with
  | nil =>
    use fun _ => List.forall_mem_nil _
    intro
    use pins
    rfl
  | cons entry xs ih =>
    rw [List.foldlM_cons, List.forall_mem_cons]
    cases hentry : addEntryPin el pins entry with
    | error e =>
      obtain ⟨text, htext, hparse⟩ := addEntryPin_eq_error_iff.1 hentry
      constructor
      · rintro ⟨_, ⟨⟩⟩
      · rintro ⟨hbuild, -⟩
        obtain ⟨nvr, hnvr⟩ := hbuild text htext
        cases hparse.symm.trans hnvr
    | ok next =>
      refine ih.trans (and_iff_right ?_).symm
      intro text htext
      cases hparse : Nvr.parse text with
      | ok nvr => use nvr
      | error e => cases hentry.symm.trans (addEntryPin_eq_error_iff.2 ⟨text, htext, hparse⟩)

/-- The pins are read if each text for the el version is a build. -/
theorem exists_dependencyPins_iff :
  (∃ result, config.dependencyPins el = .ok result)
    ↔ ∀ entry ∈ config.dependencies, ∀ text, entry.PinsText el text →
      ∃ nvr, Nvr.parse text = .ok nvr
  := by
  rw [dependencyPins_eq_foldlM]
  apply exists_foldlM_addEntryPin_iff

theorem ascending_dependencyPins (h : config.dependencyPins el = .ok result) :
  result.Ascending
  := by
  rw [dependencyPins_eq_foldlM] at h
  apply ascending_foldlM_addEntryPin Entries.ascending_nil h

/-- What is found for a package is what the last entry that pins it says. -/
theorem find?_dependencyPins (h : config.dependencyPins el = .ok result) (package : String) :
  result.find? package = lastPin? config.dependencies el package
  := by
  rw [dependencyPins_eq_foldlM] at h
  have hstep : ∀ entry ∈ config.dependencies, ∀ pins next : Entries String,
      addEntryPin el pins entry = .ok next →
        next.find? package = (entry.pin? el package).or (pins.find? package) :=
    fun _ _ _ _ hnext => find?_addEntryPin hnext package
  rw [List.read_of_foldlM hstep h, lastPin?]
  exact Option.or_none

/-- The package of each text for the el version is found. -/
theorem exists_find?_of_pinsText (h : config.dependencyPins el = .ok result)
    (hentry : entry ∈ config.dependencies) (htext : entry.PinsText el text) :
  ∃ package build, packageOf? text = some package ∧ result.find? package = some build
  := by
  obtain ⟨nvr, hnvr⟩ := exists_dependencyPins_iff.1 ⟨result, h⟩ entry hentry text htext
  have hpackage : packageOf? text = some nvr.name := by
    rw [packageOf?, hnvr]
    rfl
  cases hfind : result.find? nvr.name with
  | some build => exact ⟨nvr.name, build, hpackage, hfind⟩
  | none =>
    rw [find?_dependencyPins h, lastPin?_eq_none_iff] at hfind
    cases (pin?_eq_some_iff.2 ⟨htext, hpackage⟩).symm.trans (hfind entry hentry)

end

/-! ### What is read, and what has no effect -/

/-- The first entry with a text that is no build has a text that is rejected with this error. -/
def FirstRejected (xs : List Tree) (el : UInt32) (e : Error) : Prop :=
  ∃ earlier entry later text flaw, xs = earlier ++ entry :: later
    ∧ (∀ other ∈ earlier, ∀ text, other.PinsText el text → ∃ nvr, Nvr.parse text = .ok nvr)
    ∧ entry.PinsText el text ∧ Nvr.parse text = .error e ∧ e = .invalidNvr text flaw

/-- The last entry with a text for a package has this text. -/
def LastText (xs : List Tree) (el : UInt32) (package text : String) : Prop :=
  packageOf? text = some package
    ∧ ∃ earlier entry later, xs = earlier ++ entry :: later ∧ entry.PinsText el text
      ∧ ∀ e ∈ later, ∀ other, e.PinsText el other → packageOf? other ≠ some package

/-- An entry that says nothing for an el version. -/
inductive Silent (el : UInt32) : Tree → Prop where
  /-- It is no mapping. -/
  | shape {entry : Tree} : entry.mapping? = none → Silent el entry
  /-- It has nothing for the el version. -/
  | missing {entries : Entries Tree} :
    entries.find? (elKey el) = none → Silent el (.mapping entries)
  /-- It has the empty text. -/
  | empty {entries : Entries Tree} :
    entries.find? (elKey el) = some (.string "") → Silent el (.mapping entries)
  /-- What it has is no text. -/
  | other {entries : Entries Tree} {value : Tree} : entries.find? (elKey el) = some value →
    value.string? = none → Silent el (.mapping entries)

/-- A change of a list that does not concern an el version. -/
inductive ChangesAside (el : UInt32) : List Tree → List Tree → Prop where
  /-- An entry that says nothing is left out. -/
  | leaveOut {earlier later : List Tree} {entry : Tree} : Silent el entry →
    ChangesAside el (earlier ++ entry :: later) (earlier ++ later)
  /-- An entry gets a value for another el version. -/
  | set {earlier later : List Tree} {entries : Entries Tree} {other : UInt32} {value : Tree} :
    other ≠ el →
    ChangesAside el (earlier ++ .mapping entries :: later)
      (earlier ++ .mapping (entries.insert (elKey other) value) :: later)

theorem Silent.nonemptyString?_eq_none (h : Silent el entry) :
  entry.nonemptyString? (elKey el) = none
  := by
  rw [nonemptyString?]
  cases h with
  | shape hshape =>
    rw [get?, hshape]
    rfl
  | missing hfind =>
    rw [get?_mapping, hfind]
    rfl
  | empty hfind =>
    rw [get?_mapping, hfind]
    rfl
  | other hfind hvalue =>
    rw [get?_mapping, hfind, Option.bind_some, hvalue]
    rfl

theorem ChangesAside.filterMap_eq {xs ys : List Tree} (h : ChangesAside el xs ys) :
  (xs.filterMap fun entry => entry.nonemptyString? (elKey el))
    = ys.filterMap fun entry => entry.nonemptyString? (elKey el)
  := by
  cases h with
  | leaveOut hsilent =>
    rw [List.filterMap_append, List.filterMap_append, List.filterMap_cons,
      hsilent.nonemptyString?_eq_none]
  | @set earlier later entries other value hother =>
    have hsame : (mapping (entries.insert (elKey other) value)).nonemptyString? (elKey el)
        = (mapping entries).nonemptyString? (elKey el) := by
      rw [nonemptyString?, get?_mapping, Entries.find?_insert_of_ne (mt elKey_inj.1 hother)]
      rfl
    rw [List.filterMap_append, List.filterMap_append, List.filterMap_cons, List.filterMap_cons,
      hsame]

theorem lastPin?_eq_some_iff {xs : List Tree} :
  lastPin? xs el package = some text ↔ LastText xs el package text
  := by
  have hnone : ∀ e : Tree, e.pin? el package = none
      ↔ ∀ other, e.PinsText el other → packageOf? other ≠ some package := by
    intro e
    simp only [Option.eq_none_iff_forall_ne_some, ne_eq, pin?_eq_some_iff, not_and]
  simp only [lastPin?, List.getLast?_filterMap_eq_some_iff, LastText, pin?_eq_some_iff, hnone]
  constructor
  · rintro ⟨earlier, entry, later, hsplit, ⟨htext, hpackage⟩, hlater⟩
    exact ⟨hpackage, earlier, entry, later, hsplit, htext, hlater⟩
  · rintro ⟨hpackage, earlier, entry, later, hsplit, htext, hlater⟩
    exact ⟨earlier, entry, later, hsplit, ⟨htext, hpackage⟩, hlater⟩

theorem dependencyPins_eq_error_iff {e : Error} :
  config.dependencyPins el = .error e ↔ FirstRejected config.dependencies el e
  := by
  rw [dependencyPins_eq_foldlM, List.foldlM_eq_error_iff]
  constructor
  · rintro ⟨earlier, entry, later, pins, hsplit, hearlier, hentry⟩
    obtain ⟨text, htext, hparse⟩ := addEntryPin_eq_error_iff.1 hentry
    obtain ⟨flaw, -, he⟩ := Nvr.parse_eq_error_iff.1 hparse
    exact ⟨earlier, entry, later, text, flaw, hsplit,
      exists_foldlM_addEntryPin_iff.1 ⟨pins, hearlier⟩, htext, hparse, he⟩
  · rintro ⟨earlier, entry, later, text, flaw, hsplit, hbuilds, htext, hparse, -⟩
    obtain ⟨pins, hearlier⟩ := exists_foldlM_addEntryPin_iff.2 hbuilds
    exact ⟨earlier, entry, later, pins, hsplit, hearlier,
      addEntryPin_eq_error_iff.2 ⟨text, htext, hparse⟩⟩

/-- The pins of a list of dependencies are read or not according to whether each of its texts for
the el version is a build, and the error is that of the first text that is none.  What is read has a
text under a package exactly if the last entry with a build of the package has this text, so no
package is missing.  Entries that say nothing for the el version, and what entries say for other el
versions, have no effect. -/
theorem dependencyPins_exact (config : Tree) (el : UInt32) :
  (∀ e, config.dependencyPins el = .error e ↔ FirstRejected config.dependencies el e)
    ∧ ((∃ e, config.dependencyPins el = .error e)
      ↔ ∃ entry ∈ config.dependencies, ∃ text, entry.PinsText el text
        ∧ ∀ nvr, Nvr.parse text ≠ .ok nvr)
    ∧ (∀ pins, config.dependencyPins el = .ok pins →
      pins.Ascending
      ∧ (∀ package text,
        pins.find? package = some text ↔ LastText config.dependencies el package text)
      ∧ ∀ entry ∈ config.dependencies, ∀ text, entry.PinsText el text →
        ∃ package build, packageOf? text = some package ∧ pins.find? package = some build)
    ∧ ∀ config' : Tree, ChangesAside el config.dependencies config'.dependencies →
      config'.dependencyPins el = config.dependencyPins el
  := by
  refine ⟨fun e => dependencyPins_eq_error_iff, ?_, ?_, ?_⟩
  · have hfails : (∃ e, config.dependencyPins el = .error e)
        ↔ ¬ ∃ pins, config.dependencyPins el = .ok pins := by
      cases config.dependencyPins el <;> simp
    rw [hfails, exists_dependencyPins_iff]
    simp only [not_forall, not_exists, exists_prop]
  · intro pins hpins
    refine ⟨ascending_dependencyPins hpins, ?_, ?_⟩
    · intro package text
      rw [find?_dependencyPins hpins, lastPin?_eq_some_iff]
    · intro entry hentry text htext
      apply exists_find?_of_pinsText hpins hentry htext
  · intro config' hchange
    rw [dependencyPins, dependencyPins, dependencyTexts_eq, dependencyTexts_eq,
      hchange.filterMap_eq]

/-- A configuration that lists dependencies. -/
def listing (dependencies : List Tree) : Tree :=
  .mapping [("dependencies", .mapping [("rpms", .sequence dependencies)])]

/-- Two builds of one package, one behind a path and with an epoch, and an entry with a build for
another el version between them. -/
def kernelBuilds : List Tree :=
  [.mapping [("el8", .string "kernel-4.18.0-1")],
    .mapping [("el8", .string ""), ("el9", .string "kernel-5.14.0-7")],
    .mapping [("el8", .string "path/to/1:kernel-4.18.0-2")]]

theorem dependencyPins_exact_kernelBuilds :
  (listing kernelBuilds).dependencyPins 8 = .ok [("kernel", "path/to/1:kernel-4.18.0-2")]
    ∧ LastText kernelBuilds 8 "kernel" "path/to/1:kernel-4.18.0-2"
    ∧ (listing (.mapping [("el8", .string "two-parts")] :: kernelBuilds)).dependencyPins 8
      = .error (.invalidNvr "two-parts" .parts)
    ∧ (listing (.null :: kernelBuilds)).dependencyPins 8
      = (listing kernelBuilds).dependencyPins 8
  := by
  have hpins : (listing kernelBuilds).dependencyPins 8
      = .ok [("kernel", "path/to/1:kernel-4.18.0-2")] := by rfl
  obtain ⟨-, -, hread, -⟩ := dependencyPins_exact (listing kernelBuilds) 8
  refine ⟨hpins, ?_, ?_, ?_⟩
  · apply ((hread _ hpins).2.1 "kernel" _).1
    decide
  · apply ((dependencyPins_exact _ 8).1 _).2
    refine ⟨[], _, kernelBuilds, "two-parts", .parts, rfl, List.forall_mem_nil _, ?_, by rfl, rfl⟩
    exact ⟨_, rfl, by rfl, by decide⟩
  · have hchange : ChangesAside 8 (listing (.null :: kernelBuilds)).dependencies
        (listing kernelBuilds).dependencies :=
      @ChangesAside.leaveOut 8 [] kernelBuilds .null (.shape rfl)
    exact ((dependencyPins_exact (listing (.null :: kernelBuilds)) 8).2.2.2 _ hchange).symm

end LayeredConfig.Tree
