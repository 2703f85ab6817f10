import LayeredConfig.Proofs.Binary64.Word
import LayeredConfig.Proofs.Release.Event
import LayeredConfig.Proofs.Text.Decimal

/-!
# The numbers of events

A value spells a signed word if it is this integer, a float that is exactly this integer and below
`2 ^ 63` in magnitude, or a run of decimal digits for it (`Tree.SpellsEvent`).  The number that is
read from an event is the word that the event spells, and nothing is read from any other value
(`basisEvent_reads_exactly`): no float is rounded, and no run of digits wraps around, however long
it is.
-/

namespace LayeredConfig

namespace Tree

variable {event : Tree} {n : Int64}

/-- A value spells a signed word. -/
inductive SpellsEvent : Tree → Int64 → Prop
  | integer (n : Int64) : SpellsEvent (.integer n) n
  /-- The exact value of a float is counted in units of `2 ^ (-1074)`. -/
  | float {x : Binary64} {n : Int64} (finite : x.isFinite = true)
    (value : x.position? = some (n.toInt * Binary64.unitsPerOne))
    (below : n.toInt.natAbs < 2 ^ 63) : SpellsEvent (.float x) n
  | digits {s : String} {m : Nat} {n : Int64} (h : Text.Denotes s.toList m) (value : n.toInt = m) :
    SpellsEvent (.string s) n

theorem spellsEvent_float_iff {x : Binary64} :
  (Tree.float x).SpellsEvent n
    ↔ x.isFinite = true ∧ x.position? = some (n.toInt * Binary64.unitsPerOne)
      ∧ n.toInt.natAbs < 2 ^ 63
  := by
  constructor
  · rintro (_ | ⟨hfinite, hvalue, hbelow⟩)
    exact ⟨hfinite, hvalue, hbelow⟩
  · rintro ⟨hfinite, hvalue, hbelow⟩
    exact .float hfinite hvalue hbelow

theorem spellsEvent_string_iff {s : String} :
  (Tree.string s).SpellsEvent n ↔ ∃ m : Nat, Text.Denotes s.toList m ∧ n.toInt = m
  := by
  constructor
  · rintro (_ | _ | ⟨h, hvalue⟩)
    exact ⟨_, h, hvalue⟩
  · rintro ⟨m, h, hvalue⟩
    exact .digits h hvalue

/-- A float that passes the guard is cut to its own value. -/
theorem eventNumber?_float_eq_some_iff {x : Binary64} :
  (Tree.float x).eventNumber? = some n ↔ (Tree.float x).SpellsEvent n
  := by
  rw [spellsEvent_float_iff, eventNumber?]
  constructor
  · intro h
    split at h
    · next hguard =>
      obtain ⟨hwhole, hbelow⟩ := Bool.and_eq_true_iff.1 hguard
      obtain ⟨i, hfinite, hi⟩ := Binary64.isWhole_iff.1 hwhole
      have hmagnitude : i.natAbs < 2 ^ 63 := (Binary64.isBelow_maxValue_iff hi).1 hbelow
      have hvalue : x.toInt64.toInt = i := Binary64.toInt_toInt64 hi (by omega) (by omega)
      cases h
      rw [hvalue]
      exact ⟨hfinite, hi, hmagnitude⟩
    · cases h
  · rintro ⟨hfinite, hvalue, hmagnitude⟩
    have hwhole : x.isWhole = true := Binary64.isWhole_iff.2 ⟨_, hfinite, hvalue⟩
    have hbelow := (Binary64.isBelow_maxValue_iff hvalue).2 hmagnitude
    have hword : x.toInt64 = n :=
      Int64.toInt_inj.1 (Binary64.toInt_toInt64 hvalue (Int64.le_toInt n) (Int64.toInt_lt n))
    rw [hwhole, hbelow, hword]
    rfl

/-- The number of an event is the word that the event spells. -/
theorem eventNumber?_eq_some_iff :
  event.eventNumber? = some n ↔ event.SpellsEvent n
  := by
  cases event with
  | integer i =>
    rw [eventNumber?, Option.some.injEq]
    constructor
    · rintro rfl
      exact .integer i
    · rintro ⟨⟩
      rfl
  | float x => apply eventNumber?_float_eq_some_iff
  | string s =>
    rw [spellsEvent_string_iff, eventNumber?]
    simp only [Option.bind_eq_some_iff, Text.decimal?_eq_some_iff, word?_eq_some_iff]
  | _ =>
    constructor
    · rintro ⟨⟩
    · rintro ⟨⟩

theorem eventNumber?_eq_none_iff :
  event.eventNumber? = none ↔ ∀ n, ¬ event.SpellsEvent n
  := by
  simp only [Option.eq_none_iff_forall_ne_some, ne_eq, eventNumber?_eq_some_iff]

end Tree

namespace ReleasesDocument

variable {doc : ReleasesDocument} {name : String}

/-- The number of an event is the word that the event spells.  So the basis event along a chain that
ends is the word that the nearest event spells, and it fails exactly if this event spells none, with
the event and the assembly that fixes it. -/
theorem basisEvent_reads_exactly {path : List String} {nearest : String} {event : Tree}
    (hc : doc.chain name = .ok path) (hn : doc.NearestEvent path nearest event) :
  (∀ n, event.eventNumber? = some n ↔ event.SpellsEvent n)
    ∧ (∀ n, doc.basisEvent (some name) = .ok (some n) ↔ event.SpellsEvent n)
    ∧ (doc.basisEvent (some name) = .error (.invalidEvent nearest event)
      ↔ ∀ n, ¬ event.SpellsEvent n)
    ∧ ∀ e, doc.basisEvent (some name) = .error e → e = .invalidEvent nearest event
  := by
  have hread := basisEvent_of_nearestEvent hc hn
  refine ⟨fun n => Tree.eventNumber?_eq_some_iff, ?_, ?_, ?_⟩
  · intro n
    rw [← Tree.eventNumber?_eq_some_iff, hread]
    cases event.eventNumber? <;> simp
  · rw [← Tree.eventNumber?_eq_none_iff, hread]
    cases event.eventNumber? <;> simp
  · intro e h
    rw [hread] at h
    split at h
    · cases h
    · exact (Except.error.inj h).symm

/-- A release that fixes an event. -/
def releaseAt (event : Tree) : ReleasesDocument where
  root := .mapping [("releases", .mapping [("4.8.0", release [("brew_event", event)] [])])]

theorem chain_releaseAt (event : Tree) :
  (releaseAt event).chain "4.8.0" = .ok ["4.8.0"]
  := (chain_eq_ok_iff rfl (by decide)).2 (.last rfl)

theorem nearestEvent_releaseAt (event : Tree) (h : event.isTruthy = true) :
  (releaseAt event).NearestEvent ["4.8.0"] "4.8.0" event
  := ⟨[], [], rfl, List.forall_mem_nil _, _, rfl, rfl, h⟩

/-- The last float below `2 ^ 63` is read exactly, and `2 ^ 63` itself is not read.  The greatest
signed word is read behind leading zeros, and its successor is not read. -/
theorem basisEvent_releaseAt :
  (releaseAt (.float (.finite false 1085 4503599627370495))).basisEvent (some "4.8.0")
      = .ok (some 9223372036854774784)
    ∧ (releaseAt (.float (.finite false 1086 0))).basisEvent (some "4.8.0")
      = .error (.invalidEvent "4.8.0" (.float (.finite false 1086 0)))
    ∧ (releaseAt (.string "009223372036854775807")).basisEvent (some "4.8.0")
      = .ok (some 9223372036854775807)
    ∧ (releaseAt (.string "9223372036854775808")).basisEvent (some "4.8.0")
      = .error (.invalidEvent "4.8.0" (.string "9223372036854775808"))
  := by
  refine ⟨?_, ?_, ?_, ?_⟩
  · have hn := nearestEvent_releaseAt (.float (.finite false 1085 4503599627370495))
      (by decide +kernel)
    apply ((basisEvent_reads_exactly (chain_releaseAt _) hn).2.1 _).2
    exact .float rfl (by decide +kernel) (by decide)
  · have hn := nearestEvent_releaseAt (.float (.finite false 1086 0)) (by decide +kernel)
    apply (basisEvent_reads_exactly (chain_releaseAt _) hn).2.2.1.2
    apply Tree.eventNumber?_eq_none_iff.1
    decide +kernel
  · have hn := nearestEvent_releaseAt (.string "009223372036854775807") (by decide +kernel)
    apply ((basisEvent_reads_exactly (chain_releaseAt _) hn).2.1 _).2
    apply Tree.eventNumber?_eq_some_iff.1
    decide +kernel
  · have hn := nearestEvent_releaseAt (.string "9223372036854775808") (by decide +kernel)
    apply (basisEvent_reads_exactly (chain_releaseAt _) hn).2.2.1.2
    apply Tree.eventNumber?_eq_none_iff.1
    decide +kernel

end ReleasesDocument

end LayeredConfig
