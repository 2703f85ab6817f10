import LayeredConfig.Proofs.Nvr.Splitting
import Mathlib.Data.List.Basic
import Mathlib.Tactic.Use

/-!
# Spellings of a build

A build is spelled by its three parts alone, or with an epoch before the name, before the version or
after the release (`Nvr.Spelling`), and any path can stand before it.  What is read from a text are
the parts that it spells (`parse_append_eq_ok_iff`): each part keeps clear of the characters that
set it off, save that a name with a dash can go on behind a colon.  So reading inverts all spellings
and invents nothing (`parse_inverts_spelling`).
-/

namespace LayeredConfig.Nvr

open Text

/-- A way to write a build, with the text for its epoch if there is one. -/
inductive Spelling where
  | bare
  | front (epoch : String)
  | inner (epoch : String)
  | back (epoch : String)

namespace Spelling

/-- The text for the epoch. -/
def epoch : Spelling → String
  | .bare => ""
  | .front epoch | .inner epoch | .back epoch => epoch

/-- The text of a build. -/
def text (nvr : Nvr) : Spelling → String
  | .bare => nvr.text
  | .front epoch => epoch ++ ":" ++ nvr.text
  | .inner epoch => nvr.name ++ "-" ++ epoch ++ ":" ++ nvr.version ++ "-" ++ nvr.release
  | .back epoch => nvr.text ++ ":" ++ epoch

end Spelling

theorem toList_text (nvr : Nvr) :
  nvr.text.toList
    = nvr.name.toList ++ '-' :: (nvr.version.toList ++ '-' :: nvr.release.toList)
  := by
  simp [Nvr.text, String.toList_append]

theorem toList_front (nvr : Nvr) (epoch : String) :
  ((Spelling.front epoch).text nvr).toList = epoch.toList ++ ':' :: nvr.text.toList
  := by
  simp [Spelling.text, String.toList_append]

theorem toList_back (nvr : Nvr) (epoch : String) :
  ((Spelling.back epoch).text nvr).toList = nvr.text.toList ++ ':' :: epoch.toList
  := by
  simp [Spelling.text, String.toList_append]

theorem toList_inner (nvr : Nvr) (epoch : String) :
  ((Spelling.inner epoch).text nvr).toList
    = nvr.name.toList
      ++ '-' :: ((epoch.toList ++ ':' :: nvr.version.toList) ++ '-' :: nvr.release.toList)
  := by
  simp [Spelling.text, String.toList_append]

/-- With an epoch before the version, the colon has dashes on both sides. -/
theorem toList_inner_eq_within (nvr : Nvr) (epoch : String) :
  ((Spelling.inner epoch).text nvr).toList
    = (nvr.name.toList ++ '-' :: epoch.toList)
      ++ ':' :: (nvr.version.toList ++ '-' :: nvr.release.toList)
  := by
  simp [toList_inner]

/-- The name of a build goes on behind a colon that has a dash before it. -/
def HidesColon (nvr : Nvr) : Prop :=
  ∃ before after : String, nvr.name = before ++ ":" ++ after ∧ '-' ∈ before.toList
    ∧ ':' ∉ before.toList ∧ ':' ∉ after.toList

/-- The parts of a build can be told apart in a spelling of it. -/
structure Spelling.Suits (s : Spelling) (nvr : Nvr) : Prop where
  name : ':' ∉ nvr.name.toList ∨ s = .bare ∧ nvr.HidesColon
  version : ∀ c ∈ ['-', ':'], c ∉ nvr.version.toList
  release : ∀ c ∈ ['-', ':'], c ∉ nvr.release.toList

section

variable {nvr : Nvr} {s : Spelling} {text : List Char}

/-- A build is read if it is what is left when the text is split. -/
theorem read_eq_ok_iff :
  read text = .ok nvr
    ↔ ∃ build outer version epoch, LeavesBuild (afterLast '/' text) build outer
      ∧ splitParts? build = some (nvr.name.toList, version, nvr.release.toList)
      ∧ splitInnerEpoch outer version = (epoch, nvr.version.toList)
      ∧ NamesEpoch epoch nvr.epoch
  := by
  constructor
  · intro h
    cases ho : splitOuterEpoch? (afterLast '/' text) with
    | none =>
      rw [read, ho] at h
      cases h
    | some split =>
      obtain ⟨build, outer⟩ := split
      cases hp : splitParts? build with
      | none =>
        simp only [read, ho, hp] at h
        cases h
      | some parts =>
        obtain ⟨name, version, release⟩ := parts
        cases hi : splitInnerEpoch outer version with
        | mk epoch inner =>
          obtain ⟨hepoch, hname, hversion, hrelease⟩ := (read_eq_ok_iff_of_split ho hp hi).1 h
          refine ⟨build, outer, version, epoch, splitOuterEpoch?_eq_some_iff.1 ho, ?_, ?_, hepoch⟩
          · rw [hp, hname, hrelease, String.toList_ofList, String.toList_ofList]
          · rw [hi, hversion, String.toList_ofList]
  · rintro ⟨build, outer, version, epoch, hleaves, hp, hi, hepoch⟩
    apply (read_eq_ok_iff_of_split (splitOuterEpoch?_eq_some_iff.2 hleaves) hp hi).2
    simp only [String.ofList_toList, and_true]
    apply hepoch

/-! ### Spelled texts are read -/

theorem Spelling.Suits.splitParts?_eq (h : s.Suits nvr) :
  splitParts? nvr.text.toList
    = some (nvr.name.toList, nvr.version.toList, nvr.release.toList)
  := splitParts?_eq_some_iff.2
    ⟨toList_text nvr, h.version '-' List.mem_cons_self, h.release '-' List.mem_cons_self⟩

theorem mem_text_iff {c : Char} (hc : c ≠ '-') :
  c ∈ nvr.text.toList ↔ c ∈ nvr.name.toList ∨ c ∈ nvr.version.toList ∨ c ∈ nvr.release.toList
  := by
  rw [toList_text]
  simp [hc]

theorem dash_mem_text (nvr : Nvr) :
  '-' ∈ nvr.text.toList
  := by
  rw [toList_text]
  simp

/-- Without an epoch the whole text is left for the three parts. -/
theorem leavesBuild_bare (h : Spelling.bare.Suits nvr) :
  LeavesBuild nvr.text.toList nvr.text.toList []
  := by
  have hversion := h.version ':' (by decide)
  have hrelease := h.release ':' (by decide)
  rcases h.name with hname | ⟨-, before, after, hname, hdash, hbefore, hafter⟩
  · apply LeavesBuild.absent
    rw [mem_text_iff (by decide), not_or, not_or]
    exact ⟨hname, hversion, hrelease⟩
  · have htext : nvr.text.toList = before.toList ++ ':' ::
        (after.toList ++ '-' :: (nvr.version.toList ++ '-' :: nvr.release.toList)) := by
      simp [toList_text, hname, String.toList_append]
    rw [htext]
    apply LeavesBuild.within hbefore _ hdash (by simp)
    simp [hafter, hversion, hrelease]

theorem Spelling.Suits.colon_not_mem (h : s.Suits nvr) (hs : s ≠ .bare) :
  ':' ∉ nvr.text.toList
  := by
  have hname : ':' ∉ nvr.name.toList := by
    rcases h.name with hname | ⟨hbare, -⟩
    · apply hname
    · cases hs hbare
  rw [mem_text_iff (by decide), not_or, not_or]
  exact ⟨hname, h.version ':' (by decide), h.release ':' (by decide)⟩

/-- A text that leaves the three parts, and an epoch outside of the version, is read. -/
theorem read_of_leavesBuild {epoch : List Char}
    (h : LeavesBuild (afterLast '/' text) nvr.text.toList epoch)
    (hepoch : NamesEpoch epoch nvr.epoch) (hs : s.Suits nvr) :
  read text = .ok nvr
  := by
  have hversion := hs.version ':' (by decide)
  apply read_eq_ok_iff.2
  exact ⟨_, _, _, _, h, hs.splitParts?_eq, splitInnerEpoch_of_not_mem hversion epoch, hepoch⟩

/-- An epoch before the version has dashes on both sides, and is found when the parts are. -/
theorem read_of_inner {epoch : String}
    (htext : afterLast '/' text = ((Spelling.inner epoch).text nvr).toList)
    (hepoch : NamesEpoch epoch.toList nvr.epoch) (hs : (Spelling.inner epoch).Suits nvr) :
  read text = .ok nvr
  := by
  have hdash := hepoch.not_mem (c := '-') (by decide)
  have hcolon := hepoch.not_mem (c := ':') (by decide)
  have hleaves : LeavesBuild (afterLast '/' text) (afterLast '/' text) [] := by
    have hparts := hs.colon_not_mem (by simp)
    rw [mem_text_iff (by decide), not_or, not_or] at hparts
    rw [htext, toList_inner_eq_within]
    apply LeavesBuild.within
    · simp [hparts, hcolon]
    · simp [hparts]
    · simp
    · simp
  have hparts : splitParts? (afterLast '/' text) = some (nvr.name.toList,
      epoch.toList ++ ':' :: nvr.version.toList, nvr.release.toList) := by
    apply splitParts?_eq_some_iff.2
    rw [htext, toList_inner]
    simp [hdash, hs.version, hs.release]
  apply read_eq_ok_iff.2
  exact ⟨_, _, _, _, hleaves, hparts, splitInnerEpoch_nil_append hcolon _, hepoch⟩

theorem read_of_spelling (htext : afterLast '/' text = (s.text nvr).toList)
    (hepoch : NamesEpoch s.epoch.toList nvr.epoch) (hs : s.Suits nvr) :
  read text = .ok nvr
  := by
  have hdash := hepoch.not_mem (c := '-') (by decide)
  have hcolon := hepoch.not_mem (c := ':') (by decide)
  cases s with
  | bare =>
    apply read_of_leavesBuild _ hepoch hs
    rw [htext]
    apply leavesBuild_bare hs
  | front epoch =>
    apply read_of_leavesBuild _ hepoch hs
    rw [htext, toList_front]
    apply LeavesBuild.front hcolon (hs.colon_not_mem (by simp)) hdash (dash_mem_text nvr)
  | inner epoch => apply read_of_inner htext hepoch hs
  | back epoch =>
    apply read_of_leavesBuild _ hepoch hs
    rw [htext, toList_back]
    apply LeavesBuild.back (hs.colon_not_mem (by simp)) hcolon hdash

/-! ### Read texts are spelled -/

/-- Where the three parts are left without a colon, they are the ones of the build. -/
theorem eq_text_of_colon_not_mem {build outer version epoch : List Char} (hcolon : ':' ∉ build)
    (hp : splitParts? build = some (nvr.name.toList, version, nvr.release.toList))
    (hi : splitInnerEpoch outer version = (epoch, nvr.version.toList)) :
  build = nvr.text.toList ∧ outer = epoch ∧ ∀ s : Spelling, s.Suits nvr
  := by
  obtain ⟨rfl, hversion, hrelease⟩ := splitParts?_eq_some_iff.1 hp
  have hparts : ':' ∉ nvr.name.toList ∧ ':' ∉ version ∧ ':' ∉ nvr.release.toList := by
    simpa using hcolon
  obtain ⟨rfl, rfl⟩ := Prod.mk.inj ((splitInnerEpoch_of_not_mem hparts.2.1 outer).symm.trans hi)
  refine ⟨(toList_text nvr).symm, rfl, fun s => ⟨.inl hparts.1, ?_, ?_⟩⟩
  · simp [hversion, hparts]
  · simp [hrelease, hparts]

section

variable {before after : List Char} (hb : ':' ∉ before) (ha : ':' ∉ after)
include hb ha

/-- A version that holds the only colon is split there, and no other part has one. -/
theorem exists_inner_of_within {version epoch : List Char} (hversion : ':' ∈ version)
    (hp : splitParts? (before ++ ':' :: after)
      = some (nvr.name.toList, version, nvr.release.toList))
    (hi : splitInnerEpoch [] version = (epoch, nvr.version.toList)) :
  ∃ s : Spelling, before ++ ':' :: after = (s.text nvr).toList ∧ epoch = s.epoch.toList
    ∧ s.Suits nvr
  := by
  obtain ⟨htext, hdash, hrelease⟩ := splitParts?_eq_some_iff.1 hp
  obtain ⟨own, inner, rfl, hown⟩ := List.eq_append_cons_of_mem hversion
  obtain ⟨rfl, rfl⟩ := Prod.mk.inj ((splitInnerEpoch_nil_append hown inner).symm.trans hi)
  have hsplit : before ++ ':' :: after = (nvr.name.toList ++ '-' :: own)
      ++ ':' :: (nvr.version.toList ++ '-' :: nvr.release.toList) := by
    simp [htext]
  obtain ⟨rfl, -, rfl⟩ := (List.append_cons_inj_of_notMem hb ha).1 hsplit
  simp only [List.mem_append, List.mem_cons, not_or] at hb ha hdash
  refine ⟨.inner (.ofList own), ?_, ?_, ?_⟩
  · simp [toList_inner]
  · simp [Spelling.epoch]
  · refine ⟨.inl hb.1, ?_, ?_⟩
    · simp [ha, hdash]
    · simp [ha, hrelease]

/-- A release without a dash does not hold a colon that has dashes behind it. -/
theorem colon_not_mem_release (hafter : '-' ∈ after)
    (htext : before ++ ':' :: after = nvr.text.toList) (hrelease : '-' ∉ nvr.release.toList) :
  ':' ∉ nvr.release.toList
  := by
  intro hmem
  obtain ⟨front, back, hsplit⟩ := List.append_of_mem hmem
  have hwhole : before ++ ':' :: after
      = (nvr.name.toList ++ '-' :: (nvr.version.toList ++ '-' :: front)) ++ ':' :: back := by
    simp [htext, toList_text, hsplit]
  obtain ⟨-, -, rfl⟩ := (List.append_cons_inj_of_notMem hb ha).1 hwhole
  apply hrelease
  simp [hsplit, hafter]

/-- A name that holds the only colon goes on behind it. -/
theorem hidesColon_of_mem (hbefore : '-' ∈ before)
    (htext : before ++ ':' :: after = nvr.text.toList) (hname : ':' ∈ nvr.name.toList) :
  nvr.HidesColon
  := by
  obtain ⟨front, back, hsplit⟩ := List.append_of_mem hname
  have hwhole : before ++ ':' :: after
      = front ++ ':' :: (back ++ '-' :: (nvr.version.toList ++ '-' :: nvr.release.toList)) := by
    simp [htext, toList_text, hsplit]
  obtain ⟨rfl, -, rfl⟩ := (List.append_cons_inj_of_notMem hb ha).1 hwhole
  simp only [List.mem_append, not_or] at ha
  refine ⟨.ofList before, .ofList back, ?_, ?_⟩
  · apply String.toList_inj.1
    simp [hsplit, String.toList_append]
  · simp [hbefore, hb, ha]

/-- If the version does not hold the only colon, with dashes on both sides, then the name does. -/
theorem suits_bare_of_within (hbefore : '-' ∈ before) (hafter : '-' ∈ after)
    (htext : before ++ ':' :: after = nvr.text.toList) (hversion : ':' ∉ nvr.version.toList)
    (hdash : '-' ∉ nvr.version.toList) (hrelease : '-' ∉ nvr.release.toList) :
  Spelling.bare.Suits nvr
  := by
  have hcolon := colon_not_mem_release hb ha hafter htext hrelease
  have hname : ':' ∈ nvr.name.toList := by
    have hmem : ':' ∈ nvr.text.toList := by simp [← htext]
    rw [mem_text_iff (by decide)] at hmem
    simpa [hversion, hcolon] using hmem
  have hhides := hidesColon_of_mem hb ha hbefore htext hname
  refine ⟨.inr ⟨rfl, hhides⟩, ?_, ?_⟩
  · simp [hversion, hdash]
  · simp [hcolon, hrelease]

end

theorem exists_spelling_of_read (h : read text = .ok nvr) :
  ∃ s : Spelling, afterLast '/' text = (s.text nvr).toList ∧ NamesEpoch s.epoch.toList nvr.epoch
    ∧ s.Suits nvr
  := by
  obtain ⟨build, outer, version, epoch, hleaves, hp, hi, hepoch⟩ := read_eq_ok_iff.1 h
  generalize afterLast '/' text = rest at hleaves ⊢
  cases hleaves with
  | absent hcolon =>
    obtain ⟨hbuild, rfl, hsuits⟩ := eq_text_of_colon_not_mem hcolon hp hi
    exact ⟨.bare, hbuild, hepoch, hsuits _⟩
  | back hb he hdash =>
    obtain ⟨hbuild, rfl, hsuits⟩ := eq_text_of_colon_not_mem hb hp hi
    refine ⟨.back (.ofList outer), ?_, ?_, hsuits _⟩
    · rw [toList_back, hbuild, String.toList_ofList]
    · rwa [Spelling.epoch, String.toList_ofList]
  | front he hb hdash hdashes =>
    obtain ⟨hbuild, rfl, hsuits⟩ := eq_text_of_colon_not_mem hb hp hi
    refine ⟨.front (.ofList outer), ?_, ?_, hsuits _⟩
    · rw [toList_front, hbuild, String.toList_ofList]
    · rwa [Spelling.epoch, String.toList_ofList]
  | within hb ha hbefore hafter =>
    by_cases hversion : ':' ∈ version
    · obtain ⟨s, htext, rfl, hs⟩ := exists_inner_of_within hb ha hversion hp hi
      exact ⟨s, htext, hepoch, hs⟩
    · obtain ⟨rfl, rfl⟩ := Prod.mk.inj ((splitInnerEpoch_of_not_mem hversion []).symm.trans hi)
      obtain ⟨htext, hdash, hrelease⟩ := splitParts?_eq_some_iff.1 hp
      rw [← toList_text] at htext
      have hs := suits_bare_of_within hb ha hbefore hafter htext hversion hdash hrelease
      exact ⟨.bare, htext, hepoch, hs⟩

end

/-! ### Paths -/

/-- A path is empty or ends with a slash. -/
def IsPath (path : String) : Prop := path = "" ∨ ∃ folder : String, path = folder ++ "/"

theorem afterLast_of_isPath {path rest : String} (hpath : IsPath path) (hrest : '/' ∉ rest.toList) :
  afterLast '/' (path ++ rest).toList = rest.toList
  := by
  apply afterLast_eq_iff.2 ⟨hrest, _⟩
  rcases hpath with rfl | ⟨folder, rfl⟩
  · exact .inl (by simp)
  · exact .inr ⟨folder.toList, by simp [String.toList_append]⟩

theorem exists_path (text : String) :
  ∃ path rest, IsPath path ∧ '/' ∉ rest.toList ∧ text = path ++ rest
  := by
  obtain ⟨hrest, hwhole | ⟨folder, hfolder⟩⟩ :=
    afterLast_eq_iff.1 (rfl : afterLast '/' text.toList = _)
  · exact ⟨"", text, .inl rfl, hwhole ▸ hrest, by simp⟩
  · refine ⟨.ofList folder ++ "/", .ofList (afterLast '/' text.toList), .inr ⟨_, rfl⟩, ?_, ?_⟩
    · rwa [String.toList_ofList]
    · apply String.toList_inj.1
      simp [String.toList_append, ← hfolder]

theorem parse_eq_ok_iff_read {text : String} {nvr : Nvr} :
  parse text = .ok nvr ↔ read text.toList = .ok nvr
  := by
  rw [parse]
  cases read text.toList with
  | error flaw =>
    constructor
    · rintro ⟨⟩
    · rintro ⟨⟩
  | ok own =>
    constructor
    · rintro ⟨⟩
      rfl
    · rintro ⟨⟩
      rfl

/-- A text is rejected with what is wrong with it. -/
theorem parse_eq_error_iff {text : String} {e : Error} :
  parse text = .error e ↔ ∃ flaw, read text.toList = .error flaw ∧ e = .invalidNvr text flaw
  := by
  rw [parse]
  cases read text.toList with
  | error flaw => simp [Except.mapError, eq_comm]
  | ok nvr => simp [Except.mapError]

/-- Behind a path, a text is read as the build that it spells. -/
theorem parse_append_eq_ok_iff {path rest : String} (hpath : IsPath path)
    (hrest : '/' ∉ rest.toList) {nvr : Nvr} :
  parse (path ++ rest) = .ok nvr
    ↔ ∃ s : Spelling, rest = s.text nvr ∧ NamesEpoch s.epoch.toList nvr.epoch ∧ s.Suits nvr
  := by
  have hlast := afterLast_of_isPath hpath hrest
  rw [parse_eq_ok_iff_read]
  constructor
  · intro h
    obtain ⟨s, htext, hepoch, hs⟩ := exists_spelling_of_read h
    exact ⟨s, String.toList_inj.1 (hlast.symm.trans htext), hepoch, hs⟩
  · rintro ⟨s, rfl, hepoch, hs⟩
    apply read_of_spelling hlast hepoch hs

/-! ### Plain builds -/

/-- No part of a build has a character that could set another part off. -/
structure IsPlain (nvr : Nvr) : Prop where
  name : ∀ c ∈ [':', '/'], c ∉ nvr.name.toList
  version : ∀ c ∈ ['-', ':', '/'], c ∉ nvr.version.toList
  release : ∀ c ∈ ['-', ':', '/'], c ∉ nvr.release.toList

theorem IsPlain.suits {nvr : Nvr} (h : nvr.IsPlain) (s : Spelling) :
  s.Suits nvr
  where
  name := .inl (h.name ':' (by decide))
  version c hc := h.version c (List.mem_append_left ['/'] hc)
  release c hc := h.release c (List.mem_append_left ['/'] hc)

theorem slash_mem_spelling_iff {nvr : Nvr} {s : Spelling} :
  '/' ∈ (s.text nvr).toList ↔ '/' ∈ nvr.text.toList ∨ '/' ∈ s.epoch.toList
  := by
  rw [mem_text_iff (by decide)]
  cases s with
  | bare => simp [Spelling.text, Spelling.epoch, mem_text_iff]
  | front epoch => simp [toList_front, Spelling.epoch, mem_text_iff, or_comm]
  | inner epoch =>
    rw [toList_inner]
    simp only [List.mem_append, List.mem_cons, Spelling.epoch]
    tauto
  | back epoch => simp [toList_back, Spelling.epoch, mem_text_iff]

theorem IsPlain.slash_not_mem {nvr : Nvr} {s : Spelling} (h : nvr.IsPlain)
    (hepoch : NamesEpoch s.epoch.toList nvr.epoch) :
  '/' ∉ (s.text nvr).toList
  := by
  rw [slash_mem_spelling_iff, mem_text_iff (by decide)]
  simp [h.name, h.version, h.release, hepoch.not_mem]

/-- Reading inverts all spellings and invents nothing.  A plain build is read from each spelling of
it, behind any path; the epoch can be any text that names it, so also the number itself.  And what
is read from a text is spelled by what stands after its last slash, with a version and a release
that have neither a dash nor a slash. -/
theorem parse_inverts_spelling :
  (∀ (nvr : Nvr) (path : String) (s : Spelling), nvr.IsPlain → IsPath path →
      NamesEpoch s.epoch.toList nvr.epoch → parse (path ++ s.text nvr) = .ok nvr)
    ∧ (∀ n : UInt64, NamesEpoch (toString n.toNat).toList (some n))
    ∧ ∀ (text : String) (nvr : Nvr), parse text = .ok nvr →
      ∃ (path : String) (s : Spelling), IsPath path ∧ text = path ++ s.text nvr
        ∧ '/' ∉ (s.text nvr).toList ∧ NamesEpoch s.epoch.toList nvr.epoch
        ∧ (∀ c ∈ ['-', '/'], c ∉ nvr.version.toList) ∧ ∀ c ∈ ['-', '/'], c ∉ nvr.release.toList
  := by
  refine ⟨?_, fun n => .number (denotes_toString n.toNat), ?_⟩
  · intro nvr path s hplain hpath hepoch
    apply (parse_append_eq_ok_iff hpath (hplain.slash_not_mem hepoch)).2
    exact ⟨s, rfl, hepoch, hplain.suits s⟩
  · intro text nvr h
    obtain ⟨path, rest, hpath, hrest, rfl⟩ := exists_path text
    obtain ⟨s, rfl, hepoch, hs⟩ := (parse_append_eq_ok_iff hpath hrest).1 h
    have hslash := hrest
    rw [slash_mem_spelling_iff, mem_text_iff (by decide), not_or, not_or, not_or] at hslash
    obtain ⟨⟨-, hversion, hrelease⟩, -⟩ := hslash
    refine ⟨path, s, hpath, rfl, hrest, hepoch, ?_, ?_⟩
    · simp [hs.version, hversion]
    · simp [hs.release, hrelease]

/-- A build with an epoch and a dash in its name. -/
def kernelBuild : Nvr where
  name := "kernel-rt"
  version := "5.14.0"
  release := "70.el9"
  epoch := some 7

/-- The epoch can stand before the version, and an empty one is none. -/
theorem parse_inverts_spelling_kernelBuild :
  kernelBuild.IsPlain ∧ IsPath "path/to/" ∧ NamesEpoch (toString (7 : UInt64).toNat).toList (some 7)
    ∧ "path/to/kernel-rt-7:5.14.0-70.el9"
      = "path/to/" ++ (Spelling.inner (toString (7 : UInt64).toNat)).text kernelBuild
    ∧ parse "path/to/kernel-rt-7:5.14.0-70.el9" = .ok kernelBuild
    ∧ parse ":kernel-rt-5.14.0-70.el9" = .ok { kernelBuild with epoch := none }
    ∧ ∃ (path : String) (s : Spelling), IsPath path
      ∧ ":kernel-rt-5.14.0-70.el9" = path ++ s.text { kernelBuild with epoch := none }
      ∧ '/' ∉ (s.text { kernelBuild with epoch := none }).toList ∧ NamesEpoch s.epoch.toList none
      ∧ (∀ c ∈ ['-', '/'], c ∉ kernelBuild.version.toList)
      ∧ ∀ c ∈ ['-', '/'], c ∉ kernelBuild.release.toList
  := by
  obtain ⟨hreads, hnames, hspelled⟩ := parse_inverts_spelling
  have hplain : kernelBuild.IsPlain := by
    constructor
    case name =>
      rw [List.forall_mem_cons, List.forall_mem_singleton]
      decide +kernel
    case version =>
      rw [List.forall_mem_cons, List.forall_mem_cons, List.forall_mem_singleton]
      decide +kernel
    case release =>
      rw [List.forall_mem_cons, List.forall_mem_cons, List.forall_mem_singleton]
      decide +kernel
  have hpath : IsPath "path/to/" := .inr ⟨"path/to", by decide +kernel⟩
  have htext : "path/to/kernel-rt-7:5.14.0-70.el9"
      = "path/to/" ++ (Spelling.inner (toString (7 : UInt64).toNat)).text kernelBuild := by
    decide +kernel
  have hempty : parse ":kernel-rt-5.14.0-70.el9" = .ok { kernelBuild with epoch := none } := by
    decide +kernel
  refine ⟨hplain, hpath, hnames 7, htext, ?_, hempty, hspelled _ _ hempty⟩
  rw [htext]
  apply hreads kernelBuild "path/to/" (.inner (toString (7 : UInt64).toNat)) hplain hpath
  apply hnames

end LayeredConfig.Nvr
