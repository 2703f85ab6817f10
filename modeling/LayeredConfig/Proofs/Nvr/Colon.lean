import LayeredConfig.Proofs.Nvr.Spelling

/-!
# Colons in the text of a build

A colon sets off an epoch at one of three places.  If dashes stand on both sides of it, then the
epoch is looked for in the version alone, and so a colon with more than one dash behind it is left
in the name, whatever stands before it (`colon_left_in_name`).  This is the only other way in which
a text with a colon is read (`colon_sets_off_epoch_or_splits_name`).
-/

namespace LayeredConfig.Nvr

open Text

variable {path rest : String} {nvr : Nvr} {s : Spelling}

/-- A text spells a plain build with a text for its epoch. -/
def SetsOffEpoch (rest : String) : Prop :=
  ∃ (nvr : Nvr) (s : Spelling), s ≠ .bare ∧ nvr.IsPlain ∧ NamesEpoch s.epoch.toList nvr.epoch
    ∧ rest = s.text nvr

/-- The only colon of a text has a dash before it and more than one behind it. -/
def SplitsName (rest : String) : Prop :=
  ∃ before after : String, rest = before ++ ":" ++ after ∧ ':' ∉ before.toList
    ∧ ':' ∉ after.toList ∧ '-' ∈ before.toList ∧ 2 ≤ after.toList.count '-'

theorem splitsName_of_colon_mem (hs : s.Suits nvr) (h : ':' ∈ nvr.name.toList) :
  SplitsName (s.text nvr)
  := by
  rcases hs.name with hname | ⟨rfl, before, after, hname, hdash, hbefore, hafter⟩
  · cases hname h
  · refine ⟨before, after ++ "-" ++ nvr.version ++ "-" ++ nvr.release, ?_, hbefore, ?_, hdash, ?_⟩
    · simp [Spelling.text, Nvr.text, hname, String.append_assoc]
    · simp [String.toList_append, hafter, hs.version, hs.release]
    · simp [String.toList_append, List.count_append]
      omega

/-- An epoch at one of the three places has no dash before it or at most one behind it. -/
theorem colon_mem_of_splitsName (hs : s.Suits nvr) (hepoch : NamesEpoch s.epoch.toList nvr.epoch)
    (h : SplitsName (s.text nvr)) :
  ':' ∈ nvr.name.toList
  := by
  obtain ⟨before, after, htext, hb, ha, hdash, hdashes⟩ := h
  have hlist : before.toList ++ ':' :: after.toList = (s.text nvr).toList := by
    simp [htext, String.toList_append]
  have hinj : ∀ x y, before.toList ++ ':' :: after.toList = x ++ ':' :: y →
      before.toList = x ∧ after.toList = y := by
    intro x y h
    obtain ⟨hx, -, hy⟩ := (List.append_cons_inj_of_notMem hb ha).1 h
    exact ⟨hx, hy⟩
  have hfree := hepoch.not_mem (c := '-') (by decide)
  cases s with
  | bare =>
    have hmem : ':' ∈ nvr.text.toList := by
      rw [Spelling.text] at hlist
      simp [← hlist]
    rw [mem_text_iff (by decide)] at hmem
    simpa [hs.version, hs.release] using hmem
  | front epoch =>
    rw [toList_front] at hlist
    obtain ⟨hbefore, -⟩ := hinj _ _ hlist
    rw [hbefore] at hdash
    cases hfree hdash
  | back epoch =>
    have hnone : epoch.toList.count '-' = 0 := List.count_eq_zero_of_not_mem hfree
    rw [toList_back] at hlist
    obtain ⟨-, hafter⟩ := hinj _ _ hlist
    rw [hafter, hnone] at hdashes
    omega
  | inner epoch =>
    have hversion := hs.version '-' (by decide)
    have hrelease := hs.release '-' (by decide)
    rw [toList_inner_eq_within] at hlist
    obtain ⟨-, hafter⟩ := hinj _ _ hlist
    rw [hafter, List.count_append, List.count_cons_self, List.count_eq_zero_of_not_mem hversion,
      List.count_eq_zero_of_not_mem hrelease] at hdashes
    omega

/-- A text whose colon splits the name is left whole, and read as a build without an epoch. -/
theorem exists_bare_of_splitsName (h : SplitsName rest) :
  ∃ nvr : Nvr, rest = nvr.text ∧ nvr.epoch = none ∧ Spelling.bare.Suits nvr
  := by
  obtain ⟨before, after, rfl, hb, ha, hdash, hdashes⟩ := h
  obtain ⟨front, release, hafter, hrelease⟩ :=
    exists_append_of_mem (List.count_pos_iff.1 (by omega) : '-' ∈ after.toList)
  have hfront : '-' ∈ front := by
    rw [hafter, List.count_append, List.count_cons_self,
      List.count_eq_zero_of_not_mem hrelease] at hdashes
    apply List.count_pos_iff.1
    omega
  obtain ⟨name, version, rfl, hversion⟩ := exists_append_of_mem hfront
  have hcolon : ':' ∉ name ∧ ':' ∉ version ∧ ':' ∉ release := by
    simpa [hafter, and_assoc] using ha
  refine ⟨⟨before ++ ":" ++ .ofList name, .ofList version, .ofList release, none⟩, ?_, rfl, ?_⟩
  · apply String.toList_inj.1
    simp [Nvr.text, String.toList_append, hafter]
  · refine ⟨.inr ⟨rfl, before, .ofList name, rfl, hdash, hb, ?_⟩, ?_, ?_⟩
    · simp [hcolon]
    · simp [hcolon, hversion]
    · simp [hcolon, hrelease]

theorem not_setsOffEpoch_of_splitsName (h : SplitsName rest) :
  ¬ SetsOffEpoch rest
  := by
  rintro ⟨nvr, s, -, hplain, hepoch, rfl⟩
  apply hplain.name ':' (by decide)
  apply colon_mem_of_splitsName (hplain.suits s) hepoch h

theorem isPlain_of_suits (hs : s.Suits nvr) (hname : ':' ∉ nvr.name.toList)
    (hslash : '/' ∉ (s.text nvr).toList) :
  nvr.IsPlain
  := by
  rw [slash_mem_spelling_iff, mem_text_iff (by decide), not_or, not_or, not_or] at hslash
  constructor
  case name => simp [hname, hslash]
  case version => simp [hs.version, hslash]
  case release => simp [hs.release, hslash]

theorem exists_flaw_of_parse {text : String} {e : Error} (h : parse text = .error e) :
  ∃ flaw, e = .invalidNvr text flaw
  := (parse_eq_error_iff.1 h).imp fun _ hflaw => hflaw.2

/-- No version and no release that is read has a colon, and a name has one exactly if the only colon
of the text splits the name.  A text with a colon that does not set off an epoch, empty or a number,
is rejected unless the colon splits the name. -/
theorem colon_sets_off_epoch_or_splits_name (hpath : IsPath path) (hrest : '/' ∉ rest.toList) :
  (∀ nvr, parse (path ++ rest) = .ok nvr → ':' ∉ nvr.version.toList ∧ ':' ∉ nvr.release.toList
      ∧ (':' ∈ nvr.name.toList ↔ SplitsName rest))
    ∧ (':' ∈ rest.toList → ¬ SetsOffEpoch rest →
      ((∃ flaw, parse (path ++ rest) = .error (.invalidNvr (path ++ rest) flaw))
        ↔ ¬ SplitsName rest))
  := by
  have hparse : ∀ nvr, parse (path ++ rest) = .ok nvr ↔ ∃ s : Spelling, rest = s.text nvr
      ∧ NamesEpoch s.epoch.toList nvr.epoch ∧ s.Suits nvr :=
    fun _ => parse_append_eq_ok_iff hpath hrest
  constructor
  · intro nvr h
    obtain ⟨s, rfl, hepoch, hs⟩ := (hparse nvr).1 h
    refine ⟨hs.version ':' (by decide), hs.release ':' (by decide), splitsName_of_colon_mem hs, ?_⟩
    apply colon_mem_of_splitsName hs hepoch
  · intro hcolon hepochs
    constructor
    · rintro ⟨flaw, herror⟩ hsplits
      obtain ⟨nvr, rfl, hnone, hs⟩ := exists_bare_of_splitsName hsplits
      have hok := (hparse nvr).2 ⟨.bare, rfl, hnone ▸ NamesEpoch.none, hs⟩
      cases herror.symm.trans hok
    · intro hsplits
      cases hresult : parse (path ++ rest) with
      | error e =>
        obtain ⟨flaw, rfl⟩ := exists_flaw_of_parse hresult
        exact ⟨flaw, rfl⟩
      | ok nvr =>
        obtain ⟨s, rfl, hepoch, hs⟩ := (hparse nvr).1 hresult
        have hname : ':' ∉ nvr.name.toList := fun hmem => hsplits (splitsName_of_colon_mem hs hmem)
        have hplain := isPlain_of_suits hs hname hrest
        have hbare : s ≠ .bare := by
          rintro rfl
          rw [Spelling.text, mem_text_iff (by decide)] at hcolon
          simp [hplain.name, hplain.version, hplain.release] at hcolon
        cases hepochs ⟨nvr, s, hbare, hplain, hepoch, rfl⟩

/-- The text is read, with a colon in the name, although the colon sets off no epoch. -/
theorem colon_splits_name_kernel :
  IsPath "path/to/" ∧ '/' ∉ "kernel-1:rt-5.14.0-70.el9".toList
    ∧ parse ("path/to/" ++ "kernel-1:rt-5.14.0-70.el9")
      = .ok ⟨"kernel-1:rt", "5.14.0", "70.el9", none⟩
    ∧ ':' ∉ "5.14.0".toList ∧ ':' ∉ "70.el9".toList
    ∧ (':' ∈ "kernel-1:rt".toList ↔ SplitsName "kernel-1:rt-5.14.0-70.el9")
    ∧ ':' ∈ "kernel-1:rt-5.14.0-70.el9".toList ∧ ¬ SetsOffEpoch "kernel-1:rt-5.14.0-70.el9"
    ∧ ((∃ flaw, parse ("path/to/" ++ "kernel-1:rt-5.14.0-70.el9")
          = .error (.invalidNvr ("path/to/" ++ "kernel-1:rt-5.14.0-70.el9") flaw))
        ↔ ¬ SplitsName "kernel-1:rt-5.14.0-70.el9")
  := by
  have hpath : IsPath "path/to/" := .inr ⟨"path/to", by decide +kernel⟩
  have hrest : '/' ∉ "kernel-1:rt-5.14.0-70.el9".toList := by decide +kernel
  have hparse : parse ("path/to/" ++ "kernel-1:rt-5.14.0-70.el9")
      = .ok ⟨"kernel-1:rt", "5.14.0", "70.el9", none⟩ := by decide +kernel
  have hcolon : ':' ∈ "kernel-1:rt-5.14.0-70.el9".toList := by decide +kernel
  obtain ⟨hread, hrejected⟩ := colon_sets_off_epoch_or_splits_name hpath hrest
  obtain ⟨hversion, hrelease, hname⟩ := hread _ hparse
  have hepoch := not_setsOffEpoch_of_splitsName (hname.1 (by decide +kernel))
  exact ⟨hpath, hrest, hparse, hversion, hrelease, hname, hcolon, hepoch, hrejected hcolon hepoch⟩

/-- An epoch that is not a number is refused before a name, but if it has a dash then it is read as
the beginning of the name: the colon of the second text sets off no epoch, and the text is not
rejected. -/
theorem colon_left_in_name :
  parse "x:bash-5.1-2" = .error (.invalidNvr "x:bash-5.1-2" (.epoch "x"))
    ∧ parse "x-y:bash-5.1-2" = .ok ⟨"x-y:bash", "5.1", "2", none⟩ ∧ ':' ∈ "x-y:bash".toList
    ∧ ¬ SetsOffEpoch "x-y:bash-5.1-2"
  := by
  refine ⟨by decide +kernel, by decide +kernel, by decide +kernel, ?_⟩
  apply not_setsOffEpoch_of_splitsName
  exact ⟨"x-y", "bash-5.1-2", by decide +kernel, by decide +kernel, by decide +kernel,
    by decide +kernel, by decide +kernel⟩

end LayeredConfig.Nvr
