/-!
# Key-ordered entries

`Entries α` is the type of lists of entries, each a string key and a value.  `find?` is the
value under a key, and `insert` puts a value under a key, replacing the value that is there
and keeping the keys ascending.  `Ascending` says that the keys ascend strictly; entries
that ascend are determined by what `find?` finds in them.
-/

namespace LayeredConfig

/-- A list of entries, each a key and a value. -/
abbrev Entries (α : Type) := List (String × α)

namespace Entries

variable {α : Type}

/-- The value under a key. -/
def find? (key : String) : Entries α → Option α
  | [] => none
  | (k, value) :: rest => if k = key then some value else find? key rest

/-- Puts a value under a key, before the first larger key. -/
def insert (key : String) (value : α) : Entries α → Entries α
  | [] => [(key, value)]
  | (k, v) :: rest =>
    if key < k then (key, value) :: (k, v) :: rest
    else if key = k then (key, value) :: rest
    else (k, v) :: insert key value rest

/-- The keys of the entries. -/
def keys (entries : Entries α) : List String := entries.map (·.1)

/-- Entries put in one after the other, a later value under a key replacing an earlier one. -/
def ofList (entries : List (String × α)) : Entries α :=
  entries.foldl (fun acc e => insert e.1 e.2 acc) []

/-- The keys ascend strictly. -/
def Ascending (entries : Entries α) : Prop :=
  entries.Pairwise fun a b => a.1 < b.1

instance : DecidablePred (Ascending (α := α)) := fun entries =>
  inferInstanceAs (Decidable (entries.Pairwise fun a b => a.1 < b.1))

/-! ### Finding -/

theorem find?_insert_self (key : String) (value : α) (entries : Entries α) :
  find? key (insert key value entries) = some value
  := by
  induction entries with
  | nil => simp [insert, find?]
  | cons e rest ih =>
    obtain ⟨k, v⟩ := e
    rw [insert]
    split
    · simp [find?]
    · split
      · simp [find?]
      · next h => simp [find?, Ne.symm h, ih]

theorem find?_insert_of_ne {key other : String} (h : key ≠ other) (value : α)
    (entries : Entries α) :
  find? other (insert key value entries) = find? other entries
  := by
  induction entries with
  | nil => simp [insert, find?, h]
  | cons e rest ih =>
    obtain ⟨k, v⟩ := e
    rw [insert]
    split
    · simp [find?, h]
    · split
      · next hk => subst hk; simp [find?, h]
      · simp [find?, ih]

theorem find?_insert (key other : String) (value : α) (entries : Entries α) :
  find? other (insert key value entries)
    = if key = other then some value else find? other entries
  := by
  split
  · next h => rw [← h, find?_insert_self]
  · next h => rw [find?_insert_of_ne h]

theorem mem_of_find? {key : String} {value : α} {entries : Entries α}
    (h : find? key entries = some value) :
  (key, value) ∈ entries
  := by
  induction entries with
  | nil => simp [find?] at h
  | cons e rest ih =>
    obtain ⟨k, v⟩ := e
    rw [find?] at h
    split at h
    · next hk => simp_all
    · exact List.mem_cons_of_mem _ (ih h)

/-- Where no key is repeated, every entry is found under its key. -/
theorem find?_of_mem_of_nodup {key : String} {value : α} {entries : Entries α}
    (h : (keys entries).Nodup) (hm : (key, value) ∈ entries) :
  find? key entries = some value
  := by
  induction entries with
  | nil => simp at hm
  | cons e rest ih =>
    obtain ⟨k, v⟩ := e
    obtain ⟨hk, hrest⟩ := List.nodup_cons.1 h
    rcases List.mem_cons.1 hm with heq | hm
    · simp_all [find?]
    · have hne : k ≠ key := by
        rintro rfl
        exact hk (List.mem_map.2 ⟨(k, value), hm, rfl⟩)
      simp [find?, hne, ih hrest hm]

theorem isSome_find?_iff {key : String} {entries : Entries α} :
  (find? key entries).isSome = true ↔ key ∈ keys entries
  := by
  induction entries with
  | nil => simp [find?, keys]
  | cons e rest ih =>
    obtain ⟨k, v⟩ := e
    by_cases h : k = key
    · simp [find?, keys, h]
    · simp [find?, h, ih, keys, Ne.symm h]

theorem mem_keys_iff {key : String} {entries : Entries α} :
  key ∈ keys entries ↔ ∃ value, find? key entries = some value
  := by
  rw [← isSome_find?_iff, Option.isSome_iff_exists]

/-! ### Ascending keys -/

theorem ascending_nil :
  Ascending ([] : Entries α)
  := .nil

theorem mem_insert {key : String} {value : α} {entries : Entries α} {e : String × α}
    (h : e ∈ insert key value entries) :
  e = (key, value) ∨ e ∈ entries
  := by
  induction entries with
  | nil => simpa [insert] using h
  | cons f rest ih =>
    obtain ⟨k, v⟩ := f
    rw [insert] at h
    split at h
    · simpa using h
    · split at h
      · rcases List.mem_cons.1 h with h | h
        · exact .inl h
        · exact .inr (List.mem_cons_of_mem _ h)
      · rcases List.mem_cons.1 h with h | h
        · exact .inr (h ▸ List.mem_cons_self)
        · exact (ih h).imp id (List.mem_cons_of_mem _)

theorem lt_of_not_lt_of_ne {a b : String} (h₁ : ¬a < b) (h₂ : a ≠ b) :
  b < a
  := by
  apply Decidable.byContradiction
  intro h
  exact h₂ (String.le_antisymm (String.not_lt.1 h) (String.not_lt.1 h₁))

/-- Putting a value under a key keeps the keys ascending. -/
theorem Ascending.insert {entries : Entries α} (h : Ascending entries) (key : String)
    (value : α) :
  Ascending (Entries.insert key value entries)
  := by
  induction entries with
  | nil => exact List.pairwise_singleton _ _
  | cons e rest ih =>
    obtain ⟨k, v⟩ := e
    have hk := List.pairwise_cons.1 h
    rw [Entries.insert]
    split
    · next hlt =>
      refine List.pairwise_cons.2 ⟨?_, h⟩
      intro f hf
      rcases List.mem_cons.1 hf with rfl | hf
      · exact hlt
      · exact String.lt_trans hlt (hk.1 f hf)
    · split
      · next heq =>
        subst heq
        exact List.pairwise_cons.2 ⟨hk.1, hk.2⟩
      · next hnlt hne =>
        refine List.pairwise_cons.2 ⟨?_, ih hk.2⟩
        intro f hf
        rcases mem_insert hf with rfl | hf
        · exact lt_of_not_lt_of_ne hnlt hne
        · exact hk.1 f hf

theorem ascending_foldl_insert {β : Type} (f : β → String × α) (items : List β)
    {entries : Entries α} (h : Ascending entries) :
  Ascending (items.foldl (fun acc b => insert (f b).1 (f b).2 acc) entries)
  := by
  induction items generalizing entries with
  | nil => exact h
  | cons b items ih => exact ih (h.insert _ _)

theorem ascending_ofList (entries : List (String × α)) :
  Ascending (ofList entries)
  := ascending_foldl_insert id entries ascending_nil

theorem Ascending.map {β : Type} (f : α → β) {entries : Entries α} (h : Ascending entries) :
  Ascending (entries.map fun e => (e.1, f e.2))
  := List.Pairwise.map _ (fun _ _ hab => hab) h

theorem Ascending.nodup_keys {entries : Entries α} (h : Ascending entries) :
  (keys entries).Nodup
  := by
  apply List.Pairwise.map _ _ h
  intro a b hab heq
  exact String.lt_irrefl _ (heq ▸ hab)

/-- In ascending entries every entry is found under its key. -/
theorem Ascending.find?_of_mem {entries : Entries α} (h : Ascending entries) {key : String}
    {value : α} (hm : (key, value) ∈ entries) :
  find? key entries = some value
  := find?_of_mem_of_nodup h.nodup_keys hm

theorem Ascending.nodup {entries : Entries α} (h : Ascending entries) :
  entries.Nodup
  := by
  refine h.imp ?_
  rintro a _ hab rfl
  exact String.lt_irrefl _ hab

/-- Ascending entries are determined by which entries they are. -/
theorem Ascending.eq_of_mem_iff {m n : Entries α} (hm : Ascending m) (hn : Ascending n)
    (h : ∀ e, e ∈ m ↔ e ∈ n) :
  m = n
  := by
  refine List.Perm.eq_of_pairwise (fun a b _ _ hab hba => ?_) hm hn ?_
  · exact absurd hba (String.lt_asymm hab)
  · exact (List.perm_ext_iff_of_nodup hm.nodup hn.nodup).2 h

/-- Ascending entries are determined by what is found under each key. -/
theorem Ascending.ext {m n : Entries α} (hm : Ascending m) (hn : Ascending n)
    (h : ∀ key, find? key m = find? key n) :
  m = n
  := by
  refine hm.eq_of_mem_iff hn fun e => ?_
  obtain ⟨k, v⟩ := e
  constructor
  · intro he
    exact mem_of_find? (h k ▸ hm.find?_of_mem he)
  · intro he
    exact mem_of_find? ((h k).symm ▸ hn.find?_of_mem he)

/-- Putting a value under a new key adds an entry. -/
theorem perm_insert {key : String} {entries : Entries α} (h : key ∉ keys entries) (value : α) :
  (insert key value entries).Perm ((key, value) :: entries)
  := by
  induction entries with
  | nil => exact .refl _
  | cons e rest ih =>
    obtain ⟨k, v⟩ := e
    obtain ⟨hne, hrest⟩ := not_or.1 (mt List.mem_cons.2 h)
    rw [insert, if_neg hne]
    split
    · exact .refl _
    · exact ((ih hrest).cons _).trans (.swap _ _ _)

/-- Entries of different keys are all there after they are put in one after the other. -/
theorem perm_foldl_insert {entries read : Entries α} (h : (keys (entries ++ read)).Nodup) :
  (entries.foldl (fun acc e => insert e.1 e.2 acc) read).Perm (entries ++ read)
  := by
  induction entries generalizing read with
  | nil => exact .refl _
  | cons e rest ih =>
    have hmiddle : (rest ++ e :: read).Perm (e :: (rest ++ read)) := List.perm_middle
    have hnodup : (keys (rest ++ e :: read)).Nodup := (hmiddle.map _).nodup_iff.2 h
    have hkey : e.1 ∉ keys read := by
      intro hm
      rw [keys, List.map_append, List.map_cons] at hnodup
      exact (List.nodup_cons.1 (List.nodup_append.1 hnodup).2.1).1 hm
    have hinsert := (perm_insert hkey e.2).append_left rest
    exact ((ih ((hinsert.map _).nodup_iff.2 hnodup)).trans hinsert).trans hmiddle

theorem perm_ofList {entries : Entries α} (h : (keys entries).Nodup) :
  (ofList entries).Perm entries
  := by
  have hread : (ofList entries).Perm (entries ++ []) :=
    perm_foldl_insert (by rwa [List.append_nil])
  rwa [List.append_nil] at hread

/-- Entries put in in any order are those that ascend. -/
theorem ofList_of_perm {entries sorted : Entries α} (hp : entries.Perm sorted)
    (h : Ascending sorted) :
  ofList entries = sorted
  := by
  have hkeys : (keys entries).Perm (keys sorted) := hp.map _
  have hread := perm_ofList (hkeys.nodup_iff.2 h.nodup_keys)
  exact (ascending_ofList entries).eq_of_mem_iff h fun e => (hread.trans hp).mem_iff

end Entries

end LayeredConfig
