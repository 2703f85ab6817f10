import LayeredConfig.Release.Document

/-!
# The chain of bases

Every assembly can be built on another one.  `ReleasesDocument.chain` walks from an assembly
to the one it is built on, and so on up to the first name without a parent; it fails when it
meets a name a second time.  `LeadsThrough doc name path` says that the walk from `name` runs
through exactly the names of `path`, in this order.  The chain is the path of the walk
(`chain_eq_ok_iff`), and the chain of a parent is the tail of that of its child
(`chain_parent`).
-/

namespace LayeredConfig.ReleasesDocument

variable {doc : ReleasesDocument}

theorem length_filter_lt_of_mem {α : Type} {p q : α → Bool} {l : List α} {x : α}
    (hpq : ∀ y, p y = true → q y = true) (hx : x ∈ l) (hq : q x = true) (hp : p x = false) :
  (l.filter p).length < (l.filter q).length
  := by
  induction l with
  | nil => simp at hx
  | cons y l ih =>
    have hle : (l.filter p).length ≤ (l.filter q).length := by
      rw [← List.countP_eq_length_filter, ← List.countP_eq_length_filter]
      exact List.countP_mono_left fun z _ => hpq z
    rcases List.mem_cons.1 hx with rfl | hx
    · simp only [List.filter_cons, hp, hq]
      simp only [Bool.false_eq_true, if_false, if_true, List.length_cons]
      omega
    · have ih := ih hx
      cases hpy : p y
      · cases hqy : q y <;> simp only [List.filter_cons, hpy, hqy] <;> simp <;> omega
      · simp only [List.filter_cons, hpy, hpq y hpy]
        simp only [if_true, List.length_cons]
        omega

/-- The names met on the walk from `current`, behind those met before; fails when a name is
met again. -/
def walk (doc : ReleasesDocument) (start : String) (visited : List String) (current : String) :
    Except Error (List String) :=
  if current ∈ visited then
    .error (.cycle start current (visited ++ [current]))
  else
    match _ : doc.parent? current with
    | none => .ok (visited ++ [current])
    | some parent => doc.walk start (visited ++ [current]) parent
termination_by (doc.names.filter fun name => !visited.contains name).length
decreasing_by
  refine length_filter_lt_of_mem (fun y hy => ?_) (mem_names_of_parent? ‹_›) ?_ ?_
  · simp at hy ⊢
    exact fun h => hy.1 h
  · simpa using ‹current ∉ visited›
  · simp

/-- The names from an assembly to the first one without a parent.  There are none in an
unstructured document or for the empty name. -/
def chain (doc : ReleasesDocument) (name : String) : Except Error (List String) :=
  if name.isEmpty || !doc.isStructured then .ok [] else doc.walk name [] name

/-- The walk from `name` runs through exactly the names of `path`. -/
inductive LeadsThrough (doc : ReleasesDocument) : String → List String → Prop
  | last {name : String} : doc.parent? name = none → LeadsThrough doc name [name]
  | step {name parent : String} {path : List String} : doc.parent? name = some parent →
    LeadsThrough doc parent path → LeadsThrough doc name (name :: path)

namespace LeadsThrough

theorem unique {name : String} {p q : List String} (hp : doc.LeadsThrough name p)
    (hq : doc.LeadsThrough name q) :
  p = q
  := by
  induction hp generalizing q with
  | last h =>
    cases hq with
    | last => rfl
    | step h' => simp [h] at h'
  | step h _ ih =>
    cases hq with
    | last h' => simp [h] at h'
    | step h' hq =>
      rw [h] at h'
      cases h'
      rw [ih hq]

/-- From every name on a path the walk runs through the rest of the path. -/
theorem exists_suffix {name other : String} {path : List String}
    (h : doc.LeadsThrough name path) (hm : other ∈ path) :
  ∃ rest, doc.LeadsThrough other rest ∧ rest <:+ path
  := by
  induction h with
  | last h =>
    cases List.mem_singleton.1 hm
    exact ⟨_, .last h, List.suffix_refl _⟩
  | @step name parent path h hp ih =>
    rcases List.mem_cons.1 hm with rfl | hm
    · exact ⟨_, .step h hp, List.suffix_refl _⟩
    · obtain ⟨rest, hr, hs⟩ := ih hm
      exact ⟨rest, hr, hs.trans (List.suffix_cons _ _)⟩

/-- No name is met twice. -/
theorem nodup {name : String} {path : List String} (h : doc.LeadsThrough name path) :
  path.Nodup
  := by
  induction h with
  | last => simp
  | @step name parent path h hp ih =>
    refine List.nodup_cons.2 ⟨fun hm => ?_, ih⟩
    obtain ⟨rest, hr, hs⟩ := hp.exists_suffix hm
    have hl := hs.length_le
    have := congrArg List.length (hr.unique (.step h hp))
    simp at this
    omega

end LeadsThrough

theorem exists_of_walk_eq_ok {start current : String} {visited names : List String}
    (h : doc.walk start visited current = .ok names) :
  ∃ path, names = visited ++ path ∧ doc.LeadsThrough current path
  := by
  fun_induction doc.walk start visited current with
  | case1 => simp at h
  | case2 visited current _ hp => exact ⟨[current], (Except.ok.inj h).symm, .last hp⟩
  | case3 visited current _ parent hp ih =>
    obtain ⟨path, rfl, hl⟩ := ih h
    exact ⟨current :: path, by simp, .step hp hl⟩

theorem walk_eq_ok_of_leadsThrough {start current : String} {visited path : List String}
    (h : doc.LeadsThrough current path) (hn : (visited ++ path).Nodup) :
  doc.walk start visited current = .ok (visited ++ path)
  := by
  induction h generalizing visited with
  | @last name h =>
    have hm : name ∉ visited := by
      intro hm
      exact (List.nodup_append.1 hn).2.2 name hm name (by simp) rfl
    rw [walk, if_neg hm, h]
  | @step name parent path h hp ih =>
    have hm : name ∉ visited := by
      intro hm
      exact (List.nodup_append.1 hn).2.2 name hm name (by simp) rfl
    rw [walk, if_neg hm, h]
    simp only
    rw [ih (by simpa using hn)]
    simp

theorem chain_of_active {name : String} (hs : doc.isStructured = true) (hn : name ≠ "") :
  doc.chain name = doc.walk name [] name
  := by
  simp [chain, hs, hn]

/-- The chain of a name is the path of the walk from it. -/
theorem chain_eq_ok_iff {name : String} {path : List String} (hs : doc.isStructured = true)
    (hn : name ≠ "") :
  doc.chain name = .ok path ↔ doc.LeadsThrough name path
  := by
  rw [chain_of_active hs hn]
  constructor
  · intro h
    obtain ⟨path', rfl, hl⟩ := exists_of_walk_eq_ok h
    exact hl
  · intro h
    have hw : doc.walk name [] name = .ok ([] ++ path) :=
      walk_eq_ok_of_leadsThrough h (by simpa using h.nodup)
    simpa using hw

theorem isStructured_of_assembly? {name : String} {a : Assembly}
    (h : doc.assembly? name = some a) :
  doc.isStructured = true
  := by
  cases hr : doc.root with
  | mapping entries => simp [isStructured, hr, Tree.mapping?]
  | _ => simp [assembly?, releases, hr, Tree.get?, Tree.mapping?, Entries.find?] at h

theorem isStructured_of_parent? {name parent : String} (h : doc.parent? name = some parent) :
  doc.isStructured = true
  := by
  obtain ⟨_, ha, _⟩ := Option.bind_eq_some_iff.1 h
  exact isStructured_of_assembly? ha

/-- The chain of a parent is the tail of that of its child. -/
theorem chain_parent {name parent : String} {path : List String} (hn : name ≠ "")
    (hc : doc.chain name = .ok path) (hp : doc.parent? name = some parent) :
  doc.chain parent = .ok path.tail ∧ path = name :: path.tail
  := by
  have hs := isStructured_of_parent? hp
  have hpe : parent ≠ "" := parent?_ne_empty hp
  cases (chain_eq_ok_iff hs hn).1 hc with
  | last h => simp [h] at hp
  | step h hl =>
    rw [h] at hp
    cases hp
    exact ⟨(chain_eq_ok_iff hs hpe).2 hl, rfl⟩

/-- The number of names on the chain of a name. -/
def chainLength (doc : ReleasesDocument) (name : String) : Nat :=
  match doc.chain name with
  | .ok path => path.length
  | .error _ => 0

theorem chainLength_parent_lt {name parent : String} {path : List String} (hn : name ≠ "")
    (hc : doc.chain name = .ok path) (hp : doc.parent? name = some parent) :
  doc.chainLength parent < doc.chainLength name
  := by
  obtain ⟨hc', hpath⟩ := chain_parent hn hc hp
  simp only [chainLength, hc, hc']
  rw [hpath]
  simp

end LayeredConfig.ReleasesDocument
