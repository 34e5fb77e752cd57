import EntityQuery.Proofs.Schema.Names

/-!
Indexes of names. The fields of a schema can be found without a search: two tables, filled in one
pass over the names, hold the positions of the names as they are spelled and in lower case. The pass
stops at the name that repeats another, and the tables answer as the search does. Main statements:
`ofNames_eq_error_iff` and `position?_eq`.
-/

namespace EntityQuery

/-- The positions of names as they are spelled, and as they are in lower case. -/
structure NameIndex where
  spelled : Std.HashMap String ℕ
  folded : Std.HashMap String ℕ

namespace NameIndex

/-- The index of no names. -/
def empty : NameIndex := ⟨∅, ∅⟩

/-- The index with a name at a position. A name that is there already, in whatever case, is
refused. -/
def add (index : NameIndex) (i : ℕ) (name : String) : Except String NameIndex :=
  let (present, folded) := index.folded.containsThenInsert (Text.fold name) i
  if present then .error name else .ok ⟨index.spelled.insert name i, folded⟩

/-- The index with more names, the first of them at the given position. -/
def enter (index : NameIndex) (i : ℕ) : List String → Except String NameIndex
  | [] => .ok index
  | name :: rest => do enter (← index.add i name) (i + 1) rest

/-- The index of some names. -/
def ofNames (names : List String) : Except String NameIndex := enter empty 0 names

/-- The position of a name: of one that is spelled in the same way, otherwise of one that is the
same in lower case. -/
def position? (index : NameIndex) (name : String) : Option ℕ :=
  index.spelled[name]? <|> index.folded[Text.fold name]?

/-! ### What a table holds -/

/-- The table holds the first positions at which some names have a given form. -/
def Tabulates (table : Std.HashMap String ℕ) (form : String → String) (names : List String) :
    Prop :=
  ∀ key, table[key]? = names.findIdx? fun name => form name == key

lemma Tabulates.insert {table : Std.HashMap String ℕ} {form : String → String}
    {names : List String} (h : Tabulates table form names) {name : String}
    (hnew : ∀ other ∈ names, form other ≠ form name) :
    Tabulates (table.insert (form name) names.length) form (names ++ [name]) := by
  intro key
  rw [Std.HashMap.getElem?_insert, h key, List.findIdx?_append]
  split
  · rename_i hkey
    obtain rfl := beq_iff_eq.1 hkey
    have hnone : (names.findIdx? fun other => form other == form name) = none := by
      simpa [List.findIdx?_eq_none_iff] using hnew
    simp [hnone]
  · rename_i hkey
    simp [hkey]

/-- The index holds the positions of some names. -/
structure Holds (index : NameIndex) (names : List String) : Prop where
  spelled : Tabulates index.spelled id names
  folded : Tabulates index.folded Text.fold names

lemma holds_empty : empty.Holds [] where
  spelled _ := by simp [empty]
  folded _ := by simp [empty]

/-! ### The pass over the names -/

variable {index : NameIndex} {before names : List String} {name : String}

lemma Holds.contains_iff (h : index.Holds before) :
    index.folded.contains (Text.fold name) ↔ ∃ a ∈ before, Text.fold a = Text.fold name := by
  rw [← Std.HashMap.isSome_getElem?_eq_contains, h.folded, List.findIdx?_isSome]
  simp

lemma Holds.add_eq_error (h : index.Holds before)
    (hname : ∃ a ∈ before, Text.fold a = Text.fold name) :
    index.add before.length name = .error name := by
  simp only [add, Std.HashMap.containsThenInsert_fst, h.contains_iff.2 hname, if_true]

lemma Holds.exists_add (h : index.Holds before)
    (hname : ¬ ∃ a ∈ before, Text.fold a = Text.fold name) :
    ∃ next : NameIndex, index.add before.length name = .ok next ∧
      next.Holds (before ++ [name]) := by
  have hnew : ∀ a ∈ before, Text.fold a ≠ Text.fold name := fun a ha hsame => hname ⟨a, ha, hsame⟩
  rw [← h.contains_iff] at hname
  refine ⟨⟨index.spelled.insert name before.length,
    index.folded.insert (Text.fold name) before.length⟩, ?_, ?_, ?_⟩
  · simp only [add, Std.HashMap.containsThenInsert_fst, Std.HashMap.containsThenInsert_snd,
      if_neg hname]
  · exact h.spelled.insert fun a ha hsame => hnew a ha (congrArg Text.fold hsame)
  · exact h.folded.insert hnew

/-- The whole pass: the first name that repeats another stops it, and nothing else. -/
lemma Holds.enter_eq (h : index.Holds before) :
    match SchemaDraft.repeated? before.reverse names with
    | some name => index.enter before.length names = .error name
    | none => ∃ full : NameIndex, index.enter before.length names = .ok full ∧
        full.Holds (before ++ names) := by
  induction names generalizing index before with
  | nil => exact ⟨index, rfl, by rwa [List.append_nil]⟩
  | cons name rest ih =>
    have hknown : (before.reverse.any fun other => Text.sameFolded other name) ↔
        ∃ a ∈ before, Text.fold a = Text.fold name := by
      simp [Text.sameFolded]
    rw [SchemaDraft.repeated?, enter]
    split_ifs with hany
    · exact congrArg (· >>= _) (h.add_eq_error (hknown.1 hany))
    · obtain ⟨next, hadd, hnext⟩ := h.exists_add fun hname => hany (hknown.2 hname)
      have hrest := ih hnext
      rw [List.reverse_append, List.reverse_singleton, List.singleton_append, List.length_append,
        List.length_singleton, List.append_assoc, List.singleton_append] at hrest
      rwa [hadd]

lemma ofNames_eq (names : List String) :
    match SchemaDraft.repeated? [] names with
    | some name => ofNames names = .error name
    | none => ∃ full : NameIndex, ofNames names = .ok full ∧ full.Holds names :=
  holds_empty.enter_eq

/-- **The pass stops at the name that repeats another** up to ASCII case. -/
theorem ofNames_eq_error_iff :
    ofNames names = .error name ↔ SchemaDraft.repeated? [] names = some name := by
  have hpass := ofNames_eq names
  cases hrepeated : SchemaDraft.repeated? [] names with
  | some other =>
    rw [hrepeated] at hpass
    rw [hpass, Except.error.injEq, Option.some.injEq]
  | none =>
    rw [hrepeated] at hpass
    obtain ⟨full, hfull, -⟩ := hpass
    exact iff_of_false (by simp [hfull]) (by simp)

lemma holds_of_ofNames (h : ofNames names = .ok index) : index.Holds names := by
  have hpass := ofNames_eq names
  split at hpass
  · rw [h] at hpass
    cases hpass
  · obtain ⟨full, hfull, hholds⟩ := hpass
    rw [h] at hfull
    cases hfull
    exact hholds

variable {E : Type} {s : Schema E}

/-- **The index of the fields of a schema finds what the search finds**, under every name. -/
theorem position?_eq (h : ofNames (s.fields.map Field.name) = .ok index) (name : String) :
    index.position? name = s.position? name := by
  have hholds := holds_of_ofNames h
  rw [position?, hholds.spelled, hholds.folded, List.findIdx?_map, List.findIdx?_map]
  rfl

lemma exists_of_build {d : SchemaDraft E} (h : d.build = .ok s) :
    ∃ index, ofNames (s.fields.map Field.name) = .ok index ∧
      ∀ name, index.position? name = s.position? name := by
  obtain ⟨-, -, -, hnames⟩ := SchemaDraft.of_build_eq_ok h
  have hnone : SchemaDraft.repeated? [] (s.fields.map Field.name) = none :=
    SchemaDraft.repeated?_eq_none_iff.2 ⟨hnames, by simp⟩
  have hpass := ofNames_eq (s.fields.map Field.name)
  rw [hnone] at hpass
  obtain ⟨index, hindex, -⟩ := hpass
  exact ⟨index, hindex, position?_eq hindex⟩

end NameIndex

end EntityQuery
