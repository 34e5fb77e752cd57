import EntityQuery.Projection
import EntityQuery.Proofs.Schema.Consistency

/-!
The columns of a projection. A selection is accepted exactly if it selects something, every name is
that of a field, no two names differ in ASCII case at most, and documents are asked for of texts
only; its columns are then what the selectors ask for, one by one, and no field is among them twice.
Main statements: `exists_ofSelection_iff` and `nodup_fields`.
-/

namespace EntityQuery

variable {E : Type} {s : Schema E}

/-- A name means a field that bears it, ASCII case not counting. -/
def Schema.Means (s : Schema E) (name : String) (field : Field E) : Prop :=
  field ∈ s.fields ∧ Text.fold field.name = Text.fold name

lemma Schema.NamesDiffer.means_iff (hs : s.NamesDiffer) {name : String} {f : FieldRef}
    (hf : s.resolve name = .ok f) {field : Field E} : s.Means name field ↔ field = s.field f := by
  obtain ⟨hdeclares, hfold⟩ := Schema.of_resolve hf
  constructor
  · rintro ⟨hmem, hname⟩
    obtain ⟨g, hg, hgname, rfl⟩ := Schema.exists_declares hmem
    have hresolve : s.resolve name = .ok g :=
      (Schema.resolve_eq_ok_iff hs).2 ⟨hg, by rw [hgname, hname]⟩
    rw [hf, Except.ok.injEq] at hresolve
    rw [hresolve]
  · rintro rfl
    obtain ⟨field, hfield, hname⟩ := hdeclares
    rw [Schema.field_eq hfield]
    exact ⟨List.mem_of_getElem? hfield, by rw [hname, hfold]⟩

/-- A selection that a schema can serve. -/
structure Selection.Fits (s : Schema E) (selection : Selection) : Prop where
  /-- Something is selected. -/
  nonempty : selection.selectors ≠ []
  /-- Only fields that there are. -/
  named : ∀ selector ∈ selection.selectors, ∃ field, s.Means selector.name field
  /-- No two names differ in ASCII case at most. -/
  once : selection.selectors.Pairwise fun a b => Text.fold a.name ≠ Text.fold b.name
  /-- Documents are held by texts only. -/
  text : ∀ selector ∈ selection.selectors, selector.structured →
    ∀ field, s.Means selector.name field → field.type.kind = .text

/-- A column is what a selector asks for. -/
structure Column.Serves (s : Schema E) (selector : Selector) (c : Column) : Prop where
  key : c.key = selector.name
  structured : c.structured = selector.structured
  resolved : s.resolve selector.name = .ok c.field
  text : selector.structured → (s.typeOf c.field).kind = .text

namespace Projection

variable {before columns : List Column} {c : Column} {selector : Selector}
  {selectors : List Selector} {selection : Selection} {p : Projection}

/-- A column is added where no name in front of it is the same. -/
lemma column_eq_ok_iff :
    column s before selector = .ok c ↔
      (∀ b ∈ before, Text.fold b.key ≠ Text.fold selector.name) ∧ c.Serves s selector := by
  have htwice : (before.any fun b => Text.sameFolded b.key selector.name) ↔
      ¬ ∀ b ∈ before, Text.fold b.key ≠ Text.fold selector.name := by
    simp [List.any_eq_true, Text.sameFolded]
  constructor
  · intro h
    obtain ⟨f, hf, h⟩ := Result.bind_eq_ok_iff.1 h
    simp only at h
    split at h
    · cases h
    · rename_i honce
      rw [htwice, not_not] at honce
      split at h
      · cases h
      · rename_i htext
        cases h
        exact ⟨honce, rfl, rfl, hf, fun hstructured => by
          by_contra hkind
          exact htext ⟨hstructured, hkind⟩⟩
  · rintro ⟨honce, ⟨hkey, hstructured, hresolved, htext⟩⟩
    obtain ⟨key, f, structured⟩ := c
    obtain rfl : key = selector.name := hkey
    obtain rfl : structured = selector.structured := hstructured
    refine Result.bind_eq_ok_iff.2 ⟨f, hresolved, ?_⟩
    simp only
    split
    · rename_i hany
      exact absurd honce (htwice.1 hany)
    · split
      · rename_i hkind
        exact absurd (htext hkind.1) hkind.2
      · rfl

/-- Selectors are served from left to right, each by a column whose name is new. -/
lemma foldlM_column_eq_ok_iff :
    selectors.foldlM
      (fun columns selector => do return columns ++ [← column s columns selector]) before =
        .ok columns ↔
      ∃ new, columns = before ++ new ∧ List.Forall₂ (Column.Serves s) selectors new ∧
        selectors.Pairwise (fun a b => Text.fold a.name ≠ Text.fold b.name) ∧
        ∀ b ∈ before, ∀ selector ∈ selectors, Text.fold b.key ≠ Text.fold selector.name := by
  induction selectors generalizing before with
  | nil =>
    simp only [List.foldlM_nil, List.forall₂_nil_left_iff]
    constructor
    · intro h
      cases h
      exact ⟨[], by simp, rfl, .nil, by simp⟩
    · rintro ⟨_, rfl, rfl, -, -⟩
      rw [List.append_nil]
      rfl
  | cons selector selectors ih =>
    rw [List.foldlM_cons, Result.bind_eq_ok_iff]
    simp only [List.forall_mem_cons, List.pairwise_cons]
    constructor
    · rintro ⟨next, hnext, h⟩
      obtain ⟨c, hc, hnext⟩ := Result.bind_eq_ok_iff.1 hnext
      cases hnext
      obtain ⟨hbefore, hserves⟩ := column_eq_ok_iff.1 hc
      obtain ⟨new, rfl, hnew, honce, hall⟩ := ih.1 h
      rw [List.forall_mem_append, List.forall_mem_singleton, hserves.key] at hall
      exact ⟨c :: new, by simp, .cons hserves hnew, ⟨hall.2, honce⟩,
        fun b hb => ⟨hbefore b hb, hall.1 b hb⟩⟩
    · rintro ⟨_, rfl, _ | ⟨hserves, hnew⟩, ⟨hfirst, honce⟩, hall⟩
      rename_i c new
      have hc := column_eq_ok_iff.2 ⟨fun b hb => (hall b hb).1, hserves⟩
      refine ⟨before ++ [c], Result.bind_eq_ok_iff.2 ⟨c, hc, rfl⟩,
        ih.2 ⟨new, by simp, hnew, honce, ?_⟩⟩
      rw [List.forall_mem_append, List.forall_mem_singleton, hserves.key]
      exact ⟨fun b hb => (hall b hb).2, hfirst⟩

lemma ofSelection_eq_ok_iff :
    ofSelection s selection = .ok p ↔
      selection.selectors ≠ [] ∧ List.Forall₂ (Column.Serves s) selection.selectors p.columns ∧
        selection.selectors.Pairwise fun a b => Text.fold a.name ≠ Text.fold b.name := by
  unfold ofSelection
  by_cases hempty : selection.selectors = []
  · rw [if_pos (List.isEmpty_iff.2 hempty)]
    exact iff_of_false (by simp) fun h => h.1 hempty
  · rw [if_neg (mt List.isEmpty_iff.1 hempty), and_iff_right hempty, Result.bind_eq_ok_iff]
    simp only [foldlM_column_eq_ok_iff]
    constructor
    · rintro ⟨_, ⟨new, rfl, hnew, honce, -⟩, h⟩
      cases h
      exact ⟨hnew, honce⟩
    · rintro ⟨hnew, honce⟩
      exact ⟨p.columns, ⟨p.columns, rfl, hnew, honce, by simp⟩, rfl⟩

lemma exists_serves (h : ofSelection s selection = .ok p) (hc : c ∈ p.columns) :
    ∃ selector, c.Serves s selector := by
  obtain ⟨selector, -, hselector⟩ :=
    Result.exists_of_forall₂ (ofSelection_eq_ok_iff.1 h).2.1.flip hc
  exact ⟨selector, hselector⟩

lemma text_of_ofSelection (h : ofSelection s selection = .ok p) (hc : c ∈ p.columns)
    (hstructured : c.structured) : (s.typeOf c.field).kind = .text := by
  obtain ⟨selector, hselector⟩ := exists_serves h hc
  exact hselector.text (hselector.structured ▸ hstructured)

/-- **A selection is accepted exactly if the schema can serve it.** -/
theorem exists_ofSelection_iff (hs : s.NamesDiffer) :
    (∃ p, ofSelection s selection = .ok p) ↔ selection.Fits s := by
  simp only [ofSelection_eq_ok_iff]
  constructor
  · rintro ⟨p, hnonempty, hcolumns, honce⟩
    refine ⟨hnonempty, fun selector hselector => ?_, honce, fun selector hselector => ?_⟩
    · obtain ⟨c, -, hc⟩ := Result.exists_of_forall₂ hcolumns hselector
      exact ⟨_, (hs.means_iff hc.resolved).2 rfl⟩
    · obtain ⟨c, -, hc⟩ := Result.exists_of_forall₂ hcolumns hselector
      intro hstructured field hfield
      rw [(hs.means_iff hc.resolved).1 hfield]
      exact hc.text hstructured
  · intro h
    have hserved : ∀ selector ∈ selection.selectors, ∃ c, Column.Serves s selector c := by
      intro selector hselector
      obtain ⟨field, hfield⟩ := h.named selector hselector
      obtain ⟨f, hf⟩ := Schema.exists_resolve_iff.2 ⟨field, hfield⟩
      exact ⟨⟨selector.name, f, selector.structured⟩, rfl, rfl, hf, fun hstructured =>
        h.text selector hselector hstructured _ ((hs.means_iff hf).2 rfl)⟩
    obtain ⟨columns, hcolumns⟩ := Result.exists_forall₂_iff.2 hserved
    exact ⟨⟨columns⟩, h.nonempty, hcolumns, h.once⟩

/-- **No field is in a projection twice.** -/
theorem nodup_fields (h : ofSelection s selection = .ok p) :
    (p.columns.map Column.field).Nodup := by
  obtain ⟨-, hcolumns, honce⟩ := ofSelection_eq_ok_iff.1 h
  -- the names of the fields are those that are selected, up to case
  have hnames : selection.selectors.map (fun selector => Text.fold selector.name) =
      p.columns.map fun c => Text.fold c.field.name := by
    refine List.forall₂_eq_eq_eq ▸ List.forall₂_map_left_iff.2 (List.forall₂_map_right_iff.2 ?_)
    exact hcolumns.imp fun selector c hc => (Schema.of_resolve hc.resolved).2.symm
  have hdiffer : ((p.columns.map Column.field).map fun f => Text.fold f.name).Nodup := by
    rw [List.map_map]
    exact hnames ▸ List.pairwise_map.2 honce
  exact hdiffer.of_map _

end Projection

end EntityQuery
