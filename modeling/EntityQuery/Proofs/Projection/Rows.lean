import EntityQuery.Proofs.Plan.Reshaping
import EntityQuery.Proofs.Projection.Columns
import EntityQuery.Proofs.Schema.Conformity

/-!
The rows that a projection makes. An entity that conforms to its schema has a row unless a text that
is asked for as a document is none; the first such column makes the error. A row has the selected
names for its keys, as they are spelled and in their order, and under each the value of the field
that the name means, or the document that its text stands for. Main statement:
`tabulates_ofSelection`.
-/

namespace EntityQuery

variable {E : Type} {s : Schema E}

lemma Row.get?_of_mem {row : Row} (hkeys : row.keys.Nodup) {key : String} {v : Value}
    (h : (key, v) ∈ row.columns) : row.get? key = some v := by
  obtain ⟨before, after, hsplit⟩ := List.append_of_mem h
  refine List.lookup_eq_some_iff.2 ⟨before, after, hsplit, fun other hother => bne_iff_ne.2 ?_⟩
  rw [keys, hsplit, List.map_append, List.map_cons, List.nodup_append] at hkeys
  intro heq
  exact hkeys.2.2 other.1 (List.mem_map_of_mem hother) key List.mem_cons_self heq.symm

/-- The text that an entity holds for a structured column is no document. What the reader refuses
counts as none: besides what breaks the grammar, lists and objects 128 deep, numbers out of the
range of the floats and escapes for half of a surrogate pair. -/
def Column.Spoilt (s : Schema E) (e : E) (c : Column) (problem : Json.Error) : Prop :=
  c.structured ∧ ∃ text, s.read e c.field = .text text ∧ Json.read text = .error problem

namespace Projection

variable {p : Projection} {e : E} {c : Column} {row : Row} {error : QueryError}

/-! ### Cells -/

/-- What a row shows for the value of a field: the value itself, or, where a document is asked for,
the one that its text stands for. Null stays null. A text that the reader refuses stands for no
document, be it only for its depth, a number out of range or half of a surrogate pair. -/
inductive Shows : (structured : Bool) → Value → Value → Prop
  | plain (v : Value) : Shows false v v
  | null : Shows true .null .null
  | document {text : String} {j : Json} (h : Json.read text = .ok j) :
    Shows true (.text text) (.json j)

lemma not_shows_of_spoilt {problem : Json.Error}
    (h : c.Spoilt s e problem) (v : Value) : ¬ Shows c.structured (s.read e c.field) v := by
  obtain ⟨hstructured, text, hvalue, hproblem⟩ := h
  rw [hstructured, hvalue]
  rintro (_ | _ | hj)
  rw [hproblem] at hj
  cases hj

lemma cell_eq_ok_iff {v : Value} :
    cell s e c = .ok v ↔ Shows c.structured (s.read e c.field) v := by
  unfold cell
  generalize s.read e c.field = value
  cases c.structured with
  | false =>
    rw [if_neg Bool.false_ne_true, Except.ok.injEq]
    constructor
    · rintro rfl
      exact .plain _
    · rintro ⟨⟩
      rfl
  | true =>
    rw [if_pos rfl]
    constructor
    · intro h
      unfold decode at h
      split at h
      · cases h
        exact .null
      · obtain ⟨j, hj, rfl⟩ := Result.map_eq_ok_iff.1 h
        exact .document (Result.mapError_eq_ok_iff.1 hj)
      · cases h
    · rintro (_ | _ | hj)
      · rfl
      · rw [decode, hj]
        rfl

lemma exists_document_of_decode {key : String} {t : FieldType} (ht : t.kind = .text) {v : Value}
    (hv : t.admits v) (h : decode key v = .error error) :
    ∃ text problem, v = .text text ∧ Json.read text = .error problem ∧
      error = .projection key (.document problem) := by
  unfold FieldType.admits at hv
  rw [ht] at hv
  cases v with
  | null => cases h
  | text text =>
    obtain ⟨problem, hproblem, rfl⟩ :=
      Result.mapError_eq_error_iff.1 (Result.map_eq_error_iff.1 h)
    exact ⟨text, problem, rfl, hproblem, rfl⟩
  | _ => cases hv

/-- Where a structured column holds what fits a text field, only a text that is no document keeps
it from being shown. -/
lemma cell_eq_error_iff (ht : c.structured → (s.typeOf c.field).kind = .text)
    (he : c.structured → s.FitsKind c.field e) :
    cell s e c = .error error ↔
      ∃ problem, c.Spoilt s e problem ∧ error = .projection c.key (.document problem) := by
  unfold cell
  constructor
  · intro h
    split at h
    · rename_i hstructured
      obtain ⟨text, problem, htext, hproblem, rfl⟩ :=
        exists_document_of_decode (t := .optional _) (ht hstructured) (he hstructured) h
      exact ⟨problem, ⟨hstructured, text, htext, hproblem⟩, rfl⟩
    · cases h
  · rintro ⟨problem, ⟨hstructured, text, htext, hproblem⟩, rfl⟩
    rw [if_pos hstructured, htext, decode, hproblem]
    rfl

/-! ### Rows -/

lemma apply_eq_ok_iff :
    p.apply s e = .ok row ↔ List.Forall₂ (fun c shown =>
      c.key = shown.1 ∧ Shows c.structured (s.read e c.field) shown.2) p.columns row.columns := by
  have hcell (c : Column) (shown : String × Value) :
      (c.key, ·) <$> cell s e c = .ok shown ↔
        c.key = shown.1 ∧ Shows c.structured (s.read e c.field) shown.2 := by
    rw [Result.map_eq_ok_iff]
    simp only [cell_eq_ok_iff]
    constructor
    · rintro ⟨v, hv, rfl⟩
      exact ⟨rfl, hv⟩
    · rintro ⟨hkey, hv⟩
      exact ⟨shown.2, hv, Prod.ext hkey rfl⟩
  rw [apply_eq, Result.map_eq_ok_iff]
  simp only [Result.mapM_eq_ok_iff, hcell]
  constructor
  · rintro ⟨columns, hcolumns, rfl⟩
    exact hcolumns
  · intro hcolumns
    exact ⟨row.columns, hcolumns, rfl⟩

/-- The first column that cannot be shown makes the error. -/
lemma apply_eq_error_iff (ht : ∀ c ∈ p.columns, c.structured → (s.typeOf c.field).kind = .text)
    (he : ∀ c ∈ p.columns, c.structured → s.FitsKind c.field e) :
    p.apply s e = .error error ↔
      ∃ before c after problem, p.columns = before ++ c :: after ∧
        (∀ b ∈ before, ∀ problem, ¬ b.Spoilt s e problem) ∧ c.Spoilt s e problem ∧
        error = .projection c.key (.document problem) := by
  rw [apply_eq, Result.map_eq_error_iff, Result.mapM_eq_error_iff]
  have hshown : ∀ c ∈ p.columns, (∃ shown, (c.key, ·) <$> cell s e c = .ok shown) ↔
      ∀ problem, ¬ c.Spoilt s e problem := by
    intro c hc
    rw [← Result.not_fails_iff, Result.fails_map_iff]
    simp only [Result.Fails, cell_eq_error_iff (ht c hc) (he c hc)]
    grind
  constructor
  · rintro ⟨before, c, after, hcolumns, hbefore, hc⟩
    have hmem : c ∈ p.columns := by simp [hcolumns]
    obtain ⟨problem, hspoilt, rfl⟩ :=
      (cell_eq_error_iff (ht c hmem) (he c hmem)).1 (Result.map_eq_error_iff.1 hc)
    exact ⟨before, c, after, problem, hcolumns,
      fun b hb => (hshown b (by simp [hcolumns, hb])).1 (hbefore b hb), hspoilt, rfl⟩
  · rintro ⟨before, c, after, problem, hcolumns, hbefore, hspoilt, rfl⟩
    have hmem : c ∈ p.columns := by simp [hcolumns]
    refine ⟨before, c, after, hcolumns, fun b hb => ?_, Result.map_eq_error_iff.2 ?_⟩
    · exact (hshown b (by simp [hcolumns, hb])).2 (hbefore b hb)
    · exact (cell_eq_error_iff (ht c hmem) (he c hmem)).2 ⟨problem, hspoilt, rfl⟩

/-! ### Selections -/

/-- What a projection of a selection makes of an entity. -/
structure Tabulates (s : Schema E) (selection : Selection) (p : Projection) (e : E) : Prop where
  /-- There is no row exactly if a document cannot be read. -/
  fails : (∃ error, p.apply s e = .error error) ↔ ∃ c ∈ p.columns, ∃ problem, c.Spoilt s e problem
  /-- The first column of this sort makes the error. -/
  first : ∀ before c after problem, p.columns = before ++ c :: after →
    (∀ b ∈ before, ∀ problem, ¬ b.Spoilt s e problem) → c.Spoilt s e problem →
      p.apply s e = .error (.projection c.key (.document problem))
  /-- A row has the selected names for its keys. -/
  keys : ∀ row, p.apply s e = .ok row → row.keys = selection.selectors.map Selector.name
  /-- Under each name it shows the value of the field that is meant. -/
  values : ∀ row, p.apply s e = .ok row → ∀ selector ∈ selection.selectors, ∃ field shown,
    s.Means selector.name field ∧ row.get? selector.name = some shown ∧
      Shows selector.structured (field.read e) shown

lemma keys_of_apply (h : p.apply s e = .ok row) : row.keys = p.columns.map Column.key := by
  have hkeys : List.Forall₂ (· = ·) (p.columns.map Column.key) row.keys :=
    List.forall₂_map_left_iff.2 (List.forall₂_map_right_iff.2
      ((apply_eq_ok_iff.1 h).imp fun c shown hc => hc.1))
  rw [List.forall₂_eq_eq_eq] at hkeys
  exact hkeys.symm

lemma keys_of_ofSelection {selection : Selection} (h : ofSelection s selection = .ok p) :
    p.columns.map Column.key = selection.selectors.map Selector.name := by
  have hkeys : List.Forall₂ (· = ·) (selection.selectors.map Selector.name)
      (p.columns.map Column.key) :=
    List.forall₂_map_left_iff.2 (List.forall₂_map_right_iff.2
      ((ofSelection_eq_ok_iff.1 h).2.1.imp fun selector c hc => hc.key.symm))
  rw [List.forall₂_eq_eq_eq] at hkeys
  exact hkeys.symm

lemma tabulates (hs : s.NamesDiffer) {selection : Selection}
    (h : ofSelection s selection = .ok p) (he : s.Conforms e) : p.Tabulates s selection e := by
  obtain ⟨-, hserves, honce⟩ := ofSelection_eq_ok_iff.1 h
  have htext : ∀ c ∈ p.columns, c.structured → (s.typeOf c.field).kind = .text :=
    fun c hc => text_of_ofSelection h hc
  have hfits : ∀ c ∈ p.columns, c.structured → s.FitsKind c.field e := by
    intro c hc _
    obtain ⟨selector, hselector⟩ := exists_serves h hc
    exact Schema.fitsKind_of_admits (he _ (Schema.declares_of_resolve hselector.resolved).mem)
  refine ⟨⟨?_, ?_⟩, ?_, fun row hrow => ?_, fun row hrow selector hselector => ?_⟩
  · rintro ⟨error, herror⟩
    obtain ⟨before, c, after, problem, hcolumns, -, hspoilt, -⟩ :=
      (apply_eq_error_iff htext hfits).1 herror
    exact ⟨c, by simp [hcolumns], problem, hspoilt⟩
  · rintro ⟨c, hc, problem, hspoilt⟩
    by_contra hnone
    obtain ⟨row, hrow⟩ := Result.not_fails_iff.1 hnone
    obtain ⟨shown, -, -, hshows⟩ := Result.exists_of_forall₂ (apply_eq_ok_iff.1 hrow) hc
    exact not_shows_of_spoilt hspoilt shown.2 hshows
  · intro before c after problem hcolumns hbefore hspoilt
    exact (apply_eq_error_iff htext hfits).2
      ⟨before, c, after, problem, hcolumns, hbefore, hspoilt, rfl⟩
  · rw [keys_of_apply hrow, keys_of_ofSelection h]
  · obtain ⟨c, hc, hserved⟩ := Result.exists_of_forall₂ hserves hselector
    obtain ⟨shown, hshown, hkey, hshows⟩ :=
      Result.exists_of_forall₂ (apply_eq_ok_iff.1 hrow) hc
    have hdistinct : row.keys.Nodup := by
      rw [keys_of_apply hrow, keys_of_ofSelection h]
      exact List.pairwise_map.2 (honce.imp fun hne heq => hne (congrArg Text.fold heq))
    refine ⟨s.field c.field, shown.2, (hs.means_iff hserved.resolved).2 rfl, ?_, ?_⟩
    · refine Row.get?_of_mem hdistinct ?_
      rw [← hserved.key, hkey]
      exact hshown
    · rw [← hserved.structured]
      exact hshows

/-- **A projection makes rows of exactly the selected columns.** A selection is accepted exactly if
the schema can serve it. Its columns serve the selectors one by one, each from a field of its own,
and a row of an entity that conforms has the selected names and under them what their fields hold;
only a text that is asked for as a document, and is none, keeps an entity from having a row. -/
theorem tabulates_ofSelection {d : SchemaDraft E} (hs : d.build = .ok s) (selection : Selection) :
    ((∃ p, ofSelection s selection = .ok p) ↔ selection.Fits s) ∧
      ∀ p, ofSelection s selection = .ok p →
        List.Forall₂ (Column.Serves s) selection.selectors p.columns ∧
          (p.columns.map Column.field).Nodup ∧
          ∀ e, s.Conforms e → p.Tabulates s selection e := by
  obtain ⟨-, -, -, hdiffer⟩ := SchemaDraft.of_build_eq_ok hs
  refine ⟨exists_ofSelection_iff hdiffer, fun p hp => ⟨?_, nodup_fields hp, fun e he => ?_⟩⟩
  · exact (ofSelection_eq_ok_iff.1 hp).2.1
  · exact tabulates hdiffer hp he

/-- The owners of tasks as documents, and the titles in a spelling of their own: a list is read,
null stays null, and an open bracket is no document. The title cannot be selected twice. -/
theorem tabulates_owners :
    let s : Schema Slots :=
      { name := "Task"
        fields := Samples.task.draft.fields
        navigations := Samples.task.draft.navigations
        unique := [⟨"ux_task_title", [⟨5, "Title"⟩]⟩,
          ⟨"ux_task_cost", [⟨6, "Owner"⟩, ⟨8, "Cost"⟩]⟩]
        modifiedAt := some ⟨4, "ModifiedAt"⟩ }
    let task (owner : Value) : Slots :=
      ⟨BaseFields.fresh Uuid.nil Instant.epoch,
        [.text "sow", owner, .null, .null, .null, .bool false], [], none⟩
    let selection : Selection := ⟨[.document "owner", .plain "TITLE"]⟩
    let p : Projection := ⟨[⟨"owner", ⟨6, "Owner"⟩, true⟩, ⟨"TITLE", ⟨5, "Title"⟩, false⟩]⟩
    Samples.task.draft.build = .ok s ∧ selection.Fits s ∧ ofSelection s selection = .ok p ∧
      ¬ (selection.push (.plain "title")).Fits s ∧ (p.columns.map Column.field).Nodup ∧
      p.apply s (task (.text "[]")) =
        .ok ⟨[("owner", .json (.array [])), ("TITLE", .text "sow")]⟩ ∧
      p.Tabulates s selection (task (.text "[]")) ∧
      p.apply s (task .null) = .ok ⟨[("owner", .null), ("TITLE", .text "sow")]⟩ ∧
      p.apply s (task (.text "[")) = .error (.projection "owner" (.document ⟨.endInList, 1, 1⟩)) ∧
      p.Tabulates s selection (task (.text "[")) := by
  intro s task selection p
  have built : Samples.task.draft.build = .ok s := rfl
  have apart : selection.selectors.Pairwise fun a b => Text.fold a.name ≠ Text.fold b.name :=
    List.pairwise_pair.2 (by decide +kernel)
  have made : ofSelection s selection = .ok p := ofSelection_eq_ok_iff.2
    ⟨List.cons_ne_nil _ _, .cons ⟨rfl, rfl, rfl, fun _ => rfl⟩ (.cons ⟨rfl, rfl, rfl, nofun⟩ .nil),
      apart⟩
  obtain ⟨fits, sound⟩ := tabulates_ofSelection built selection
  obtain ⟨-, once, rows⟩ := sound p made
  have conform : ∀ owner ∈ [.text "[]", .text "["], s.Conforms (task owner) := by
    simp only [List.mem_cons, List.not_mem_nil, or_false, forall_eq_or_imp, forall_eq]
    decide
  have twice : ¬ (selection.push (.plain "title")).Fits s := by
    intro h
    have hpair := (List.pairwise_append.1 h.once).2.2 (.plain "TITLE") (by simp [selection])
      (.plain "title") List.mem_cons_self
    exact hpair (by decide +kernel)
  have list : p.apply s (task (.text "[]")) =
      .ok ⟨[("owner", .json (.array [])), ("TITLE", .text "sow")]⟩ := rfl
  have null : p.apply s (task .null) = .ok ⟨[("owner", .null), ("TITLE", .text "sow")]⟩ := rfl
  have bracket : p.apply s (task (.text "[")) =
      .error (.projection "owner" (.document ⟨.endInList, 1, 1⟩)) := rfl
  exact ⟨built, fits.1 ⟨p, made⟩, made, twice, once, list, rows _ (conform _ (by simp)), null,
    bracket, rows _ (conform _ (by simp))⟩

end Projection

end EntityQuery
