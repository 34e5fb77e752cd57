import EntityQuery.Proofs.Schema.Conformity

/-!
Navigations that are asked for. Names resolve exactly if every name means a declared navigation;
they come to the navigations they mean, each once, and what is left unloaded are the others. Main
statements: `includes_eq` and `exists_includes`.
-/

namespace EntityQuery.Schema

variable {E : Type} {s : Schema E} {name : String} {names included : List String}

/-- Whether one of the names means a navigation with the name of `n`. -/
def asksFor (s : Schema E) (names : List String) (n : Navigation E) : Bool :=
  names.any fun name => (s.navigation name).toOption.any fun found => found.name == n.name

/-- An entity without the navigations that no name asks for. -/
def view (s : Schema E) (names : List String) (e : E) : E :=
  (s.navigations.filter fun n => !s.asksFor names n).foldl (fun e n => n.unload e) e

/-- Every name means a declared navigation. -/
def DeclaresAll (s : Schema E) (names : List String) : Prop :=
  ∀ name ∈ names, ∃ n ∈ s.navigations, Text.sameFolded n.name name

lemma navigation_of_mem {s : Schema E} {n : Navigation E} {name : String}
    (hn : n ∈ s.navigations) (hname : Text.sameFolded n.name name) :
    ∃ found, s.navigation name = .ok found := by
  have hfind : (s.navigations.find? fun n => Text.sameFolded n.name name).isSome :=
    List.find?_isSome.2 ⟨n, hn, hname⟩
  obtain ⟨found, hfound⟩ := Option.isSome_iff_exists.1 hfind
  exact ⟨found, by rw [navigation, hfound]⟩

lemma of_navigation {n : Navigation E} (h : s.navigation name = .ok n) :
    n ∈ s.navigations ∧ Text.sameFolded n.name name := by
  unfold navigation at h
  split at h
  · rename_i found hfound
    cases h
    have hname := List.find?_some hfound
    exact ⟨List.mem_of_find?_eq_some hfound, hname⟩
  · cases h

lemma exists_navigation_iff :
    (∃ n, s.navigation name = .ok n) ↔ ∃ n ∈ s.navigations, Text.sameFolded n.name name := by
  constructor
  · rintro ⟨n, hn⟩
    exact ⟨n, of_navigation hn⟩
  · rintro ⟨n, hn, hname⟩
    exact navigation_of_mem hn hname

lemma asksFor_iff {n : Navigation E} :
    s.asksFor names n ↔ ∃ name ∈ names, Navigation.name <$> s.navigation name = .ok n.name := by
  rw [asksFor, List.any_eq_true]
  refine exists_congr fun name => and_congr_right fun _ => ?_
  cases s.navigation name with
  | error e => exact iff_of_false Bool.false_ne_true nofun
  | ok found =>
    show (found.name == n.name) ↔ Except.ok found.name = .ok n.name
    rw [beq_iff_eq, Except.ok.injEq]

/-- The first of some spellings joins those that are known, unless it is among them. -/
lemma append_eraseDups_cons (known spelled : List String) (first : String) :
    known ++ ((first :: spelled).filter fun x => !known.contains x).eraseDups =
      let next := if known.contains first then known else known ++ [first]
      next ++ (spelled.filter fun x => !next.contains x).eraseDups := by
  by_cases hknown : known.contains first
  · simp only [hknown, if_true, List.filter_cons, Bool.not_true, Bool.false_eq_true, if_false]
  · rw [Bool.not_eq_true] at hknown
    simp only [hknown, Bool.false_eq_true, if_false, List.filter_cons, Bool.not_false, if_true,
      List.eraseDups_cons, List.filter_filter, List.append_assoc, List.singleton_append,
      List.contains_append, List.contains_cons, List.contains_nil, Bool.or_false, Bool.not_or,
      Bool.and_comm]

/-- Names are resolved one by one, and their spellings join those that are known. -/
lemma foldlM_spellings (s : Schema E) (names known : List String) :
    names.foldlM (fun known name => do
      let n ← s.navigation name
      return if known.contains n.name then known else known ++ [n.name]) known =
      (fun spelled => known ++ (spelled.filter fun x => !known.contains x).eraseDups) <$>
        names.mapM fun name => Navigation.name <$> s.navigation name := by
  induction names generalizing known with
  | nil => exact congrArg Except.ok (List.append_nil known).symm
  | cons name names ih =>
    rw [List.foldlM_cons, List.mapM_cons]
    cases s.navigation name with
    | error e => rfl
    | ok n =>
      refine (ih (if known.contains n.name then known else known ++ [n.name])).trans ?_
      cases names.mapM fun name => Navigation.name <$> s.navigation name with
      | error e => rfl
      | ok spelled => exact congrArg Except.ok (append_eraseDups_cons known spelled n.name).symm

lemma includes_eq (s : Schema E) (names : List String) :
    s.includes names =
      List.eraseDups <$> names.mapM fun name => Navigation.name <$> s.navigation name := by
  rw [includes, foldlM_spellings]
  simp only [List.contains_nil, Bool.not_false, List.filter_true, List.nil_append]

/-- The navigations that names resolve to are those that they ask for. -/
lemma contains_of_includes {s : Schema E} {names included : List String}
    (h : s.includes names = .ok included) (n : Navigation E) :
    included.contains n.name = s.asksFor names n := by
  rw [includes_eq, Result.map_eq_ok_iff] at h
  obtain ⟨spelled, hspelled, rfl⟩ := h
  rw [Result.mapM_eq_ok_iff] at hspelled
  rw [Bool.eq_iff_iff, List.contains_iff_mem, List.mem_eraseDups, asksFor_iff]
  constructor
  · intro hmem
    exact Result.exists_of_forall₂ hspelled.flip hmem
  · rintro ⟨name, hname, hfound⟩
    obtain ⟨spelling, hmem, hspelling⟩ := Result.exists_of_forall₂ hspelled hname
    rw [hfound, Except.ok.injEq] at hspelling
    rw [hspelling]
    exact hmem

lemma exists_includes_iff :
    (∃ included, s.includes names = .ok included) ↔ s.DeclaresAll names := by
  have hname (name : String) : (∃ x, Navigation.name <$> s.navigation name = .ok x) ↔
      ∃ n ∈ s.navigations, Text.sameFolded n.name name := by
    rw [← exists_navigation_iff, ← Result.not_fails_iff, Result.fails_map_iff,
      Result.not_fails_iff]
  rw [← Result.not_fails_iff, includes_eq, Result.fails_map_iff, Result.not_fails_iff,
    Result.exists_mapM_iff]
  simp only [hname, DeclaresAll]

/-- **Where every name means a declared navigation, the names resolve to those they mean.** -/
theorem exists_includes {s : Schema E} {names : List String} (h : s.DeclaresAll names) :
    ∃ included, s.includes names = .ok included ∧
      ∀ n : Navigation E, included.contains n.name = s.asksFor names n := by
  obtain ⟨included, hincluded⟩ := exists_includes_iff.2 h
  exact ⟨included, hincluded, contains_of_includes hincluded⟩

lemma unloadExcept_eq_view {s : Schema E} {names included : List String}
    (h : ∀ n : Navigation E, included.contains n.name = s.asksFor names n) (e : E) :
    s.unloadExcept included e = s.view names e := by
  rw [view, List.foldl_filter, unloadExcept]
  refine congrArg (fun f => s.navigations.foldl f e) (funext fun e => funext fun n => ?_)
  rw [h n]
  cases s.asksFor names n <;> rfl

lemma unloadExcept_induction {s : Schema E} {P : E → Prop}
    (h : ∀ n ∈ s.navigations, ∀ e, P e → P (n.unload e)) (included : List String) {e : E}
    (he : P e) : P (s.unloadExcept included e) := by
  unfold unloadExcept
  refine List.foldlRecOn s.navigations _ he fun e he n hn => ?_
  split
  · exact he
  · exact h n hn e he

/-! ### Fields -/

/-- Whatever is unloaded, the fields read as before. -/
def FieldsStay (s : Schema E) : Prop :=
  ∀ n ∈ s.navigations, ∀ field ∈ s.fields, ∀ e, field.read (n.unload e) = field.read e

lemma FieldsStay.read_unloadExcept {s : Schema E} (hs : s.FieldsStay) {field : Field E}
    (hfield : field ∈ s.fields) (included : List String) (e : E) :
    field.read (s.unloadExcept included e) = field.read e :=
  unloadExcept_induction (P := fun e' => field.read e' = field.read e)
    (fun n hn e' he' => (hs n hn field hfield e').trans he') included rfl

lemma FieldsStay.conforms_unload {s : Schema E} (hs : s.FieldsStay) :
    ∀ n ∈ s.navigations, ∀ e, s.Conforms e → s.Conforms (n.unload e) := by
  intro n hn e he field hfield
  rw [hs n hn field hfield e]
  exact he field hfield

end EntityQuery.Schema
