import EntityQuery.Plan.Query
import EntityQuery.Proofs.Schema.Includes
import EntityQuery.Proofs.Schema.Names
import EntityQuery.Slots

/-!
Navigations by name. A name means the navigation that bears it, ASCII case not counting; the names
of a request become the declared spellings, each once and in the order of first mention, and these
say what stays loaded. Where no two navigations bear the same name up to case, an entity keeps
exactly the navigations that are named, and everything else it is. Main statements:
`includes_eq_ok_iff`, `foldlM_including` and `loadsOnly_iff`.
-/

namespace EntityQuery

variable {E α β : Type} {s : Schema E} {name : String} {names included : List String}

/-- Whether one of the names is that of the navigation, ASCII case not counting. -/
def Navigation.isNamed (n : Navigation E) (names : List String) : Bool :=
  names.any fun name => Text.sameFolded n.name name

namespace Schema

/-! ### Names -/

/-- No two navigations have names that differ in ASCII case at most. -/
def NavigationsDiffer (s : Schema E) : Prop :=
  (s.navigations.map Navigation.name).Pairwise fun a b => Text.fold a ≠ Text.fold b

lemma NavigationsDiffer.eq_of_sameFolded (hs : s.NavigationsDiffer) {n m : Navigation E}
    (hn : n ∈ s.navigations) (hm : m ∈ s.navigations) (hnname : Text.sameFolded n.name name)
    (hmname : Text.sameFolded m.name name) : n = m := by
  have hnodup : (s.navigations.map fun n => Text.fold n.name).Nodup := by
    rw [NavigationsDiffer, List.pairwise_map] at hs
    exact List.pairwise_map.2 hs
  exact List.inj_on_of_nodup_map hnodup hn hm
    ((beq_iff_eq.1 hnname).trans (beq_iff_eq.1 hmname).symm)

lemma NavigationsDiffer.navigation_eq_ok_iff (hs : s.NavigationsDiffer) {n : Navigation E} :
    s.navigation name = .ok n ↔ n ∈ s.navigations ∧ Text.sameFolded n.name name := by
  refine ⟨of_navigation, fun ⟨hn, hname⟩ => ?_⟩
  obtain ⟨found, hfound⟩ := navigation_of_mem hn hname
  obtain ⟨hmem, hfoundname⟩ := of_navigation hfound
  rw [hfound, hs.eq_of_sameFolded hmem hn hfoundname hname]

lemma NavigationsDiffer.asksFor_eq (hs : s.NavigationsDiffer) {n : Navigation E}
    (hn : n ∈ s.navigations) (names : List String) : s.asksFor names n = n.isNamed names := by
  rw [Bool.eq_iff_iff, asksFor_iff, Navigation.isNamed, List.any_eq_true]
  refine exists_congr fun name => and_congr_right fun _ => ?_
  simp only [Result.map_eq_ok_iff, hs.navigation_eq_ok_iff]
  constructor
  · rintro ⟨found, ⟨-, hsame⟩, hname⟩
    rw [← hname]
    exact hsame
  · intro hsame
    exact ⟨n, ⟨hn, hsame⟩, rfl⟩

/-! ### Spellings -/

/-- The declared spellings of the navigations that names mean, each once, in the order of first
mention. -/
def Spells (s : Schema E) (names included : List String) : Prop :=
  ∃ spelled : List String, List.Forall₂ (fun name spelling =>
    ∃ n ∈ s.navigations, Text.sameFolded n.name name ∧ n.name = spelling) names spelled ∧
      spelled.eraseDups = included

/-- **Names resolve to the declared spellings of the navigations that they mean.** -/
theorem includes_eq_ok_iff (hs : s.NavigationsDiffer) :
    s.includes names = .ok included ↔ s.Spells names included := by
  rw [includes_eq, Result.map_eq_ok_iff, Spells]
  simp only [Result.mapM_eq_ok_iff, Result.map_eq_ok_iff, hs.navigation_eq_ok_iff, and_assoc]

end Schema

namespace Listing

/-- A listing that knows some spellings takes in new ones as resolving names does. -/
lemma foldlM_including_known (s : Schema E) (names known : List String) (l : Listing) :
    names.foldlM (including s) { l with includes := known } =
      (fun included => { l with includes := included }) <$>
        names.foldlM (fun known name => do
          let n ← s.navigation name
          return if known.contains n.name then known else known ++ [n.name]) known := by
  induction names generalizing known with
  | nil => rfl
  | cons name names ih =>
    rw [List.foldlM_cons, List.foldlM_cons, including]
    cases s.navigation name with
    | error e => rfl
    | ok n =>
      refine Eq.trans ?_ (ih (if known.contains n.name then known else known ++ [n.name]))
      show names.foldlM (including s) (if known.contains n.name then _ else _) = _
      split <;> rfl

/-- **Asking a listing for one navigation after the other is asking for them at once.** -/
theorem foldlM_including (s : Schema E) (names : List String) {l : Listing}
    (hl : l.includes = []) :
    names.foldlM (including s) l =
      (fun included => { l with includes := included }) <$> s.includes names := by
  have hl' : { l with includes := [] } = l := by rw [← hl]
  rw [← hl']
  exact foldlM_including_known s names [] l

end Listing

/-! ### Unloading -/

/-- What an entity holds: what each of its navigations has loaded, what this is once the navigation
is unloaded, and the rest of the entity. -/
structure Contents (E α β : Type) where
  loaded : E → String → α
  cleared : String → α
  rest : E → β

namespace Schema

variable {c : Contents E α β}

/-- Unloading a navigation clears it, and leaves the other navigations and the rest as they are. -/
structure Clears (s : Schema E) (c : Contents E α β) : Prop where
  own : ∀ n ∈ s.navigations, ∀ e, c.loaded (n.unload e) n.name = c.cleared n.name
  others : ∀ n ∈ s.navigations, ∀ m ∈ s.navigations, n.name ≠ m.name →
    ∀ e, c.loaded (n.unload e) m.name = c.loaded e m.name
  rest : ∀ n ∈ s.navigations, ∀ e, c.rest (n.unload e) = c.rest e

/-- An entity is a stored one of which exactly the named navigations stayed loaded. -/
structure LoadsOnly (s : Schema E) (c : Contents E α β) (names : List String) (stored e : E) :
    Prop where
  /-- The others were unloaded, and nothing else was done. -/
  unloaded : e =
    (s.navigations.filter fun n => !n.isNamed names).foldl (fun e n => n.unload e) stored
  named : ∀ n ∈ s.navigations, n.isNamed names → c.loaded e n.name = c.loaded stored n.name
  others : ∀ n ∈ s.navigations, n.isNamed names = false → c.loaded e n.name = c.cleared n.name
  rest : c.rest e = c.rest stored

/-- Unloading some navigations clears them and touches nothing else. -/
lemma Clears.foldl_unload (hs : s.Clears c) {unloaded : List (Navigation E)}
    (hunloaded : unloaded ⊆ s.navigations) (e : E) :
    c.rest (unloaded.foldl (fun e n => n.unload e) e) = c.rest e ∧
      ∀ n ∈ s.navigations, c.loaded (unloaded.foldl (fun e n => n.unload e) e) n.name =
        if n.name ∈ unloaded.map Navigation.name then c.cleared n.name else c.loaded e n.name := by
  induction unloaded generalizing e with
  | nil => exact ⟨rfl, fun n _ => rfl⟩
  | cons first unloaded ih =>
    rw [List.cons_subset] at hunloaded
    obtain ⟨hfirst, hunloaded⟩ := hunloaded
    obtain ⟨hrest, hloaded⟩ := ih hunloaded (first.unload e)
    refine ⟨hrest.trans (hs.rest first hfirst e), fun n hn => ?_⟩
    rw [List.foldl_cons, hloaded n hn, List.map_cons]
    by_cases hlater : n.name ∈ unloaded.map Navigation.name
    · rw [if_pos hlater, if_pos (List.mem_cons_of_mem _ hlater)]
    · rw [if_neg hlater]
      by_cases hsame : first.name = n.name
      · rw [if_pos (List.mem_cons.2 (.inl hsame.symm)), ← hsame, hs.own first hfirst]
      · rw [if_neg (List.not_mem_cons_of_ne_of_not_mem (Ne.symm hsame) hlater),
          hs.others first hfirst n hn hsame]

lemma Clears.loadsOnly (hs : s.Clears c) (names : List String) (stored : E) :
    s.LoadsOnly c names stored
      ((s.navigations.filter fun n => !n.isNamed names).foldl (fun e n => n.unload e) stored) := by
  obtain ⟨hrest, hloaded⟩ := hs.foldl_unload (List.filter_subset_self
    (p := fun n => !n.isNamed names) s.navigations) stored
  -- navigations that share a name are named together
  have hunloaded (n : Navigation E) (hn : n ∈ s.navigations) :
      n.name ∈ (s.navigations.filter fun n => !n.isNamed names).map Navigation.name ↔
        n.isNamed names = false := by
    simp only [List.mem_map, List.mem_filter, Bool.not_eq_true']
    constructor
    · rintro ⟨m, ⟨-, hm⟩, hname⟩
      rw [Navigation.isNamed, ← hname]
      exact hm
    · intro hnamed
      exact ⟨n, ⟨hn, hnamed⟩, rfl⟩
  refine ⟨rfl, fun n hn hnamed => ?_, fun n hn hnamed => ?_, hrest⟩
  · rw [hloaded n hn, if_neg]
    rw [hunloaded n hn, hnamed]
    exact Bool.noConfusion
  · rw [hloaded n hn, if_pos ((hunloaded n hn).2 hnamed)]

lemma NavigationsDiffer.unloadExcept_eq (hs : s.NavigationsDiffer)
    (h : s.includes names = .ok included) (e : E) :
    s.unloadExcept included e =
      (s.navigations.filter fun n => !n.isNamed names).foldl (fun e n => n.unload e) e := by
  rw [unloadExcept_eq_view (contains_of_includes h), view]
  refine congrArg (fun unloaded => unloaded.foldl (fun e (n : Navigation E) => n.unload e) e)
    (List.filter_congr fun n hn => ?_)
  rw [hs.asksFor_eq hn]

/-- **Unloading all but the spellings of some names leaves exactly what they name.** -/
theorem loadsOnly_iff (hs : s.NavigationsDiffer) (hclears : s.Clears c)
    (h : s.includes names = .ok included) {stored e : E} :
    s.LoadsOnly c names stored e ↔ e = s.unloadExcept included stored := by
  rw [hs.unloadExcept_eq h]
  constructor
  · exact LoadsOnly.unloaded
  · rintro rfl
    exact hclears.loadsOnly names stored

lemma mem_includes_iff (hs : s.NavigationsDiffer) (h : s.includes names = .ok included)
    {n : Navigation E} (hn : n ∈ s.navigations) : n.name ∈ included ↔ n.isNamed names := by
  rw [← hs.asksFor_eq hn, ← contains_of_includes h, List.contains_iff_mem]

end Schema

/-! ### Slots -/

/-- What an entity of slots holds. -/
def SlotsType.contents (t : SlotsType) : Contents Slots (List String) Slots where
  loaded e name := e.related.getD (t.navigations.idxOf name) []
  cleared _ := []
  rest e := { e with related := [] }

lemma SlotsType.navigations_eq {t : SlotsType} {s : Schema Slots} (hs : t.draft.build = .ok s)
    (hdiffer : s.NavigationsDiffer) : ∀ n ∈ s.navigations,
      n.name ∈ t.navigations ∧ n.unload = Slots.unload (t.navigations.idxOf n.name) := by
  obtain ⟨-, -, hnavigations, -⟩ := SchemaDraft.of_build_eq_ok hs
  have hnames : s.navigations.map Navigation.name = t.navigations := by
    rw [hnavigations]
    exact List.ext_getElem (by simp [draft]) fun i _ _ => by simp [draft]
  have hnodup : t.navigations.Nodup := by
    rw [← hnames]
    exact hdiffer.imp fun h heq => h (congrArg Text.fold heq)
  intro n hn
  rw [hnavigations] at hn
  obtain ⟨i, hi, rfl⟩ := List.mem_mapIdx.1 hn
  exact ⟨List.getElem_mem hi, by rw [hnodup.idxOf_getElem]⟩

lemma SlotsType.clears_contents {t : SlotsType} {s : Schema Slots} (hs : t.draft.build = .ok s)
    (hdiffer : s.NavigationsDiffer) : s.Clears t.contents := by
  have hnavigations := navigations_eq hs hdiffer
  refine ⟨fun n hn e => ?_, fun n hn m hm hne e => ?_, fun n hn e => ?_⟩
  · rw [(hnavigations n hn).2]
    show (e.related.set _ []).getD _ [] = []
    rw [List.getD_eq_getElem?_getD, List.getElem?_set, if_pos rfl]
    split <;> rfl
  · have hpositions : t.navigations.idxOf n.name ≠ t.navigations.idxOf m.name :=
      fun heq => hne ((List.idxOf_inj (hnavigations n hn).1).1 heq)
    rw [(hnavigations n hn).2]
    show (e.related.set _ []).getD _ [] = e.related.getD _ []
    rw [List.getD_eq_getElem?_getD, List.getD_eq_getElem?_getD, List.getElem?_set_ne hpositions]
  · rw [(hnavigations n hn).2]
    rfl

end EntityQuery
