import EntityQuery.Proofs.Mutation.Effects
import EntityQuery.Proofs.Schema.Slotted
import EntityQuery.Samples

/-!
Mutations as sets of assignments. A list of changes is accepted change by change, as long as no two
of them mean the same field; where the fields are slots of the entities nothing can fail any more,
and the order of the changes does not matter. Main statement: `assigns_ofChanges`.
-/

namespace EntityQuery

variable {E : Type} {s : Schema E} {changes changes' : List PropertyChange}

namespace Mutation

variable {m m' : Mutation}

/-! ### Acceptance -/

/-- The assigned fields differ exactly if no two properties mean the same field. -/
lemma nodup_fields_iff {as : List Assignment}
    (h : List.Forall₂ (PropertyChange.Assigns s) changes as) :
    (as.map Assignment.field).Nodup ↔
      changes.Pairwise fun c d => s.resolve c.property ≠ s.resolve d.property := by
  induction h with
  | nil => simp
  | @cons c a changes as hc hrest ih =>
    rw [List.map_cons, List.nodup_cons, List.pairwise_cons, ih]
    refine and_congr_left' ⟨fun hfresh d hd hsame => ?_, fun hdiffer hmem => ?_⟩
    · obtain ⟨b, hb, hassigns⟩ := Result.exists_of_forall₂ hrest hd
      rw [hc.resolve, hassigns.resolve, Except.ok.injEq] at hsame
      exact hfresh (List.mem_map.2 ⟨b, hb, hsame.symm⟩)
    · obtain ⟨b, hb, hsame⟩ := List.mem_map.1 hmem
      obtain ⟨d, hd, hassigns⟩ := Result.exists_of_forall₂ hrest.flip hb
      exact hdiffer d hd (by rw [hc.resolve, hassigns.resolve, hsame])

/-- **Changes are a mutation exactly if** there are some, each by itself is an assignment, and no
two properties mean the same field. -/
theorem exists_ofChanges_iff :
    (∃ m, ofChanges s changes = .ok m) ↔ changes ≠ [] ∧ (∀ c ∈ changes, ∃ a, c.Assigns s a) ∧
      changes.Pairwise fun c d => s.resolve c.property ≠ s.resolve d.property := by
  constructor
  · rintro ⟨m, hm⟩
    obtain ⟨hne, hassigns, hd⟩ := ofChanges_eq_ok_iff.1 hm
    exact ⟨hne, Result.exists_forall₂_iff.1 ⟨_, hassigns⟩, (nodup_fields_iff hassigns).1 hd⟩
  · rintro ⟨hne, hassigns, hdiffer⟩
    obtain ⟨as, has⟩ := Result.exists_forall₂_iff.2 hassigns
    exact ⟨⟨as⟩, ofChanges_eq_ok_iff.2 ⟨hne, has, (nodup_fields_iff has).2 hdiffer⟩⟩

lemma fold_ne_of_ofChanges (hs : s.NamesDiffer) (hm : ofChanges s changes = .ok m) :
    changes.Pairwise fun c d => Text.fold c.property ≠ Text.fold d.property := by
  obtain ⟨-, hassigns, hdiffer⟩ := exists_ofChanges_iff.1 ⟨m, hm⟩
  refine hdiffer.imp_of_mem fun {c d} hc hd hne hfold => hne ?_
  obtain ⟨a, ha⟩ := hassigns c hc
  obtain ⟨hdeclares, hname⟩ := Schema.of_resolve ha.resolve
  rw [ha.resolve, (Schema.resolve_eq_ok_iff hs).2 ⟨hdeclares, hname.trans hfold⟩]

lemma exists_ofChanges_of_perm (hm : ofChanges s changes = .ok m) (hperm : changes'.Perm changes) :
    ∃ m', ofChanges s changes' = .ok m' := by
  obtain ⟨hne, hassigns, hdiffer⟩ := exists_ofChanges_iff.1 ⟨m, hm⟩
  refine exists_ofChanges_iff.2 ⟨fun hempty => hne ?_, fun c hc => hassigns c (hperm.subset hc), ?_⟩
  · rw [hempty] at hperm
    exact hperm.symm.eq_nil
  · exact (hperm.pairwise_iff fun h => h.symm).2 hdiffer

/-! ### Application -/

variable {Valid : E → Prop} {e e' : E}

lemma exists_run (hs : s.Slotted Valid) (he : Valid e) {as : List Assignment}
    (has : ∀ a ∈ as, ∃ c : PropertyChange, c.Assigns s a) :
    ∃ e', run s e as = .ok e' ∧ Valid e' := by
  induction as generalizing e with
  | nil => exact ⟨e, rfl, he⟩
  | cons a as ih =>
    rw [List.forall_mem_cons] at has
    obtain ⟨⟨c, hc⟩, hrest⟩ := has
    -- the entity stays well-formed with each value that is taken, so the next one is taken, too
    have hmem := (Schema.declares_of_resolve hc.resolve).mem
    have hdenotes := Literal.denotes_of_coerce hc.coerce
    obtain ⟨e₁, hwrite⟩ := hs.takes _ hmem hc.writable e a.value he hdenotes.admits
      hdenotes.declares
    obtain ⟨e', hrun, he'⟩ := ih (hs.keeps _ hmem e _ e₁ he hwrite).1 hrest
    exact ⟨e', run_cons_eq_ok_iff.2 ⟨e₁, hwrite, hrun⟩, he'⟩

lemma exists_apply (hs : s.Slotted Valid) (he : Valid e) (hm : ofChanges s changes = .ok m) :
    ∃ e', m.apply s e = .ok e' ∧ Valid e' := by
  obtain ⟨-, hassigns, -⟩ := ofChanges_eq_ok_iff.1 hm
  obtain ⟨e', hrun, he'⟩ := exists_run hs he fun a ha => by
    obtain ⟨c, -, hc⟩ := exists_assigned hassigns ha
    exact ⟨c, hc⟩
  exact ⟨e', apply_eq_ok_iff.2 hrun, he'⟩

end Mutation

/-- The same changes in another order change an entity in the same way: in each field both results
read as the literal of the change that names it, or as before. -/
lemma PropertyChange.Changed.eq_of_perm {Valid : E → Prop} {e e₁ e₂ : E}
    (hseparates : s.Separates Valid) (h₁ : Changed s Valid changes e e₁)
    (h₂ : Changed s Valid changes' e e₂) (he₁ : Valid e₁) (he₂ : Valid e₂)
    (hperm : changes'.Perm changes) : e₂ = e₁ := by
  refine hseparates e₁ e₂ he₁ he₂ (fun field hfield => ?_) fun α look hlook => ?_
  · obtain ⟨f, hf, -, rfl⟩ := Schema.exists_declares hfield
    show s.read e₂ f = s.read e₁ f
    by_cases hnamed : ∃ c ∈ changes, s.resolve c.property = .ok f
    · obtain ⟨c, hc, hresolve⟩ := hnamed
      obtain ⟨g, v, hg, hv, hread⟩ := h₁.named c hc
      obtain ⟨g', v', hg', hv', hread'⟩ := h₂.named c (hperm.mem_iff.2 hc)
      cases hresolve.symm.trans hg
      cases hresolve.symm.trans hg'
      cases hv.symm.trans hv'
      rw [hread, hread']
    · push Not at hnamed
      rw [h₁.unnamed f hf hnamed, h₂.unnamed f hf fun c hc => hnamed c (hperm.subset hc)]
  · have hspares (c : PropertyChange) (f : FieldRef) (hf : s.resolve c.property = .ok f) :
        (s.field f).Spares Valid look := hlook _ (Schema.declares_of_resolve hf).mem
    rw [h₁.spared α look fun c _ f hf => hspares c f hf,
      h₂.spared α look fun c _ f hf => hspares c f hf]

/-- **Mutations are sets of assignments.** Changes are a mutation exactly if there are some, each by
itself is an assignment, and no two properties mean the same field; the assignments are in the order
of the changes, and the properties differ by more than ASCII case. Where the fields are slots of the
entities, applying the mutation succeeds: the named fields then read as the values of their literals
and nothing else is changed; and the same changes in whatever order lead to the same entity. -/
theorem Mutation.assigns_ofChanges {d : SchemaDraft E} (hs : d.build = .ok s)
    (changes : List PropertyChange) :
    ((∃ m, ofChanges s changes = .ok m) ↔ changes ≠ [] ∧ (∀ c ∈ changes, ∃ a, c.Assigns s a) ∧
      changes.Pairwise fun c d => s.resolve c.property ≠ s.resolve d.property) ∧
    ∀ m, ofChanges s changes = .ok m →
      List.Forall₂ (PropertyChange.Assigns s) changes m.assignments ∧
      (changes.Pairwise fun c d => Text.fold c.property ≠ Text.fold d.property) ∧
      ∀ Valid, s.Slotted Valid → ∀ e, Valid e →
        ∃ e', m.apply s e = .ok e' ∧ PropertyChange.Changed s Valid changes e e' ∧
          ∀ changes' : List PropertyChange, changes'.Perm changes →
            ∃ m', ofChanges s changes' = .ok m' ∧ m'.apply s e = .ok e' := by
  obtain ⟨-, -, -, hnames⟩ := SchemaDraft.of_build_eq_ok hs
  refine ⟨exists_ofChanges_iff, fun m hm => ⟨(ofChanges_eq_ok_iff.1 hm).2.1,
    fold_ne_of_ofChanges hnames hm, fun Valid hslots e he => ?_⟩⟩
  have hindependent := hslots.toIndependent
  obtain ⟨e₁, happly, he₁⟩ := exists_apply hslots he hm
  have hchanged := changed_of_apply hindependent he hm happly
  refine ⟨e₁, happly, hchanged, fun changes' hperm => ?_⟩
  obtain ⟨m', hm'⟩ := exists_ofChanges_of_perm hm hperm
  obtain ⟨e₂, happly', he₂⟩ := exists_apply hslots he hm'
  have hchanged' := changed_of_apply hindependent he hm' happly'
  refine ⟨m', hm', ?_⟩
  rw [happly', hchanged.eq_of_perm hslots.separates hchanged' he₁ he₂ hperm]

/-- A task becomes done and loses its owner, whichever of the two changes comes first. -/
theorem Mutation.assigns_of_done_task :
    let s : Schema Slots :=
      { name := "Task"
        fields := Samples.task.draft.fields
        navigations := Samples.task.draft.navigations
        unique := [⟨"ux_task_title", [⟨5, "Title"⟩]⟩,
          ⟨"ux_task_cost", [⟨6, "Owner"⟩, ⟨8, "Cost"⟩]⟩]
        modifiedAt := some ⟨4, "ModifiedAt"⟩ }
    let task (owner : Value) (done : Bool) : Slots :=
      ⟨BaseFields.fresh Uuid.nil Instant.epoch,
        [.text "sow", owner, .null, .null, .null, .bool done], [], none⟩
    let changes : List PropertyChange := [⟨"Done", some " TRUE "⟩, ⟨"owner", none⟩]
    Samples.task.draft.build = .ok s ∧ s.Slotted Samples.task.Fits ∧
      Samples.task.Fits (task (.text "Ada") false) ∧
      ∃ m m', ofChanges s changes = .ok m ∧ ofChanges s changes.reverse = .ok m' ∧
        m.apply s (task (.text "Ada") false) = .ok (task .null true) ∧
        m'.apply s (task (.text "Ada") false) = .ok (task .null true) := by
  intro s task changes
  have hbuild : Samples.task.draft.build = .ok s := rfl
  have hslots : s.Slotted Samples.task.Fits := SlotsType.slotted_slots hbuild (by decide)
  have hfits : Samples.task.Fits (task (.text "Ada") false) := rfl
  have hm : ofChanges s changes = .ok _ := rfl
  obtain ⟨e', hrun, -, horder⟩ := ((assigns_ofChanges hbuild changes).2 _ hm).2.2 _ hslots _ hfits
  obtain ⟨m', hm', hrun'⟩ := horder changes.reverse changes.reverse_perm
  have he' : e' = task .null true := Except.ok.inj hrun.symm
  subst he'
  exact ⟨hbuild, hslots, hfits, _, m', hm, hm', hrun, hrun'⟩

end EntityQuery
