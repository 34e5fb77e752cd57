import EntityQuery.Proofs.Mutation.Effects
import EntityQuery.Proofs.Predicate.Cuts
import EntityQuery.Proofs.Text.WholeNumbers
import EntityQuery.Samples
import EntityQuery.Value.Text

/-!
Members of enumerations and how they are called. A literal that is an integer calls the first member
with this ordinal, any other one the first member with this name, ASCII case not counting; so a
member answers to its own ordinal or name unless another one in front of it does, or its name is
taken for a number. Main statement: `addresses_of_mem`.
-/

namespace EntityQuery

/-! ### Blanks and case -/

namespace Text

lemma trimChars_isInfix (cs : List Char) : trimChars cs <:+: cs := by
  have hback : (trimStart cs).reverse.dropWhile isBlank <:+ (trimStart cs).reverse :=
    List.dropWhile_suffix _
  have hfront : trimStart cs <:+ cs := List.dropWhile_suffix _
  have hreverse : trimChars cs <+: trimStart cs := by
    have := List.reverse_prefix.2 hback
    rwa [List.reverse_reverse] at this
  exact hreverse.isInfix.trans hfront.isInfix

lemma fold_trim_eq_iff {name : String} : fold name = fold (trim name) ↔ trim name = name := by
  refine ⟨fun h => ?_, fun h => by rw [h]⟩
  have hlength := congrArg (fun s : String => s.toList.length) h
  simp only [fold, trim, String.toList_ofList, List.length_map] at hlength
  rw [trim, (trimChars_isInfix _).eq_of_length hlength.symm, String.ofList_toList]

end Text

/-! ### Members -/

/-- The ordinal of a member in decimal. -/
def EnumMember.ordinalText (m : EnumMember) : String :=
  String.ofList (Text.decimalInt m.ordinal.toInt)

namespace EnumType

variable {e : EnumType} {m : EnumMember}

/-- A member is the first of those that fit. -/
def First (e : EnumType) (fits : EnumMember → Prop) (m : EnumMember) : Prop :=
  ∃ before after, e.members = before ++ m :: after ∧ fits m ∧ ∀ other ∈ before, ¬ fits other

lemma First.fits {fits : EnumMember → Prop} (h : e.First fits m) : fits m := by
  obtain ⟨-, -, -, h, -⟩ := h
  exact h

lemma find?_eq_some_iff {fits : EnumMember → Bool} :
    e.members.find? fits = some m ↔ e.First (fun other => fits other) m := by
  rw [List.find?_eq_some_iff_append, First]
  constructor
  · rintro ⟨hm, before, after, hsplit, hbefore⟩
    exact ⟨before, after, hsplit, hm, fun other hother => by simpa using hbefore other hother⟩
  · rintro ⟨before, after, hsplit, hm, hbefore⟩
    exact ⟨hm, before, after, hsplit, fun other hother => by simpa using hbefore other hother⟩

lemma byOrdinal?_eq_some_iff {n : Int64} :
    e.byOrdinal? n = some m ↔ e.First (fun other => other.ordinal = n) m := by
  simp only [byOrdinal?, find?_eq_some_iff, beq_iff_eq]

lemma byName?_eq_some_iff {name : String} :
    e.byName? name = some m ↔ e.First (fun other => Text.fold other.name = Text.fold name) m := by
  simp only [byName?, find?_eq_some_iff, Text.sameFolded, beq_iff_eq]

/-- Of members that differ in something each is the first that has it. -/
lemma first_of_pairwise {α : Type} (look : EnumMember → α)
    (h : e.members.Pairwise fun a b => look a ≠ look b) (hm : m ∈ e.members) :
    e.First (fun other => look other = look m) m := by
  obtain ⟨before, after, hsplit⟩ := List.append_of_mem hm
  rw [hsplit, List.pairwise_append] at h
  exact ⟨before, after, hsplit, rfl, fun other hother => h.2.2 other hother m List.mem_cons_self⟩

lemma exists_first (fits : EnumMember → Prop) [DecidablePred fits] (hm : m ∈ e.members)
    (h : fits m) : ∃ first, e.First fits first := by
  have hfind : (e.members.find? fun other => decide (fits other)).isSome :=
    List.find?_isSome.2 ⟨m, hm, decide_eq_true h⟩
  obtain ⟨first, hfirst⟩ := Option.isSome_iff_exists.1 hfind
  exact ⟨first, by simpa using find?_eq_some_iff.1 hfirst⟩

/-- The member that a text calls: by its ordinal if the text is an integer of 64 bits, by its name
otherwise. -/
def Calls (e : EnumType) (s : String) (m : EnumMember) : Prop :=
  (∃ n : Int64, Whole.Denotes s.toList n.toInt ∧ e.First (fun other => other.ordinal = n) m) ∨
    (¬ ∃ n : Int64, Whole.Denotes s.toList n.toInt) ∧
      e.First (fun other => Text.fold other.name = Text.fold s) m

/-- A member answers to its name: this is the number of its ordinal, which no member in front of it
has, or it is no number, has no blanks at its ends, and no member in front of it has the name. -/
def AnswersToName (e : EnumType) (m : EnumMember) : Prop :=
  Whole.Denotes (Text.trim m.name).toList m.ordinal.toInt ∧
      e.First (fun other => other.ordinal = m.ordinal) m ∨
    (¬ ∃ n : Int64, Whole.Denotes (Text.trim m.name).toList n.toInt) ∧ Text.trim m.name = m.name ∧
      e.First (fun other => Text.fold other.name = Text.fold m.name) m

/-- Neither ordinals nor names repeat, no name is a number, and none has blanks at its ends. -/
structure Unmistakable (e : EnumType) : Prop where
  ordinals : e.members.Pairwise fun a b => a.ordinal ≠ b.ordinal
  names : e.members.Pairwise fun a b => Text.fold a.name ≠ Text.fold b.name
  words : ∀ m ∈ e.members,
    (¬ ∃ n : Int64, Whole.Denotes m.name.toList n.toInt) ∧ Text.trim m.name = m.name

lemma calls_name_iff : e.Calls (Text.trim m.name) m ↔ e.AnswersToName m := by
  refine or_congr ⟨?_, fun ⟨hdenotes, hfirst⟩ => ⟨_, hdenotes, hfirst⟩⟩ (and_congr_right' ?_)
  · rintro ⟨n, hdenotes, hfirst⟩
    obtain rfl : m.ordinal = n := hfirst.fits
    exact ⟨hdenotes, hfirst⟩
  · constructor
    · intro hfirst
      have htrim := Text.fold_trim_eq_iff.1 hfirst.fits
      exact ⟨htrim, by rwa [htrim] at hfirst⟩
    · rintro ⟨htrim, hfirst⟩
      rwa [htrim]

lemma Unmistakable.answersToName (h : e.Unmistakable) (hm : m ∈ e.members) :
    e.AnswersToName m := by
  obtain ⟨hword, htrim⟩ := h.words m hm
  exact .inr ⟨by rwa [htrim], htrim, first_of_pairwise (fun a => Text.fold a.name) h.names hm⟩

end EnumType

/-! ### Literals -/

namespace Literal

variable {t : FieldType} {e : EnumType} {m : EnumMember}

lemma memberOf_eq_ok_iff {s : List Char} :
    memberOf e s = .ok m ↔ e.Calls (String.ofList s) m := by
  rw [memberOf, EnumType.Calls, String.toList_ofList]
  simp only [← Whole.readInt64_eq_ok_iff]
  cases hread : Whole.readInt64 s with
  | ok n =>
    have hordinal : e.byOrdinal? n = some m ↔ e.First (fun other => other.ordinal = n) m :=
      EnumType.byOrdinal?_eq_some_iff
    cases hfound : e.byOrdinal? n <;> simp [← hordinal, hfound]
  | error problem =>
    have hname : e.byName? (String.ofList s) = some m ↔
        e.First (fun other => Text.fold other.name = Text.fold (String.ofList s)) m :=
      EnumType.byName?_eq_some_iff
    cases hfound : e.byName? (String.ofList s) <;> simp [← hname, hfound]

lemma coerce_eq_member_iff (ht : t.kind = .enum e) {text : String} :
    coerce t (some text) = .ok (.enum m) ↔ memberOf e (Text.trimChars text.toList) = .ok m := by
  have hvalue : valueOf t.kind text = Value.enum <$> memberOf e (Text.trimChars text.toList) := by
    rw [ht]
    rfl
  rw [coerce_some_eq_ok_iff, hvalue, Result.map_eq_ok_iff]
  simp

lemma coerce_eq_member_iff_calls (ht : t.kind = .enum e) {text : String} :
    coerce t (some text) = .ok (.enum m) ↔ e.Calls (Text.trim text) m := by
  rw [coerce_eq_member_iff ht, memberOf_eq_ok_iff, Text.trim]

lemma calls_ordinalText_iff {found : EnumMember} :
    e.Calls (Text.trim m.ordinalText) found ↔
      e.First (fun other => other.ordinal = m.ordinal) found := by
  have htrim : (Text.trim m.ordinalText).toList = Text.decimalInt m.ordinal.toInt := by
    rw [Text.trim, EnumMember.ordinalText, String.toList_ofList, String.toList_ofList,
      Text.trimChars_eq_self (Text.hasNoBlank_decimalInt _)]
  have hdenotes {n : Int64} :
      Whole.Denotes (Text.trim m.ordinalText).toList n.toInt ↔ n = m.ordinal := by
    rw [htrim, ← Whole.readInt64_eq_ok_iff, Whole.readInt64_decimalInt, Except.ok.injEq, eq_comm]
  simp [EnumType.Calls, hdenotes]

/-! ### Queries -/

section Queries

variable {E : Type} {s : Schema E} {property text : String} {f : FieldRef} {v : Value}

lemma ofFilter_equal (hf : s.resolve property = .ok f)
    (hv : coerce (s.typeOf f) (some text) = .ok v) :
    Predicate.ofFilter s (Comparison.equal.filter property (some text)) =
      .ok (.compare f .equal v) := by
  rw [Comparison.ofFilter_filter hf, if_pos fun h => absurd h (by decide), Predicate.comparing, hv]
  rfl

lemma ofChanges_singleton (hf : s.resolve property = .ok f) (hwritable : (s.field f).isWritable)
    (hv : coerce (s.typeOf f) (some text) = .ok v) :
    Mutation.ofChanges s [⟨property, some text⟩] = .ok ⟨[⟨f, v⟩]⟩ :=
  Mutation.ofChanges_eq_ok_iff.2
    ⟨List.cons_ne_nil _ _, .cons ⟨hf, hwritable, hv⟩ .nil, List.nodup_singleton _⟩

/-- How a declared member is called where literals are compared with a field or assigned to it. -/
structure Addresses (s : Schema E) (property : String) (f : FieldRef) (e : EnumType)
    (m : EnumMember) : Prop where
  /-- A member is written as its name. -/
  written : (Value.enum m).toJson = .string m.name
  /-- Its ordinal calls the first member that has this ordinal. -/
  ordinal : ∃ first, e.First (fun other => other.ordinal = m.ordinal) first ∧
    coerce (s.typeOf f) (some m.ordinalText) = .ok (.enum first)
  /-- So its ordinal calls the member itself exactly if no other one in front has it. -/
  ownOrdinal : coerce (s.typeOf f) (some m.ordinalText) = .ok (.enum m) ↔
    e.First (fun other => other.ordinal = m.ordinal) m
  /-- Its name calls it exactly if it answers to it. -/
  ownName : coerce (s.typeOf f) (some m.name) = .ok (.enum m) ↔ e.AnswersToName m
  /-- Where nothing can be mistaken, both call the member itself. -/
  both : e.Unmistakable → coerce (s.typeOf f) (some m.ordinalText) = .ok (.enum m) ∧
    coerce (s.typeOf f) (some m.name) = .ok (.enum m)
  /-- Whatever calls the member stands for it in a filter for equality and in a change. -/
  used : ∀ text, coerce (s.typeOf f) (some text) = .ok (.enum m) →
    Predicate.ofFilter s (Comparison.equal.filter property (some text)) =
        .ok (.compare f .equal (.enum m)) ∧
      ((s.field f).isWritable →
        Mutation.ofChanges s [⟨property, some text⟩] = .ok ⟨[⟨f, .enum m⟩]⟩)

/-- **A member is called by its ordinal and by its name**, unless a member in front of it is called
so, or its name is taken for a number or has blanks at its ends. -/
theorem addresses_of_mem (hf : s.resolve property = .ok f) (he : (s.typeOf f).kind = .enum e)
    (hm : m ∈ e.members) : Addresses s property f e m := by
  have hordinal {found : EnumMember} :
      coerce (s.typeOf f) (some m.ordinalText) = .ok (.enum found) ↔
        e.First (fun other => other.ordinal = m.ordinal) found :=
    (coerce_eq_member_iff_calls he).trans calls_ordinalText_iff
  have hname : coerce (s.typeOf f) (some m.name) = .ok (.enum m) ↔ e.AnswersToName m :=
    (coerce_eq_member_iff_calls he).trans EnumType.calls_name_iff
  obtain ⟨first, hfirst⟩ := EnumType.exists_first (fun other => other.ordinal = m.ordinal) hm rfl
  exact
    { written := rfl
      ordinal := ⟨first, hfirst, hordinal.2 hfirst⟩
      ownOrdinal := hordinal
      ownName := hname
      both := fun h =>
        ⟨hordinal.2 (EnumType.first_of_pairwise EnumMember.ordinal h.ordinals hm),
          hname.2 (h.answersToName hm)⟩
      used := fun text hv =>
        ⟨ofFilter_equal hf hv, fun hwritable => ofChanges_singleton hf hwritable hv⟩ }

/-- Nothing can be mistaken in the standings of persons: who is archived is found by the name and
by the ordinal, and is made so by either. -/
theorem addresses_of_archived :
    let s : Schema Slots := ⟨"Person", Samples.person.draft.fields, [], [], none⟩
    let f : FieldRef := ⟨10, "Status"⟩
    let archived : EnumMember := ⟨"Archived", 2⟩
    s.resolve "status" = .ok f ∧ (s.typeOf f).kind = .enum Samples.personStatus ∧
      archived ∈ Samples.personStatus.members ∧ Samples.personStatus.Unmistakable ∧
      coerce (s.typeOf f) (some "2") = .ok (.enum archived) ∧
      Predicate.ofFilter s (Comparison.equal.filter "status" (some "Archived")) =
        .ok (.compare f .equal (.enum archived)) ∧
      Mutation.ofChanges s [⟨"status", some "2"⟩] = .ok ⟨[⟨f, .enum archived⟩]⟩ := by
  intro s f archived
  have unmistakable : Samples.personStatus.Unmistakable := by
    have words : ∀ m ∈ Samples.personStatus.members,
        (Whole.readInt64 m.name.toList).toOption = none ∧ Text.trim m.name = m.name := by
      decide +kernel
    refine ⟨by decide, by decide +kernel, fun m hm => ⟨?_, (words m hm).2⟩⟩
    rintro ⟨n, denotes⟩
    have none := (words m hm).1
    rw [Whole.readInt64_eq_ok_iff.2 denotes] at none
    cases none
  have declared : archived ∈ Samples.personStatus.members := by decide
  have addresses : Addresses s "status" f Samples.personStatus archived :=
    addresses_of_mem rfl rfl declared
  have text : archived.ordinalText = "2" := by decide +kernel
  obtain ⟨ordinal, name⟩ := addresses.both unmistakable
  rw [text] at ordinal
  exact ⟨rfl, rfl, declared, unmistakable, ordinal, (addresses.used _ name).1,
    (addresses.used _ ordinal).2 rfl⟩

/-- Two names that differ in case only, and two members with one ordinal: the name of the one calls
the other, and so does the ordinal. -/
theorem not_addresses_of_levels :
    let t : SlotsType :=
      { Samples.city with slots := [Samples.required "Level" (.enum Samples.level)] }
    let s : Schema Slots := ⟨"City", t.draft.fields, [], [], none⟩
    let f : FieldRef := ⟨0, "Level"⟩
    let low : EnumMember := ⟨"low", 11⟩
    let top : EnumMember := ⟨"Top", 10⟩
    t.draft.build = .ok s ∧ s.resolve "Level" = .ok f ∧
      (s.typeOf f).kind = .enum Samples.level ∧ low ∈ Samples.level.members ∧
      top ∈ Samples.level.members ∧
      coerce (s.typeOf f) (some low.name) = .ok (.enum ⟨"Low", 1⟩) ∧
      coerce (s.typeOf f) (some top.ordinalText) = .ok (.enum ⟨"High", 10⟩) ∧
      ¬ (coerce (s.typeOf f) (some low.name) = .ok (.enum low)) ∧
      ¬ (coerce (s.typeOf f) (some top.ordinalText) = .ok (.enum top)) := by
  intro t s f low top
  have name : coerce (s.typeOf f) (some low.name) = .ok (.enum ⟨"Low", 1⟩) :=
    (coerce_eq_member_iff rfl).2 (by decide +kernel)
  have ordinal : coerce (s.typeOf f) (some top.ordinalText) = .ok (.enum ⟨"High", 10⟩) :=
    (coerce_eq_member_iff rfl).2 (by decide +kernel)
  refine ⟨rfl, rfl, rfl, by decide, by decide, name, ordinal, ?_, ?_⟩
  · rw [name, Except.ok.injEq, Value.enum.injEq]
    decide
  · rw [ordinal, Except.ok.injEq, Value.enum.injEq]
    decide

end Queries

end Literal

end EntityQuery
