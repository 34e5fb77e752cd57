import EntityQuery.Proofs.Mutation.Effects
import EntityQuery.Proofs.Plan.Resolution
import EntityQuery.Proofs.Sql.Commands
import EntityQuery.Samples

/-!
Literals stay out of texts. The outline of a request is what is left of it without the contents of
its literals and the numbers of its page. What two requests with the same outline are compiled to
has the same outline again, and the text of a command depends on its outline only. Main statements:
`outline_eq_of_alike` and `text_of_alike`.
-/

namespace EntityQuery

variable {E : Type} {s : Schema E}

open Result

/-! ### Outlines of requests -/

/-- A literal without its content: only whether it is null is left. -/
def blankLiteral (literal : Option String) : Option String := literal.map fun _ => ""

lemma isNone_of_blankLiteral {a b : Option String} (h : blankLiteral a = blankLiteral b) :
    a.isNone = b.isNone := by
  cases a <;> cases b <;> first | rfl | cases h

/-- A filter without the content of its literal. -/
def Filter.outline (f : Filter) : Filter := { f with value := blankLiteral f.value }

/-- A filter list without the contents of its literals. -/
def FilterList.outline (l : FilterList) : FilterList :=
  { l with filters := l.filters.map Filter.outline }

/-- A change without the content of its literal. -/
def PropertyChange.outline (c : PropertyChange) : PropertyChange :=
  { c with value := blankLiteral c.value }

/-- A listing request without the contents of its literals and without its page. -/
def ListingRequest.outline (r : ListingRequest) : ListingRequest :=
  { r with
    filter := r.filter.map .outline
    filters := r.filters.map .outline
    skip := 0
    take := 0 }

/-- A grouping request without the contents of its literals and without its page. -/
def GroupingRequest.outline (r : GroupingRequest) : GroupingRequest :=
  { r with filters := r.filters.map .outline, skip := 0, take := 0 }

/-- A change request without the contents of its literals. -/
def ChangeRequest.outline (r : ChangeRequest) : ChangeRequest :=
  ⟨r.filters.map .outline, r.changes.map .outline⟩

/-! ### Outlines of what is compiled -/

/-- A value without its content: only whether it is null is left. -/
def Value.outline (v : Value) : Value := if v.isNull then .null else .bool false

lemma Value.isNull_outline (v : Value) : v.outline.isNull = v.isNull := by
  unfold outline
  split
  · rename_i h
    exact h.symm
  · rename_i h
    exact (Bool.eq_false_iff.2 h).symm

/-- A predicate without the contents of its constants and needles. -/
def Predicate.outline : Predicate → Predicate
  | .compare f op v => .compare f op v.outline
  | .contains f _ => .contains f ""
  | .isNull f => .isNull f
  | .isNotNull f => .isNotNull f
  | .and p q => .and p.outline q.outline
  | .or p q => .or p.outline q.outline

/-- An assignment without the content of its value. -/
def Assignment.outline (a : Assignment) : Assignment := { a with value := a.value.outline }

/-- A mutation without the contents of its values. -/
def Mutation.outline (m : Mutation) : Mutation := ⟨m.assignments.map .outline⟩

/-- A page of which only is left whether it is limited and whether it shows everything. -/
def Page.outline (p : Page) : Page :=
  ⟨if p.skip = 0 ∧ p.take = 0 then 0 else 1, if p.take = 0 then 0 else 1⟩

/-- A plan without the contents of its constants and the numbers of its page. The navigations that
stay loaded are left out, too. -/
def Plan.outline (p : Plan) : Plan :=
  { p with includes := [], filter := p.filter.map .outline, page := p.page.outline }

/-- A change without the contents of its constants and values. -/
def BulkChange.outline (c : BulkChange) : BulkChange := ⟨c.filter.map .outline, c.mutation.outline⟩

/-! ### Compilation -/

namespace Literal

lemma isNull_of_coerce {t : FieldType} {literal : Option String} {v : Value}
    (h : coerce t literal = .ok v) : v.isNull = literal.isNone := by
  cases literal with
  | none =>
    obtain ⟨-, rfl⟩ := coerce_none_eq_ok_iff.1 h
    rfl
  | some text =>
    -- what is read from a text is a value of the field's kind, none of which is null
    exact FieldKind.isNull_of_admits (admits_of_valueOf (coerce_some_eq_ok_iff.1 h))

lemma outline_of_coerce {t : FieldType} {a b : Option String} (h : blankLiteral a = blankLiteral b)
    {v w : Value} (hv : coerce t a = .ok v) (hw : coerce t b = .ok w) : v.outline = w.outline := by
  rw [Value.outline, Value.outline, isNull_of_coerce hv, isNull_of_coerce hw,
    isNone_of_blankLiteral h]

end Literal

namespace Predicate

variable {p q : Predicate}

lemma outline_of_comparing {f : FieldRef} {t : FieldType} {op : Comparison} {a b : Option String}
    (h : blankLiteral a = blankLiteral b) (hp : comparing f t op a = .ok p)
    (hq : comparing f t op b = .ok q) : p.outline = q.outline := by
  obtain ⟨v, hv, rfl⟩ := map_eq_ok_iff.1 hp
  obtain ⟨w, hw, rfl⟩ := map_eq_ok_iff.1 hq
  rw [outline, outline, Literal.outline_of_coerce h hv hw]

lemma outline_of_build {f : FieldRef} {t : FieldType} {op : Operator} {a b : Option String}
    (h : blankLiteral a = blankLiteral b) (hp : build f t a op = .ok p)
    (hq : build f t b op = .ok q) : p.outline = q.outline := by
  cases op with
  | isNull | isNotNull =>
    cases hp
    cases hq
    rfl
  | contains =>
    simp only [build] at hp hq
    split at hp <;> cases hp
    split at hq <;> cases hq
    rfl
  | equal | notEqual | greaterThan | greaterThanOrEqual | lessThan | lessThanOrEqual =>
    exact outline_of_comparing h hp hq

lemma outline_of_ofFilter {f g : Filter} (h : f.outline = g.outline) (hp : ofFilter s f = .ok p)
    (hq : ofFilter s g = .ok q) : p.outline = q.outline := by
  obtain ⟨property, operator, a⟩ := f
  obtain ⟨property', operator', b⟩ := g
  obtain ⟨rfl, rfl, hvalue⟩ := Filter.mk.inj h
  obtain ⟨r, hr, hp⟩ := bind_eq_ok_iff.1 hp
  obtain ⟨r', hr', hq⟩ := bind_eq_ok_iff.1 hq
  obtain rfl := Except.ok.inj (hr.symm.trans hr')
  simp only at hp hq
  split at hp
  · rename_i hsupports
    rw [if_pos hsupports] at hq
    exact outline_of_build hvalue hp hq
  · cases hp

lemma outline_join (c : Connective) (p q : Predicate) :
    (join c p q).outline = join c p.outline q.outline := by
  cases c <;> rfl

lemma outline_of_foldlM {c : Connective} {fs gs : List Filter}
    (h : fs.map Filter.outline = gs.map Filter.outline) {p₀ q₀ : Predicate}
    (h₀ : p₀.outline = q₀.outline)
    (hp : fs.foldlM (fun p filter => join c p <$> ofFilter s filter) p₀ = .ok p)
    (hq : gs.foldlM (fun p filter => join c p <$> ofFilter s filter) q₀ = .ok q) :
    p.outline = q.outline := by
  induction fs generalizing gs p₀ q₀ with
  | nil =>
    obtain rfl := List.map_eq_nil_iff.1 h.symm
    cases hp
    cases hq
    exact h₀
  | cons f fs ih =>
    obtain ⟨g, gs, rfl, hfirst, hrest⟩ := List.map_eq_cons_iff.1 h.symm
    rw [List.foldlM_cons] at hp hq
    obtain ⟨p₁, hp₁, hp⟩ := bind_eq_ok_iff.1 hp
    obtain ⟨q₁, hq₁, hq⟩ := bind_eq_ok_iff.1 hq
    obtain ⟨p', hp', rfl⟩ := map_eq_ok_iff.1 hp₁
    obtain ⟨q', hq', rfl⟩ := map_eq_ok_iff.1 hq₁
    refine ih hrest.symm ?_ hp hq
    rw [outline_join, outline_join, h₀, outline_of_ofFilter hfirst.symm hp' hq']

lemma outline_of_ofList {l l' : FilterList} (h : l.outline = l'.outline)
    (hp : ofList s l = .ok p) (hq : ofList s l' = .ok q) : p.outline = q.outline := by
  obtain ⟨fs, c⟩ := l
  obtain ⟨gs, c'⟩ := l'
  obtain ⟨hfilters, rfl⟩ := FilterList.mk.inj h
  cases fs with
  | nil => cases hp
  | cons f fs =>
    obtain ⟨g, gs, rfl, hfirst, hrest⟩ := List.map_eq_cons_iff.1 hfilters.symm
    obtain ⟨p₀, hp₀, hp⟩ := bind_eq_ok_iff.1 hp
    obtain ⟨q₀, hq₀, hq⟩ := bind_eq_ok_iff.1 hq
    exact outline_of_foldlM hrest.symm (outline_of_ofFilter hfirst.symm hp₀ hq₀) hp hq

/-- What is compiled where there is anything to compile. -/
lemma outline_of_mapM {α : Type} {outlineOf : α → α} {compile : α → Except QueryError Predicate}
    (hcompile : ∀ a b p q, outlineOf a = outlineOf b → compile a = .ok p → compile b = .ok q →
      p.outline = q.outline) {x y : Option α} (h : x.map outlineOf = y.map outlineOf)
    {f g : Option Predicate} (hf : x.mapM compile = .ok f) (hg : y.mapM compile = .ok g) :
    f.map outline = g.map outline := by
  cases x with
  | none =>
    cases y with
    | none =>
      cases hf
      cases hg
      rfl
    | some b => cases h
  | some a =>
    cases y with
    | none => cases h
    | some b =>
      obtain ⟨p, hp, rfl⟩ := map_eq_ok_iff.1 hf
      obtain ⟨q, hq, rfl⟩ := map_eq_ok_iff.1 hg
      exact congrArg some (hcompile a b p q (Option.some.inj h) hp hq)

end Predicate

lemma outline_of_filters {x y : Option FilterList}
    (h : x.map FilterList.outline = y.map FilterList.outline)
    {f g : Option Predicate} (hf : x.mapM (Predicate.ofList s) = .ok f)
    (hg : y.mapM (Predicate.ofList s) = .ok g) : f.map Predicate.outline = g.map .outline :=
  Predicate.outline_of_mapM (fun _ _ _ _ => Predicate.outline_of_ofList) h hf hg

lemma PropertyChange.outline_of_assigns {c c' : PropertyChange} (h : c.outline = c'.outline)
    {a a' : Assignment} (ha : c.Assigns s a) (ha' : c'.Assigns s a') :
    a.outline = a'.outline := by
  obtain ⟨property, value⟩ := c
  obtain ⟨property', value'⟩ := c'
  obtain ⟨rfl, hvalue⟩ := PropertyChange.mk.inj h
  have hfield : a.field = a'.field := Except.ok.inj (ha.resolve.symm.trans ha'.resolve)
  have hcoerce := ha'.coerce
  rw [← hfield] at hcoerce
  rw [Assignment.outline, Assignment.outline, hfield,
    Literal.outline_of_coerce hvalue ha.coerce hcoerce]

lemma Mutation.outline_of_assigns {cs cs' : List PropertyChange}
    (h : cs.map PropertyChange.outline = cs'.map .outline) {as as' : List Assignment}
    (has : List.Forall₂ (PropertyChange.Assigns s) cs as)
    (has' : List.Forall₂ (PropertyChange.Assigns s) cs' as') :
    as.map Assignment.outline = as'.map .outline := by
  induction has generalizing cs' as' with
  | nil =>
    obtain rfl := List.map_eq_nil_iff.1 h.symm
    cases has'
    rfl
  | cons ha _ ih =>
    obtain ⟨c', cs', rfl, hfirst, hrest⟩ := List.map_eq_cons_iff.1 h.symm
    cases has' with
    | cons ha' has' =>
      rw [List.map_cons, List.map_cons, PropertyChange.outline_of_assigns hfirst.symm ha ha',
        ih hrest.symm has']

/-! ### Alike -/

/-- Predicates that are compiled in the same way from descriptions with the same outlines. -/
inductive Predicate.Alike (s : Schema E) : Predicate → Predicate → Prop
  | filter {f g : Filter} {p q : Predicate} (h : f.outline = g.outline)
    (hp : ofFilter s f = .ok p) (hq : ofFilter s g = .ok q) : Alike s p q
  | list {l l' : FilterList} {p q : Predicate} (h : l.outline = l'.outline)
    (hp : ofList s l = .ok p) (hq : ofList s l' = .ok q) : Alike s p q
  | and {p q p' q' : Predicate} (hp : Alike s p p') (hq : Alike s q q') :
    Alike s (.and p q) (.and p' q')
  | or {p q p' q' : Predicate} (hp : Alike s p p') (hq : Alike s q q') :
    Alike s (.or p q) (.or p' q')

/-- Pages that are both limited or not, and both show everything or not. -/
structure Page.Alike (p q : Page) : Prop where
  take : p.take = 0 ↔ q.take = 0
  unbounded : p.skip = 0 ∧ p.take = 0 ↔ q.skip = 0 ∧ q.take = 0

/-- Plans that are put together of like parts, or compiled from requests with the same outline under
the same settings, and whose pages are alike. -/
inductive Plan.Alike (s : Schema E) : Plan → Plan → Prop
  | parts {p q : Plan} (hfilter : Option.Rel (Predicate.Alike s) p.filter q.filter)
    (harrangement : p.arrangement = q.arrangement) (hprojection : p.projection = q.projection)
    (hpage : p.page.Alike q.page) : Alike s p q
  | listing {settings : RepositorySettings} {r r' : ListingRequest} {l l' : Listing}
    (h : r.outline = r'.outline) (hl : Listing.ofRequest s r = .ok l)
    (hl' : Listing.ofRequest s r' = .ok l')
    (hpage : (l.plan s settings).page.Alike (l'.plan s settings).page) :
    Alike s (l.plan s settings) (l'.plan s settings)
  | grouping {settings : RepositorySettings} {r r' : GroupingRequest} {g g' : Grouping}
    (h : r.outline = r'.outline) (hg : Grouping.ofRequest s r = .ok g)
    (hg' : Grouping.ofRequest s r' = .ok g')
    (hpage : (g.plan settings).page.Alike (g'.plan settings).page) :
    Alike s (g.plan settings) (g'.plan settings)

/-- Changes that are put together of like parts, or compiled from requests with the same outline. -/
inductive BulkChange.Alike (s : Schema E) : BulkChange → BulkChange → Prop
  | parts {f f' : Option Predicate} {cs cs' : List PropertyChange} {m m' : Mutation}
    (hfilter : Option.Rel (Predicate.Alike s) f f')
    (h : cs.map PropertyChange.outline = cs'.map .outline)
    (hm : cs.foldlM (fun m c => Mutation.set s m c.property c.value) .empty = .ok m)
    (hm' : cs'.foldlM (fun m c => Mutation.set s m c.property c.value) .empty = .ok m') :
    Alike s ⟨f, m⟩ ⟨f', m'⟩
  | request {r r' : ChangeRequest} {c c' : BulkChange} (h : r.outline = r'.outline)
    (hc : ofRequest s r = .ok c) (hc' : ofRequest s r' = .ok c') : Alike s c c'

namespace Predicate

lemma outline_eq_of_alike {p q : Predicate} (h : p.Alike s q) : p.outline = q.outline := by
  induction h with
  | filter h hp hq => exact outline_of_ofFilter h hp hq
  | list h hp hq => exact outline_of_ofList h hp hq
  | and _ _ ihp ihq => rw [outline, outline, ihp, ihq]
  | or _ _ ihp ihq => rw [outline, outline, ihp, ihq]

lemma outline_of_rel {f g : Option Predicate} (h : Option.Rel (Alike s) f g) :
    f.map outline = g.map outline := by
  cases h with
  | none => rfl
  | some h => exact congrArg some (outline_eq_of_alike h)

end Predicate

lemma Page.outline_eq_of_alike {p q : Page} (h : p.Alike q) : p.outline = q.outline := by
  unfold outline
  simp only [h.unbounded]
  simp only [h.take]

namespace Plan

lemma outline_eq {p q : Plan} (hfilter : p.filter.map Predicate.outline = q.filter.map .outline)
    (harrangement : p.arrangement = q.arrangement) (hprojection : p.projection = q.projection)
    (hpage : p.page.Alike q.page) : p.outline = q.outline := by
  rw [outline, outline, hfilter, harrangement, hprojection, Page.outline_eq_of_alike hpage]

lemma outline_of_predicate {r r' : ListingRequest} (hfilter : r.filter.map Filter.outline =
    r'.filter.map .outline) (hfilters : r.filters.map FilterList.outline = r'.filters.map .outline)
    {f g : Option Predicate} (hf : Listing.predicate s r = .ok f)
    (hg : Listing.predicate s r' = .ok g) : f.map Predicate.outline = g.map .outline := by
  unfold Listing.predicate at hf hg
  cases hl : r.filters with
  | none =>
    rw [hl] at hf hfilters
    have hl' : r'.filters = none := Option.map_eq_none_iff.1 hfilters.symm
    rw [hl'] at hg
    exact Predicate.outline_of_mapM (fun _ _ _ _ => Predicate.outline_of_ofFilter) hfilter hf hg
  | some l =>
    rw [hl] at hf hfilters
    obtain ⟨l', hl', -⟩ := Option.map_eq_some_iff.1 hfilters.symm
    rw [hl'] at hg hfilters
    exact outline_of_filters hfilters hf hg

/-- **Plans that are alike have the same outline.** -/
theorem outline_eq_of_alike {p q : Plan} (h : p.Alike s q) : p.outline = q.outline := by
  cases h with
  | parts hfilter harrangement hprojection hpage =>
    exact outline_eq (Predicate.outline_of_rel hfilter) harrangement hprojection hpage
  | @listing settings r r' l l' h hl hl' hpage =>
    obtain ⟨selection, filter, filters, order, skip, take, includes⟩ := r
    obtain ⟨selection', filter', filters', order', skip', take', includes'⟩ := r'
    obtain ⟨rfl, hfilter, hfilters, rfl, -, -, rfl⟩ := ListingRequest.mk.inj h
    obtain ⟨hpredicate, -, horder, hprojection, -⟩ := Listing.ofRequest_eq_ok_iff.1 hl
    obtain ⟨hpredicate', -, horder', hprojection', -⟩ := Listing.ofRequest_eq_ok_iff.1 hl'
    have hkey : l.order = l'.order := Except.ok.inj (horder.symm.trans horder')
    have hreshape : l.projection = l'.projection :=
      Except.ok.inj (hprojection.symm.trans hprojection')
    refine outline_eq (outline_of_predicate hfilter hfilters hpredicate hpredicate') ?_ hreshape
      hpage
    simp only [Listing.plan, Listing.sortKey, hkey]
  | @grouping settings r r' g g' h hg hg' hpage =>
    obtain ⟨rule, filters, skip, take⟩ := r
    obtain ⟨rule', filters', skip', take'⟩ := r'
    obtain ⟨rfl, hfilters, -, -⟩ := GroupingRequest.mk.inj h
    obtain ⟨hfilter, hkey, hchoice, -⟩ := Grouping.ofRequest_eq_ok_iff.1 hg
    obtain ⟨hfilter', hkey', hchoice', -⟩ := Grouping.ofRequest_eq_ok_iff.1 hg'
    have hsame : g.key = g'.key := Except.ok.inj (hkey.symm.trans hkey')
    have hchosen : g.representative = g'.representative :=
      Except.ok.inj (hchoice.symm.trans hchoice')
    refine outline_eq (outline_of_filters hfilters hfilter hfilter') ?_ rfl hpage
    simp only [Grouping.plan, hsame, hchosen]

end Plan

/-- **Changes that are alike have the same outline.** -/
theorem BulkChange.outline_eq_of_alike {c c' : BulkChange} (h : c.Alike s c') :
    c.outline = c'.outline := by
  cases h with
  | parts hfilter h hm hm' =>
    obtain ⟨as, has, rfl, -⟩ :=
      (Mutation.foldlM_set_eq_ok_iff (m := .empty) List.nodup_nil).1 hm
    obtain ⟨as', has', rfl, -⟩ :=
      (Mutation.foldlM_set_eq_ok_iff (m := .empty) List.nodup_nil).1 hm'
    rw [outline, outline, Predicate.outline_of_rel hfilter, Mutation.outline, Mutation.outline]
    exact congrArg _ (congrArg _ (Mutation.outline_of_assigns h has has'))
  | @request r r' c c' h hc hc' =>
    obtain ⟨filters, changes⟩ := r
    obtain ⟨filters', changes'⟩ := r'
    obtain ⟨hfilters, hchanges⟩ := ChangeRequest.mk.inj h
    obtain ⟨hf, hm⟩ := ChangeRequest.ofChanges_of_ofRequest hc
    obtain ⟨hf', hm'⟩ := ChangeRequest.ofChanges_of_ofRequest hc'
    rw [outline, outline, outline_of_filters hfilters hf hf', Mutation.outline, Mutation.outline]
    exact congrArg _ (congrArg _ (Mutation.outline_of_assigns hchanges
      (Mutation.ofChanges_eq_ok_iff.1 hm).2.1 (Mutation.ofChanges_eq_ok_iff.1 hm').2.1))

/-! ### Texts -/

namespace Sql

/-- A token without the content of a parameter. -/
def Token.masked : Token → Token
  | .param _ => .param .null
  | t => t

/-- The text of some tokens does not depend on the contents of their parameters. -/
lemma written_masked (k : ℕ) (ts : List Token) : written k (ts.map .masked) = written k ts := by
  induction ts generalizing k with
  | nil => rfl
  | cons t ts ih => cases t <;> simp [Token.masked, written, ih]

lemma length_parameters_masked (ts : List Token) :
    (parameters (ts.map .masked)).length = (parameters ts).length := by
  induction ts with
  | nil => rfl
  | cons t ts ih => cases t <;> simpa [Token.masked, parameters] using ih

lemma text_of_masked {ts us : List Token} (h : ts.map Token.masked = us.map .masked) :
    (Fragment.ofTokens ts).text = (Fragment.ofTokens us).text ∧
      (Fragment.ofTokens ts).params.length = (Fragment.ofTokens us).params.length := by
  refine ⟨String.ext ?_, ?_⟩
  · rw [Fragment.toList_text_ofTokens, Fragment.toList_text_ofTokens, ← written_masked, h,
      written_masked]
  · rw [Fragment.params_ofTokens, Fragment.params_ofTokens, ← length_parameters_masked, h,
      length_parameters_masked]

lemma masked_comparison (column : String) (nullable : Bool) (op : Comparison) (v : Value) :
    (Condition.ofComparison column nullable op v.outline).tokens.map Token.masked =
      (Condition.ofComparison column nullable op v).tokens.map .masked := by
  have hnull := v.isNull_outline
  cases op <;> cases hv : v.isNull <;> cases nullable <;>
    simp [Condition.ofComparison, hnull, hv, Condition.tokens, Token.masked]

lemma masked_condition (p : Predicate) :
    (Condition.ofPredicate s p.outline).tokens.map Token.masked =
      (Condition.ofPredicate s p).tokens.map .masked := by
  induction p with
  | compare f op v => exact masked_comparison f.name _ op v
  | contains f needle => rfl
  | isNull f | isNotNull f => rfl
  | and p q ihp ihq | or p q ihp ihq =>
    simp only [Predicate.outline, Condition.ofPredicate, Condition.tokens, List.map_append,
      List.map_cons, ihp, ihq]

lemma masked_filter (filter : Option Predicate) :
    (whereTokens (conditionOf s (filter.map .outline))).map Token.masked =
      (whereTokens (conditionOf s filter)).map .masked := by
  cases filter with
  | none => rfl
  | some p => exact congrArg (Token.fixed " WHERE " :: ·) (masked_condition p)

lemma masked_page (p : Page) :
    (windowTokens (Window.ofPage p.outline)).map Token.masked =
      (windowTokens (Window.ofPage p)).map .masked := by
  obtain ⟨skip, take⟩ := p
  by_cases htake : take = 0 <;> by_cases hskip : skip = 0
  all_goals simp [Page.outline, Window.ofPage, Page.isUnbounded, Page.limit?, windowTokens,
    Token.masked, htake, hskip]

lemma masked_separated (between : String) (tss : List (List Token)) :
    (separated between tss).map Token.masked =
      separated between (tss.map fun ts => ts.map .masked) := by
  induction tss with
  | nil => rfl
  | cons ts tss ih =>
    cases tss with
    | nil => rfl
    | cons us tss =>
      show (ts ++ .fixed between :: separated between (us :: tss)).map Token.masked = _
      rw [List.map_append, List.map_cons, ih]
      rfl

lemma masked_select {filter filter' : Option Condition} {window window' : Option Window}
    (hfilter : (whereTokens filter).map Token.masked = (whereTokens filter').map .masked)
    (hwindow : (windowTokens window).map Token.masked = (windowTokens window').map .masked)
    (table : String) (outputs : List Output) (source : Source) :
    (Statement.select table outputs source filter window).tokens.map Token.masked =
      (Statement.select table outputs source filter' window').tokens.map .masked := by
  cases source <;> simp [Statement.tokens, Source.tokens, hfilter, hwindow]

lemma masked_update (table : String) (c : BulkChange) :
    (Sql.update s table c.outline).tokens.map Token.masked =
      (Sql.update s table c).tokens.map .masked := by
  have hset : (separated ", " ((assignmentsOf c.outline).map assignmentTokens)).map Token.masked =
      (separated ", " ((assignmentsOf c).map assignmentTokens)).map .masked := by
    simp only [masked_separated, assignmentsOf, BulkChange.outline, Mutation.outline, List.map_map]
    rfl
  have hfilter : (whereTokens (conditionOf s c.outline.filter)).map Token.masked = _ :=
    masked_filter c.filter
  show (Statement.update table (assignmentsOf c.outline)
      (conditionOf s c.outline.filter)).tokens.map Token.masked =
    (Statement.update table (assignmentsOf c) (conditionOf s c.filter)).tokens.map .masked
  rw [tokens_update, tokens_update]
  simp only [List.map_cons, List.map_append, hset, hfilter]

/-! ### Commands -/

/-- Commands of one kind for plans, filters, changes or predicates that are alike. -/
inductive Command.Alike (s : Schema E) : Command → Command → Prop
  | select {p q : Plan} (h : p.Alike s q) : Alike s (.select p) (.select q)
  | count {f g : Option Predicate} (h : Option.Rel (Predicate.Alike s) f g) :
    Alike s (.count f) (.count g)
  | update {c c' : BulkChange} (h : c.Alike s c') : Alike s (.update c) (.update c')
  | delete {f g : Option Predicate} (h : Option.Rel (Predicate.Alike s) f g) :
    Alike s (.delete f) (.delete g)
  | condition {p q : Predicate} (h : p.Alike s q) : Alike s (.condition p) (.condition q)

namespace Command

/-- A command without the contents of its constants and values and the numbers of its page. -/
def outline : Command → Command
  | .select p => .select p.outline
  | .count filter => .count (filter.map .outline)
  | .update c => .update c.outline
  | .delete filter => .delete (filter.map .outline)
  | .condition p => .condition p.outline

lemma outline_eq_of_alike {c d : Command} (h : c.Alike s d) : c.outline = d.outline := by
  cases h with
  | select h => exact congrArg Command.select (Plan.outline_eq_of_alike h)
  | count h => exact congrArg Command.count (Predicate.outline_of_rel h)
  | update h => exact congrArg Command.update (BulkChange.outline_eq_of_alike h)
  | delete h => exact congrArg Command.delete (Predicate.outline_of_rel h)
  | condition h => exact congrArg Command.condition (Predicate.outline_eq_of_alike h)

/-- **The tokens of a command are those of its outline** but for the contents of parameters. -/
theorem masked_outline (s : Schema E) (table : String) (c : Command) :
    (c.outline.tokens s table).map Token.masked = (c.tokens s table).map .masked := by
  cases c with
  | select p =>
    exact masked_select (masked_filter p.filter) (masked_page p.page) table _ _
  | count filter =>
    exact congrArg (Token.fixed "SELECT COUNT(*) FROM " :: .name table :: ·) (masked_filter filter)
  | update c => exact masked_update table c
  | delete filter =>
    exact congrArg (Token.fixed "DELETE FROM " :: .name table :: ·) (masked_filter filter)
  | condition p => exact masked_condition p

/-- **No literal reaches the text.** Commands that differ in the contents of their literals and in
the numbers of their pages only have the same text and equally many parameters, whatever the
literals and the names of the table and its columns are. -/
theorem text_of_alike {c d : Command} (h : c.Alike s d) (table : String) :
    (c.fragment s table).text = (d.fragment s table).text ∧
      (c.fragment s table).params.length = (d.fragment s table).params.length := by
  rw [fragment_eq, fragment_eq]
  refine text_of_masked ?_
  rw [← masked_outline, outline_eq_of_alike h, masked_outline]

/-- Two listings of cities, one of which searches for a piece of SQL, have the same text. -/
theorem text_of_quoted_cities :
    let s : Schema Slots := ⟨"City", Samples.city.draft.fields, [], [], none⟩
    let request (name population : String) (skip take : UInt32) : ListingRequest :=
      { ListingRequest.usual with
        filters := some (.all [.equal "name" name, ⟨"Population", .greaterThan, some population⟩])
        skip, take }
    let plan (name : String) (population : Int64) (page : Page) : Plan :=
      { Plan.everything with
        filter := some (.and (.compare ⟨0, "Name"⟩ .equal (.text name))
          (.compare ⟨2, "Population"⟩ .greater (.int population)))
        page }
    let r := request "Oslo" "700" 0 5
    let r' := request "x' OR ?1 = 1; DROP TABLE City --" " 30" 2 9
    let p := plan "Oslo" 700 ⟨0, 5⟩
    let p' := plan "x' OR ?1 = 1; DROP TABLE City --" 30 ⟨2, 9⟩
    Listing.plan s .usual <$> Listing.ofRequest s r = .ok p ∧
      Listing.plan s .usual <$> Listing.ofRequest s r' = .ok p' ∧
      Alike s (.select p) (.select p') ∧
      (fragment s "City" (.select p)).text = (fragment s "City" (.select p')).text ∧
      (fragment s "City" (.select p)).params.length =
        (fragment s "City" (.select p')).params.length := by
  intro s request plan r r' p p'
  have outlines : r.outline = r'.outline := rfl
  have first : Listing.ofRequest s r = .ok ⟨[], p.filter, none, none, ⟨0, 5⟩⟩ := rfl
  have second : Listing.ofRequest s r' = .ok ⟨[], p'.filter, none, none, ⟨2, 9⟩⟩ := rfl
  have pages : Page.Alike ⟨0, 5⟩ ⟨2, 9⟩ := ⟨by decide, by decide⟩
  have alike : Alike s (.select p) (.select p') :=
    .select (@Plan.Alike.listing _ s .usual _ _ _ _ outlines first second pages)
  exact ⟨congrArg _ first, congrArg _ second, alike, text_of_alike alike "City"⟩

end Command

end Sql

end EntityQuery
