import EntityQuery.Proofs.Sql.Commands

/-!
Placeholders and parameters. What a command is given as data stands in its text as placeholders,
which are numbered from left to right, each behind the name or the word that it belongs to; and the
parameters are the data in the same order. Main statement: `placeholders_text`.
-/

namespace EntityQuery.Sql

variable {E : Type}

/-! ### Data -/

/-- A datum, and the name or word behind which its placeholder stands. -/
structure Argument where
  site : Lexeme
  value : Value

/-- The parameter that an argument is passed as. -/
def Argument.param (a : Argument) : Param := .ofValue a.value

/-- Whether a comparison asks for null or for anything else. -/
def testsNull (op : Comparison) (v : Value) : Prop := v.isNull ∧ (op = .equal ∨ op = .notEqual)

instance (op : Comparison) (v : Value) : Decidable (testsNull op v) :=
  inferInstanceAs (Decidable (_ ∧ _))

/-- The constants and needles of a predicate from left to right. Null is no datum where it is
compared for equality. -/
def predicateArguments : Predicate → List Argument
  | .compare f op v => if testsNull op v then [] else [⟨.name f.name, v⟩]
  | .contains f needle => [⟨.name f.name, .text needle⟩]
  | .isNull _ | .isNotNull _ => []
  | .and p q | .or p q => predicateArguments p ++ predicateArguments q

/-- The data of a filter. -/
def filterArguments (filter : Option Predicate) : List Argument :=
  (filter.map predicateArguments).getD []

/-- The data of a page: its size unless that is 0, and then what it skips unless it shows
everything. -/
def pageArguments (p : Page) : List Argument :=
  (if p.take = 0 then [] else [⟨.word "limit", .int (.ofNat p.take.toNat)⟩]) ++
    if p.skip = 0 ∧ p.take = 0 then [] else [⟨.word "offset", .int (.ofNat p.skip.toNat)⟩]

/-- The data of assignments. -/
def mutationArguments (m : Mutation) : List Argument :=
  m.assignments.map fun a => ⟨.name a.field.name, a.value⟩

/-- The data of a command in the order in which they are written. -/
def Command.arguments : Command → List Argument
  | .select p => filterArguments p.filter ++ pageArguments p.page
  | .count filter => filterArguments filter
  | .update c => mutationArguments c.mutation ++ filterArguments c.filter
  | .delete filter => filterArguments filter
  | .condition p => predicateArguments p

/-! ### Placeholders -/

/-- The numbers of the placeholders from left to right, each with the last name or word in front of
it. -/
def placeholders : Option Lexeme → List Lexeme → List (Option Lexeme × ℕ)
  | _, [] => []
  | last, .parameter n :: rest => (last, n) :: placeholders last rest
  | _, .name n :: rest => placeholders (some (.name n)) rest
  | _, .word w :: rest => placeholders (some (.word w)) rest
  | last, .number _ :: rest => placeholders last rest
  | last, .sign _ :: rest => placeholders last rest

/-- Arguments as placeholders, after a number of others. -/
def numbered : ℕ → List Argument → List (Option Lexeme × ℕ)
  | _, [] => []
  | k, a :: rest => (some a.site, k + 1) :: numbered (k + 1) rest

lemma numbered_append (k : ℕ) (as bs : List Argument) :
    numbered k (as ++ bs) = numbered k as ++ numbered (k + as.length) bs := by
  induction as generalizing k with
  | nil => rfl
  | cons a as ih => simp [numbered, ih, Nat.add_assoc, Nat.add_comm 1]

lemma map_fst_numbered (k : ℕ) (as : List Argument) :
    (numbered k as).map Prod.fst = as.map fun a => some a.site := by
  induction as generalizing k with
  | nil => rfl
  | cons a as ih => exact congrArg _ (ih (k + 1))

lemma map_snd_numbered (k : ℕ) (as : List Argument) :
    (numbered k as).map Prod.snd = List.range' (k + 1) as.length := by
  induction as generalizing k with
  | nil => rfl
  | cons a as ih => exact congrArg _ (ih (k + 1))

/-- Lexemes with certain placeholders, whatever stands in front of them and behind them. -/
def Places (ls : List Lexeme) (ps : List (Option Lexeme × ℕ)) : Prop :=
  ∀ last, ∃ last', ∀ rest, placeholders last (ls ++ rest) = ps ++ placeholders last' rest

lemma Places.append {ls ms : List Lexeme} {ps qs : List (Option Lexeme × ℕ)} (hl : Places ls ps)
    (hm : Places ms qs) : Places (ls ++ ms) (ps ++ qs) := by
  intro last
  obtain ⟨middle, hl⟩ := hl last
  obtain ⟨last', hm⟩ := hm middle
  exact ⟨last', fun rest => by rw [List.append_assoc, hl, hm, List.append_assoc]⟩

lemma places_nil : Places [] [] := fun last => ⟨last, fun _ => rfl⟩

/-- Whether a lexeme is no placeholder. -/
def isPlain : Lexeme → Bool
  | .parameter _ => false
  | _ => true

lemma Places.cons {l : Lexeme} {ls : List Lexeme} {ps : List (Option Lexeme × ℕ)} (hl : isPlain l)
    (hls : Places ls ps) : Places (l :: ls) ps := by
  intro last
  cases l with
  | parameter n => cases hl
  | word w => exact hls (some (.word w))
  | name n => exact hls (some (.name n))
  | number n => exact hls last
  | sign s => exact hls last

lemma Places.after_plain {ls ms : List Lexeme} {ps : List (Option Lexeme × ℕ)}
    (hls : ls.all isPlain) (hms : Places ms ps) : Places (ls ++ ms) ps := by
  induction ls with
  | nil => exact hms
  | cons l ls ih =>
    rw [List.all_cons, Bool.and_eq_true] at hls
    exact (ih hls.2).cons hls.1

lemma places_of_plain {ls : List Lexeme} (h : ls.all isPlain) : Places ls [] := by
  have hnil := places_nil.after_plain h
  rwa [List.append_nil] at hnil

/-! ### Conditions -/

lemma ofComparison_cases (column : String) (nullable : Bool) (op : Comparison) (v : Value) :
    let c := Condition.ofComparison column nullable op v
    testsNull op v ∧ (c = .isNull column ∨ c = .isNotNull column) ∨
      ¬ testsNull op v ∧
        (c = .compare column op (.ofValue v) ∨ c = .differs column (.ofValue v)) := by
  cases op <;> cases hv : v.isNull <;> cases nullable <;>
    simp [Condition.ofComparison, testsNull, hv]

lemma parameters_condition (s : Schema E) (p : Predicate) :
    parameters (Condition.ofPredicate s p).tokens = (predicateArguments p).map Argument.param := by
  induction p with
  | compare f op v =>
    rw [Condition.ofPredicate, predicateArguments]
    rcases ofComparison_cases f.name (s.typeOf f).nullable op v with ⟨h, hc | hc⟩ | ⟨h, hc | hc⟩
    · rw [hc, if_pos h]
      rfl
    · rw [hc, if_pos h]
      rfl
    · rw [hc, if_neg h]
      rfl
    · rw [hc, if_neg h]
      rfl
  | contains f needle => rfl
  | isNull f | isNotNull f => rfl
  | and p q ihp ihq | or p q ihp ihq =>
    rw [Condition.ofPredicate, Condition.tokens, parameters_joined, ihp, ihq, predicateArguments,
      List.map_append]

lemma count_condition (s : Schema E) (p : Predicate) :
    (Condition.ofPredicate s p).count = (predicateArguments p).length := by
  rw [Condition.count, parameters_condition, List.length_map]

lemma places_joined {ls ms : List Lexeme} {ps qs : List (Option Lexeme × ℕ)} (hl : Places ls ps)
    (hm : Places ms qs) (w : String) :
    Places (.sign .openParen :: ls ++ .word w :: ms ++ [.sign .closeParen]) (ps ++ qs) := by
  have hclose : Places [.sign .closeParen] [] := places_of_plain rfl
  have hall := ((hl.append (hm.cons (l := .word w) rfl)).append hclose).cons
    (l := .sign .openParen) rfl
  simpa using hall

/-- **The placeholders of a condition** are those of its constants and needles. -/
theorem places_condition (s : Schema E) (p : Predicate) (k : ℕ) :
    Places ((Condition.ofPredicate s p).lexemes k) (numbered k (predicateArguments p)) := by
  -- the right side of a connective is numbered behind the placeholders of the left side
  induction p generalizing k with
  | compare f op v =>
    rw [Condition.ofPredicate, predicateArguments]
    rcases ofComparison_cases f.name (s.typeOf f).nullable op v with ⟨h, hc | hc⟩ | ⟨h, hc | hc⟩
    · rw [hc, if_pos h]
      exact places_of_plain rfl
    · rw [hc, if_pos h]
      exact places_of_plain rfl
    · rw [hc, if_neg h]
      exact fun _ => ⟨some (.name f.name), fun _ => rfl⟩
    · rw [hc, if_neg h]
      exact fun _ => ⟨some (.word "null"), fun _ => rfl⟩
  | contains f needle => exact fun _ => ⟨some (.name f.name), fun _ => rfl⟩
  | isNull f | isNotNull f => exact places_of_plain rfl
  | and p q ihp ihq | or p q ihp ihq =>
    rw [predicateArguments, numbered_append, ← count_condition s p]
    exact places_joined (ihp k) (ihq _) _

/-! ### Clauses -/

lemma parameters_filter (s : Schema E) (filter : Option Predicate) :
    parameters (whereTokens (conditionOf s filter)) =
      (filterArguments filter).map Argument.param := by
  cases filter with
  | none => rfl
  | some p => exact parameters_condition s p

lemma places_filter (s : Schema E) (filter : Option Predicate) (k : ℕ) :
    Places (whereLexemes k (conditionOf s filter)) (numbered k (filterArguments filter)) := by
  cases filter with
  | none => exact places_nil
  | some p => exact (places_condition s p k).cons rfl

/-- The window of a page holds what it skips, and its size if it has one. -/
lemma ofPage_cases (p : Page) :
    (Window.ofPage p = none ∧ pageArguments p = []) ∨
      (∃ n, Window.ofPage p = some ⟨none, n⟩ ∧ pageArguments p = [⟨.word "offset", .int n⟩]) ∨
      ∃ m n, Window.ofPage p = some ⟨some m, n⟩ ∧
        pageArguments p = [⟨.word "limit", .int m⟩, ⟨.word "offset", .int n⟩] := by
  obtain ⟨skip, take⟩ := p
  by_cases htake : take = 0 <;> by_cases hskip : skip = 0
  all_goals simp [Window.ofPage, Page.isUnbounded, Page.limit?, pageArguments, htake, hskip]

lemma parameters_page (p : Page) :
    parameters (windowTokens (Window.ofPage p)) = (pageArguments p).map Argument.param := by
  rcases ofPage_cases p with ⟨hw, ha⟩ | ⟨n, hw, ha⟩ | ⟨m, n, hw, ha⟩
  all_goals
    rw [hw, ha]
    rfl

lemma places_page (p : Page) (k : ℕ) :
    Places (windowLexemes k (Window.ofPage p)) (numbered k (pageArguments p)) := by
  rcases ofPage_cases p with ⟨hw, ha⟩ | ⟨n, hw, ha⟩ | ⟨m, n, hw, ha⟩
  · rw [hw, ha]
    exact places_nil
  · rw [hw, ha]
    exact fun _ => ⟨some (.word "offset"), fun _ => rfl⟩
  · rw [hw, ha]
    exact fun _ => ⟨some (.word "offset"), fun _ => rfl⟩

lemma map_snd_assignmentsOf (c : BulkChange) :
    (assignmentsOf c).map Prod.snd = (mutationArguments c.mutation).map Argument.param := by
  simp [assignmentsOf, mutationArguments, Argument.param]

lemma length_assignmentsOf (c : BulkChange) :
    (assignmentsOf c).length = (mutationArguments c.mutation).length := by
  simp [assignmentsOf, mutationArguments]

lemma places_assignments (as : List Assignment) (k : ℕ) :
    Places (assignmentLexemes k (as.map fun a => (a.field.name, .ofValue a.value)))
      (numbered k (mutationArguments ⟨as⟩)) := by
  induction as generalizing k with
  | nil => exact places_nil
  | cons a as ih =>
    have hfirst : Places [.name a.field.name, .sign .equal, .parameter (k + 1)]
        [(some (.name a.field.name), k + 1)] := fun _ => ⟨some (.name a.field.name), fun _ => rfl⟩
    cases as with
    | nil => exact hfirst
    | cons b as => exact hfirst.append ((ih (k + 1)).cons (l := .sign .comma) rfl)

lemma plain_outputs (os : List Output) : (outputLexemes os).all isPlain := by
  have houtput (o : Output) : o.lexemes.all isPlain := by
    obtain ⟨column, label⟩ := o
    cases label <;> rfl
  induction os with
  | nil => rfl
  | cons o os ih =>
    cases os with
    | nil => exact houtput o
    | cons o' os =>
      show (o.lexemes ++ .sign .comma :: outputLexemes (o' :: os)).all isPlain
      rw [List.all_append, houtput o]
      exact ih

lemma plain_order (order : Option OrderTerm) : (orderLexemes order).all isPlain := by
  cases order <;> rfl

lemma filterCount_condition (s : Schema E) (filter : Option Predicate) :
    filterCount (conditionOf s filter) = (filterArguments filter).length := by
  rw [filterCount, parameters_filter, List.length_map]

section Select

variable (table : String) (outputs : List Output) (order : Option OrderTerm)
  {filter : Option Condition} {window : Option Window} {ps qs : List (Option Lexeme × ℕ)}

lemma places_select (hfilter : Places (whereLexemes 0 filter) ps)
    (hwindow : Places (windowLexemes (filterCount filter) window) qs) :
    Places (selectLexemes table outputs order filter window) (ps ++ qs) := by
  have htail := hfilter.append (hwindow.after_plain (plain_order order))
  have hfrom := (htail.cons (l := .name table) rfl).cons (l := .word "from") rfl
  exact (hfrom.after_plain (plain_outputs outputs)).cons rfl

lemma places_firstOfEach (column : String) (hfilter : Places (whereLexemes 0 filter) ps)
    (hwindow : Places (windowLexemes (filterCount filter) window) qs) :
    Places (firstOfEachLexemes table column outputs order filter window) (ps ++ qs) := by
  have hfirst : Places (.sign .closeParen :: firstLexemes (filterCount filter) window) qs := by
    iterate 5 refine .cons rfl ?_
    exact hwindow
  have hrows : Places (.sign .closeParen :: .word "as" :: .name rowNumber :: .word "from" ::
      .name table :: (whereLexemes 0 filter ++ .sign .closeParen ::
        firstLexemes (filterCount filter) window)) (ps ++ qs) := by
    iterate 5 refine .cons rfl ?_
    exact hfilter.append hfirst
  have hnumbering : Places (numberingLexemes table column order filter
      (firstLexemes (filterCount filter) window)) (ps ++ qs) := by
    iterate 12 refine .cons rfl ?_
    exact hrows.after_plain (plain_order order)
  exact ((hnumbering.cons (l := .word "from") rfl).after_plain (plain_outputs outputs)).cons rfl

end Select

/-! ### Commands -/

namespace Command

variable (s : Schema E) (table : String)

lemma params_fragment (c : Command) :
    (c.fragment s table).params = c.arguments.map Argument.param := by
  rw [fragment_eq, Fragment.params_ofTokens]
  cases c with
  | select p =>
    have hboth : parameters (whereTokens (conditionOf s p.filter)) ++
        parameters (windowTokens (Window.ofPage p.page)) =
          (arguments (.select p)).map Argument.param := by
      rw [parameters_filter, parameters_page, arguments, List.map_append]
    obtain ⟨includes, filter, arrangement, projection, page⟩ := p
    cases arrangement with
    | sorted key => exact (parameters_select table _ _ _ _).trans hboth
    | grouped key r => exact (parameters_firstOfEach table _ _ _ _ _).trans hboth
  | count filter => exact parameters_filter s filter
  | update c =>
    refine (parameters_update table _ _).trans ?_
    rw [arguments, List.map_append, ← map_snd_assignmentsOf, ← parameters_filter s]
    rfl
  | delete filter => exact parameters_filter s filter
  | condition p => exact parameters_condition s p

lemma places_lexemes (c : Command) : Places (c.lexemes s table) (numbered 0 c.arguments) := by
  cases c with
  | select p =>
    obtain ⟨includes, filter, arrangement, projection, page⟩ := p
    rw [arguments, numbered_append, Nat.zero_add, ← filterCount_condition s filter]
    cases arrangement with
    | sorted key => exact places_select table _ _ (places_filter s filter 0) (places_page page _)
    | grouped key r =>
      exact places_firstOfEach table _ _ _ (places_filter s filter 0) (places_page page _)
  | count filter => exact (places_filter s filter 0).after_plain rfl
  | update c =>
    have hfilter := places_filter s c.filter (assignmentsOf c).length
    rw [arguments, numbered_append, Nat.zero_add, ← length_assignmentsOf]
    iterate 3 refine .cons rfl ?_
    exact (places_assignments c.mutation.assignments 0).append hfilter
  | delete filter => exact (places_filter s filter 0).after_plain rfl
  | condition p => exact places_condition s p 0

/-- **Placeholders and parameters correspond.** The text for a command, whatever the names in it
are, is taken apart into lexemes; the placeholders among these are numbered from left to right; each
stands behind the column that its datum is assigned to or compared with, or behind the word of the
window; and the parameters are the data in this order. -/
theorem placeholders_text (c : Command) :
    ∃ ls, Sql.lexemes (c.fragment s table).text.toList = some ls ∧
      (placeholders none ls).map Prod.snd = List.range' 1 (c.fragment s table).params.length ∧
      (placeholders none ls).map Prod.fst = c.arguments.map (fun a => some a.site) ∧
      (c.fragment s table).params = c.arguments.map fun a => .ofValue a.value := by
  have hplaced : placeholders none (c.lexemes s table) = numbered 0 c.arguments := by
    obtain ⟨last, h⟩ := c.places_lexemes s table none
    have hend := h []
    rwa [List.append_nil, placeholders, List.append_nil] at hend
  have hparams := c.params_fragment s table
  refine ⟨_, c.lexemes_text s table, ?_, ?_, hparams⟩
  · rw [hplaced, map_snd_numbered, hparams, List.length_map]
  · rw [hplaced, map_fst_numbered]

/-- A column named like a placeholder is none, and null that is compared for equality has none. -/
example :
    let s : Schema Slots := ⟨"T", [⟨"a?9", .optional .text, fun _ => .null, none⟩], [], [], none⟩
    let p : Predicate := .and (.compare ⟨0, "a?9"⟩ .notEqual (.text "x")) (.isNull ⟨0, "a?9"⟩)
    (Command.fragment s "t?1" (.delete (some p))) =
      ⟨"DELETE FROM \"t?1\" WHERE ((\"a?9\" <> ?1 OR \"a?9\" IS NULL) AND \"a?9\" IS NULL)",
        [.string "x"]⟩ := by
  rfl

end Command

end EntityQuery.Sql
