import EntityQuery.Proofs.Sql.Queries
import EntityQuery.Sql.Numbering

/-!
The text of a query of the first rows of all parts is read as the numbering and the query it stands
for. The condition of the rows that are numbered comes first among the parameters, and the window
goes on from there. Main statement: `ofNumberedText_select`.
-/

namespace EntityQuery.Sql

/-! ### Lexemes -/

/-- The lexemes of a numbering in front of others. -/
def numberingLexemes (table column : String) (order : Option OrderTerm)
    (filter : Option Condition) (rest : List Lexeme) : List Lexeme :=
  .sign .openParen :: .word "select" :: .sign .star :: .sign .comma :: .word "row_number" ::
    .sign .openParen :: .sign .closeParen :: .word "over" :: .sign .openParen ::
    .word "partition" :: .word "by" :: .name column :: (orderLexemes order ++
      .sign .closeParen :: .word "as" :: .name rowNumber :: .word "from" :: .name table ::
        (whereLexemes 0 filter ++ .sign .closeParen :: rest))

/-- The lexemes of the condition that a row is the first of its part, and of a window. -/
def firstLexemes (k : ℕ) (window : Option Window) : List Lexeme :=
  .word "where" :: .name rowNumber :: .sign .equal :: .number 1 :: windowLexemes k window

/-- The lexemes of a query of the first rows of all parts. -/
def firstOfEachLexemes (table column : String) (outputs : List Output) (order : Option OrderTerm)
    (filter : Option Condition) (window : Option Window) : List Lexeme :=
  .word "select" :: outputLexemes outputs ++ .word "from" ::
    numberingLexemes table column order filter (firstLexemes (filterCount filter) window)

lemma opens_star : Opens ['*'] [.sign .star] :=
  fun _ => lexemes_of_next (by decide) rfl

lemma opens_rowNumber :
    Opens "ROW_NUMBER() OVER (".toList
      [.word "row_number", .sign .openParen, .sign .closeParen, .word "over",
        .sign .openParen] := by
  have hover := (opens_keyword 'O' ['V', 'E', 'R'] rfl rfl).append opens_openParen
  have hcall := opens_openParen.append (opens_closeParen.append (opens_blank.append hover))
  exact (readsAs_word 'R' ['O', 'W', '_', 'N', 'U', 'M', 'B', 'E', 'R'] rfl rfl).then_opens hcall
    (by decide)

lemma opens_numbering :
    Opens "(SELECT *, ROW_NUMBER() OVER (PARTITION BY ".toList
      [.sign .openParen, .word "select", .sign .star, .sign .comma, .word "row_number",
        .sign .openParen, .sign .closeParen, .word "over", .sign .openParen, .word "partition",
        .word "by"] := by
  have hby := (opens_keyword 'P' ['A', 'R', 'T', 'I', 'T', 'I', 'O', 'N'] rfl rfl).append
    (opens_keyword 'B' ['Y'] rfl rfl)
  have hall := opens_star.append (opens_listed.append (opens_rowNumber.append hby))
  exact opens_openParen.append (opens_select.append hall)

lemma opens_label : Opens ") AS ".toList [.sign .closeParen, .word "as"] :=
  opens_closeParen.append opens_as

lemma opens_numbered : Opens ") WHERE ".toList [.sign .closeParen, .word "where"] :=
  opens_closeParen.append opens_where

lemma readsAs_first : ReadsAs " = 1".toList [.sign .equal, .number 1] :=
  (opens_symbol .equal).then_readsAs (readsAs_digit (d := 1) (by decide))

section Select

variable (table column : String) (outputs : List Output) (order : Option OrderTerm)
  (filter : Option Condition) (window : Option Window)

lemma tokens_firstOfEach :
    (Statement.select table outputs (.firstOfEach column order) filter window).tokens =
      .fixed "SELECT " :: (separated ", " (outputs.map Output.tokens) ++
        .fixed " FROM " :: .fixed "(SELECT *, ROW_NUMBER() OVER (PARTITION BY " :: .name column ::
          (orderTokens order ++ .fixed ") AS " :: .name rowNumber :: .fixed " FROM " ::
            .name table :: (whereTokens filter ++ .fixed ") WHERE " :: .name rowNumber ::
              .fixed " = 1" :: windowTokens window))) := by
  simp [Statement.tokens, Source.tokens]

lemma parameters_firstOfEach :
    parameters (Statement.select table outputs (.firstOfEach column order) filter window).tokens =
      parameters (whereTokens filter) ++ parameters (windowTokens window) := by
  have hfixed (text : String) (ts : List Token) : parameters (.fixed text :: ts) = parameters ts :=
    rfl
  have hname (n : String) (ts : List Token) : parameters (.name n :: ts) = parameters ts := rfl
  simp only [tokens_firstOfEach, hfixed, hname, parameters_append, parameters_outputs,
    parameters_order, List.nil_append]

/-- **The text of a query of the first rows of all parts has its lexemes.** -/
theorem readsAs_firstOfEach :
    ReadsAs
      (written 0
        (Statement.select table outputs (.firstOfEach column order) filter window).tokens)
      (firstOfEachLexemes table column outputs order filter window) := by
  have hfirst (k : ℕ) : ReadsAs
      (written k (.fixed ") WHERE " :: .name rowNumber :: .fixed " = 1" :: windowTokens window))
      (.sign .closeParen :: firstLexemes k window) := by
    have hequal := readsAs_first.append (readsAs_window k window) (separates_window k window)
    exact opens_numbered.then_readsAs
      ((readsAs_name rowNumber).append hequal (separates_blank _))
  have hsource : ReadsAs
      (written 0 (.name table :: (whereTokens filter ++ .fixed ") WHERE " :: .name rowNumber ::
        .fixed " = 1" :: windowTokens window)))
      (.name table :: (whereLexemes 0 filter ++
        .sign .closeParen :: firstLexemes (filterCount filter) window)) := by
    rw [written, written_append, Nat.zero_add]
    exact (readsAs_name table).append
      ((readsAs_where 0 filter).append (hfirst _) (separates_closeParen _))
      ((separates_where 0 filter).append (separates_closeParen _))
  have hlabel := opens_label.then_readsAs
    ((readsAs_name rowNumber).append (opens_from.then_readsAs hsource) (separates_blank _))
  have hparts := (readsAs_name column).append
    ((readsAs_order 0 order).append hlabel (separates_closeParen _))
    ((separates_order 0 order).append (separates_closeParen _))
  have hfrom := opens_from.then_readsAs (opens_numbering.then_readsAs hparts)
  rw [tokens_firstOfEach, written, written_append, parameters_outputs, List.length_nil,
    Nat.add_zero]
  simp only [written, written_append 0 (orderTokens order), parameters_order, List.length_nil,
    Nat.add_zero] at hfrom ⊢
  exact opens_select.then_readsAs
    ((readsAs_outputs outputs 0).append hfrom (separates_blank _))

end Select

/-! ### Reading -/

namespace Numbering

variable (table column : String) (order : Option OrderTerm) (filter : Option Condition)

/-- The numbering that the rows of a query are read with. -/
def ofSource : Numbering :=
  ⟨table, filter.map (Condition.expression 0), column, order, rowNumber⟩

lemma afterSign_eq (s : Sign) (rest : List Lexeme) :
    afterSign s (.sign s :: rest) = some rest := if_pos rfl

lemma endsFilter_closeParen (rest : List Lexeme) :
    Query.EndsFilter (.sign .closeParen :: rest) where
  ends := Expression.ends_closeParen rest
  read_eq := fun _ => rfl
  after_eq := rfl

lemma read_numberingLexemes (rest : List Lexeme) :
    read (numberingLexemes table column order filter rest) =
      some (ofSource table column order filter, rest) := by
  have horder (rest : List Lexeme) := Query.clause_orderLexemes order
    (show Query.after "order" (.sign .closeParen :: rest) = none from rfl)
  have hfilter := Query.clause_whereLexemes 0 filter (endsFilter_closeParen rest)
  simp [read, numberingLexemes, afterSign_eq, Query.after_eq, readParts, readName, horder, hfilter,
    ofSource]

end Numbering

namespace Query

variable (table column : String) (outputs : List Output) (order : Option OrderTerm)
  (filter : Option Condition) (window : Option Window)

/-- The query of the rows that are the first of their parts. -/
def ofFirst : Query :=
  ⟨outputs, "", some (.binary .equal (.column rowNumber) (.integer 1)), none,
    window.map (amounts (filterCount filter))⟩

lemma clause_firstLexemes (k : ℕ) :
    clause "where" (Expression.read [] none) (firstLexemes k window) =
      some (some (.binary .equal (.column rowNumber) (.integer 1)), windowLexemes k window) := by
  have hends := endsFilter_windowLexemes k window
  refine clause_of_read ?_
  have hequal : Expression.read [] none
      (.name rowNumber :: .sign .equal :: .number 1 :: windowLexemes k window) =
        Expression.read [.operand (.column rowNumber) .equal] (some (.integer 1))
          (windowLexemes k window) := rfl
  rw [hequal, Expression.read_operand (by decide) hends.ends]
  exact hends.read_eq _

variable {outputs}

/-- **The text of a query of the first rows of all parts is read as their numbering and this
query.** -/
theorem ofNumberedText_select (houtputs : outputs ≠ []) :
    ofNumberedText
        (Statement.select table outputs (.firstOfEach column order) filter window).fragment.text =
      some (.ofSource table column order filter, ofFirst outputs filter window) := by
  have hlexemes : lexemes (Statement.select table outputs (.firstOfEach column order) filter
      window).fragment.text.toList =
        some (firstOfEachLexemes table column outputs order filter window) := by
    rw [Statement.fragment_eq]
    exact (readsAs_firstOfEach table column outputs order filter window).lexemes_ofTokens
  have houtputs := readOutputs_outputLexemes houtputs
    (numberingLexemes table column order filter (firstLexemes (filterCount filter) window))
  have horder := clause_order none window (filterCount filter)
  rw [orderLexemes, List.nil_append] at horder
  simp [ofNumberedText, hlexemes, ofNumberedLexemes, firstOfEachLexemes, after_eq, houtputs,
    Numbering.read_numberingLexemes, clause_firstLexemes, horder, clause_window, ofFirst]

end Query

end EntityQuery.Sql
