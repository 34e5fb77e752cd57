import EntityQuery.Proofs.Sql.Reading
import EntityQuery.Sql.Query

/-!
The text of a query is read as the query it stands for. Its lexemes come first, piece by piece:
every piece ends in front of a blank or a comma. Then each reader takes its own piece and stops at
the word of the next one. Main statement: `ofText_select`.
-/

namespace EntityQuery.Sql

/-! ### Lexemes -/

/-- The lexemes of a selected column. -/
def Output.lexemes (o : Output) : List Lexeme :=
  match o.label with
  | some label => [.name o.column, .word "as", .name label]
  | none => [.name o.column]

/-- The lexemes of selected columns with commas between them. -/
def outputLexemes : List Output → List Lexeme
  | [] => []
  | [o] => o.lexemes
  | o :: os => o.lexemes ++ .sign .comma :: outputLexemes os

/-- The lexemes of a filter after a number of parameters. -/
def whereLexemes (k : ℕ) : Option Condition → List Lexeme
  | some c => .word "where" :: c.lexemes k
  | none => []

/-- The word of a direction. -/
def directionWord : Direction → String
  | .ascending => "asc"
  | .descending => "desc"

/-- The lexemes of a sort order. -/
def orderLexemes : Option OrderTerm → List Lexeme
  | some o => [.word "order", .word "by", .name o.column, .word (directionWord o.direction)]
  | none => []

/-- The lexemes of a window after a number of parameters. -/
def windowLexemes (k : ℕ) : Option Window → List Lexeme
  | some ⟨some _, _⟩ => [.word "limit", .parameter (k + 1), .word "offset", .parameter (k + 2)]
  | some ⟨none, _⟩ =>
    [.word "limit", .sign .minus, .number 1, .word "offset", .parameter (k + 1)]
  | none => []

/-- The number of parameters of a filter. -/
def filterCount (filter : Option Condition) : ℕ := (parameters (whereTokens filter)).length

/-- The lexemes of a query of the rows of a table. -/
def selectLexemes (table : String) (outputs : List Output) (order : Option OrderTerm)
    (filter : Option Condition) (window : Option Window) : List Lexeme :=
  .word "select" :: outputLexemes outputs ++ .word "from" :: .name table ::
    (whereLexemes 0 filter ++ (orderLexemes order ++ windowLexemes (filterCount filter) window))

lemma opens_as : Opens " AS ".toList [.word "as"] :=
  opens_blank.append (opens_keyword 'A' ['S'] rfl rfl)

lemma opens_select : Opens "SELECT ".toList [.word "select"] :=
  opens_keyword 'S' ['E', 'L', 'E', 'C', 'T'] rfl rfl

lemma opens_from : Opens " FROM ".toList [.word "from"] :=
  opens_blank.append (opens_keyword 'F' ['R', 'O', 'M'] rfl rfl)

lemma opens_where : Opens " WHERE ".toList [.word "where"] :=
  opens_blank.append (opens_keyword 'W' ['H', 'E', 'R', 'E'] rfl rfl)

lemma opens_order : Opens " ORDER BY ".toList [.word "order", .word "by"] :=
  (opens_blank.append (opens_keyword 'O' ['R', 'D', 'E', 'R'] rfl rfl)).append
    (opens_keyword 'B' ['Y'] rfl rfl)

lemma opens_limit : Opens " LIMIT ".toList [.word "limit"] :=
  opens_blank.append (opens_keyword 'L' ['I', 'M', 'I', 'T'] rfl rfl)

lemma opens_offset : Opens " OFFSET ".toList [.word "offset"] :=
  opens_blank.append (opens_keyword 'O' ['F', 'F', 'S', 'E', 'T'] rfl rfl)

lemma readsAs_direction (d : Direction) :
    ReadsAs (" " ++ d.keyword).toList [.word (directionWord d)] := by
  cases d with
  | ascending => exact opens_blank.then_readsAs (readsAs_word 'A' ['S', 'C'] rfl rfl)
  | descending => exact opens_blank.then_readsAs (readsAs_word 'D' ['E', 'S', 'C'] rfl rfl)

lemma readsAs_minusOne : ReadsAs "-1".toList [.sign .minus, .number 1] := by
  have hminus : Opens ['-'] [.sign .minus] := fun _ => lexemes_of_next (by decide) rfl
  exact hminus.then_readsAs (readsAs_digit (d := 1) (by decide))

lemma readsAs_output (o : Output) (k : ℕ) : ReadsAs (written k o.tokens) o.lexemes := by
  obtain ⟨column, label⟩ := o
  cases label with
  | none => exact (readsAs_name column).append readsAs_nil separates_nil
  | some label =>
    have hlabel := (readsAs_name label).append readsAs_nil separates_nil
    exact (readsAs_name column).append (opens_as.then_readsAs hlabel) (separates_blank _)

lemma readsAs_outputs (os : List Output) (k : ℕ) :
    ReadsAs (written k (separated ", " (os.map Output.tokens))) (outputLexemes os) := by
  induction os generalizing k with
  | nil => exact readsAs_nil
  | cons o os ih =>
    cases os with
    | nil => exact readsAs_output o k
    | cons o' os =>
      show ReadsAs (written k (o.tokens ++ .fixed ", " :: separated ", " _)) _
      rw [written_append]
      exact (readsAs_output o k).append (opens_listed.then_readsAs (ih _)) (separates_comma _)

lemma separates_where (k : ℕ) (filter : Option Condition) :
    Separates (written k (whereTokens filter)) := by
  cases filter with
  | none => exact separates_nil
  | some c => exact separates_blank _

lemma readsAs_where (k : ℕ) (filter : Option Condition) :
    ReadsAs (written k (whereTokens filter)) (whereLexemes k filter) := by
  cases filter with
  | none => exact readsAs_nil
  | some c => exact opens_where.then_readsAs (readsAs_condition c k)

lemma separates_order (k : ℕ) (order : Option OrderTerm) :
    Separates (written k (orderTokens order)) := by
  cases order with
  | none => exact separates_nil
  | some o => exact separates_blank _

lemma readsAs_order (k : ℕ) (order : Option OrderTerm) :
    ReadsAs (written k (orderTokens order)) (orderLexemes order) := by
  cases order with
  | none => exact readsAs_nil
  | some o =>
    have hdirection := (readsAs_direction o.direction).append readsAs_nil separates_nil
    have hblank : Separates ((" " ++ o.direction.keyword).toList ++ []) := by
      cases o.direction <;> exact separates_blank _
    have hterm := (readsAs_name o.column).append hdirection hblank
    exact opens_order.then_readsAs hterm

lemma separates_window (k : ℕ) (window : Option Window) :
    Separates (written k (windowTokens window)) := by
  cases window with
  | none => exact separates_nil
  | some w => exact separates_blank _

lemma readsAs_window (k : ℕ) (window : Option Window) :
    ReadsAs (written k (windowTokens window)) (windowLexemes k window) := by
  cases window with
  | none => exact readsAs_nil
  | some w =>
    obtain ⟨limit, offset⟩ := w
    have hoffset (k : ℕ) := opens_offset.then_readsAs
      ((readsAs_placeholder (k + 1)).append readsAs_nil separates_nil)
    cases limit with
    | none =>
      exact opens_limit.then_readsAs
        (readsAs_minusOne.append (hoffset k) (separates_blank _))
    | some n =>
      exact opens_limit.then_readsAs
        ((readsAs_placeholder (k + 1)).append (hoffset (k + 1)) (separates_blank _))

lemma parameters_output (o : Output) : parameters o.tokens = [] := by
  obtain ⟨column, label⟩ := o
  cases label <;> rfl

lemma parameters_outputs (os : List Output) :
    parameters (separated ", " (os.map Output.tokens)) = [] := by
  induction os with
  | nil => rfl
  | cons o os ih =>
    cases os with
    | nil => exact parameters_output o
    | cons o' os =>
      show parameters (o.tokens ++ .fixed ", " :: separated ", " _) = []
      rw [parameters_append, parameters_output, List.nil_append]
      exact ih

lemma parameters_order (order : Option OrderTerm) : parameters (orderTokens order) = [] := by
  cases order <;> rfl

section Select

variable (table : String) (outputs : List Output) (order : Option OrderTerm)
  (filter : Option Condition) (window : Option Window)

lemma tokens_select :
    (Statement.select table outputs (.rows order) filter window).tokens =
      .fixed "SELECT " :: (separated ", " (outputs.map Output.tokens) ++
        .fixed " FROM " :: .name table :: (whereTokens filter ++
          (orderTokens order ++ windowTokens window))) := by
  simp [Statement.tokens, Source.tokens]

lemma parameters_select :
    parameters (Statement.select table outputs (.rows order) filter window).tokens =
      parameters (whereTokens filter) ++ parameters (windowTokens window) := by
  rw [tokens_select]
  show parameters (separated ", " _ ++ _ :: _ :: _) = _
  rw [parameters_append, parameters_outputs, List.nil_append]
  show parameters (_ ++ _) = _
  rw [parameters_append, parameters_append, parameters_order, List.nil_append]

/-- **The text of a query of rows has its lexemes.** -/
theorem readsAs_select :
    ReadsAs (written 0 (Statement.select table outputs (.rows order) filter window).tokens)
      (selectLexemes table outputs order filter window) := by
  have htail : ReadsAs
      (written 0 (whereTokens filter ++ (orderTokens order ++ windowTokens window)))
      (whereLexemes 0 filter ++
        (orderLexemes order ++ windowLexemes (filterCount filter) window)) := by
    rw [written_append, written_append, parameters_order, List.length_nil, Nat.add_zero,
      Nat.zero_add]
    exact (readsAs_where 0 filter).append
      ((readsAs_order _ order).append (readsAs_window _ window) (separates_window _ window))
      ((separates_order _ order).append (separates_window _ window))
  have hseparates : Separates
      (written 0 (whereTokens filter ++ (orderTokens order ++ windowTokens window))) := by
    rw [written_append, written_append]
    exact (separates_where _ filter).append
      ((separates_order _ order).append (separates_window _ window))
  rw [tokens_select, written, written_append, parameters_outputs, List.length_nil, Nat.add_zero]
  have hfrom := opens_from.then_readsAs ((readsAs_name table).append htail hseparates)
  exact opens_select.then_readsAs
    ((readsAs_outputs outputs 0).append hfrom (separates_blank _))

end Select

/-! ### Reading -/

namespace Query

lemma after_eq (w : String) (rest : List Lexeme) : after w (.word w :: rest) = some rest :=
  if_pos rfl

lemma clause_of_read {α : Type} {w : String} {read : List Lexeme → Option (α × List Lexeme)}
    {ls rest : List Lexeme} {x : α} (h : read ls = some (x, rest)) :
    clause w read (.word w :: ls) = some (some x, rest) := by
  rw [clause, after_eq]
  simp [h]

lemma clause_of_after {α : Type} {w : String} {ls : List Lexeme} (h : after w ls = none)
    (read : List Lexeme → Option (α × List Lexeme)) : clause w read ls = some (none, ls) := by
  rw [clause, h]

lemma readOutputs_last (o : Output) (rest : List Lexeme) :
    readOutputs (o.lexemes ++ .word "from" :: rest) = some ([o], .word "from" :: rest) := by
  obtain ⟨column, label⟩ := o
  cases label with
  | none =>
    -- what follows the word decides the case
    rcases rest with _ | ⟨_ | _ | _ | _ | _, _ | ⟨_ | _ | _ | _ | s, _⟩⟩
    case cons.name.cons.sign => cases s <;> simp [Output.lexemes, readOutputs]
    all_goals simp [Output.lexemes, readOutputs]
  | some label => simp [Output.lexemes, readOutputs]

lemma readOutputs_cons (o : Output) (ls : List Lexeme) :
    readOutputs (o.lexemes ++ .sign .comma :: ls) =
      (readOutputs ls).map fun (outputs, rest) => (o :: outputs, rest) := by
  obtain ⟨column, label⟩ := o
  cases label <;> simp [Output.lexemes, readOutputs]

lemma readOutputs_outputLexemes {os : List Output} (hos : os ≠ []) (rest : List Lexeme) :
    readOutputs (outputLexemes os ++ .word "from" :: rest) = some (os, .word "from" :: rest) := by
  induction os with
  | nil => exact absurd rfl hos
  | cons o os ih =>
    cases os with
    | nil => exact readOutputs_last o rest
    | cons o' os =>
      rw [outputLexemes, List.append_assoc, List.cons_append, readOutputs_cons,
        ih (List.cons_ne_nil _ _)]
      · rfl
      · simp

/-- What follows a filter, or stands in its place: the reader of expressions stops here, and no
filter starts. -/
structure EndsFilter (ls : List Lexeme) : Prop where
  ends : Expression.Ends ls
  read_eq : ∀ x, Expression.read [] (some x) ls = some (x, ls)
  after_eq : after "where" ls = none

lemma endsFilter_nil : EndsFilter [] where
  ends := fun s hs => by cases hs
  read_eq := fun _ => rfl
  after_eq := rfl

lemma endsFilter_word {w : String} (h : Expression.wordOperator? w = none) (hw : w ≠ "where")
    (rest : List Lexeme) : EndsFilter (.word w :: rest) where
  ends := Expression.ends_word w rest
  read_eq := fun x => by simp [Expression.read, h, Expression.close]
  after_eq := if_neg hw

lemma endsFilter_windowLexemes (k : ℕ) (window : Option Window) :
    EndsFilter (windowLexemes k window) := by
  rcases window with _ | ⟨_ | _, _⟩
  case none => exact endsFilter_nil
  all_goals exact endsFilter_word rfl (by decide) _

lemma clause_whereLexemes (k : ℕ) (filter : Option Condition) {rest : List Lexeme}
    (hrest : EndsFilter rest) :
    clause "where" (Expression.read [] none) (whereLexemes k filter ++ rest) =
      some (filter.map (Condition.expression k), rest) := by
  cases filter with
  | none => exact clause_of_after hrest.after_eq _
  | some c =>
    refine clause_of_read (?_ : Expression.read [] none (c.lexemes k ++ rest) = _)
    rw [Expression.isOperand_condition c k [] rest Expression.loose_nil hrest.ends]
    exact hrest.read_eq _

lemma clause_orderLexemes (order : Option OrderTerm) {rest : List Lexeme}
    (hrest : after "order" rest = none) :
    clause "order" readOrder (orderLexemes order ++ rest) = some (order, rest) := by
  cases order with
  | none => exact clause_of_after hrest _
  | some o =>
    obtain ⟨column, direction⟩ := o
    cases direction <;> exact clause_of_read rfl

/-- The amounts that a window is read as after a number of parameters. -/
def amounts (k : ℕ) : Window → Amount × Amount
  | ⟨some _, _⟩ => (.parameter (k + 1), .parameter (k + 2))
  | ⟨none, _⟩ => (.given (-1), .parameter (k + 1))

/-- The query that a selection of rows is read as. -/
def ofSelect (table : String) (outputs : List Output) (order : Option OrderTerm)
    (filter : Option Condition) (window : Option Window) : Query :=
  ⟨outputs, table, filter.map (Condition.expression 0), order,
    window.map (amounts (filterCount filter))⟩

section Select

variable (table : String) (outputs : List Output) (order : Option OrderTerm)
  (filter : Option Condition) (window : Option Window)

lemma clause_window (k : ℕ) :
    clause "limit" readWindow (windowLexemes k window) = some (window.map (amounts k), []) := by
  cases window with
  | none => rfl
  | some w =>
    obtain ⟨limit, offset⟩ := w
    cases limit <;> exact clause_of_read rfl

lemma clause_order (k : ℕ) :
    clause "order" readOrder (orderLexemes order ++ windowLexemes k window) =
      some (order, windowLexemes k window) := by
  refine clause_orderLexemes order ?_
  rcases window with _ | ⟨_ | _, _⟩ <;> rfl

lemma clause_where (k : ℕ) :
    clause "where" (Expression.read [] none)
        (whereLexemes 0 filter ++ (orderLexemes order ++ windowLexemes k window)) =
      some (filter.map (Condition.expression 0), orderLexemes order ++ windowLexemes k window) := by
  refine clause_whereLexemes 0 filter ?_
  cases order with
  | some o => exact endsFilter_word rfl (by decide) _
  | none => exact endsFilter_windowLexemes k window

variable {outputs}

/-- **The text of a query of rows is read as this query.** -/
theorem ofText_select (houtputs : outputs ≠ []) :
    ofText (Statement.select table outputs (.rows order) filter window).fragment.text =
      some (ofSelect table outputs order filter window) := by
  have hlexemes : lexemes
      (Statement.select table outputs (.rows order) filter window).fragment.text.toList =
        some (selectLexemes table outputs order filter window) := by
    rw [Statement.fragment_eq]
    exact (readsAs_select table outputs order filter window).lexemes_ofTokens
  have houtputs := readOutputs_outputLexemes houtputs (.name table ::
    (whereLexemes 0 filter ++ (orderLexemes order ++ windowLexemes (filterCount filter) window)))
  simp [ofText, hlexemes, ofLexemes, selectLexemes, after_eq, houtputs, clause_where,
    clause_order, clause_window, ofSelect]

end Select

end Query

end EntityQuery.Sql
