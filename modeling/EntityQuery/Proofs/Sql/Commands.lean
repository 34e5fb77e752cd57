import EntityQuery.Proofs.Sql.Numbering
import EntityQuery.Proofs.Sql.Updates

/-!
Everything that there is a text for: queries, counts, bulk changes and bulk deletions of the rows of
a table, and conditions by themselves. Whatever the names in it are, the text of each is taken apart
into its lexemes. Main statement: `lexemes_text`.
-/

namespace EntityQuery.Sql

variable {E : Type}

/-- What a text is made for. -/
inductive Command where
  | select (p : Plan)
  | count (filter : Option Predicate)
  | update (c : BulkChange)
  | delete (filter : Option Predicate)
  /-- A condition by itself. -/
  | condition (p : Predicate)

namespace Command

/-- The text for a command on a table, with its parameters. -/
def fragment (s : Schema E) (table : String) : Command → Fragment
  | .select p => (Sql.select s table p).fragment
  | .count filter => (Sql.count s table filter).fragment
  | .update c => (Sql.update s table c).fragment
  | .delete filter => (Sql.delete s table filter).fragment
  | .condition p => (Condition.ofPredicate s p).fragment

/-- The tokens of the text. -/
def tokens (s : Schema E) (table : String) : Command → List Token
  | .select p => (Sql.select s table p).tokens
  | .count filter => (Sql.count s table filter).tokens
  | .update c => (Sql.update s table c).tokens
  | .delete filter => (Sql.delete s table filter).tokens
  | .condition p => (Condition.ofPredicate s p).tokens

lemma fragment_eq (s : Schema E) (table : String) (c : Command) :
    c.fragment s table = .ofTokens (c.tokens s table) := by
  cases c with
  | select p => exact (Sql.select s table p).fragment_eq
  | count filter => exact (Sql.count s table filter).fragment_eq
  | update c => exact (Sql.update s table c).fragment_eq
  | delete filter => exact (Sql.delete s table filter).fragment_eq
  | condition p => exact (Condition.ofPredicate s p).fragment_eq

end Command

/-! ### Lexemes -/

/-- The condition of a filter. -/
def conditionOf (s : Schema E) (filter : Option Predicate) : Option Condition :=
  filter.map (Condition.ofPredicate s)

/-- The assigned columns of a change with their parameters. -/
def assignmentsOf (c : BulkChange) : List (String × Param) :=
  c.mutation.assignments.map fun a => (a.field.name, .ofValue a.value)

/-- The lexemes of a count. -/
def countLexemes (table : String) (filter : Option Condition) : List Lexeme :=
  [.word "select", .word "count", .sign .openParen, .sign .star, .sign .closeParen, .word "from",
    .name table] ++ whereLexemes 0 filter

/-- The lexemes of a deletion. -/
def deleteLexemes (table : String) (filter : Option Condition) : List Lexeme :=
  [.word "delete", .word "from", .name table] ++ whereLexemes 0 filter

lemma opens_countAll :
    Opens "SELECT COUNT(*) FROM ".toList
      [.word "select", .word "count", .sign .openParen, .sign .star, .sign .closeParen,
        .word "from"] := by
  have hall := opens_openParen.append (opens_star.append (opens_closeParen.append opens_from))
  have hcount := (readsAs_word 'C' ['O', 'U', 'N', 'T'] rfl rfl).then_opens hall (by decide)
  exact opens_select.append hcount

lemma opens_delete : Opens "DELETE FROM ".toList [.word "delete", .word "from"] :=
  (opens_keyword 'D' ['E', 'L', 'E', 'T', 'E'] rfl rfl).append
    (opens_keyword 'F' ['R', 'O', 'M'] rfl rfl)

lemma readsAs_filtered (table : String) (filter : Option Condition) :
    ReadsAs (written 0 (.name table :: whereTokens filter))
      (.name table :: whereLexemes 0 filter) :=
  (readsAs_name table).append (readsAs_where 0 filter) (separates_where 0 filter)

lemma readsAs_count (table : String) (filter : Option Condition) :
    ReadsAs (written 0 (Statement.count table filter).tokens) (countLexemes table filter) :=
  opens_countAll.then_readsAs (readsAs_filtered table filter)

lemma readsAs_delete (table : String) (filter : Option Condition) :
    ReadsAs (written 0 (Statement.delete table filter).tokens) (deleteLexemes table filter) :=
  opens_delete.then_readsAs (readsAs_filtered table filter)

namespace Command

/-- The lexemes of a command. -/
def lexemes (s : Schema E) (table : String) : Command → List Lexeme
  | .select p =>
    let filter := conditionOf s p.filter
    let outputs := Sql.outputs s p.effectiveProjection
    let window := Window.ofPage p.page
    match p.arrangement with
    | .sorted key => selectLexemes table outputs (key.map .ofKey) filter window
    | .grouped key r =>
      firstOfEachLexemes table key.field.name outputs (r.order.map .ofKey) filter window
  | .count filter => countLexemes table (conditionOf s filter)
  | .update c => updateLexemes table (assignmentsOf c) (conditionOf s c.filter)
  | .delete filter => deleteLexemes table (conditionOf s filter)
  | .condition p => (Condition.ofPredicate s p).lexemes 0

lemma readsAs_tokens (s : Schema E) (table : String) (c : Command) :
    ReadsAs (written 0 (c.tokens s table)) (c.lexemes s table) := by
  cases c with
  | select p =>
    obtain ⟨includes, filter, arrangement, projection, page⟩ := p
    cases arrangement with
    | sorted key => exact readsAs_select table _ _ _ _
    | grouped key r => exact readsAs_firstOfEach table _ _ _ _ _
  | count filter => exact readsAs_count table _
  | update c => exact readsAs_update table _ _
  | delete filter => exact readsAs_delete table _
  | condition p => exact readsAs_condition _ 0

/-- **The text for a command has its lexemes**, whatever the names in it are. -/
theorem lexemes_text (s : Schema E) (table : String) (c : Command) :
    Sql.lexemes (c.fragment s table).text.toList = some (c.lexemes s table) := by
  rw [fragment_eq]
  exact (c.readsAs_tokens s table).lexemes_ofTokens

end Command

end EntityQuery.Sql
