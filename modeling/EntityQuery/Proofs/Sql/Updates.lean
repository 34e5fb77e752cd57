import EntityQuery.Proofs.Sql.Queries
import EntityQuery.Sql.Update

/-!
The text of an update is read as the update it stands for. The parameters of the assignments are
numbered first, and those of the filter go on from there. Main statement: `ofText_update`.
-/

namespace EntityQuery.Sql

/-! ### Lexemes -/

/-- The lexemes of assignments with commas between them, after a number of parameters. -/
def assignmentLexemes : ℕ → List (String × Param) → List Lexeme
  | _, [] => []
  | k, [(column, _)] => [.name column, .sign .equal, .parameter (k + 1)]
  | k, (column, _) :: rest =>
    .name column :: .sign .equal :: .parameter (k + 1) :: .sign .comma ::
      assignmentLexemes (k + 1) rest

/-- The lexemes of an update. -/
def updateLexemes (table : String) (assignments : List (String × Param))
    (filter : Option Condition) : List Lexeme :=
  .word "update" :: .name table :: .word "set" ::
    (assignmentLexemes 0 assignments ++ whereLexemes assignments.length filter)

lemma opens_update : Opens "UPDATE ".toList [.word "update"] :=
  opens_keyword 'U' ['P', 'D', 'A', 'T', 'E'] rfl rfl

lemma opens_set : Opens " SET ".toList [.word "set"] :=
  opens_blank.append (opens_keyword 'S' ['E', 'T'] rfl rfl)

lemma readsAs_assignment (a : String × Param) (k : ℕ) :
    ReadsAs (written k (assignmentTokens a)) [.name a.1, .sign .equal, .parameter (k + 1)] := by
  have hparameter := (readsAs_placeholder (k + 1)).append readsAs_nil separates_nil
  exact (readsAs_name a.1).append ((opens_symbol .equal).then_readsAs hparameter)
    (separates_blank _)

lemma parameters_assignments (assignments : List (String × Param)) :
    parameters (separated ", " (assignments.map assignmentTokens)) =
      assignments.map Prod.snd := by
  induction assignments with
  | nil => rfl
  | cons a as ih =>
    cases as with
    | nil => rfl
    | cons b as => exact congrArg (a.2 :: ·) ih

lemma readsAs_assignments (assignments : List (String × Param)) (k : ℕ) :
    ReadsAs (written k (separated ", " (assignments.map assignmentTokens)))
      (assignmentLexemes k assignments) := by
  induction assignments generalizing k with
  | nil => exact readsAs_nil
  | cons a as ih =>
    cases as with
    | nil => exact readsAs_assignment a k
    | cons b as =>
      show ReadsAs (written k (assignmentTokens a ++ .fixed ", " :: separated ", " _)) _
      rw [written_append]
      exact (readsAs_assignment a k).append (opens_listed.then_readsAs (ih _)) (separates_comma _)

section Update

variable (table : String) (assignments : List (String × Param)) (filter : Option Condition)

lemma tokens_update :
    (Statement.update table assignments filter).tokens =
      .fixed "UPDATE " :: .name table :: .fixed " SET " ::
        (separated ", " (assignments.map assignmentTokens) ++ whereTokens filter) := rfl

lemma parameters_update :
    parameters (Statement.update table assignments filter).tokens =
      assignments.map Prod.snd ++ parameters (whereTokens filter) := by
  rw [← parameters_assignments, ← parameters_append]
  rfl

/-- **The text of an update has its lexemes.** -/
theorem readsAs_update :
    ReadsAs (written 0 (Statement.update table assignments filter).tokens)
      (updateLexemes table assignments filter) := by
  have hset : ReadsAs
      (written 0 (separated ", " (assignments.map assignmentTokens) ++ whereTokens filter))
      (assignmentLexemes 0 assignments ++ whereLexemes assignments.length filter) := by
    rw [written_append, parameters_assignments, List.length_map, Nat.zero_add]
    exact (readsAs_assignments assignments 0).append (readsAs_where _ filter)
      (separates_where _ filter)
  have htable := (readsAs_name table).append (opens_set.then_readsAs hset) (separates_blank _)
  rw [tokens_update]
  exact opens_update.then_readsAs htable

end Update

/-! ### Reading -/

namespace Update

/-- Assigned columns with the numbers of their parameters, after a number of parameters. -/
def numbered : ℕ → List (String × Param) → List (String × Nat)
  | _, [] => []
  | k, (column, _) :: rest => (column, k + 1) :: numbered (k + 1) rest

lemma map_fst_numbered (k : ℕ) (assignments : List (String × Param)) :
    (numbered k assignments).map Prod.fst = assignments.map Prod.fst := by
  induction assignments generalizing k with
  | nil => rfl
  | cons a as ih => exact congrArg (a.1 :: ·) (ih (k + 1))

lemma readAssignments_assignmentLexemes {assignments : List (String × Param)}
    (hne : assignments ≠ []) (k : ℕ) {rest : List Lexeme}
    (hrest : rest.head? ≠ some (.sign .comma)) :
    readAssignments (assignmentLexemes k assignments ++ rest) =
      some (numbered k assignments, rest) := by
  induction assignments generalizing k with
  | nil => exact absurd rfl hne
  | cons a as ih =>
    cases as with
    | nil =>
      show readAssignments (_ :: _ :: _ :: rest) = _
      rw [readAssignments]
      · rfl
      · rintro after rfl
        exact hrest rfl
    | cons b as =>
      show readAssignments (_ :: _ :: _ :: _ :: (assignmentLexemes (k + 1) (b :: as) ++ rest)) = _
      rw [readAssignments, ih (List.cons_ne_nil _ _)]
      rfl

/-- The update that a statement is read as. -/
def ofStatement (table : String) (assignments : List (String × Param))
    (filter : Option Condition) : Update :=
  ⟨table, numbered 0 assignments, filter.map (Condition.expression assignments.length)⟩

/-- **The text of an update is read as this update.** -/
theorem ofText_update (table : String) {assignments : List (String × Param)}
    (hne : assignments ≠ []) (filter : Option Condition) :
    ofText (Statement.update table assignments filter).fragment.text =
      some (ofStatement table assignments filter) := by
  have hlexemes : lexemes (Statement.update table assignments filter).fragment.text.toList =
      some (updateLexemes table assignments filter) := by
    rw [Statement.fragment_eq]
    exact (readsAs_update table assignments filter).lexemes_ofTokens
  have hcomma : (whereLexemes assignments.length filter).head? ≠ some (.sign .comma) := by
    cases filter <;> simp [whereLexemes]
  have hset := readAssignments_assignmentLexemes hne 0 hcomma
  have hwhere := Query.clause_whereLexemes assignments.length filter Query.endsFilter_nil
  rw [List.append_nil] at hwhere
  simp [ofText, hlexemes, ofLexemes, updateLexemes, Query.after_eq, hset, hwhere, ofStatement]

end Update

end EntityQuery.Sql
