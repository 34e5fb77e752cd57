import EntityQuery.Proofs.Sql.Lexing
import EntityQuery.Sql.Condition
import EntityQuery.Sql.Expression

/-!
The text of a condition is read as the expression that the condition stands for. Its lexemes come
first: those of the columns, the parameters and the fixed words between them. Then the reader is
followed through these lexemes; parentheses stand wherever an operator would bind too tightly, so it
ends with the expression as its finished operand. Main statement: `ofText_fragment`.
-/

namespace EntityQuery.Sql

/-- The number of parameters of a condition. -/
def Condition.count (c : Condition) : ℕ := (parameters c.tokens).length

/-- The sign that a comparison is written with. -/
def signOf : Comparison → Sign
  | .equal => .equal
  | .notEqual => .notEqual
  | .greater => .greater
  | .greaterOrEqual => .greaterOrEqual
  | .less => .less
  | .lessOrEqual => .lessOrEqual

/-- The operator that a comparison is read as. -/
def operatorOf : Comparison → Binary
  | .equal => .equal
  | .notEqual => .notEqual
  | .greater => .greater
  | .greaterOrEqual => .greaterOrEqual
  | .less => .less
  | .lessOrEqual => .lessOrEqual

/-! ### Lexemes -/

/-- The lexemes of a condition after a number of parameters. -/
def Condition.lexemes (k : ℕ) : Condition → List Lexeme
  | .compare column op _ => [.name column, .sign (signOf op), .parameter (k + 1)]
  | .differs column _ =>
    [.sign .openParen, .name column, .sign .notEqual, .parameter (k + 1), .word "or", .name column,
      .word "is", .word "null", .sign .closeParen]
  | .contains column _ =>
    [.word "instr", .sign .openParen, .name column, .sign .comma, .parameter (k + 1),
      .sign .closeParen, .sign .greater, .number 0]
  | .isNull column => [.name column, .word "is", .word "null"]
  | .isNotNull column => [.name column, .word "is", .word "not", .word "null"]
  | .and p q =>
    .sign .openParen :: p.lexemes k ++ .word "and" :: q.lexemes (k + p.count) ++
      [.sign .closeParen]
  | .or p q =>
    .sign .openParen :: p.lexemes k ++ .word "or" :: q.lexemes (k + p.count) ++
      [.sign .closeParen]

lemma readsAs_nil : ReadsAs [] [] := by
  intro rest _
  rw [List.nil_append]
  cases Sql.lexemes rest <;> rfl

lemma opens_symbol (op : Comparison) :
    Opens (" " ++ op.symbol ++ " ").toList [.sign (signOf op)] := by
  intro rest
  cases op <;>
    exact (lexemes_blank rfl _).trans ((lexemes_of_next (by decide) rfl).trans
      (congrArg _ (lexemes_blank rfl _)))

lemma separates_symbol (op : Comparison) (rest : List Char) :
    Separates ((" " ++ op.symbol ++ " ").toList ++ rest) := by
  cases op <;> exact separates_blank _

lemma opens_or : Opens " OR ".toList [.word "or"] :=
  opens_blank.append (opens_keyword 'O' ['R'] rfl rfl)

lemma opens_and : Opens " AND ".toList [.word "and"] :=
  opens_blank.append (opens_keyword 'A' ['N', 'D'] rfl rfl)

lemma readsAs_null : ReadsAs "NULL".toList [.word "null"] :=
  readsAs_word 'N' ['U', 'L', 'L'] rfl rfl

lemma readsAs_isNull : ReadsAs " IS NULL".toList [.word "is", .word "null"] := by
  have his := opens_blank.append (opens_keyword 'I' ['S'] rfl rfl)
  exact his.then_readsAs readsAs_null

lemma readsAs_isNotNull :
    ReadsAs " IS NOT NULL".toList [.word "is", .word "not", .word "null"] := by
  have his := opens_blank.append (opens_keyword 'I' ['S'] rfl rfl)
  have hnot := his.append (opens_keyword 'N' ['O', 'T'] rfl rfl)
  exact hnot.then_readsAs readsAs_null

lemma opens_instr : Opens "instr(".toList [.word "instr", .sign .openParen] :=
  (readsAs_word 'i' ['n', 's', 't', 'r'] rfl rfl).then_opens opens_openParen (by decide)

lemma opens_listed : Opens ", ".toList [.sign .comma] :=
  opens_comma.append opens_blank

lemma readsAs_positive :
    ReadsAs ") > 0".toList [.sign .closeParen, .sign .greater, .number 0] :=
  opens_closeParen.then_readsAs
    ((opens_symbol .greater).then_readsAs (readsAs_digit (d := 0) (by decide)))

lemma readsAs_orNull :
    ReadsAs " IS NULL)".toList [.word "is", .word "null", .sign .closeParen] :=
  readsAs_isNull.append opens_closeParen.readsAs (separates_closeParen _)

lemma readsAs_joined {xs ys word : List Char} {ls ms : List Lexeme} {w : Lexeme}
    (hword : Opens (' ' :: word) [w]) (hx : ReadsAs xs ls) (hy : ReadsAs ys ms) :
    ReadsAs ('(' :: xs ++ (' ' :: word ++ ys) ++ [')'])
      (.sign .openParen :: ls ++ w :: ms ++ [.sign .closeParen]) := by
  have hleft : ReadsAs ('(' :: xs) (.sign .openParen :: ls) := opens_openParen.then_readsAs hx
  have hright : ReadsAs (' ' :: word ++ ys) (w :: ms) := hword.then_readsAs hy
  have hboth := hleft.append hright (separates_blank _)
  exact hboth.append opens_closeParen.readsAs (separates_closeParen _)

/-- **The text of a condition has its lexemes**, before any text that does not run into it. -/
theorem readsAs_condition (c : Condition) (k : ℕ) :
    ReadsAs (written k c.tokens) (c.lexemes k) := by
  induction c generalizing k with
  | compare column op p =>
    have hparameter := (readsAs_placeholder (k + 1)).append readsAs_nil separates_nil
    have htest := (opens_symbol op).then_readsAs hparameter
    exact (readsAs_name column).append htest (separates_symbol op _)
  | differs column p =>
    have hnull := (readsAs_name column).append
      (readsAs_orNull.append readsAs_nil separates_nil) (separates_blank _)
    have hor := (readsAs_placeholder (k + 1)).append (opens_or.then_readsAs hnull)
      (separates_blank _)
    have htest := (readsAs_name column).append ((opens_symbol .notEqual).then_readsAs hor)
      (separates_blank _)
    exact opens_openParen.then_readsAs htest
  | contains column needle =>
    have hparameter := (readsAs_placeholder (k + 1)).append
      (readsAs_positive.append readsAs_nil separates_nil) (separates_closeParen _)
    have hlisted := (readsAs_name column).append (opens_listed.then_readsAs hparameter)
      (separates_comma _)
    exact opens_instr.then_readsAs hlisted
  | isNull column =>
    have htest := readsAs_isNull.append readsAs_nil separates_nil
    exact (readsAs_name column).append htest (separates_blank _)
  | isNotNull column =>
    have htest := readsAs_isNotNull.append readsAs_nil separates_nil
    exact (readsAs_name column).append htest (separates_blank _)
  | and p q ihp ihq =>
    rw [Condition.tokens, written_append, written_append]
    exact readsAs_joined opens_and (ihp k) (ihq _)
  | or p q ihp ihq =>
    rw [Condition.tokens, written_append, written_append]
    exact readsAs_joined opens_or (ihp k) (ihq _)

/-! ### Expressions -/

/-- The expression that a condition stands for after a number of parameters. -/
def Condition.expression (k : ℕ) : Condition → Expression
  | .compare column op _ => .binary (operatorOf op) (.column column) (.parameter (k + 1))
  | .differs column _ =>
    .binary .or (.binary .notEqual (.column column) (.parameter (k + 1)))
      (.binary .is (.column column) .null)
  | .contains column _ =>
    .binary .greater (.instr (.column column) (.parameter (k + 1))) (.integer 0)
  | .isNull column => .binary .is (.column column) .null
  | .isNotNull column => .binary .isNot (.column column) .null
  | .and p q => .binary .and (p.expression k) (q.expression (k + p.count))
  | .or p q => .binary .or (p.expression k) (q.expression (k + p.count))

namespace Expression

lemma close_operand {priority : ℕ} {op : Binary} (h : priority ≤ op.priority)
    (left x : Expression) (begun : List Begun) :
    close priority (.operand left op :: begun) x = close priority begun (.binary op left x) :=
  if_pos h

lemma priority_of_wordOperator? {w : String} {op : Binary} (h : wordOperator? w = some op) :
    op.priority ≤ 2 := by
  unfold wordOperator? at h
  split_ifs at h <;> cases h <;> decide

/-- No sign of an operator comes next. -/
def Ends (ls : List Lexeme) : Prop := ∀ s, ls.head? = some (.sign s) → operator? s = none

/-- An operator that binds at least as tightly as equality is ended by whatever is no operator
sign, words included. -/
lemma read_operand {op : Binary} (hop : 2 ≤ op.priority) {rest : List Lexeme} (hrest : Ends rest)
    (left x : Expression) (begun : List Begun) :
    read (.operand left op :: begun) (some x) rest =
      read begun (some (.binary op left x)) rest := by
  have hclose := fun priority (h : priority ≤ 2) =>
    close_operand (Nat.le_trans h hop) left x begun
  cases rest with
  | nil => simp only [read, hclose 0 (by decide)]
  | cons l rest =>
    cases l with
    | word w =>
      simp only [read, hclose 0 (by decide)]
      cases hw : wordOperator? w with
      | none => rfl
      | some next =>
        simp only [hclose _ (priority_of_wordOperator? hw)]
    | sign s =>
      have hs := hrest s rfl
      cases s with
      | closeParen => simp only [read, hclose 0 (by decide)]
      | comma => simp only [read, hclose 0 (by decide)]
      | openParen | star | minus => rfl
      | equal | notEqual | less | lessOrEqual | greater | greaterOrEqual => cases hs
    | name n => simp only [read, hclose 0 (by decide)]
    | number n => simp only [read, hclose 0 (by decide)]
    | parameter n => simp only [read, hclose 0 (by decide)]

/-- What was begun last neither ends before an operator that binds like equality or tighter, nor
waits for its parenthesis. -/
structure Loose (begun : List Begun) : Prop where
  close_eq : ∀ priority x, 2 ≤ priority → close priority begun x = (begun, x)
  opened_eq : opened begun = .group :: begun

lemma loose_nil : Loose [] := ⟨fun _ _ _ => rfl, rfl⟩

lemma loose_group (begun : List Begun) : Loose (.group :: begun) := ⟨fun _ _ _ => rfl, rfl⟩

lemma loose_operand {op : Binary} (h : op.priority < 2) (left : Expression) (begun : List Begun) :
    Loose (.operand left op :: begun) :=
  ⟨fun _ _ hp => if_neg (by omega), rfl⟩

lemma wordBegun?_instr (begun : List Begun) :
    wordBegun? "instr" begun = some (.function :: begun) := by
  unfold wordBegun?
  split <;> rfl

lemma ends_closeParen (rest : List Lexeme) : Ends (.sign .closeParen :: rest) := by
  intro s hs
  cases hs
  rfl

lemma ends_word (w : String) (rest : List Lexeme) : Ends (.word w :: rest) := by
  intro s hs
  cases hs

/-- Some lexemes are taken as one operand wherever the next operator binds no tighter than
equality. -/
def IsOperand (ls : List Lexeme) (x : Expression) : Prop :=
  ∀ begun rest, Loose begun → Ends rest →
    read begun none (ls ++ rest) = read begun (some x) rest

lemma read_comparison {begun : List Begun} (h : Loose begun) (column : String) (op : Comparison)
    (rest : List Lexeme) :
    read begun none (.name column :: .sign (signOf op) :: rest) =
      read (.operand (.column column) (operatorOf op) :: begun) none rest := by
  have hclose := fun p => h.close_eq p (.column column)
  cases op <;> simp only [signOf, operatorOf, read, operator?] <;> rw [hclose _ (by decide)]

lemma isOperand_comparison (column : String) (op : Comparison) (n : ℕ) :
    IsOperand [.name column, .sign (signOf op), .parameter n]
      (.binary (operatorOf op) (.column column) (.parameter n)) := by
  intro begun rest hbegun hrest
  have hop : 2 ≤ (operatorOf op).priority := by cases op <;> decide
  exact (read_comparison hbegun column op _).trans (read_operand hop hrest _ _ _)

lemma read_word {begun : List Begun} {w : String} {op : Binary} {x : Expression}
    (hw : wordOperator? w = some op) (hclose : close op.priority begun x = (begun, x))
    (rest : List Lexeme) :
    read begun (some x) (.word w :: rest) = read (.operand x op :: begun) none rest := by
  simp only [read, hw, hclose]

lemma isOperand_isNull (column : String) :
    IsOperand [.name column, .word "is", .word "null"] (.binary .is (.column column) .null) := by
  intro begun rest hbegun hrest
  have hclose := hbegun.close_eq Binary.is.priority (.column column) (by decide)
  have his := read_word (w := "is") rfl hclose
    (.word "null" :: rest)
  have hnull : read (.operand (.column column) .is :: begun) none (.word "null" :: rest) =
      read (.operand (.column column) .is :: begun) (some .null) rest := by simp [read]
  exact his.trans (hnull.trans (read_operand (by decide) hrest _ _ _))

lemma isOperand_isNotNull (column : String) :
    IsOperand [.name column, .word "is", .word "not", .word "null"]
      (.binary .isNot (.column column) .null) := by
  intro begun rest hbegun hrest
  have hclose := hbegun.close_eq Binary.is.priority (.column column) (by decide)
  have his := read_word (w := "is") rfl hclose
    (.word "not" :: .word "null" :: rest)
  have hnull : read (.operand (.column column) .is :: begun) none
      (.word "not" :: .word "null" :: rest) =
        read (.operand (.column column) .isNot :: begun) (some .null) rest := by
    simp [read, wordBegun?]
  exact his.trans (hnull.trans (read_operand (by decide) hrest _ _ _))

lemma isOperand_instr (column : String) (n : ℕ) :
    IsOperand
      [.word "instr", .sign .openParen, .name column, .sign .comma, .parameter n,
        .sign .closeParen, .sign .greater, .number 0]
      (.binary .greater (.instr (.column column) (.parameter n)) (.integer 0)) := by
  intro begun rest hbegun hrest
  have hcall : read begun none ([.word "instr", .sign .openParen, .name column, .sign .comma,
      .parameter n, .sign .closeParen, .sign .greater, .number 0] ++ rest) =
        read begun (some (.instr (.column column) (.parameter n)))
          (.sign .greater :: .number 0 :: rest) := by
    simp [read, wordBegun?_instr, opened, close]
  have hgreater : read begun (some (.instr (.column column) (.parameter n)))
      (.sign .greater :: .number 0 :: rest) =
        read (.operand (.instr (.column column) (.parameter n)) .greater :: begun)
          (some (.integer 0)) rest := by
    simp only [read, operator?, hbegun.close_eq Binary.greater.priority _ (by decide)]
  rw [hcall, hgreater, read_operand (by decide) hrest]

lemma isOperand_joined {ls ms : List Lexeme} {x y : Expression} {w : String} {op : Binary}
    (hw : wordOperator? w = some op) (hop : op.priority < 2) (hx : IsOperand ls x)
    (hy : IsOperand ms y) :
    IsOperand (.sign .openParen :: ls ++ .word w :: ms ++ [.sign .closeParen])
      (.binary op x y) := by
  intro begun rest hbegun _
  have hleft : read (.group :: begun) none (ls ++ .word w :: (ms ++ .sign .closeParen :: rest)) =
      read (.operand x op :: .group :: begun) none (ms ++ .sign .closeParen :: rest) :=
    (hx _ _ (loose_group begun) (ends_word _ _)).trans (read_word hw rfl _)
  have hright := hy _ _ (loose_operand hop x (.group :: begun)) (ends_closeParen rest)
  have hclosed : read (.operand x op :: .group :: begun) (some y) (.sign .closeParen :: rest) =
      read begun (some (.binary op x y)) rest := by
    rw [read, close_operand (Nat.zero_le _)]
    rfl
  simp only [List.cons_append, List.append_assoc, List.nil_append]
  rw [read, hbegun.opened_eq, hleft, hright, hclosed]

/-- **The reader takes the lexemes of a condition as one operand.** -/
theorem isOperand_condition (c : Condition) (k : ℕ) :
    IsOperand (c.lexemes k) (c.expression k) := by
  induction c generalizing k with
  | compare column op p => exact isOperand_comparison column op _
  | differs column p =>
    have hjoined := isOperand_joined (rfl : wordOperator? "or" = some .or) (by decide)
      (isOperand_comparison column .notEqual (k + 1)) (isOperand_isNull column)
    exact hjoined
  | contains column needle => exact isOperand_instr column _
  | isNull column => exact isOperand_isNull column
  | isNotNull column => exact isOperand_isNotNull column
  | and p q ihp ihq => exact isOperand_joined rfl (by decide) (ihp k) (ihq _)
  | or p q ihp ihq => exact isOperand_joined rfl (by decide) (ihp k) (ihq _)

/-- **The text of a condition is read as the expression it stands for.** -/
theorem ofText_fragment (c : Condition) : ofText c.fragment.text = some (c.expression 0) := by
  have hlexemes : lexemes c.fragment.text.toList = some (c.lexemes 0) := by
    rw [Condition.fragment_eq]
    exact (readsAs_condition c 0).lexemes_ofTokens
  have hread : read [] none (c.lexemes 0) = some (c.expression 0, []) := by
    have h := isOperand_condition c 0 [] [] loose_nil (fun s hs => by cases hs)
    rwa [List.append_nil] at h
  rw [ofText, hlexemes]
  simp [hread]

end Expression

end EntityQuery.Sql
