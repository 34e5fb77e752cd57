import EntityQuery.Sql.Statement
import Mathlib.Data.List.Basic

/-!
Statements as tokens: fixed text, quoted names and parameters in the order in which they are read.
A statement is not written in this order. A filter is rendered before its word is written, and so
are all assignments before the first of them; a window binds its numbers before it is written. What
stands in the text is all the same what its tokens say when they are written one after the other.
Main statement: `fragment_eq`.
-/

namespace EntityQuery.Sql

/-- A piece of a statement. -/
inductive Token where
  /-- Fixed text: words, signs and blanks of the language. -/
  | fixed (text : String)
  | name (name : String)
  | param (p : Param)
  deriving DecidableEq, Repr

namespace Fragment

/-- The fragment with one more token. -/
def add (f : Fragment) : Token → Fragment
  | .fixed text => f.push text
  | .name name => f.push (quote name)
  | .param p => let (f, place) := f.bind p; f.push place

/-- The fragment with more tokens, one after the other. -/
def addAll (f : Fragment) (tokens : List Token) : Fragment := tokens.foldl add f

/-- The fragment of a sequence of tokens. -/
def ofTokens (tokens : List Token) : Fragment := empty.addAll tokens

end Fragment

/-! ### The tokens of a statement -/

/-- Sequences of tokens with fixed text between them. -/
def separated (between : String) : List (List Token) → List Token
  | [] => []
  | [tokens] => tokens
  | tokens :: rest => tokens ++ .fixed between :: separated between rest

/-- The tokens of a condition. -/
def Condition.tokens : Condition → List Token
  | .compare column op p => [.name column, .fixed (" " ++ op.symbol ++ " "), .param p]
  | .differs column p =>
    [.fixed "(", .name column, .fixed " <> ", .param p, .fixed " OR ", .name column,
      .fixed " IS NULL)"]
  | .contains column needle =>
    [.fixed "instr(", .name column, .fixed ", ", .param needle, .fixed ") > 0"]
  | .isNull column => [.name column, .fixed " IS NULL"]
  | .isNotNull column => [.name column, .fixed " IS NOT NULL"]
  | .and p q => .fixed "(" :: p.tokens ++ .fixed " AND " :: q.tokens ++ [.fixed ")"]
  | .or p q => .fixed "(" :: p.tokens ++ .fixed " OR " :: q.tokens ++ [.fixed ")"]

/-- The tokens of a selected column. -/
def Output.tokens (o : Output) : List Token :=
  match o.label with
  | some label => [.name o.column, .fixed " AS ", .name label]
  | none => [.name o.column]

/-- The tokens of a sort order with the words in front of it. -/
def orderTokens : Option OrderTerm → List Token
  | some o => [.fixed " ORDER BY ", .name o.column, .fixed (" " ++ o.direction.keyword)]
  | none => []

/-- The tokens of a filter with the word in front of it. -/
def whereTokens : Option Condition → List Token
  | some c => .fixed " WHERE " :: c.tokens
  | none => []

/-- The tokens of a window. -/
def windowTokens : Option Window → List Token
  | some w =>
    let limit := match w.limit with
      | some n => Token.param (.integer n)
      | none => .fixed "-1"
    [.fixed " LIMIT ", limit, .fixed " OFFSET ", .param (.integer w.offset)]
  | none => []

/-- The tokens of the rows of a query, filtered. -/
def Source.tokens (table : String) (filter : Option Condition) : Source → List Token
  | .rows order => .name table :: whereTokens filter ++ orderTokens order
  | .firstOfEach column order =>
    .fixed "(SELECT *, ROW_NUMBER() OVER (PARTITION BY " :: .name column :: orderTokens order ++
      [.fixed ") AS ", .name rowNumber, .fixed " FROM ", .name table] ++ whereTokens filter ++
      [.fixed ") WHERE ", .name rowNumber, .fixed " = 1"]

/-- The tokens of an assignment. -/
def assignmentTokens (a : String × Param) : List Token :=
  [.name a.1, .fixed " = ", .param a.2]

/-- The tokens of a statement. -/
def Statement.tokens : Statement → List Token
  | .select table outputs source filter window =>
    .fixed "SELECT " :: separated ", " (outputs.map Output.tokens) ++ .fixed " FROM " ::
      source.tokens table filter ++ windowTokens window
  | .count table filter => [.fixed "SELECT COUNT(*) FROM ", .name table] ++ whereTokens filter
  | .update table assignments filter =>
    [.fixed "UPDATE ", .name table, .fixed " SET "] ++
      separated ", " (assignments.map assignmentTokens) ++ whereTokens filter
  | .delete table filter => [.fixed "DELETE FROM ", .name table] ++ whereTokens filter

/-! ### Texts of tokens -/

/-- The parameters of some tokens. -/
def parameters (tokens : List Token) : List Param :=
  tokens.filterMap fun
    | .param p => some p
    | _ => none

lemma parameters_append (ts us : List Token) :
    parameters (ts ++ us) = parameters ts ++ parameters us :=
  List.filterMap_append

lemma parameters_joined (ts us : List Token) (before between after : String) :
    parameters (.fixed before :: ts ++ .fixed between :: us ++ [.fixed after]) =
      parameters ts ++ parameters us := by
  simp [parameters]

/-- The text of some tokens after a number of parameters. -/
def written : ℕ → List Token → List Char
  | _, [] => []
  | k, .fixed text :: rest => text.toList ++ written k rest
  | k, .name n :: rest => quoteChars n.toList ++ written k rest
  | k, .param _ :: rest => (Fragment.placeholder (k + 1)).toList ++ written (k + 1) rest

lemma written_append (k : ℕ) (ts us : List Token) :
    written k (ts ++ us) = written k ts ++ written (k + (parameters ts).length) us := by
  induction ts generalizing k with
  | nil => rfl
  | cons t ts ih =>
    cases t with
    | fixed text => simp [written, ih, parameters]
    | name n => simp [written, ih, parameters]
    | param p => simp [written, ih, parameters, Nat.add_assoc, Nat.add_comm 1]

namespace Fragment

variable (f : Fragment)

lemma addAll_spec (tokens : List Token) :
    (f.addAll tokens).text.toList = f.text.toList ++ written f.params.length tokens ∧
      (f.addAll tokens).params = f.params ++ parameters tokens := by
  induction tokens generalizing f with
  | nil => simp [addAll, written, parameters]
  | cons t tokens ih =>
    rw [addAll, List.foldl_cons]
    obtain ⟨htext, hparams⟩ := ih (f.add t)
    rw [addAll] at htext hparams
    rw [htext, hparams]
    cases t with
    | fixed text => simp [add, push, written, parameters]
    | name n => simp [add, push, written, parameters, quote]
    | param p => simp [add, push, bind, written, parameters]

lemma toList_text_ofTokens (tokens : List Token) :
    (ofTokens tokens).text.toList = written 0 tokens :=
  (addAll_spec empty tokens).1

lemma params_ofTokens (tokens : List Token) : (ofTokens tokens).params = parameters tokens :=
  (addAll_spec empty tokens).2

lemma addAll_append (ts us : List Token) : f.addAll (ts ++ us) = (f.addAll ts).addAll us :=
  List.foldl_append

lemma addAll_ofTokens (ts us : List Token) : (ofTokens ts).addAll us = ofTokens (ts ++ us) :=
  (addAll_append empty ts us).symm

lemma push_push (a b : String) : (f.push a).push b = f.push (a ++ b) := by
  simp [push, String.append_assoc]

end Fragment

/-! ### What is left to be written -/

/-- A renderer *leaves* some tokens: it binds their parameters and returns their text, in which the
placeholders are numbered on from the parameters that were bound before. -/
structure Leaves (f : Fragment) (rendered : Fragment × String) (tokens : List Token) : Prop where
  text : rendered.1.text = f.text
  params : rendered.1.params = f.params ++ parameters tokens
  left : rendered.2.toList = written f.params.length tokens

namespace Leaves

variable {f : Fragment}

/-- What is left is written as its tokens. -/
lemma push {rendered : Fragment × String} {tokens : List Token} (h : Leaves f rendered tokens) :
    rendered.1.push rendered.2 = f.addAll tokens := by
  obtain ⟨htext, hparams⟩ := f.addAll_spec tokens
  have hchars : (rendered.1.push rendered.2).text.toList = (f.addAll tokens).text.toList := by
    rw [htext, Fragment.push, String.toList_append, h.text, h.left]
  have hbound : (rendered.1.push rendered.2).params = (f.addAll tokens).params := by
    rw [hparams, ← h.params, Fragment.push]
  exact Fragment.ext (String.toList_inj.1 hchars) hbound

/-- What is rendered later can be written behind what was rendered before. -/
lemma append {g h : Fragment} {a b : String} {ts us : List Token} (ha : Leaves f (g, a) ts)
    (hb : Leaves g (h, b) us) : Leaves f (h, a ++ b) (ts ++ us) := by
  have hbound : g.params = f.params ++ parameters ts := ha.params
  refine ⟨hb.text.trans ha.text, ?_, ?_⟩
  · rw [hb.params, hbound, List.append_assoc, parameters_append]
  · rw [String.toList_append, ha.left, hb.left, hbound, List.length_append, written_append]

lemma behind {g : Fragment} {text : String} {tokens : List Token}
    (h : Leaves f (g, text) tokens) (before : String) :
    Leaves f (g, before ++ text) (.fixed before :: tokens) :=
  ⟨h.text, h.params, by rw [String.toList_append, h.left, written]⟩

end Leaves

section Clauses

variable (f : Fragment)

lemma leaves_plain {text : String} {tokens : List Token} (hnone : parameters tokens = [])
    (htext : text.toList = written f.params.length tokens) : Leaves f (f, text) tokens :=
  ⟨rfl, by rw [hnone, List.append_nil], htext⟩

/-- A condition leaves its tokens: the right side of a connective is rendered when the parameters of
the left side are bound. -/
lemma leaves_condition (c : Condition) : Leaves f (c.render f) c.tokens := by
  induction c generalizing f with
  | compare column op p | differs column p | contains column p =>
    refine ⟨rfl, rfl, ?_⟩
    simp [Condition.render, Fragment.bind, Condition.tokens, written, quote]
  | isNull column | isNotNull column =>
    exact leaves_plain f rfl (by simp [Condition.tokens, written, quote])
  | and p q ihp ihq | or p q ihp ihq =>
    have hp := ihp f
    have hq := ihq (p.render f).1
    refine ⟨hq.text.trans hp.text, ?_, ?_⟩
    · rw [Condition.render, hq.params, hp.params, Condition.tokens, parameters_joined,
        List.append_assoc]
    · simp [Condition.render, Condition.tokens, written, written_append, hp.left, hq.left,
        hp.params]

lemma leaves_output (o : Output) : Leaves f (f, o.text) o.tokens := by
  obtain ⟨column, label⟩ := o
  cases label with
  | none => exact leaves_plain f rfl (by simp [Output.text, Output.tokens, written, quote])
  | some label => exact leaves_plain f rfl (by simp [Output.text, Output.tokens, written, quote])

lemma leaves_outputs (outputs : List Output) :
    Leaves f (f, outputsText outputs) (separated ", " (outputs.map Output.tokens)) := by
  induction outputs with
  | nil => exact leaves_plain f rfl rfl
  | cons o outputs ih =>
    cases outputs with
    | nil =>
      rw [outputsText, List.map_singleton, String.intercalate_singleton]
      exact leaves_output f o
    | cons next outputs =>
      rw [outputsText, List.map_cons, List.map_cons, String.intercalate_cons_cons,
        String.append_assoc]
      exact (leaves_output f o).append (ih.behind ", ")

lemma leaves_order (order : Option OrderTerm) :
    Leaves f (f, orderText order) (orderTokens order) := by
  cases order with
  | none => exact leaves_plain f rfl rfl
  | some o => exact leaves_plain f rfl (by simp [orderText, orderTokens, written, quote])

/-- All assignments are bound, from left to right, before the first is written. -/
lemma leaves_assignments (assignments : List (String × Param)) :
    Leaves f
      ((f.bindAssignments assignments).1, ", ".intercalate (f.bindAssignments assignments).2)
      (separated ", " (assignments.map assignmentTokens)) := by
  induction assignments generalizing f with
  | nil => exact leaves_plain f rfl rfl
  | cons a assignments ih =>
    obtain ⟨column, p⟩ := a
    have hfirst : Leaves f ((f.bind p).1, quote column ++ " = " ++ (f.bind p).2)
        (assignmentTokens (column, p)) :=
      ⟨rfl, rfl, by simp [Fragment.bind, assignmentTokens, written, quote]⟩
    have hrest := ih (f.bind p).1
    cases assignments with
    | nil => simpa [Fragment.bindAssignments, separated] using hfirst
    | cons next assignments =>
      have hboth := hfirst.append (hrest.behind ", ")
      rw [← String.append_assoc] at hboth
      simpa [Fragment.bindAssignments, separated] using hboth

/-! ### Writing -/

lemma pushWhere_eq (filter : Option Condition) :
    f.pushWhere filter = f.addAll (whereTokens filter) := by
  cases filter with
  | none => rfl
  | some c =>
    refine (Fragment.push_push _ " WHERE " _).trans ?_
    exact ((leaves_condition f c).behind " WHERE ").push

/-- A window binds its size and what it skips before it is written. -/
lemma pushWindow_eq (window : Option Window) :
    f.pushWindow window = f.addAll (windowTokens window) := by
  cases window with
  | none => rfl
  | some w =>
    obtain ⟨limit, offset⟩ := w
    cases limit with
    | none =>
      have hwindow : Leaves f ((f.bind (.integer offset)).1,
          " LIMIT " ++ "-1" ++ " OFFSET " ++ (f.bind (.integer offset)).2)
          (windowTokens (some ⟨none, offset⟩)) :=
        ⟨rfl, rfl, by simp [Fragment.bind, windowTokens, written]⟩
      exact hwindow.push
    | some n =>
      have hwindow : Leaves f (((f.bind (.integer n)).1.bind (.integer offset)).1,
          " LIMIT " ++ (f.bind (.integer n)).2 ++ " OFFSET " ++
            ((f.bind (.integer n)).1.bind (.integer offset)).2)
          (windowTokens (some ⟨some n, offset⟩)) :=
        ⟨rfl, List.append_assoc _ _ _, by simp [Fragment.bind, windowTokens, written]⟩
      exact hwindow.push

lemma pushOrder_eq (order : Option OrderTerm) :
    f.push (orderText order) = f.addAll (orderTokens order) :=
  (leaves_order f order).push

end Clauses

/-! ### Statements -/

lemma Leaves.ofText {text : String} {tokens : List Token}
    (h : Leaves .empty (.empty, text) tokens) : Fragment.ofText text = .ofTokens tokens := by
  rw [Fragment.ofTokens, ← h.push]
  simp [Fragment.empty, Fragment.ofText, Fragment.push]

/-- **The text of a condition** is that of its tokens. -/
theorem Condition.fragment_eq (c : Condition) : c.fragment = .ofTokens c.tokens :=
  (leaves_condition .empty c).push

namespace Statement

variable (table : String) (filter : Option Condition)

lemma fragment_rows (outputs : List Output) (order : Option OrderTerm) (window : Option Window) :
    let s := select table outputs (.rows order) filter window
    s.fragment = .ofTokens s.tokens := by
  intro s
  have hfrom : Leaves .empty (.empty, " FROM " ++ quote table) [.fixed " FROM ", .name table] :=
    leaves_plain _ rfl (by simp [written, quote])
  have hhead := (((leaves_outputs .empty outputs).behind "SELECT ").append hfrom).ofText
  rw [← String.append_assoc] at hhead
  rw [fragment, pushWindow_eq, pushOrder_eq, pushWhere_eq, hhead]
  simp [Fragment.addAll_ofTokens, s, tokens, Source.tokens]

lemma fragment_firstOfEach (outputs : List Output) (column : String) (order : Option OrderTerm)
    (window : Option Window) :
    let s := select table outputs (.firstOfEach column order) filter window
    s.fragment = .ofTokens s.tokens := by
  intro s
  have hparts : Leaves .empty
      (.empty, " FROM (SELECT *, ROW_NUMBER() OVER (" ++
        ("PARTITION BY " ++ quote column ++ orderText order) ++ ") AS " ++ quote rowNumber ++
        " FROM " ++ quote table)
      (.fixed " FROM " :: .fixed "(SELECT *, ROW_NUMBER() OVER (PARTITION BY " :: .name column ::
        orderTokens order ++
        [.fixed ") AS ", .name rowNumber, .fixed " FROM ", .name table]) := by
    refine leaves_plain _ ?_ ?_
    all_goals cases order
    all_goals simp [orderText, orderTokens, parameters, written, quote]
  have hhead := (((leaves_outputs .empty outputs).behind "SELECT ").append hparts).ofText
  have hfirst (f : Fragment) : f.push (") WHERE " ++ quote rowNumber ++ " = 1") =
      f.addAll [.fixed ") WHERE ", .name rowNumber, .fixed " = 1"] :=
    (leaves_plain f rfl (by simp [written, quote])).push
  simp only [← String.append_assoc] at hhead
  rw [fragment, pushWindow_eq, hfirst, pushWhere_eq]
  simp only [← String.append_assoc]
  rw [hhead]
  simp [Fragment.addAll_ofTokens, s, tokens, Source.tokens]

/-- **The text of a statement** is that of its tokens, in whatever order its parts are rendered. -/
theorem fragment_eq (s : Statement) : s.fragment = .ofTokens s.tokens := by
  cases s with
  | select table outputs source filter window =>
    cases source with
    | rows order => exact fragment_rows table filter outputs order window
    | firstOfEach column order =>
      exact fragment_firstOfEach table filter outputs column order window
  | count table filter =>
    have hhead : Leaves .empty (.empty, "SELECT COUNT(*) FROM " ++ quote table)
        [.fixed "SELECT COUNT(*) FROM ", .name table] :=
      leaves_plain _ rfl (by simp [written, quote])
    rw [fragment, pushWhere_eq, hhead.ofText, Fragment.addAll_ofTokens, tokens]
  | update table assignments filter =>
    have hhead : Leaves .empty (.empty, "UPDATE " ++ quote table ++ " SET ")
        [.fixed "UPDATE ", .name table, .fixed " SET "] :=
      leaves_plain _ rfl (by simp [written, quote])
    have hset := (leaves_assignments (.ofTokens [.fixed "UPDATE ", .name table, .fixed " SET "])
      assignments).push
    rw [fragment, hhead.ofText]
    refine (pushWhere_eq _ filter).trans ?_
    rw [hset, Fragment.addAll_ofTokens, Fragment.addAll_ofTokens, tokens]
  | delete table filter =>
    have hhead : Leaves .empty (.empty, "DELETE FROM " ++ quote table)
        [.fixed "DELETE FROM ", .name table] :=
      leaves_plain _ rfl (by simp [written, quote])
    rw [fragment, pushWhere_eq, hhead.ofText, Fragment.addAll_ofTokens, tokens]

end Statement

end EntityQuery.Sql
