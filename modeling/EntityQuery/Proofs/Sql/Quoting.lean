import EntityQuery.Proofs.Sql.Lexing

/-!
Quoted names. A text starts with a quoted name exactly if it is this name in quotes with something
behind it that does not go on with a quote, so nothing that stands in a name ends it early, and
nothing behind it becomes a part of it. Main statement: `delimits_quote`.
-/

namespace EntityQuery.Sql

namespace Lexeme

/-- The lexeme at the very start of a text, and the text behind it. -/
def first? (text : String) : Option (Lexeme × String) :=
  match text.toList with
  | [] => none
  | c :: cs => (next c cs).map fun (l, after) => (l, String.ofList after)

variable {c : Char} {cs content after : List Char} {name : String}

lemma first?_eq_some_iff {text rest : String} {l : Lexeme} :
    first? text = some (l, rest) ↔
      ∃ c cs, text.toList = c :: cs ∧ next c cs = some (l, rest.toList) := by
  unfold first?
  cases htext : text.toList with
  | nil => simp
  | cons c cs =>
    simp only [Option.map_eq_some_iff, Prod.mk.injEq, Prod.exists, List.cons.injEq]
    constructor
    · rintro ⟨_, after, hnext, rfl, rfl⟩
      exact ⟨c, cs, ⟨rfl, rfl⟩, by rw [String.toList_ofList, hnext]⟩
    · rintro ⟨_, _, ⟨rfl, rfl⟩, hnext⟩
      exact ⟨l, rest.toList, hnext, rfl, String.ofList_toList⟩

lemma next_eq_name_iff :
    next c cs = some (.name name, after) ↔ c = '"' ∧ unquote cs = some (name.toList, after) := by
  unfold next
  by_cases hc : c = '"'
  · rw [if_pos hc, and_iff_right hc]
    simp only [Option.map_eq_some_iff, Prod.mk.injEq, Lexeme.name.injEq, Prod.exists]
    constructor
    · rintro ⟨content, _, hunquote, rfl, rfl⟩
      rw [hunquote, String.toList_ofList]
    · intro hunquote
      exact ⟨name.toList, after, hunquote, String.ofList_toList, rfl⟩
  · rw [if_neg hc]
    refine iff_of_false ?_ fun h => hc h.1
    -- every other lexeme is of another kind
    split
    · split <;> simp
    · split
      · simp
      · split <;> simp

/-- What is read as the inside of a quoted name is the inside of this name, and no quote follows
the one that ends it. -/
lemma of_unquote (h : unquote cs = some (content, after)) :
    '"' :: cs = quoteChars content ++ after ∧ after.head? ≠ some '"' := by
  induction cs using unquote.induct generalizing content with
  | case1 => simp [unquote] at h
  | case2 cs ih =>
    simp only [unquote, Option.map_eq_some_iff, Prod.mk.injEq, Prod.exists] at h
    obtain ⟨inner, _, hinner, rfl, rfl⟩ := h
    obtain ⟨htext, hafter⟩ := ih hinner
    refine ⟨?_, hafter⟩
    simpa [quoteChars] using htext
  | case3 cs hcs =>
    simp only [unquote, Option.some.injEq, Prod.mk.injEq] at h
    obtain ⟨rfl, rfl⟩ := h
    refine ⟨rfl, fun hhead => ?_⟩
    obtain ⟨rest, rfl⟩ := List.head?_eq_some_iff.1 hhead
    exact hcs rest rfl
  | case4 c cs _ hc ih =>
    simp only [unquote, Option.map_eq_some_iff, Prod.mk.injEq, Prod.exists] at h
    obtain ⟨inner, _, hinner, rfl, rfl⟩ := h
    obtain ⟨htext, hafter⟩ := ih hinner
    have hplain : c ≠ '"' := hc
    refine ⟨?_, hafter⟩
    simpa [quoteChars, hplain] using htext

lemma unquote_eq_some_iff :
    unquote cs = some (content, after) ↔
      '"' :: cs = quoteChars content ++ after ∧ after.head? ≠ some '"' := by
  refine ⟨of_unquote, fun ⟨htext, hafter⟩ => ?_⟩
  rw [quoteChars, List.cons_append, List.cons_append, List.cons.injEq] at htext
  rw [htext.2]
  exact unquote_quoted content after hafter

end Lexeme

lemma toList_quote (name : String) : (quote name).toList = quoteChars name.toList :=
  String.toList_ofList

/-- A text starts with a quoted name exactly if it is this name in quotes, with something behind it
that does not start with a quote. -/
lemma first?_eq_name_iff {text name rest : String} :
    Lexeme.first? text = some (.name name, rest) ↔
      text = quote name ++ rest ∧ rest.toList.head? ≠ some '"' := by
  rw [Lexeme.first?_eq_some_iff]
  simp only [Lexeme.next_eq_name_iff, Lexeme.unquote_eq_some_iff, ← String.toList_inj,
    String.toList_append, toList_quote]
  constructor
  · rintro ⟨_, cs, htext, rfl, hquoted, hrest⟩
    exact ⟨htext.trans hquoted, hrest⟩
  · rintro ⟨htext, hrest⟩
    exact ⟨_, _, htext, rfl, rfl, hrest⟩

/-- **Quoting delimits a name.** In front of anything that does not start with a quote it is read as
one lexeme, which is the name, and what follows is left as it is, to be taken apart by itself.
Nothing else is read as that name in front of that rest. -/
theorem delimits_quote (name rest : String) :
    (rest.toList.head? ≠ some '"' →
      Lexeme.first? (quote name ++ rest) = some (.name name, rest) ∧
        lexemes (quote name ++ rest).toList = (lexemes rest.toList).map (.name name :: ·)) ∧
      ∀ text, Lexeme.first? text = some (.name name, rest) →
        text = quote name ++ rest ∧ rest.toList.head? ≠ some '"' := by
  refine ⟨fun hrest => ⟨first?_eq_name_iff.2 ⟨rfl, hrest⟩, ?_⟩, fun text => first?_eq_name_iff.1⟩
  rw [String.toList_append, toList_quote, lexemes_quoted _ _ hrest, String.ofList_toList]

/-- A name that tries to end its quotes and to go on with a condition of its own is still read as
one name. -/
theorem delimits_hostile_name :
    let name := "a\" = 1 OR \"\"b"
    let rest := " = ?1"
    rest.toList.head? ≠ some '"' ∧
      quote name ++ rest = "\"a\"\" = 1 OR \"\"\"\"b\" = ?1" ∧
      Lexeme.first? (quote name ++ rest) = some (.name name, rest) ∧
      lexemes (quote name ++ rest).toList = some [.name name, .sign .equal, .parameter 1] := by
  intro name rest
  have apart : rest.toList.head? ≠ some '"' := by decide
  obtain ⟨read, -⟩ := delimits_quote name rest
  obtain ⟨first, all⟩ := read apart
  have equal : Lexeme.next '=' [' ', '?', '1'] = some (.sign .equal, [' ', '?', '1']) := by decide
  have parameter : Lexeme.next '?' ['1'] = some (.parameter 1, []) := by decide
  have condition : lexemes rest.toList = some [.sign .equal, .parameter 1] := by
    have spelt : rest.toList = [' ', '=', ' ', '?', '1'] := by decide
    rw [spelt, lexemes_blank rfl, lexemes_of_next (by decide) equal, lexemes_blank rfl,
      lexemes_of_next (by decide) parameter, lexemes]
    rfl
  exact ⟨apart, by decide, first, by rw [all, condition]; rfl⟩

end EntityQuery.Sql
