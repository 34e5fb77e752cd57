import EntityQuery.Proofs.Sql.Tokens
import EntityQuery.Proofs.Text.Digits
import EntityQuery.Sql.Lexeme

/-!
Taking apart what was put together of tokens. A text *reads as* some lexemes if it gives them before
whatever separate text follows. Quoted names and parameters read as one lexeme each, and texts that
read as lexemes can be joined wherever a blank, a comma or a parenthesis stands at the seam.
-/

namespace EntityQuery.Sql

/-! ### Lexemes one by one -/

lemma lexemes_blank {c : Char} (h : Lexeme.isBlank c) (cs : List Char) :
    lexemes (c :: cs) = lexemes cs := by
  rw [lexemes, if_pos h]

lemma lexemes_of_next {c : Char} {cs after : List Char} {l : Lexeme} (hc : ¬ Lexeme.isBlank c)
    (h : Lexeme.next c cs = some (l, after)) :
    lexemes (c :: cs) = (lexemes after).map (l :: ·) := by
  rw [lexemes, if_neg hc]
  split
  · rename_i hn
    rw [h] at hn
    cases hn
  · rename_i hn
    rw [h] at hn
    cases hn
    rfl

lemma unquote_quoted (name rest : List Char) (h : rest.head? ≠ some '"') :
    Lexeme.unquote
        ((name.flatMap fun c => if c = '"' then ['"', '"'] else [c]) ++ ['"'] ++ rest) =
      some (name, rest) := by
  induction name with
  | nil =>
    rw [List.flatMap_nil, List.nil_append, List.singleton_append, Lexeme.unquote]
    rintro after rfl
    exact h rfl
  | cons c name ih =>
    rw [List.flatMap_cons]
    by_cases hc : c = '"'
    · subst hc
      simp only [if_true, List.cons_append, List.nil_append, Lexeme.unquote,
        List.append_assoc] at ih ⊢
      rw [ih]
      rfl
    · simp only [hc, if_false, List.cons_append, List.nil_append, List.append_assoc] at ih ⊢
      rw [Lexeme.unquote, ih]
      · rfl
      · exact fun _ heq => absurd heq hc
      · exact hc

lemma lexemes_quoted (name rest : List Char) (h : rest.head? ≠ some '"') :
    lexemes (quoteChars name ++ rest) =
      (lexemes rest).map (.name (String.ofList name) :: ·) := by
  rw [quoteChars, List.cons_append, List.cons_append, lexemes_of_next (by decide)]
  rw [Lexeme.next, if_pos rfl, unquote_quoted name rest h]
  rfl

lemma lexemes_placeholder (n : ℕ) {rest : List Char}
    (h : ∀ c ∈ rest.head?, Text.digit? c = none) :
    lexemes ((Fragment.placeholder n).toList ++ rest) =
      (lexemes rest).map (.parameter n :: ·) := by
  have htake : Text.takeDigits (Nat.toDigits 10 n ++ rest) =
      ((Nat.toDigits 10 n).filterMap Text.digit?, rest) := by
    rw [Text.takeDigits_append fun c => Text.isSome_digit?_of_mem_toDigits,
      Text.takeDigits_of_not_digit h, List.append_nil]
  obtain ⟨d, ds, hds⟩ : ∃ d ds, (Nat.toDigits 10 n).filterMap Text.digit? = d :: ds := by
    refine List.exists_cons_of_ne_nil fun hnil => ?_
    obtain ⟨c, cs, hcs⟩ := List.exists_cons_of_ne_nil (Nat.toDigits_ne_nil (n := n) (b := 10))
    have hc : c ∈ Nat.toDigits 10 n := by simp [hcs]
    have hsome := Text.isSome_digit?_of_mem_toDigits hc
    rw [List.filterMap_eq_nil_iff.1 hnil c hc] at hsome
    cases hsome
  have hvalue : Text.digitsValue (d :: ds) 0 = n := by rw [← hds, Text.digitsValue_toDigits]
  have htext : (Fragment.placeholder n).toList = '?' :: Nat.toDigits 10 n := by
    simp [Fragment.placeholder]
  rw [htext, List.cons_append, lexemes_of_next (by decide)]
  rw [Lexeme.next, if_neg (by decide), if_pos rfl, htake, hds]
  simp only [hvalue]

lemma of_startsWord {c : Char} (h : Lexeme.startsWord c) :
    ¬ Lexeme.isBlank c ∧ c ≠ '"' ∧ c ≠ '?' ∧ Text.digit? c = none := by
  refine ⟨fun hb => ?_, ?_, ?_, if_neg fun hd => ?_⟩
  · simp only [Lexeme.isBlank, Bool.or_eq_true, decide_eq_true_eq] at hb
    rcases hb with (((rfl | rfl) | rfl) | rfl) | rfl <;> exact absurd h (by decide)
  · rintro rfl
    exact absurd h (by decide)
  · rintro rfl
    exact absurd h (by decide)
  · simp only [Lexeme.startsWord, Bool.or_eq_true, Bool.and_eq_true, decide_eq_true_eq,
      Char.le_def, UInt32.le_iff_toNat_le] at h hd
    rcases h with ((h | h) | rfl) | h
    · exact absurd (Nat.le_trans h.1 hd.2) (by decide)
    · exact absurd (Nat.le_trans h.1 hd.2) (by decide)
    · exact absurd hd (by decide)
    · exact absurd (Nat.le_trans h hd.2) (by decide)

lemma lexemes_word {c : Char} {cs rest : List Char} (hc : Lexeme.startsWord c)
    (hin : ∀ d ∈ cs, Lexeme.inWord d) (hrest : ∀ d ∈ rest.head?, ¬ Lexeme.inWord d) :
    lexemes (c :: cs ++ rest) =
      (lexemes rest).map (.word (Text.fold (String.ofList (c :: cs))) :: ·) := by
  obtain ⟨hblank, hquote, hmark, hdigit⟩ := of_startsWord hc
  have hall : ∀ d ∈ c :: cs, Lexeme.inWord d := by
    rw [List.forall_mem_cons]
    exact ⟨by simp [Lexeme.inWord, hc], hin⟩
  have htake : (c :: (cs ++ rest)).takeWhile Lexeme.inWord = c :: cs := by
    rw [← List.cons_append, List.takeWhile_append_of_pos hall]
    cases rest with
    | nil => rw [List.takeWhile_nil, List.append_nil]
    | cons d rest => rw [List.takeWhile_cons, if_neg (hrest d rfl), List.append_nil]
  have hdrop : (c :: (cs ++ rest)).dropWhile Lexeme.inWord = rest := by
    rw [← List.cons_append, List.dropWhile_append_of_pos hall]
    cases rest with
    | nil => rfl
    | cons d rest => rw [List.dropWhile_cons, if_neg (hrest d rfl)]
  rw [List.cons_append, lexemes_of_next hblank]
  rw [Lexeme.next, if_neg hquote, if_neg hmark, hdigit, if_neg (by decide), if_pos hc, htake,
    hdrop]

/-! ### Reading as lexemes -/

/-- The characters before which every name, number and word ends. -/
def separators : List Char := [' ', ',', '(', ')']

/-- A text before which every name, number and word ends. -/
def Separates (cs : List Char) : Prop := ∀ c ∈ cs.head?, c ∈ separators

lemma forall_separators {P : Char → Prop} (h : P ' ' ∧ P ',' ∧ P '(' ∧ P ')') :
    ∀ c ∈ separators, P c := by
  simpa [separators] using h

/-- A text gives some lexemes before any separate text. -/
def ReadsAs (text : List Char) (ls : List Lexeme) : Prop :=
  ∀ rest, Separates rest → lexemes (text ++ rest) = (lexemes rest).map (ls ++ ·)

/-- A text gives some lexemes whatever follows. -/
def Opens (text : List Char) (ls : List Lexeme) : Prop :=
  ∀ rest, lexemes (text ++ rest) = (lexemes rest).map (ls ++ ·)

lemma separates_nil : Separates [] := by
  intro c hc
  cases hc

lemma separates_cons {c : Char} (h : c ∈ separators) (cs : List Char) :
    Separates (c :: cs) := by
  intro d hd
  cases hd
  exact h

lemma separates_blank (cs : List Char) : Separates (' ' :: cs) := separates_cons (by decide) cs

lemma separates_comma (cs : List Char) : Separates (',' :: cs) := separates_cons (by decide) cs

lemma separates_closeParen (cs : List Char) : Separates (')' :: cs) :=
  separates_cons (by decide) cs

lemma Separates.append {as bs : List Char} (ha : Separates as) (hb : Separates bs) :
    Separates (as ++ bs) := by
  cases as with
  | nil => exact hb
  | cons a as => exact separates_cons (ha a rfl) _

/-- What the tokens of a text read as are its lexemes. -/
lemma ReadsAs.lexemes_ofTokens {tokens : List Token} {ls : List Lexeme}
    (h : ReadsAs (written 0 tokens) ls) :
    lexemes (Fragment.ofTokens tokens).text.toList = some ls := by
  have hall := h [] separates_nil
  rw [List.append_nil] at hall
  rw [Fragment.toList_text_ofTokens, hall, lexemes]
  simp

lemma map_append_map (ls ms : List Lexeme) (x : Option (List Lexeme)) :
    (x.map (ms ++ ·)).map (ls ++ ·) = x.map (ls ++ ms ++ ·) := by
  cases x <;> simp

lemma Opens.readsAs {text : List Char} {ls : List Lexeme} (h : Opens text ls) :
    ReadsAs text ls :=
  fun rest _ => h rest

lemma Opens.append {as bs : List Char} {ls ms : List Lexeme} (ha : Opens as ls)
    (hb : Opens bs ms) : Opens (as ++ bs) (ls ++ ms) := by
  intro rest
  rw [List.append_assoc, ha, hb, map_append_map]

lemma Opens.then_readsAs {as bs : List Char} {ls ms : List Lexeme} (ha : Opens as ls)
    (hb : ReadsAs bs ms) : ReadsAs (as ++ bs) (ls ++ ms) := by
  intro rest hrest
  rw [List.append_assoc, ha, hb rest hrest, map_append_map]

lemma ReadsAs.append {as bs : List Char} {ls ms : List Lexeme} (ha : ReadsAs as ls)
    (hb : ReadsAs bs ms) (hsep : Separates bs) : ReadsAs (as ++ bs) (ls ++ ms) := by
  intro rest hrest
  rw [List.append_assoc, ha _ (hsep.append hrest), hb rest hrest, map_append_map]

lemma ReadsAs.then_opens {as bs : List Char} {c : Char} {ls ms : List Lexeme} (ha : ReadsAs as ls)
    (hb : Opens (c :: bs) ms) (hc : c ∈ separators) :
    Opens (as ++ c :: bs) (ls ++ ms) := by
  intro rest
  rw [List.append_assoc, ha (c :: bs ++ rest) (separates_cons hc _), hb rest, map_append_map]

/-! ### Names, parameters and fixed texts -/

lemma readsAs_name (name : String) : ReadsAs (quoteChars name.toList) [.name name] := by
  intro rest hrest
  rw [lexemes_quoted, String.ofList_toList]
  · rfl
  · exact fun h => absurd (hrest '"' h) (by decide)

lemma readsAs_placeholder (n : ℕ) :
    ReadsAs (Fragment.placeholder n).toList [.parameter n] := by
  intro rest hrest
  exact lexemes_placeholder n fun c hc =>
    forall_separators (P := fun c => Text.digit? c = none) (by decide) c (hrest c hc)

lemma readsAs_word (c : Char) (cs : List Char) (hc : Lexeme.startsWord c)
    (hin : cs.all Lexeme.inWord) :
    ReadsAs (c :: cs) [.word (Text.fold (String.ofList (c :: cs)))] := by
  intro rest hrest
  rw [lexemes_word hc (List.all_eq_true.1 hin)]
  · rfl
  · exact fun d hd =>
      forall_separators (P := fun d => ¬ Lexeme.inWord d) (by decide) d (hrest d hd)

lemma readsAs_digit {d : ℕ} (h : d < 10) : ReadsAs [d.digitChar] [.number d] := by
  intro rest hrest
  have hother : ¬ Lexeme.isBlank d.digitChar ∧ d.digitChar ≠ '"' ∧ d.digitChar ≠ '?' := by
    revert d
    decide
  have htake : Text.takeDigits (d.digitChar :: rest) = ([d], rest) := by
    have hrest' : ∀ c ∈ rest.head?, Text.digit? c = none := fun c hc =>
      forall_separators (P := fun c => Text.digit? c = none) (by decide) c (hrest c hc)
    simp [Text.takeDigits, Text.digit?_digitChar h, Text.takeDigits_of_not_digit hrest']
  have hnext : Lexeme.next d.digitChar rest = some (.number d, rest) := by
    rw [Lexeme.next, if_neg hother.2.1, if_neg hother.2.2, Text.digit?_digitChar h,
      if_pos Option.isSome_some, htake]
    simp [Text.digitsValue]
  exact lexemes_of_next hother.1 hnext

lemma opens_blank : Opens [' '] [] := by
  intro rest
  rw [List.singleton_append, lexemes_blank (by decide)]
  cases lexemes rest <;> rfl

lemma opens_keyword (c : Char) (cs : List Char) (hc : Lexeme.startsWord c)
    (hin : cs.all Lexeme.inWord) :
    Opens (c :: cs ++ [' ']) [.word (Text.fold (String.ofList (c :: cs)))] :=
  (readsAs_word c cs hc hin).then_opens opens_blank (by decide)

lemma opens_openParen : Opens ['('] [.sign .openParen] :=
  fun _ => lexemes_of_next (by decide) rfl

lemma opens_closeParen : Opens [')'] [.sign .closeParen] :=
  fun _ => lexemes_of_next (by decide) rfl

lemma opens_comma : Opens [','] [.sign .comma] :=
  fun _ => lexemes_of_next (by decide) rfl

end EntityQuery.Sql
