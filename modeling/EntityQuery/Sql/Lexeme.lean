import EntityQuery.Text.Ascii

/-!
How SQLite takes a text apart: into words, quoted names, numbers, numbered parameters and signs,
with blanks between them. Only what statements of entities are written in is read; any other text
has no lexemes.
-/

namespace EntityQuery.Sql

/-- A sign of the language. -/
inductive Sign where
  | openParen
  | closeParen
  | comma
  | star
  | minus
  | equal
  | notEqual
  | less
  | lessOrEqual
  | greater
  | greaterOrEqual
  deriving DecidableEq, Repr

/-- The smallest part of a text. -/
inductive Lexeme where
  /-- A keyword or the name of a function, in lower case. -/
  | word (w : String)
  /-- A quoted name, without its quotes. -/
  | name (n : String)
  | number (n : Nat)
  /-- The parameter with the given number. -/
  | parameter (n : Nat)
  | sign (s : Sign)
  deriving DecidableEq, Repr

namespace Lexeme

/-- Whether a character only separates lexemes. -/
def isBlank (c : Char) : Bool :=
  c = ' ' || c = '\t' || c = '\n' || c = '\r' || c = '\x0c'

/-- Whether a character starts a word. -/
def startsWord (c : Char) : Bool :=
  ('a' ≤ c && c ≤ 'z') || ('A' ≤ c && c ≤ 'Z') || c = '_' || '\x80' ≤ c

/-- Whether a character continues a word. -/
def inWord (c : Char) : Bool := startsWord c || ('0' ≤ c && c ≤ '9') || c = '$'

/-- The content of a quoted name whose first quote is read, and what follows the name. Two quotes
stand for one; one quote ends the name. -/
def unquote : List Char → Option (List Char × List Char)
  | [] => none
  | '"' :: '"' :: rest => (unquote rest).map fun (content, after) => ('"' :: content, after)
  | '"' :: rest => some ([], rest)
  | c :: rest => (unquote rest).map fun (content, after) => (c :: content, after)

/-- The longest sign at the start of a text, given by its first character. -/
def sign? : Char → List Char → Option (Sign × List Char)
  | '(', rest => some (.openParen, rest)
  | ')', rest => some (.closeParen, rest)
  | ',', rest => some (.comma, rest)
  | '*', rest => some (.star, rest)
  | '-', rest => some (.minus, rest)
  | '=', '=' :: rest => some (.equal, rest)
  | '=', rest => some (.equal, rest)
  | '!', '=' :: rest => some (.notEqual, rest)
  | '<', '>' :: rest => some (.notEqual, rest)
  | '<', '=' :: rest => some (.lessOrEqual, rest)
  | '<', rest => some (.less, rest)
  | '>', '=' :: rest => some (.greaterOrEqual, rest)
  | '>', rest => some (.greater, rest)
  | _, _ => none

/-- The lexeme at the start of a text that starts with the given character, which is no blank, and
what follows it. -/
def next (c : Char) (rest : List Char) : Option (Lexeme × List Char) :=
  if c = '"' then
    (unquote rest).map fun (content, after) => (.name (String.ofList content), after)
  else if c = '?' then
    match Text.takeDigits rest with
    | ([], _) => none
    | (digits, after) => some (.parameter (Text.digitsValue digits 0), after)
  else if (Text.digit? c).isSome then
    let (digits, after) := Text.takeDigits (c :: rest)
    some (.number (Text.digitsValue digits 0), after)
  else if startsWord c then
    let word := (c :: rest).takeWhile inWord
    some (.word (Text.fold (String.ofList word)), (c :: rest).dropWhile inWord)
  else (sign? c rest).map fun (s, after) => (.sign s, after)

/-! ### Every lexeme takes something away -/

theorem length_takeDigits_le (cs : List Char) : (Text.takeDigits cs).2.length ≤ cs.length := by
  induction cs with
  | nil => exact Nat.le_refl _
  | cons c rest ih =>
    simp only [Text.takeDigits]
    split
    · exact Nat.le_refl _
    · exact Nat.le_succ_of_le ih

theorem length_unquote_le {cs content after : List Char} (h : unquote cs = some (content, after)) :
    after.length ≤ cs.length := by
  induction cs using unquote.induct generalizing content with
  | case1 => simp [unquote] at h
  | case2 rest ih =>
    simp only [unquote, Option.map_eq_some_iff, Prod.mk.injEq, Prod.exists] at h
    obtain ⟨_, _, h, -, rfl⟩ := h
    exact Nat.le_succ_of_le (Nat.le_succ_of_le (ih h))
  | case3 rest hrest =>
    simp only [unquote, Option.some.injEq, Prod.mk.injEq] at h
    obtain ⟨-, rfl⟩ := h
    exact Nat.le_succ _
  | case4 c rest _ _ ih =>
    simp only [unquote, Option.map_eq_some_iff, Prod.mk.injEq, Prod.exists] at h
    obtain ⟨_, _, h, -, rfl⟩ := h
    exact Nat.le_succ_of_le (ih h)

theorem length_sign?_le {c : Char} {cs after : List Char} {s : Sign}
    (h : sign? c cs = some (s, after)) : after.length ≤ cs.length := by
  unfold sign? at h
  split at h <;> simp only [Option.some.injEq, Prod.mk.injEq, reduceCtorEq] at h <;>
    obtain ⟨-, rfl⟩ := h <;> simp

theorem length_next_le {c : Char} {cs after : List Char} {l : Lexeme}
    (h : next c cs = some (l, after)) : after.length ≤ cs.length := by
  unfold next at h
  split at h
  · simp only [Option.map_eq_some_iff, Prod.mk.injEq, Prod.exists] at h
    obtain ⟨_, _, h, -, rfl⟩ := h
    exact length_unquote_le h
  split at h
  · split at h
    · cases h
    · rename_i hd
      simp only [Option.some.injEq, Prod.mk.injEq] at h
      obtain ⟨-, rfl⟩ := h
      have hle := length_takeDigits_le cs
      rwa [hd] at hle
  split at h
  · rename_i hc
    obtain ⟨d, hd⟩ := Option.isSome_iff_exists.1 hc
    simp only [Text.takeDigits, hd, Option.some.injEq, Prod.mk.injEq] at h
    obtain ⟨-, rfl⟩ := h
    exact length_takeDigits_le cs
  split at h
  · rename_i hc
    have hin : inWord c = true := by simp [inWord, hc]
    simp only [List.dropWhile_cons, hin, if_true, Option.some.injEq, Prod.mk.injEq] at h
    obtain ⟨-, rfl⟩ := h
    exact (List.dropWhile_suffix _).length_le
  · simp only [Option.map_eq_some_iff, Prod.mk.injEq, Prod.exists] at h
    obtain ⟨_, _, h, -, rfl⟩ := h
    exact length_sign?_le h

end Lexeme

/-- The lexemes of a text. -/
def lexemes : List Char → Option (List Lexeme)
  | [] => some []
  | c :: rest =>
    if Lexeme.isBlank c then lexemes rest
    else
      match _h : Lexeme.next c rest with
      | none => none
      | some (l, after) => (lexemes after).map (l :: ·)
termination_by cs => cs.length
decreasing_by
  · exact Nat.lt_succ_self _
  · exact Nat.lt_succ_of_le (Lexeme.length_next_le _h)

end EntityQuery.Sql
