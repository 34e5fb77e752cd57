import EntityQuery.Json.Basic
import EntityQuery.Number.Shortest

/-!
The compact text of a JSON document: no blanks, members in the order of their keys, and escapes
only for quotes, backslashes and control characters.
-/

namespace EntityQuery.Json

/-- A character inside a quoted text. -/
def escapeChar (c : Char) : List Char :=
  if c = '"' then ['\\', '"']
  else if c = '\\' then ['\\', '\\']
  else if c = '\n' then ['\\', 'n']
  else if c = '\r' then ['\\', 'r']
  else if c = '\t' then ['\\', 't']
  else if c.toNat = 8 then ['\\', 'b']
  else if c.toNat = 12 then ['\\', 'f']
  else if c.toNat < 32 then
    ['\\', 'u', '0', '0', Text.hexDigit (c.toNat / 16), Text.hexDigit (c.toNat % 16)]
  else [c]

/-- A quoted text. -/
def quoteChars (s : String) : List Char :=
  '"' :: s.toList.flatMap escapeChar ++ ['"']

/-- A number. -/
def numberChars : JsonNumber → List Char
  | .natural n => Text.decimalDigits n.toNat
  | .negative n => Text.decimalInt n.toInt
  | .float x => x.text.toList

mutual

/-- A document in front of the text that follows it. -/
def charsBefore (after : List Char) : Json → List Char
  | .null => 'n' :: 'u' :: 'l' :: 'l' :: after
  | .bool true => 't' :: 'r' :: 'u' :: 'e' :: after
  | .bool false => 'f' :: 'a' :: 'l' :: 's' :: 'e' :: after
  | .number n => numberChars n ++ after
  | .string s => quoteChars s ++ after
  | .array [] => '[' :: ']' :: after
  | .array (item :: rest) => '[' :: charsBefore (itemsBefore after rest) item
  | .object [] => '\x7b' :: '\x7d' :: after
  | .object ((k, v) :: rest) =>
    '\x7b' :: quoteChars k ++ ':' :: charsBefore (membersBefore after rest) v

/-- The items after the first, the bracket that closes them and what follows. -/
def itemsBefore (after : List Char) : List Json → List Char
  | [] => ']' :: after
  | item :: rest => ',' :: charsBefore (itemsBefore after rest) item

/-- The members after the first, the brace that closes them and what follows. -/
def membersBefore (after : List Char) : List (String × Json) → List Char
  | [] => '\x7d' :: after
  | (k, v) :: rest => ',' :: quoteChars k ++ ':' :: charsBefore (membersBefore after rest) v

end

/-- The compact text of a document. -/
def text (j : Json) : String := String.ofList (charsBefore [] j)

end EntityQuery.Json
