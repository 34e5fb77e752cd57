import EntityQuery.Text.Joining
import EntityQuery.Text.Unprintable

/-!
Text between quotes for messages, with everything that a reader could not see or tell apart written
as an escape.
-/

namespace EntityQuery.Text

/-- The escape of a character by its number. -/
def numberedEscape (c : Char) : List Char :=
  ['\\', 'u', '\x7b'] ++ Nat.toDigits 16 c.toNat ++ ['\x7d']

/-- A character inside quotes. -/
def debugChar (c : Char) : List Char :=
  if c = '"' then ['\\', '"']
  else if c = '\\' then ['\\', '\\']
  else if c = '\n' then ['\\', 'n']
  else if c = '\r' then ['\\', 'r']
  else if c = '\t' then ['\\', 't']
  else if c.toNat = 0 then ['\\', '0']
  else if isJoining c || isUnprintable c then numberedEscape c
  else [c]

/-- A text between quotes. -/
def debugQuote (s : String) : String :=
  String.ofList ('"' :: s.toList.flatMap debugChar ++ ['"'])

end EntityQuery.Text
