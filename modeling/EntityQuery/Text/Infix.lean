/-!
Parts of texts.
-/

namespace EntityQuery.Text

/-- Whether a text occurs inside another. The empty text occurs in every text. -/
def occursIn (needle : List Char) : List Char → Bool
  | [] => needle.isEmpty
  | c :: rest => needle.isPrefixOf (c :: rest) || occursIn needle rest

/-- Whether a text contains another. -/
def contains (s needle : String) : Bool := occursIn needle.toList s.toList

end EntityQuery.Text
