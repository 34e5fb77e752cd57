/-!
Descriptions of results: which properties are selected, how rows are sorted, how they are grouped.
-/

namespace EntityQuery

/-- A selected property; `structured` asks for the JSON document that its text holds. -/
structure Selector where
  name : String
  structured : Bool
  deriving DecidableEq, Repr

namespace Selector

/-- A property as it is. -/
def plain (name : String) : Selector := ⟨name, false⟩

/-- A property that holds a document. -/
def document (name : String) : Selector := ⟨name, true⟩

end Selector

/-- The selected properties in the order of the result. -/
structure Selection where
  selectors : List Selector
  deriving DecidableEq, Repr

namespace Selection

/-- A selection of properties as they are. -/
def ofNames (names : List String) : Selection := ⟨names.map Selector.plain⟩

/-- A selection with one more property at its end. -/
def push (s : Selection) (selector : Selector) : Selection := ⟨s.selectors ++ [selector]⟩

end Selection

/-- Sorting by a property. -/
structure SortRule where
  property : String
  descending : Bool
  deriving DecidableEq, Repr

namespace SortRule

/-- From the smallest up. -/
def ascending (property : String) : SortRule := ⟨property, false⟩

/-- From the largest down. -/
def downward (property : String) : SortRule := ⟨property, true⟩

end SortRule

/-- One row for each value of a property: the first of its group after sorting, reshaped. -/
structure GroupRule where
  property : String
  order : Option SortRule
  selection : Option Selection
  deriving DecidableEq, Repr

namespace GroupRule

/-- Grouping without sorting and reshaping. -/
def ofProperty (property : String) : GroupRule := ⟨property, none, none⟩

end GroupRule

end EntityQuery
