import EntityQuery.Text.Ascii

/-!
Enumerations: named members with ordinals. Ordinals and names may repeat; a look-up takes the
first member that fits.
-/

namespace EntityQuery

/-- A member of an enumeration. -/
structure EnumMember where
  name : String
  ordinal : Int64
  deriving DecidableEq, Repr

/-- An enumeration with its members in the order of declaration. -/
structure EnumType where
  name : String
  members : List EnumMember
  deriving DecidableEq, Repr

namespace EnumType

/-- The first member with an ordinal. -/
def byOrdinal? (e : EnumType) (ordinal : Int64) : Option EnumMember :=
  e.members.find? fun m => m.ordinal == ordinal

/-- The first member with a name, up to ASCII case. -/
def byName? (e : EnumType) (name : String) : Option EnumMember :=
  e.members.find? fun m => Text.sameFolded m.name name

end EnumType

end EntityQuery
