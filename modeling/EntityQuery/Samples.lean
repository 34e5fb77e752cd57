import EntityQuery.Slots

/-!
Sample declarations: a person with an address book, a task, a city without base fields, and a type
with a field of every kind, some of them declared in odd ways.
-/

namespace EntityQuery.Samples

/-- A slot without null. -/
def required (name : String) (kind : FieldKind) : SlotType :=
  ⟨name, .required kind, kind.storage, false⟩

/-- A slot with null. -/
def optional (name : String) (kind : FieldKind) : SlotType :=
  ⟨name, .optional kind, kind.storage, false⟩

/-- The standing of a person. -/
def personStatus : EnumType :=
  ⟨"PersonStatus", [⟨"Active", 0⟩, ⟨"Suspended", 1⟩, ⟨"Archived", 2⟩]⟩

/-- A person. No two persons share an address for mail. -/
def person : SlotsType where
  name := "Person"
  hasBase := true
  slots :=
    [required "Name" .text, required "Age" .int, optional "Email" .text,
      optional "Nickname" .text, optional "Settings" .text, required "Status" (.enum personStatus),
      optional "Avatar" .binary]
  navigations := ["Addresses"]
  unique := [("ux_person_email", ["Email"])]
  modifiedAt := none

/-- Levels; two of them share an ordinal, and two a name up to case. -/
def level : EnumType :=
  ⟨"Level", [⟨"Zeta", -1⟩, ⟨"Low", 1⟩, ⟨"High", 10⟩, ⟨"low", 11⟩, ⟨"Top", 10⟩]⟩

/-- Colours. -/
def color : EnumType := ⟨"Color", [⟨"Red", 1⟩, ⟨"Green", 2⟩, ⟨"Blue", 3⟩]⟩

/-- A field of every kind, with null and without. `Small` holds only 32 bits, `Odd` takes text
though it is declared an integer, and `Fixed` is read-only. -/
def kinds : SlotsType where
  name := "Kinds"
  hasBase := true
  slots :=
    [required "B" .bool, required "I" .int, required "F" .float, required "D" .decimal,
      required "T" .text, required "U" .uuid, required "X" .binary, required "W" .dateTime,
      required "Day" .date, required "E" (.enum level), optional "NB" .bool, optional "NI" .int,
      optional "NF" .float, optional "ND" .decimal, optional "NT" .text, optional "NU" .uuid,
      optional "NX" .binary, optional "NW" .dateTime, optional "NDay" .date,
      optional "NE" (.enum color), ⟨"Small", .required .int, .int32, false⟩,
      ⟨"Odd", .required .int, .text, false⟩, ⟨"Fixed", .optional .text, .text, true⟩,
      optional "He\"y" .text]
  navigations := ["Children", "Tags"]
  unique := [("ux_pair", ["NT", "NI"])]
  modifiedAt := none

/-- A city, which has no base fields. -/
def city : SlotsType where
  name := "City"
  hasBase := false
  slots := [required "Name" .text, optional "Region" .text, required "Population" .int]
  navigations := []
  unique := []
  modifiedAt := none

/-- A task. No two tasks share a title, or owner and cost. -/
def task : SlotsType where
  name := "Task"
  hasBase := true
  slots :=
    [required "Title" .text, optional "Owner" .text, optional "Score" .float,
      optional "Cost" .decimal, optional "Due" .date, required "Done" .bool]
  navigations := ["Steps", "Notes"]
  unique := [("ux_task_title", ["Title"]), ("ux_task_cost", ["Owner", "Cost"])]
  modifiedAt := none

/-- All samples. -/
def all : List SlotsType := [person, kinds, city, task]

end EntityQuery.Samples
