import EntityQuery.BaseFields
import EntityQuery.Settings
import EntityQuery.Wire.Record

/-!
The JSON forms of requests, settings and base fields, each with its reader and its writer.
-/

namespace EntityQuery

open Wire

/-- A natural number of 32 bits. -/
def Wire.ofUInt32 (n : UInt32) : Json := .ofNat n.toNat

/-- Null or the form of a value. -/
def Wire.ofOption {α : Type} (encode : α → Json) : Option α → Json
  | none => .null
  | some x => encode x

/-! ### Filters -/

/-- Operators are written by name. -/
def Operator.decode : Decoder Operator := fun j => do
  (Operator.read (← string j)).mapError .operator

/-- Connectives are written by name, or as an object with the name as its only key and null. -/
def Connective.decode : Decoder Connective := fun j => do
  let named (name : String) : Except Problem Connective :=
    if name = Connective.and.name then .ok .and
    else if name = Connective.or.name then .ok .or
    else .error (.unknownVariant name [Connective.and.name, Connective.or.name])
  match j with
  | .string name => named name
  | .object [(name, content)] =>
    let c ← named name
    match content with
    | .null => .ok c
    | j => refuse "unit" j
  | .object _ => .error (.invalidValue .map "map with a single key")
  | j => refuse "string or map" j

namespace Filter

def record : RecordReader Filter :=
  ((RecordReader.field (.required "PropertyName" string)).and
    ((RecordReader.field (.required "Operator" Operator.decode)).and
      (RecordReader.field (.maybe "Value" string)))).map
    fun (property, operator, value) => ⟨property, operator, value⟩

def decode : Decoder Filter := record.decode "FilterSpec"

def encode (f : Filter) : Json :=
  .ofMembers [("PropertyName", .string f.property), ("Operator", .string f.operator.name),
    ("Value", .ofString? f.value)]

end Filter

namespace FilterList

def record : RecordReader FilterList :=
  ((RecordReader.field (.required "Filters" (list Filter.decode))).and
    (RecordReader.field (.withDefault "CombineOperator" Connective.decode .and))).map
    fun (filters, connective) => ⟨filters, connective⟩

def decode : Decoder FilterList := record.decode "CombinedFilter"

def encode (f : FilterList) : Json :=
  .ofMembers [("Filters", .array (f.filters.map Filter.encode)),
    ("CombineOperator", .string f.connective.name)]

end FilterList

/-! ### Shapes of results -/

namespace Selector

def record : RecordReader Selector :=
  ((RecordReader.field (.required "Name" string)).and
    (RecordReader.field (.withDefault "IsJsonString" bool false))).map
    fun (name, structured) => ⟨name, structured⟩

def decode : Decoder Selector := record.decode "PropertySelector"

def encode (s : Selector) : Json :=
  .ofMembers [("Name", .string s.name), ("IsJsonString", .bool s.structured)]

end Selector

namespace Selection

def record : RecordReader Selection :=
  (RecordReader.field (.required "Properties" (list Selector.decode))).map fun selectors =>
    ⟨selectors⟩

def decode : Decoder Selection := record.decode "SelectSpec"

def encode (s : Selection) : Json :=
  .ofMembers [("Properties", .array (s.selectors.map Selector.encode))]

end Selection

namespace SortRule

def record : RecordReader SortRule :=
  ((RecordReader.field (.required "PropertyName" string)).and
    (RecordReader.field (.withDefault "Descending" bool false))).map
    fun (property, descending) => ⟨property, descending⟩

def decode : Decoder SortRule := record.decode "OrderSpec"

def encode (s : SortRule) : Json :=
  .ofMembers [("PropertyName", .string s.property), ("Descending", .bool s.descending)]

end SortRule

namespace GroupRule

def record : RecordReader GroupRule :=
  ((RecordReader.field (.required "GroupByColumnName" string)).and
    ((RecordReader.field (.maybe "OrderBy" SortRule.decode)).and
      (RecordReader.field (.maybe "Selector" Selection.decode)))).map
    fun (property, order, selection) => ⟨property, order, selection⟩

def decode : Decoder GroupRule := record.decode "GroupSpec"

def encode (g : GroupRule) : Json :=
  .ofMembers [("GroupByColumnName", .string g.property),
    ("OrderBy", ofOption SortRule.encode g.order),
    ("Selector", ofOption Selection.encode g.selection)]

end GroupRule

namespace PropertyChange

def record : RecordReader PropertyChange :=
  ((RecordReader.field (.required "PropertyName" string)).and
    (RecordReader.field (.maybe "Value" string))).map
    fun (property, value) => ⟨property, value⟩

def decode : Decoder PropertyChange := record.decode "PropertyUpdate"

def encode (c : PropertyChange) : Json :=
  .ofMembers [("PropertyName", .string c.property), ("Value", .ofString? c.value)]

end PropertyChange

namespace Page

def record : RecordReader Page :=
  ((RecordReader.field (.withDefault "Skip" uint32 0)).and
    (RecordReader.field (.withDefault "Take" uint32 0))).map
    fun (skip, take) => ⟨skip, take⟩

def decode : Decoder Page := record.decode "Pagination"

def encode (p : Page) : Json :=
  .ofMembers [("Skip", ofUInt32 p.skip), ("Take", ofUInt32 p.take)]

end Page

/-! ### Requests -/

/-- The form of a list of navigation names. -/
def Wire.ofNames (names : List String) : Json := .array (names.map .string)

namespace ListingRequest

/-- The order may also be called `OrderdBy`. -/
def record : RecordReader ListingRequest :=
  ((RecordReader.field (.maybe "Selector" Selection.decode)).and
    ((RecordReader.field (.maybe "Filter" Filter.decode)).and
      ((RecordReader.field (.maybe "CombinedFilters" FilterList.decode)).and
        ((RecordReader.field
            ⟨"OrderedBy", ["OrderdBy"], optional SortRule.decode, some none⟩).and
          ((RecordReader.field (.withDefault "Skip" uint32 0)).and
            ((RecordReader.field (.withDefault "Take" uint32 usualTake)).and
              (RecordReader.field (.maybe "Includes" (list string)))))))))
    |>.map fun (selection, filter, filters, order, skip, take, includes) =>
      ⟨selection, filter, filters, order, skip, take, includes⟩

def decode : Decoder ListingRequest := record.decode "GetItemsRequest"

def encode (r : ListingRequest) : Json :=
  .ofMembers [("Selector", ofOption Selection.encode r.selection),
    ("Filter", ofOption Filter.encode r.filter),
    ("CombinedFilters", ofOption FilterList.encode r.filters),
    ("OrderedBy", ofOption SortRule.encode r.order),
    ("Skip", ofUInt32 r.skip), ("Take", ofUInt32 r.take),
    ("Includes", ofOption ofNames r.includes)]

end ListingRequest

namespace EntityRequest

def record : RecordReader EntityRequest :=
  ((RecordReader.field (.maybe "Selector" Selection.decode)).and
    (RecordReader.field (.maybe "Includes" (list string)))).map
    fun (selection, includes) => ⟨selection, includes⟩

def decode : Decoder EntityRequest := record.decode "GetSelectRequest"

def encode (r : EntityRequest) : Json :=
  .ofMembers [("Selector", ofOption Selection.encode r.selection),
    ("Includes", ofOption ofNames r.includes)]

end EntityRequest

namespace GroupingRequest

def record : RecordReader GroupingRequest :=
  ((RecordReader.field (.required "GroupBy" GroupRule.decode)).and
    ((RecordReader.field (.maybe "Filters" FilterList.decode)).and
      ((RecordReader.field (.withDefault "Skip" uint32 0)).and
        (RecordReader.field (.withDefault "Take" uint32 usualTake))))).map
    fun (group, filters, skip, take) => ⟨group, filters, skip, take⟩

def decode : Decoder GroupingRequest := record.decode "GroupByRequest"

def encode (r : GroupingRequest) : Json :=
  .ofMembers [("GroupBy", r.group.encode), ("Filters", ofOption FilterList.encode r.filters),
    ("Skip", ofUInt32 r.skip), ("Take", ofUInt32 r.take)]

end GroupingRequest

namespace ChangeRequest

def record : RecordReader ChangeRequest :=
  ((RecordReader.field (.maybe "Filters" FilterList.decode)).and
    (RecordReader.field (.required "UpdateProperties" (list PropertyChange.decode)))).map
    fun (filters, changes) => ⟨filters, changes⟩

def decode : Decoder ChangeRequest := record.decode "UpdateWhereRequest"

def encode (r : ChangeRequest) : Json :=
  .ofMembers [("Filters", ofOption FilterList.encode r.filters),
    ("UpdateProperties", .array (r.changes.map PropertyChange.encode))]

end ChangeRequest

/-! ### Settings -/

namespace RepositorySettings

def record : RecordReader RepositorySettings :=
  ((RecordReader.field (.withDefault "default_take" uint32 usual.defaultTake)).and
    ((RecordReader.field (.maybe "max_take" uint32)).and
      (RecordReader.field (.withDefault "apply_default_order" bool usual.defaultOrder)))).map
    fun (defaultTake, maxTake, defaultOrder) => ⟨defaultTake, maxTake, defaultOrder⟩

def decode : Decoder RepositorySettings := record.decode "RepositoryConfig"

def encode (s : RepositorySettings) : Json :=
  .ofMembers [("default_take", ofUInt32 s.defaultTake), ("max_take", ofOption ofUInt32 s.maxTake),
    ("apply_default_order", .bool s.defaultOrder)]

end RepositorySettings

namespace StoreSettings

def record : RecordReader StoreSettings :=
  ((RecordReader.field (.withDefault "max_sessions" (uint64 "usize") usual.maxSessions)).and
    (RecordReader.field
      (.withDefault "acquire_timeout_ms" (uint64 "u64") usual.acquireTimeout))).map
    fun (maxSessions, acquireTimeout) => ⟨maxSessions, acquireTimeout⟩

def decode : Decoder StoreSettings := record.decode "MemoryBackendConfig"

def encode (s : StoreSettings) : Json :=
  .ofMembers [("max_sessions", .ofNat s.maxSessions.toNat),
    ("acquire_timeout_ms", .ofNat s.acquireTimeout.toNat)]

end StoreSettings

/-! ### Base fields -/

/-- An identifier is written as text. -/
def Uuid.decode : Decoder Uuid
  | .string s => (Uuid.read s).mapError .uuid
  | j => refuse "a UUID string" j

/-- A point in time is written as text, in the loose layout with offset. -/
def Instant.decode : Decoder Instant
  | .string s => (Calendar.readLoose s.toList).mapError .instant
  | j => refuse "an RFC 3339 formatted date and time string" j

namespace BaseFields

def record : RecordReader BaseFields :=
  ((RecordReader.field (.required "Id" Uuid.decode)).and
    ((RecordReader.field (.required "IsDeleted" bool)).and
      ((RecordReader.field (.required "CreatorId" Uuid.decode)).and
        ((RecordReader.field (.required "CreatedAt" Instant.decode)).and
          (RecordReader.field (.required "ModifiedAt" Instant.decode)))))).map
    fun (id, deleted, creator, createdAt, modifiedAt) =>
      ⟨id, deleted, creator, createdAt, modifiedAt⟩

def decode : Decoder BaseFields := record.decode "BaseFields"

def encode (b : BaseFields) : Json :=
  .ofMembers [("Id", .string b.id.text), ("IsDeleted", .bool b.deleted),
    ("CreatorId", .string b.creator.text), ("CreatedAt", .string (b.createdAt.text .shortest)),
    ("ModifiedAt", .string (b.modifiedAt.text .shortest))]

end BaseFields

end EntityQuery
