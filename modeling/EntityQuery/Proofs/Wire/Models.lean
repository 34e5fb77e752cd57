import EntityQuery.Proofs.Wire.Spelling

/-!
The documents of requests and settings. For each of them the names of its fields in order, the
names they also go by, and the values they have where they are absent; whatever is written is read
back, and so is every respelling of it. Main statement: `decode_of_spelling`.
-/

namespace EntityQuery

open Wire RecordReader

namespace Wire

/-! ### Single values -/

lemma faithful_string : Faithful string .string .asIs := faithful_asIs fun _ => rfl

lemma faithful_bool : Faithful bool .bool .asIs := faithful_asIs fun _ => rfl

lemma natural_ofNat {bound n : ℕ} (expected : String) (hn : n < bound)
    (hbound : bound ≤ UInt64.size) : natural bound expected (.ofNat n) = .ok n := by
  have hsmall : (UInt64.ofNat n).toNat = n :=
    UInt64.toNat_ofNat_of_lt' (Nat.lt_of_lt_of_le hn hbound)
  show (if (UInt64.ofNat n).toNat < bound then _ else _) = _
  rw [hsmall, if_pos hn]

lemma faithful_uint32 : Faithful uint32 ofUInt32 .asIs := by
  refine faithful_asIs fun n => ?_
  have hn : natural UInt32.size "u32" (.ofNat n.toNat) = .ok n.toNat :=
    natural_ofNat _ n.toNat_lt (by decide)
  exact Result.map_eq_ok_iff.2 ⟨n.toNat, hn, UInt32.ofNat_toNat⟩

lemma faithful_uint64 (expected : String) :
    Faithful (uint64 expected) (fun n => .ofNat n.toNat) .asIs := by
  refine faithful_asIs fun n => ?_
  have hn : natural UInt64.size expected (.ofNat n.toNat) = .ok n.toNat :=
    natural_ofNat _ n.toNat_lt (Nat.le_refl _)
  exact Result.map_eq_ok_iff.2 ⟨n.toNat, hn, UInt64.ofNat_toNat⟩

end Wire

lemma Operator.faithful : Faithful Operator.decode (fun op => .string op.name) .asIs :=
  faithful_asIs fun op => by cases op <;> rfl

lemma Connective.faithful : Faithful Connective.decode (fun c => .string c.name) .asIs :=
  faithful_asIs fun c => by cases c <;> rfl

/-! ### Single fields -/

namespace Wire.RecordReader

variable {α : Type} {decode : Decoder α} {encode : α → Json} {R : Spelling}

lemma restores_required (name : String) (h : Faithful decode encode R) :
    (field (.required name decode)).Restores [.required name R] fun x => [(name, encode x)] :=
  restores_field (f := .required name decode) h

lemma restores_withDefault (name : String) (h : Faithful decode encode R) (default : α) :
    (field (.withDefault name decode default)).Restores
      [.withDefault name R (encode default)] fun x => [(name, encode x)] :=
  restores_field (f := .withDefault name decode default) h

lemma restores_maybe (name : String) (h : Faithful decode encode R)
    (hnull : ∀ x, decode .null ≠ .ok x) :
    (field (.maybe name decode)).Restores [.maybe name R] fun x => [(name, ofOption encode x)] :=
  restores_field (f := .maybe name decode) (h.optional hnull)

lemma restores_text (name : String) :
    (field (.maybe name string)).Restores [.maybe name .asIs] fun x => [(name, .ofString? x)] := by
  have hwrite : (Json.ofString? : Option String → Json) = ofOption .string := by
    funext x
    cases x <;> rfl
  rw [hwrite]
  exact restores_maybe name faithful_string fun _ h => nomatch h

end Wire.RecordReader

/-! ### Parts of requests -/

namespace Filter

/-- How a filter is written. -/
def spelling : Spelling :=
  .record [.required "PropertyName" .asIs, .required "Operator" .asIs, .maybe "Value" .asIs]

lemma faithful : Faithful decode encode spelling := by
  have hfields := (restores_required "PropertyName" faithful_string).and
    ((restores_required "Operator" Operator.faithful).and (restores_text "Value") (by decide))
    (by decide)
  exact hfields.faithful_map (g := fun f : Filter => (f.property, f.operator, f.value)) fun _ => rfl

end Filter

namespace FilterList

/-- How a list of filters is written. -/
def spelling : Spelling :=
  .record [.required "Filters" Filter.spelling.list,
    .withDefault "CombineOperator" .asIs (.string "And")]

lemma faithful : Faithful decode encode spelling := by
  have hfields := (restores_required "Filters" Filter.faithful.list).and
    (restores_withDefault "CombineOperator" Connective.faithful .and) (by decide)
  exact hfields.faithful_map (g := fun l : FilterList => (l.filters, l.connective)) fun _ => rfl

end FilterList

namespace Selector

/-- How a selected property is written. -/
def spelling : Spelling :=
  .record [.required "Name" .asIs, .withDefault "IsJsonString" .asIs (.bool false)]

lemma faithful : Faithful decode encode spelling := by
  have hfields := (restores_required "Name" faithful_string).and
    (restores_withDefault "IsJsonString" faithful_bool false) (by decide)
  exact hfields.faithful_map (g := fun s : Selector => (s.name, s.structured)) fun _ => rfl

end Selector

namespace Selection

/-- How a selection is written. -/
def spelling : Spelling := .record [.required "Properties" Selector.spelling.list]

lemma faithful : Faithful decode encode spelling := by
  have hfields := restores_required "Properties" Selector.faithful.list
  exact hfields.faithful_map (g := fun s : Selection => s.selectors) fun _ => rfl

end Selection

namespace SortRule

/-- How a sort rule is written. -/
def spelling : Spelling :=
  .record [.required "PropertyName" .asIs, .withDefault "Descending" .asIs (.bool false)]

lemma faithful : Faithful decode encode spelling := by
  have hfields := (restores_required "PropertyName" faithful_string).and
    (restores_withDefault "Descending" faithful_bool false) (by decide)
  exact hfields.faithful_map (g := fun r : SortRule => (r.property, r.descending)) fun _ => rfl

end SortRule

namespace GroupRule

/-- How a group rule is written. -/
def spelling : Spelling :=
  .record [.required "GroupByColumnName" .asIs, .maybe "OrderBy" SortRule.spelling,
    .maybe "Selector" Selection.spelling]

lemma faithful : Faithful decode encode spelling := by
  have hfields := (restores_required "GroupByColumnName" faithful_string).and
    ((restores_maybe "OrderBy" SortRule.faithful fun _ h => nomatch h).and
      (restores_maybe "Selector" Selection.faithful fun _ h => nomatch h) (by decide)) (by decide)
  exact hfields.faithful_map (g := fun r : GroupRule => (r.property, r.order, r.selection))
    fun _ => rfl

end GroupRule

namespace PropertyChange

/-- How a change of a property is written. -/
def spelling : Spelling := .record [.required "PropertyName" .asIs, .maybe "Value" .asIs]

lemma faithful : Faithful decode encode spelling := by
  have hfields := (restores_required "PropertyName" faithful_string).and
    (restores_text "Value") (by decide)
  exact hfields.faithful_map (g := fun c : PropertyChange => (c.property, c.value)) fun _ => rfl

end PropertyChange

namespace Page

/-- How a page is written. -/
def spelling : Spelling :=
  .record [.withDefault "Skip" .asIs (.ofNat 0), .withDefault "Take" .asIs (.ofNat 0)]

lemma faithful : Faithful decode encode spelling := by
  have hfields := (restores_withDefault "Skip" faithful_uint32 0).and
    (restores_withDefault "Take" faithful_uint32 0) (by decide)
  exact hfields.faithful_map (g := fun p : Page => (p.skip, p.take)) fun _ => rfl

end Page

/-! ### Requests -/

lemma Wire.faithful_names : Faithful (list string) ofNames Spelling.asIs.list :=
  faithful_string.list

namespace ListingRequest

/-- How a listing request is written. The name of its order has a second spelling. -/
def spelling : Spelling :=
  .record [.maybe "Selector" Selection.spelling, .maybe "Filter" Filter.spelling,
    .maybe "CombinedFilters" FilterList.spelling,
    ⟨"OrderedBy", ["OrderdBy"], some .null, SortRule.spelling.optional⟩,
    .withDefault "Skip" .asIs (.ofNat 0), .withDefault "Take" .asIs (.ofNat 10),
    .maybe "Includes" Spelling.asIs.list]

lemma faithful : Faithful decode encode spelling := by
  have horder : Faithful (optional SortRule.decode) (ofOption SortRule.encode) _ :=
    SortRule.faithful.optional fun _ h => nomatch h
  have hpage := (restores_withDefault "Skip" faithful_uint32 0).and
    ((restores_withDefault "Take" faithful_uint32 usualTake).and
      (restores_maybe "Includes" faithful_names fun _ h => nomatch h) (by decide)) (by decide)
  have hfields := (restores_maybe "Selector" Selection.faithful fun _ h => nomatch h).and
    ((restores_maybe "Filter" Filter.faithful fun _ h => nomatch h).and
      ((restores_maybe "CombinedFilters" FilterList.faithful fun _ h => nomatch h).and
        ((restores_field (f := ⟨"OrderedBy", ["OrderdBy"], _, some none⟩) horder).and hpage
          (by decide)) (by decide)) (by decide)) (by decide)
  exact hfields.faithful_map (g := fun r : ListingRequest =>
      (r.selection, r.filter, r.filters, r.order, r.skip, r.take, r.includes)) fun _ => rfl

end ListingRequest

namespace EntityRequest

/-- How a request for an entity is written. -/
def spelling : Spelling :=
  .record [.maybe "Selector" Selection.spelling, .maybe "Includes" Spelling.asIs.list]

lemma faithful : Faithful decode encode spelling := by
  have hfields := (restores_maybe "Selector" Selection.faithful fun _ h => nomatch h).and
    (restores_maybe "Includes" faithful_names fun _ h => nomatch h) (by decide)
  exact hfields.faithful_map (g := fun r : EntityRequest => (r.selection, r.includes)) fun _ => rfl

end EntityRequest

namespace GroupingRequest

/-- How a grouping request is written. -/
def spelling : Spelling :=
  .record [.required "GroupBy" GroupRule.spelling, .maybe "Filters" FilterList.spelling,
    .withDefault "Skip" .asIs (.ofNat 0), .withDefault "Take" .asIs (.ofNat 10)]

lemma faithful : Faithful decode encode spelling := by
  have hfields := (restores_required "GroupBy" GroupRule.faithful).and
    ((restores_maybe "Filters" FilterList.faithful fun _ h => nomatch h).and
      ((restores_withDefault "Skip" faithful_uint32 0).and
        (restores_withDefault "Take" faithful_uint32 usualTake) (by decide)) (by decide))
    (by decide)
  exact hfields.faithful_map (g := fun r : GroupingRequest => (r.group, r.filters, r.skip, r.take))
    fun _ => rfl

end GroupingRequest

namespace ChangeRequest

/-- How a change request is written. -/
def spelling : Spelling :=
  .record [.maybe "Filters" FilterList.spelling,
    .required "UpdateProperties" PropertyChange.spelling.list]

lemma faithful : Faithful decode encode spelling := by
  have hfields := (restores_maybe "Filters" FilterList.faithful fun _ h => nomatch h).and
    (restores_required "UpdateProperties" PropertyChange.faithful.list) (by decide)
  exact hfields.faithful_map (g := fun r : ChangeRequest => (r.filters, r.changes)) fun _ => rfl

end ChangeRequest

/-! ### Settings -/

namespace RepositorySettings

/-- How the settings of a repository are written. -/
def spelling : Spelling :=
  .record [.withDefault "default_take" .asIs (.ofNat 10), .maybe "max_take" .asIs,
    .withDefault "apply_default_order" .asIs (.bool true)]

lemma faithful : Faithful decode encode spelling := by
  have hfields := (restores_withDefault "default_take" faithful_uint32 usual.defaultTake).and
    ((restores_maybe "max_take" faithful_uint32 fun _ h => nomatch h).and
      (restores_withDefault "apply_default_order" faithful_bool usual.defaultOrder) (by decide))
    (by decide)
  exact hfields.faithful_map
    (g := fun s : RepositorySettings => (s.defaultTake, s.maxTake, s.defaultOrder)) fun _ => rfl

end RepositorySettings

namespace StoreSettings

/-- How the settings of a store are written. -/
def spelling : Spelling :=
  .record [.withDefault "max_sessions" .asIs (.ofNat 16),
    .withDefault "acquire_timeout_ms" .asIs (.ofNat 5000)]

lemma faithful : Faithful decode encode spelling := by
  have hsessions :=
    restores_withDefault "max_sessions" (faithful_uint64 "usize") usual.maxSessions
  have hfields := hsessions.and
    (restores_withDefault "acquire_timeout_ms" (faithful_uint64 "u64") usual.acquireTimeout)
    (by decide)
  exact hfields.faithful_map (g := fun s : StoreSettings => (s.maxSessions, s.acquireTimeout))
    fun _ => rfl

end StoreSettings

/-! ### All of them -/

namespace Wire

/-- What is sent and configured as a document. -/
inductive Model where
  | filter
  | filterList
  | selection
  | sortRule
  | groupRule
  | propertyChange
  | page
  | listingRequest
  | entityRequest
  | groupingRequest
  | changeRequest
  | repositorySettings
  | storeSettings
  deriving DecidableEq, Repr

namespace Model

/-- The values of a model. -/
def Carrier : Model → Type
  | .filter => Filter
  | .filterList => FilterList
  | .selection => Selection
  | .sortRule => SortRule
  | .groupRule => GroupRule
  | .propertyChange => PropertyChange
  | .page => Page
  | .listingRequest => ListingRequest
  | .entityRequest => EntityRequest
  | .groupingRequest => GroupingRequest
  | .changeRequest => ChangeRequest
  | .repositorySettings => RepositorySettings
  | .storeSettings => StoreSettings

/-- The document of a value. -/
def encode : (k : Model) → k.Carrier → Json
  | .filter => Filter.encode
  | .filterList => FilterList.encode
  | .selection => Selection.encode
  | .sortRule => SortRule.encode
  | .groupRule => GroupRule.encode
  | .propertyChange => PropertyChange.encode
  | .page => Page.encode
  | .listingRequest => ListingRequest.encode
  | .entityRequest => EntityRequest.encode
  | .groupingRequest => GroupingRequest.encode
  | .changeRequest => ChangeRequest.encode
  | .repositorySettings => RepositorySettings.encode
  | .storeSettings => StoreSettings.encode

/-- The value of a document. -/
def decode : (k : Model) → Decoder k.Carrier
  | .filter => Filter.decode
  | .filterList => FilterList.decode
  | .selection => Selection.decode
  | .sortRule => SortRule.decode
  | .groupRule => GroupRule.decode
  | .propertyChange => PropertyChange.decode
  | .page => Page.decode
  | .listingRequest => ListingRequest.decode
  | .entityRequest => EntityRequest.decode
  | .groupingRequest => GroupingRequest.decode
  | .changeRequest => ChangeRequest.decode
  | .repositorySettings => RepositorySettings.decode
  | .storeSettings => StoreSettings.decode

/-- How a document can be respelled. -/
def spelling : Model → Spelling
  | .filter => Filter.spelling
  | .filterList => FilterList.spelling
  | .selection => Selection.spelling
  | .sortRule => SortRule.spelling
  | .groupRule => GroupRule.spelling
  | .propertyChange => PropertyChange.spelling
  | .page => Page.spelling
  | .listingRequest => ListingRequest.spelling
  | .entityRequest => EntityRequest.spelling
  | .groupingRequest => GroupingRequest.spelling
  | .changeRequest => ChangeRequest.spelling
  | .repositorySettings => RepositorySettings.spelling
  | .storeSettings => StoreSettings.spelling

lemma faithful (k : Model) : Faithful k.decode k.encode k.spelling := by
  cases k with
  | filter => exact Filter.faithful
  | filterList => exact FilterList.faithful
  | selection => exact Selection.faithful
  | sortRule => exact SortRule.faithful
  | groupRule => exact GroupRule.faithful
  | propertyChange => exact PropertyChange.faithful
  | page => exact Page.faithful
  | listingRequest => exact ListingRequest.faithful
  | entityRequest => exact EntityRequest.faithful
  | groupingRequest => exact GroupingRequest.faithful
  | changeRequest => exact ChangeRequest.faithful
  | repositorySettings => exact RepositorySettings.faithful
  | storeSettings => exact StoreSettings.faithful

/-- **Whatever is written as a document is read back**, and so is every document that respells
it. -/
theorem decode_of_spelling (k : Model) (x : k.Carrier) :
    k.decode (k.encode x) = .ok x ∧ ∀ j, k.spelling (k.encode x) j → k.decode j = .ok x :=
  ⟨k.faithful.decode_encode x, k.faithful.read x⟩

/-- A listing request without the members that say nothing, with one that nobody knows, with the
other name of its order, and with a filter list and an order written as arrays. -/
theorem decode_of_respelled_listing :
    let r : ListingRequest :=
      { ListingRequest.usual with
        filters := some ⟨[.equal "Name" "Ada", .isNull "Email"], .and⟩
        order := some ⟨"Age", false⟩
        skip := 20 }
    let ada : Json := .array [.string "Name", .string "Equal", .string "Ada"]
    let email : Json :=
      .object [("Operator", .string "IsNull"), ("PropertyName", .string "Email"), ("X", .null)]
    let j : Json := .object
      [("CombinedFilters", .array [.array [ada, email], .string "And"]), ("Comment", .string "?"),
        ("OrderdBy", .object [("PropertyName", .string "Age")]), ("Skip", .ofNat 20)]
    Model.listingRequest.spelling (r.encode) j ∧ Model.listingRequest.decode j = .ok r := by
  intro r ada email j
  have first : Filter.spelling (Filter.encode (.equal "Name" "Ada")) ada :=
    .array (.cons ⟨_, rfl, rfl⟩ (.cons ⟨_, rfl, rfl⟩ (.cons ⟨_, rfl, rfl⟩ .nil)))
  have second : Filter.spelling (Filter.encode (.isNull "Email")) email := by
    refine .object ?_
    simp only [Gives, List.mem_cons, List.not_mem_nil, or_false, forall_eq_or_imp, forall_eq]
    exact ⟨⟨_, rfl, .written rfl⟩, ⟨_, rfl, .written rfl⟩, _, rfl, .dropped rfl⟩
  have filters : FilterList.spelling
      (FilterList.encode ⟨[.equal "Name" "Ada", .isNull "Email"], .and⟩)
      (.array [.array [ada, email], .string "And"]) :=
    .array (.cons ⟨_, rfl, .cons first (.cons second .nil)⟩ (.cons ⟨_, rfl, rfl⟩ .nil))
  have order : SortRule.spelling (SortRule.encode ⟨"Age", false⟩)
      (.object [("PropertyName", .string "Age")]) := by
    refine .object ?_
    simp only [Gives, List.mem_cons, List.not_mem_nil, or_false, forall_eq_or_imp, forall_eq]
    exact ⟨⟨_, rfl, .written rfl⟩, _, rfl, .dropped rfl⟩
  have respelled : Model.listingRequest.spelling r.encode j := by
    refine .object ?_
    simp only [Gives, List.mem_cons, List.not_mem_nil, or_false, forall_eq_or_imp, forall_eq]
    exact ⟨⟨_, rfl, .dropped rfl⟩, ⟨_, rfl, .dropped rfl⟩, ⟨_, rfl, .written filters⟩,
      ⟨_, rfl, .written order⟩, ⟨_, rfl, .written rfl⟩, ⟨_, rfl, .dropped rfl⟩, _, rfl,
      .dropped rfl⟩
  exact ⟨respelled, (decode_of_spelling .listingRequest r).2 j respelled⟩

end Model

end Wire

end EntityQuery
