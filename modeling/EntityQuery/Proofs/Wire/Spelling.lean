import EntityQuery.Proofs.Results
import EntityQuery.Wire.Request
import Mathlib.Data.List.Nodup
import Mathlib.Data.List.Pairwise

/-!
Documents that say the same. A record can be respelled, at any depth: members whose value is the
default of their field are dropped, members that no field goes by are added, a field goes by
another of its names, members change places, or the record becomes the array of its fields. A
reader is faithful if it reads what was written, however that is respelled. Main statement:
`Restores.faithful`.
-/

namespace EntityQuery

/-! ### Objects -/

namespace Json

lemma perm_insert {key : String} {v : Json} {members : List (String × Json)}
    (h : key ∉ members.map Prod.fst) : (insert key v members).Perm ((key, v) :: members) := by
  induction members with
  | nil => exact .refl _
  | cons m rest ih =>
    obtain ⟨k, w⟩ := m
    rw [List.map_cons, List.mem_cons, not_or] at h
    unfold insert
    split
    · exact .refl _
    · rename_i heq
      exact absurd (Std.LawfulEqCmp.eq_of_compare heq) h.1
    · exact ((ih h.2).cons (k, w)).trans (.swap ..)

lemma perm_foldl_insert {members sorted : List (String × Json)}
    (h : ((members ++ sorted).map Prod.fst).Nodup) :
    (members.foldl (fun sorted (k, v) => insert k v sorted) sorted).Perm (members ++ sorted) := by
  induction members generalizing sorted with
  | nil => exact .refl _
  | cons m rest ih =>
    obtain ⟨k, v⟩ := m
    have hfresh : k ∉ sorted.map Prod.fst := by
      rw [List.cons_append, List.map_cons, List.nodup_cons, List.map_append, List.mem_append] at h
      exact fun hk => h.1 (.inr hk)
    have hperm : (rest ++ insert k v sorted).Perm ((k, v) :: (rest ++ sorted)) :=
      ((perm_insert hfresh).append_left rest).trans List.perm_middle
    exact (ih ((hperm.map Prod.fst).nodup_iff.2 h)).trans hperm

lemma lookup_of_mem {members : List (String × Json)} (h : (members.map Prod.fst).Nodup)
    {m : String × Json} (hm : m ∈ members) : members.lookup m.1 = some m.2 := by
  obtain ⟨before, after, rfl⟩ := List.append_of_mem hm
  refine List.lookup_eq_some_iff.2 ⟨before, after, rfl, fun n hn => bne_iff_ne.2 fun heq => ?_⟩
  rw [List.map_append, List.map_cons, List.nodup_append] at h
  exact h.2.2 n.1 (List.mem_map_of_mem hn) m.1 List.mem_cons_self heq.symm

lemma filter_eq_singleton {members : List (String × Json)} (h : (members.map Prod.fst).Nodup)
    {m : String × Json} (hm : m ∈ members) {p : String → Bool}
    (hp : ∀ n ∈ members, p n.1 ↔ n.1 = m.1) : members.filter (fun n => p n.1) = [m] := by
  obtain ⟨before, after, rfl⟩ := List.append_of_mem hm
  rw [List.map_append, List.map_cons, List.nodup_append, List.nodup_cons] at h
  have hbefore : before.filter (fun n => p n.1) = [] := by
    refine List.filter_eq_nil_iff.2 fun n hn hpn => ?_
    have hkey := (hp n (List.mem_append_left _ hn)).1 hpn
    exact h.2.2 n.1 (List.mem_map_of_mem hn) m.1 List.mem_cons_self hkey
  have hafter : after.filter (fun n => p n.1) = [] := by
    refine List.filter_eq_nil_iff.2 fun n hn hpn => h.2.1.1 ?_
    have hkey := (hp n (List.mem_append_right _ (List.mem_cons_of_mem _ hn))).1 hpn
    exact hkey ▸ List.mem_map_of_mem hn
  rw [List.filter_append, hbefore, List.nil_append, List.filter_cons, if_pos ((hp m hm).2 rfl),
    hafter]

lemma exists_ofMembers {members : List (String × Json)} (h : (members.map Prod.fst).Nodup) :
    ∃ sorted, ofMembers members = .object sorted ∧ sorted.Perm members := by
  refine ⟨_, rfl, ?_⟩
  rw [← List.append_nil members] at h
  have hperm := perm_foldl_insert h
  rwa [List.append_nil] at hperm

end Json

namespace Wire

/-! ### Spellings -/

/-- Which documents say the same as a given one. -/
abbrev Spelling := Json → Json → Prop

namespace Spelling

/-- The document itself. -/
def asIs : Spelling := Eq

/-- Null as it is, other documents respelled. -/
def optional (R : Spelling) : Spelling
  | .null, j => j = .null
  | v, j => R v j

lemma optional_iff {R : Spelling} {v j : Json} (h : v ≠ .null) : R.optional v j ↔ R v j := by
  cases v with
  | null => exact absurd rfl h
  | _ => exact Iff.rfl

/-- An array with its items respelled. -/
def list (R : Spelling) : Spelling
  | .array vs, .array js => List.Forall₂ R vs js
  | _, _ => False

end Spelling

/-- How a field of a record is written: under its name or another, with a value that can be
respelled, and maybe not at all if the value is the default. -/
structure FieldSpelling where
  name : String
  aliases : List String
  default : Option Json
  spelling : Spelling

namespace FieldSpelling

/-- A field that is always written. -/
def required (name : String) (spelling : Spelling) : FieldSpelling := ⟨name, [], none, spelling⟩

/-- A field that is dropped where it has a certain value. -/
def withDefault (name : String) (spelling : Spelling) (default : Json) : FieldSpelling :=
  ⟨name, [], some default, spelling⟩

/-- A field that is dropped where it is null. -/
def maybe (name : String) (spelling : Spelling) : FieldSpelling :=
  .withDefault name spelling.optional .null

/-- The names of a field. -/
def names (f : FieldSpelling) : List String := f.name :: f.aliases

/-- Whether a member of the given name belongs to the field. -/
def goesBy (f : FieldSpelling) (name : String) : Bool := name == f.name || f.aliases.contains name

lemma goesBy_iff {f : FieldSpelling} {name : String} : f.goesBy name ↔ name ∈ f.names := by
  simp [goesBy, names]

/-- The members of a field with the value `v`: one with a spelling of it, or none if the value is
the default. -/
inductive Given (f : FieldSpelling) (v : Json) : List (String × Json) → Prop
  | dropped (h : f.default = some v) : Given f v []
  | written {name : String} {j : Json} (h : f.spelling v j) : Given f v [(name, j)]

end FieldSpelling

/-- No name belongs to both fields. -/
def FieldSpelling.Apart (f g : FieldSpelling) : Prop := ∀ name ∈ f.names, name ∉ g.names

instance : Std.Symm FieldSpelling.Apart := ⟨fun _ _ h name hg hf => h name hf hg⟩

instance (f g : FieldSpelling) : Decidable (f.Apart g) :=
  inferInstanceAs (Decidable (∀ name ∈ f.names, name ∉ g.names))

/-- Members that give each field its value in the document `v`. Those that no field goes by are of
no account. -/
def Gives (fields : List FieldSpelling) (v : Json) (members : List (String × Json)) : Prop :=
  ∀ f ∈ fields, ∃ w, v.get? f.name = some w ∧ f.Given w (members.filter fun m => f.goesBy m.1)

/-- Items that are the values of the fields in the document `v`, respelled, in their order. -/
def Lists (fields : List FieldSpelling) (v : Json) (items : List Json) : Prop :=
  List.Forall₂ (fun f j => ∃ w, v.get? f.name = some w ∧ f.spelling w j) fields items

/-- A record, respelled as an object or as an array. -/
inductive Spelling.record (fields : List FieldSpelling) (v : Json) : Json → Prop
  | object {members : List (String × Json)} (h : Gives fields v members) :
    record fields v (.object members)
  | array {items : List Json} (h : Lists fields v items) : record fields v (.array items)

/-! ### Faithful readers -/

/-- What is written is a spelling of itself, and all its spellings are read as what was written. -/
structure Faithful {α : Type} (decode : Decoder α) (encode : α → Json) (R : Spelling) : Prop where
  refl : ∀ x, R (encode x) (encode x)
  read : ∀ x j, R (encode x) j → decode j = .ok x

section Values

variable {α : Type} {decode : Decoder α} {encode : α → Json} {R : Spelling}

lemma faithful_asIs (h : ∀ x, decode (encode x) = .ok x) : Faithful decode encode .asIs where
  refl x := rfl
  read x j hj := by
    cases hj
    exact h x

lemma Faithful.decode_encode (h : Faithful decode encode R) (x : α) : decode (encode x) = .ok x :=
  h.read x _ (h.refl x)

lemma Faithful.injective (h : Faithful decode encode R) {x y : α} (hxy : encode x = encode y) :
    x = y := by
  have hx := h.decode_encode x
  rw [hxy, h.decode_encode y] at hx
  exact (Except.ok.inj hx).symm

lemma Faithful.optional (h : Faithful decode encode R) (hnull : ∀ x, decode .null ≠ .ok x) :
    Faithful (Wire.optional decode) (ofOption encode) R.optional := by
  have hwritten (x : α) : encode x ≠ .null := fun he => hnull x (he ▸ h.decode_encode x)
  constructor
  · intro x
    cases x with
    | none => exact (rfl : Json.null = Json.null)
    | some x => exact (Spelling.optional_iff (hwritten x)).2 (h.refl x)
  · intro x j hj
    cases x with
    | none =>
      obtain rfl : j = .null := hj
      rfl
    | some x =>
      have hread := h.read x j ((Spelling.optional_iff (hwritten x)).1 hj)
      cases j with
      | null => exact absurd hread (hnull x)
      | _ => exact Result.map_eq_ok_iff.2 ⟨x, hread, rfl⟩

lemma Faithful.list (h : Faithful decode encode R) :
    Faithful (Wire.list decode) (fun xs => .array (xs.map encode)) R.list where
  refl xs := by
    refine List.forall₂_map_left_iff.2 (List.forall₂_map_right_iff.2 ?_)
    exact List.forall₂_same.2 fun x _ => h.refl x
  read xs j hj := by
    cases j with
    | array js =>
      refine Result.mapM_eq_ok_iff.2 (List.Forall₂.flip ?_)
      exact (List.forall₂_map_left_iff.1 hj).imp fun x j hj => h.read x j hj
    | _ => cases hj

end Values

/-! ### Fields of records -/

/-- How the field of a reader is written. -/
def FieldReader.spelling {α : Type} (f : FieldReader α) (encode : α → Json) (R : Spelling) :
    FieldSpelling :=
  ⟨f.name, f.aliases, f.default.map encode, R⟩

/-- A document shows members if it has each of them. -/
def Shows (v : Json) (members : List (String × Json)) : Prop :=
  ∀ m ∈ members, v.get? m.1 = some m.2

namespace RecordReader

/-- A record reader takes a record from whatever gives its fields the values that were written.
Names that none of the fields goes by do not matter to it. -/
structure Restores {α : Type} (r : RecordReader α) (fields : List FieldSpelling)
    (write : α → List (String × Json)) : Prop where
  apart : fields.Pairwise FieldSpelling.Apart
  written : ∀ x, List.Forall₂ (fun f m => m.1 = f.name ∧ f.spelling m.2 m.2) fields (write x)
  ignores : ∀ name, (∀ f ∈ fields, f.goesBy name = false) →
    ∀ j state, r.member name j state = .ok none
  object : ∀ x v members, Shows v (write x) → Gives fields v members →
    ∃ state, r.members members r.start = .ok state ∧ r.finish state = .ok x
  array : ∀ x v index short items rest, Shows v (write x) → Lists fields v items →
    r.fromItems index short (items ++ rest) = .ok (x, rest)

section Field

variable {α : Type} {f : FieldReader α} {members : List (String × Json)}

lemma finish_of_default {x : α} (h : f.default = some x) : (field f).finish none = .ok x := by
  cases f
  cases h
  rfl

lemma members_of_filter_eq_nil (h : members.filter (fun m => f.goesBy m.1) = [])
    (state : (field f).State) : (field f).members members state = .ok state := by
  induction members with
  | nil => rfl
  | cons m rest ih =>
    obtain ⟨name, j⟩ := m
    rw [List.filter_eq_nil_iff, List.forall_mem_cons] at h
    have hmember : (field f).member name j state = .ok none := if_neg h.1
    rw [RecordReader.members, hmember]
    exact ih (List.filter_eq_nil_iff.2 h.2)

lemma members_of_filter_eq_singleton {name : String} {j : Json} {x : α}
    (h : members.filter (fun m => f.goesBy m.1) = [(name, j)]) (hx : f.decode j = .ok x) :
    (field f).members members (field f).start = .ok (some x) := by
  induction members with
  | nil => cases h
  | cons m rest ih =>
    obtain ⟨name', j'⟩ := m
    by_cases hname : f.goesBy name'
    · rw [List.filter_cons, if_pos hname] at h
      obtain ⟨hm, hrest⟩ := List.cons.inj h
      cases hm
      have hmember : (field f).member name j (field f).start = .ok (some (some x)) :=
        (if_pos hname).trans (Result.map_eq_ok_iff.2 ⟨x, hx, rfl⟩)
      rw [RecordReader.members, hmember]
      exact members_of_filter_eq_nil hrest _
    · rw [List.filter_cons, if_neg hname] at h
      have hmember : (field f).member name' j' (field f).start = .ok none := if_neg hname
      rw [RecordReader.members, hmember]
      exact ih h

variable {encode : α → Json} {R : Spelling}

lemma restores_field (h : Faithful f.decode encode R) :
    (field f).Restores [f.spelling encode R] fun x => [(f.name, encode x)] where
  apart := List.pairwise_singleton _ _
  written x := .cons ⟨rfl, h.refl x⟩ .nil
  ignores name hname j state := if_neg (Bool.eq_false_iff.1 (hname _ List.mem_cons_self))
  object x v members hv hmembers := by
    obtain ⟨w, hw, hgiven⟩ := hmembers _ List.mem_cons_self
    obtain rfl : encode x = w := Option.some.inj ((hv _ List.mem_cons_self).symm.trans hw)
    generalize hfilter : members.filter _ = own at hgiven
    cases hgiven with
    | dropped hdefault =>
      -- what was written is the default, and no two values are written alike
      obtain ⟨y, hy, hencode⟩ := Option.map_eq_some_iff.1 hdefault
      cases h.injective hencode
      exact ⟨none, members_of_filter_eq_nil hfilter _, finish_of_default hy⟩
    | @written name j hj =>
      exact ⟨some x, members_of_filter_eq_singleton hfilter (h.read x j hj), rfl⟩
  array x v index short items rest hv hitems := by
    cases hitems with
    | cons hj hrest =>
      cases hrest
      obtain ⟨w, hw, hj⟩ := hj
      obtain rfl : encode x = w := Option.some.inj ((hv _ List.mem_cons_self).symm.trans hw)
      exact Result.map_eq_ok_iff.2 ⟨x, h.read x _ hj, rfl⟩

end Field

section Records

variable {α β : Type} {r : RecordReader α} {s : RecordReader β}
  {fields fields' : List FieldSpelling} {write : α → List (String × Json)}
  {write' : β → List (String × Json)}

lemma members_cons_eq_ok_iff {name : String} {j : Json} {rest : List (String × Json)}
    {a a' : r.State} :
    r.members ((name, j) :: rest) a = .ok a' ↔
      ∃ next, r.member name j a = .ok next ∧ r.members rest (next.getD a) = .ok a' := by
  rw [RecordReader.members, Result.bind_eq_ok_iff]
  refine exists_congr fun next => and_congr_right fun _ => ?_
  cases next <;> rfl

lemma member_and_left {name : String} {j : Json} {a first : r.State} {b : s.State}
    (h : r.member name j a = .ok (some first)) :
    (r.and s).member name j (a, b) = .ok (some (first, b)) := by
  show (r.member name j a >>= _) = _
  rw [h]
  rfl

lemma member_and_right {name : String} {j : Json} {a : r.State} {b : s.State}
    {second : Option s.State} (hr : r.member name j a = .ok none)
    (hs : s.member name j b = .ok second) :
    (r.and s).member name j (a, b) = .ok (second.map (a, ·)) := by
  show (r.member name j a >>= _) = _
  rw [hr]
  show (s.member name j b >>= _) = _
  rw [hs]
  cases second <;> rfl

/-- Two readers of which no member concerns both go through the members side by side. -/
lemma members_and {members : List (String × Json)}
    (h : ∀ m ∈ members, (∀ j state, r.member m.1 j state = .ok none) ∨
      ∀ j state, s.member m.1 j state = .ok none)
    {a a' : r.State} {b b' : s.State} (ha : r.members members a = .ok a')
    (hb : s.members members b = .ok b') : (r.and s).members members (a, b) = .ok (a', b') := by
  induction members generalizing a b with
  | nil =>
    cases ha
    cases hb
    rfl
  | cons m rest ih =>
    obtain ⟨name, j⟩ := m
    rw [List.forall_mem_cons] at h
    obtain ⟨first, hfirst, ha⟩ := members_cons_eq_ok_iff.1 ha
    obtain ⟨second, hsecond, hb⟩ := members_cons_eq_ok_iff.1 hb
    have hrest := ih h.2 ha hb
    refine members_cons_eq_ok_iff.2 ?_
    -- one of the two readers leaves the member alone
    rcases h.1 with hskip | hskip
    · obtain rfl : none = first := Except.ok.inj ((hskip j a).symm.trans hfirst)
      refine ⟨_, member_and_right hfirst hsecond, ?_⟩
      cases second <;> exact hrest
    · obtain rfl : none = second := Except.ok.inj ((hskip j b).symm.trans hsecond)
      cases first with
      | none => exact ⟨none, member_and_right hfirst hsecond, hrest⟩
      | some first => exact ⟨some (first, b), member_and_left hfirst, hrest⟩

lemma Restores.and (hr : r.Restores fields write) (hs : s.Restores fields' write')
    (hapart : ∀ f ∈ fields, ∀ g ∈ fields', f.Apart g) :
    (r.and s).Restores (fields ++ fields') fun x => write x.1 ++ write' x.2 where
  apart := List.pairwise_append.2 ⟨hr.apart, hs.apart, hapart⟩
  written x := List.rel_append (hr.written x.1) (hs.written x.2)
  ignores name hname j state := by
    rw [List.forall_mem_append] at hname
    exact member_and_right (hr.ignores name hname.1 j _) (hs.ignores name hname.2 j _)
  object x v members hv hmembers := by
    obtain ⟨hvr, hvs⟩ := List.forall_mem_append.1 hv
    obtain ⟨hmr, hms⟩ := List.forall_mem_append.1 hmembers
    obtain ⟨a, ha, hx⟩ := hr.object x.1 v members hvr hmr
    obtain ⟨b, hb, hy⟩ := hs.object x.2 v members hvs hms
    refine ⟨(a, b), members_and (fun m _ => ?_) ha hb, ?_⟩
    · by_cases hown : ∃ f ∈ fields, f.goesBy m.1
      · obtain ⟨f, hf, hname⟩ := hown
        refine .inr (hs.ignores m.1 fun g hg => Bool.eq_false_iff.2 fun hname' => ?_)
        exact hapart f hf g hg m.1 (f.goesBy_iff.1 hname) (g.goesBy_iff.1 hname')
      · exact .inl (hr.ignores m.1 fun f hf => Bool.eq_false_iff.2 fun hname => hown ⟨f, hf, hname⟩)
    · show (r.finish a >>= _) = _
      rw [hx]
      show (s.finish b >>= _) = _
      rw [hy]
      rfl
  array x v index short items rest hv hitems := by
    obtain ⟨hvr, hvs⟩ := List.forall_mem_append.1 hv
    -- the first items are those of the fields of `r`, the others those of `s`
    have hfirst := (List.forall₂_take_append _ _ _ hitems.flip).flip
    have hsecond := (List.forall₂_drop_append _ _ _ hitems.flip).flip
    rw [← List.take_append_drop fields.length items, List.append_assoc]
    show (r.fromItems index short _ >>= _) = _
    rw [hr.array x.1 v index short _ _ hvr hfirst]
    show (s.fromItems (index + r.fields) short _ >>= _) = _
    rw [hs.array x.2 v _ short _ _ hvs hsecond]
    rfl

lemma members_map (f : α → β) (members : List (String × Json)) (a : r.State) :
    (r.map f).members members a = r.members members a := by
  induction members generalizing a with
  | nil => rfl
  | cons m rest ih =>
    obtain ⟨name, j⟩ := m
    show (r.member name j a >>= _) = (r.member name j a >>= _)
    refine congrArg _ (funext fun next => ?_)
    cases next with
    | none => exact ih a
    | some next => exact ih next

/-- A reader of the same fields whose records have another shape. -/
lemma Restores.map (h : r.Restores fields write) {f : α → β} {g : β → α} (hfg : ∀ y, f (g y) = y) :
    (r.map f).Restores fields fun y => write (g y) where
  apart := h.apart
  written y := h.written (g y)
  ignores := h.ignores
  object y v members hv hmembers := by
    obtain ⟨state, hstate, hy⟩ := h.object (g y) v members hv hmembers
    exact ⟨state, (members_map f members _).trans hstate, Result.map_eq_ok_iff.2 ⟨g y, hy, hfg y⟩⟩
  array y v index short items rest hv hitems :=
    Result.map_eq_ok_iff.2 ⟨_, h.array (g y) v index short items rest hv hitems,
      congrArg (·, rest) (hfg y)⟩

lemma Restores.nodup (h : r.Restores fields write) (x : α) : ((write x).map Prod.fst).Nodup := by
  have hkeys : List.Forall₂ Eq (fields.map FieldSpelling.name) ((write x).map Prod.fst) :=
    List.forall₂_map_left_iff.2
      (List.forall₂_map_right_iff.2 ((h.written x).imp fun f m hm => hm.1.symm))
  rw [List.forall₂_eq_eq_eq] at hkeys
  rw [← hkeys]
  refine List.pairwise_map.2 (h.apart.imp ?_)
  intro f g hfg hname
  exact hfg f.name List.mem_cons_self (List.mem_cons.2 (.inl hname))

lemma Restores.shows (h : r.Restores fields write) (x : α) :
    Shows (.ofMembers (write x)) (write x) := by
  obtain ⟨sorted, hsorted, hperm⟩ := Json.exists_ofMembers (h.nodup x)
  intro m hm
  rw [hsorted]
  exact Json.lookup_of_mem ((hperm.map Prod.fst).nodup_iff.2 (h.nodup x)) (hperm.mem_iff.2 hm)

lemma Restores.gives (h : r.Restores fields write) (x : α) :
    ∃ members, .ofMembers (write x) = Json.object members ∧
      Gives fields (.ofMembers (write x)) members := by
  obtain ⟨sorted, hsorted, hperm⟩ := Json.exists_ofMembers (h.nodup x)
  refine ⟨sorted, hsorted, fun f hf => ?_⟩
  obtain ⟨m, hm, hname, hspelling⟩ := Result.exists_of_forall₂ (h.written x) hf
  have hown : sorted.filter (fun n => f.goesBy n.1) = [m] := by
    refine Json.filter_eq_singleton ((hperm.map Prod.fst).nodup_iff.2 (h.nodup x))
      (hperm.mem_iff.2 hm) fun n hn => ?_
    obtain ⟨g, hg, hgname, -⟩ := Result.exists_of_forall₂ (h.written x).flip (hperm.mem_iff.1 hn)
    rw [hname, FieldSpelling.goesBy_iff]
    constructor
    · intro hfn
      -- otherwise the member would belong to two fields
      by_contra hne
      have hfg : f ≠ g := by
        rintro rfl
        exact hne hgname
      have hshared : n.1 ∈ g.names := List.mem_cons.2 (.inl hgname)
      exact h.apart.forall hf hg hfg n.1 hfn hshared
    · intro heq
      exact heq ▸ List.mem_cons_self
  rw [hown, ← hname]
  exact ⟨m.2, h.shows x m hm, .written hspelling⟩

/-- **A reader that restores the fields of a record reads it however it is respelled.** -/
theorem Restores.faithful (h : r.Restores fields write) (name : String) :
    Faithful (r.decode name) (fun x => .ofMembers (write x)) (.record fields) where
  refl x := by
    obtain ⟨members, hmembers, hgives⟩ := h.gives x
    have hobject := Spelling.record.object hgives
    rwa [← hmembers] at hobject
  read x j hj := by
    cases hj with
    | object hgives =>
      obtain ⟨state, hstate, hx⟩ := h.object x _ _ (h.shows x) hgives
      show (r.members _ r.start >>= _) = _
      rw [hstate]
      exact hx
    | @array items hlists =>
      have hitems := h.array x _ 0 (fun n => .tooShort n name r.fields) items [] (h.shows x) hlists
      rw [List.append_nil] at hitems
      show (r.fromItems 0 _ items >>= _) = _
      rw [hitems]
      rfl

lemma Restores.faithful_map (h : r.Restores fields write) {f : α → β} {g : β → α}
    (hfg : ∀ y, f (g y) = y) {name : String} :
    Faithful ((r.map f).decode name) (fun y => .ofMembers (write (g y))) (.record fields) :=
  (h.map hfg).faithful name

end Records

end RecordReader

end Wire

end EntityQuery
