import EntityQuery.Proofs.Calendar.Dates
import EntityQuery.Proofs.Number.Decimals
import EntityQuery.Proofs.Predicate.Cuts
import EntityQuery.Proofs.Text.Base64
import EntityQuery.Proofs.Text.WholeNumbers
import EntityQuery.Proofs.Uuid
import EntityQuery.Proofs.Value.Equality

/-!
Values that come back. What a value is written as for transfer is a literal of its kind, with blanks
around it or not, and the literal becomes an equal value; so an entity is found by the value that
its field shows. Main statement: `returns_wireText`.
-/

namespace EntityQuery

/-- The kinds whose values come back from their texts. -/
def FieldKind.isLossless : FieldKind → Bool
  | .bool | .int | .decimal | .uuid | .binary | .date => true
  | _ => false

/-- What a value is written as for transfer: the text that its JSON form is, or the compact text of
this form where it is not a text. -/
def Value.wireText (v : Value) : String :=
  match v.toJson with
  | .string s => s
  | j => j.text

/-- A text is what a value is written as, with blanks around it or not. -/
def Value.IsWrittenAs (v : Value) (text : String) : Prop :=
  ∃ before after, Text.IsBlanks before ∧ Text.IsBlanks after ∧
    text = String.ofList (before ++ v.wireText.toList ++ after)

lemma Value.toList_wireText_int (i : Int64) :
    (Value.int i).wireText.toList = Text.decimalInt i.toInt := by
  by_cases h : i < 0
  · have hjson : Json.ofInt64 i = .number (.negative i) := if_pos h
    rw [wireText, toJson, hjson]
    show (String.ofList (Text.decimalInt i.toInt ++ [])).toList = _
    rw [String.toList_ofList, List.append_nil]
  · have hjson : Json.ofInt64 i = .number (.natural i.toUInt64) := if_neg h
    have hnatural : i.toUInt64.toNat = i.toInt.natAbs := by
      rw [Int64.lt_iff_toInt_lt, Int64.toInt_zero] at h
      have hint : i.toInt = i.toBitVec.toInt := rfl
      have hnat : i.toUInt64.toNat = i.toBitVec.toNat := rfl
      have hcond := BitVec.toInt_eq_toNat_cond i.toBitVec
      split at hcond <;> omega
    rw [wireText, toJson, hjson]
    show (String.ofList (Text.decimalDigits i.toUInt64.toNat ++ [])).toList = _
    rw [String.toList_ofList, List.append_nil, hnatural, Text.decimalInt, if_neg]
    rwa [Int64.lt_iff_toInt_lt, Int64.toInt_zero] at h

namespace Literal

/-- Except for text, blanks around a literal do not count. -/
lemma valueOf_surrounded {kind : FieldKind} (hkind : kind ≠ .text) {before after : List Char}
    (hbefore : Text.IsBlanks before) (hafter : Text.IsBlanks after) (text : String) :
    valueOf kind (String.ofList (before ++ text.toList ++ after)) = valueOf kind text := by
  unfold valueOf
  rw [String.toList_ofList, Text.trimChars_surrounded hbefore hafter]
  cases kind with
  | text => exact absurd rfl hkind
  | _ => rfl

lemma valueOf_int (i : Int64) : valueOf .int (Value.int i).wireText = .ok (.int i) := by
  rw [valueOf, Value.toList_wireText_int, Text.trimChars_eq_self (Text.hasNoBlank_decimalInt _)]
  simp only [Whole.readInt64_decimalInt]
  rfl

lemma valueOf_decimal (d : Decimal) :
    valueOf .decimal d.text = .ok (.decimal d.withoutZeroSign) := by
  rw [valueOf, Decimal.text, String.toList_ofList, Text.trimChars_eq_self d.hasNoBlank_toChars]
  simp only [Decimal.read_toChars]
  rfl

lemma valueOf_uuid (u : Uuid) : valueOf .uuid u.text = .ok (.uuid u) := by
  rw [valueOf, Uuid.trimChars_text]
  simp only [String.ofList_toList, Uuid.read_text]
  rfl

/-- A text stands for bytes exactly if it is, blanks around it apart, what they are written as. -/
lemma valueOf_binary_eq_ok_iff {text : String} {v : Value} :
    valueOf .binary text = .ok v ↔ ∃ b, v = .bytes b ∧ Text.trim text = Base64.encode b := by
  have hvalue : valueOf .binary text =
      Value.bytes <$> (Base64.decode (Text.trim text)).mapError .bytes := rfl
  simp only [hvalue, Result.map_eq_ok_iff, Result.mapError_eq_ok_iff, Base64.decode_eq_ok_iff]
  exact ⟨fun ⟨b, htext, hv⟩ => ⟨b, hv.symm, htext⟩, fun ⟨b, hv, htext⟩ => ⟨b, htext, hv.symm⟩⟩

lemma valueOf_binary (b : List UInt8) : valueOf .binary (Base64.encode b) = .ok (.bytes b) := by
  refine valueOf_binary_eq_ok_iff.2 ⟨b, rfl, ?_⟩
  rw [Text.trim, Base64.encode, String.toList_ofList,
    Text.trimChars_eq_self (Base64.hasNoBlank_encodeChars b)]

lemma valueOf_date (d : Date) : valueOf .date d.text = .ok (.date d) := by
  rw [valueOf, Date.text, String.toList_ofList,
    Text.trimChars_eq_self (Calendar.hasNoBlank_toChars d)]
  simp only [Calendar.readDate_toChars]
  rfl

lemma exists_valueOf_wireText {kind : FieldKind} (hkind : kind.isLossless) {v : Value}
    (hv : kind.admits v) : ∃ w, valueOf kind v.wireText = .ok w ∧ w.equal v := by
  cases kind <;> cases hkind <;> cases v <;> cases hv
  case bool b => exact ⟨.bool b, by cases b <;> rfl, by simp [Value.equal]⟩
  case int i => exact ⟨.int i, valueOf_int i, by simp [Value.equal]⟩
  case decimal d => exact ⟨_, valueOf_decimal d, d.equal_withoutZeroSign⟩
  case uuid u => exact ⟨.uuid u, valueOf_uuid u, by simp [Value.equal]⟩
  case binary b => exact ⟨.bytes b, valueOf_binary b, by simp [Value.equal]⟩
  case date d => exact ⟨.date d, valueOf_date d, by simp [Value.equal]⟩

lemma exists_coerce_of_isWrittenAs {t : FieldType} {v : Value} {text : String}
    (hkind : t.kind.isLossless) (hv : t.kind.admits v) (htext : v.IsWrittenAs text) :
    ∃ w, coerce t (some text) = .ok w ∧ w.equal v := by
  obtain ⟨before, after, hbefore, hafter, rfl⟩ := htext
  obtain ⟨w, hw, hequal⟩ := exists_valueOf_wireText hkind hv
  have hne : t.kind ≠ .text := by
    intro h
    rw [h] at hkind
    cases hkind
  exact ⟨w, coerce_some_eq_ok_iff.2 ((valueOf_surrounded hne hbefore hafter _).trans hw), hequal⟩

/-- A filter for equality with a literal that becomes a value equal to that of a field finds the
entity. -/
lemma finds_of_equal {E : Type} {s : Schema E} {property text : String} {f : FieldRef} {e : E}
    (hf : s.resolve property = .ok f) {v : Value} (hv : coerce (s.typeOf f) (some text) = .ok v)
    (he : (s.typeOf f).kind.admits (s.read e f)) (hequal : v.equal (s.read e f)) :
    (Comparison.equal.filter property (some text)).Finds s e := by
  have hadmits := admits_of_valueOf (coerce_some_eq_ok_iff.1 hv)
  refine (Comparison.finds_filter_iff hf).2 ⟨fun h => (by cases h), v, hv, ?_⟩
  rw [Value.equal_comm, Value.equal_iff he hadmits] at hequal
  rw [Comparison.test_of_compare? (FieldKind.isNull_of_admits he)
    (FieldKind.isNull_of_admits hadmits) hequal.1]
  rfl

/-- **Values come back from their texts.** What a boolean, an integer, a decimal, an identifier,
bytes or a date is written as, with blanks around it or not, is accepted by every type of its kind
and becomes an equal value; so a filter for equality with what a field of an entity is written as
has a predicate and finds this entity. And a text is accepted as bytes exactly if it is, blanks
around it apart, what these bytes are written as. -/
theorem returns_wireText :
    (∀ (t : FieldType) (v : Value) (text : String), t.kind.isLossless → t.kind.admits v →
      v.IsWrittenAs text → ∃ w, coerce t (some text) = .ok w ∧ w.equal v) ∧
    (∀ (E : Type) (s : Schema E) (property text : String) (f : FieldRef) (e : E),
      s.resolve property = .ok f → (s.typeOf f).kind.isLossless →
      (s.typeOf f).kind.admits (s.read e f) → (s.read e f).IsWrittenAs text →
      (Comparison.equal.filter property (some text)).Finds s e) ∧
    ∀ (t : FieldType) (text : String) (v : Value), t.kind = .binary →
      (coerce t (some text) = .ok v ↔ ∃ b, v = .bytes b ∧ Text.trim text = Base64.encode b) := by
  refine ⟨fun t v text hkind hv htext => exists_coerce_of_isWrittenAs hkind hv htext,
    fun E s property text f e hf hkind he htext => ?_, fun t text v hkind => ?_⟩
  · obtain ⟨v, hv, hequal⟩ := exists_coerce_of_isWrittenAs hkind he htext
    exact finds_of_equal hf hv he hequal
  · rw [coerce_some_eq_ok_iff, hkind, valueOf_binary_eq_ok_iff]

/-- A date before the common era comes back, a task is found by its cost, and one byte needs two
symbols and two signs of padding. -/
theorem returns_of_ides :
    let ides : Date := ⟨-43, 3, 15, by decide⟩
    let s : Schema Slots := ⟨"Task", Samples.task.draft.fields, [], [], none⟩
    let refund : Decimal := ⟨true, 50, 2, by decide, by decide⟩
    let e : Slots :=
      ⟨.fresh Uuid.nil Instant.epoch, [.text "dig", .null, .null, .decimal refund, .null,
        .bool false], [], none⟩
    (Value.date ides).IsWrittenAs "\t-0043-03-15 " ∧
      (∃ w, coerce (.optional .date) (some "\t-0043-03-15 ") = .ok w ∧ w.equal (.date ides)) ∧
      (s.read e ⟨8, "Cost"⟩).IsWrittenAs "-0.50" ∧
      (Comparison.equal.filter "cost" (some "-0.50")).Finds s e ∧
      coerce (.required .binary) (some " AQ== ") = .ok (.bytes [1]) := by
  intro ides s refund e
  have hides : (Value.date ides).IsWrittenAs "\t-0043-03-15 " :=
    ⟨['\t'], [' '], by decide, by decide, by decide +kernel⟩
  have hrefund : (s.read e ⟨8, "Cost"⟩).IsWrittenAs "-0.50" :=
    ⟨[], [], by decide, by decide, by decide +kernel⟩
  obtain ⟨hvalues, hfilters, hbytes⟩ := returns_wireText
  refine ⟨hides, hvalues (.optional .date) _ _ rfl rfl hides, hrefund,
    hfilters _ s "cost" _ ⟨8, "Cost"⟩ e rfl rfl rfl hrefund, ?_⟩
  exact (hbytes _ _ _ rfl).2 ⟨[1], rfl, by decide +kernel⟩

end Literal

end EntityQuery
