import EntityQuery.Proofs.Results
import EntityQuery.Proofs.Text.Blanks
import EntityQuery.Proofs.Text.Utf8
import EntityQuery.Text.Base64

/-!
Bytes and their texts. Four symbols of six bits are three bytes, and three bytes are four symbols;
the last group is filled up with padding, and what no byte uses is zero in it. So a text is read as
bytes exactly if it is what these bytes are written as. Main statement: `decode_eq_ok_iff`.
-/

namespace EntityQuery.Base64

/-! ### Symbols -/

/-- The byte of the symbol of a number. -/
def symbolByte (n : ℕ) : UInt8 := UInt8.ofNat (symbol n).toNat

lemma bytes_symbol {n : ℕ} (h : n < 64) (cs : List Char) :
    Text.bytes (symbol n :: cs) = symbolByte n :: Text.bytes cs := by
  have hsymbol : ∀ n < 64, String.utf8EncodeChar (symbol n) = [symbolByte n] := by decide
  rw [Text.bytes_cons, hsymbol n h]
  rfl

lemma symbolByte_ne_pad {n : ℕ} (h : n < 64) : symbolByte n ≠ pad := by
  revert n
  decide

lemma isBlank_symbol (n : ℕ) : Text.isBlank (symbol n) = false := by
  by_cases h : n < 64
  · revert n
    decide
  · rw [symbol, if_neg (by omega), if_neg (by omega), if_neg (by omega), if_neg (by omega)]
    rfl

lemma index?_eq_some_iff {b : UInt8} {n : ℕ} : index? b = some n ↔ n < 64 ∧ b = symbolByte n := by
  have hindex : ∀ k < 256, ∀ n ∈ index? (UInt8.ofNat k), n < 64 ∧ UInt8.ofNat k = symbolByte n := by
    decide +kernel
  have hsymbol : ∀ n < 64, index? (symbolByte n) = some n := by decide
  constructor
  · intro h
    have hb := hindex b.toNat b.toNat_lt n
    rw [UInt8.ofNat_toNat] at hb
    exact hb h
  · rintro ⟨hn, rfl⟩
    exact hsymbol n hn

lemma indexAt_eq_ok_iff {offset : ℕ} {b : UInt8} {n : ℕ} :
    indexAt offset b = .ok n ↔ n < 64 ∧ b = symbolByte n := by
  rw [← index?_eq_some_iff, indexAt]
  cases index? b <;> simp

/-! ### Groups -/

/-- The four numbers of six bits that three bytes are. -/
def sextets (a b c : UInt8) : List ℕ :=
  [a.toNat / 4, a.toNat % 4 * 16 + b.toNat / 16, b.toNat % 16 * 4 + c.toNat / 64, c.toNat % 64]

lemma lt_of_mem_sextets {a b c : UInt8} {n : ℕ} (h : n ∈ sextets a b c) : n < 64 := by
  have ha := a.toNat_lt
  have hb := b.toNat_lt
  have hc := c.toNat_lt
  simp only [sextets, List.mem_cons, List.not_mem_nil, or_false] at h
  omega

lemma sextets_eq_iff {a b c : UInt8} {k l m n : ℕ} (hk : k < 64) (hl : l < 64) (hm : m < 64)
    (hn : n < 64) :
    sextets a b c = [k, l, m, n] ↔
      a = UInt8.ofNat (k * 4 + l / 16) ∧ b = UInt8.ofNat (l % 16 * 16 + m / 4) ∧
        c = UInt8.ofNat (m % 4 * 64 + n) := by
  have ha := a.toNat_lt
  have hb := b.toNat_lt
  have hc := c.toNat_lt
  simp only [sextets, List.cons.injEq, and_true, ← UInt8.toNat_inj, UInt8.toNat_ofNat']
  omega

lemma eq_of_sextets (a b c : UInt8) :
    a = UInt8.ofNat (a.toNat / 4 * 4 + (a.toNat % 4 * 16 + b.toNat / 16) / 16) ∧
      b = UInt8.ofNat ((a.toNat % 4 * 16 + b.toNat / 16) % 16 * 16 +
        (b.toNat % 16 * 4 + c.toNat / 64) / 4) ∧
      c = UInt8.ofNat ((b.toNat % 16 * 4 + c.toNat / 64) % 4 * 64 + c.toNat % 64) := by
  have ha := a.toNat_lt
  have hb := b.toNat_lt
  have hc := c.toNat_lt
  exact (sextets_eq_iff (by omega) (by omega) (by omega) (by omega)).1 rfl

lemma bytes_symbols (ns : List ℕ) (h : ∀ n ∈ ns, n < 64) (cs : List Char) :
    Text.bytes (ns.map symbol ++ cs) = ns.map symbolByte ++ Text.bytes cs := by
  induction ns with
  | nil => rfl
  | cons n ns ih =>
    rw [List.forall_mem_cons] at h
    rw [List.map_cons, List.cons_append, bytes_symbol h.1, ih h.2]
    rfl

lemma bytes_encodeChars_triple (a b c : UInt8) (rest : List UInt8) :
    Text.bytes (encodeChars (a :: b :: c :: rest)) =
      (sextets a b c).map symbolByte ++ Text.bytes (encodeChars rest) :=
  bytes_symbols _ (fun _ => lt_of_mem_sextets) _

/-- A byte that is missing counts as zero, and padding stands for what it would be written as. -/
lemma bytes_encodeChars_pair (a b : UInt8) :
    Text.bytes (encodeChars [a, b]) =
      ((sextets a b 0).take 3).map symbolByte ++ List.replicate 1 pad :=
  bytes_symbols ((sextets a b 0).take 3)
    (fun _ h => lt_of_mem_sextets (List.mem_of_mem_take h)) ['=']

lemma bytes_encodeChars_single (a : UInt8) :
    Text.bytes (encodeChars [a]) =
      ((sextets a 0 0).take 2).map symbolByte ++ List.replicate 2 pad :=
  bytes_symbols ((sextets a 0 0).take 2)
    (fun _ h => lt_of_mem_sextets (List.mem_of_mem_take h)) ['=', '=']

lemma length_bytes_encodeChars (out : List UInt8) :
    (Text.bytes (encodeChars out)).length = 4 * ((out.length + 2) / 3) := by
  induction out using encodeChars.induct with
  | case1 => rfl
  | case2 a => simp [bytes_encodeChars_single, sextets]
  | case3 a b => simp [bytes_encodeChars_pair, sextets]
  | case4 a b c rest ih =>
    rw [bytes_encodeChars_triple, List.length_append, ih]
    simp only [sextets, List.length_map, List.length_cons, List.length_nil]
    omega

/-! ### The last group -/

/-- The last group is made of symbols and the padding after them, which starts at the third place at
the earliest; no symbol stands after padding. -/
lemma of_lastSymbols {start place : ℕ} {firstPad : Option ℕ} {group : List UInt8} {ns : List ℕ}
    {k : ℕ} (h : lastSymbols start place firstPad group = .ok (ns, k)) :
    group = ns.map symbolByte ++ List.replicate k pad ∧ (∀ n ∈ ns, n < 64) ∧
      (k = 0 ∨ 2 ≤ place + ns.length) ∧ (firstPad.isSome → ns = []) := by
  induction group generalizing place firstPad ns k with
  | nil =>
    cases h
    simp
  | cons b rest ih =>
    unfold lastSymbols at h
    split at h
    · rename_i hpad
      split at h
      · cases h
      · obtain ⟨⟨ns', k'⟩, hrest, hout⟩ := Result.bind_eq_ok_iff.1 h
        cases hout
        obtain ⟨rfl, -, -, hns⟩ := ih hrest
        obtain rfl := hns (by cases firstPad <;> rfl)
        exact ⟨by rw [hpad]; rfl, by simp, by omega, fun _ => rfl⟩
    · split at h
      · cases h
      · obtain ⟨n, hn, h⟩ := Result.bind_eq_ok_iff.1 h
        obtain ⟨⟨ns', k'⟩, hrest, hout⟩ := Result.bind_eq_ok_iff.1 h
        cases hout
        obtain ⟨hlt, rfl⟩ := indexAt_eq_ok_iff.1 hn
        obtain ⟨rfl, hall, hroom, -⟩ := ih hrest
        refine ⟨rfl, List.forall_mem_cons.2 ⟨hlt, hall⟩, ?_, fun hsome => by cases hsome⟩
        rw [List.length_cons]
        omega

lemma eq_encode_of_decodeLast {start : ℕ} {group out : List UInt8} (hlength : group.length ≤ 4)
    (h : decodeLast start group = .ok out) : group = Text.bytes (encodeChars out) := by
  obtain ⟨⟨ns, k⟩, hsymbols, h⟩ := Result.bind_eq_ok_iff.1 h
  obtain ⟨rfl, hlt, hroom, -⟩ := of_lastSymbols hsymbols
  rw [List.length_append, List.length_map, List.length_replicate] at hlength
  have hzero : 0 < 64 := by decide
  rcases ns with _ | ⟨l, _ | ⟨m, _ | ⟨n, _ | ⟨o, rest⟩⟩⟩⟩ <;>
    simp only [List.length_cons, List.length_nil, List.forall_mem_cons] at hlength hroom hlt
  · cases h
    obtain rfl : k = 0 := by omega
    rfl
  · cases h
  -- the low bits of the last symbol are zero, as they are where the byte they belong to is zero
  · dsimp only at h
    split_ifs at h with hpads hlow
    cases h
    obtain rfl : k = 2 := by omega
    have hmissing : (0 : UInt8) = UInt8.ofNat (m % 16 * 16 + 0 / 4) := by
      rw [show m % 16 = 0 by omega]
      rfl
    rw [bytes_encodeChars_single,
      (sextets_eq_iff (c := 0) hlt.1 hlt.2.1 hzero hzero).2 ⟨rfl, hmissing, rfl⟩]
    rfl
  · dsimp only at h
    split_ifs at h with hpads hlow
    cases h
    obtain rfl : k = 1 := by omega
    have hmissing : (0 : UInt8) = UInt8.ofNat (n % 4 * 64 + 0) := by
      rw [show n % 4 = 0 by omega]
      rfl
    rw [bytes_encodeChars_pair,
      (sextets_eq_iff hlt.1 hlt.2.1 hlt.2.2.1 hzero).2 ⟨rfl, rfl, hmissing⟩]
    rfl
  · cases h
    obtain rfl : k = 0 := by omega
    obtain rfl : rest = [] := List.eq_nil_of_length_eq_zero (by omega)
    rw [bytes_encodeChars_triple,
      (sextets_eq_iff hlt.1 hlt.2.1 hlt.2.2.1 hlt.2.2.2.1).2 ⟨rfl, rfl, rfl⟩]
    rfl

lemma lastSymbols_pads {start place : ℕ} {firstPad : Option ℕ} {k : ℕ} (h : k = 0 ∨ 2 ≤ place) :
    lastSymbols start place firstPad (List.replicate k pad) = .ok ([], k) := by
  induction k generalizing place firstPad with
  | zero => rfl
  | succ k ih =>
    unfold lastSymbols
    rw [List.replicate_succ]
    simp only [if_pos, if_neg (by omega : ¬place < 2), ih (by omega : k = 0 ∨ 2 ≤ place + 1)]
    rfl

lemma lastSymbols_symbols {start place : ℕ} {ns : List ℕ} (hlt : ∀ n ∈ ns, n < 64) {k : ℕ}
    (h : k = 0 ∨ 2 ≤ place + ns.length) :
    lastSymbols start place none (ns.map symbolByte ++ List.replicate k pad) = .ok (ns, k) := by
  induction ns generalizing place with
  | nil => exact lastSymbols_pads (by simpa using h)
  | cons n ns ih =>
    rw [List.forall_mem_cons] at hlt
    rw [List.length_cons] at h
    rw [List.map_cons, List.cons_append, lastSymbols, if_neg (symbolByte_ne_pad hlt.1),
      indexAt_eq_ok_iff.2 ⟨hlt.1, rfl⟩]
    simp only [bind, Except.bind, ih hlt.2 (by omega : k = 0 ∨ 2 ≤ place + 1 + ns.length)]

lemma decodeLast_encode {start : ℕ} {out : List UInt8} (hlength : out.length ≤ 3) :
    decodeLast start (Text.bytes (encodeChars out)) = .ok out := by
  rcases out with _ | ⟨a, _ | ⟨b, _ | ⟨c, _ | ⟨d, rest⟩⟩⟩⟩
  · rfl
  · obtain ⟨hfirst, -⟩ := eq_of_sextets a 0 0
    rw [bytes_encodeChars_single]
    refine Result.bind_eq_ok_iff.2 ⟨_, lastSymbols_symbols (fun n hn =>
      lt_of_mem_sextets (List.mem_of_mem_take hn)) (by simp [sextets]), ?_⟩
    show (if (2 + 2) % 4 ≠ 0 then _ else if (a.toNat % 4 * 16 + 0 / 16) % 16 ≠ 0 then _ else _) = _
    rw [if_neg (by decide), if_neg (by omega), ← hfirst]
  · obtain ⟨hfirst, hsecond, -⟩ := eq_of_sextets a b 0
    rw [bytes_encodeChars_pair]
    refine Result.bind_eq_ok_iff.2 ⟨_, lastSymbols_symbols (fun n hn =>
      lt_of_mem_sextets (List.mem_of_mem_take hn)) (by simp [sextets]), ?_⟩
    show (if (3 + 1) % 4 ≠ 0 then _ else if (b.toNat % 16 * 4 + 0 / 64) % 4 ≠ 0 then _ else _) = _
    rw [if_neg (by decide), if_neg (by omega), ← hfirst, ← hsecond]
  · obtain ⟨hfirst, hsecond, hthird⟩ := eq_of_sextets a b c
    rw [bytes_encodeChars_triple]
    refine Result.bind_eq_ok_iff.2 ⟨_, lastSymbols_symbols (k := 0) (fun n hn =>
      lt_of_mem_sextets hn) (.inl rfl), ?_⟩
    show Except.ok _ = _
    rw [← hfirst, ← hsecond, ← hthird]
  · simp only [List.length_cons] at hlength
    omega

/-! ### Texts -/

lemma decodeFrom_group {start : ℕ} {a b c : UInt8} {rest out : List UInt8} (hrest : rest ≠ [])
    (h : decodeFrom (start + 4) rest = .ok out) :
    decodeFrom start ((sextets a b c).map symbolByte ++ rest) = .ok (a :: b :: c :: out) := by
  obtain ⟨e, rest, rfl⟩ := List.exists_cons_of_ne_nil hrest
  obtain ⟨hfirst, hsecond, hthird⟩ := eq_of_sextets a b c
  have hread {offset n : ℕ} (hn : n ∈ sextets a b c) : indexAt offset (symbolByte n) = .ok n :=
    indexAt_eq_ok_iff.2 ⟨lt_of_mem_sextets hn, rfl⟩
  show decodeFrom start (_ :: _ :: _ :: _ :: e :: rest) = _
  rw [decodeFrom]
  refine Result.bind_eq_ok_iff.2 ⟨_, hread (by simp [sextets]), ?_⟩
  refine Result.bind_eq_ok_iff.2 ⟨_, hread (by simp [sextets]), ?_⟩
  refine Result.bind_eq_ok_iff.2 ⟨_, hread (by simp [sextets]), ?_⟩
  refine Result.bind_eq_ok_iff.2 ⟨_, hread (by simp [sextets]), ?_⟩
  refine Result.bind_eq_ok_iff.2 ⟨_, h, ?_⟩
  rw [← hfirst, ← hsecond, ← hthird]

/-- Bytes of a text are read as bytes exactly if they are written so. -/
lemma decodeFrom_eq_ok_iff (start : ℕ) {bytes out : List UInt8} :
    decodeFrom start bytes = .ok out ↔ bytes = Text.bytes (encodeChars out) := by
  -- the induction is on the groups; only the last one may be filled up
  induction start, bytes using decodeFrom.induct generalizing out with
  | case1 start a b c d e rest ih =>
    constructor
    · intro h
      rw [decodeFrom] at h
      obtain ⟨k, hk, h⟩ := Result.bind_eq_ok_iff.1 h
      obtain ⟨l, hl, h⟩ := Result.bind_eq_ok_iff.1 h
      obtain ⟨m, hm, h⟩ := Result.bind_eq_ok_iff.1 h
      obtain ⟨n, hn, h⟩ := Result.bind_eq_ok_iff.1 h
      obtain ⟨more, hmore, h⟩ := Result.bind_eq_ok_iff.1 h
      cases h
      rw [indexAt_eq_ok_iff] at hk hl hm hn
      rw [bytes_encodeChars_triple, (sextets_eq_iff hk.1 hl.1 hm.1 hn.1).2 ⟨rfl, rfl, rfl⟩,
        ← ih.1 hmore, hk.2, hl.2, hm.2, hn.2]
      rfl
    · intro h
      have hlength := congrArg List.length h
      rw [length_bytes_encodeChars] at hlength
      rcases out with _ | ⟨x, _ | ⟨y, _ | ⟨z, more⟩⟩⟩
      case nil | cons.nil | cons.cons.nil =>
        simp only [List.length_cons, List.length_nil] at hlength
        omega
      rw [bytes_encodeChars_triple] at h
      simp only [sextets, List.map_cons, List.cons_append, List.map_nil, List.nil_append,
        List.cons.injEq] at h
      obtain ⟨rfl, rfl, rfl, rfl, hmore⟩ := h
      exact decodeFrom_group (List.cons_ne_nil _ _) (ih.2 hmore)
  | case2 start group hshort =>
    have hlength : group.length ≤ 4 := by
      by_contra hlong
      rcases group with _ | ⟨a, _ | ⟨b, _ | ⟨c, _ | ⟨d, _ | ⟨e, rest⟩⟩⟩⟩⟩
      case cons.cons.cons.cons.cons => exact hshort _ _ _ _ _ _ rfl
      all_goals simp at hlong
    rw [decodeFrom]
    · refine ⟨eq_encode_of_decodeLast hlength, ?_⟩
      rintro rfl
      rw [length_bytes_encodeChars] at hlength
      exact decodeLast_encode (by omega)
    · exact hshort

/-- **A text stands for the bytes that are written so**, and no other text does. -/
theorem decode_eq_ok_iff {text : String} {out : List UInt8} :
    decode text = .ok out ↔ text = encode out := by
  have hbytes : Text.bytes text.toList = Text.bytes (encodeChars out) ↔ text = encode out := by
    rw [Text.bytes_injective.eq_iff, encode, ← String.toList_inj, String.toList_ofList]
  rw [← hbytes, ← decodeFrom_eq_ok_iff 0, decode]
  split
  · rename_i b hlast
    split
    · rename_i hstranger
      refine iff_of_false (fun h => by cases h) fun h => ?_
      have hlength := congrArg List.length ((decodeFrom_eq_ok_iff 0).1 h)
      rw [length_bytes_encodeChars] at hlength
      omega
    · rfl
  · rename_i hlast
    rw [List.getLast?_eq_none_iff.1 hlast]
    rfl

lemma hasNoBlank_encodeChars (out : List UInt8) : Text.HasNoBlank (encodeChars out) := by
  have hpad : Text.isBlank '=' = false := rfl
  unfold Text.HasNoBlank
  induction out using encodeChars.induct with
  | case1 => simp [encodeChars]
  | case2 a => simp [encodeChars, isBlank_symbol, hpad]
  | case3 a b => simp [encodeChars, isBlank_symbol, hpad]
  | case4 a b c rest ih => simpa [encodeChars, isBlank_symbol] using ih

end EntityQuery.Base64
