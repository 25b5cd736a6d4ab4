import LuaStubs.Encoding.Base64
import LuaStubs.Proofs.Results

/-! Base64 reads what it writes, and accepts nothing else: every list of bytes has one text. -/
namespace LuaStubs.Encoding.Base64

/-! ## Symbols -/

theorem value?_symbol : ∀ v < 64, value? (symbol v) = some v := by decide

theorem symbol_ne_pad : ∀ v < 64, symbol v ≠ pad := by decide

set_option maxRecDepth 2000 in
theorem value?_ofNat : ∀ n < 256,
    (value? (UInt8.ofNat n)).all (fun v => v < 64 ∧ UInt8.ofNat n = symbol v) = true := by
  decide

/-- A byte that stands for six bits is their symbol. -/
theorem eq_symbol_of_value? {b : UInt8} {v : Nat} (h : value? b = some v) :
    v < 64 ∧ b = symbol v := by
  have hb := value?_ofNat b.toNat b.toNat_lt
  rw [UInt8.ofNat_toNat, h] at hb
  simpa using hb

theorem read_symbol (offset : Nat) {v : Nat} (h : v < 64) : read offset (symbol v) = .ok v := by
  simp only [read, value?_symbol v h]

theorem eq_symbol_of_read {offset v : Nat} {b : UInt8} (h : read offset b = .ok v) :
    v < 64 ∧ b = symbol v := by
  unfold read at h
  cases hb : value? b with
  | none => simp [hb] at h
  | some w =>
    rw [hb] at h
    cases h
    exact eq_symbol_of_value? hb

/-! ## Three bytes in four symbols -/

theorem ofNat_of_toNat {b : UInt8} {n : Nat} (h : n = b.toNat) : UInt8.ofNat n = b := by
  rw [h, UInt8.ofNat_toNat]

theorem toNat_ofNat {n : Nat} (h : n < 256) : (UInt8.ofNat n).toNat = n :=
  UInt8.toNat_ofNat_of_lt' h

/-- A full group is read back. -/
theorem group_symbols (offset : Nat) (a b c : UInt8) :
    group offset (symbol (a.toNat / 4)) (symbol (a.toNat % 4 * 16 + b.toNat / 16))
      (symbol (b.toNat % 16 * 4 + c.toNat / 64)) (symbol (c.toNat % 64)) = .ok [a, b, c] := by
  have ha := a.toNat_lt
  have hb := b.toNat_lt
  have hc := c.toNat_lt
  unfold group
  rw [read_symbol _ (by omega), read_symbol _ (by omega), read_symbol _ (by omega),
    read_symbol _ (by omega)]
  show Except.ok _ = _
  rw [ofNat_of_toNat (b := a) (by omega), ofNat_of_toNat (b := b) (by omega),
    ofNat_of_toNat (b := c) (by omega)]

/-- What a full group is read as is written as that group. -/
theorem encode_of_symbols {a b c d : Nat} (ha : a < 64) (hb : b < 64) (hc : c < 64) (hd : d < 64)
    (rest : List UInt8) :
    encode (UInt8.ofNat (a * 4 + b / 16) :: UInt8.ofNat (b % 16 * 16 + c / 4) ::
      UInt8.ofNat (c % 4 * 64 + d) :: rest) =
      symbol a :: symbol b :: symbol c :: symbol d :: encode rest := by
  have h1 : (a * 4 + b / 16) / 4 = a := by omega
  have h2 : (a * 4 + b / 16) % 4 * 16 + (b % 16 * 16 + c / 4) / 16 = b := by omega
  have h3 : (b % 16 * 16 + c / 4) % 16 * 4 + (c % 4 * 64 + d) / 64 = c := by omega
  have h4 : (c % 4 * 64 + d) % 64 = d := by omega
  rw [encode, toNat_ofNat (by omega), toNat_ofNat (by omega), toNat_ofNat (by omega), h1, h2, h3, h4]

theorem cons_eq_encode_of_group {offset : Nat} {a b c d : UInt8} {bytes : List UInt8}
    (h : group offset a b c d = .ok bytes) (more : List UInt8) :
    a :: b :: c :: d :: encode more = encode (bytes ++ more) := by
  unfold group at h
  obtain ⟨va, ha, h⟩ := bind_eq_ok.mp h
  obtain ⟨vb, hb, h⟩ := bind_eq_ok.mp h
  obtain ⟨vc, hc, h⟩ := bind_eq_ok.mp h
  obtain ⟨vd, hd, h⟩ := bind_eq_ok.mp h
  cases h
  obtain ⟨hva, rfl⟩ := eq_symbol_of_read ha
  obtain ⟨hvb, rfl⟩ := eq_symbol_of_read hb
  obtain ⟨hvc, rfl⟩ := eq_symbol_of_read hc
  obtain ⟨hvd, rfl⟩ := eq_symbol_of_read hd
  exact (encode_of_symbols hva hvb hvc hvd more).symm

/-! ## The last group -/

theorem lastGroup_symbol (offset i : Nat) {v : Nat} (h : v < 64) (rest : List UInt8) :
    lastGroup offset i 0 (symbol v :: rest) =
      (lastGroup offset (i + 1) 0 rest).map (fun r => ((symbol v, v) :: r.1, r.2)) := by
  rw [lastGroup, if_neg (symbol_ne_pad v h), if_neg (Nat.lt_irrefl 0), read_symbol _ h]
  cases lastGroup offset (i + 1) 0 rest <;> rfl

theorem lastGroup_pad (offset pads : Nat) {i : Nat} (h : 2 ≤ i) (rest : List UInt8) :
    lastGroup offset i pads (pad :: rest) = lastGroup offset (i + 1) (pads + 1) rest := by
  rw [lastGroup, if_pos rfl, if_neg (Nat.not_lt.mpr h)]

/-- The last group is its symbols and then its padding. -/
theorem eq_append_of_lastGroup {offset i pads total : Nat} {text : List UInt8}
    {values : List (UInt8 × Nat)} (h : lastGroup offset i pads text = .ok (values, total)) :
    text = values.map Prod.fst ++ List.replicate (total - pads) pad ∧ pads ≤ total ∧
      (0 < pads → values = []) ∧ ∀ b v, (b, v) ∈ values → v < 64 ∧ b = symbol v := by
  induction text generalizing i pads values with
  | nil =>
    cases h
    simp
  | cons b rest ih =>
    unfold lastGroup at h
    by_cases hb : b = pad
    · rw [if_pos hb] at h
      by_cases hi : i < 2
      · simp [hi] at h
      · rw [if_neg hi] at h
        obtain ⟨htext, hle, hnone, -⟩ := ih h
        have hvalues := hnone (Nat.succ_pos pads)
        have hcount : total - pads = total - (pads + 1) + 1 := by omega
        subst hvalues
        rw [hcount, List.replicate_succ, hb, htext]
        simp
        omega
    · rw [if_neg hb] at h
      by_cases hp : 0 < pads
      · simp [hp] at h
      · rw [if_neg hp] at h
        obtain ⟨v, hr, h⟩ := bind_eq_ok.mp h
        obtain ⟨⟨values', total'⟩, hg, h⟩ := bind_eq_ok.mp h
        cases h
        obtain ⟨htext, hle, -, hall⟩ := ih hg
        refine ⟨by rw [htext]; simp, hle, fun h => absurd h hp, ?_⟩
        intro c w hmem
        rcases List.mem_cons.mp hmem with hc | hmem
        · cases hc
          exact eq_symbol_of_read hr
        · exact hall c w hmem

/-- What the last group is read as is written as that group. -/
theorem eq_encode_of_closing {offset : Nat} {text bytes : List UInt8}
    (h : closing offset text = .ok bytes) : text = encode bytes := by
  unfold closing at h
  obtain ⟨⟨values, pads⟩, hg, h⟩ := bind_eq_ok.mp h
  obtain ⟨htext, -, -, hall⟩ := eq_append_of_lastGroup hg
  dsimp only at h
  split at h
  · cases h
    simpa [encode] using htext
  · next x a s b =>
    obtain ⟨ha, rfl⟩ := hall x a (by simp)
    obtain ⟨hb, rfl⟩ := hall s b (by simp)
    by_cases hlast : b % 16 = 0
    · rw [if_pos hlast] at h
      cases h
      have h1 : (a * 4 + b / 16) / 4 = a := by omega
      have h2 : (a * 4 + b / 16) % 4 * 16 = b := by omega
      rw [encode, toNat_ofNat (by omega), h1, h2, htext]
      rfl
    · rw [if_neg hlast] at h
      cases h
  · next x a y b s c =>
    obtain ⟨ha, rfl⟩ := hall x a (by simp)
    obtain ⟨hb, rfl⟩ := hall y b (by simp)
    obtain ⟨hc, rfl⟩ := hall s c (by simp)
    by_cases hlast : c % 4 = 0
    · rw [if_pos hlast] at h
      cases h
      have h1 : (a * 4 + b / 16) / 4 = a := by omega
      have h2 : (a * 4 + b / 16) % 4 * 16 + (b % 16 * 16 + c / 4) / 16 = b := by omega
      have h3 : (b % 16 * 16 + c / 4) % 16 * 4 = c := by omega
      rw [encode, toNat_ofNat (by omega), toNat_ofNat (by omega), h1, h2, h3, htext]
      rfl
    · rw [if_neg hlast] at h
      cases h
  · next w a x b y c z d =>
    obtain ⟨ha, rfl⟩ := hall w a (by simp)
    obtain ⟨hb, rfl⟩ := hall x b (by simp)
    obtain ⟨hc, rfl⟩ := hall y c (by simp)
    obtain ⟨hd, rfl⟩ := hall z d (by simp)
    cases h
    rw [encode_of_symbols ha hb hc hd, htext]
    rfl
  · cases h
  · cases h

/-- The last group of a text is read back. -/
theorem closing_one (offset : Nat) (a : UInt8) :
    closing offset (encode [a]) = .ok [a] := by
  have ha := a.toNat_lt
  unfold closing encode
  rw [lastGroup_symbol _ _ (by omega), lastGroup_symbol _ _ (by omega), lastGroup_pad _ _ (by omega),
    lastGroup_pad _ _ (by omega)]
  show (if a.toNat % 4 * 16 % 16 = 0 then Except.ok _ else _) = _
  rw [if_pos (by omega), ofNat_of_toNat (b := a) (by omega)]

theorem closing_two (offset : Nat) (a b : UInt8) :
    closing offset (encode [a, b]) = .ok [a, b] := by
  have ha := a.toNat_lt
  have hb := b.toNat_lt
  unfold closing encode
  rw [lastGroup_symbol _ _ (by omega), lastGroup_symbol _ _ (by omega),
    lastGroup_symbol _ _ (by omega), lastGroup_pad _ _ (by omega)]
  show (if b.toNat % 16 * 4 % 4 = 0 then Except.ok _ else _) = _
  rw [if_pos (by omega), ofNat_of_toNat (b := a) (by omega), ofNat_of_toNat (b := b) (by omega)]

theorem closing_three (offset : Nat) (a b c : UInt8) :
    closing offset (encode [a, b, c]) = .ok [a, b, c] := by
  have ha := a.toNat_lt
  have hb := b.toNat_lt
  have hc := c.toNat_lt
  unfold closing encode
  rw [lastGroup_symbol _ _ (by omega), lastGroup_symbol _ _ (by omega),
    lastGroup_symbol _ _ (by omega), lastGroup_symbol _ _ (by omega)]
  show Except.ok _ = _
  rw [ofNat_of_toNat (b := a) (by omega), ofNat_of_toNat (b := b) (by omega),
    ofNat_of_toNat (b := c) (by omega)]

/-! ## Texts -/

/-- Past the first group of a text comes the text of the remaining bytes. -/
theorem groups_cons (offset : Nat) (a b c d : UInt8) {rest : List UInt8} (h : rest ≠ []) :
    groups offset (a :: b :: c :: d :: rest) = (do
      let bytes ← group offset a b c d
      let more ← groups (offset + 4) rest
      return bytes ++ more) := by
  cases rest with
  | nil => exact absurd rfl h
  | cons e rest => rw [groups]

theorem encode_ne_nil {bytes : List UInt8} (h : bytes ≠ []) : encode bytes ≠ [] := by
  match bytes, h with
  | [_], _ => simp [encode]
  | [_, _], _ => simp [encode]
  | _ :: _ :: _ :: _, _ => simp [encode]

theorem groups_encode (offset : Nat) (bytes : List UInt8) :
    groups offset (encode bytes) = .ok bytes := by
  induction bytes using encode.induct generalizing offset with
  | case1 => rfl
  | case2 a => exact closing_one offset a
  | case3 a b => exact closing_two offset a b
  | case4 a b c rest ih =>
    by_cases h : rest = []
    · subst h
      exact closing_three offset a b c
    · rw [encode, groups_cons _ _ _ _ _ (encode_ne_nil h), group_symbols, ih]
      rfl

theorem eq_encode_of_groups {offset : Nat} {text bytes : List UInt8}
    (h : groups offset text = .ok bytes) : text = encode bytes := by
  induction offset, text using groups.induct generalizing bytes with
  | case1 offset a b c d e rest ih =>
    rw [groups] at h
    obtain ⟨front, hfront, h⟩ := bind_eq_ok.mp h
    obtain ⟨more, hmore, h⟩ := bind_eq_ok.mp h
    cases h
    rw [ih hmore]
    exact cons_eq_encode_of_group hfront more
  | case2 offset text hshort =>
    rw [groups] at h
    · exact eq_encode_of_closing h
    · exact hshort

theorem length_encode (bytes : List UInt8) : (encode bytes).length % 4 = 0 := by
  induction bytes using encode.induct with
  | case1 => rfl
  | case2 a => simp [encode]
  | case3 a b => simp [encode]
  | case4 a b c rest ih =>
    simp only [encode, List.length_cons]
    omega

/-- The texts that are read are those that are written. -/
theorem decode_eq_ok_iff {text bytes : List UInt8} : decode text = .ok bytes ↔ text = encode bytes := by
  unfold decode
  constructor
  · intro h
    split at h
    · split at h
      · cases h
      · exact eq_encode_of_groups h
    · exact eq_encode_of_groups h
  · rintro rfl
    rw [length_encode]
    exact groups_encode 0 bytes

theorem encode_injective {bytes bytes' : List UInt8} (h : encode bytes = encode bytes') :
    bytes = bytes' := by
  have hdecode := decode_eq_ok_iff.mpr h
  rw [decode_eq_ok_iff.mpr rfl] at hdecode
  exact Except.ok.inj hdecode

end LuaStubs.Encoding.Base64
