import LuaStubs.Text.Utf8

/-! Reading UTF-8 undoes writing it, and accepts nothing else. -/
namespace LuaStubs.Text.Utf8

/-! ## One character -/

/-- Every scalar value lies below the surrogates or between them and the last plane's end. -/
theorem toNat_cases (c : Char) : c.toNat < 0xD800 ∨ 0xDFFF < c.toNat ∧ c.toNat < 0x110000 := c.valid

theorem toNat_ofNat {n : Nat} (h : n < 0xD800 ∨ 0xDFFF < n ∧ n < 0x110000) :
    (Char.ofNat n).toNat = n := by
  rw [Char.ofNat, dif_pos h]
  rfl

theorem ofNat_of_toNat {c : Char} {n : Nat} (h : n = c.toNat) : Char.ofNat n = c := by
  rw [h, Char.ofNat_toNat]

theorem toNat_tail (n : Nat) : (tail n).toNat = 0x80 + n % 0x40 := by
  rw [tail, UInt8.toNat_ofNat']
  omega

theorem low_tail (n : Nat) : low (tail n) = n % 0x40 := by
  rw [low, toNat_tail]
  omega

theorem isTail_tail (n : Nat) : isTail (tail n) = true := by
  simp only [isTail, toNat_tail, Bool.and_eq_true, decide_eq_true_eq]
  omega

theorem isTail_iff {b : UInt8} : isTail b = true ↔ 0x80 ≤ b.toNat ∧ b.toNat < 0xC0 := by
  simp [isTail]

/-- A continuation byte is known by its low six bits. -/
theorem tail_eq {b : UInt8} {n : Nat} (hb : isTail b = true) (h : n % 0x40 = low b) :
    tail n = b := by
  rw [isTail_iff] at hb
  rw [low] at h
  apply UInt8.toNat_inj.mp
  rw [toNat_tail]
  omega

/-- What a second byte may be after the lead `a`. -/
theorem isSecond_iff {a b : UInt8} : isSecond a b = true ↔ isTail b = true ∧
    (a.toNat = 0xE0 → 0x20 ≤ low b) ∧ (a.toNat = 0xED → low b < 0x20) ∧
    (a.toNat = 0xF0 → 0x10 ≤ low b) ∧ (a.toNat = 0xF4 → low b < 0x10) := by
  have hb := b.toNat_lt
  unfold isSecond
  rw [isTail_iff, low]
  split
  · simp only [Bool.and_eq_true, decide_eq_true_eq]
    omega
  · split
    · simp only [Bool.and_eq_true, decide_eq_true_eq]
      omega
    · split
      · simp only [Bool.and_eq_true, decide_eq_true_eq]
        omega
      · split
        · simp only [Bool.and_eq_true, decide_eq_true_eq]
          omega
        · rw [isTail_iff]
          omega

theorem head_one {a : UInt8} (rest : List UInt8) (h : a.toNat < 0x80) :
    head a rest = .scalar (Char.ofNat a.toNat) 1 := by
  simp [head, h]

theorem head_two {a b : UInt8} (rest : List UInt8) (hlow : 0xC2 ≤ a.toNat) (hhigh : a.toNat < 0xE0)
    (hb : isTail b = true) :
    head a (b :: rest) = .scalar (Char.ofNat (a.toNat % 0x20 * 0x40 + low b)) 2 := by
  have h1 : ¬ a.toNat < 0x80 := by omega
  have h2 : ¬ a.toNat < 0xC2 := by omega
  simp [head, h1, h2, hhigh, hb]

theorem head_three {a b c : UInt8} (rest : List UInt8) (hlow : 0xE0 ≤ a.toNat)
    (hhigh : a.toNat < 0xF0) (hb : isSecond a b = true) (hc : isTail c = true) :
    head a (b :: c :: rest) =
      .scalar (Char.ofNat (a.toNat % 0x10 * 0x1000 + low b * 0x40 + low c)) 3 := by
  have h1 : ¬ a.toNat < 0x80 := by omega
  have h2 : ¬ a.toNat < 0xC2 := by omega
  have h3 : ¬ a.toNat < 0xE0 := by omega
  simp [head, h1, h2, h3, hhigh, hb, hc]

theorem head_four {a b c d : UInt8} (rest : List UInt8) (hlow : 0xF0 ≤ a.toNat)
    (hhigh : a.toNat < 0xF5) (hb : isSecond a b = true) (hc : isTail c = true)
    (hd : isTail d = true) :
    head a (b :: c :: d :: rest) =
      .scalar (Char.ofNat
        (a.toNat % 0x08 * 0x40000 + low b * 0x1000 + low c * 0x40 + low d)) 4 := by
  have h1 : ¬ a.toNat < 0x80 := by omega
  have h2 : ¬ a.toNat < 0xC2 := by omega
  have h3 : ¬ a.toNat < 0xE0 := by omega
  have h4 : ¬ a.toNat < 0xF0 := by omega
  simp [head, h1, h2, h3, h4, hhigh, hb, hc, hd]

theorem toNat_lead {n : Nat} (h : n < 256) : (UInt8.ofNat n).toNat = n :=
  UInt8.toNat_ofNat_of_lt' h

theorem encodeChar_ne_nil (c : Char) : encodeChar c ≠ [] := by
  unfold encodeChar
  dsimp only
  repeat' split
  all_goals simp

/-- What is written for a character is read as that character. -/
theorem head_encodeChar (c : Char) (rest : List UInt8) :
    ∃ a more, encodeChar c ++ rest = a :: more ∧ head a more = .scalar c (width c) := by
  have hc := toNat_cases c
  unfold width encodeChar
  by_cases h1 : c.toNat < 0x80
  · have ha := toNat_lead (n := c.toNat) (by omega)
    have hh := head_one (a := UInt8.ofNat c.toNat) rest (by omega)
    rw [ha, Char.ofNat_toNat] at hh
    simp only [h1, if_true]
    exact ⟨_, rest, rfl, hh⟩
  by_cases h2 : c.toNat < 0x800
  · have ha := toNat_lead (n := 0xC0 + c.toNat / 0x40) (by omega)
    have hh := head_two (a := UInt8.ofNat (0xC0 + c.toNat / 0x40)) rest (by omega) (by omega)
      (isTail_tail c.toNat)
    rw [ha, low_tail, ofNat_of_toNat (c := c) (by omega)] at hh
    simp only [h1, h2, if_true, if_false]
    exact ⟨_, _, rfl, hh⟩
  by_cases h3 : c.toNat < 0x10000
  · have ha := toNat_lead (n := 0xE0 + c.toNat / 0x1000) (by omega)
    have hb : isSecond (UInt8.ofNat (0xE0 + c.toNat / 0x1000)) (tail (c.toNat / 0x40)) = true := by
      rw [isSecond_iff, ha, low_tail]
      exact ⟨isTail_tail _, by omega⟩
    have hh := head_three rest (by omega) (by omega) hb (isTail_tail c.toNat)
    rw [ha, low_tail, low_tail, ofNat_of_toNat (c := c) (by omega)] at hh
    simp only [h1, h2, h3, if_true, if_false]
    exact ⟨_, _, rfl, hh⟩
  · have ha := toNat_lead (n := 0xF0 + c.toNat / 0x40000) (by omega)
    have hb : isSecond (UInt8.ofNat (0xF0 + c.toNat / 0x40000)) (tail (c.toNat / 0x1000)) = true := by
      rw [isSecond_iff, ha, low_tail]
      exact ⟨isTail_tail _, by omega⟩
    have hh := head_four rest (by omega) (by omega) hb (isTail_tail (c.toNat / 0x40))
      (isTail_tail c.toNat)
    rw [ha, low_tail, low_tail, low_tail, ofNat_of_toNat (c := c) (by omega)] at hh
    simp only [h1, h2, h3, if_false]
    exact ⟨_, _, rfl, hh⟩

theorem encodeChar_one {a : UInt8} (h : a.toNat < 0x80) : encodeChar (Char.ofNat a.toNat) = [a] := by
  simp only [encodeChar, toNat_ofNat (n := a.toNat) (by omega), h, if_true, UInt8.ofNat_toNat]

theorem encodeChar_two {a b : UInt8} (hlow : 0xC2 ≤ a.toNat) (hhigh : a.toNat < 0xE0)
    (hb : isTail b = true) :
    encodeChar (Char.ofNat (a.toNat % 0x20 * 0x40 + low b)) = [a, b] := by
  have hl : low b < 0x40 := Nat.mod_lt _ (by omega)
  have hn := toNat_ofNat (n := a.toNat % 0x20 * 0x40 + low b) (by omega)
  unfold encodeChar
  rw [hn, if_neg (by omega), if_pos (by omega), tail_eq hb (by omega)]
  congr 1
  apply UInt8.toNat_inj.mp
  rw [toNat_lead (by omega)]
  omega

theorem encodeChar_three {a b c : UInt8} (hlow : 0xE0 ≤ a.toNat) (hhigh : a.toNat < 0xF0)
    (hb : isSecond a b = true) (hc : isTail c = true) :
    encodeChar (Char.ofNat (a.toNat % 0x10 * 0x1000 + low b * 0x40 + low c)) = [a, b, c] := by
  obtain ⟨hb, h0, h1, -, -⟩ := isSecond_iff.mp hb
  have hlb : low b < 0x40 := Nat.mod_lt _ (by omega)
  have hlc : low c < 0x40 := Nat.mod_lt _ (by omega)
  have hn := toNat_ofNat (n := a.toNat % 0x10 * 0x1000 + low b * 0x40 + low c) (by omega)
  unfold encodeChar
  rw [hn, if_neg (by omega), if_neg (by omega), if_pos (by omega), tail_eq hb (by omega),
    tail_eq hc (by omega)]
  congr 1
  apply UInt8.toNat_inj.mp
  rw [toNat_lead (by omega)]
  omega

theorem encodeChar_four {a b c d : UInt8} (hlow : 0xF0 ≤ a.toNat) (hhigh : a.toNat < 0xF5)
    (hb : isSecond a b = true) (hc : isTail c = true) (hd : isTail d = true) :
    encodeChar (Char.ofNat
      (a.toNat % 0x08 * 0x40000 + low b * 0x1000 + low c * 0x40 + low d)) = [a, b, c, d] := by
  obtain ⟨hb, -, -, h2, h3⟩ := isSecond_iff.mp hb
  have hlb : low b < 0x40 := Nat.mod_lt _ (by omega)
  have hlc : low c < 0x40 := Nat.mod_lt _ (by omega)
  have hld : low d < 0x40 := Nat.mod_lt _ (by omega)
  have hn := toNat_ofNat
    (n := a.toNat % 0x08 * 0x40000 + low b * 0x1000 + low c * 0x40 + low d) (by omega)
  unfold encodeChar
  rw [hn, if_neg (by omega), if_neg (by omega), if_neg (by omega), tail_eq hb (by omega),
    tail_eq hc (by omega), tail_eq hd (by omega)]
  congr 1
  apply UInt8.toNat_inj.mp
  rw [toNat_lead (by omega)]
  omega

/-- What is read as a character is what is written for it. -/
theorem encodeChar_of_head {a : UInt8} {rest : List UInt8} {c : Char} {size : Nat}
    (h : head a rest = .scalar c size) :
    size = width c ∧ ∃ more, a :: rest = encodeChar c ++ more := by
  unfold width
  by_cases h1 : a.toNat < 0x80
  · rw [head_one rest h1] at h
    cases h
    rw [encodeChar_one h1]
    exact ⟨rfl, rest, rfl⟩
  by_cases h2 : a.toNat < 0xC2
  · simp [head, h1, h2] at h
  by_cases h3 : a.toNat < 0xE0
  · cases rest with
    | nil => simp [head, h1, h2, h3] at h
    | cons b rest =>
      by_cases hb : isTail b = true
      · rw [head_two rest (by omega) h3 hb] at h
        cases h
        rw [encodeChar_two (by omega) h3 hb]
        exact ⟨rfl, rest, rfl⟩
      · simp [head, h1, h2, h3, hb] at h
  by_cases h4 : a.toNat < 0xF0
  · rcases rest with _ | ⟨b, _ | ⟨c, rest⟩⟩
    · simp [head, h1, h2, h3, h4] at h
    · by_cases hb : isSecond a b = true <;> simp [head, h1, h2, h3, h4, hb] at h
    · by_cases hb : isSecond a b = true
      · by_cases hc : isTail c = true
        · rw [head_three rest (by omega) h4 hb hc] at h
          cases h
          rw [encodeChar_three (by omega) h4 hb hc]
          exact ⟨rfl, rest, rfl⟩
        · simp [head, h1, h2, h3, h4, hb, hc] at h
      · simp [head, h1, h2, h3, h4, hb] at h
  by_cases h5 : a.toNat < 0xF5
  · rcases rest with _ | ⟨b, _ | ⟨c, _ | ⟨d, rest⟩⟩⟩
    · simp [head, h1, h2, h3, h4, h5] at h
    · by_cases hb : isSecond a b = true <;> simp [head, h1, h2, h3, h4, h5, hb] at h
    · by_cases hb : isSecond a b = true <;> by_cases hc : isTail c = true <;>
        simp [head, h1, h2, h3, h4, h5, hb, hc] at h
    · by_cases hb : isSecond a b = true
      · by_cases hc : isTail c = true
        · by_cases hd : isTail d = true
          · rw [head_four rest (by omega) h5 hb hc hd] at h
            cases h
            rw [encodeChar_four (by omega) h5 hb hc hd]
            exact ⟨rfl, rest, rfl⟩
          · simp [head, h1, h2, h3, h4, h5, hb, hc, hd] at h
        · simp [head, h1, h2, h3, h4, h5, hb, hc] at h
      · simp [head, h1, h2, h3, h4, h5, hb] at h
  · simp [head, h1, h2, h3, h4, h5] at h

/-! ## Texts -/

@[simp] theorem encode_nil : encode [] = [] := rfl

@[simp] theorem encode_cons (c : Char) (cs : List Char) :
    encode (c :: cs) = encodeChar c ++ encode cs := rfl

theorem width_pos (c : Char) : 0 < width c := by
  obtain ⟨a, more, h, -⟩ := head_encodeChar c []
  have hlength := congrArg List.length h
  rw [List.append_nil, List.length_cons] at hlength
  rw [width]
  omega

/-- The bytes that belong to a character that has been read are passed over. -/
theorem decodeFrom_skip (index : Nat) (read : List Char) (passed bytes : List UInt8) :
    decodeFrom index passed.length read (passed ++ bytes) =
      decodeFrom (index + passed.length) 0 read bytes := by
  induction passed generalizing index with
  | nil => rfl
  | cons b bs ih =>
    rw [List.length_cons, List.cons_append, decodeFrom, ih, Nat.add_right_comm, Nat.add_assoc]

/-- One character is read. -/
theorem decodeFrom_encodeChar (index : Nat) (read : List Char) (c : Char) (bytes : List UInt8) :
    decodeFrom index 0 read (encodeChar c ++ bytes) =
      decodeFrom (index + width c) 0 (c :: read) bytes := by
  obtain ⟨a, more, heq, hhead⟩ := head_encodeChar c bytes
  have hne : encodeChar c ≠ [] := List.ne_nil_of_length_pos (width_pos c)
  obtain ⟨a', tails, hchar⟩ := List.exists_cons_of_ne_nil hne
  have hsplit := heq
  rw [hchar, List.cons_append, List.cons.injEq] at hsplit
  obtain ⟨rfl, rfl⟩ := hsplit
  have hwidth : width c = tails.length + 1 := by rw [width, hchar, List.length_cons]
  rw [heq, decodeFrom, hhead]
  simp only [hwidth, Nat.add_sub_cancel]
  rw [decodeFrom_skip]
  congr 1
  omega

theorem decodeFrom_encode (index : Nat) (read cs : List Char) :
    decodeFrom index 0 read (encode cs) = .ok (read.reverse ++ cs) := by
  induction cs generalizing index read with
  | nil => simp [decodeFrom]
  | cons c cs ih =>
    rw [encode_cons, decodeFrom_encodeChar, ih]
    simp

theorem decode_encode (cs : List Char) : decode (encode cs) = .ok cs := decodeFrom_encode 0 [] cs

theorem encode_of_decodeFrom (index : Nat) (read cs : List Char) (bytes : List UInt8)
    (h : decodeFrom index 0 read bytes = .ok cs) :
    ∃ ds, cs = read.reverse ++ ds ∧ bytes = encode ds := by
  -- the induction is on the bytes that are left: each character takes at least one
  induction hn : bytes.length using Nat.strongRecOn generalizing index read bytes with
  | ind n ih =>
    cases bytes with
    | nil =>
      rw [decodeFrom] at h
      exact ⟨[], by simpa using (Except.ok.inj h).symm, rfl⟩
    | cons a rest =>
      rw [decodeFrom] at h
      cases hh : head a rest with
      | invalid size => simp [hh] at h
      | truncated => simp [hh] at h
      | scalar c size =>
        obtain ⟨-, more, hmore⟩ := encodeChar_of_head hh
        have hread : decodeFrom index 0 read (a :: rest) = .ok cs := by rw [decodeFrom]; exact h
        rw [hmore, decodeFrom_encodeChar] at hread
        have hlength : more.length < n := by
          have hw := width_pos c
          rw [← hn, hmore, List.length_append, ← width]
          omega
        obtain ⟨ds, hcs, hds⟩ := ih more.length hlength _ _ more hread rfl
        exact ⟨c :: ds, by simp [hcs], by rw [hmore, hds, encode_cons]⟩

/-- The bytes that are read as a text are the bytes of that text. -/
theorem decode_eq_ok_iff {bytes : List UInt8} {cs : List Char} :
    decode bytes = .ok cs ↔ bytes = encode cs := by
  constructor
  · intro h
    obtain ⟨ds, hcs, hds⟩ := encode_of_decodeFrom 0 [] cs bytes h
    rw [hds, hcs]
    rfl
  · rintro rfl
    exact decode_encode cs

theorem encode_injective {cs ds : List Char} (h : encode cs = encode ds) : cs = ds := by
  have hdecode := decode_encode cs
  rw [h, decode_encode] at hdecode
  exact (Except.ok.inj hdecode).symm

theorem text_eq_ok_iff {bs : List UInt8} {s : String} : text bs = .ok s ↔ bs = bytes s := by
  unfold text bytes
  cases hd : decode bs with
  | error fault =>
    simp only [Except.map, reduceCtorEq, false_iff]
    intro h
    rw [h, decode_encode] at hd
    cases hd
  | ok cs =>
    rw [decode_eq_ok_iff] at hd
    subst hd
    constructor
    · intro h
      rw [← Except.ok.inj h, String.toList_ofList]
    · intro h
      rw [encode_injective h, Except.map, String.ofList_toList]

/-- These are the bytes in which texts are stored. -/
theorem encodeChar_eq (c : Char) : encodeChar c = String.utf8EncodeChar c := by
  have hc := toNat_cases c
  have hv : c.val.toNat = c.toNat := rfl
  unfold encodeChar String.utf8EncodeChar tail
  rw [hv]
  by_cases h1 : c.toNat < 0x80
  · simp only [h1, if_true, show c.toNat ≤ 0x7f by omega]
  by_cases h2 : c.toNat < 0x800
  · have ha : c.toNat / 64 % 0x20 + 0xc0 = 0xC0 + c.toNat / 0x40 := by omega
    simp only [h1, h2, if_true, if_false, show ¬ c.toNat ≤ 0x7f by omega,
      show c.toNat ≤ 0x7ff by omega, ha, Nat.add_comm 0x80]
  by_cases h3 : c.toNat < 0x10000
  · have ha : c.toNat / 4096 % 0x10 + 0xe0 = 0xE0 + c.toNat / 0x1000 := by omega
    simp only [h1, h2, h3, if_true, if_false, show ¬ c.toNat ≤ 0x7f by omega,
      show ¬ c.toNat ≤ 0x7ff by omega, show c.toNat ≤ 0xffff by omega, ha, Nat.add_comm 0x80]
  · have ha : c.toNat / 262144 % 0x08 + 0xf0 = 0xF0 + c.toNat / 0x40000 := by omega
    simp only [h1, h2, h3, if_false, show ¬ c.toNat ≤ 0x7f by omega,
      show ¬ c.toNat ≤ 0x7ff by omega, show ¬ c.toNat ≤ 0xffff by omega, ha, Nat.add_comm 0x80]

theorem bytes_eq_toUTF8 (s : String) : bytes s = s.toUTF8.data.toList := by
  have hbytes : s.toUTF8 = s.toList.utf8Encode := String.utf8Encode_toList.symm
  have hchars : encodeChar = String.utf8EncodeChar := funext encodeChar_eq
  rw [hbytes, bytes, encode, List.utf8Encode, hchars, List.data_toByteArray]

end LuaStubs.Text.Utf8
