import LuaStubs.Proofs.Text.Utf8
import Mathlib.Tactic.SplitIfs

/-! Texts have the order of their bytes. -/
namespace LuaStubs.Text.Utf8

theorem cons_lt_of_toNat_lt {a b : UInt8} (h : a.toNat < b.toNat) (xs ys : List UInt8) :
    a :: xs < b :: ys :=
  List.cons_lt_cons_iff.mpr (.inl (UInt8.lt_iff_toNat_lt.mpr h))

theorem cons_lt_of_lt (a : UInt8) {xs ys : List UInt8} (h : xs < ys) : a :: xs < a :: ys :=
  List.cons_lt_cons_iff.mpr (.inr ⟨rfl, h⟩)

/-- The last bytes of two characters that agree up to there. -/
theorem tail_lt {m n : Nat} (hlt : m < n) (h : m / 0x40 = n / 0x40) (xs ys : List UInt8) :
    tail m :: xs < tail n :: ys := by
  refine cons_lt_of_toNat_lt ?_ xs ys
  rw [toNat_tail, toNat_tail]
  omega

theorem tails_two_lt {m n : Nat} (hlt : m < n) (h : m / 0x1000 = n / 0x1000) (xs ys : List UInt8) :
    tail (m / 0x40) :: tail m :: xs < tail (n / 0x40) :: tail n :: ys := by
  by_cases hsame : m / 0x40 = n / 0x40
  · rw [hsame]
    exact cons_lt_of_lt _ (tail_lt hlt hsame xs ys)
  · exact tail_lt (by omega) (by omega) _ _

theorem tails_three_lt {m n : Nat} (hlt : m < n) (h : m / 0x40000 = n / 0x40000)
    (xs ys : List UInt8) :
    tail (m / 0x1000) :: tail (m / 0x40) :: tail m :: xs <
      tail (n / 0x1000) :: tail (n / 0x40) :: tail n :: ys := by
  by_cases hsame : m / 0x1000 = n / 0x1000
  · rw [hsame]
    exact cons_lt_of_lt _ (tails_two_lt hlt hsame xs ys)
  · exact tail_lt (by omega) (by omega) _ _

theorem lead_lt {m n : Nat} (hlt : m < n) (hn : n < 256) (xs ys : List UInt8) :
    UInt8.ofNat m :: xs < UInt8.ofNat n :: ys := by
  refine cons_lt_of_toNat_lt ?_ xs ys
  rwa [toNat_lead (by omega), toNat_lead hn]

/-- A smaller character comes first, whatever follows. -/
theorem encodeChar_append_lt {c d : Char} (h : c < d) (xs ys : List UInt8) :
    encodeChar c ++ xs < encodeChar d ++ ys := by
  have hlt : c.toNat < d.toNat := h
  have hd := toNat_cases d
  unfold encodeChar
  generalize c.toNat = m at hlt ⊢
  generalize d.toNat = n at hlt hd ⊢
  dsimp only
  -- The lead bytes settle the order unless they are equal; then the tails do.
  split_ifs
  all_goals try (exfalso; omega)
  · exact lead_lt hlt (by omega) _ _
  · exact lead_lt (by omega) (by omega) _ _
  · exact lead_lt (by omega) (by omega) _ _
  · exact lead_lt (by omega) (by omega) _ _
  · by_cases hsame : m / 0x40 = n / 0x40
    · rw [hsame]
      exact cons_lt_of_lt _ (tail_lt hlt hsame xs ys)
    · exact lead_lt (by omega) (by omega) _ _
  · exact lead_lt (by omega) (by omega) _ _
  · exact lead_lt (by omega) (by omega) _ _
  · by_cases hsame : m / 0x1000 = n / 0x1000
    · rw [hsame]
      exact cons_lt_of_lt _ (tails_two_lt hlt hsame xs ys)
    · exact lead_lt (by omega) (by omega) _ _
  · exact lead_lt (by omega) (by omega) _ _
  · by_cases hsame : m / 0x40000 = n / 0x40000
    · rw [hsame]
      exact cons_lt_of_lt _ (tails_three_lt hlt hsame xs ys)
    · exact lead_lt (by omega) (by omega) _ _

/-- Characters and bytes order texts in the same way. -/
theorem encode_lt {cs ds : List Char} (h : cs < ds) : encode cs < encode ds := by
  induction h with
  | @nil d ds =>
    rw [encode_nil, encode_cons]
    obtain ⟨b, bs, hb⟩ := List.exists_cons_of_ne_nil (encodeChar_ne_nil d)
    rw [hb]
    exact List.nil_lt_cons b _
  | @cons c cs ds h ih =>
    rw [encode_cons, encode_cons]
    exact List.append_left_lt ih
  | @rel c cs d ds h =>
    rw [encode_cons, encode_cons]
    exact encodeChar_append_lt h _ _

theorem le_of_bytes_lt {s t : String} (h : bytes s < bytes t) : s ≤ t :=
  String.not_lt.mp (fun hgt => List.lt_asymm h (encode_lt hgt))

end LuaStubs.Text.Utf8
