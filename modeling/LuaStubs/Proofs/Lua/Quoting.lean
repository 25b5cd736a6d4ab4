import LuaStubs.Lua.EnumBlock
import LuaStubs.Encoding.Percent
import LuaStubs.Json.Numeral
import LuaStubs.Proofs.Lua.Lines
import LuaStubs.Proofs.Text.Utf8

/-! The keys of an enum as Lua reads them: a key stands between quotes as it is, so that only a key
without quotes, backslashes and line ends is read back. -/
namespace LuaStubs.Lua

open Text

/-! ## Short strings -/

namespace ShortString

/-- The bytes of a number of 31 bits; UTF-8 goes up to six bytes here. -/
def longUtf8 (n : Nat) : List UInt8 :=
  if n < 0x80 then [UInt8.ofNat n]
  else if n < 0x800 then [UInt8.ofNat (0xC0 + n / 0x40), Utf8.tail n]
  else if n < 0x10000 then
    [UInt8.ofNat (0xE0 + n / 0x1000), Utf8.tail (n / 0x40), Utf8.tail n]
  else if n < 0x200000 then
    [UInt8.ofNat (0xF0 + n / 0x40000), Utf8.tail (n / 0x1000), Utf8.tail (n / 0x40), Utf8.tail n]
  else if n < 0x4000000 then
    [UInt8.ofNat (0xF8 + n / 0x1000000), Utf8.tail (n / 0x40000), Utf8.tail (n / 0x1000),
      Utf8.tail (n / 0x40), Utf8.tail n]
  else
    [UInt8.ofNat (0xFC + n / 0x40000000), Utf8.tail (n / 0x1000000), Utf8.tail (n / 0x40000),
      Utf8.tail (n / 0x1000), Utf8.tail (n / 0x40), Utf8.tail n]

def isSpace (c : Char) : Bool := c = ' ' || (9 ≤ c.toNat && c.toNat ≤ 13)

def isHex (c : Char) : Bool := (Encoding.Percent.digit? c).isSome

def isDecimal (c : Char) : Bool := (Json.Numeral.digit? c).isSome

/-- The number that digits spell. -/
def spelled (digit? : Char → Option Nat) (base : Nat) (digits : List Char) : Nat :=
  digits.foldl (fun n c => n * base + (digit? c).getD 0) 0

/-! Each escape gives the bytes that it denotes and what follows it. -/

/-- Two hexadecimal digits, behind `\x`. -/
def hexByte : List Char → Option (List UInt8 × List Char)
  | a :: b :: rest =>
    if isHex a && isHex b then
      some ([UInt8.ofNat (spelled Encoding.Percent.digit? 16 [a, b])], rest)
    else none
  | _ => none

/-- Hexadecimal digits in braces, behind `\u`. -/
def scalar : List Char → Option (List UInt8 × List Char)
  | '\x7b' :: cs =>
    let digits := cs.takeWhile isHex
    let n := spelled Encoding.Percent.digit? 16 digits
    match cs.dropWhile isHex with
    | '\x7d' :: rest => if digits = [] || 0x80000000 ≤ n then none else some (longUtf8 n, rest)
    | _ => none
  | _ => none

/-- Up to three decimal digits, for one byte. -/
def decimalByte (cs : List Char) : Option (List UInt8 × List Char) :=
  let digits := (cs.take 3).takeWhile isDecimal
  let n := spelled Json.Numeral.digit? 10 digits
  if digits = [] || 256 ≤ n then none else some ([UInt8.ofNat n], cs.drop digits.length)

/-- A line feed and a carriage return next to each other are one line end. -/
def lineEnd (other : Char) (cs : List Char) : List UInt8 × List Char :=
  ([10], if cs.head? = some other then cs.drop 1 else cs)

def letter? (c : Char) : Option UInt8 :=
  if c = 'a' then some 7
  else if c = 'b' then some 8
  else if c = 't' then some 9
  else if c = 'n' then some 10
  else if c = 'v' then some 11
  else if c = 'f' then some 12
  else if c = 'r' then some 13
  else if c = '"' then some 34
  else if c = '\'' then some 39
  else if c = '\\' then some 92
  else none

/-- What stands behind a backslash. -/
def escape : List Char → Option (List UInt8 × List Char)
  | [] => none
  | c :: cs =>
    if c = 'z' then some ([], cs.dropWhile isSpace)
    else if c = 'x' then hexByte cs
    else if c = 'u' then scalar cs
    else if c = '\n' then some (lineEnd '\r' cs)
    else if c = '\r' then some (lineEnd '\n' cs)
    else
      match letter? c with
      | some b => some ([b], cs)
      | none => decimalByte (c :: cs)

/-- The text goes on with `rest` behind at least one character, and with no fewer characters than
there are bytes. -/
def Takes (cs : List Char) (bytes : List UInt8) (rest : List Char) : Prop :=
  ∃ taken, taken ≠ [] ∧ cs = taken ++ rest ∧ bytes.length ≤ taken.length

theorem Takes.cons {cs rest : List Char} {bytes : List UInt8} (h : Takes cs bytes rest) (c : Char) :
    Takes (c :: cs) bytes rest := by
  obtain ⟨taken, -, rfl, hlength⟩ := h
  exact ⟨c :: taken, List.cons_ne_nil c taken, rfl, hlength.trans (Nat.le_succ _)⟩

theorem takes_hexByte {cs rest : List Char} {bytes : List UInt8}
    (h : hexByte cs = some (bytes, rest)) : Takes cs bytes rest := by
  unfold hexByte at h
  split at h
  · next a b more =>
    split at h
    · cases h
      exact ⟨[a, b], List.cons_ne_nil a [b], rfl, by simp⟩
    · cases h
  · cases h

theorem digit_lt (c : Char) : (Encoding.Percent.digit? c).getD 0 < 16 := by
  unfold Encoding.Percent.digit?
  dsimp only
  split
  · rw [Option.getD_some]
    omega
  · split
    · rw [Option.getD_some]
      omega
    · split
      · rw [Option.getD_some]
        omega
      · decide

/-- Three digits are needed for more than two bytes. -/
theorem length_longUtf8 {digits : List Char} (h : digits ≠ []) :
    (longUtf8 (spelled Encoding.Percent.digit? 16 digits)).length ≤ digits.length + 3 := by
  have hsix (n : Nat) : (longUtf8 n).length ≤ 6 ∧ (n < 256 → (longUtf8 n).length ≤ 2) := by
    unfold longUtf8
    split_ifs <;> simp only [List.length_cons, List.length_nil] <;> omega
  match digits, h with
  | [a], _ =>
    have ha := digit_lt a
    have hlong := (hsix (spelled Encoding.Percent.digit? 16 [a])).2
      (by simp only [spelled, List.foldl_cons, List.foldl_nil]; omega)
    rw [List.length_singleton]
    omega
  | [a, b], _ =>
    have ha := digit_lt a
    have hb := digit_lt b
    have hlong := (hsix (spelled Encoding.Percent.digit? 16 [a, b])).2
      (by simp only [spelled, List.foldl_cons, List.foldl_nil]; omega)
    rw [List.length_cons, List.length_singleton]
    omega
  | a :: b :: c :: more, _ =>
    have hlong := (hsix (spelled Encoding.Percent.digit? 16 (a :: b :: c :: more))).1
    simp only [List.length_cons]
    omega

theorem takes_scalar {cs rest : List Char} {bytes : List UInt8}
    (h : scalar cs = some (bytes, rest)) (c : Char) : Takes (c :: cs) bytes rest := by
  unfold scalar at h
  split at h
  · next more =>
    dsimp only at h
    split at h
    · next after hafter =>
      split at h
      · cases h
      · next hdigits =>
        cases h
        have hne : more.takeWhile isHex ≠ [] := by
          intro hnil
          simp [hnil] at hdigits
        refine ⟨c :: '\x7b' :: more.takeWhile isHex ++ ['\x7d'], by simp, ?_, ?_⟩
        · rw [List.append_assoc, List.singleton_append, ← hafter, List.cons_append,
            List.cons_append, List.takeWhile_append_dropWhile]
        · have hlength := length_longUtf8 hne
          simp only [List.length_append, List.length_cons, List.length_nil]
          omega
    · cases h
  · cases h

theorem takes_decimalByte {cs rest : List Char} {bytes : List UInt8}
    (h : decimalByte cs = some (bytes, rest)) : Takes cs bytes rest := by
  unfold decimalByte at h
  dsimp only at h
  split at h
  · cases h
  · next hdigits =>
    cases h
    have hne : (cs.take 3).takeWhile isDecimal ≠ [] := by
      intro hnil
      simp [hnil] at hdigits
    have hprefix : (cs.take 3).takeWhile isDecimal <+: cs :=
      (List.takeWhile_prefix _).trans (List.take_prefix 3 cs)
    refine ⟨_, hne, ?_, List.length_pos_of_ne_nil hne⟩
    exact List.prefix_iff_eq_append.mp hprefix |>.symm

theorem takes_lineEnd (c other : Char) (cs : List Char) :
    Takes (c :: cs) (lineEnd other cs).1 (lineEnd other cs).2 := by
  unfold lineEnd
  split
  · next hhead =>
    obtain ⟨more, rfl⟩ := List.head?_eq_some_iff.mp hhead
    exact ⟨[c, other], List.cons_ne_nil c [other], rfl, by simp⟩
  · exact ⟨[c], List.cons_ne_nil c [], rfl, by simp⟩

/-- No escape denotes more bytes than it has characters behind the backslash. -/
theorem takes_escape {cs rest : List Char} {bytes : List UInt8}
    (h : escape cs = some (bytes, rest)) : Takes cs bytes rest := by
  unfold escape at h
  split at h
  · cases h
  · next c cs =>
    split_ifs at h
    · cases h
      refine ⟨c :: cs.takeWhile isSpace, List.cons_ne_nil _ _, ?_, Nat.zero_le _⟩
      rw [List.cons_append, List.takeWhile_append_dropWhile]
    · exact (takes_hexByte h).cons c
    · exact takes_scalar h c
    · cases h
      exact takes_lineEnd c '\r' cs
    · cases h
      exact takes_lineEnd c '\n' cs
    · split at h
      · cases h
        exact ⟨[c], List.cons_ne_nil c [], rfl, by simp⟩
      · exact takes_decimalByte h

theorem escape_shorter {cs rest : List Char} {bytes : List UInt8}
    (h : escape cs = some (bytes, rest)) : rest.length < cs.length := by
  obtain ⟨taken, hne, rfl, -⟩ := takes_escape h
  have hpos := List.length_pos_of_ne_nil hne
  rw [List.length_append]
  omega

/-- From behind the opening quote: the bytes up to the closing one, and what follows it. -/
def read : List Char → Option (List UInt8 × List Char)
  | [] => none
  | c :: cs =>
    if c = '"' then some ([], cs)
    else if c = '\n' || c = '\r' then none
    else if c = '\\' then
      match _h : escape cs with
      | none => none
      | some (bytes, rest) => (read rest).map (fun r => (bytes ++ r.1, r.2))
    else (read cs).map (fun r => (Utf8.encodeChar c ++ r.1, r.2))
termination_by cs => cs.length
decreasing_by
  · have hshorter := escape_shorter ‹_›
    rw [List.length_cons]
    omega
  · exact Nat.lt_succ_self _

/-- A string in double quotes, the first of them included. -/
def readQuoted : List Char → Option (List UInt8 × List Char)
  | '"' :: cs => read cs
  | _ => none

/-- A character that stands for itself. -/
def IsPlain (c : Char) : Prop := c ≠ '"' ∧ c ≠ '\\' ∧ c ≠ '\n' ∧ c ≠ '\r'

instance (c : Char) : Decidable (IsPlain c) := inferInstanceAs (Decidable (_ ∧ _ ∧ _ ∧ _))

theorem read_of_plain {c : Char} (hc : IsPlain c) (cs : List Char) :
    read (c :: cs) = (read cs).map (fun r => (Utf8.encodeChar c ++ r.1, r.2)) := by
  obtain ⟨hquote, hback, hfeed, hreturn⟩ := hc
  rw [read]
  simp [hquote, hback, hfeed, hreturn]

theorem read_quote (cs : List Char) : read ('"' :: cs) = some ([], cs) := by
  rw [read]
  rfl

theorem read_body {body : List Char} (h : ∀ c ∈ body, IsPlain c) (rest : List Char) :
    read (body ++ '"' :: rest) = some (Utf8.encode body, rest) := by
  induction body with
  | nil => exact read_quote rest
  | cons c body ih =>
    obtain ⟨hc, hbody⟩ := List.forall_mem_cons.mp h
    rw [List.cons_append, read_of_plain hc, ih hbody, Utf8.encode_cons]
    rfl

theorem length_le_encode (cs : List Char) : cs.length ≤ (Utf8.encode cs).length := by
  induction cs with
  | nil => exact Nat.le_refl 0
  | cons c cs ih =>
    have hpos := Utf8.width_pos c
    rw [Utf8.width] at hpos
    rw [Utf8.encode_cons, List.length_append, List.length_cons]
    omega

/-- What is read either stands for itself or denotes fewer bytes than it is written with. -/
theorem body_of_read {cs rest : List Char} {bytes : List UInt8} (h : read cs = some (bytes, rest)) :
    ∃ body, cs = body ++ '"' :: rest ∧
      ((∀ c ∈ body, IsPlain c) ∧ bytes = Utf8.encode body ∨
        bytes.length < (Utf8.encode body).length) := by
  fun_induction read cs generalizing bytes with
  | case1 => cases h
  | case2 cs =>
    cases h
    exact ⟨[], rfl, .inl ⟨by simp, rfl⟩⟩
  | case3 => cases h
  | case4 => cases h
  | case5 cs denoted after hescape _ _ ih =>
    obtain ⟨⟨more, left⟩, hread, heq⟩ := Option.map_eq_some_iff.mp h
    cases heq
    obtain ⟨taken, -, rfl, htaken⟩ := takes_escape hescape
    obtain ⟨body, rfl, hbody⟩ := ih hread
    have hmore : more.length ≤ (Utf8.encode body).length := by
      rcases hbody with ⟨-, rfl⟩ | hless
      · exact Nat.le_refl _
      · exact hless.le
    have hdenoted := htaken.trans (length_le_encode taken)
    have hback := Utf8.width_pos '\\'
    have hwritten : (Utf8.encode ('\\' :: taken ++ body)).length =
        Utf8.width '\\' + (Utf8.encode taken).length + (Utf8.encode body).length := by
      simp [Utf8.encode, Utf8.width, Nat.add_assoc]
    refine ⟨'\\' :: taken ++ body, by simp, .inr ?_⟩
    rw [hwritten, List.length_append]
    dsimp only
    omega
  | case6 c cs hquote hend hback ih =>
    obtain ⟨⟨more, left⟩, hread, heq⟩ := Option.map_eq_some_iff.mp h
    cases heq
    obtain ⟨body, rfl, hbody⟩ := ih hread
    refine ⟨c :: body, rfl, ?_⟩
    rcases hbody with ⟨hplain, rfl⟩ | hless
    · have hc : IsPlain c := by simpa [IsPlain, hquote, hback] using hend
      exact .inl ⟨List.forall_mem_cons.mpr ⟨hc, hplain⟩, rfl⟩
    · refine .inr ?_
      rw [Utf8.encode_cons, List.length_append, List.length_append]
      exact Nat.add_lt_add_left hless _

example : read "\\\"\\x41\\10\\z \\u\x7bE9\x7d\"]".toList = some ([34, 65, 10, 0xC3, 0xA9], [']']) := by
  cbv

/-- A text is read back from between quotes if and only if all its characters stand for themselves. -/
theorem read_eq_encode_iff {body rest : List Char} :
    read (body ++ '"' :: rest) = some (Utf8.encode body, rest) ↔ ∀ c ∈ body, IsPlain c := by
  refine ⟨fun h => ?_, fun h => read_body h rest⟩
  obtain ⟨body', heq, hbody⟩ := body_of_read h
  obtain rfl : body = body' := List.append_cancel_right heq
  rcases hbody with ⟨hplain, -⟩ | hless
  · exact hplain
  · exact absurd hless (Nat.lt_irrefl _)

end ShortString

/-! ## Keys of an enum -/

/-- The text of an enum up to the bracket of the entry behind `before`. -/
def textBefore (name : String) (before : List EnumValue) : String :=
  Block.text ([.blank, .tag "enum" name, .code (name ++ " = \x7b")] ++
    before.map (fun u => .code (entry u ++ ","))) ++ "\n    "

/-- The text of an enum from the closing bracket of the entry of `v` on. -/
def textBehind (v : EnumValue) (behind : List EnumValue) : String :=
  "] = " ++ v.literal ++ (if behind = [] then "" else ",") ++
    Block.text (entryLines behind ++ [.code "\x7d"])

theorem entryLines_cons (v : EnumValue) (vs : List EnumValue) :
    entryLines (v :: vs) = .code (entry v ++ if vs = [] then "" else ",") :: entryLines vs := by
  cases vs with
  | nil => rw [if_pos rfl, String.append_empty]; rfl
  | cons u us => rw [if_neg (List.cons_ne_nil u us)]; rfl

theorem entryLines_append (before : List EnumValue) (v : EnumValue) (behind : List EnumValue) :
    entryLines (before ++ v :: behind) =
      before.map (fun u => .code (entry u ++ ",")) ++ entryLines (v :: behind) := by
  induction before with
  | nil => rfl
  | cons u us ih =>
    rw [List.cons_append, entryLines_cons, if_neg (by simp), ih]
    rfl

theorem enumText_append_cons (name : String) (before : List EnumValue) (v : EnumValue)
    (behind : List EnumValue) :
    enumText ⟨name, before ++ v :: behind⟩ =
      textBefore name before ++ "[" ++ ("\"" ++ v.key ++ "\"") ++ textBehind v behind := by
  apply String.toList_inj.mp
  unfold enumText enumBlock textBefore textBehind
  dsimp only
  rw [entryLines_append, entryLines_cons]
  simp [entry, Line.text]

/-- Read from its opening quote on, the literal of an entry denotes the key and ends where the bracket
does if and only if there is neither a quote nor a backslash nor a line end in the key. -/
theorem enumText_key_iff (name : String) (before : List EnumValue) (v : EnumValue)
    (behind : List EnumValue) :
    enumText ⟨name, before ++ v :: behind⟩ =
        textBefore name before ++ "[" ++ ("\"" ++ v.key ++ "\"") ++ textBehind v behind ∧
      (ShortString.readQuoted ("\"" ++ v.key ++ "\"" ++ textBehind v behind).toList =
          some (Utf8.bytes v.key, (textBehind v behind).toList) ↔
        ∀ c ∈ v.key.toList, c ≠ '"' ∧ c ≠ '\\' ∧ c ≠ '\n' ∧ c ≠ '\r') := by
  refine ⟨enumText_append_cons name before v behind, ?_⟩
  have hliteral : ("\"" ++ v.key ++ "\"" ++ textBehind v behind).toList =
      '"' :: (v.key.toList ++ '"' :: (textBehind v behind).toList) := by simp
  rw [hliteral, ShortString.readQuoted]
  exact ShortString.read_eq_encode_iff

/-- A key with a quote in it. -/
def quotedKeyEnum : Enum := ⟨"E", [⟨"a\"b", .number (.integer 1)⟩]⟩

/-- The literal ends within the key. -/
theorem enumText_key_cut_off :
    enumText quotedKeyEnum = "\n\n---@enum E\nE = \x7b\n    [" ++ "\"a\"b\"] = 1\n\x7d" ∧
      ShortString.readQuoted "\"a\"b\"] = 1\n\x7d".toList =
        some (Utf8.bytes "a", "b\"] = 1\n\x7d".toList) ∧
      Utf8.bytes "a" ≠ Utf8.bytes "a\"b" := by
  refine ⟨by decide +kernel, ?_, by decide⟩
  change ShortString.read ('a' :: '"' :: "b\"] = 1\n\x7d".toList) = _
  rw [ShortString.read_of_plain (by decide), ShortString.read_quote]
  rfl

end LuaStubs.Lua
