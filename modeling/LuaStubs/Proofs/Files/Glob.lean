import LuaStubs.Files.Glob
import LuaStubs.Proofs.Results

/-! Patterns without wildcards, and the pattern for the JSON files in a folder and below. -/
namespace LuaStubs.Files.Glob

/-! ## Plain text -/

/-- A character that stands for itself in a pattern. -/
def IsPlain (c : Char) : Prop := c ≠ '*' ∧ c ≠ '?' ∧ c ≠ '['

instance (c : Char) : Decidable (IsPlain c) := inferInstanceAs (Decidable (_ ∧ _ ∧ _))

/-- Plain text as a pattern. -/
def plain (cs : List Char) : List Token := cs.map .char

theorem token_of_isPlain {c : Char} (h : IsPlain c) (before : Option Char) (position : Nat)
    (rest : List Char) : token before position c rest = .ok (.char c, 0) := by
  rw [token, if_neg h.2.1, if_neg h.1, if_neg h.2.2]

/-- Plain text in front of a pattern. -/
theorem scan_plain {cs : List Char} (h : ∀ c ∈ cs, IsPlain c) {c : Char} (hc : IsPlain c)
    (before : Option Char) (position : Nat) (rest : List Char) :
    scan before position 0 (cs ++ c :: rest) =
      (scan (some c) (position + cs.length + 1) 0 rest).map (fun ts => plain (cs ++ [c]) ++ ts) := by
  induction cs generalizing before position with
  | nil =>
    rw [List.nil_append, scan, token_of_isPlain hc]
    rfl
  | cons d cs ih =>
    obtain ⟨hd, hcs⟩ := List.forall_mem_cons.mp h
    have hposition : position + 1 + cs.length + 1 = position + (d :: cs).length + 1 := by
      simp only [List.length_cons]
      omega
    rw [List.cons_append, scan, token_of_isPlain hd]
    show (scan (some d) (position + 1) 0 (cs ++ c :: rest) >>= _) = _
    rw [ih hcs, hposition]
    cases scan (some c) (position + (d :: cs).length + 1) 0 rest <;> rfl

theorem tokens_of_plain {cs : List Char} (h : ∀ c ∈ cs, IsPlain c) : tokens cs = .ok (plain cs) := by
  rcases List.eq_nil_or_concat cs with rfl | ⟨front, last, rfl⟩
  · rfl
  · rw [List.concat_eq_append] at h ⊢
    obtain ⟨hfront, hlast⟩ := List.forall_mem_append.mp h
    rw [tokens, scan_plain hfront (hlast last (List.mem_singleton_self last)), scan]
    simp [Except.map]

theorem literal?_plain (name : String) : literal? (plain name.toList) = some name := by
  have hchars : (plain name.toList).mapM Token.char? = some name.toList := by
    rw [plain, mapM_eq_some, List.forall₂_map_left_iff, List.forall₂_same]
    exact fun c _ => rfl
  rw [literal?, hchars]
  simp

theorem eq_plain_of_literal? {ts : List Token} {name : String} (h : literal? ts = some name) :
    ts = plain name.toList := by
  obtain ⟨chars, hchars, rfl⟩ := Option.map_eq_some_iff.mp h
  rw [String.toList_ofList, plain]
  induction mapM_eq_some.mp hchars with
  | nil => rfl
  | @cons t c ts chars ht hrest ih =>
    obtain rfl : t = .char c := by
      cases t with
      | char d => rw [Option.some.inj ht]
      | _ => cases ht
    rw [List.map_cons, ← ih (mapM_eq_some.mpr hrest)]
    simp [literal?, mapM_eq_some.mpr hrest]

/-- Plain text fits the texts that it is. -/
theorem fitsOne_plain {cs : List Char} {rests : List (List Char)} :
    fitsOne (plain cs) rests = true ↔ cs ∈ rests := by
  induction cs generalizing rests with
  | nil =>
    show rests.any List.isEmpty = true ↔ _
    simp
  | cons c cs ih =>
    show fitsOne (plain cs) (rests.filterMap (Token.char c).after?) = true ↔ _
    rw [ih, List.mem_filterMap]
    constructor
    · rintro ⟨rest, hrest, hafter⟩
      cases rest with
      | nil => cases hafter
      | cons d rest =>
        by_cases hd : d = c
        · simp_all [Token.after?, Token.admits]
        · simp [Token.after?, Token.admits, hd] at hafter
    · intro hmem
      exact ⟨c :: cs, hmem, by simp [Token.after?, Token.admits]⟩

theorem fits_plain {cs name : List Char} : fits (plain cs) name = true ↔ name = cs := by
  rw [fits, fitsOne_plain, List.mem_singleton, eq_comm]

/-! ## JSON files -/

/-- Any name that ends like a JSON file. -/
def json : List Token := .sequence :: plain ".json".toList

theorem fits_json {name : String} : fits json name.toList = true ↔ ".json".toList <:+ name.toList := by
  show fitsOne (plain ".json".toList) (suffixes name.toList) = true ↔ _
  rw [fitsOne_plain, mem_suffixes]

/-- The names of a folder, and then the JSON files in it or below it. -/
theorem parse_json {names : List String} (hnames : ∀ n ∈ names, ∀ c ∈ n.toList, IsPlain c)
    {front : List Char} (hfront : ∀ c ∈ front, IsPlain c) :
    parse (names.map String.toList ++ ["**".toList, "*.json".toList])
        (front ++ '/' :: "**/*.json".toList) =
      .ok (names.map (fun n => plain n.toList) ++ [[.folders], json]) := by
  have hwhole : ∃ ts, tokens (front ++ '/' :: "**/*.json".toList) = .ok ts := by
    rw [tokens, scan_plain hfront (by decide)]
    exact ⟨_, rfl⟩
  have hparts : (names.map String.toList ++ ["**".toList, "*.json".toList]).mapM tokens =
      .ok (names.map (fun n => plain n.toList) ++ [[.folders], json]) := by
    rw [mapM_eq_ok]
    refine List.rel_append ?_ (.cons rfl (.cons rfl .nil))
    rw [List.forall₂_map_left_iff, List.forall₂_map_right_iff, List.forall₂_same]
    exact fun n hn => tokens_of_plain (hnames n hn)
  obtain ⟨ts, hts⟩ := hwhole
  rw [parse, hts, hparts]
  rfl

/-! ## Where tokens come from -/

section

variable {before : Option Char} {position more : Nat} {c : Char} {rest : List Char} {t : Token}

theorem token_of_stars (h : stars before position rest = .ok (t, more)) :
    t = .sequence ∨ t = .folders ∧ (before = none ∨ before = some '/') ∧
      (rest = ['*'] ∨ ∃ behind, rest = '*' :: '/' :: behind) := by
  unfold stars at h
  split at h
  · cases h
  · next behind _ =>
    split at h
    · next hbefore =>
      simp only [Bool.or_eq_true, decide_eq_true_eq] at hbefore
      split at h
      · cases h
        exact .inr ⟨rfl, hbefore, .inl rfl⟩
      · next d others _ =>
        split at h
        · next hd =>
          cases h
          exact .inr ⟨rfl, hbefore, .inr ⟨others, by rw [hd]⟩⟩
        · cases h
    · cases h
  · cases h
    exact .inl rfl

theorem token_of_oneOf (h : oneOf? rest = some (t, more)) : ∃ isNegated ranges, t = .oneOf isNegated ranges := by
  unfold oneOf? at h
  split at h
  all_goals
    obtain ⟨inner, -, heq⟩ := Option.map_eq_some_iff.mp h
    cases heq
    exact ⟨_, _, rfl⟩

/-- A token for a character stands where the character does, and one for folders stands for two stars
between slashes or ends. -/
theorem token_cases (h : token before position c rest = .ok (t, more)) :
    (∀ d, t = .char d → d = c) ∧
      (t = .folders → c = '*' ∧ (before = none ∨ before = some '/') ∧
        (rest = ['*'] ∨ ∃ behind, rest = '*' :: '/' :: behind)) := by
  unfold token at h
  split_ifs at h with hany hstar hbracket
  · cases h
    simp
  · rcases token_of_stars h with rfl | ⟨rfl, hbefore, hrest⟩
    · simp
    · exact ⟨by simp, fun _ => ⟨hstar, hbefore, hrest⟩⟩
  · split at h
    · next found hfound =>
      cases h
      obtain ⟨isNegated, ranges, rfl⟩ := token_of_oneOf hfound
      simp
    · cases h
  · cases h
    simp

theorem scan_eq_ok {skip : Nat} {ts : List Token} (h : scan before position skip (c :: rest) = .ok ts) :
    (∃ left, skip = left + 1 ∧ scan (some c) (position + 1) left rest = .ok ts) ∨
      ∃ t more others, skip = 0 ∧ token before position c rest = .ok (t, more) ∧
        scan (some c) (position + 1) more rest = .ok others ∧ ts = t :: others := by
  cases skip with
  | succ left => exact .inl ⟨left, rfl, h⟩
  | zero =>
    rw [scan] at h
    obtain ⟨⟨t, more⟩, htoken, h⟩ := bind_eq_ok.mp h
    obtain ⟨others, hothers, h⟩ := bind_eq_ok.mp h
    exact .inr ⟨t, more, others, rfl, htoken, hothers, (Except.ok.inj h).symm⟩

/-- The characters of a pattern are characters of its text. -/
theorem mem_of_scan {skip : Nat} {cs : List Char} {ts : List Token}
    (h : scan before position skip cs = .ok ts) {d : Char} (hd : .char d ∈ ts) : d ∈ cs := by
  induction cs generalizing before position skip ts with
  | nil =>
    cases h
    cases hd
  | cons c cs ih =>
    rcases scan_eq_ok h with ⟨left, -, hrest⟩ | ⟨t, more, others, -, htoken, hothers, rfl⟩
    · exact List.mem_cons_of_mem _ (ih hrest hd)
    · rcases List.mem_cons.mp hd with heq | hd
      · rw [(token_cases htoken).1 d heq.symm]
        exact List.mem_cons_self
      · exact List.mem_cons_of_mem _ (ih hothers hd)

/-- Behind a character of a name no token stands for folders. -/
theorem not_folders_of_scan {skip : Nat} {cs : List Char} {ts : List Token} (hslash : '/' ∉ c :: cs)
    (h : scan (some c) position skip cs = .ok ts) : .folders ∉ ts := by
  induction cs generalizing c position skip ts with
  | nil =>
    cases h
    simp
  | cons d cs ih =>
    obtain ⟨hc, hcs⟩ := List.ne_and_not_mem_of_not_mem_cons hslash
    rcases scan_eq_ok h with ⟨left, -, hrest⟩ | ⟨t, more, others, -, htoken, hothers, rfl⟩
    · exact ih hcs hrest
    · intro hmem
      rcases List.mem_cons.mp hmem with heq | hmem
      · obtain ⟨-, hbefore, -⟩ := (token_cases htoken).2 heq.symm
        rcases hbefore with hbefore | hbefore
        · cases hbefore
        · exact hc (Option.some.inj hbefore).symm
      · exact ih hcs hothers hmem

end

/-- Of all names only two stars are a pattern for folders. -/
theorem eq_stars_of_isFolders {cs : List Char} {ts : List Token} (hslash : '/' ∉ cs)
    (h : tokens cs = .ok ts) (hfolders : isFolders ts = true) : cs = "**".toList := by
  have hmem : .folders ∈ ts := List.contains_iff_mem.mp hfolders
  cases cs with
  | nil =>
    cases h
    cases hmem
  | cons c cs =>
    rcases scan_eq_ok h with ⟨left, hleft, -⟩ | ⟨t, more, others, -, htoken, hothers, rfl⟩
    · cases hleft
    · rcases List.mem_cons.mp hmem with heq | hmem
      · obtain ⟨rfl, -, hrest⟩ := (token_cases htoken).2 heq.symm
        rcases hrest with rfl | ⟨behind, rfl⟩
        · rfl
        · exact absurd (by simp) hslash
      · exact absurd hmem (not_folders_of_scan hslash hothers)

theorem no_slash_of_literal? {cs : List Char} {ts : List Token} (hslash : '/' ∉ cs)
    (h : tokens cs = .ok ts) {name : String} (hname : literal? ts = some name) :
    '/' ∉ name.toList := by
  intro hmem
  have hchar : .char '/' ∈ ts := by
    rw [eq_plain_of_literal? hname]
    exact List.mem_map_of_mem hmem
  exact hslash (mem_of_scan h hchar)

end LuaStubs.Files.Glob
