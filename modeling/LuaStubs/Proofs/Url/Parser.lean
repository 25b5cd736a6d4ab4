import LuaStubs.Proofs.Encoding.Percent
import LuaStubs.Proofs.Results
import LuaStubs.Proofs.Text.Affix
import LuaStubs.Url.Parser

/-! URLs that are written as a base with encoded segments behind it. -/
namespace LuaStubs.Url

open LuaStubs.Text
open LuaStubs.Encoding
open Percent (IsSegmentChar)

/-! ## Segments -/

/-- The characters that small letters, digits and marks of an escaped dot come from. -/
def IsDotSource (c : Char) : Prop :=
  (c.toLower = '.' → c = '.') ∧ (c.toLower = '%' → c = '%') ∧ (c.toLower = '2' → c = '2') ∧
    (c.toLower = 'e' → c = 'e' ∨ c = 'E')

instance (c : Char) : Decidable (IsDotSource c) := inferInstanceAs (Decidable (_ ∧ _))

theorem isDotSource (c : Char) : IsDotSource c := by
  have hsmall : ∀ n < 128, IsDotSource (Char.ofNat n) := by decide
  by_cases hc : c.toNat < 128
  · have hsource := hsmall c.toNat hc
    rwa [Char.ofNat_toNat] at hsource
  · have hsame : c.toLower = c := by
      refine dif_neg (fun hupper => hc ?_)
      exact Nat.lt_of_le_of_lt (UInt32.le_iff_toNat_le.mp hupper.2) (by decide)
    unfold IsDotSource
    rw [hsame]
    exact ⟨id, id, id, .inl⟩

/-- A dot in disguise. -/
theorem escapedDot {segment ds : List Char}
    (h : segment.map Char.toLower = '%' :: '2' :: 'e' :: ds) :
    ∃ e cs, segment = '%' :: '2' :: e :: cs ∧ (e = 'e' ∨ e = 'E') ∧ cs.map Char.toLower = ds := by
  obtain ⟨a, as, rfl, ha, has⟩ := List.map_eq_cons_iff.mp h
  obtain ⟨b, bs, rfl, hb, hbs⟩ := List.map_eq_cons_iff.mp has
  obtain ⟨e, cs, rfl, he, hcs⟩ := List.map_eq_cons_iff.mp hbs
  obtain rfl := (isDotSource a).2.1 ha
  obtain rfl := (isDotSource b).2.2.1 hb
  exact ⟨e, cs, rfl, (isDotSource e).2.2.2 he, hcs⟩

theorem plainDot {segment ds : List Char} (h : segment.map Char.toLower = '.' :: ds) :
    ∃ cs, segment = '.' :: cs ∧ cs.map Char.toLower = ds := by
  obtain ⟨c, cs, rfl, hc, hcs⟩ := List.map_eq_cons_iff.mp h
  obtain rfl := (isDotSource c).1 hc
  exact ⟨cs, rfl, hcs⟩

/-- A segment that stands for dots is decoded to them. -/
theorem decode_of_dots {segment : List Char}
    (hdots : dots segment = ['.'] ∨ dots segment = ['.', '.']) :
    Percent.decode segment = some (dots segment) := by
  unfold dots at hdots ⊢
  generalize hlower : segment.map Char.toLower = lower at hdots ⊢
  split
  · obtain ⟨e, cs, rfl, he, hcs⟩ := escapedDot hlower
    obtain rfl := List.map_eq_nil_iff.mp hcs
    rcases he with rfl | rfl <;> decide
  · obtain ⟨as, rfl, hlower'⟩ := plainDot hlower
    obtain ⟨e, cs, rfl, he, hcs⟩ := escapedDot hlower'
    obtain rfl := List.map_eq_nil_iff.mp hcs
    rcases he with rfl | rfl <;> decide
  · obtain ⟨e, as, rfl, he, hlower'⟩ := escapedDot hlower
    obtain ⟨cs, rfl, hcs⟩ := plainDot hlower'
    obtain rfl := List.map_eq_nil_iff.mp hcs
    rcases he with rfl | rfl <;> decide
  · obtain ⟨e, as, rfl, he, hlower'⟩ := escapedDot hlower
    obtain ⟨e', cs, rfl, he', hcs⟩ := escapedDot hlower'
    obtain rfl := List.map_eq_nil_iff.mp hcs
    rcases he with rfl | rfl <;> rcases he' with rfl | rfl <;> decide
  · have hplain : lower = ['.'] ∨ lower = ['.', '.'] := by
      simpa using hdots
    rcases hplain with rfl | rfl
    · obtain ⟨cs, rfl, hcs⟩ := plainDot hlower
      obtain rfl := List.map_eq_nil_iff.mp hcs
      decide
    · obtain ⟨as, rfl, hlower'⟩ := plainDot hlower
      obtain ⟨cs, rfl, hcs⟩ := plainDot hlower'
      obtain rfl := List.map_eq_nil_iff.mp hcs
      decide

/-- A segment that stands for itself. -/
def IsName (segment : List Char) : Prop := dots segment ≠ ['.'] ∧ dots segment ≠ ['.', '.']

instance (segment : List Char) : Decidable (IsName segment) :=
  inferInstanceAs (Decidable (_ ∧ _))

theorem isName_of_decode {segment cs : List Char} (hdecode : Percent.decode segment = some cs)
    (hone : cs ≠ ['.']) (htwo : cs ≠ ['.', '.']) : IsName segment := by
  constructor
  · intro hdots
    rw [decode_of_dots (.inl hdots), hdots] at hdecode
    exact hone (Option.some.inj hdecode).symm
  · intro hdots
    rw [decode_of_dots (.inr hdots), hdots] at hdecode
    exact htwo (Option.some.inj hdecode).symm

/-! ## Paths -/

theorem resolve_names (above : List (List Char)) {names : List (List Char)}
    (h : ∀ name ∈ names, IsName name) : resolve above names = above.reverse ++ names := by
  induction names generalizing above with
  | nil => simp [resolve]
  | cons name names ih =>
    obtain ⟨⟨hone, htwo⟩, hnames⟩ := List.forall_mem_cons.mp h
    rw [resolve, if_neg htwo, if_neg hone, ih _ hnames]
    simp

/-- Names behind a path take the place of the empty segment at its end. -/
theorem resolve_append (above before : List (List Char)) {names : List (List Char)}
    (hne : names ≠ []) (h : ∀ name ∈ names, IsName name) :
    resolve above (before ++ names) = (resolve above (before ++ [[]])).dropLast ++ names := by
  induction before generalizing above with
  | nil =>
    have hnil : ∀ name ∈ [([] : List Char)], IsName name := by simp [IsName, dots]
    rw [List.nil_append, List.nil_append, resolve_names above h, resolve_names above hnil]
    simp
  | cons segment before ih =>
    have hnames : (before ++ names).isEmpty = false := by simp [hne]
    have hend : (before ++ [[]]).isEmpty = false := by simp
    simp only [List.cons_append, resolve, hnames, hend]
    split
    · exact ih _
    · split
      · exact ih _
      · exact ih _

/-- The segments behind a slash follow those before it. -/
theorem segments_append (cs : List Char) {ds : List Char}
    (h : ∀ piece ∈ split (isSlash true) ds, IsName (Percent.encodeWith isPathPlain piece)) :
    segments true (cs ++ '/' :: ds) = (segments true (cs ++ ['/'])).dropLast ++
      (split (isSlash true) ds).map (Percent.encodeWith isPathPlain) := by
  have hslash : isSlash true '/' = true := by decide
  have hne : (split (isSlash true) ds).map (Percent.encodeWith isPathPlain) ≠ [] := by
    simp [split_ne_nil]
  have hnames : ∀ name ∈ (split (isSlash true) ds).map (Percent.encodeWith isPathPlain),
      IsName name := List.forall_mem_map.mpr h
  cases cs with
  | nil =>
    have hpath := resolve_append [] [] hne hnames
    simpa [segments, split, Percent.encodeWith] using hpath
  | cons c cs =>
    have hpath := resolve_append [] ((split (isSlash true) cs).map (Percent.encodeWith isPathPlain))
      hne hnames
    simpa [segments, split_append hslash, split, Percent.encodeWith] using hpath

/-! ## Texts behind a base -/

/-- A character that is read as it stands, and that ends no part of a URL. -/
def IsQuiet (c : Char) : Prop := isBlank c = false ∧ isBreak c = false ∧ c ≠ '?' ∧ c ≠ '#'

instance (c : Char) : Decidable (IsQuiet c) := inferInstanceAs (Decidable (_ ∧ _))

theorem isQuiet_of_mem_intercalate {names : List (List Char)}
    (h : ∀ name ∈ names, ∀ c ∈ name, IsSegmentChar c) {c : Char}
    (hc : c ∈ ['/'].intercalate names) : IsQuiet c := by
  rcases mem_of_mem_intercalate hc with rfl | ⟨name, hname, hc⟩
  · decide
  · exact (h name hname c hc).forall (by decide) (by decide)

/-- What is read of a text that stands behind another: blanks at its end and breaks are left out. -/
def kept (cs : List Char) : List Char := (dropEnd isBlank cs).filter (fun c => !isBreak c)

theorem mem_of_mem_kept {cs : List Char} {c : Char} (h : c ∈ kept cs) : c ∈ cs :=
  mem_of_mem_dropEnd (List.mem_of_mem_filter h)

/-- A text without breaks that does not end with a blank is read as it stands. -/
theorem kept_eq_self {cs : List Char} (hbreak : ∀ c ∈ cs, isBreak c = false)
    (hlast : ∀ c, cs.getLast? = some c → isBlank c = false) : kept cs = cs := by
  rw [kept, dropEnd_of_getLast? hlast, List.filter_eq_self]
  exact fun c hc => by simp [hbreak c hc]

theorem kept_append_slash (cs ds : List Char) :
    kept (cs ++ '/' :: ds) = cs.filter (fun c => !isBreak c) ++ '/' :: kept ds := by
  have hblank : isBlank '/' = false := by decide
  have hbreak : (!isBreak '/') = true := by decide
  rw [kept, dropEnd_append_cons hblank, List.filter_append, List.filter_cons, if_pos hbreak, kept]

theorem kept_append (cs ds : List Char) :
    (trim isBlank (cs ++ '/' :: ds)).filter (fun c => !isBreak c) =
      (cs.dropWhile isBlank).filter (fun c => !isBreak c) ++ '/' :: kept ds := by
  have hblank : isBlank '/' = false := by decide
  rw [trim, dropWhile_append_cons hblank]
  exact kept_append_slash _ ds

theorem scheme?_cons_append (c : Char) (cs ds : List Char) :
    scheme? (c :: cs ++ '/' :: ds) =
      if c.isAlpha then
        match (c :: cs).dropWhile isSchemeChar ++ '/' :: ds with
        | ':' :: rest =>
          some (String.ofList (((c :: cs).takeWhile isSchemeChar).map Char.toLower), rest)
        | _ => none
      else none := by
  have hslash : isSchemeChar '/' = false := by decide
  rw [← dropWhile_append_cons hslash, ← takeWhile_append_cons hslash (c :: cs) ds]
  rfl

theorem scheme?_append {cs rest : List Char} {scheme : String}
    (h : scheme? (cs ++ ['/']) = some (scheme, rest)) :
    ∃ front, rest = front ++ ['/'] ∧
      ∀ ds, scheme? (cs ++ '/' :: ds) = some (scheme, front ++ '/' :: ds) := by
  cases cs with
  | nil =>
    have hnone : scheme? ([] ++ ['/']) = none := by decide
    rw [hnone] at h
    cases h
  | cons c cs =>
    simp only [scheme?_cons_append] at h ⊢
    by_cases halpha : c.isAlpha = true
    · simp only [halpha, if_true] at h ⊢
      split at h
      · next more hmore =>
        cases hdrop : (c :: cs).dropWhile isSchemeChar with
        | nil => simp [hdrop] at hmore
        | cons d front =>
          rw [hdrop, List.cons_append, List.cons.injEq] at hmore
          obtain ⟨rfl, rfl⟩ := hmore
          cases h
          exact ⟨front, rfl, fun ds => rfl⟩
      · cases h
    · simp only [halpha, Bool.false_eq_true, if_false] at h
      cases h

theorem splitPort_eq (portText rest : List Char) :
    splitPort portText rest = ((splitPort portText []).1, (splitPort portText []).2 ++ rest) := by
  unfold splitPort
  split <;> simp

def hostOf (scheme : String) (text : List Char) : Except Fault Host :=
  if isSpecial scheme then Host.parse text else Host.parsePlain text

/-- The URL of an authority alone. -/
def ofAuthority (scheme : String) (authority : List Char) : Except Fault Url := do
  let userText := (splitUser authority).1
  let server := splitHost false (splitUser authority).2
  let host ← hostOf scheme server.1
  let port ← portOf scheme (splitPort server.2 []).1
  let user := Percent.encodeWith isUserPlain (userText.takeWhile (· ≠ ':'))
  let password := Percent.encodeWith isUserPlain ((userText.dropWhile (· ≠ ':')).drop 1)
  return assemble scheme user password host port ⟨[], none, none⟩

/-- The authority at the beginning of a text. -/
def authorityOf (scheme : String) (cs : List Char) : List Char :=
  cs.takeWhile (fun c => !isAuthorityEnd (isSpecial scheme) c)

/-- What stands behind the authority; a path that begins at a port is given its slash. -/
def behindAuthority (scheme : String) (cs : List Char) : List Char :=
  (splitPort (splitHost false (splitUser (authorityOf scheme cs)).2).2 []).2 ++
    cs.dropWhile (fun c => !isAuthorityEnd (isSpecial scheme) c)

/-- A URL with another path, query and fragment, as they stand in a text. -/
def withTail (u : Url) (t : Tail) : Url :=
  { u with
    path := segments (isSpecial u.scheme) t.path
    query := t.query.map (Percent.encodeWith (isQueryPlain (isSpecial u.scheme)))
    fragment := t.fragment.map (Percent.encodeWith isFragmentPlain) }

theorem scheme_of_ofAuthority {scheme : String} {authority : List Char} {u : Url}
    (h : ofAuthority scheme authority = .ok u) : u.scheme = scheme := by
  unfold ofAuthority at h
  obtain ⟨host, -, h⟩ := bind_eq_ok.mp h
  obtain ⟨port, -, h⟩ := bind_eq_ok.mp h
  cases h
  rfl

/-- A slash ends the authority, if nothing before it does. -/
theorem withAuthority_eq_bind (scheme : String) (cs ds : List Char) :
    withAuthority scheme (cs ++ '/' :: ds) = ofAuthority scheme (authorityOf scheme cs) >>=
      fun u => .ok (u.withTail (tail (behindAuthority scheme cs ++ '/' :: ds))) := by
  have hend : (!isAuthorityEnd (isSpecial scheme) '/') = false := by
    simp [isAuthorityEnd, isSlash]
  unfold withAuthority ofAuthority hostOf behindAuthority authorityOf
  rw [dropWhile_append_cons hend, takeWhile_append_cons hend]
  simp only [splitPort_eq _ (_ ++ '/' :: ds), List.append_assoc]
  cases isSpecial scheme with
  | true =>
    simp only [if_true, bind_assoc, pure_bind]
    rfl
  | false =>
    simp only [Bool.false_eq_true, if_false, bind_assoc, pure_bind]
    rfl

theorem afterMark_eq_none {cs : List Char} : afterMark cs = none ↔ cs = [] := by
  cases cs <;> simp [afterMark]

/-- Text without a mark in front belongs to the path. -/
theorem tail_append {cs : List Char} (h : ∀ c ∈ cs, c ≠ '?' ∧ c ≠ '#') (ds : List Char) :
    tail (cs ++ ds) = ⟨cs ++ (tail ds).path, (tail ds).query, (tail ds).fragment⟩ := by
  have hquery : ∀ c ∈ cs, decide (c ≠ '?') = true := fun c hc => by simpa using (h c hc).1
  have hfragment : ∀ c ∈ cs, decide (c ≠ '#') = true := fun c hc => by simpa using (h c hc).2
  simp only [tail, List.takeWhile_append_of_pos hfragment, List.dropWhile_append_of_pos hfragment,
    List.takeWhile_append_of_pos hquery, List.dropWhile_append_of_pos hquery]

theorem tail_of_quiet {cs : List Char} (h : ∀ c ∈ cs, c ≠ '?' ∧ c ≠ '#') :
    tail cs = ⟨cs, none, none⟩ := by
  have hall := tail_append h []
  have hnil : tail [] = ⟨[], none, none⟩ := rfl
  rwa [hnil, List.append_nil] at hall

/-- Of a text without marks only the path depends on its names. -/
theorem withTail_of_quiet (u : Url) {cs : List Char} (h : ∀ c ∈ cs, c ≠ '?' ∧ c ≠ '#') :
    u.withTail (tail cs) =
      { u with path := segments (isSpecial u.scheme) cs, query := none, fragment := none } := by
  rw [tail_of_quiet h]
  rfl

theorem quiet_of_tail {cs : List Char} (hquery : (tail cs).query = none)
    (hfragment : (tail cs).fragment = none) : ∀ c ∈ cs, c ≠ '?' ∧ c ≠ '#' := by
  have hnone := List.dropWhile_eq_nil_iff.mp (afterMark_eq_none.mp hfragment)
  have hall : cs.takeWhile (· ≠ '#') = cs := List.takeWhile_eq_self_iff.mpr hnone
  have hmarks := List.dropWhile_eq_nil_iff.mp (afterMark_eq_none.mp hquery)
  intro c hc
  exact ⟨by simpa using hmarks c (hall.symm ▸ hc), by simpa using hnone c hc⟩

theorem withAuthority_nil {scheme : String} (hspecial : isSpecial scheme = true) :
    withAuthority scheme [] = .error .noHost := by
  unfold withAuthority
  rw [hspecial]
  rfl

/-- Behind an authority, and behind a path that ends with a slash, other texts may follow. -/
theorem withAuthority_text {scheme : String} {cs : List Char} {u : Url}
    (h : withAuthority scheme (cs ++ ['/']) = .ok u) (hspecial : isSpecial scheme = true)
    (hquery : u.query = none) (hfragment : u.fragment = none) :
    ∃ front, (∀ c ∈ front, c ≠ '?' ∧ c ≠ '#') ∧ u.path = segments true (front ++ ['/']) ∧
      ∀ ds, withAuthority scheme (cs ++ '/' :: ds) = .ok (u.withTail (tail (front ++ '/' :: ds))) := by
  rw [withAuthority_eq_bind] at h
  obtain ⟨server, hserver, h⟩ := bind_eq_ok.mp h
  cases h
  have hquiet : ∀ c ∈ behindAuthority scheme cs ++ ['/'], c ≠ '?' ∧ c ≠ '#' :=
    quiet_of_tail (Option.map_eq_none_iff.mp hquery) (Option.map_eq_none_iff.mp hfragment)
  refine ⟨behindAuthority scheme cs, fun c hc => hquiet c (List.mem_append_left _ hc), ?_,
    fun ds => ?_⟩
  · rw [withTail_of_quiet _ hquiet, scheme_of_ofAuthority hserver, hspecial]
  · rw [withAuthority_eq_bind, hserver]
    rfl

theorem scheme_of_withAuthority {scheme : String} {cs : List Char} {u : Url}
    (h : withAuthority scheme cs = .ok u) : u.scheme = scheme := by
  unfold withAuthority at h
  dsimp only at h
  split at h
  · obtain ⟨host, -, h⟩ := bind_eq_ok.mp h
    obtain ⟨port, -, h⟩ := bind_eq_ok.mp h
    cases h
    rfl
  · obtain ⟨host, -, h⟩ := bind_eq_ok.mp h
    obtain ⟨port, -, h⟩ := bind_eq_ok.mp h
    cases h
    rfl

theorem scheme_of_ofFile {cs : List Char} {u : Url} (h : ofFile cs = .ok u) :
    u.scheme = "file" := by
  unfold ofFile at h
  dsimp only at h
  split at h
  · cases h
  · obtain ⟨host, -, h⟩ := bind_eq_ok.mp h
    split at h
    · cases h
    · split at h
      · cases h
      · split at h <;> cases h <;> rfl

theorem isSpecial_of_web {scheme : String} (h : scheme = "http" ∨ scheme = "https") :
    isSpecial scheme = true := by
  rcases h with rfl | rfl <;> decide

/-- A URL of the web is read from its authority on. -/
theorem parse_eq_ok {text : String} {u : Url} (hscheme : u.scheme = "http" ∨ u.scheme = "https") :
    parse text = .ok u ↔
      ∃ rest, scheme? ((trim isBlank text.toList).filter (fun c => !isBreak c)) =
        some (u.scheme, rest) ∧ withAuthority u.scheme (rest.dropWhile (isSlash true)) = .ok u := by
  have hfile : u.scheme ≠ "file" := by rcases hscheme with h | h <;> rw [h] <;> decide
  have hspecial := isSpecial_of_web hscheme
  unfold parse
  constructor
  · intro h
    split at h
    · cases h
    · next scheme rest hread =>
      suffices hauthority : withAuthority scheme (rest.dropWhile (isSlash true)) = .ok u by
        obtain rfl := scheme_of_withAuthority hauthority
        exact ⟨rest, hread, hauthority⟩
      split at h
      · split at h
        · split at h
          · exact absurd (scheme_of_ofFile h) hfile
          · cases h
        · cases h
      · split at h
        · exact h
        · next hother =>
          split at h
          · exact absurd (scheme_of_withAuthority h ▸ hspecial) hother
          · cases h
  · rintro ⟨rest, hread, hauthority⟩
    simp only [hread, if_neg hfile, if_pos hspecial]
    exact hauthority

section

variable {base : String} {u : Url} (hparse : parse (base ++ "/") = .ok u)
  (hscheme : u.scheme = "http" ∨ u.scheme = "https") (hquery : u.query = none)
  (hfragment : u.fragment = none)
include hparse hscheme hquery hfragment

/-- Any text behind a base and a slash is read as the end of its path, and what follows that. -/
theorem parse_text :
    ∃ front, (∀ c ∈ front, c ≠ '?' ∧ c ≠ '#') ∧ u.path = segments true (front ++ ['/']) ∧
      ∀ text, parse (base ++ "/" ++ text) =
        .ok (u.withTail (tail (front ++ '/' :: kept text.toList))) := by
  have hbase : (base ++ "/").toList = base.toList ++ ['/'] := by simp
  have hspecial := isSpecial_of_web hscheme
  obtain ⟨rest, hread, hauthority⟩ := (parse_eq_ok hscheme).mp hparse
  rw [hbase, kept_append] at hread
  obtain ⟨server, rfl, happend⟩ := scheme?_append hread
  cases hdrop : server.dropWhile (isSlash true) with
  | nil =>
    have hnothing : (server ++ ['/']).dropWhile (isSlash true) = [] := by
      rw [List.dropWhile_append, hdrop]
      decide
    rw [hnothing, withAuthority_nil hspecial] at hauthority
    cases hauthority
  | cons c cs =>
    rw [List.dropWhile_append, hdrop] at hauthority
    obtain ⟨front, hquiet, hpath, hother⟩ :=
      withAuthority_text hauthority hspecial hquery hfragment
    refine ⟨front, hquiet, hpath, fun text => ?_⟩
    have hwhole : (base ++ "/" ++ text).toList = base.toList ++ '/' :: text.toList := by simp
    refine (parse_eq_ok (by exact hscheme)).mpr ⟨server ++ '/' :: kept text.toList, ?_, ?_⟩
    · rw [hwhole, kept_append]
      exact happend _
    · rw [List.dropWhile_append, hdrop]
      exact hother _

/-- A text without marks behind a base adds to its path only. -/
theorem parse_quiet :
    ∃ front, u.path = segments true (front ++ ['/']) ∧
      ∀ text : String, (∀ c ∈ text.toList, c ≠ '?' ∧ c ≠ '#') →
        parse (base ++ "/" ++ text) =
          .ok { u with path := segments true (front ++ '/' :: kept text.toList) } := by
  obtain ⟨front, hfront, hpath, hother⟩ := parse_text hparse hscheme hquery hfragment
  refine ⟨front, hpath, fun text h => ?_⟩
  have hquiet : ∀ c ∈ front ++ '/' :: kept text.toList, c ≠ '?' ∧ c ≠ '#' :=
    List.forall_mem_append.mpr ⟨hfront, List.forall_mem_cons.mpr
      ⟨by decide, fun c hc => h c (mem_of_mem_kept hc)⟩⟩
  rw [hother, tail_of_quiet hquiet, withTail, isSpecial_of_web hscheme]
  simp only [Option.map_none, hquery, hfragment]

/-- The segments of a text behind a base and a slash become the end of its path. -/
theorem parse_append {text : String} (hquiet : ∀ c ∈ text.toList, c ≠ '?' ∧ c ≠ '#')
    (hkept : kept text.toList = text.toList)
    (h : ∀ piece ∈ split (isSlash true) text.toList,
      IsName (Percent.encodeWith isPathPlain piece)) :
    parse (base ++ "/" ++ text) =
      .ok { u with
        path := u.path.dropLast ++
          (split (isSlash true) text.toList).map (Percent.encodeWith isPathPlain) } := by
  obtain ⟨front, hpath, hother⟩ := parse_quiet hparse hscheme hquery hfragment
  rw [hother text hquiet, hkept, segments_append front h, hpath]

/-- Encoded names behind a base and a slash become the end of its path. -/
theorem parse_segments {names : List (List Char)} (hne : names ≠ [])
    (hchars : ∀ name ∈ names, ∀ c ∈ name, IsSegmentChar c) (h : ∀ name ∈ names, IsName name) :
    parse (base ++ "/" ++ String.ofList (['/'].intercalate names)) =
      .ok { u with path := u.path.dropLast ++ names } := by
  have hslash : isSlash true '/' = true := by decide
  have hchar (c : Char) (hc : IsSegmentChar c) : isSlash true c = false ∧ isPathPlain c = true :=
    hc.forall (P := fun c => isSlash true c = false ∧ isPathPlain c = true) (by decide) (by decide)
  have hpieces : split (isSlash true) (['/'].intercalate names) = names :=
    split_intercalate hslash hne (fun name hname c hc => (hchar c (hchars name hname c hc)).1)
  have hplain : ∀ name ∈ names, Percent.encodeWith isPathPlain name = name := fun name hname =>
    Percent.encodeWith_of_plain (fun c hc => (hchar c (hchars name hname c hc)).2)
  have hquiet : ∀ c ∈ ['/'].intercalate names, IsQuiet c :=
    fun c hc => isQuiet_of_mem_intercalate hchars hc
  have hkept : kept (['/'].intercalate names) = ['/'].intercalate names :=
    kept_eq_self (fun c hc => (hquiet c hc).2.1)
      (fun c hc => (hquiet c (List.mem_of_getLast? hc)).1)
  have htext : (String.ofList (['/'].intercalate names)).toList = ['/'].intercalate names :=
    String.toList_ofList
  have hnames : ∀ name ∈ names, IsName (Percent.encodeWith isPathPlain name) :=
    fun name hname => (hplain name hname).symm ▸ h name hname
  rw [parse_append hparse hscheme hquery hfragment (by rw [htext]; exact fun c hc => (hquiet c hc).2.2)
    (by rw [htext, hkept]) (by rw [htext, hpieces]; exact hnames), htext, hpieces,
    List.map_congr_left hplain, List.map_id']

end

end LuaStubs.Url
