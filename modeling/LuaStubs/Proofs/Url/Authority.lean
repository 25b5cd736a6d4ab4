import LuaStubs.Proofs.Url.Parser

/-! Encoded names at the end of an address are read as the end of its path, whatever stands before
them: they reach neither the server nor the query nor the fragment. -/
namespace LuaStubs.Url

open LuaStubs.Text
open LuaStubs.Encoding
open Percent (IsSegmentChar)

/-! ## Texts that are alike -/

/-- Encoded names and the slashes between them. -/
def IsNames (cs : List Char) : Prop := ∀ c ∈ cs, IsSegmentChar c ∨ c = '/'

theorem IsNames.forall {P : Char → Prop} {cs : List Char} (h : IsNames cs)
    (hplain : ∀ n < 128, Percent.isUnreserved (Char.ofNat n) = true → P (Char.ofNat n))
    (hpercent : P '%') (hslash : P '/') : ∀ c ∈ cs, P c := by
  intro c hc
  rcases h c hc with hsegment | rfl
  · exact hsegment.forall hplain hpercent
  · exact hslash

theorem IsNames.isQuiet {cs : List Char} (h : IsNames cs) : ∀ c ∈ cs, IsQuiet c :=
  h.forall (by decide) (by decide) (by decide)

theorem IsNames.append_unmarked {ds : List Char} (h : IsNames ds) {cs : List Char}
    (hcs : ∀ c ∈ cs, c ≠ '?' ∧ c ≠ '#') : ∀ c ∈ cs ++ '/' :: ds, c ≠ '?' ∧ c ≠ '#' :=
  List.forall_mem_append.mpr ⟨hcs, List.forall_mem_cons.mpr
    ⟨by decide, fun c hc => (h.isQuiet c hc).2.2⟩⟩

/-- Of all names the reader makes the same fault, or URLs that differ in their paths only and have
neither a query nor a fragment. -/
def ReadsAlike (read : List Char → Except Fault Url) : Prop :=
  (∃ fault, ∀ ds, IsNames ds → read ds = .error fault) ∨
  ∃ u : Url, u.query = none ∧ u.fragment = none ∧
    ∀ ds, IsNames ds → ∃ path, read ds = .ok { u with path := path }

theorem ReadsAlike.congr {read read' : List Char → Except Fault Url} (h : ReadsAlike read)
    (hread : ∀ ds, IsNames ds → read' ds = read ds) : ReadsAlike read' := by
  rcases h with ⟨fault, h⟩ | ⟨u, hquery, hfragment, h⟩
  · exact .inl ⟨fault, fun ds hds => (hread ds hds).trans (h ds hds)⟩
  · refine .inr ⟨u, hquery, hfragment, fun ds hds => ?_⟩
    rw [hread ds hds]
    exact h ds hds

theorem readsAlike_error (fault : Fault) : ReadsAlike (fun _ => .error fault) :=
  .inl ⟨fault, fun _ _ => rfl⟩

/-- Whatever is settled before the names are looked at is the same for all of them. -/
theorem readsAlike_bind {α : Type} (settled : Except Fault α) (u : α → Url)
    (path : α → List Char → List (List Char)) (hquery : ∀ a, (u a).query = none)
    (hfragment : ∀ a, (u a).fragment = none) :
    ReadsAlike (fun ds => settled >>= fun a => .ok { u a with path := path a ds }) := by
  cases settled with
  | error fault => exact readsAlike_error fault
  | ok a => exact .inr ⟨u a, hquery a, hfragment a, fun ds _ => ⟨path a ds, rfl⟩⟩

/-! ## Authorities -/

theorem mem_splitUser {cs : List Char} {c : Char} (h : c ∈ (splitUser cs).2) : c ∈ cs := by
  unfold splitUser at h
  split at h
  · exact h
  · exact List.mem_reverse.mp ((List.takeWhile_sublist _).mem (List.mem_reverse.mp h))

theorem mem_splitHost {inBrackets : Bool} {cs : List Char} {c : Char}
    (h : c ∈ (splitHost inBrackets cs).2) : c ∈ cs := by
  induction cs generalizing inBrackets with
  | nil => exact h
  | cons d cs ih =>
    rw [splitHost] at h
    split at h
    · exact h
    · exact List.mem_cons_of_mem _ (ih h)

theorem mem_splitPort {portText : List Char} {c : Char} (h : c ∈ (splitPort portText []).2) :
    c = '/' ∨ c ∈ portText := by
  unfold splitPort at h
  split at h
  · cases h
  · simp only [List.append_nil, List.mem_cons] at h
    exact h.imp_right (List.dropWhile_sublist _).mem

theorem mem_behindAuthority {scheme : String} {cs : List Char} {c : Char}
    (h : c ∈ behindAuthority scheme cs) : c = '/' ∨ c ∈ cs := by
  rcases List.mem_append.mp h with h | h
  · refine (mem_splitPort h).imp_right (fun h => ?_)
    exact (List.takeWhile_sublist _).mem (mem_splitUser (mem_splitHost h))
  · exact .inr ((List.dropWhile_sublist _).mem h)

theorem withAuthority_readsAlike (scheme : String) {cs : List Char}
    (hcs : ∀ c ∈ cs, c ≠ '?' ∧ c ≠ '#') :
    ReadsAlike (fun ds => withAuthority scheme (cs ++ '/' :: ds)) := by
  have halike := readsAlike_bind (ofAuthority scheme (authorityOf scheme cs))
    (fun u => { u with query := none, fragment := none })
    (fun u ds => segments (isSpecial u.scheme) (behindAuthority scheme cs ++ '/' :: ds))
    (fun _ => rfl) (fun _ => rfl)
  refine halike.congr (fun ds hds => ?_)
  have hbehind : ∀ c ∈ behindAuthority scheme cs, c ≠ '?' ∧ c ≠ '#' := by
    intro c hc
    rcases mem_behindAuthority hc with rfl | hc
    · decide
    · exact hcs c hc
  rw [withAuthority_eq_bind]
  simp only [withTail_of_quiet _ (hds.append_unmarked hbehind)]

/-! ## Files -/

theorem not_isDrive_of_names {piece : List Char} (h : IsNames piece) : isDrive piece = false := by
  have hmark : ∀ c ∈ piece, isDriveMark c = false := h.forall (by decide) (by decide) (by decide)
  unfold isDrive
  split
  · next mark => simp [hmark mark (by simp)]
  · rfl

theorem namesDrive_append (cs : List Char) {ds : List Char} (hds : IsNames ds) :
    namesDrive (cs ++ '/' :: ds) = namesDrive cs := by
  have hslash : isSlash true '/' = true := by decide
  have hnone : (split (isSlash true) ds).any isDrive = false := by
    refine List.any_eq_false.mpr (fun piece hpiece => ?_)
    have hnames : IsNames piece := fun c hc => hds c (mem_of_mem_split hpiece hc)
    simp [not_isDrive_of_names hnames]
  rw [namesDrive, split_append hslash, List.any_append, hnone, Bool.or_false, namesDrive]

/-- The host of a file, unless the text in front of its names has none for it. -/
def fileHost (cs : List Char) : Except Fault Host := do
  let name := cs.takeWhile (fun c => !isAuthorityEnd true c)
  if isDrive name then throw .noHost
  let host ← Host.parse name
  if host = .name ['l', 'o', 'c', 'a', 'l', 'h', 'o', 's', 't'] then throw .noHost
  if namesDrive (cs.dropWhile (fun c => !isAuthorityEnd true c)) then throw .noHost
  return host

/-- The path of a file does not begin with empty names. -/
def filePath (path : List (List Char)) : List (List Char) :=
  match path.dropWhile (· = []) with
  | [] => [[]]
  | named => named

theorem ofFile_eq_bind {cs ds : List Char} (hcs : ∀ c ∈ cs, c ≠ '?' ∧ c ≠ '#') (hds : IsNames ds) :
    ofFile (cs ++ '/' :: ds) = fileHost cs >>= fun host =>
      .ok { assemble "file" [] [] host none ⟨[], none, none⟩ with
        path := filePath (segments true
          (cs.dropWhile (fun c => !isAuthorityEnd true c) ++ '/' :: ds)) } := by
  have hend : (!isAuthorityEnd true '/') = false := by decide
  have hspecial : isSpecial "file" = true := by decide
  have hbehind : ∀ c ∈ cs.dropWhile (fun c => !isAuthorityEnd true c), c ≠ '?' ∧ c ≠ '#' :=
    fun c hc => hcs c ((List.dropWhile_sublist _).mem hc)
  unfold ofFile fileHost
  rw [dropWhile_append_cons hend, takeWhile_append_cons hend, tail_of_quiet (hds.append_unmarked hbehind)]
  simp only [namesDrive_append _ hds]
  split
  · rfl
  · cases Host.parse (cs.takeWhile (fun c => !isAuthorityEnd true c)) with
    | error fault => rfl
    | ok host =>
      simp only [bind, Except.bind]
      split
      · rfl
      · split
        · rfl
        · simp only [assemble, hspecial, filePath, pure, Except.pure]
          cases (segments true (cs.dropWhile (fun c => !isAuthorityEnd true c) ++ '/' :: ds)).dropWhile
            (· = []) <;> rfl

theorem ofFile_readsAlike {cs : List Char} (hcs : ∀ c ∈ cs, c ≠ '?' ∧ c ≠ '#') :
    ReadsAlike (fun ds => ofFile (cs ++ '/' :: ds)) := by
  have halike := readsAlike_bind (fileHost cs)
    (fun host => assemble "file" [] [] host none ⟨[], none, none⟩)
    (fun _ ds => filePath (segments true
      (cs.dropWhile (fun c => !isAuthorityEnd true c) ++ '/' :: ds)))
    (fun _ => rfl) (fun _ => rfl)
  exact halike.congr (fun ds hds => ofFile_eq_bind hcs hds)

/-! ## Whole addresses -/

/-- A scheme stands before the first slash or not at all. -/
theorem scheme?_append_eq_none {cs : List Char} (h : scheme? (cs ++ ['/']) = none)
    (ds : List Char) : scheme? (cs ++ '/' :: ds) = none := by
  cases cs with
  | nil => rfl
  | cons c cs =>
    simp only [scheme?_cons_append] at h ⊢
    by_cases halpha : c.isAlpha = true
    · simp only [halpha, if_true] at h ⊢
      cases hdrop : (c :: cs).dropWhile isSchemeChar with
      | nil => rfl
      | cons d front =>
        have hd : d ≠ ':' := by
          rintro rfl
          rw [hdrop] at h
          cases h
        simp [hd]
    · rw [if_neg halpha]

theorem suffix_of_scheme? {cs rest : List Char} {scheme : String}
    (h : scheme? cs = some (scheme, rest)) : rest <:+ cs := by
  unfold scheme? at h
  split at h
  · cases h
  · split at h
    · split at h
      · next rest' hdrop =>
        cases h
        exact (List.suffix_cons ':' _).trans (hdrop ▸ List.dropWhile_suffix isSchemeChar)
      · cases h
    · cases h

/-- What is read behind a scheme. -/
def behindScheme (scheme : String) (rest : List Char) : Except Fault Url :=
  if scheme = "file" then
    match rest with
    | a :: b :: rest => if isSlash true a && isSlash true b then ofFile rest else .error .noHost
    | _ => .error .noHost
  else if isSpecial scheme then withAuthority scheme (rest.dropWhile (isSlash true))
  else
    match rest with
    | '/' :: '/' :: rest => withAuthority scheme rest
    | _ => .error .noHost

theorem parse_eq (text : String) :
    parse text = match scheme? ((trim isBlank text.toList).filter (fun c => !isBreak c)) with
      | none => .error .noScheme
      | some (scheme, rest) => behindScheme scheme rest := rfl

/-- A text of two characters or more, not all of them slashes, settles how the names behind it are
read. -/
theorem behindScheme_readsAlike (scheme : String) {cs : List Char} (hlength : 2 ≤ cs.length)
    (hcs : ∀ c ∈ cs, c ≠ '?' ∧ c ≠ '#') (hname : cs.dropWhile (isSlash true) ≠ []) :
    ReadsAlike (fun ds => behindScheme scheme (cs ++ '/' :: ds)) := by
  obtain ⟨a, b, cs, rfl⟩ : ∃ a b rest, cs = a :: b :: rest := by
    match cs, hlength with
    | a :: b :: rest, _ => exact ⟨a, b, rest, rfl⟩
  have htail : ∀ c ∈ cs, c ≠ '?' ∧ c ≠ '#' :=
    fun c hc => hcs c (List.mem_cons_of_mem _ (List.mem_cons_of_mem _ hc))
  by_cases hfile : scheme = "file"
  · by_cases hslashes : (isSlash true a && isSlash true b) = true
    · refine (ofFile_readsAlike htail).congr (fun ds _ => ?_)
      simp [behindScheme, hfile, hslashes]
    · refine (readsAlike_error .noHost).congr (fun ds _ => ?_)
      simp [behindScheme, hfile, hslashes]
  · by_cases hspecial : isSpecial scheme = true
    · have hfront : ∀ c ∈ (a :: b :: cs).dropWhile (isSlash true), c ≠ '?' ∧ c ≠ '#' :=
        fun c hc => hcs c ((List.dropWhile_sublist _).mem hc)
      have hserver : ((a :: b :: cs).dropWhile (isSlash true)).isEmpty = false := by
        simpa only [List.isEmpty_eq_false_iff] using hname
      refine (withAuthority_readsAlike scheme hfront).congr (fun ds _ => ?_)
      simp only [behindScheme, if_neg hfile, if_pos hspecial]
      rw [List.dropWhile_append, hserver]
      rfl
    · by_cases hslashes : a = '/' ∧ b = '/'
      · refine (withAuthority_readsAlike scheme htail).congr (fun ds _ => ?_)
        simp [behindScheme, hfile, hspecial, hslashes]
      · refine (readsAlike_error .noHost).congr (fun ds _ => ?_)
        simp only [behindScheme, if_neg hfile, if_neg hspecial]
        split
        · next heq =>
          simp only [List.cons_append, List.cons.injEq] at heq
          exact absurd ⟨heq.1, heq.2.1⟩ hslashes
        · rfl

/-- What is read of a text with encoded names at its end. -/
theorem cleaned_eq (base names : String) {ds : List Char} (hds : IsNames ds) :
    (trim isBlank (base ++ "/" ++ names ++ "/" ++ String.ofList ds).toList).filter
        (fun c => !isBreak c) =
      (base.toList.dropWhile isBlank).filter (fun c => !isBreak c) ++
        '/' :: (names.toList.filter (fun c => !isBreak c) ++ '/' :: ds) := by
  have htext : (base ++ "/" ++ names ++ "/" ++ String.ofList ds).toList =
      base.toList ++ '/' :: (names.toList ++ '/' :: ds) := by
    simp
  have hkept : kept ds = ds := kept_eq_self (fun c hc => (hds.isQuiet c hc).2.1)
    (fun c hc => (hds.isQuiet c (List.mem_of_getLast? hc)).1)
  rw [htext, kept_append, kept_append_slash, hkept]

/-- Whatever stands in front of the first of them, names are read as the end of a path. -/
theorem parse_readsAlike {base names : String} {first : Char} {rest : List Char}
    (hbase : ∀ c ∈ base.toList, c ≠ '?' ∧ c ≠ '#') (hnames : ∀ c ∈ names.toList, c ≠ '?' ∧ c ≠ '#')
    (hchars : names.toList = first :: rest) (hfirst : IsSegmentChar first) :
    ReadsAlike (fun ds => parse (base ++ "/" ++ names ++ "/" ++ String.ofList ds)) := by
  obtain ⟨hbreak, hslash⟩ : isBreak first = false ∧ isSlash true first = false :=
    hfirst.forall (P := fun c => isBreak c = false ∧ isSlash true c = false) (by decide) (by decide)
  have hbefore : ∀ c ∈ (base.toList.dropWhile isBlank).filter (fun c => !isBreak c) ++ ['/'],
      c ≠ '?' ∧ c ≠ '#' :=
    List.forall_mem_append.mpr ⟨fun c hc =>
      hbase c ((List.dropWhile_sublist _).mem (List.mem_of_mem_filter hc)), by simp⟩
  obtain ⟨more, hmore⟩ : ∃ more, names.toList.filter (fun c => !isBreak c) = first :: more :=
    ⟨_, by rw [hchars, List.filter_cons, if_pos (by simp [hbreak])]⟩
  have hbehind : ∀ c ∈ first :: more, c ≠ '?' ∧ c ≠ '#' :=
    fun c hc => hnames c (List.mem_of_mem_filter (hmore ▸ hc))
  have htext (ds : List Char) (hds : IsNames ds) := cleaned_eq base names hds
  rw [hmore] at htext
  generalize (base.toList.dropWhile isBlank).filter (fun c => !isBreak c) = front at hbefore htext
  cases hread : scheme? (front ++ ['/']) with
  | none =>
    refine (readsAlike_error .noScheme).congr (fun ds hds => ?_)
    rw [parse_eq, htext ds hds, scheme?_append_eq_none hread]
  | some read =>
    obtain ⟨scheme, left⟩ := read
    have hsuffix := suffix_of_scheme? hread
    obtain ⟨server, rfl, happend⟩ := scheme?_append hread
    have hquiet : ∀ c ∈ server ++ ['/'] ++ first :: more, c ≠ '?' ∧ c ≠ '#' :=
      List.forall_mem_append.mpr ⟨fun c hc => hbefore c (hsuffix.subset hc), hbehind⟩
    have hlength : 2 ≤ (server ++ ['/'] ++ first :: more).length := by
      simp only [List.length_append, List.length_cons]
      omega
    have hname : (server ++ ['/'] ++ first :: more).dropWhile (isSlash true) ≠ [] := by
      intro hnil
      have hall := List.dropWhile_eq_nil_iff.mp hnil first (by simp)
      rw [hslash] at hall
      cases hall
    refine (behindScheme_readsAlike scheme hlength hquiet hname).congr (fun ds hds => ?_)
    rw [parse_eq, htext ds hds, happend]
    simp

end LuaStubs.Url
