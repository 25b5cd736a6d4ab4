import LuaStubs.Proofs.Remote.Request
import LuaStubs.Proofs.Url.Authority

/-! The two ways in which a reference enters an address.  As a parameter it always arrives; behind the
path of the listing it does as long as it means nothing there. -/
namespace LuaStubs.Remote

open LuaStubs.Text
open LuaStubs.Encoding

namespace Coordinates

variable {c : Coordinates} {u : Url} {authorization : Option String}

/-! ## The repository -/

/-- Neither name of the repository begins a query or a fragment. -/
def HasQuietNames (c : Coordinates) : Prop :=
  ∀ x ∈ c.owner.toList ++ c.repo.toList, x ≠ '?' ∧ x ≠ '#'

theorem parse_repository (hparse : Url.parse (c.base ++ "/") = .ok u) (hbase : IsBase u)
    (hnames : c.HasQuietNames) :
    ∃ u', Url.parse (c.repository ++ "/") = .ok u' ∧ IsBase u' := by
  obtain ⟨howner, hrepo⟩ := List.forall_mem_append.mp hnames
  obtain ⟨front, -, hother⟩ :=
    Url.parse_quiet hparse hbase.scheme hbase.query hbase.fragment
  have htext : c.repository ++ "/" = c.base ++ "/" ++ ("repos/" ++ c.owner ++ "/" ++ c.repo ++ "/") := by
    rw [← String.toList_inj]
    simp [repository]
  have hquiet : ∀ x ∈ ("repos/" ++ c.owner ++ "/" ++ c.repo ++ "/").toList, x ≠ '?' ∧ x ≠ '#' := by
    have hslash : ∀ x ∈ "/".toList, x ≠ '?' ∧ x ≠ '#' := forall_mem_of_all (by decide)
    have hrepos : ∀ x ∈ "repos/".toList, x ≠ '?' ∧ x ≠ '#' := forall_mem_of_all (by decide)
    simp only [String.toList_append, List.forall_mem_append]
    exact ⟨⟨⟨⟨hrepos, howner⟩, hslash⟩, hrepo⟩, hslash⟩
  rw [htext, hother _ hquiet]
  exact ⟨_, rfl, hbase.scheme, hbase.query, hbase.fragment⟩

/-! ## The reference as a parameter -/

theorem isNames_encodedPath (path : String) : Url.IsNames (encodedPath path) := by
  intro x hx
  rcases mem_of_mem_intercalate hx with rfl | ⟨name, hname, hx⟩
  · exact .inr rfl
  · obtain ⟨piece, -, rfl⟩ := List.mem_map.mp hname
    exact .inl (Percent.isSegmentChar_of_mem hx)

theorem isQuiet_encodedPath (path : String) : ∀ x ∈ encodedPath path, Url.IsQuiet x :=
  (isNames_encodedPath path).isQuiet

/-- Whatever file is asked for, it is asked for in the revision of the reference. -/
theorem fileRequest_reference (hparse : Url.parse (c.repository ++ "/") = .ok u) (hbase : IsBase u)
    (htoken : c.authorization = .ok authorization) (path : String) :
    ∃ r, c.fileRequest path = .ok r ∧ parameters? r.url.query = some [("ref", c.reference)] := by
  obtain ⟨front, -, hother⟩ :=
    Url.parse_quiet hparse hbase.scheme hbase.query hbase.fragment
  have htext : c.contentsUrl path =
      c.repository ++ "/" ++ ("contents/" ++ String.ofList (encodedPath path)) := by
    rw [← String.toList_inj]
    simp [contentsUrl]
  have hquiet : ∀ x ∈ ("contents/" ++ String.ofList (encodedPath path)).toList,
      x ≠ '?' ∧ x ≠ '#' := by
    have hcontents : ∀ x ∈ "contents/".toList, x ≠ '?' ∧ x ≠ '#' := forall_mem_of_all (by decide)
    simp only [String.toList_append, String.toList_ofList, List.forall_mem_append]
    exact ⟨hcontents, fun x hx => (isQuiet_encodedPath path x hx).2.2⟩
  have haddress := hother _ hquiet
  rw [← htext] at haddress
  refine ⟨_, request_of_parse htoken haddress hbase.query hbase.scheme "ref" c.reference, ?_⟩
  exact parameters?_parameter "ref" c.reference

/-! ## The reference as a path -/

/-- A reference that means nothing but itself at the end of an address: without marks, breaks and
escapes, without a blank at its end and without dots to go by. -/
structure IsVerbatim (reference : String) : Prop where
  marks : ∀ x ∈ reference.toList, x ≠ '?' ∧ x ≠ '#' ∧ x ≠ '\\' ∧ Url.isBreak x = false
  last : ∀ x, reference.toList.getLast? = some x → Url.isBlank x = false
  dots : ∀ name ∈ Files.names reference, name ≠ "." ∧ name ≠ ".."
  escapes : Percent.IsUnescaped reference.toList

/-- The listing is asked for under the decoded end of the path, which is the reference, and with all
that is below. -/
def ListsReference (c : Coordinates) (r : Request) : Prop :=
  ∃ u rest, Url.parse (c.repository ++ "/") = .ok u ∧
    r.url.pathText = u.pathText ++ "git/trees/".toList ++ rest ∧
    Percent.decode rest = some c.reference.toList ∧ r.url.query = some "recursive=1".toList

/-- The path of a base ends with a slash. -/
theorem path_of_parse {base : String} (hparse : Url.parse (base ++ "/") = .ok u) (hbase : IsBase u) :
    u.path = u.path.dropLast ++ [[]] := by
  obtain ⟨front, hpath, -⟩ := Url.parse_quiet hparse hbase.scheme hbase.query hbase.fragment
  have hnil : ∀ piece ∈ split (Url.isSlash true) [],
      Url.IsName (Percent.encodeWith Url.isPathPlain piece) := by
    simp [split, Percent.encodeWith, Url.IsName, Url.dots]
  rw [hpath]
  exact Url.segments_append front hnil

/-- A text that means nothing but its segments is added to the path of a base as it stands, up to the
characters that no path holds. -/
theorem parse_path {base text : String} (hparse : Url.parse (base ++ "/") = .ok u) (hbase : IsBase u)
    (hmarks : ∀ x ∈ text.toList, x ≠ '?' ∧ x ≠ '#' ∧ x ≠ '\\' ∧ Url.isBreak x = false)
    (hlast : ∀ x, text.toList.getLast? = some x → Url.isBlank x = false)
    (hnames : ∀ piece ∈ split Files.isSlash text.toList,
      Url.IsName (Percent.encodeWith Url.isPathPlain piece)) :
    ∃ path, Url.parse (base ++ "/" ++ text) = .ok { u with path := path } ∧
      path.flatMap (fun piece => '/' :: piece) =
        u.pathText ++ Percent.encodeWith Url.isPathPlain text.toList := by
  have hslash : ∀ x, Files.isSlash x = true ↔ x = '/' := by simp [Files.isSlash]
  have hplain : Url.isPathPlain '/' = true := by decide
  have hkept : Url.kept text.toList = text.toList :=
    Url.kept_eq_self (fun x hx => (hmarks x hx).2.2.2) hlast
  have hsplit : split (Url.isSlash true) text.toList = split Files.isSlash text.toList :=
    split_congr (fun x hx => by simp [Url.isSlash, Files.isSlash, (hmarks x hx).2.2.1])
  have haddress := Url.parse_append hparse hbase.scheme hbase.query hbase.fragment
    (fun x hx => ⟨(hmarks x hx).1, (hmarks x hx).2.1⟩) hkept (hsplit ▸ hnames)
  rw [hsplit] at haddress
  refine ⟨_, haddress, ?_⟩
  have hne : (split Files.isSlash text.toList).map (Percent.encodeWith Url.isPathPlain) ≠ [] := by
    simp [split_ne_nil]
  have hbehind : u.pathText = u.path.dropLast.flatMap (fun piece => '/' :: piece) ++ ['/'] := by
    rw [Url.pathText, path_of_parse hparse hbase, List.flatMap_append]
    simp
  rw [List.flatMap_append, flatMap_cons_eq hne, ← Percent.encodeWith_intercalate hplain,
    intercalate_split hslash, hbehind, List.append_assoc]
  rfl

theorem IsVerbatim.isName {reference : String} (h : IsVerbatim reference) {piece : List Char}
    (hpiece : piece ∈ split Files.isSlash reference.toList) :
    Url.IsName (Percent.encodeWith Url.isPathPlain piece) := by
  have hslash : ∀ x, Files.isSlash x = true ↔ x = '/' := by simp [Files.isSlash]
  have hpart : piece <:+: ['/'].intercalate (split Files.isSlash reference.toList) :=
    part_of_mem hpiece
  rw [intercalate_split hslash] at hpart
  have hname : String.ofList piece ∈ Files.names reference := List.mem_map_of_mem hpiece
  obtain ⟨hone, htwo⟩ := h.dots _ hname
  have hdecode := Percent.decode_encodeWith_of_isUnescaped Url.isPathPlain (h.escapes.part hpart)
  refine Url.isName_of_decode hdecode ?_ ?_
  · rintro rfl
    exact hone rfl
  · rintro rfl
    exact htwo rfl

/-- A reference that means nothing but itself is what the listing is asked for under. -/
theorem listRequest_reference (hparse : Url.parse (c.repository ++ "/") = .ok u) (hbase : IsBase u)
    (htoken : c.authorization = .ok authorization) (h : IsVerbatim c.reference) :
    ∃ r, c.listRequest = .ok r ∧ c.ListsReference r := by
  have hchars : ("git/trees/" ++ c.reference).toList =
      "git/trees/".toList ++ c.reference.toList := String.toList_append
  have hmarks : ∀ x ∈ ("git/trees/" ++ c.reference).toList,
      x ≠ '?' ∧ x ≠ '#' ∧ x ≠ '\\' ∧ Url.isBreak x = false := by
    rw [hchars]
    exact List.forall_mem_append.mpr ⟨forall_mem_of_all (by decide), h.marks⟩
  have hlast : ∀ x, ("git/trees/" ++ c.reference).toList.getLast? = some x →
      Url.isBlank x = false := by
    intro x hx
    rw [hchars, List.getLast?_append] at hx
    cases hreference : c.reference.toList.getLast? with
    | none =>
      rw [hreference] at hx
      obtain rfl : '/' = x := by simpa using hx
      decide
    | some y =>
      rw [hreference] at hx
      obtain rfl : y = x := by simpa using hx
      exact h.last y hreference
  have hpieces : split Files.isSlash ("git/trees/" ++ c.reference).toList =
      "git".toList :: "trees".toList :: split Files.isSlash c.reference.toList := by
    rw [hchars]
    simp [split, Files.isSlash]
  have hnames : ∀ piece ∈ split Files.isSlash ("git/trees/" ++ c.reference).toList,
      Url.IsName (Percent.encodeWith Url.isPathPlain piece) := by
    rw [hpieces]
    exact List.forall_mem_cons.mpr ⟨by decide, List.forall_mem_cons.mpr
      ⟨by decide, fun piece hpiece => h.isName hpiece⟩⟩
  obtain ⟨path, haddress, hpath⟩ := parse_path hparse hbase hmarks hlast hnames
  have htext : c.treeUrl = c.repository ++ "/" ++ ("git/trees/" ++ c.reference) := by
    rw [← String.toList_inj]
    simp [treeUrl]
  have hplain : Percent.encodeWith Url.isPathPlain "git/trees/".toList = "git/trees/".toList := by
    decide
  rw [← htext] at haddress
  refine ⟨_, request_of_parse htoken haddress hbase.query hbase.scheme "recursive" "1", u,
    Percent.encodeWith Url.isPathPlain c.reference.toList, hparse, ?_,
    Percent.decode_encodeWith_of_isUnescaped _ h.escapes, ?_⟩
  · rw [List.append_assoc, ← hplain, ← Percent.encodeWith_append, ← hchars]
    exact hpath
  · exact congrArg some (by decide : Url.parameter "recursive" "1" = "recursive=1".toList)

/-- Every file is asked for in the revision of the reference, and a reference that means nothing but
itself is what the listing is asked for under. -/
theorem requests_reference (hparse : Url.parse (c.base ++ "/") = .ok u) (hbase : IsBase u)
    (hnames : c.HasQuietNames) (hsend : c.IsSendable) :
    (∀ path, ∃ r, c.fileRequest path = .ok r ∧
      parameters? r.url.query = some [("ref", c.reference)]) ∧
    (IsVerbatim c.reference → ∃ r, c.listRequest = .ok r ∧ c.ListsReference r) := by
  obtain ⟨authorization, htoken⟩ := authorization_of_isSendable hsend
  obtain ⟨u', hrepository, hbase'⟩ := parse_repository hparse hbase hnames
  exact ⟨fun path => fileRequest_reference hrepository hbase' htoken path,
    fun h => listRequest_reference hrepository hbase' htoken h⟩

/-! ## Two references -/

def inRevision (reference : String) : Coordinates := ⟨none, "o", "r", reference, "http://[::1]"⟩

def localBase : Url := ⟨"http", [], [], .ipv6 [0, 0, 0, 0, 0, 0, 0, 1], none, [[]], none, none⟩

theorem parse_localBase (reference : String) :
    Url.parse ((inRevision reference).base ++ "/") = .ok localBase := by
  show Url.parse ((inRevision "").base ++ "/") = _
  decide

theorem isBase_localBase : IsBase localBase := ⟨.inl rfl, rfl, rfl⟩

theorem hasQuietNames_inRevision (reference : String) : (inRevision reference).HasQuietNames := by
  show ∀ x ∈ "o".toList ++ "r".toList, x ≠ '?' ∧ x ≠ '#'
  exact forall_mem_of_all (by decide)

theorem isSendable_inRevision (reference : String) : (inRevision reference).IsSendable := by
  rintro token ⟨⟩

theorem isVerbatim_sample : IsVerbatim "fix/50%&é" where
  marks := forall_mem_of_all (by decide)
  last x hx := by
    obtain rfl : 'é' = x := by simpa using hx
    decide
  dots := by decide
  escapes := by
    have hand : Percent.digit? '&' = none := by decide
    have hend : Percent.IsUnescaped ['%', '&', 'é'] := by
      refine Percent.isUnescaped_cons.mpr ⟨?_, Percent.isUnescaped_of_not_mem (by decide)⟩
      rintro - a b rest ⟨⟩
      exact .inl hand
    have hfront : '%' ∉ "fix/50".toList := by decide
    exact Percent.isUnescaped_append hfront hend

theorem requests_reference_sample :
    (Url.parse ((inRevision "fix/50%&é").base ++ "/") = .ok localBase ∧ IsBase localBase ∧
      (inRevision "fix/50%&é").HasQuietNames ∧ (inRevision "fix/50%&é").IsSendable ∧
      IsVerbatim (inRevision "fix/50%&é").reference) ∧
    (∀ path, ∃ r, (inRevision "fix/50%&é").fileRequest path = .ok r ∧
      parameters? r.url.query = some [("ref", "fix/50%&é")]) ∧
    ∃ r, (inRevision "fix/50%&é").listRequest = .ok r ∧ (inRevision "fix/50%&é").ListsReference r := by
  have hboth := requests_reference (parse_localBase "fix/50%&é") isBase_localBase
    (hasQuietNames_inRevision _) (isSendable_inRevision _)
  exact ⟨⟨parse_localBase _, isBase_localBase, hasQuietNames_inRevision _, isSendable_inRevision _,
    isVerbatim_sample⟩, hboth.1, hboth.2 isVerbatim_sample⟩

/-- Behind a `#` nothing of the reference is sent with the request for the listing. -/
theorem listRequest_cuts_reference :
    (Url.parse ((inRevision "a#b").base ++ "/") = .ok localBase ∧ IsBase localBase ∧
      (inRevision "a#b").HasQuietNames ∧ (inRevision "a#b").IsSendable) ∧
    ∃ r, (inRevision "a#b").listRequest = .ok r ∧ ¬ (inRevision "a#b").ListsReference r := by
  have haddress : Url.parse (inRevision "a#b").treeUrl =
      .ok { localBase with
        path := [['r', 'e', 'p', 'o', 's'], ['o'], ['r'], ['g', 'i', 't'],
          ['t', 'r', 'e', 'e', 's'], ['a']]
        fragment := some ['b'] } := by
    decide
  have hrepository : Url.parse ((inRevision "a#b").repository ++ "/") =
      .ok { localBase with path := [['r', 'e', 'p', 'o', 's'], ['o'], ['r'], []] } := by
    decide
  refine ⟨⟨parse_localBase _, isBase_localBase, hasQuietNames_inRevision _, isSendable_inRevision _⟩,
    _, request_of_parse rfl haddress rfl (.inl rfl) "recursive" "1", ?_⟩
  rintro ⟨u, rest, hu, hpath, hdecode, -⟩
  obtain rfl := Except.ok.inj (hrepository.symm.trans hu)
  have hsent : "/repos/o/r/git/trees/".toList ++ ['a'] = "/repos/o/r/git/trees/".toList ++ rest := by
    exact hpath
  obtain rfl : ['a'] = rest := List.append_cancel_left hsent
  revert hdecode
  decide

end Coordinates

end LuaStubs.Remote
