import LuaStubs.Proofs.Files.Path
import LuaStubs.Proofs.Url.Parser
import LuaStubs.Remote.Request

/-! What the requests ask for, as a server reads them: the address is cut at its marks and each part is
decoded.  Names and parameters arrive as they were meant. -/
namespace LuaStubs.Remote

open LuaStubs.Text
open LuaStubs.Encoding

/-! ## Resources -/

/-- The names on the way to a resource, and the parameters of the request. -/
structure Resource where
  names : List String
  parameters : List (String × String)
deriving DecidableEq, Repr

/-- A name and a value before and after the first `=`. -/
def parameter? (cs : List Char) : Option (String × String) := do
  let name ← Percent.decodeForm (cs.takeWhile (· ≠ '='))
  let value ← Percent.decodeForm ((cs.dropWhile (· ≠ '=')).drop 1)
  return (String.ofList name, String.ofList value)

def parameters? : Option (List Char) → Option (List (String × String))
  | none => some []
  | some query => (split (· = '&') query).mapM parameter?

/-- Whether two addresses are of one server. -/
def isSameServer (a b : Url) : Bool :=
  a.scheme = b.scheme ∧ a.user = b.user ∧ a.password = b.password ∧ a.host = b.host ∧
    a.port = b.port

/-- What an address stands for on the server at `base`, whose path ends with a slash. -/
def resource? (base u : Url) : Option Resource :=
  if isSameServer base u ∧ u.fragment = none ∧ base.path.dropLast <+: u.path then do
    let names ← (u.path.drop base.path.dropLast.length).mapM Percent.decode
    let parameters ← parameters? u.query
    return ⟨names.map String.ofList, parameters⟩
  else none

theorem isFormChar_ne {cs : List Char} {c : Char} (h : c ∈ Percent.form cs) :
    c ≠ '&' ∧ c ≠ '=' := by
  obtain ⟨d, -, hd⟩ := List.mem_flatMap.mp h
  split at hd
  · rw [List.mem_singleton.mp hd]
    decide
  · split at hd
    · next hplain =>
      rw [List.mem_singleton.mp hd]
      constructor <;>
        · rintro rfl
          revert hplain
          decide
    · have hescape := Percent.isEscapeChar_of_mem hd
      exact ⟨Percent.ne_of_isEscapeChar hescape (by decide) (by decide),
        Percent.ne_of_isEscapeChar hescape (by decide) (by decide)⟩

theorem parameter?_parameter (name value : String) :
    parameter? (Url.parameter name value) = some (name, value) := by
  have hname : ∀ c ∈ Percent.form name.toList, decide (c ≠ '=') = true :=
    fun c hc => by simpa using (isFormChar_ne hc).2
  have hequals : decide ('=' ≠ '=') = false := by decide
  rw [parameter?, Url.parameter, takeWhile_append_cons hequals, dropWhile_append_cons hequals,
    List.takeWhile_eq_self_iff.mpr hname, List.dropWhile_eq_nil_iff.mpr hname, List.nil_append,
    List.drop_one, List.tail_cons, Percent.decodeForm_form, Percent.decodeForm_form]
  simp

theorem parameters?_parameter (name value : String) :
    parameters? (some (Url.parameter name value)) = some [(name, value)] := by
  have hand : ∀ c ∈ Url.parameter name value, decide (c = '&') = false := by
    intro c hc
    rcases List.mem_append.mp hc with hc | hc
    · simpa using (isFormChar_ne hc).1
    · rcases List.mem_cons.mp hc with rfl | hc
      · decide
      · simpa using (isFormChar_ne hc).1
  rw [parameters?, split_of_no_mark hand, List.mapM_cons, parameter?_parameter]
  rfl

/-- Encoded names and an encoded parameter are read back. -/
theorem resource?_append {base : Url} {names : List String} {name value : String} :
    resource? base
        { base with
          path := base.path.dropLast ++ names.map (fun n => Percent.segment n.toList)
          query := some (Url.parameter name value)
          fragment := none } =
      some ⟨names, [(name, value)]⟩ := by
  have hnames : (names.map (fun n => Percent.segment n.toList)).mapM Percent.decode =
      some (names.map String.toList) := by
    rw [mapM_eq_some, List.forall₂_map_left_iff, List.forall₂_map_right_iff, List.forall₂_same]
    exact fun n _ => Percent.decode_segment n.toList
  have htexts : (names.map String.toList).map String.ofList = names := by simp
  unfold resource?
  rw [if_pos ⟨by simp [isSameServer], rfl, List.prefix_append _ _⟩, List.drop_left, hnames,
    parameters?_parameter]
  simp [htexts]

/-! ## Requests -/

/-- A name that stands for itself in an address. -/
def IsPlainName (name : String) : Prop :=
  name ≠ "" ∧ name ≠ "." ∧ name ≠ ".." ∧ ∀ c ∈ name.toList, Percent.isUnreserved c = true

instance (name : String) : Decidable (IsPlainName name) :=
  have : Decidable (∀ c ∈ name.toList, Percent.isUnreserved c = true) := List.decidableBAll _ _
  inferInstanceAs (Decidable (_ ∧ _ ∧ _ ∧ _))

theorem IsPlainName.segment {name : String} (h : IsPlainName name) :
    Percent.segment name.toList = name.toList :=
  Percent.encodeWith_of_plain h.2.2.2

/-- An address of the web without a query or a fragment. -/
structure IsBase (u : Url) : Prop where
  scheme : u.scheme = "http" ∨ u.scheme = "https"
  query : u.query = none
  fragment : u.fragment = none

/-- The address of names below a base. -/
theorem parse_names {base : String} {u : Url} (hparse : Url.parse (base ++ "/") = .ok u)
    (hbase : IsBase u) {names : List String} (hne : names ≠ [])
    (h : ∀ name ∈ names, name ≠ "." ∧ name ≠ "..") :
    Url.parse (base ++ "/" ++
        String.ofList (['/'].intercalate (names.map (fun n => Percent.segment n.toList)))) =
      .ok { u with path := u.path.dropLast ++ names.map (fun n => Percent.segment n.toList) } := by
  refine Url.parse_segments hparse hbase.scheme hbase.query hbase.fragment (by simpa using hne) ?_ ?_
  · intro segment hsegment c hc
    obtain ⟨name, -, rfl⟩ := List.mem_map.mp hsegment
    exact Percent.isSegmentChar_of_mem hc
  · intro segment hsegment
    obtain ⟨name, hname, rfl⟩ := List.mem_map.mp hsegment
    obtain ⟨hone, htwo⟩ := h name hname
    exact Url.isName_of_decode (Percent.decode_segment name.toList)
      (fun heq => hone (String.toList_inj.mp heq)) (fun heq => htwo (String.toList_inj.mp heq))

namespace Coordinates

variable {c : Coordinates} {u : Url} {authorization : Option String}

theorem request_of_parse {address : String} (htoken : c.authorization = .ok authorization)
    (hparse : Url.parse address = .ok u) (hquery : u.query = none)
    (hscheme : u.scheme = "http" ∨ u.scheme = "https") (name value : String) :
    c.request address name value =
      .ok ⟨{ u with query := some (Url.parameter name value) }, authorization⟩ := by
  have hurl : u.withParameter name value =
      { u with query := some (Url.parameter name value) } := by
    simp only [Url.withParameter, hquery]
  have hweb : (u.scheme = "http" || u.scheme = "https") = true := by simpa using hscheme
  rw [Coordinates.request, htoken, hparse]
  simp only [Except.mapError, bind, Except.bind, hurl]
  exact if_pos hweb

/-- A request for names below the base. -/
theorem request_names (hparse : Url.parse (c.base ++ "/") = .ok u) (hbase : IsBase u)
    (htoken : c.authorization = .ok authorization) {names : List String} (hne : names ≠ [])
    (h : ∀ name ∈ names, name ≠ "." ∧ name ≠ "..") (name value : String) :
    ∃ r, c.request (c.base ++ "/" ++
          String.ofList (['/'].intercalate (names.map (fun n => Percent.segment n.toList))))
          name value = .ok r ∧
      resource? u r.url = some ⟨names, [(name, value)]⟩ := by
  refine ⟨_, request_of_parse htoken (parse_names hparse hbase hne h) hbase.query hbase.scheme
    name value, ?_⟩
  rw [hbase.fragment]
  exact resource?_append

/-- The names of the repository and of the revision that is read. -/
structure IsPlain (c : Coordinates) : Prop where
  owner : IsPlainName c.owner
  repo : IsPlainName c.repo
  reference : IsPlainName c.reference

/-- Names that stand for themselves in front of others. -/
theorem encoded_append {plain : List String} (h : ∀ name ∈ plain, IsPlainName name)
    (names : List String) :
    (plain ++ names).map (fun n => Percent.segment n.toList) =
      plain.map String.toList ++ names.map (fun n => Percent.segment n.toList) := by
  rw [List.map_append, List.map_congr_left (fun name hname => (h name hname).segment)]

theorem treeUrl_eq (hc : c.IsPlain) :
    c.treeUrl = c.base ++ "/" ++ String.ofList (['/'].intercalate
      (["repos", c.owner, c.repo, "git", "trees", c.reference].map
        (fun n => Percent.segment n.toList))) := by
  have hplain : ∀ name ∈ ["repos", c.owner, c.repo, "git", "trees", c.reference],
      IsPlainName name := by
    simp [hc.owner, hc.repo, hc.reference]
    decide
  have hnames := encoded_append hplain []
  rw [List.append_nil] at hnames
  rw [hnames, ← String.toList_inj]
  simp [treeUrl, repository]

theorem contentsUrl_eq (hc : c.IsPlain) {path : String}
    (h : ∀ name ∈ Files.names path, Files.IsName name) :
    c.contentsUrl path = c.base ++ "/" ++ String.ofList (['/'].intercalate
      ((["repos", c.owner, c.repo, "contents"] ++ Files.names path).map
        (fun n => Percent.segment n.toList))) := by
  have hplain : ∀ name ∈ ["repos", c.owner, c.repo, "contents"], IsPlainName name := by
    simp [hc.owner, hc.repo]
    decide
  have hencoded : (Files.names path).map (fun n => Percent.segment n.toList) =
      (split isSlash path.toList).map Percent.segment := by
    rw [Files.names, List.map_map]
    refine List.map_congr_left (fun cs _ => ?_)
    rw [Function.comp_apply, String.toList_ofList]
  obtain ⟨first, rest, hsplit⟩ := List.exists_cons_of_ne_nil (split_ne_nil isSlash path.toList)
  have hpath : path.toList.dropWhile isSlash = path.toList := Files.dropWhile_isSlash h
  rw [encoded_append hplain, hencoded, ← String.toList_inj]
  simp [contentsUrl, repository, encodedPath, hpath, hsplit]

/-- Characters that a header holds: tabs, blanks and the visible characters of ASCII. -/
def IsSendable (c : Coordinates) : Prop :=
  ∀ token ∈ c.token, ∀ x ∈ token.toList, x = '\t' ∨ (32 ≤ x.toNat ∧ x.toNat < 127)

theorem authorization_of_isSendable (h : c.IsSendable) :
    ∃ authorization, c.authorization = .ok authorization := by
  unfold Coordinates.authorization
  cases htoken : c.token with
  | none => exact ⟨_, rfl⟩
  | some token =>
    have hall : token.toList.all isHeaderChar = true := by
      simpa [isHeaderChar] using h token htoken
    exact ⟨_, if_pos hall⟩

/-- A token with any other character is refused before anything is asked for. -/
theorem authorization_of_not_isSendable (h : ¬ c.IsSendable) :
    ∃ refusal, c.authorization = .error refusal := by
  unfold Coordinates.authorization
  cases htoken : c.token with
  | none =>
    refine absurd (fun token htoken' => ?_) h
    rw [htoken] at htoken'
    cases htoken'
  | some token =>
    have hall : ¬ token.toList.all isHeaderChar = true := by
      intro hall
      refine h (fun token' htoken' x hx => ?_)
      rw [htoken] at htoken'
      cases htoken'
      simpa [isHeaderChar] using List.all_eq_true.mp hall x hx
    exact ⟨_, if_neg hall⟩

/-- The listing is asked for under the names of the repository and the revision. -/
theorem listRequest_resource (hparse : Url.parse (c.base ++ "/") = .ok u) (hbase : IsBase u)
    (hc : c.IsPlain) (hsend : c.IsSendable) :
    ∃ r, c.listRequest = .ok r ∧ resource? u r.url =
      some ⟨["repos", c.owner, c.repo, "git", "trees", c.reference], [("recursive", "1")]⟩ := by
  obtain ⟨authorization, htoken⟩ := authorization_of_isSendable hsend
  have hdots : ∀ name ∈ ["repos", c.owner, c.repo, "git", "trees", c.reference],
      name ≠ "." ∧ name ≠ ".." := by
    simp [hc.owner.2.1, hc.owner.2.2.1, hc.repo.2.1, hc.repo.2.2.1, hc.reference.2.1,
      hc.reference.2.2.1]
  rw [Coordinates.listRequest, treeUrl_eq hc]
  exact request_names hparse hbase htoken (by simp) hdots "recursive" "1"

/-- A file is asked for under the names of its path: no two paths are asked for in the same way. -/
theorem fileRequest_resource (hparse : Url.parse (c.base ++ "/") = .ok u) (hbase : IsBase u)
    (hc : c.IsPlain) (hsend : c.IsSendable) {path : String}
    (h : ∀ name ∈ Files.names path, Files.IsName name) :
    ∃ r, c.fileRequest path = .ok r ∧ resource? u r.url =
      some ⟨["repos", c.owner, c.repo, "contents"] ++ Files.names path,
        [("ref", c.reference)]⟩ := by
  obtain ⟨authorization, htoken⟩ := authorization_of_isSendable hsend
  have hfront : ∀ name ∈ ["repos", c.owner, c.repo, "contents"], name ≠ "." ∧ name ≠ ".." := by
    simp [hc.owner.2.1, hc.owner.2.2.1, hc.repo.2.1, hc.repo.2.2.1]
  have hdots : ∀ name ∈ ["repos", c.owner, c.repo, "contents"] ++ Files.names path,
      name ≠ "." ∧ name ≠ ".." := by
    intro name hname
    rcases List.mem_append.mp hname with hname | hname
    · exact hfront name hname
    · exact ⟨(h name hname).2.1, (h name hname).2.2.1⟩
  rw [Coordinates.fileRequest, contentsUrl_eq hc h]
  exact request_names hparse hbase htoken (by simp) hdots "ref" c.reference

end Coordinates

end LuaStubs.Remote
