import LuaStubs.Proofs.Remote.Reference
import LuaStubs.Remote.Source

/-! What a path can do to the request for its file: it becomes the end of the path that is asked for,
and nothing else of the request depends on it. -/
namespace LuaStubs.Remote

open LuaStubs.Text
open LuaStubs.Encoding

/-- Two URLs that agree in all parts but their paths: scheme, user, password, host, port, query and
fragment. -/
def DifferInPath (u v : Url) : Prop := v = { u with path := v.path }

namespace Coordinates

variable {c : Coordinates} {u : Url} {authorization : Option String}

/-! ## The address of a file -/

/-- The names in front of the path of a file. -/
def contents (c : Coordinates) : String := "repos/" ++ c.owner ++ "/" ++ c.repo ++ "/contents"

theorem contentsUrl_eq_append (c : Coordinates) (path : String) :
    c.contentsUrl path =
      c.base ++ "/" ++ c.contents ++ "/" ++ String.ofList (encodedPath path) := by
  rw [← String.toList_inj]
  simp [contentsUrl, repository, contents]

theorem mem_of_mem_base {x : Char} (h : x ∈ c.base.toList) : x ∈ c.api.toList := by
  rw [base, String.toList_ofList] at h
  exact mem_of_mem_dropEnd h

theorem HasQuietNames.contents (h : c.HasQuietNames) :
    ∀ x ∈ c.contents.toList, x ≠ '?' ∧ x ≠ '#' := by
  obtain ⟨howner, hrepo⟩ := List.forall_mem_append.mp h
  have hrepos : ∀ x ∈ "repos/".toList, x ≠ '?' ∧ x ≠ '#' := forall_mem_of_all (by decide)
  have hslash : ∀ x ∈ "/".toList, x ≠ '?' ∧ x ≠ '#' := forall_mem_of_all (by decide)
  have hcontents : ∀ x ∈ "/contents".toList, x ≠ '?' ∧ x ≠ '#' := forall_mem_of_all (by decide)
  simp only [Coordinates.contents, String.toList_append, List.forall_mem_append]
  exact ⟨⟨⟨⟨hrepos, howner⟩, hslash⟩, hrepo⟩, hcontents⟩

/-- The addresses of all files are read alike. -/
theorem contentsUrl_readsAlike (hapi : ∀ x ∈ c.api.toList, x ≠ '?' ∧ x ≠ '#')
    (hnames : c.HasQuietNames) :
    (∃ fault, ∀ path, Url.parse (c.contentsUrl path) = .error fault) ∨
    ∃ u : Url, u.query = none ∧ u.fragment = none ∧
      ∀ path, ∃ names, Url.parse (c.contentsUrl path) = .ok { u with path := names } := by
  have hbase : ∀ x ∈ c.base.toList, x ≠ '?' ∧ x ≠ '#' := fun x hx => hapi x (mem_of_mem_base hx)
  have hfirst : c.contents.toList =
      'r' :: ("epos/" ++ c.owner ++ "/" ++ c.repo ++ "/contents").toList := by
    simp [contents]
  have hread := Url.parse_readsAlike hbase hnames.contents hfirst (.inl (by decide))
  rcases hread with ⟨fault, hread⟩ | ⟨u, hquery, hfragment, hread⟩
  · refine .inl ⟨fault, fun path => ?_⟩
    rw [contentsUrl_eq_append]
    exact hread _ (isNames_encodedPath path)
  · refine .inr ⟨u, hquery, hfragment, fun path => ?_⟩
    rw [contentsUrl_eq_append]
    exact hread _ (isNames_encodedPath path)

/-! ## Refusals -/

theorem request_of_authorization {refusal : Refusal} (h : c.authorization = .error refusal)
    (address name value : String) : c.request address name value = .error refusal := by
  rw [request, h]
  rfl

theorem request_of_fault {address : String} {fault : Url.Fault}
    (htoken : c.authorization = .ok authorization) (hparse : Url.parse address = .error fault)
    (name value : String) : c.request address name value = .error (.url fault) := by
  rw [request, htoken, hparse]
  rfl

theorem request_of_scheme {address : String} (htoken : c.authorization = .ok authorization)
    (hparse : Url.parse address = .ok u) (hquery : u.query = none)
    (hscheme : ¬ (u.scheme = "http" ∨ u.scheme = "https")) (name value : String) :
    c.request address name value =
      .error (.scheme { u with query := some (Url.parameter name value) }) := by
  have hurl : u.withParameter name value = { u with query := some (Url.parameter name value) } := by
    simp only [Url.withParameter, hquery]
  have hother : ¬ (u.scheme = "http" || u.scheme = "https") = true := by simpa using hscheme
  rw [request, htoken, hparse]
  simp only [Except.mapError, bind, Except.bind, hurl]
  exact if_neg hother

/-- The reasons for which the requests for two files are refused are the same, up to the paths of the
URLs that they name. -/
def AlikeRefusals (e e' : Refusal) : Prop :=
  e' = e ∨ ∃ u v, e = .scheme u ∧ e' = .scheme v ∧ DifferInPath u v

/-- A request that is refused is not sent, whatever would come back. -/
theorem fetch_of_refusal {path : String} {e : Refusal} (h : c.fileRequest path = .error e)
    (api : Api) : c.fetch api path = .error (.fetch path e.message) := by
  rw [fetch, h]
  rfl

/-! ## Requests for two files -/

/-- Neither of two files is asked for, for reasons that are alike; to read them fails for these,
whatever the API would reply. -/
def RefusesBoth (c : Coordinates) (p q : String) : Prop :=
  ∃ e e', c.fileRequest p = .error e ∧ c.fileRequest q = .error e' ∧ AlikeRefusals e e' ∧
    c.sent false [p, q] = [] ∧
    ∀ api, c.fetch api p = .error (.fetch p e.message) ∧
      c.fetch api q = .error (.fetch q e'.message)

/-- Both of two files are asked for, on the same server and in the revision of the reference: the
requests differ in the paths of their URLs only. -/
def AsksAlike (c : Coordinates) (p q : String) : Prop :=
  ∃ r r', c.fileRequest p = .ok r ∧ c.fileRequest q = .ok r' ∧ c.sent false [p, q] = [r, r'] ∧
    DifferInPath r.url r'.url ∧ r.url.fragment = none ∧
    parameters? r.url.query = some [("ref", c.reference)] ∧ r'.authorization = r.authorization

theorem refusesBoth_of_alike {p q : String} {e e' : Refusal} (he : c.fileRequest p = .error e)
    (he' : c.fileRequest q = .error e') (halike : AlikeRefusals e e') : c.RefusesBoth p q := by
  refine ⟨e, e', he, he', halike, ?_, fun api => ⟨fetch_of_refusal he api, fetch_of_refusal he' api⟩⟩
  simp [sent, he, he', Except.toOption]

theorem asksAlike_of_parse {p q : String} {path path' : List (List Char)}
    (htoken : c.authorization = .ok authorization)
    (hp : Url.parse (c.contentsUrl p) = .ok { u with path := path })
    (hq : Url.parse (c.contentsUrl q) = .ok { u with path := path' }) (hquery : u.query = none)
    (hfragment : u.fragment = none) (hscheme : u.scheme = "http" ∨ u.scheme = "https") :
    c.AsksAlike p q := by
  have hr := request_of_parse htoken hp hquery hscheme "ref" c.reference
  have hr' := request_of_parse htoken hq hquery hscheme "ref" c.reference
  refine ⟨_, _, hr, hr', ?_, rfl, hfragment, parameters?_parameter "ref" c.reference, rfl⟩
  simp [sent, fileRequest, hr, hr', Except.toOption]

/-- No path of a file reaches the server, the token, the query or the fragment of its request. -/
theorem fileRequest_confined (hapi : ∀ x ∈ c.api.toList, x ≠ '?' ∧ x ≠ '#')
    (hnames : c.HasQuietNames) (p q : String) : c.RefusesBoth p q ∨ c.AsksAlike p q := by
  cases htoken : c.authorization with
  | error e =>
    exact .inl (refusesBoth_of_alike (request_of_authorization htoken _ _ _)
      (request_of_authorization htoken _ _ _) (.inl rfl))
  | ok authorization =>
    rcases contentsUrl_readsAlike hapi hnames with ⟨fault, hread⟩ | ⟨u, hquery, hfragment, hread⟩
    · exact .inl (refusesBoth_of_alike (request_of_fault htoken (hread p) _ _)
        (request_of_fault htoken (hread q) _ _) (.inl rfl))
    · obtain ⟨path, hp⟩ := hread p
      obtain ⟨path', hq⟩ := hread q
      by_cases hscheme : u.scheme = "http" ∨ u.scheme = "https"
      · exact .inr (asksAlike_of_parse htoken hp hq hquery hfragment hscheme)
      · exact .inl (refusesBoth_of_alike (request_of_scheme htoken hp hquery hscheme _ _)
          (request_of_scheme htoken hq hquery hscheme _ _) (.inr ⟨_, _, rfl, rfl, rfl⟩))

/-- A path that tries all there is goes where any other goes. -/
theorem fileRequest_confined_sample :
    ((∀ x ∈ (inRevision "main").api.toList, x ≠ '?' ∧ x ≠ '#') ∧
      (inRevision "main").HasQuietNames) ∧
    (inRevision "main").AsksAlike "LICENSE" "..//\\@evil:80/%2e%2E/?ref=x#y" := by
  have hapi : ∀ x ∈ (inRevision "main").api.toList, x ≠ '?' ∧ x ≠ '#' :=
    forall_mem_of_all (by decide)
  obtain ⟨u, hrepository, hbase⟩ :=
    parse_repository (parse_localBase "main") isBase_localBase (hasQuietNames_inRevision "main")
  obtain ⟨r, hasked, -⟩ := fileRequest_reference hrepository hbase rfl "LICENSE"
  refine ⟨⟨hapi, hasQuietNames_inRevision _⟩, ?_⟩
  rcases fileRequest_confined hapi (hasQuietNames_inRevision "main") "LICENSE"
    "..//\\@evil:80/%2e%2E/?ref=x#y" with ⟨e, e', hrefused, -⟩ | halike
  · rw [hasked] at hrefused
    cases hrefused
  · exact halike

/-! ## A scheme that no request has -/

def overFtp : Coordinates := ⟨none, "o", "r", "main", "ftp://[::1]"⟩

def ftpUrl (name : Char) : Url where
  scheme := "ftp"
  user := []
  password := []
  host := .ipv6 [0, 0, 0, 0, 0, 0, 0, 1]
  port := none
  path := ["repos".toList, ['o'], ['r'], "contents".toList, [name]]
  query := some "ref=main".toList
  fragment := none

/-- The message about a scheme names the whole URL, and so the path. -/
theorem scheme_message_names_path :
    ((∀ x ∈ overFtp.api.toList, x ≠ '?' ∧ x ≠ '#') ∧ overFtp.HasQuietNames) ∧
    ∃ e e', overFtp.fileRequest "a" = .error e ∧ overFtp.fileRequest "b" = .error e' ∧
      e.message ≠ e'.message := by
  have hnames : ∀ x ∈ "o".toList ++ "r".toList, x ≠ '?' ∧ x ≠ '#' := forall_mem_of_all (by decide)
  refine ⟨⟨forall_mem_of_all (by decide), hnames⟩, .scheme (ftpUrl 'a'), .scheme (ftpUrl 'b'), ?_⟩
  exact ⟨by decide, by decide, by decide⟩

end Coordinates

end LuaStubs.Remote
