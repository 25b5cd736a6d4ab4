import LuaStubs.Proofs.Remote.Payload
import LuaStubs.Proofs.Remote.Reply
import LuaStubs.Proofs.Remote.Request
import LuaStubs.Remote.Source

/-! An API that offers the files of a repository: they are listed, and each is fetched as it was
stored. -/
namespace LuaStubs.Remote

open Json (Decoder)
open Repository (IsDescriptor descriptorPaths)

/-- What an API at `base` says of the revision: these files in this order, among anything else, and
the bytes of each. -/
structure Offers (api : Api) (base : Url) (c : Coordinates) (files : List (String × String)) :
    Prop where
  listing : ∀ r, resource? base r.url =
      some ⟨["repos", c.owner, c.repo, "git", "trees", c.reference], [("recursive", "1")]⟩ →
    ∃ body j t, api.body r = .ok body ∧ Decoder.json.run body = .ok j ∧
      Tree.schema j = some t ∧ t.items.filterMap Item.file? = files.map Prod.fst
  content : ∀ f ∈ files, ∀ r, resource? base r.url =
      some ⟨["repos", c.owner, c.repo, "contents"] ++ Files.names f.1, [("ref", c.reference)]⟩ →
    ∃ body j payload, api.body r = .ok body ∧ Decoder.json.run body = .ok j ∧
      File.schema j = some ⟨some payload⟩ ∧ Carries payload (stored f.2)

namespace Coordinates

/-- The API of a repository is found below an address of the web. -/
structure LeadsTo (c : Coordinates) (u : Url) : Prop where
  parse : Url.parse (c.base ++ "/") = .ok u
  base : IsBase u
  plain : c.IsPlain

variable {c : Coordinates} {u : Url} {api : Api} {files : List (String × String)}

theorem list_of_offers (hc : c.LeadsTo u) (hsend : c.IsSendable) (h : Offers api u c files) :
    ∃ listing, c.list api = .ok listing ∧
      descriptorPaths listing.entries =
        (files.map Prod.fst).filter (fun path => IsDescriptor path) := by
  obtain ⟨r, hr, hresource⟩ := listRequest_resource hc.parse hc.base hc.plain hsend
  obtain ⟨body, j, t, hbody, hj, ht, hfiles⟩ := h.listing r hresource
  refine ⟨t.listing, ?_, by rw [t.descriptorPaths_listing, hfiles]⟩
  have hread := readBody_of_reads Tree.reads_decoder hj ht
  rw [Coordinates.list, hr, exchange, hbody]
  simp only [Except.mapError, bind, Except.bind, hread]
  rfl

theorem list_of_not_isSendable (h : ¬ c.IsSendable) (api : Api) :
    ∃ message, c.list api = .error (.listing message) := by
  obtain ⟨refusal, hrefusal⟩ := authorization_of_not_isSendable h
  refine ⟨refusal.message, ?_⟩
  rw [Coordinates.list, listRequest, request, hrefusal]
  rfl

theorem fetch_of_offers (hc : c.LeadsTo u) (hsend : c.IsSendable) (h : Offers api u c files)
    {f : String × String} (hf : f ∈ files) (hnames : ∀ name ∈ Files.names f.1, Files.IsName name) :
    c.fetch api f.1 = .ok (some f.2) := by
  obtain ⟨r, hr, hresource⟩ := fileRequest_resource hc.parse hc.base hc.plain hsend hnames
  obtain ⟨body, j, payload, hbody, hj, hpayload, hcarries⟩ := h.content f hf r hresource
  have hread := readBody_of_reads File.reads_decoder hj hpayload
  rw [Coordinates.fetch, hr, exchange, hbody]
  simp only [Except.mapError, bind, Except.bind, hread, textOf_of_carries f.1 hcarries]
  rfl

end Coordinates

end LuaStubs.Remote
