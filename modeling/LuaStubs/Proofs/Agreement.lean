import LuaStubs.Proofs.Checkout
import LuaStubs.Proofs.Export
import LuaStubs.Proofs.Remote.Source
import LuaStubs.Proofs.Repository.Workers

/-! A repository behind an API and a folder that holds its files come to the same documentation. -/
namespace LuaStubs

open Json (Decoder Legible)
open Repository (IsDescriptor Source collect collect_mayYield collect_of_paths)

/-! ## Sources with the same texts -/

namespace Repository

/-- The descriptors that a source lists are those among these files, in their order, and it has the
texts of these files. -/
structure Source.Tells (s : Source) (files : List (String × String)) : Prop where
  listing : ∃ listing, s.list = .ok listing ∧
    descriptorPaths listing.entries = (files.map Prod.fst).filter (fun path => IsDescriptor path)
  text : ∀ f ∈ files, s.fetch f.1 = .ok (some f.2)

variable {s s' : Source} {files : List (String × String)}

theorem descriptorPaths_blobs (paths : List String) :
    descriptorPaths (paths.map (Entry.mk .blob)) =
      paths.filter (fun path => IsDescriptor path) := by
  unfold descriptorPaths
  rw [List.filter_map, List.map_map]
  exact (List.map_id _).trans (List.filter_congr (fun path _ => by simp))

theorem Source.Tells.paths_eq (h : s.Tells files) :
    s.paths = .ok ((files.map Prod.fst).filter (fun path => IsDescriptor path)) :=
  Source.paths_eq_ok.mpr h.listing

theorem Source.Tells.fetch_eq (h : s.Tells files) (h' : s'.Tells files) {path : String}
    (hpath : path ∈ (files.map Prod.fst).filter (fun path => IsDescriptor path)) :
    s.fetch path = s'.fetch path := by
  obtain ⟨f, hf, rfl⟩ := List.mem_map.mp (List.mem_of_mem_filter hpath)
  rw [h.text f hf, h'.text f hf]

/-- Only the descriptors and their texts count. -/
theorem Source.Tells.result_eq (h : s.Tells files) (h' : s'.Tells files) :
    (collect s).result = (collect s').result := by
  have hreading := reading_congr
    (fun p hp => h.fetch_eq h' ((fetched_reading_front s' _).subset hp))
  rw [(collect_of_paths h.paths_eq).1, (collect_of_paths h'.paths_eq).1, hreading]

theorem Source.Tells.mayYield (h : s.Tells files) (h' : s'.Tells files)
    {result : Except Failure Docs} (hresult : s.MayYield result) : s'.MayYield result := by
  refine hresult.congr (h'.paths_eq.trans h.paths_eq.symm) (fun paths hpaths p hp => ?_)
  rw [h.paths_eq] at hpaths
  obtain rfl := Except.ok.inj hpaths
  exact h'.fetch_eq h hp

theorem Source.Tells.failure_eq_decode (h : s.Tells files) {path : String}
    (hpath : path ∈ files.map Prod.fst) {e : Failure} (he : s.failure? path = some e) :
    ∃ message, e = .decode path message := by
  obtain ⟨f, hf, rfl⟩ := List.mem_map.mp hpath
  rw [Source.failure?, Source.declared, h.text f hf] at he
  by_cases henums : f.1 = "Enums.json"
  · simp only [henums, if_true] at he ⊢
    cases hread : EnumTable.read f.2 with
    | error fault =>
      simp only [hread] at he
      exact ⟨_, (Option.some.inj he).symm⟩
    | ok enums => simp only [hread] at he; cases he
  · simp only [henums, if_false] at he
    cases hread : Class.decoder.run f.2 with
    | error problem =>
      simp only [hread] at he
      exact ⟨_, (Option.some.inj he).symm⟩
    | ok c => simp only [hread] at he; cases he

/-- A text that cannot be read is the only thing that can go wrong. -/
theorem Source.Tells.ok_or_decode (h : s.Tells files) {result : Except Failure Docs}
    (hresult : s.MayYield result) :
    (∃ d, result = .ok d) ∨ ∃ path message, result = .error (.decode path message) := by
  cases result with
  | ok d => exact .inl ⟨d, rfl⟩
  | error e =>
    obtain ⟨path, hpath, he⟩ := (mayYield_error_iff h.paths_eq).mp hresult
    obtain ⟨message, rfl⟩ := h.failure_eq_decode (List.mem_of_mem_filter hpath) he
    exact .inr ⟨path, message, rfl⟩

end Repository

/-! ## Both sources -/

open Remote (Api Coordinates Offers stored)
open Repository (descriptorPaths_blobs)

theorem Remote.Coordinates.tells {c : Coordinates} {u : Url} {api : Api}
    {files : List (String × String)} (hc : c.LeadsTo u) (hsend : c.IsSendable)
    (h : Offers api u c files)
    (hnames : ∀ f ∈ files, ∀ name ∈ Files.names f.1, Files.IsName name) :
    (c.source api).Tells files where
  listing := Coordinates.list_of_offers hc hsend h
  text f hf := Coordinates.fetch_of_offers hc hsend h hf (hnames f hf)

theorem Checkout.Holds.tells {fs : FileSystem} {root : String} {top : List String}
    {files : List (String × String)} (hfs : fs.WellFormed) (hroot : IsPlainRoot root)
    (h : Holds fs root top files)
    (hsorted : files.Pairwise (fun f g => stored f.1 < stored g.1)) :
    (Checkout.source fs root).Tells files := by
  obtain ⟨isTop, ns, rfl, hne, hns⟩ := hroot
  have hnames : ∀ n ∈ ns, Files.IsName n := fun n hn => (hns n hn).1
  have hlist := h.list_eq hfs hne hnames (fun n hn => (hns n hn).2) hsorted
  have htext (f : String × String) (hf : f ∈ files) := h.fetch_eq hfs hne hnames hf
  refine ⟨⟨_, hlist, ?_⟩, htext⟩
  rw [descriptorPaths_blobs, List.filter_filter]
  refine List.filter_congr (fun path _ => ?_)
  by_cases hpath : IsDescriptor path
  · simp [hpath, Text.ends_iff.mpr hpath.1]
  · simp [hpath]

/-- A repository is documented in the same way behind an API and in a folder, or the same file cannot
be read in both.  Where several workers may come to one failure or to another, they may in both. -/
theorem collect_remote_eq_checkout {c : Coordinates} {u : Url} {api : Api} {fs : FileSystem}
    {root : String} {top : List String} {files : List (String × String)}
    (hsorted : files.Pairwise (fun f g => stored f.1 < stored g.1))
    (hnames : ∀ f ∈ files, ∀ name ∈ Files.names f.1, Files.IsName name)
    (hc : c.LeadsTo u) (hsend : c.IsSendable) (hoffers : Offers api u c files)
    (hfs : fs.WellFormed) (hroot : Checkout.IsPlainRoot root)
    (hholds : Checkout.Holds fs root top files) :
    (collect (c.source api)).result = (collect (Checkout.source fs root)).result ∧
      ((∃ d, (collect (c.source api)).result = .ok d) ∨
        ∃ path message, (collect (c.source api)).result = .error (.decode path message)) ∧
      ∀ result, ((c.source api).MayYield result ↔ (Checkout.source fs root).MayYield result) ∧
        ((c.source api).MayYield result →
          (∃ d, result = .ok d ∧ ∀ other, (Checkout.source fs root).MayYield other → other = .ok d) ∨
            ∃ path message, result = .error (.decode path message)) := by
  have hremote := Coordinates.tells hc hsend hoffers hnames
  have hcheckout := hholds.tells hfs hroot hsorted
  refine ⟨hremote.result_eq hcheckout, hremote.ok_or_decode (collect_mayYield _), fun result => ?_⟩
  refine ⟨⟨hremote.mayYield hcheckout, hcheckout.mayYield hremote⟩, fun hresult => ?_⟩
  rcases hremote.ok_or_decode hresult with ⟨d, rfl⟩ | hdecode
  · exact .inl ⟨d, rfl, fun _ hother => (hremote.mayYield hcheckout hresult).eq_ok hother⟩
  · exact .inr hdecode

/-! ## Two files -/

/-- A class with nothing but a name. -/
def soleClass : Class := ⟨"A", .both, none, none, none, none, none, none, false, ⟨none, none⟩⟩

def sampleText : String := "\x7b\"name\":\"A\"\x7d"

/-- The first is no descriptor. -/
def sampleFiles : List (String × String) := [("Notes.json", "[]"), ("Structs/50% a.json", sampleText)]

def sampleCoordinates (token : Option String) : Coordinates :=
  ⟨token, "o", "r", "main", "http://[::1]"⟩

def sampleBase : Url := ⟨"http", [], [], .ipv6 [0, 0, 0, 0, 0, 0, 0, 1], none, [[]], none, none⟩

def sampleItem (path kind : String) : Json :=
  .object [("path", .string path), ("type", .string kind)]

def sampleTree : Json :=
  .object [("tree", .array [sampleItem "Notes.json" "blob", sampleItem "Structs" "tree",
    sampleItem "Structs/50% a.json" "blob"])]

def sampleContent (payload : String) : Json := .object [("content", .string payload)]

/-- The listing for those who ask for it, and otherwise the file of that name. -/
def sampleBody (resource : Remote.Resource) : Json :=
  if resource.parameters = [("recursive", "1")] then sampleTree
  else if resource.names.getLast? = some "Notes.json" then sampleContent "W10="
  else sampleContent "eyJuYW1lIjoiQSJ9\n"

def sampleApi : Api := fun r =>
  match Remote.resource? sampleBase r.url with
  | none => .ok .notFound
  | some resource => .ok ⟨200, "OK", (sampleBody resource).compact⟩

def sampleCheckout : FileSystem :=
  ⟨[(["r"], .folder), (["r", "Notes.json"], .file (stored "[]")), (["r", "Structs"], .folder),
    (["r", "Structs", "50% a.json"], .file (stored sampleText))], []⟩

theorem content_eq_ok (body : String) : Remote.Reply.content ⟨200, "OK", body⟩ = .ok body := by
  have hhead : Remote.Reply.head ⟨200, "OK", body⟩ = [['O', 'K', '\r'], ['\r'], []] := by
    simp [Remote.Reply.head, Text.split]
  simp [Remote.Reply.content, Remote.Reply.statusLine, Remote.Reply.surplus, hhead,
    Remote.Reply.isBodiless, Remote.Reply.chomp]

theorem leadsTo_sampleBase (token : Option String) :
    (sampleCoordinates token).LeadsTo sampleBase where
  parse := by
    show Url.parse ((sampleCoordinates none).base ++ "/") = _
    decide
  base := ⟨.inl rfl, rfl, rfl⟩
  plain :=
    have ho : Remote.IsPlainName "o" := by decide
    have hr : Remote.IsPlainName "r" := by decide
    have hmain : Remote.IsPlainName "main" := by decide
    ⟨ho, hr, hmain⟩

theorem body_sampleApi {r : Remote.Request} {resource : Remote.Resource}
    (hr : Remote.resource? sampleBase r.url = some resource) :
    sampleApi.body r = .ok (sampleBody resource).compact := by
  simp only [Api.body, sampleApi, hr]
  exact content_eq_ok _

theorem run_sampleTree : Decoder.json.run sampleTree.compact = .ok sampleTree := by
  refine Decoder.json_run_compact (n := 3) ?_ (by decide)
  exact .object (by simp [sampleItem, Legible.array, Legible.object, Legible.string])

theorem run_sampleContent (payload : String) :
    Decoder.json.run (sampleContent payload).compact = .ok (sampleContent payload) := by
  refine Decoder.json_run_compact (n := 1) ?_ (by decide)
  exact .object (by simp [Legible.string])

theorem offers_sampleApi (token : Option String) :
    Offers sampleApi sampleBase (sampleCoordinates token) sampleFiles where
  listing r hr :=
    ⟨_, sampleTree, _, body_sampleApi hr, run_sampleTree, rfl, rfl⟩
  content f hf r hr := by
    simp only [sampleFiles, List.mem_cons, List.not_mem_nil, or_false] at hf
    have hnotes : Remote.Carries "W10=" (stored "[]") := by
      unfold Remote.Carries
      decide
    have hstructs : Remote.Carries "eyJuYW1lIjoiQSJ9\n" (stored sampleText) := by
      unfold Remote.Carries
      decide
    rcases hf with rfl | rfl
    · exact ⟨_, _, _, body_sampleApi hr, run_sampleContent "W10=", rfl, hnotes⟩
    · exact ⟨_, _, _, body_sampleApi hr, run_sampleContent "eyJuYW1lIjoiQSJ9\n", rfl, hstructs⟩

theorem sorted_sample : sampleFiles.Pairwise (fun f g => stored f.1 < stored g.1) := by
  decide

theorem names_sample : ∀ f ∈ sampleFiles, ∀ name ∈ Files.names f.1, Files.IsName name := by decide

theorem wellFormed_sampleCheckout : sampleCheckout.WellFormed := ⟨by decide, by decide, by decide⟩

theorem isPlainRoot_sample : Checkout.IsPlainRoot "r" := ⟨false, ["r"], rfl, by simp, by simp; decide⟩

theorem below_sample {ms : List String} {node : FileSystem.Node} (hms : ms ≠ [])
    (h : sampleCheckout.node? (["r"] ++ ms) = some node) :
    (ms = ["Notes.json"] ∧ node = .file (stored "[]")) ∨ (ms = ["Structs"] ∧ node = .folder) ∨
      (ms = ["Structs", "50% a.json"] ∧ node = .file (stored sampleText)) := by
  have hentry := (FileSystem.node?_eq_some wellFormed_sampleCheckout (by simp)).mp h
  simpa [sampleCheckout, hms] using hentry

theorem unlinked_sample : sampleCheckout.Unlinked [] := by
  intro ms target hnode
  by_cases hms : ms = []
  · rw [List.nil_append, hms] at hnode
    cases hnode
  · have hentry := (FileSystem.node?_eq_some wellFormed_sampleCheckout (by simpa using hms)).mp hnode
    simp [sampleCheckout] at hentry

/-- What stands at a place is found by its path. -/
theorem find_sample {ns : List String} (hne : ns ≠ []) (hthere : sampleCheckout.node? ns ≠ none)
    (hcheck : FileSystem.check (Files.pathOf false ns) = .ok ())
    (hsize : ∀ n ∈ ns, n.utf8ByteSize ≤ FileSystem.maxName) :
    sampleCheckout.find (Files.pathOf false ns) = .ok ns := by
  obtain ⟨node, hnode⟩ := Option.ne_none_iff_exists'.mp hthere
  have hentry := (FileSystem.node?_eq_some wellFormed_sampleCheckout hne).mp hnode
  have hnames := (wellFormed_sampleCheckout.named _ hentry).2
  exact (FileSystem.find_pathOf hne hnames).mpr
    ⟨hcheck, FileSystem.walk_of_below wellFormed_sampleCheckout unlinked_sample hsize hnames hthere⟩

theorem isThere_sample {ms : List String} (hms : ms ≠ [])
    (hthere : sampleCheckout.node? (["r"] ++ ms) ≠ none)
    (hcheck : FileSystem.check (Files.pathOf false (["r"] ++ ms)) = .ok ())
    (hsize : ∀ n ∈ ["r"] ++ ms, n.utf8ByteSize ≤ FileSystem.maxName) :
    sampleCheckout.isThere (Files.join "r" ("/".intercalate ms)) = true := by
  have hnames : ∀ n ∈ ["r"] ++ ms, Files.IsName n :=
    List.forall_mem_append.mpr
      ⟨by decide, Checkout.names_of_below wellFormed_sampleCheckout hms hthere⟩
  have hjoin : Files.join (Files.pathOf false ["r"]) ("/".intercalate ms) =
      Files.pathOf false (["r"] ++ ms) := Files.join_pathOf (by simp) hms hnames
  rw [Files.pathOf_false, String.intercalate_singleton] at hjoin
  rw [hjoin, FileSystem.isThere, FileSystem.nodeAt?, find_sample (by simp) hthere hcheck hsize]
  exact Option.isSome_iff_ne_none.mpr hthere

theorem holds_sampleCheckout : Checkout.Holds sampleCheckout "r" ["r"] sampleFiles where
  place := by
    show sampleCheckout.find (Files.pathOf false ["r"]) = .ok ["r"]
    exact find_sample (by simp) (by decide) rfl (by decide)
  folder := rfl
  all := List.forall_mem_cons.mpr ⟨by decide, List.forall_mem_singleton.mpr (by decide)⟩
  only ms node hms hnode := by
    rcases below_sample hms hnode with ⟨rfl, rfl⟩ | ⟨-, rfl⟩ | ⟨rfl, rfl⟩
    · exact .inr ⟨_, List.mem_cons_self, by decide, rfl⟩
    · exact .inl rfl
    · exact .inr ⟨_, List.mem_cons_of_mem _ List.mem_cons_self, by decide, rfl⟩
  reachable ms hms hthere := by
    obtain ⟨node, hnode⟩ := Option.ne_none_iff_exists'.mp hthere
    rcases below_sample hms hnode with ⟨rfl, -⟩ | ⟨rfl, -⟩ | ⟨rfl, -⟩ <;>
      exact isThere_sample hms hthere (by decide) (by decide)

theorem run_sampleText : Class.decoder.run sampleText = .ok soleClass := by
  have htext : sampleText = (Json.object [("name", .string "A")]).compact := rfl
  rw [htext]
  refine Class.denotes_decoder.reads.run (Decoder.json_run_compact (n := 1) ?_ (by decide)) rfl
  exact .object (by simp [Legible.string])

theorem tells_sampleCheckout : (Checkout.source sampleCheckout "r").Tells sampleFiles :=
  holds_sampleCheckout.tells wellFormed_sampleCheckout isPlainRoot_sample sorted_sample

/-- The class is collected, and the other file is left alone. -/
theorem collect_sampleCheckout :
    (collect (Checkout.source sampleCheckout "r")).result = .ok ⟨[soleClass], []⟩ := by
  have hpaths : (Checkout.source sampleCheckout "r").paths = .ok ["Structs/50% a.json"] :=
    tells_sampleCheckout.paths_eq.trans (by decide)
  have htext := tells_sampleCheckout.text ("Structs/50% a.json", sampleText) (by simp [sampleFiles])
  have hdeclared : (Checkout.source sampleCheckout "r").declared "Structs/50% a.json" =
      .ok (some (.class soleClass)) := by
    have henums : ¬ "Structs/50% a.json" = "Enums.json" := by decide
    rw [Source.declared, htext]
    simp only [if_neg henums, run_sampleText]
    rfl
  rw [(collect_of_paths hpaths).1, Source.reading, List.map_singleton,
    Repository.readAll_cons_result, hdeclared]
  rfl

/-- Of two files one is a descriptor, whose address and whose name differ. -/
theorem collect_remote_eq_checkout_sample :
    (sampleFiles.Pairwise (fun f g => stored f.1 < stored g.1) ∧
      (∀ f ∈ sampleFiles, ∀ name ∈ Files.names f.1, Files.IsName name) ∧
      (sampleCoordinates (some "t")).LeadsTo sampleBase ∧
      (sampleCoordinates (some "t")).IsSendable ∧
      Offers sampleApi sampleBase (sampleCoordinates (some "t")) sampleFiles ∧
      sampleCheckout.WellFormed ∧ Checkout.IsPlainRoot "r" ∧
      Checkout.Holds sampleCheckout "r" ["r"] sampleFiles) ∧
    (collect ((sampleCoordinates (some "t")).source sampleApi)).result = .ok ⟨[soleClass], []⟩ ∧
      (collect (Checkout.source sampleCheckout "r")).result = .ok ⟨[soleClass], []⟩ ∧
      ∀ result, ((sampleCoordinates (some "t")).source sampleApi).MayYield result →
        result = .ok ⟨[soleClass], []⟩ := by
  have hsend : (sampleCoordinates (some "t")).IsSendable := by
    rintro token ⟨⟩
    simp
  obtain ⟨hsame, -, hworkers⟩ :=
    collect_remote_eq_checkout sorted_sample names_sample (leadsTo_sampleBase (some "t")) hsend
      (offers_sampleApi (some "t")) wellFormed_sampleCheckout isPlainRoot_sample holds_sampleCheckout
  refine ⟨⟨sorted_sample, names_sample, leadsTo_sampleBase _, hsend, offers_sampleApi _,
    wellFormed_sampleCheckout, isPlainRoot_sample, holds_sampleCheckout⟩,
    hsame.trans collect_sampleCheckout, collect_sampleCheckout, fun result hresult => ?_⟩
  have hdocs : (Checkout.source sampleCheckout "r").MayYield (.ok ⟨[soleClass], []⟩) :=
    collect_sampleCheckout ▸ collect_mayYield _
  exact hdocs.eq_ok ((hworkers result).1.mp hresult)

/-- A token that cannot be sent: the folder is documented, the repository behind the API is not. -/
theorem collect_remote_ne_checkout :
    (sampleFiles.Pairwise (fun f g => stored f.1 < stored g.1) ∧
      (∀ f ∈ sampleFiles, ∀ name ∈ Files.names f.1, Files.IsName name) ∧
      (sampleCoordinates (some "a\nb")).LeadsTo sampleBase ∧
      Offers sampleApi sampleBase (sampleCoordinates (some "a\nb")) sampleFiles ∧
      sampleCheckout.WellFormed ∧ Checkout.IsPlainRoot "r" ∧
      Checkout.Holds sampleCheckout "r" ["r"] sampleFiles) ∧
    ¬ (collect ((sampleCoordinates (some "a\nb")).source sampleApi)).result =
        (collect (Checkout.source sampleCheckout "r")).result := by
  refine ⟨⟨sorted_sample, names_sample, leadsTo_sampleBase _, offers_sampleApi _,
    wellFormed_sampleCheckout, isPlainRoot_sample, holds_sampleCheckout⟩, ?_⟩
  have hrefused : ¬ (sampleCoordinates (some "a\nb")).IsSendable := by
    intro hsend
    exact absurd (hsend "a\nb" rfl '\n' (by decide)) (by decide)
  obtain ⟨message, hlist⟩ := Coordinates.list_of_not_isSendable hrefused sampleApi
  have hremote : (collect ((sampleCoordinates (some "a\nb")).source sampleApi)).result =
      .error (.listing message) := by
    rw [collect, Coordinates.source, hlist]
    rfl
  rw [hremote, collect_sampleCheckout]
  simp

end LuaStubs
