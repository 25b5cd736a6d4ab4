import LuaStubs.Program
import LuaStubs.Proofs.Agreement
import LuaStubs.Proofs.Files.Change

/-! A run of the program writes all that it has to write, or nothing. -/
namespace LuaStubs.Program

open CommandLine (Environment Settings)
open Files (IsName join)

variable {fs : FileSystem} {api : Remote.Api} {args : List String} {e : Environment}

/-! ## One step after the other -/

theorem isName_fileName (f : Format) : IsName (fileName f) := by
  cases f <;> decide

theorem size_fileName (f : Format) : (fileName f).utf8ByteSize ≤ FileSystem.maxName := by
  cases f <;> decide

/-- What there is to write: what is collected from the repository that the settings name, in the form
that they name. -/
def Asked (fs : FileSystem) (api : Remote.Api) (s : Settings) (format : Format) (text : String) :
    Prop :=
  Format.ofName? s.format = some format ∧ ∃ repository docs, source fs api s = .ok repository ∧
    (Repository.collect repository).result = .ok docs ∧ format.render docs = .ok text

theorem Asked.unique {s : Settings} {format format' : Format} {text text' : String}
    (h : Asked fs api s format text) (h' : Asked fs api s format' text') :
    format = format' ∧ text = text' := by
  obtain ⟨hformat, repository, docs, hsource, hdocs, htext⟩ := h
  obtain ⟨hformat', repository', docs', hsource', hdocs', htext'⟩ := h'
  obtain rfl : format = format' := Option.some.inj (hformat.symm.trans hformat')
  obtain rfl : repository = repository' := Except.ok.inj (hsource.symm.trans hsource')
  obtain rfl : docs = docs' := Except.ok.inj (hdocs.symm.trans hdocs')
  exact ⟨rfl, Except.ok.inj (htext.symm.trans htext')⟩

theorem buildWith_of_asked {s : Settings} {format : Format} {text : String}
    (h : Asked fs api s format text) :
    (buildWith fs api s).failure = (deliver fs s.output (fileName format) text).failure ∧
      (buildWith fs api s).files = (deliver fs s.output (fileName format) text).files := by
  obtain ⟨hformat, repository, docs, hsource, hdocs, htext⟩ := h
  rw [buildWith, hformat, hsource]
  simp only [build, hdocs, htext, and_self]

/-- All steps before the folder is made leave the files alone. -/
theorem buildWith_of_not_asked {s : Settings} (h : ∀ format text, ¬ Asked fs api s format text) :
    (buildWith fs api s).failure ≠ none ∧ (buildWith fs api s).files = fs := by
  cases hformat : Format.ofName? s.format with
  | none =>
    rw [buildWith, hformat]
    exact ⟨by simp, rfl⟩
  | some format =>
    cases hsource : source fs api s with
    | error failure =>
      rw [buildWith, hformat, hsource]
      exact ⟨by simp, rfl⟩
    | ok repository =>
      rw [buildWith, hformat, hsource]
      simp only [build]
      cases hdocs : (Repository.collect repository).result with
      | error e => exact ⟨by simp, rfl⟩
      | ok docs =>
        cases htext : format.render docs with
        | error e => simp [htext]
        | ok text => exact absurd ⟨hformat, repository, docs, hsource, hdocs, htext⟩ (h format text)

theorem deliver_of_error {output name text : String} {fault : FileSystem.Fault}
    (h : fs.makeFolder output = .error fault) :
    (deliver fs output name text).failure ≠ none ∧ (deliver fs output name text).files = fs := by
  rw [deliver, h]
  exact ⟨by simp, rfl⟩

theorem deliver_of_ok {output name text : String} {made written : FileSystem}
    (hmade : fs.makeFolder output = .ok made)
    (hwritten : made.writeFile (join output name) (Text.Utf8.bytes text) = .ok written) :
    (deliver fs output name text).failure = none ∧ (deliver fs output name text).files = written := by
  rw [deliver, hmade]
  simp [hwritten]

/-! ## Runs -/

theorem run_of_ok {s : Settings} (h : CommandLine.read args e = .ok s) :
    ((run fs api args e).status = 0 ↔ (buildWith fs api s).failure = none) ∧
      (run fs api args e).files = (buildWith fs api s).files := by
  rw [run, h]
  refine ⟨?_, rfl⟩
  cases hfailure : (buildWith fs api s).failure <;> simp [hfailure]

/-- `after` is `fs` with a new folder at the end of the path `output`, and in it nothing but a file of
this name and text. -/
def Delivered (fs after : FileSystem) (output name text : String) : Prop :=
  ∃ place, fs.Adds after place name (Text.Utf8.bytes text) ∧ after.find output = .ok place ∧
    after.read (join output name) = .ok text

theorem Delivered.keeps {after : FileSystem} {output name text : String}
    (h : Delivered fs after output name text) : fs.Keeps after := by
  obtain ⟨place, hadds, -⟩ := h
  exact hadds.keeps

/-- Files can be written into the folder that a run makes. -/
def Writable (fs : FileSystem) (s : Settings) : Prop :=
  ∀ format made bytes, Format.ofName? s.format = some format → fs.makeFolder s.output = .ok made →
    ∃ written, made.writeFile (join s.output (fileName format)) bytes = .ok written

theorem delivered_of_makeFolder (hfs : fs.WellFormed) {s : Settings} (hwrite : Writable fs s)
    {format : Format} (hformat : Format.ofName? s.format = some format) {made : FileSystem}
    (hmade : fs.makeFolder s.output = .ok made) (text : String) :
    (deliver fs s.output (fileName format) text).failure = none ∧
      Delivered fs (deliver fs s.output (fileName format) text).files s.output (fileName format)
        text := by
  obtain ⟨written, hwritten⟩ := hwrite format made (Text.Utf8.bytes text) hformat hmade
  obtain ⟨place, written', hwritten', hadds, hfolder, hfile⟩ :=
    FileSystem.writeFile_made hfs hmade (isName_fileName format) (size_fileName format)
      (FileSystem.check_of_writeFile hwritten)
  obtain rfl : written = written' := Except.ok.inj (hwritten.symm.trans hwritten')
  obtain ⟨hfailure, hfiles⟩ := deliver_of_ok hmade hwritten
  have hnode : written.node? (place ++ [fileName format]) = some (.file (Text.Utf8.bytes text)) := by
    rw [hadds.nodes, if_neg (by simp), if_pos rfl]
  have hread : written.read (join s.output (fileName format)) = .ok text := by
    rw [FileSystem.read_of_find hfile hnode, Text.Utf8.text_eq_ok_iff.mpr rfl]
    rfl
  rw [hfiles]
  exact ⟨hfailure, place, hadds, hfolder, hread⟩

/-- Whatever goes wrong goes wrong before the folder is made. -/
theorem run_cases (hfs : fs.WellFormed) {s : Settings} (hread : CommandLine.read args e = .ok s)
    (hwrite : Writable fs s) :
    ((run fs api args e).status ≠ 0 ∧ (run fs api args e).files = fs ∧
        ∀ format text made, Asked fs api s format text → fs.makeFolder s.output ≠ .ok made) ∨
      (run fs api args e).status = 0 ∧
        ∃ format text made, Asked fs api s format text ∧ fs.makeFolder s.output = .ok made ∧
          Delivered fs (run fs api args e).files s.output (fileName format) text := by
  obtain ⟨hstatus, hfiles⟩ := run_of_ok hread
  rw [hfiles, ne_eq, hstatus]
  by_cases hasked : ∃ format text, Asked fs api s format text
  · obtain ⟨format, text, hasked⟩ := hasked
    obtain ⟨hfailure, hfiles⟩ := buildWith_of_asked hasked
    rw [hfailure, hfiles]
    cases hmade : fs.makeFolder s.output with
    | error fault =>
      obtain ⟨hfailure, hfiles⟩ := deliver_of_error hmade
      exact .inl ⟨hfailure, hfiles, by simp⟩
    | ok made =>
      obtain ⟨hfailure, hdelivered⟩ := delivered_of_makeFolder hfs hwrite hasked.1 hmade text
      exact .inr ⟨hfailure, format, text, made, hasked, rfl, hdelivered⟩
  · obtain ⟨hfailure, hfiles⟩ :=
      buildWith_of_not_asked (fun format text h => hasked ⟨format, text, h⟩)
    exact .inl ⟨hfailure, hfiles, fun format text made h => absurd ⟨format, text, h⟩ hasked⟩

theorem run_of_usage (h : CommandLine.read args e = .error .usage) :
    (run fs api args e).status ≠ 0 ∧ (run fs api args e).files = fs := by
  rw [run, h]
  exact ⟨Nat.succ_ne_zero 1, rfl⟩

/-- A run delivers what it was asked for, or fails and changes nothing; and it fails where the folder
is there already or has no folder to stand in. -/
theorem run_all_or_nothing (hfs : fs.WellFormed) (hhelp : CommandLine.read args e ≠ .error .help)
    (hwrite : ∀ s, CommandLine.read args e = .ok s → Writable fs s) :
    (((run fs api args e).status = 0 ∧
        ∃ s format text, CommandLine.read args e = .ok s ∧ Asked fs api s format text ∧
          Delivered fs (run fs api args e).files s.output (fileName format) text) ∨
      ((run fs api args e).status ≠ 0 ∧ (run fs api args e).files = fs)) ∧
    ((run fs api args e).status = 0 ↔ ∃ s format text made, CommandLine.read args e = .ok s ∧
      Asked fs api s format text ∧ fs.makeFolder s.output = .ok made) ∧
    fs.Keeps (run fs api args e).files ∧
    ∀ s, CommandLine.read args e = .ok s → fs.Taken s.output ∨ fs.Orphaned s.output →
      (run fs api args e).status ≠ 0 ∧ (run fs api args e).files = fs := by
  cases hread : CommandLine.read args e with
  | error halt =>
    cases halt with
    | help => exact absurd hread hhelp
    | usage =>
      obtain ⟨hstatus, hfiles⟩ := run_of_usage hread
      rw [hfiles]
      exact ⟨.inr ⟨hstatus, rfl⟩, by simp [hstatus], fs.keeps_refl, by simp⟩
  | ok s =>
    rcases run_cases hfs hread (hwrite s hread) with
      ⟨hstatus, hfiles, hnone⟩ | ⟨hstatus, format, text, made, hasked, hmade, hdelivered⟩
    · rw [hfiles]
      refine ⟨.inr ⟨hstatus, rfl⟩, ?_, fs.keeps_refl, fun _ _ _ => ⟨hstatus, rfl⟩⟩
      refine iff_of_false hstatus ?_
      rintro ⟨s', format, text, made, hs, hasked, hmade⟩
      cases hs
      exact hnone format text made hasked hmade
    · refine ⟨.inl ⟨hstatus, s, format, text, rfl, hasked, hdelivered⟩, ?_, hdelivered.keeps, ?_⟩
      · exact iff_of_true hstatus ⟨s, format, text, made, rfl, hasked, hmade⟩
      · rintro s' hs (htaken | horphaned)
        · cases hs
          exact absurd htaken (FileSystem.not_taken_of_makeFolder hmade)
        · cases hs
          exact absurd horphaned (FileSystem.not_orphaned_of_makeFolder hmade)

/-! ## A run on a folder -/

def sampleSettings : Settings :=
  CommandLine.settings ⟨[(.checkout, "r")], []⟩ []

def unreachable : Remote.Api := fun r => .error r.url.text

theorem read_sample : CommandLine.read ["--local", "r"] [] = .ok sampleSettings := by
  decide

theorem makeFolder_sampleCheckout :
    sampleCheckout.makeFolder "docs" = .ok (sampleCheckout.put ["docs"] .folder) := by
  refine FileSystem.makeFolder_eq_ok.mpr ⟨[], "docs", ?_, by decide, by decide, by decide, rfl, rfl⟩
  refine FileSystem.spot_eq_ok.mpr ⟨rfl, [], [], rfl, by decide, by simp, ?_, rfl⟩
  rw [FileSystem.walk]
  rfl

/-- The annotations of a class without anything but a name. -/
def sampleAnnotations : String :=
  "---@meta\n\n---<img src=\"https://github.com/Derpius/nanosworld-vscode/blob/master/assets/both.png?" ++
    "raw=true\" height=\"10\"> `Client/Server Side`\n---\n---\n---@class A\nA = \x7b\x7d"

theorem render_soleClass : Format.lua.render ⟨[soleClass], []⟩ = .ok sampleAnnotations := by
  decide +kernel

theorem asked_sampleCheckout :
    Asked sampleCheckout unreachable sampleSettings .lua sampleAnnotations :=
  ⟨rfl, Checkout.source sampleCheckout "r", ⟨[soleClass], []⟩, rfl, collect_sampleCheckout,
    render_soleClass⟩

theorem writable_sampleCheckout {s : Settings}
    (h : CommandLine.read ["--local", "r"] [] = .ok s) : Writable sampleCheckout s := by
  obtain rfl : sampleSettings = s := Except.ok.inj (read_sample.symm.trans h)
  intro format made bytes _ hmade
  have hcheck : FileSystem.check (join "docs" (fileName format)) = .ok () := by
    cases format <;> rfl
  obtain ⟨place, written, hwritten, -⟩ := FileSystem.writeFile_made wellFormed_sampleCheckout hmade
    (isName_fileName format) (size_fileName format) hcheck
  exact ⟨written, hwritten⟩

/-- The class of the only descriptor in a folder is annotated. -/
theorem run_all_or_nothing_sample :
    (sampleCheckout.WellFormed ∧ CommandLine.read ["--local", "r"] [] ≠ .error .help ∧
      ∀ s, CommandLine.read ["--local", "r"] [] = .ok s → Writable sampleCheckout s) ∧
    (run sampleCheckout unreachable ["--local", "r"] []).status = 0 ∧
      Delivered sampleCheckout (run sampleCheckout unreachable ["--local", "r"] []).files "docs"
        "annotations.lua" sampleAnnotations := by
  have hhelp : CommandLine.read ["--local", "r"] [] ≠ .error .help := by
    rw [read_sample]
    simp
  have hwrite : ∀ s, CommandLine.read ["--local", "r"] [] = .ok s → Writable sampleCheckout s :=
    fun s => writable_sampleCheckout
  obtain ⟨hcases, hzero, -⟩ := @run_all_or_nothing _ unreachable _ _
    wellFormed_sampleCheckout hhelp hwrite
  have hstatus := hzero.mpr ⟨sampleSettings, .lua, sampleAnnotations, _, read_sample,
    asked_sampleCheckout, makeFolder_sampleCheckout⟩
  refine ⟨⟨wellFormed_sampleCheckout, hhelp, hwrite⟩, hstatus, ?_⟩
  rcases hcases with ⟨-, s, format, text, hread, hasked, hdelivered⟩ | ⟨hfailed, -⟩
  · obtain rfl : sampleSettings = s := Except.ok.inj (read_sample.symm.trans hread)
    obtain ⟨rfl, rfl⟩ := asked_sampleCheckout.unique hasked
    exact hdelivered
  · exact absurd hstatus hfailed

end LuaStubs.Program
