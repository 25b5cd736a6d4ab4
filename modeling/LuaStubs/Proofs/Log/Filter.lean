import LuaStubs.Log.Filter
import LuaStubs.Proofs.Results
import LuaStubs.Proofs.Text.Affix
import Mathlib.Data.List.Induction

/-! What a level asked for on the command line does to a filter: it replaces the directive for the target
of the program and leaves all others alone. -/
namespace LuaStubs.Log

/-! ## Directives without spans and fields -/

namespace Directive

/-- The longer target is the greater one, and no target is the least. -/
def targetOrder (s t : Option String) : Ordering :=
  (Ord.compare (s.map String.utf8ByteSize) (t.map String.utf8ByteSize)).then (Ord.compare s t)

instance : Std.TransCmp targetOrder :=
  inferInstanceAs (Std.TransCmp (compareLex
    (compareOn (fun s : Option String => s.map String.utf8ByteSize)) Ord.compare))

instance : Std.LawfulEqCmp targetOrder where
  eq_of_compare h := Std.LawfulEqOrd.eq_of_compare (Ordering.then_eq_eq.mp h).2

theorem isPlain_of_unbound {d : Directive} (h : d.isBound = false) : d.isPlain = true := by
  obtain ⟨target, span, field, threshold⟩ := d
  cases span <;> cases field <;> simp_all [isBound, isPlain]

/-- A directive that is bound neither to a span nor to a field has its place by its target. -/
theorem compare_of_unbound {d e : Directive} (hd : d.isBound = false) (he : e.isBound = false) :
    d.compare e = targetOrder d.target e.target := by
  obtain ⟨target, span, field, threshold⟩ := d
  obtain ⟨target', span', field', threshold'⟩ := e
  cases span <;> cases field <;> cases span' <;> cases field' <;>
    simp_all [isBound, compare, compare.compareFields, targetOrder]

theorem mem_of_mem_start {cs : List Char} {c : Char} (h : c ∈ (Reading.start cs).rest) : c ∈ cs :=
  (List.dropWhile_sublist Text.isWhite).mem (Text.mem_of_mem_dropEnd h)

/-- Only brackets bind a directive. -/
theorem unbound_of_parse {cs : List Char} (hcs : '[' ∉ cs) {d : Directive} (h : parse cs = .ok d) :
    d.isBound = false := by
  have hbracket {c : Char} (hc : c ∈ (Reading.start cs).rest) : c ≠ '[' := by
    rintro rfl
    exact hcs (mem_of_mem_start hc)
  unfold parse at h
  dsimp only at h
  split at h
  · cases h
  · next first rest hrest =>
    rw [if_neg (hbracket (hrest ▸ List.mem_cons_self))] at h
    split at h
    · cases h
    split at h
    · split at h <;> cases h <;> rfl
    · next c more hafter =>
      have hc : c ∈ (Reading.start cs).rest := by
        have hmem : c ∈ ((Reading.start cs).upTo (fun c => c = '=' || c = '[')).2.rest :=
          hafter ▸ List.mem_cons_self
        exact (List.dropWhile_sublist _).mem hmem
      rw [if_neg (hbracket hc)] at h
      obtain ⟨t, -, rfl⟩ := map_eq_ok.mp h
      rfl

end Directive

namespace Filter

open Directive (targetOrder compare_of_unbound)

/-! ## One directive more -/

/-- The directives for a target. -/
def forTarget (target : Option String) (ds : List Directive) : List Directive :=
  ds.filter (fun d => d.target = target)

/-- Directives without spans and fields, no two for one target, the more specific ones first. -/
structure Ordered (ds : List Directive) : Prop where
  unbound : ∀ d ∈ ds, d.isBound = false
  sorted : ds.Pairwise (fun d e => targetOrder d.target e.target = .gt)

theorem ne_of_gt {s t : Option String} (h : targetOrder s t = .gt) : s ≠ t := by
  rintro rfl
  have hself : targetOrder s s = .eq := Std.ReflCmp.compare_self
  rw [hself] at h
  cases h

theorem forTarget_nil (target : Option String) : forTarget target [] = [] := rfl

theorem forTarget_cons (target : Option String) (d : Directive) (ds : List Directive) :
    forTarget target (d :: ds) =
      if d.target = target then d :: forTarget target ds else forTarget target ds := by
  simp [forTarget, List.filter_cons]

theorem forTarget_eq_nil {ds : List Directive} {target : Option String}
    (h : ∀ e ∈ ds, targetOrder target e.target = .gt) : forTarget target ds = [] :=
  List.filter_eq_nil_iff.mpr (fun e he heq => ne_of_gt (h e he) (of_decide_eq_true heq).symm)

theorem mem_insert {d e : Directive} {ds : List Directive} (he : e ∈ insert d ds) :
    e = d ∨ e ∈ ds := by
  induction ds with
  | nil => exact .inl (List.mem_singleton.mp he)
  | cons x ds ih =>
    rw [insert] at he
    split at he
    · rcases List.mem_cons.mp he with rfl | he
      · exact .inl rfl
      · exact .inr (List.mem_cons_of_mem x he)
    · exact List.mem_cons.mp he
    · rcases List.mem_cons.mp he with rfl | he
      · exact .inr List.mem_cons_self
      · exact (ih he).imp_right (List.mem_cons_of_mem x)

section

variable {d : Directive} (hd : d.isBound = false)
include hd

theorem insert_cons {e : Directive} (he : e.isBound = false) (ds : List Directive) :
    insert d (e :: ds) =
      match targetOrder d.target e.target with
      | .eq => d :: ds
      | .gt => d :: e :: ds
      | .lt => e :: insert d ds := by
  show (match d.compare e with
    | .eq => d :: ds
    | .gt => d :: e :: ds
    | .lt => e :: insert d ds) = _
  rw [compare_of_unbound hd he]

theorem Ordered.insert {ds : List Directive} (h : Ordered ds) : Ordered (insert d ds) := by
  refine ⟨fun e he => (mem_insert he).elim (fun heq => heq ▸ hd) (h.unbound e), ?_⟩
  obtain ⟨hunbound, hsorted⟩ := h
  induction hsorted with
  | nil => exact List.pairwise_singleton _ d
  | @cons e ds he hsorted ih =>
    obtain ⟨hbound, hunbound⟩ := List.forall_mem_cons.mp hunbound
    rw [insert_cons hd hbound]
    cases horder : targetOrder d.target e.target with
    | eq =>
      rw [← Std.LawfulEqCmp.eq_of_compare horder] at he
      exact .cons he hsorted
    | gt =>
      refine .cons (List.forall_mem_cons.mpr ⟨horder, fun x hx => ?_⟩) (.cons he hsorted)
      exact Std.TransCmp.gt_trans horder (he x hx)
    | lt =>
      refine .cons (fun x hx => ?_) (ih hunbound)
      rcases mem_insert hx with rfl | hx
      · exact Std.OrientedCmp.gt_of_lt horder
      · exact he x hx

theorem Ordered.forTarget_insert {ds : List Directive} (h : Ordered ds) :
    forTarget d.target (Filter.insert d ds) = [d] := by
  obtain ⟨hunbound, hsorted⟩ := h
  induction hsorted with
  | nil => rw [Filter.insert, forTarget_cons, if_pos rfl, forTarget_nil]
  | @cons e ds he hsorted ih =>
    obtain ⟨hbound, hunbound⟩ := List.forall_mem_cons.mp hunbound
    rw [insert_cons hd hbound]
    cases horder : targetOrder d.target e.target with
    | eq =>
      rw [← Std.LawfulEqCmp.eq_of_compare horder] at he
      simp only
      rw [forTarget_cons, if_pos rfl, forTarget_eq_nil he]
    | gt =>
      have hless : ∀ x ∈ e :: ds, targetOrder d.target x.target = .gt :=
        List.forall_mem_cons.mpr ⟨horder, fun x hx => Std.TransCmp.gt_trans horder (he x hx)⟩
      simp only
      rw [forTarget_cons, if_pos rfl, forTarget_eq_nil hless]
    | lt =>
      have hne : e.target ≠ d.target := ne_of_gt (Std.OrientedCmp.gt_of_lt horder)
      simp only
      rw [forTarget_cons, if_neg hne, ih hunbound]

/-- Directives for other targets stay what they are. -/
theorem filter_insert {q : Option String → Bool} (hq : q d.target = false) {ds : List Directive}
    (hds : ∀ e ∈ ds, e.isBound = false) :
    (Filter.insert d ds).filter (fun e => q e.target) = ds.filter (fun e => q e.target) := by
  induction ds with
  | nil => simp [Filter.insert, hq]
  | cons e ds ih =>
    obtain ⟨he, hds⟩ := List.forall_mem_cons.mp hds
    rw [insert_cons hd he]
    cases horder : targetOrder d.target e.target with
    | eq =>
      have hqe : q e.target = false := Std.LawfulEqCmp.eq_of_compare horder ▸ hq
      simp [hq, hqe]
    | gt => simp [hq]
    | lt => simp [List.filter_cons, ih hds]

end

/-! ## Filters of a list of directives -/

/-- What a list of directives comes to: one directive for each target, the last one that is given for it,
and the more specific ones first. -/
structure Settles (ds : List Directive) (f : Filter) : Prop where
  ordered : Ordered f.plain
  latest : ∀ target, forTarget target f.plain = ((forTarget target ds).getLast?).toList
  bound : f.bound = []

theorem add_of_unbound {d : Directive} (hd : d.isBound = false) (f : Filter) :
    f.add d = ⟨insert d f.plain, f.bound⟩ := by
  rw [add, hd, Directive.isPlain_of_unbound hd]
  rfl

theorem settles_ofDirectives {ds : List Directive} (hds : ∀ d ∈ ds, d.isBound = false) :
    Settles ds (ofDirectives ds) := by
  induction ds using List.reverseRecOn with
  | nil => exact ⟨⟨by simp [ofDirectives], .nil⟩, fun _ => rfl, rfl⟩
  | append_singleton ds d ih =>
    rw [List.forall_mem_append, List.forall_mem_singleton] at hds
    obtain ⟨hds, hd⟩ := hds
    obtain ⟨hordered, hlatest, hbound⟩ := ih hds
    have hadd : ofDirectives (ds ++ [d]) = (ofDirectives ds).add d := List.foldl_append
    rw [hadd, add_of_unbound hd, hbound]
    refine ⟨hordered.insert hd, fun target => ?_, rfl⟩
    have hlast : forTarget target (ds ++ [d]) = forTarget target ds ++ forTarget target [d] :=
      List.filter_append ds [d]
    dsimp only
    rw [hlast, forTarget_cons, forTarget_nil]
    by_cases htarget : d.target = target
    · subst htarget
      rw [hordered.forTarget_insert hd, if_pos rfl, List.getLast?_concat]
      rfl
    · have hothers := filter_insert hd (q := fun t => t = target) (by simpa using htarget)
        hordered.unbound
      rw [if_neg htarget, List.append_nil, ← hlatest]
      exact hothers

/-! ## The words of the environment -/

/-- The valid directives of a text, or one for errors if there are none. -/
def stated (text : String) : List Directive :=
  match (parts text).filterMap (fun part => (Directive.parse part).toOption) with
  | [] => [.ofTarget none (some .error)]
  | ds => ds

theorem parse_eq (text : String) : parse text = ofDirectives (stated text) := by
  unfold parse stated
  cases (parts text).filterMap (fun part => (Directive.parse part).toOption) <;> rfl

theorem unbound_of_mem_stated {text : String} (htext : '[' ∉ text.toList) :
    ∀ d ∈ stated text, d.isBound = false := by
  unfold stated
  split
  · exact List.forall_mem_singleton.mpr rfl
  · intro d hd
    obtain ⟨part, hpart, hparse⟩ := List.mem_filterMap.mp hd
    have hmem : part ∈ Text.split (· = ',') text.toList := (List.mem_filter.mp hpart).1
    have hbracket : '[' ∉ part := fun hc => htext (Text.mem_of_mem_split hmem hc)
    cases h : Directive.parse part with
    | error fault => rw [h] at hparse; cases hparse
    | ok d' =>
      rw [h] at hparse
      cases hparse
      exact Directive.unbound_of_parse hbracket h

/-- A filter with a level for the program that is like another one for all other targets. -/
structure Overrides (l : Level) (g f : Filter) : Prop where
  own : forTarget (some "nanosdoc") f.plain = [.ofTarget (some "nanosdoc") (some l)]
  others : f.plain.filter (fun d => d.target ≠ some "nanosdoc") =
    g.plain.filter (fun d => d.target ≠ some "nanosdoc")
  bound : f.bound = g.bound

theorem overrides_add {g : Filter} (hg : Ordered g.plain) (l : Level) :
    Overrides l g (g.add (.ofTarget (some ownTarget) (some l))) := by
  have hd : (Directive.ofTarget (some ownTarget) (some l)).isBound = false := rfl
  rw [add_of_unbound hd]
  refine ⟨hg.forTarget_insert hd, ?_, rfl⟩
  exact filter_insert hd (q := fun t => t ≠ some "nanosdoc") (by simp [Directive.ofTarget, ownTarget])
    hg.unbound

theorem spoken?_of_blank {environment : Option String}
    (h : ∀ text ∈ environment, isBlank text = true) : spoken? environment = none := by
  cases environment with
  | none => rfl
  | some text => simp [spoken?, h text rfl]

theorem spoken?_of_not_blank {text : String} (h : isBlank text = false) :
    spoken? (some text) = some text := by
  simp [spoken?, h]

/-- What the environment says holds for all targets but that of the program, whose level is the one that
the command line asks for; where it asks for none, it holds for all.  An environment without a word leaves
the warnings of the transport, and a level for the program. -/
theorem configured_overrides (v : Verbosity) :
    (∀ text, isBlank text = false → '[' ∉ text.toList →
      Settles (stated text) (parse text) ∧
      (v.quiet = true → Overrides .warn (parse text) (configured v.level (some text))) ∧
      (v.quiet = false → v.verbose = true →
        Overrides .debug (parse text) (configured v.level (some text))) ∧
      (v.quiet = false → v.verbose = false → configured v.level (some text) = parse text)) ∧
    ∀ environment : Option String, (∀ text ∈ environment, isBlank text = true) →
      Overrides (if v.quiet then .warn else if v.verbose then .debug else .info)
        ⟨[.ofTarget (some "ureq") (some .warn)], []⟩ (configured v.level environment) := by
  constructor
  · intro text hblank hbracket
    have hsettles : Settles (stated text) (parse text) := by
      rw [parse_eq]
      exact settles_ofDirectives (unbound_of_mem_stated hbracket)
    have hbase : base (some text) = parse text := by
      rw [base, spoken?_of_not_blank hblank]
    have hasked (l : Level) (hl : v.level = some l) :
        Overrides l (parse text) (configured v.level (some text)) := by
      rw [configured, hl, hbase]
      exact overrides_add hsettles.ordered l
    refine ⟨hsettles, fun hquiet => hasked _ ?_, fun hquiet hverbose => hasked _ ?_,
      fun hquiet hverbose => ?_⟩
    · simp [Verbosity.level, hquiet]
    · simp [Verbosity.level, hquiet, hverbose]
    · have hlevel : v.level = none := by simp [Verbosity.level, hquiet, hverbose]
      simp only [configured, ownLevel?, hlevel, spoken?_of_not_blank hblank, hbase]
  · intro environment hblank
    have hspoken := spoken?_of_blank hblank
    have hbase : base environment = ⟨[.ofTarget (some "ureq") (some .warn)], []⟩ := by
      rw [base, hspoken]
      decide +kernel
    have hordered : Ordered [.ofTarget (some "ureq") (some .warn)] :=
      ⟨List.forall_mem_singleton.mpr rfl, List.pairwise_singleton _ _⟩
    have hown : ownLevel? v.level environment =
        some (if v.quiet then .warn else if v.verbose then .debug else .info) := by
      simp only [ownLevel?, hspoken, Verbosity.level]
      cases v.quiet <;> cases v.verbose <;> rfl
    rw [configured, hown, hbase]
    exact overrides_add hordered _

/-- The program twice, a target that only begins like it, another case, a part that is no directive. -/
def sampleText : String :=
  "nanosdoc=debug,NANOSDOC=info,nanosdoc::collect=5,/,,warn,nanosdoc,ureq=WARN,ureq=off"

theorem configured_overrides_sample :
    isBlank sampleText = false ∧ '[' ∉ sampleText.toList ∧
      (configured (some .warn) (some sampleText)).text =
        "nanosdoc::collect=trace,nanosdoc=warn,NANOSDOC=info,ureq=off,warn" ∧
      Overrides .warn (parse sampleText) (configured (some .warn) (some sampleText)) ∧
      configured none (some sampleText) = parse sampleText ∧
      (configured (some .debug) (some " ")).text = "nanosdoc=debug,ureq=warn" ∧
      Overrides .debug ⟨[.ofTarget (some "ureq") (some .warn)], []⟩
        (configured (some .debug) (some " ")) := by
  have hblank : isBlank sampleText = false := by decide +kernel
  have hbracket : '[' ∉ sampleText.toList := by decide +kernel
  obtain ⟨-, hquiet, -⟩ := (configured_overrides ⟨true, true⟩).1 sampleText hblank hbracket
  obtain ⟨-, -, -, hsilent⟩ := (configured_overrides ⟨false, false⟩).1 sampleText hblank hbracket
  have hverbose := (configured_overrides ⟨true, false⟩).2 (some " ")
    (by rintro text ⟨⟩; decide +kernel)
  exact ⟨hblank, hbracket, by decide +kernel, hquiet rfl, hsilent rfl rfl, by decide +kernel,
    hverbose⟩

end Filter

end LuaStubs.Log
