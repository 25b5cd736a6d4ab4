import LuaStubs.Proofs.Lua.Lines
import LuaStubs.Proofs.Lua.Document

/-! Descriptions do not reach into the code of a rendered file: classes that differ in their descriptions
only come to the same code and the same tags, unless a description holds a carriage return or begins
with the mark of a tag. -/
namespace LuaStubs

/-! ## Without descriptions -/

def noDescription : Description := ⟨none, none⟩

def Parameter.bare (p : Parameter) : Parameter := { p with doc := noDescription }

def Return.bare (r : Return) : Return := { r with doc := noDescription }

def Function.bare (f : Function) : Function :=
  { f with
    parameters := f.parameters.map (List.map Parameter.bare)
    result := f.result.map Return.bare
    doc := noDescription }

def Property.bare (p : Property) : Property := { p with doc := noDescription }

def Event.bare (e : Event) : Event :=
  { e with arguments := e.arguments.map Parameter.bare, doc := noDescription }

def Class.bare (c : Class) : Class :=
  { c with
    constructor := c.constructor.map (List.map Parameter.bare)
    staticFunctions := c.staticFunctions.map (List.map Function.bare)
    functions := c.functions.map (List.map Function.bare)
    events := c.events.map (List.map Event.bare)
    properties := c.properties.map (List.map Property.bare)
    doc := noDescription }

/-- The documentation with all descriptions left out. -/
def Docs.bare (d : Docs) : Docs := { d with classes := d.classes.map Class.bare }

theorem getD_map_map {α β : Type} (f : α → β) (o : Option (List α)) :
    (o.map (List.map f)).getD [] = (o.getD []).map f := by
  cases o <;> rfl

theorem Class.ownEvents_bare (c : Class) : c.bare.ownEvents = c.ownEvents.map Event.bare :=
  getD_map_map _ _

theorem Parameter.words_bare (p : Parameter) : p.bare.words = p.words := rfl

theorem flatMap_words_bare (ps : List Parameter) :
    (ps.map Parameter.bare).flatMap Parameter.words = ps.flatMap Parameter.words := by
  rw [List.flatMap_map]
  rfl

theorem Function.words_bare (f : Function) : f.bare.words = f.words := by
  have hresult : (f.result.map Return.bare).toList.map Return.type =
      f.result.toList.map Return.type := by
    cases f.result <;> rfl
  simp only [words, bare, getD_map_map, flatMap_words_bare, hresult]

theorem Event.words_bare (e : Event) : e.bare.words = e.words := by
  simp only [words, bare, flatMap_words_bare]

theorem Class.words_bare (c : Class) : c.bare.words = c.words := by
  have hfunctions (fs : List Function) :
      (fs.map Function.bare).flatMap Function.words = fs.flatMap Function.words := by
    rw [List.flatMap_map]
    exact congrArg (fun g => fs.flatMap g) (funext Function.words_bare)
  have hevents (es : List Event) :
      (es.map Event.bare).flatMap Event.words = es.flatMap Event.words := by
    rw [List.flatMap_map]
    exact congrArg (fun g => es.flatMap g) (funext Event.words_bare)
  have hproperties (ps : List Property) :
      (ps.map Property.bare).flatMap (fun p => [p.name, p.type]) =
        ps.flatMap (fun p => [p.name, p.type]) := by
    rw [List.flatMap_map]
    rfl
  rw [words, words, ownEvents_bare, hevents]
  simp only [bare, parents, getD_map_map, hfunctions, hproperties, flatMap_words_bare]

/-! ## Events -/

namespace Docs

/-- Which events can be subscribed to does not depend on descriptions. -/
theorem eventsOf_bare (d : Docs) (c : Class) :
    d.bare.eventsOf c.bare = (d.eventsOf c).map (List.map Event.bare) :=
  eventsOf_map Event.bare (fun _ => rfl) Class.bare (fun _ => rfl) (fun _ => rfl) Class.ownEvents_bare
    d c

end Docs

namespace Lua

/-! ## Shapes of lines -/

/-- A line without the text of its comment and without what follows its tag. -/
def Line.shape : Line → Line
  | .comment _ => .comment ""
  | .tag name _ => .tag name ""
  | l => l

def shapes (b : Block) : Block := b.map Line.shape

theorem shapes_append (a b : Block) : shapes (a ++ b) = shapes a ++ shapes b := List.map_append

/-- Lines of one shape each. -/
theorem shapes_map {α : Type} {f : α → Line} {l : Line} (h : ∀ x, (f x).shape = l) (xs : List α) :
    shapes (xs.map f) = List.replicate xs.length l := by
  induction xs with
  | nil => rfl
  | cons x xs ih =>
    rw [List.length_cons, List.replicate_succ, ← ih, ← h x]
    rfl

theorem shapes_functionBlock (accessor : String) (f : Function) :
    shapes (functionBlock accessor f.bare) = shapes (functionBlock accessor f) := by
  have hps : f.bare.parameters.getD [] = (f.parameters.getD []).map Parameter.bare := getD_map_map _ _
  have htags (ps : List Parameter) :
      shapes (ps.map parameterTag) = List.replicate ps.length (.tag "param" "") :=
    shapes_map (f := parameterTag) (fun _ => rfl) ps
  have hnames : ((f.parameters.getD []).map Parameter.bare).map Parameter.luaName =
      (f.parameters.getD []).map Parameter.luaName := by
    rw [List.map_map]
    rfl
  have hresult : shapes (f.bare.result.map returnTag).toList = shapes (f.result.map returnTag).toList := by
    cases hr : f.result <;> simp [Function.bare, hr, shapes, returnTag, Line.shape]
  unfold functionBlock
  simp only [shapes_append, htags, hps, List.length_map, hnames, hresult]
  simp only [shapes, List.map_cons, List.map_nil, Line.shape, Function.bare]

theorem shapes_functionBlocks (c : Class) (accessor : String) (fs : Option (List Function)) :
    shapes (functionBlocks c.bare accessor (fs.map (List.map Function.bare))) =
      shapes (functionBlocks c accessor fs) := by
  unfold functionBlocks
  rw [getD_map_map, List.filter_map]
  have hkeeps : keeps c.bare ∘ Function.bare = keeps c := rfl
  rw [hkeeps]
  induction (fs.getD []).filter (keeps c) with
  | nil => rfl
  | cons f fs ih =>
    rw [List.map_cons, List.flatMap_cons, List.flatMap_cons, shapes_append, shapes_append, ih,
      shapes_functionBlock]

theorem shapes_fieldTags (c : Class) : shapes (fieldTags c.bare) = shapes (fieldTags c) := by
  have htags (ps : List Property) :
      shapes (ps.map fieldTag) = List.replicate ps.length (.tag "field" "") :=
    shapes_map (f := fieldTag) (fun _ => rfl) ps
  have hps : c.bare.properties.getD [] = (c.properties.getD []).map Property.bare := getD_map_map _ _
  rw [fieldTags, fieldTags, htags, htags, hps, List.length_map]

theorem shapes_constructorTag (c : Class) :
    shapes (constructorTag c.bare) = shapes (constructorTag c) := by
  cases h : c.constructor <;> simp [constructorTag, Class.bare, h, shapes, Line.shape]

theorem shapes_subscriptionBlock (c : Class) (events : List Event) :
    shapes (subscriptionBlock c.bare (events.map Event.bare)) = shapes (subscriptionBlock c events) := by
  have hon (c : Class) (events : List Event) : shapes (events.map (subscribeTag c)) =
      List.replicate events.length (.tag "overload" "") :=
    shapes_map (f := subscribeTag c) (fun _ => rfl) events
  have hoff (c : Class) (events : List Event) : shapes (events.map (unsubscribeTag c)) =
      List.replicate events.length (.tag "overload" "") :=
    shapes_map (f := unsubscribeTag c) (fun _ => rfl) events
  have hcode (name : String) : subscriptionCode c.bare name = subscriptionCode c name := rfl
  unfold subscriptionBlock
  rw [List.isEmpty_map]
  split
  · rfl
  · simp only [shapes_append, hon, hoff, List.length_map]
    simp only [shapes, List.map_cons, List.map_nil, Line.shape, hcode]

/-- The lines of a class have the shapes that they have without descriptions. -/
theorem shapes_classLines (c : Class) (events : List Event) :
    shapes (classLines c.bare (events.map Event.bare)) = shapes (classLines c events) := by
  have hstatics := shapes_functionBlocks c (c.name ++ ".") c.staticFunctions
  have hfunctions := shapes_functionBlocks c (c.name ++ ":") c.functions
  unfold classLines
  simp only [shapes_append, shapes_fieldTags, shapes_constructorTag, shapes_subscriptionBlock,
    ← hstatics, ← hfunctions]
  simp only [shapes, List.map_cons, List.map_nil, Line.shape, Class.bare]

theorem classBlock_bare (d : Docs) (c : Class) :
    (classBlock d.bare c.bare).map shapes = (classBlock d c).map shapes := by
  rw [classBlock, classBlock, Docs.eventsOf_bare]
  cases d.eventsOf c with
  | error e => simp only [Except.map]
  | ok events => exact congrArg Except.ok (shapes_classLines c events)

/-! ## Code and tags of a text -/

/-- The lines of a text that are no comments. -/
def codeLines (text : String) : List String :=
  (lines true text).filter (fun line => !Text.begins "--" line)

/-- The word behind the mark of a tag. -/
def tagOf? (line : String) : Option String :=
  if Text.begins "---@" line then
    some (String.ofList ((line.toList.drop 4).takeWhile (fun c => c ≠ ' ')))
  else none

def tags (text : String) : List String := (lines true text).filterMap tagOf?

theorem codeLines_append_text (head : String) (b : Block) :
    codeLines (head ++ Block.text b) = codeLines head ++ b.flatMap (fun l => codeLines l.text) := by
  rw [codeLines, lines_append_text, List.filter_append, List.filter_flatMap]
  rfl

theorem tags_append_text (head : String) (b : Block) :
    tags (head ++ Block.text b) = tags head ++ b.flatMap (fun l => tags l.text) := by
  rw [tags, lines_append_text, List.filterMap_append, List.filterMap_flatMap]
  rfl

namespace Line

/-- What a line adds to the code. -/
def shown? : Line → Option String
  | .blank => some ""
  | .code t => if Text.begins "--" t then none else some t
  | _ => none

/-- What a line adds to the tags if it is no comment that looks like one. -/
def tag? : Line → Option String
  | .tag name _ => some (String.ofList (name.toList.takeWhile (fun c => c ≠ ' ')))
  | .code t => tagOf? t
  | _ => none

theorem shown?_shape (l : Line) : l.shape.shown? = l.shown? := by cases l <;> rfl

theorem tag?_shape (l : Line) : l.shape.tag? = l.tag? := by cases l <;> rfl

theorem shown?_eq (l : Line) :
    l.shown? = if !Text.begins "--" l.text then some l.text else none := by
  have hcomment (s : String) : Text.begins "--" ("---" ++ s) = true := by
    rw [Text.begins_iff, String.toList_append]
    exact ⟨'-' :: s.toList, rfl⟩
  cases l with
  | blank => rfl
  | comment t =>
    rw [show (Line.comment t).text = "---" ++ t from rfl, hcomment]
    rfl
  | tag name body =>
    rw [text_tag, hcomment]
    rfl
  | code t => cases h : Text.begins "--" t <;> simp [shown?, Line.text, h]

/-- No comment that looks like a tag. -/
def Untagged : Line → Prop
  | .comment t => Text.begins "@" t = false
  | _ => True

theorem tagOf?_text {l : Line} (h : l.Untagged) : tagOf? l.text = l.tag? := by
  cases l with
  | blank => rfl
  | comment t =>
    have hbegins : Text.begins "---@" (Line.comment t).text = false :=
      (Text.begins_append "---" "@" t).trans h
    simp [tagOf?, hbegins, tag?]
  | tag name body =>
    have hbegins : Text.begins "---@" (Line.tag name body).text = true := by
      rw [Text.begins_iff]
      exact ⟨name.toList ++ ' ' :: body.toList, by simp [Line.text]⟩
    have hrest : (Line.tag name body).text.toList.drop 4 = name.toList ++ ' ' :: body.toList := by
      simp [Line.text]
    rw [tagOf?, if_pos hbegins, hrest, Text.takeWhile_append_cons (by simp)]
    rfl
  | code t => rfl

end Line

theorem codeLines_of_unbroken {l : Line} (h : Unbroken true l.text) :
    codeLines l.text = l.shown?.toList := by
  rw [codeLines, lines_of_unbroken h, l.shown?_eq]
  cases hcomment : Text.begins "--" l.text <;> simp [hcomment]

theorem tags_of_unbroken {l : Line} (h : Unbroken true l.text) (htag : l.Untagged) :
    tags l.text = l.tag?.toList := by
  rw [tags, lines_of_unbroken h, List.filterMap_cons, Line.tagOf?_text htag]
  cases l.tag? <;> rfl

/-- The code of unbroken lines can be told from their shapes. -/
theorem flatMap_codeLines {b : Block} (hb : ∀ l ∈ b, Unbroken true l.text) :
    b.flatMap (fun l => codeLines l.text) = (shapes b).filterMap Line.shown? := by
  have hshape : Line.shown? ∘ Line.shape = Line.shown? := funext Line.shown?_shape
  rw [shapes, List.filterMap_map, hshape, List.filterMap_eq_flatMap_toList]
  exact List.flatMap_congr (fun l hl => codeLines_of_unbroken (hb l hl))

theorem flatMap_tags {b : Block} (hb : ∀ l ∈ b, Unbroken true l.text)
    (htag : ∀ l ∈ b, l.Untagged) :
    b.flatMap (fun l => tags l.text) = (shapes b).filterMap Line.tag? := by
  have hshape : Line.tag? ∘ Line.shape = Line.tag? := funext Line.tag?_shape
  rw [shapes, List.filterMap_map, hshape, List.filterMap_eq_flatMap_toList]
  exact List.flatMap_congr (fun l hl => tags_of_unbroken (hb l hl) (htag l hl))

/-! ## Comments that begin with a description -/

theorem begins_of_head {s : String} {c : Char} {cs : List Char} (h : s.toList = c :: cs)
    (hc : c ≠ '@') : Text.begins "@" s = false := by
  rw [Text.begins, h]
  simp [List.isPrefixOf, hc.symm]

theorem begins_line (d : Description) : Text.begins "@" d.line = Text.begins "@" d.text := by
  cases htext : d.text.toList with
  | nil =>
    have hline : d.line.toList = [] := by simp [Description.line, htext]
    rw [Text.begins, Text.begins, htext, hline]
  | cons c cs =>
    -- a line feed in front is written as `<br>`, which is no mark of a tag either
    by_cases hc : c = '\n'
    · have hline : ∃ rest, d.line.toList = '<' :: rest := by simp [Description.line, htext, hc]
      obtain ⟨rest, hline⟩ := hline
      rw [begins_of_head hline (by decide), begins_of_head htext (by simp [hc])]
    · have hline : ∃ rest, d.line.toList = c :: rest := by simp [Description.line, htext, hc]
      obtain ⟨rest, hline⟩ := hline
      simp [Text.begins, htext, hline, List.isPrefixOf]

theorem begins_literal {c : Char} (cs : List Char) (hc : c ≠ '@') (s : String) :
    Text.begins "@" (String.ofList (c :: cs) ++ s) = false :=
  begins_of_head (by rw [String.toList_append, String.toList_ofList]; rfl) hc

theorem begins_badge (a : Authority) : Text.begins "@" (badge a) = false := by
  have hpicture (image label : String) : Text.begins "@" (badge.picture image label) = false := by
    unfold badge.picture
    rw [String.append_assoc, String.append_assoc, String.append_assoc]
    exact begins_literal _ (by decide) _
  cases a with
  | unknown name =>
    have hbadge : badge (.unknown name) = "Invalid authority \"" ++ name ++ "\" in documentation" :=
      rfl
    rw [hbadge, String.append_assoc]
    exact begins_literal _ (by decide) _
  | _ => exact hpicture _ _

/-- The descriptions that stand in lines of their own: those of a class and of its functions. -/
def headings (c : Class) : List Description :=
  c.doc :: (c.staticFunctions.getD [] ++ c.functions.getD []).map Function.doc

theorem untagged_functionBlock {accessor : String} {f : Function}
    (h : Text.begins "@" f.doc.text = false) : ∀ l ∈ functionBlock accessor f, l.Untagged := by
  have hps : ∀ l ∈ (f.parameters.getD []).map parameterTag, l.Untagged :=
    List.forall_mem_map.mpr (fun _ _ => trivial)
  have hresult : ∀ l ∈ (f.result.map returnTag).toList, l.Untagged := by
    rw [Option.toList_map]
    exact List.forall_mem_map.mpr (fun _ _ => trivial)
  unfold functionBlock
  simp only [List.cons_append, List.nil_append, List.forall_mem_cons, List.forall_mem_append,
    List.not_mem_nil, false_implies, implies_true, and_true]
  exact ⟨trivial, begins_badge _, rfl, (begins_line f.doc).trans h, ⟨hps, hresult⟩, trivial⟩

theorem untagged_functionBlocks {c : Class} {accessor : String} {fs : Option (List Function)}
    (h : ∀ f ∈ fs.getD [], Text.begins "@" f.doc.text = false) :
    ∀ l ∈ functionBlocks c accessor fs, l.Untagged :=
  List.forall_mem_flatMap.mpr (fun f hf => untagged_functionBlock (h f (List.mem_filter.mp hf).1))

theorem untagged_subscriptionBlock (c : Class) (events : List Event) :
    ∀ l ∈ subscriptionBlock c events, l.Untagged := by
  have hon : ∀ l ∈ events.map (subscribeTag c), l.Untagged :=
    List.forall_mem_map.mpr (fun _ _ => trivial)
  have hoff : ∀ l ∈ events.map (unsubscribeTag c), l.Untagged :=
    List.forall_mem_map.mpr (fun _ _ => trivial)
  unfold subscriptionBlock
  split
  · simp
  · simp only [List.cons_append, List.nil_append, List.append_assoc, List.forall_mem_cons,
      List.forall_mem_append, List.not_mem_nil, false_implies, implies_true, and_true]
    exact ⟨trivial, rfl, trivial, trivial, trivial, hon, trivial, trivial, rfl, trivial, trivial,
      hoff, trivial⟩

theorem untagged_classLines {c : Class} (h : ∀ t ∈ headings c, Text.begins "@" t.text = false)
    (events : List Event) : ∀ l ∈ classLines c events, l.Untagged := by
  simp only [headings, List.forall_mem_cons, List.forall_mem_map, List.forall_mem_append] at h
  obtain ⟨hdoc, hstatics, hfunctions⟩ := h
  have hfields : ∀ l ∈ fieldTags c, l.Untagged := List.forall_mem_map.mpr (fun _ _ => trivial)
  have hctor : ∀ l ∈ constructorTag c, l.Untagged := by
    unfold constructorTag
    split
    · simp
    · exact List.forall_mem_singleton.mpr trivial
  unfold classLines
  simp only [List.cons_append, List.nil_append, List.append_assoc, List.forall_mem_cons,
    List.forall_mem_append]
  exact ⟨trivial, begins_badge _, rfl, (begins_line c.doc).trans hdoc, trivial, hfields, hctor,
    trivial, untagged_functionBlocks hstatics, untagged_functionBlocks hfunctions,
    untagged_subscriptionBlock c events, hfields⟩

/-! ## Files -/

/-- A file is the header and one block: the blocks of its classes and those of its enums. -/
theorem exists_blocks {d : Docs} {text : String} (h : document d = .ok text) :
    ∃ bs, List.Forall₂ (fun c b => classBlock d c = .ok b) d.classes bs ∧
      text = header ++ Block.text (bs.flatten ++ d.enums.flatMap enumBlock) := by
  obtain ⟨texts, heach, rfl⟩ := document_eq_ok.mp h
  obtain ⟨bs, hbs, htexts⟩ := exists_between (heach.imp (fun _ _ hc => map_eq_ok.mp hc))
  obtain rfl : bs.map Block.text = texts := by
    rw [← List.forall₂_eq_eq_eq, List.forall₂_map_left_iff]
    exact htexts
  have henums : String.join (d.enums.map enumText) = Block.text (d.enums.flatMap enumBlock) := by
    rw [List.flatMap_def, text_flatten, List.map_map]
    rfl
  refine ⟨bs, hbs, ?_⟩
  rw [text_append, text_flatten, henums, String.append_assoc]
  rfl

theorem unbroken_blocks {d : Docs} {bs : List Block}
    (h : List.Forall₂ (fun c b => classBlock d c = .ok b) d.classes bs)
    (hwords : ∀ c ∈ d.classes, ∀ s ∈ c.words, Unbroken true s)
    (hdocs : ∀ c ∈ d.classes, ∀ t ∈ c.descriptions, '\r' ∉ t.text.toList) :
    ∀ l ∈ bs.flatten, Unbroken true l.text := by
  intro l hl
  obtain ⟨b, hb, hl⟩ := List.mem_flatten.mp hl
  obtain ⟨c, hc, hblock⟩ := exists_of_forall₂ h.flip b hb
  have hall : ∀ x ∈ c :: d.classes, x ∈ d.classes :=
    List.forall_mem_cons.mpr ⟨hc, fun _ hx => hx⟩
  exact unbroken_classBlock hblock (fun x hx => hwords x (hall x hx))
    (fun x hx t ht => unbroken_line (fun _ => hdocs x (hall x hx) t ht)) l hl

/-- The lines of classes have the shapes that they have without descriptions. -/
theorem shapes_blocks {d : Docs} {bs : List Block}
    (h : List.Forall₂ (fun c b => classBlock d c = .ok b) d.classes bs) :
    d.bare.classes.mapM (fun c => (classBlock d.bare c).map shapes) = .ok (bs.map shapes) := by
  refine mapM_eq_ok.mpr ?_
  rw [Docs.bare, List.forall₂_map_left_iff, List.forall₂_map_right_iff]
  refine h.imp (fun c b hc => ?_)
  show (classBlock d.bare c.bare).map shapes = .ok (shapes b)
  rw [classBlock_bare, hc]
  rfl

theorem shapes_flatten (bs : List Block) : shapes bs.flatten = (bs.map shapes).flatten :=
  List.map_flatten

theorem shapes_flatten_congr {d d' : Docs} (hbare : d.bare = d'.bare) {bs bs' : List Block}
    (h : List.Forall₂ (fun c b => classBlock d c = .ok b) d.classes bs)
    (h' : List.Forall₂ (fun c b => classBlock d' c = .ok b) d'.classes bs') :
    shapes bs.flatten = shapes bs'.flatten := by
  have hshapes := shapes_blocks h
  rw [hbare, shapes_blocks h'] at hshapes
  rw [shapes_flatten, shapes_flatten, Except.ok.inj hshapes]

/-- Classes that differ in descriptions only have the same other texts. -/
theorem words_congr {d d' : Docs} (hbare : d.bare = d'.bare) :
    ∀ c' ∈ d'.classes, ∃ c ∈ d.classes, c.words = c'.words := by
  intro c' hc'
  have hmem : c'.bare ∈ d.classes.map Class.bare := by
    rw [show d.classes.map Class.bare = d'.classes.map Class.bare from congrArg Docs.classes hbare]
    exact List.mem_map_of_mem hc'
  obtain ⟨c, hc, heq⟩ := List.mem_map.mp hmem
  exact ⟨c, hc, by rw [← c.words_bare, heq, c'.words_bare]⟩

theorem untagged_blocks {d : Docs} {bs : List Block}
    (h : List.Forall₂ (fun c b => classBlock d c = .ok b) d.classes bs)
    (hheadings : ∀ c ∈ d.classes, ∀ t ∈ headings c, Text.begins "@" t.text = false) :
    ∀ l ∈ bs.flatten, l.Untagged := by
  intro l hl
  obtain ⟨b, hb, hl⟩ := List.mem_flatten.mp hl
  obtain ⟨c, hc, hblock⟩ := exists_of_forall₂ h.flip b hb
  obtain ⟨events, -, rfl⟩ := map_eq_ok.mp hblock
  exact untagged_classLines (hheadings c hc) events l hl

/-- Two files of what differs in descriptions only have the same code, and as long as no description of a
class or function begins with the mark of a tag they have the same tags.  The descriptions may hold line
feeds, but no carriage returns. -/
theorem document_inert {d d' : Docs} (hbare : d.bare = d'.bare)
    (hwords : ∀ c ∈ d.classes, ∀ s ∈ c.words, '\n' ∉ s.toList ∧ '\r' ∉ s.toList)
    (hdocs : ∀ c ∈ d.classes ++ d'.classes, ∀ t ∈ c.descriptions, '\r' ∉ t.text.toList)
    {text text' : String} (htext : document d = .ok text) (htext' : document d' = .ok text') :
    codeLines text = codeLines text' ∧
      ((∀ c ∈ d.classes ++ d'.classes, ∀ t ∈ headings c, Text.begins "@" t.text = false) →
        tags text = tags text') := by
  have hunbroken : ∀ c ∈ d.classes, ∀ s ∈ c.words, Unbroken true s := by
    intro c hc s hs x hx
    obtain ⟨hfeed, hreturn⟩ := hwords c hc s hs
    have hne : x ≠ '\n' ∧ x ≠ '\r' := ⟨fun h => hfeed (h ▸ hx), fun h => hreturn (h ▸ hx)⟩
    simp [endsLine, hne]
  have hunbroken' : ∀ c ∈ d'.classes, ∀ s ∈ c.words, Unbroken true s := by
    intro c' hc'
    obtain ⟨c, hc, heq⟩ := words_congr hbare c' hc'
    exact heq ▸ hunbroken c hc
  obtain ⟨hdoc, hdoc'⟩ := List.forall_mem_append.mp hdocs
  obtain ⟨bs, hbs, rfl⟩ := exists_blocks htext
  obtain ⟨bs', hbs', rfl⟩ := exists_blocks htext'
  have hlines := unbroken_blocks hbs hunbroken hdoc
  have hlines' := unbroken_blocks hbs' hunbroken' hdoc'
  have hshapes := shapes_flatten_congr hbare hbs hbs'
  have henums : d.enums = d'.enums := show d.bare.enums = d'.bare.enums by rw [hbare]
  constructor
  · rw [codeLines_append_text, codeLines_append_text, List.flatMap_append, List.flatMap_append,
      flatMap_codeLines hlines, flatMap_codeLines hlines', hshapes, henums]
  · intro hheadings
    obtain ⟨hheading, hheading'⟩ := List.forall_mem_append.mp hheadings
    rw [tags_append_text, tags_append_text, List.flatMap_append, List.flatMap_append,
      flatMap_tags hlines (untagged_blocks hbs hheading),
      flatMap_tags hlines' (untagged_blocks hbs' hheading'), hshapes, henums]

/-- A class with a function, an event and a property that all have this description. -/
def annotated (text : String) : Docs :=
  let doc : Description := ⟨some text, none⟩
  ⟨[⟨"A", .both, none, none, none,
    some [⟨"Play", .client, some [⟨"at", "number", some "0", doc⟩], some ⟨"boolean", doc⟩, doc⟩],
    some [⟨"Stop", [⟨"self", "A", none, doc⟩], doc⟩], some [⟨"speed", "number", doc⟩], false, doc⟩], []⟩

theorem document_inert_sample :
    ((annotated "one\n@two").bare = (annotated "").bare ∧
      (∀ c ∈ (annotated "one\n@two").classes, ∀ s ∈ c.words, '\n' ∉ s.toList ∧ '\r' ∉ s.toList) ∧
      (∀ c ∈ (annotated "one\n@two").classes ++ (annotated "").classes,
        ∀ t ∈ c.descriptions, '\r' ∉ t.text.toList) ∧
      ∀ c ∈ (annotated "one\n@two").classes ++ (annotated "").classes,
        ∀ t ∈ headings c, Text.begins "@" t.text = false) ∧
    ∃ text text', document (annotated "one\n@two") = .ok text ∧ document (annotated "") = .ok text' ∧
      codeLines text = codeLines text' ∧ tags text = tags text' := by
  have hbare : (annotated "one\n@two").bare = (annotated "").bare := rfl
  have hwords : ∀ c ∈ (annotated "one\n@two").classes, ∀ s ∈ c.words,
      '\n' ∉ s.toList ∧ '\r' ∉ s.toList := by decide
  have hdocs : ∀ c ∈ (annotated "one\n@two").classes ++ (annotated "").classes,
      ∀ t ∈ c.descriptions, '\r' ∉ t.text.toList := by decide
  have hheadings : ∀ c ∈ (annotated "one\n@two").classes ++ (annotated "").classes,
      ∀ t ∈ headings c, Text.begins "@" t.text = false := by decide
  obtain ⟨hcode, htags⟩ := document_inert hbare hwords hdocs rfl rfl
  exact ⟨⟨hbare, hwords, hdocs, hheadings⟩, _, _, rfl, rfl, hcode, htags hheadings⟩

/-! ## Descriptions that are not inert -/

/-- A class and its description. -/
def described (text : String) : Docs :=
  ⟨[⟨"A", .both, none, none, none, none, none, none, false, ⟨some text, none⟩⟩], []⟩

/-- The description stands in a comment of its own; what that comment comes to is what it adds to the code
and to the tags. -/
theorem document_described (text : String) :
    ∃ file, document (described text) = .ok file ∧
      codeLines file = "" :: codeLines (Line.comment (Description.line ⟨some text, none⟩)).text ++
        ["A = \x7b\x7d"] ∧
      tags file = "meta" :: tags (Line.comment (Description.line ⟨some text, none⟩)).text ++
        ["class"] := by
  have hblock : classLines ⟨"A", .both, none, none, none, none, none, none, false, ⟨some text, none⟩⟩ []
      = [.blank, .comment (badge .both), .comment "",
        .comment (Description.line ⟨some text, none⟩), .tag "class" "A", .code "A = \x7b\x7d"] := rfl
  have hfile : document (described text) = .ok (header ++ Block.text
      (classLines ⟨"A", .both, none, none, none, none, none, none, false, ⟨some text, none⟩⟩ [])) := by
    refine congrArg Except.ok ?_
    show header ++ String.join [_] ++ String.join [] = _
    simp
    rfl
  have hbadge : Unbroken true (Line.comment (badge .both)).text :=
    unbroken_comment (unbroken_badge (.literal _ rfl))
  have hempty : Unbroken true (Line.comment "").text := unbroken_comment (.literal [] rfl)
  have hclass : Unbroken true (Line.tag "class" "A").text :=
    unbroken_tag (.literal _ rfl) (.literal _ rfl)
  have hcode : Unbroken true (Line.code "A = \x7b\x7d").text := unbroken_code (.literal _ rfl)
  refine ⟨_, hfile, ?_, ?_⟩
  · rw [hblock, codeLines_append_text]
    simp only [List.flatMap_cons, List.flatMap_nil, codeLines_of_unbroken unbroken_blank,
      codeLines_of_unbroken hbadge, codeLines_of_unbroken hempty, codeLines_of_unbroken hclass,
      codeLines_of_unbroken hcode, show codeLines header = [] by decide]
    generalize codeLines (Line.comment (Description.line ⟨some text, none⟩)).text = added
    rfl
  · rw [hblock, tags_append_text]
    simp only [List.flatMap_cons, List.flatMap_nil, tags_of_unbroken unbroken_blank trivial,
      tags_of_unbroken hbadge (begins_badge _), tags_of_unbroken hempty rfl,
      tags_of_unbroken hclass trivial, tags_of_unbroken hcode trivial,
      show tags header = ["meta"] by decide]
    generalize tags (Line.comment (Description.line ⟨some text, none⟩)).text = added
    rfl

/-- A line break of two characters ends the comment of its description, and a description that begins
with the mark of a tag is one. -/
theorem document_not_inert :
    (described "one\r\ntwo").bare = (described "").bare ∧
    (described "@deprecated").bare = (described "").bare ∧
    (∀ c ∈ (described "").classes, ∀ s ∈ c.words, '\n' ∉ s.toList ∧ '\r' ∉ s.toList) ∧
    ∃ text text' plain, document (described "one\r\ntwo") = .ok text ∧
      document (described "@deprecated") = .ok text' ∧ document (described "") = .ok plain ∧
      codeLines text = ["", "<br>two", "A = \x7b\x7d"] ∧ codeLines plain = ["", "A = \x7b\x7d"] ∧
      tags text' = ["meta", "deprecated", "class"] ∧ tags plain = ["meta", "class"] := by
  obtain ⟨text, htext, hcode, -⟩ := document_described "one\r\ntwo"
  obtain ⟨text', htext', -, htags⟩ := document_described "@deprecated"
  obtain ⟨plain, hplain, hplainCode, hplainTags⟩ := document_described ""
  refine ⟨rfl, rfl, by decide, text, text', plain, htext, htext', hplain, ?_, ?_, ?_, ?_⟩
  · rw [hcode]
    decide
  · rw [hplainCode]
    decide
  · rw [htags]
    decide
  · rw [hplainTags]
    decide

end Lua

end LuaStubs
