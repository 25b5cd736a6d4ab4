import LuaStubs.Proofs.Lua.Events
import LuaStubs.Proofs.Text.Affix

/-! The lines of a block are the lines of its text, as long as nothing that is written into one of them
ends a line. -/
namespace LuaStubs

/-! ## What is written -/

/-! The texts of a descriptor that are no descriptions. -/

def Parameter.words (p : Parameter) : List String := p.name :: p.type :: p.default.toList

def Function.words (f : Function) : List String :=
  f.name :: f.authority.name :: (f.parameters.getD []).flatMap Parameter.words ++
    f.result.toList.map Return.type

def Event.words (e : Event) : List String := e.name :: e.arguments.flatMap Parameter.words

def Class.words (c : Class) : List String :=
  c.name :: c.authority.name :: c.parents ++ (c.constructor.getD []).flatMap Parameter.words ++
    (c.staticFunctions.getD []).flatMap Function.words ++
    (c.functions.getD []).flatMap Function.words ++ c.ownEvents.flatMap Event.words ++
    (c.properties.getD []).flatMap (fun p => [p.name, p.type])

def Function.descriptions (f : Function) : List Description :=
  f.doc :: (f.parameters.getD []).map Parameter.doc ++ f.result.toList.map Return.doc

/-- The descriptions that a class has in its block; those of arguments and of constructor parameters
are not written. -/
def Class.descriptions (c : Class) : List Description :=
  c.doc :: (c.staticFunctions.getD []).flatMap Function.descriptions ++
    (c.functions.getD []).flatMap Function.descriptions ++ c.ownEvents.map Event.doc ++
    (c.properties.getD []).map Property.doc

namespace Lua

/-! ## Ends of lines -/

/-- A line feed ends a line; a carriage return may be taken to end one too. -/
def endsLine (returns : Bool) (c : Char) : Bool := c = '\n' || (returns && c = '\r')

/-- Nothing in the text ends a line. -/
def Unbroken (returns : Bool) (s : String) : Prop := ∀ c ∈ s.toList, endsLine returns c = false

variable {returns : Bool}

/-- A text without line feeds and carriage returns is one line in any case. -/
theorem Unbroken.weaken {s : String} (h : Unbroken true s) : Unbroken returns s := by
  intro c hc
  have hends := h c hc
  cases returns <;> simp_all [endsLine]

theorem Unbroken.of_no_feed {s : String} (h : '\n' ∉ s.toList) : Unbroken false s := by
  intro c hc
  have hne : c ≠ '\n' := fun heq => h (heq ▸ hc)
  simp [endsLine, hne]

theorem Unbroken.literal (cs : List Char) (h : cs.all (fun c => !endsLine true c) = true) :
    Unbroken returns (String.ofList cs) := by
  refine Unbroken.weaken (fun c hc => ?_)
  rw [String.toList_ofList] at hc
  simpa using List.all_eq_true.mp h c hc

theorem Unbroken.append {s t : String} (hs : Unbroken returns s) (ht : Unbroken returns t) :
    Unbroken returns (s ++ t) := by
  rw [Unbroken, String.toList_append]
  exact List.forall_mem_append.mpr ⟨hs, ht⟩

theorem unbroken_commas {parts : List String} (h : ∀ s ∈ parts, Unbroken returns s) :
    Unbroken returns (commas parts) := by
  have hmark : Unbroken returns ", " := .literal _ rfl
  unfold commas
  induction parts with
  | nil => exact .literal [] rfl
  | cons part parts ih =>
    obtain ⟨hpart, hparts⟩ := List.forall_mem_cons.mp h
    by_cases hnil : parts = []
    · rw [hnil, String.intercalate_singleton]
      exact hpart
    · rw [String.intercalate_cons_of_ne_nil hnil]
      exact (hpart.append hmark).append (ih hparts)

/-- Line feeds are replaced in descriptions, carriage returns are not. -/
theorem unbroken_line {d : Description} (h : returns = true → '\r' ∉ d.text.toList) :
    Unbroken returns d.line := by
  intro c hc
  rw [Description.line, String.toList_ofList, List.mem_flatMap] at hc
  obtain ⟨x, hx, hc⟩ := hc
  split at hc
  · have hmark : ∀ c ∈ ['<', 'b', 'r', '>'], endsLine true c = false := by simp [endsLine]
    have hends := hmark c hc
    cases returns <;> simp_all [endsLine]
  · next hne =>
    obtain rfl := List.mem_singleton.mp hc
    cases returns with
    | false => simp [endsLine, hne]
    | true =>
      have hreturn : c ≠ '\r' := by
        rintro rfl
        exact h rfl hx
      simp [endsLine, hne, hreturn]

/-! ## Events -/

/-- The events of a class are declared by it or by a class of the documentation. -/
theorem mem_eventsOf {d : Docs} {c : Class} {events : List Event} (h : d.eventsOf c = .ok events) :
    ∀ e ∈ events, ∃ x ∈ c :: d.classes, e ∈ x.ownEvents := by
  have hresolves : d.Resolves c.parents := Docs.exists_eventsOf_iff.mp ⟨events, h⟩
  rw [Docs.eventsOf_of_resolves hresolves] at h
  cases h
  intro e he
  rcases Docs.declared_of_mem (Keyed.merges_putAll Event.name _) he with hown | hparent
  · exact ⟨c, List.mem_cons_self, hown⟩
  · obtain ⟨_, -, p, hp, hown⟩ := hparent
    exact ⟨p, List.mem_cons_of_mem c (List.mem_of_find?_eq_some hp), hown⟩

/-! ## Lines of a text -/

theorem text_append (a b : Block) : Block.text (a ++ b) = Block.text a ++ Block.text b :=
  String.toList_inj.mp (by rw [String.toList_append, Block.toList_text_append])

theorem text_flatten (bs : List Block) : Block.text bs.flatten = String.join (bs.map Block.text) := by
  induction bs with
  | nil => rfl
  | cons b bs ih => rw [List.flatten_cons, text_append, ih, List.map_cons, String.join_cons]

theorem Block.toList_text (b : Block) :
    (Block.text b).toList = b.flatMap (fun l => '\n' :: l.text.toList) := by
  induction b with
  | nil => rfl
  | cons l b ih => rw [Block.toList_text_cons, ih, List.flatMap_cons]

/-- The lines of a text. -/
def lines (returns : Bool) (text : String) : List String :=
  (Text.split (endsLine returns) text.toList).map String.ofList

theorem lines_of_unbroken {s : String} (h : Unbroken returns s) : lines returns s = [s] := by
  simp [lines, Text.split_of_no_mark h]

/-- Each line of a block adds the lines of its own text. -/
theorem lines_append_text (head : String) (b : Block) :
    lines returns (head ++ Block.text b) =
      lines returns head ++ b.flatMap (fun l => lines returns l.text) := by
  have hmark : endsLine returns '\n' = true := by simp [endsLine]
  rw [lines, String.toList_append, Block.toList_text]
  induction b generalizing head with
  | nil => simp [lines]
  | cons l b ih =>
    rw [List.flatMap_cons, List.cons_append, Text.split_append hmark, List.map_append, ih l.text]
    rfl

theorem lines_append_unbroken (head : String) {b : Block} (hb : ∀ l ∈ b, Unbroken returns l.text) :
    lines returns (head ++ Block.text b) = lines returns head ++ b.map Line.text := by
  rw [lines_append_text, List.flatMap_congr (fun l hl => lines_of_unbroken (hb l hl)),
    List.map_eq_flatMap]

/-- Each line stands behind one line feed. -/
theorem count_lines {b : Block} (hb : ∀ l ∈ b, Unbroken returns l.text) :
    (Block.text b).toList.count '\n' = b.length := by
  rw [Block.toList_text]
  induction b with
  | nil => rfl
  | cons l b ih =>
    obtain ⟨hl, hb⟩ := List.forall_mem_cons.mp hb
    have hfeed : '\n' ∉ l.text.toList := by
      intro hc
      have hends := hl _ hc
      simp [endsLine] at hends
    rw [List.flatMap_cons, List.count_append, List.count_cons_self, ih hb,
      List.count_eq_zero_of_not_mem hfeed, List.length_cons]
    omega

/-- A tag is a comment too. -/
theorem Line.text_tag (name body : String) :
    (Line.tag name body).text = "---" ++ ("@" ++ name ++ " " ++ body) := by
  simp [Line.text, ← String.append_assoc]

/-! ## Lines of a class -/

theorem unbroken_blank : Unbroken returns Line.blank.text := .literal [] rfl

theorem unbroken_comment {s : String} (h : Unbroken returns s) :
    Unbroken returns (Line.comment s).text :=
  .append (.literal _ rfl) h

theorem unbroken_tag {name body : String} (hname : Unbroken returns name)
    (hbody : Unbroken returns body) : Unbroken returns (Line.tag name body).text :=
  .append (.append (.append (.literal _ rfl) hname) (.literal _ rfl)) hbody

theorem unbroken_code {s : String} (h : Unbroken returns s) : Unbroken returns (Line.code s).text := h

theorem unbroken_remark {d : Description} (h : Unbroken returns d.line) :
    Unbroken returns (remark d) := by
  unfold remark
  split
  · exact .literal _ rfl
  · exact .append (.literal _ rfl) h

theorem unbroken_badge {a : Authority} (h : Unbroken returns a.name) :
    Unbroken returns (badge a) := by
  have hpicture {image label : String} (himage : Unbroken returns image)
      (hlabel : Unbroken returns label) : Unbroken returns (badge.picture image label) :=
    .append (.append (.append (.append (.literal _ rfl) himage) (.literal _ rfl)) hlabel)
      (.literal _ rfl)
  cases a with
  | unknown name =>
    have hname : Unbroken returns name := h
    exact .append (.append (.literal _ rfl) hname) (.literal _ rfl)
  | _ => exact hpicture (.literal _ rfl) (.literal _ rfl)

theorem unbroken_typed {name type : String} (hname : Unbroken returns name)
    (htype : Unbroken returns type) : Unbroken returns (typed name type) :=
  .append (.append hname (.literal _ rfl)) htype

section Parameter

variable {p : Parameter} (hwords : ∀ s ∈ p.words, Unbroken returns s)
include hwords

theorem unbroken_luaName : Unbroken returns p.luaName := by
  unfold Parameter.luaName
  split
  · exact .literal _ rfl
  · exact hwords _ (by simp [Parameter.words])

theorem unbroken_parameterRemark (hdoc : Unbroken returns p.doc.line) :
    Unbroken returns (parameterRemark p) := by
  have hremark := unbroken_remark hdoc
  unfold parameterRemark
  split
  · exact hremark
  · next d hd =>
    split
    · exact hremark
    · have hdefault : Unbroken returns d := hwords d (by simp [Parameter.words, hd])
      have hlead : Unbroken returns (if remark p.doc = "" then "@" else " ") := by
        split <;> exact .literal _ rfl
      have hvalue : Unbroken returns (if d = "" then "\"\"" else d) := by
        split
        · exact .literal _ rfl
        · exact hdefault
      exact .append (.append (.append (.append hremark hlead) (.literal _ rfl)) hvalue)
        (.literal _ rfl)

theorem unbroken_parameterTag (hdoc : Unbroken returns p.doc.line) :
    Unbroken returns (parameterTag p).text := by
  have hname := unbroken_luaName hwords
  have htype : Unbroken returns p.type := hwords _ (by simp [Parameter.words])
  have hmark : Unbroken returns (if p.isOptional then "?" else "") := by
    split <;> exact .literal _ rfl
  have hremark := unbroken_parameterRemark hwords hdoc
  exact unbroken_tag (.literal _ rfl) (.append (.append (.append (.append (.append hname hmark)
    (.literal _ rfl)) htype) (.literal _ rfl)) hremark)

end Parameter

theorem unbroken_functionBlock {accessor : String} (haccessor : Unbroken returns accessor)
    {f : Function} (hwords : ∀ s ∈ f.words, Unbroken returns s)
    (hdocs : ∀ t ∈ f.descriptions, Unbroken returns t.line) :
    ∀ l ∈ functionBlock accessor f, Unbroken returns l.text := by
  simp only [Function.words, Function.descriptions, List.cons_append, List.forall_mem_cons,
    List.forall_mem_append, List.forall_mem_flatMap, List.forall_mem_map] at hwords hdocs
  obtain ⟨hname, hside, hps, hresult⟩ := hwords
  obtain ⟨hdoc, hpdocs, hrdoc⟩ := hdocs
  have hnames : Unbroken returns (commas ((f.parameters.getD []).map Parameter.luaName)) :=
    unbroken_commas (List.forall_mem_map.mpr (fun p hp => unbroken_luaName (hps p hp)))
  unfold functionBlock
  simp only [List.cons_append, List.nil_append, List.forall_mem_cons, List.forall_mem_append,
    List.forall_mem_map, Option.toList_map, List.not_mem_nil, false_implies, implies_true, and_true]
  refine ⟨unbroken_blank, unbroken_comment (unbroken_badge hside), unbroken_comment (.literal _ rfl),
    unbroken_comment hdoc, ⟨?_, ?_⟩, ?_⟩
  · exact fun p hp => unbroken_parameterTag (hps p hp) (hpdocs p hp)
  · exact fun r hr => unbroken_tag (.literal _ rfl)
      (.append (.append (hresult r hr) (.literal _ rfl)) (hrdoc r hr))
  · exact unbroken_code (.append (.append (.append (.append (.append (.literal _ rfl) haccessor) hname)
      (.literal _ rfl)) hnames) (.literal _ rfl))

theorem unbroken_fieldTag {p : Property} (hname : Unbroken returns p.name)
    (htype : Unbroken returns p.type) (hdoc : Unbroken returns p.doc.line) :
    Unbroken returns (fieldTag p).text :=
  unbroken_tag (.literal _ rfl) (.append (.append (.append (.append hname (.literal _ rfl)) htype)
    (.literal _ rfl)) (unbroken_remark hdoc))

theorem unbroken_parentList {c : Class} (h : ∀ s ∈ c.parents, Unbroken returns s) :
    Unbroken returns (parentList c) := by
  unfold parentList
  split
  · exact .literal _ rfl
  · next parents hsome =>
    refine .append (.literal _ rfl) (unbroken_commas ?_)
    simpa [Class.parents, hsome] using h

section Class

variable {c : Class} (hname : Unbroken returns c.name)
include hname

theorem unbroken_constructorTag
    (h : ∀ p ∈ c.constructor.getD [], ∀ s ∈ p.words, Unbroken returns s) :
    ∀ l ∈ constructorTag c, Unbroken returns l.text := by
  unfold constructorTag
  split
  · simp
  · next ps hsome =>
    rw [hsome] at h
    have hlist : Unbroken returns (constructorList ps) :=
      unbroken_commas (List.forall_mem_map.mpr (fun p hp => unbroken_typed
        (h p hp _ (by simp [Parameter.words])) (h p hp _ (by simp [Parameter.words]))))
    exact List.forall_mem_singleton.mpr (unbroken_tag (.literal _ rfl)
      (.append (.append (.append (.literal _ rfl) hlist) (.literal _ rfl)) hname))

theorem unbroken_functionBlocks {mark : String} (hmark : Unbroken returns mark)
    {fs : Option (List Function)}
    (hwords : ∀ f ∈ fs.getD [], ∀ s ∈ f.words, Unbroken returns s)
    (hdocs : ∀ f ∈ fs.getD [], ∀ t ∈ f.descriptions, Unbroken returns t.line) :
    ∀ l ∈ functionBlocks c (c.name ++ mark) fs, Unbroken returns l.text := by
  refine List.forall_mem_flatMap.mpr (fun f hf => ?_)
  have hmem := (List.mem_filter.mp hf).1
  exact unbroken_functionBlock (hname.append hmark) (hwords f hmem) (hdocs f hmem)

theorem unbroken_callbackList {ps : List Parameter}
    (hps : ∀ p ∈ ps, ∀ s ∈ p.words, Unbroken returns s) :
    Unbroken returns (callbackList c.name ps) := by
  have htyped {p : Parameter} (hp : ∀ s ∈ p.words, Unbroken returns s) :
      Unbroken returns p.name ∧ Unbroken returns p.type :=
    ⟨hp _ (by simp [Parameter.words]), hp _ (by simp [Parameter.words])⟩
  cases ps with
  | nil => exact .literal [] rfl
  | cons p ps =>
    obtain ⟨hp, hps⟩ := List.forall_mem_cons.mp hps
    obtain ⟨hpname, hptype⟩ := htyped hp
    refine unbroken_commas (List.forall_mem_cons.mpr ⟨unbroken_typed hpname ?_, ?_⟩)
    · split
      · exact hname
      · exact hptype
    · exact List.forall_mem_map.mpr
        (fun q hq => unbroken_typed (htyped (hps q hq)).1 (htyped (hps q hq)).2)

theorem unbroken_receiver : Unbroken returns (receiver c) := by
  unfold receiver
  split
  · exact .literal _ rfl
  · exact .append (.append (.literal _ rfl) hname) (.literal _ rfl)

section Event

variable {e : Event} (hwords : ∀ s ∈ e.words, Unbroken returns s)
  (hdoc : Unbroken returns e.doc.line)
include hwords hdoc

theorem unbroken_subscribeTag : Unbroken returns (subscribeTag c e).text := by
  obtain ⟨hevent, harguments⟩ := List.forall_mem_cons.mp hwords
  have hcallback := unbroken_callbackList hname (List.forall_mem_flatMap.mp harguments)
  exact unbroken_tag (.literal _ rfl) (.append (.append (.append (.append (.append (.append (.append
    (.append (.append (.literal _ rfl) (unbroken_receiver hname)) (.literal _ rfl)) hevent)
    (.literal _ rfl)) hcallback) (.literal _ rfl)) hcallback) (.literal _ rfl)) (unbroken_remark hdoc))

theorem unbroken_unsubscribeTag : Unbroken returns (unsubscribeTag c e).text := by
  obtain ⟨hevent, harguments⟩ := List.forall_mem_cons.mp hwords
  have hcallback := unbroken_callbackList hname (List.forall_mem_flatMap.mp harguments)
  exact unbroken_tag (.literal _ rfl) (.append (.append (.append (.append (.append (.append (.append
    (.literal _ rfl) (unbroken_receiver hname)) (.literal _ rfl)) hevent) (.literal _ rfl)) hcallback)
    (.literal _ rfl)) (unbroken_remark hdoc))

end Event

theorem unbroken_subscriptionCode {name : String} (h : Unbroken returns name) :
    Unbroken returns (subscriptionCode c name).text := by
  have hseparator : Unbroken returns (separator c) := by
    unfold separator
    split <;> exact .literal _ rfl
  exact unbroken_code (.append (.append (.append (.append (.literal _ rfl) hname) hseparator) h)
    (.literal _ rfl))

theorem unbroken_subscriptionBlock {events : List Event}
    (hwords : ∀ e ∈ events, ∀ s ∈ e.words, Unbroken returns s)
    (hdocs : ∀ e ∈ events, Unbroken returns e.doc.line) :
    ∀ l ∈ subscriptionBlock c events, Unbroken returns l.text := by
  unfold subscriptionBlock
  split
  · simp
  · simp only [List.cons_append, List.nil_append, List.append_assoc, List.forall_mem_cons,
      List.forall_mem_append, List.forall_mem_map, List.not_mem_nil, false_implies, implies_true,
      and_true]
    refine ⟨unbroken_blank, unbroken_comment ?_, unbroken_tag ?_ ?_, unbroken_tag ?_ ?_,
      unbroken_tag ?_ ?_, fun e he => unbroken_subscribeTag hname (hwords e he) (hdocs e he),
      unbroken_subscriptionCode hname ?_, unbroken_blank, unbroken_comment ?_, unbroken_tag ?_ ?_,
      unbroken_tag ?_ (.append ?_ ?_),
      fun e he => unbroken_unsubscribeTag hname (hwords e he) (hdocs e he),
      unbroken_subscriptionCode hname ?_⟩
    all_goals exact .literal _ rfl

end Class

/-- The lines of a block are unbroken if all texts in it are. -/
theorem unbroken_classLines {c : Class} {events : List Event}
    (hwords : ∀ s ∈ c.words, Unbroken returns s)
    (hdocs : ∀ t ∈ c.descriptions, Unbroken returns t.line)
    (hevents : ∀ e ∈ events, ∀ s ∈ e.words, Unbroken returns s)
    (heventDocs : ∀ e ∈ events, Unbroken returns e.doc.line) :
    ∀ l ∈ classLines c events, Unbroken returns l.text := by
  simp only [Class.words, Class.descriptions, List.cons_append, List.append_assoc,
    List.forall_mem_cons, List.forall_mem_append, List.forall_mem_flatMap, List.forall_mem_map,
    List.not_mem_nil, false_implies, implies_true, and_true] at hwords hdocs
  obtain ⟨hname, hside, hparents, hctor, hstatics, hfunctions, -, hproperties⟩ := hwords
  obtain ⟨hdoc, hstaticDocs, hfunctionDocs, -, hpropertyDocs⟩ := hdocs
  have hfields : ∀ l ∈ fieldTags c, Unbroken returns l.text :=
    List.forall_mem_map.mpr (fun p hp =>
      unbroken_fieldTag (hproperties p hp).1 (hproperties p hp).2 (hpropertyDocs p hp))
  unfold classLines
  simp only [List.cons_append, List.nil_append, List.append_assoc, List.forall_mem_cons,
    List.forall_mem_append]
  exact ⟨unbroken_blank, unbroken_comment (unbroken_badge hside), unbroken_comment (.literal _ rfl),
    unbroken_comment hdoc,
    unbroken_tag (.literal _ rfl) (hname.append (unbroken_parentList hparents)), hfields,
    unbroken_constructorTag hname hctor, unbroken_code (hname.append (.literal _ rfl)),
    unbroken_functionBlocks hname (.literal _ rfl) hstatics hstaticDocs,
    unbroken_functionBlocks hname (.literal _ rfl) hfunctions hfunctionDocs,
    unbroken_subscriptionBlock hname hevents heventDocs, hfields⟩

theorem unbroken_classBlock {d : Docs} {c : Class} {b : Block} (h : classBlock d c = .ok b)
    (hwords : ∀ x ∈ c :: d.classes, ∀ s ∈ x.words, Unbroken returns s)
    (hdocs : ∀ x ∈ c :: d.classes, ∀ t ∈ x.descriptions, Unbroken returns t.line) :
    ∀ l ∈ b, Unbroken returns l.text := by
  obtain ⟨events, hevents, rfl⟩ := map_eq_ok.mp h
  have hown := mem_eventsOf hevents
  refine unbroken_classLines (hwords c List.mem_cons_self) (hdocs c List.mem_cons_self) ?_ ?_
  · intro e he s hs
    obtain ⟨x, hx, hex⟩ := hown e he
    refine hwords x hx s ?_
    simp only [Class.words, List.mem_append, List.mem_flatMap]
    exact .inl (.inr ⟨e, hex, hs⟩)
  · intro e he
    obtain ⟨x, hx, hex⟩ := hown e he
    refine hdocs x hx e.doc ?_
    simp only [Class.descriptions, List.mem_append, List.mem_map]
    exact .inl (.inr ⟨e, hex, rfl⟩)

end Lua

end LuaStubs
