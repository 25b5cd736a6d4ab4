import LuaStubs.Proofs.Lua.Lines
import LuaStubs.Proofs.Lua.Document

/-! The code in the block of a class, line by line, and how many lines there are; neither depends on what
the descriptions say. -/
namespace LuaStubs.Lua

/-! ## Lines of code -/

def isCode (line : String) : Bool := line ≠ "" && !Text.begins "---" line

/-- The functions of a class that are written out. -/
def kept (c : Class) (fs : Option (List Function)) : List Function :=
  (fs.getD []).filter
    (fun f => c.name = "Events" ∨ (f.name ≠ "Subscribe" ∧ f.name ≠ "Unsubscribe"))

def declaration (accessor : String) (f : Function) : String :=
  "function " ++ accessor ++ f.name ++ "(" ++
    ", ".intercalate ((f.parameters.getD []).map Parameter.luaName) ++ ") end"

def subscription (c : Class) (name : String) : String :=
  "function " ++ c.name ++ (if c.isStatic then "." else ":") ++ name ++ "(event_name, callback) end"

/-- The code of a class on which these events can be subscribed to. -/
def skeleton (c : Class) (events : List Event) : List String :=
  (c.name ++ " = \x7b\x7d") :: (kept c c.staticFunctions).map (declaration (c.name ++ ".")) ++
    (kept c c.functions).map (declaration (c.name ++ ":")) ++
    (if events.isEmpty then [] else [subscription c "Subscribe", subscription c "Unsubscribe"])

/-- What lines a function takes: its comments, tags and code. -/
def functionLines (f : Function) : Nat :=
  5 + (f.parameters.getD []).length + (if f.result.isSome then 1 else 0)

def blockLines (c : Class) (events : List Event) : Nat :=
  6 + 2 * (c.properties.getD []).length + (if c.constructor.isSome then 1 else 0) +
    (kept c c.staticFunctions ++ kept c c.functions).foldr (fun f n => functionLines f + n) 0 +
    (if events.isEmpty then 0 else 11 + 2 * events.length)

theorem filter_keeps (c : Class) (fs : Option (List Function)) :
    (fs.getD []).filter (keeps c) = kept c fs := by
  refine List.filter_congr (fun f _ => ?_)
  simp only [keeps, Function.isEventBuiltin, eventsClass]
  by_cases hc : c.name = "Events" <;> by_cases hs : f.name = "Subscribe" <;>
    by_cases hu : f.name = "Unsubscribe" <;> simp [hc, hs, hu]

/-! ## Code among the lines of a block -/

def Line.code? : Line → Option String
  | .code t => some t
  | _ => none

def codes (b : Block) : List String := b.filterMap Line.code?

theorem codes_append (a b : Block) : codes (a ++ b) = codes a ++ codes b := List.filterMap_append

/-- What begins as a comment is no code. -/
theorem isCode_comment (s : String) : isCode ("---" ++ s) = false := by
  have h : Text.begins "---" ("---" ++ s) = true := by
    rw [Text.begins_iff, String.toList_append]
    exact List.prefix_append _ _
  simp [isCode, h]

/-- The code of a block is what counts as code among its lines. -/
theorem filter_isCode {b : Block} (h : ∀ t ∈ codes b, isCode t = true) :
    (b.map Line.text).filter isCode = codes b := by
  induction b with
  | nil => rfl
  | cons l b ih =>
    cases l with
    | blank => exact ih h
    | comment t =>
      have hcode : isCode (Line.comment t).text = false := isCode_comment t
      rw [List.map_cons, List.filter_cons_of_neg (by simp [hcode])]
      exact ih h
    | tag name body =>
      have hcode : isCode (Line.tag name body).text = false :=
        Line.text_tag name body ▸ isCode_comment _
      rw [List.map_cons, List.filter_cons_of_neg (by simp [hcode])]
      exact ih h
    | code t =>
      obtain ⟨ht, hb⟩ := List.forall_mem_cons.mp (show ∀ s ∈ t :: codes b, isCode s = true from h)
      rw [List.map_cons, Line.text, List.filter_cons_of_pos ht, ih hb]
      rfl

/-! ## The block of a class -/

theorem codes_functionBlock (accessor : String) (f : Function) :
    codes (functionBlock accessor f) = [declaration accessor f] := by
  have hps : codes ((f.parameters.getD []).map parameterTag) = [] := by
    simp [codes, parameterTag, Line.code?]
  have hresult : codes (f.result.map returnTag).toList = [] := by
    cases f.result <;> rfl
  rw [functionBlock, codes_append, codes_append, codes_append, hps, hresult]
  rfl

theorem length_functionBlock (accessor : String) (f : Function) :
    (functionBlock accessor f).length = functionLines f := by
  have hresult : (f.result.map returnTag).toList.length = if f.result.isSome then 1 else 0 := by
    cases f.result <;> rfl
  simp only [functionBlock, List.length_append, List.length_cons, List.length_nil, List.length_map,
    hresult, functionLines]
  omega

theorem codes_functionBlocks (c : Class) (accessor : String) (fs : Option (List Function)) :
    codes (functionBlocks c accessor fs) = (kept c fs).map (declaration accessor) := by
  rw [functionBlocks, filter_keeps]
  induction kept c fs with
  | nil => rfl
  | cons f fs ih => rw [List.flatMap_cons, codes_append, codes_functionBlock, ih]; rfl

theorem length_functionBlocks (c : Class) (accessor : String) (fs : Option (List Function)) :
    (functionBlocks c accessor fs).length =
      (kept c fs).foldr (fun f n => functionLines f + n) 0 := by
  rw [functionBlocks, filter_keeps]
  induction kept c fs with
  | nil => rfl
  | cons f fs ih =>
    rw [List.flatMap_cons, List.length_append, length_functionBlock, ih, List.foldr_cons]

theorem codes_fieldTags (c : Class) : codes (fieldTags c) = [] := by
  simp [codes, fieldTags, fieldTag, Line.code?]

theorem codes_constructorTag (c : Class) : codes (constructorTag c) = [] := by
  unfold constructorTag
  split <;> rfl

theorem codes_subscriptionBlock (c : Class) (events : List Event) :
    codes (subscriptionBlock c events) =
      if events.isEmpty then [] else [subscription c "Subscribe", subscription c "Unsubscribe"] := by
  have hon : codes (events.map (subscribeTag c)) = [] := by
    simp [codes, subscribeTag, Line.code?]
  have hoff : codes (events.map (unsubscribeTag c)) = [] := by
    simp [codes, unsubscribeTag, Line.code?]
  unfold subscriptionBlock
  split
  · rfl
  · simp only [codes_append, hon, hoff]
    rfl

theorem length_subscriptionBlock (c : Class) (events : List Event) :
    (subscriptionBlock c events).length =
      if events.isEmpty then 0 else 11 + 2 * events.length := by
  unfold subscriptionBlock
  split
  · rfl
  · simp only [List.length_append, List.length_cons, List.length_nil, List.length_map]
    omega

theorem codes_classLines (c : Class) (events : List Event) :
    codes (classLines c events) = skeleton c events := by
  simp only [classLines, codes_append, codes_fieldTags, codes_constructorTag, codes_functionBlocks,
    codes_subscriptionBlock]
  simp [codes, Line.code?, skeleton]

theorem length_classLines (c : Class) (events : List Event) :
    (classLines c events).length = blockLines c events := by
  have hctor : (constructorTag c).length = if c.constructor.isSome then 1 else 0 := by
    unfold constructorTag
    split
    · next h => rw [h]; rfl
    · next h => rw [h]; rfl
  have hfold (fs gs : List Function) :
      (fs ++ gs).foldr (fun f n => functionLines f + n) 0 =
        fs.foldr (fun f n => functionLines f + n) 0 + gs.foldr (fun f n => functionLines f + n) 0 := by
    induction fs with
    | nil => simp
    | cons f fs ih => rw [List.cons_append, List.foldr_cons, List.foldr_cons, ih]; omega
  simp only [classLines, List.length_append, List.length_cons, List.length_nil, hctor,
    length_functionBlocks, length_subscriptionBlock, fieldTags, List.length_map, blockLines, hfold]
  omega

/-! ## What the skeleton is -/

theorem isCode_of_head {line : String} {c : Char} {cs : List Char} (h : line.toList = c :: cs)
    (hc : c ≠ '-') : isCode line = true := by
  have hne : line ≠ "" := by
    rintro rfl
    cases h
  have hbegins : Text.begins "---" line = false := by
    rw [Text.begins, h]
    simp [List.isPrefixOf, hc.symm]
  simp [isCode, hne, hbegins]

theorem isCode_function (s : String) : isCode ("function " ++ s) = true :=
  isCode_of_head (c := 'f') (by rw [String.toList_append]; rfl) (by decide)

/-- A name with a table behind it begins as a comment only if the name does. -/
theorem isCode_table {name : String} (h : Text.begins "---" name = false) :
    isCode (name ++ " = \x7b\x7d") = true := by
  have hne : name ++ " = \x7b\x7d" ≠ "" := by simp
  have hbegins : Text.begins "---" (name ++ " = \x7b\x7d") = false := by
    rw [Text.begins] at h
    rw [Text.begins, String.toList_append]
    -- a name of less than three characters is followed by a blank
    rcases hchars : name.toList with _ | ⟨a, _ | ⟨b, _ | ⟨c, rest⟩⟩⟩
    · rfl
    · simp [List.isPrefixOf]
    · simp [List.isPrefixOf]
    · rw [hchars] at h
      simpa [List.isPrefixOf] using h
  simp [isCode, hne, hbegins]

theorem isCode_of_mem_skeleton {c : Class} (hname : Text.begins "---" c.name = false)
    (events : List Event) : ∀ t ∈ skeleton c events, isCode t = true := by
  have hdeclaration (accessor : String) (f : Function) :
      isCode (declaration accessor f) = true := by
    simp only [declaration, String.append_assoc]
    exact isCode_function _
  have hsubscription (name : String) : isCode (subscription c name) = true := by
    simp only [subscription, String.append_assoc]
    exact isCode_function _
  simp only [skeleton, List.cons_append, List.forall_mem_cons, List.forall_mem_append,
    List.forall_mem_map]
  refine ⟨isCode_table hname, ⟨fun f _ => hdeclaration _ f, fun f _ => hdeclaration _ f⟩, ?_⟩
  split
  · simp
  · simp [hsubscription]

/-- The code of a class whose parents are there is its skeleton, and its block has as many line feeds as
lines, whatever the descriptions say. -/
theorem classText_skeleton (d : Docs) (c : Class) (hparents : d.Resolves c.parents)
    (hwords : ∀ x ∈ c :: d.classes, ∀ s ∈ x.words, '\n' ∉ s.toList)
    (hname : Text.begins "---" c.name = false) :
    ∃ events text, d.eventsOf c = .ok events ∧ classText d c = .ok text ∧
      (lines false text).filter isCode = skeleton c events ∧
      text.toList.count '\n' = blockLines c events := by
  obtain ⟨events, hevents⟩ := Docs.exists_eventsOf_iff.mpr hparents
  have hblock : classBlock d c = .ok (classLines c events) := map_eq_ok.mpr ⟨events, hevents, rfl⟩
  have htext : classText d c = .ok (Block.text (classLines c events)) :=
    map_eq_ok.mpr ⟨_, hblock, rfl⟩
  have hunbroken : ∀ l ∈ classLines c events, Unbroken false l.text := by
    refine unbroken_classBlock hblock (fun x hx s hs ch hch => ?_)
      (fun x hx t ht => unbroken_line (by simp))
    have hne : ch ≠ '\n' := fun heq => hwords x hx s hs (heq ▸ hch)
    simp [endsLine, hne]
  refine ⟨events, _, hevents, htext, ?_, ?_⟩
  · have hempty : Unbroken false "" := .literal [] rfl
    have hlines := lines_append_unbroken "" hunbroken
    rw [String.empty_append, lines_of_unbroken hempty, List.singleton_append] at hlines
    rw [hlines, List.filter_cons_of_neg (by decide), filter_isCode, codes_classLines]
    rw [codes_classLines]
    exact isCode_of_mem_skeleton hname events
  · rw [count_lines hunbroken, length_classLines]

/-- A child of the sample's class with two functions, one of which is not written out. -/
def sampleChild : Class :=
  ⟨"Child", .client, some ["Parent"], some [], none,
    some [⟨"Play", .both, some [⟨"args...", "any", none, ⟨none, none⟩⟩], none, ⟨some "a\n\nb", none⟩⟩,
      ⟨"Subscribe", .both, none, none, ⟨none, none⟩⟩],
    none, none, false, ⟨some "new\n---", none⟩⟩

theorem classText_skeleton_sample :
    (sampleDocs.Resolves sampleChild.parents ∧
      (∀ x ∈ sampleChild :: sampleDocs.classes, ∀ s ∈ x.words, '\n' ∉ s.toList) ∧
      Text.begins "---" sampleChild.name = false) ∧
    ∃ text, classText sampleDocs sampleChild = .ok text ∧
      (lines false text).filter isCode = ["Child = \x7b\x7d", "function Child:Play(...) end",
        "function Child:Subscribe(event_name, callback) end",
        "function Child:Unsubscribe(event_name, callback) end"] ∧
      text.toList.count '\n' = 26 := by
  have hparents : sampleDocs.Resolves sampleChild.parents := by decide
  have hwords : ∀ x ∈ sampleChild :: sampleDocs.classes, ∀ s ∈ x.words, '\n' ∉ s.toList := by decide
  have hname : Text.begins "---" sampleChild.name = false := by decide
  have hsample : sampleDocs.eventsOf sampleChild = .ok [⟨"Join", [], ⟨none, none⟩⟩] := rfl
  obtain ⟨events, text, hevents, htext, hcode, hcount⟩ :=
    classText_skeleton sampleDocs sampleChild hparents hwords hname
  rw [hsample] at hevents
  cases hevents
  exact ⟨⟨hparents, hwords, hname⟩, text, htext, by rw [hcode]; decide, by rw [hcount]; decide⟩

end LuaStubs.Lua
