import LuaStubs.Proofs.Lua.Skeleton

/-! The block of a class as one text in which the names of parameters are left open: a text can then be
told for any way in which they are written, and the one in which they are printed is one of these. -/
namespace LuaStubs.Lua

/-- How the names of parameters are written: in functions, in a constructor and in callbacks. -/
structure Naming where
  function : Parameter → String
  constructor : Parameter → String
  callback : Parameter → String

namespace Naming

/-! ## Texts with names left open -/

section Texts

variable (n : Naming)

def parameterText (p : Parameter) : String :=
  "\n---@param " ++ n.function p ++ (if p.default = some "nil" then "?" else "") ++ " " ++ p.type ++
    " " ++ parameterRemark p

/-- A function; `accessor` is the class name with `.` or `:`. -/
def functionText (accessor : String) (f : Function) : String :=
  "\n\n---" ++ badge f.authority ++ "\n---\n---" ++ f.doc.line ++
    String.join ((f.parameters.getD []).map n.parameterText) ++
    Block.text (f.result.map returnTag).toList ++ "\nfunction " ++ accessor ++ f.name ++ "(" ++
    commas ((f.parameters.getD []).map n.function) ++ ") end"

def constructorText (c : Class) : String :=
  match c.constructor with
  | none => ""
  | some ps =>
    "\n---@overload fun(" ++ commas (ps.map (fun p => n.constructor p ++ ": " ++ p.type)) ++ "): " ++
      c.name

/-- Where it comes first, `self` is of the class on which the event is subscribed to. -/
def argumentType (owner : String) (i : Nat) (p : Parameter) : String :=
  if i = 0 ∧ p.name = "self" then owner else p.type

def callbackText (owner : String) (e : Event) : String :=
  commas (e.arguments.mapIdx (fun i p => n.callback p ++ ": " ++ argumentType owner i p))

def subscribeText (c : Class) (e : Event) : String :=
  "\n---@overload fun(" ++ receiver c ++ "event_name: \"" ++ e.name ++ "\", callback: fun(" ++
    n.callbackText c.name e ++ ")): fun(" ++ n.callbackText c.name e ++ ") " ++ remark e.doc

def unsubscribeText (c : Class) (e : Event) : String :=
  "\n---@overload fun(" ++ receiver c ++ "event_name: \"" ++ e.name ++ "\", callback: fun(" ++
    n.callbackText c.name e ++ ")) " ++ remark e.doc

def subscriptionText (c : Class) (events : List Event) : String :=
  if events.isEmpty then ""
  else
    ("\n\n---Subscribe to an event" ++
      "\n---@param event_name string @Name of the event to subscribe to" ++
      "\n---@param callback function @Function to call when the event is triggered" ++
      "\n---@return function @The callback function passed") ++
      String.join (events.map (n.subscribeText c)) ++ "\nfunction " ++ c.name ++ separator c ++
      "Subscribe(event_name, callback) end" ++
    ("\n\n---Unsubscribe from an event" ++
      "\n---@param event_name string @Name of the event to unsubscribe from" ++
      "\n---@param callback? function @Optional callback to unsubscribe (if no callback is " ++
      "passed then all callbacks in this Package will be unsubscribed from this event)") ++
      String.join (events.map (n.unsubscribeText c)) ++ "\nfunction " ++ c.name ++ separator c ++
      "Unsubscribe(event_name, callback) end"

/-- The block of a class on which these events can be subscribed to. -/
def blockText (c : Class) (events : List Event) : String :=
  "\n\n---" ++ badge c.authority ++ "\n---\n---" ++ c.doc.line ++ "\n---@class " ++ c.name ++
    parentList c ++ Block.text (fieldTags c) ++ n.constructorText c ++ "\n" ++ c.name ++
    " = \x7b\x7d" ++ String.join ((kept c c.staticFunctions).map (n.functionText (c.name ++ "."))) ++
    String.join ((kept c c.functions).map (n.functionText (c.name ++ ":"))) ++
    n.subscriptionText c events ++ Block.text (fieldTags c)

end Texts

/-! ## The names that are printed -/

/-- The name of a parameter in code: whatever ends in `...` is `...`. -/
def written (p : Parameter) : String := if "...".toList <:+ p.name.toList then "..." else p.name

/-- Only functions have the names of their parameters written as in code. -/
def printed : Naming := ⟨written, Parameter.name, Parameter.name⟩

theorem luaName_eq (p : Parameter) : p.luaName = written p := by
  rw [Parameter.luaName, written]
  simp only [Text.ends_iff]
  rfl

theorem text_map {α : Type} {f : α → Line} {g : α → String} (h : ∀ x, "\n" ++ (f x).text = g x)
    (xs : List α) : Block.text (xs.map f) = String.join (xs.map g) := by
  rw [Block.text, List.map_map]
  exact congrArg String.join (List.map_congr_left (fun x _ => h x))

theorem text_flatMap {α : Type} {f : α → Block} {g : α → String} (h : ∀ x, Block.text (f x) = g x)
    (xs : List α) : Block.text (xs.flatMap f) = String.join (xs.map g) := by
  rw [List.flatMap_def, text_flatten, List.map_map]
  exact congrArg String.join (List.map_congr_left (fun x _ => h x))

theorem text_cons (l : Line) (b : Block) : Block.text (l :: b) = "\n" ++ l.text ++ Block.text b := by
  rw [Block.text, List.map_cons, String.join_cons]
  rfl

theorem text_parameterTags (ps : List Parameter) :
    Block.text (ps.map parameterTag) = String.join (ps.map printed.parameterText) := by
  refine text_map (fun p => ?_) ps
  have hmark : (if p.isOptional then "?" else "") = if p.default = some "nil" then "?" else "" := by
    show (if decide (p.default = some "nil") = true then "?" else "") = _
    simp only [decide_eq_true_eq]
  unfold parameterText
  simp only [parameterTag, Line.text, printed, luaName_eq, hmark, ← String.append_assoc,
    String.reduceAppend]

theorem text_functionBlock (accessor : String) (f : Function) :
    Block.text (functionBlock accessor f) = printed.functionText accessor f := by
  have hnames : (f.parameters.getD []).map Parameter.luaName =
      (f.parameters.getD []).map printed.function :=
    List.map_congr_left (fun p _ => luaName_eq p)
  unfold functionBlock functionText
  simp only [text_append, text_cons, text_parameterTags, Block.text_nil, Line.text, hnames,
    ← String.append_assoc, String.reduceAppend, String.append_empty]

theorem text_functionBlocks (c : Class) (accessor : String) (fs : Option (List Function)) :
    Block.text (functionBlocks c accessor fs) =
      String.join ((kept c fs).map (printed.functionText accessor)) := by
  rw [functionBlocks, filter_keeps]
  exact text_flatMap (text_functionBlock accessor) (kept c fs)

theorem text_constructorTag (c : Class) :
    Block.text (constructorTag c) = printed.constructorText c := by
  unfold constructorTag constructorText
  cases c.constructor with
  | none => rfl
  | some ps =>
    simp only [text_cons, Block.text_nil, Line.text, constructorList, typed, printed,
      ← String.append_assoc, String.reduceAppend, String.append_empty]

theorem callbackList_eq (owner : String) (e : Event) :
    callbackList owner e.arguments = printed.callbackText owner e := by
  unfold callbackText
  cases e.arguments with
  | nil => rfl
  | cons p ps =>
    have hrest : ps.mapIdx (fun i q => q.name ++ ": " ++ argumentType owner (i + 1) q) =
        ps.map (fun q => typed q.name q.type) := by
      simp [List.mapIdx_eq_iff, argumentType, typed]
    rw [callbackList, List.mapIdx_cons]
    simp only [printed, hrest]
    simp [argumentType, typed]

theorem text_subscribeTags (c : Class) (events : List Event) :
    Block.text (events.map (subscribeTag c)) = String.join (events.map (printed.subscribeText c)) := by
  refine text_map (fun e => ?_) events
  unfold subscribeText
  simp only [subscribeTag, Line.text, callbackList_eq, ← String.append_assoc, String.reduceAppend]

theorem text_unsubscribeTags (c : Class) (events : List Event) :
    Block.text (events.map (unsubscribeTag c)) =
      String.join (events.map (printed.unsubscribeText c)) := by
  refine text_map (fun e => ?_) events
  unfold unsubscribeText
  simp only [unsubscribeTag, Line.text, callbackList_eq, ← String.append_assoc, String.reduceAppend]

theorem text_subscriptionBlock (c : Class) (events : List Event) :
    Block.text (subscriptionBlock c events) = printed.subscriptionText c events := by
  have hon : subscriptionCode c "Subscribe" =
      .code ("function " ++ c.name ++ separator c ++ "Subscribe(event_name, callback) end") := by
    simp only [subscriptionCode, String.append_assoc, String.reduceAppend]
  have hoff : subscriptionCode c "Unsubscribe" =
      .code ("function " ++ c.name ++ separator c ++ "Unsubscribe(event_name, callback) end") := by
    simp only [subscriptionCode, String.append_assoc, String.reduceAppend]
  unfold subscriptionBlock subscriptionText
  split
  · rfl
  · simp only [text_append, text_cons, text_subscribeTags, text_unsubscribeTags, Block.text_nil,
      hon, hoff, Line.text, ← String.append_assoc, String.reduceAppend, String.append_empty]

theorem text_classLines (c : Class) (events : List Event) :
    Block.text (classLines c events) = printed.blockText c events := by
  unfold classLines blockText
  simp only [text_append, text_cons, text_functionBlocks, text_constructorTag,
    text_subscriptionBlock, Block.text_nil, Line.text, ← String.append_assoc,
    String.reduceAppend, String.append_empty]

/-- The block of a class is the text with the names that are printed. -/
theorem classText_eq (d : Docs) (c : Class) :
    classText d c = (d.eventsOf c).map (printed.blockText c) := by
  rw [classText, classBlock]
  cases d.eventsOf c with
  | error e => rfl
  | ok events => exact congrArg Except.ok (text_classLines c events)

end Naming

end LuaStubs.Lua
