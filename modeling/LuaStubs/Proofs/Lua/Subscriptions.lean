import LuaStubs.Proofs.Lua.Naming

/-! The two functions that subscribe to the events of a class: each has one overload for each event, in
the order of the events, and the two overloads for an event differ in the result alone. -/
namespace LuaStubs.Lua

/-! ## Comments above a line of code -/

/-- The comments that stand directly above a line of code. -/
def commentsAbove (code : String) (ls : List String) : List String :=
  ((ls.takeWhile (· ≠ code)).reverse.takeWhile (Text.begins "---")).reverse

def isOverload (line : String) : Bool := Text.begins "---@overload " line

/-- The overloads of the function that a line of code declares. -/
def overloadsOf (code : String) (ls : List String) : List String :=
  (commentsAbove code ls).filter isOverload

theorem begins_self_append (head s : String) : Text.begins head (head ++ s) = true := by
  rw [Text.begins_iff, String.toList_append]
  exact List.prefix_append _ _

theorem commentsAbove_eq {front comments behind : List String} {gap code : String}
    (hcode : ∀ l ∈ front ++ gap :: comments, l ≠ code) (hgap : Text.begins "---" gap = false)
    (hcomments : ∀ l ∈ comments, Text.begins "---" l = true) :
    commentsAbove code (front ++ gap :: comments ++ code :: behind) = comments := by
  have hbefore : (front ++ gap :: comments ++ code :: behind).takeWhile (· ≠ code) =
      front ++ gap :: comments := by
    rw [List.takeWhile_append_of_pos (fun l hl => by simpa using hcode l hl),
      List.takeWhile_cons_of_neg (by simp), List.append_nil]
  have hrun : (comments.reverse ++ gap :: front.reverse).takeWhile (Text.begins "---") =
      comments.reverse := by
    rw [List.takeWhile_append_of_pos (fun l hl => hcomments l (List.mem_reverse.mp hl)),
      List.takeWhile_cons_of_neg (by simp [hgap]), List.append_nil]
  rw [commentsAbove, hbefore, List.reverse_append, List.reverse_cons, List.append_assoc,
    List.singleton_append, hrun, List.reverse_reverse]

theorem begins_of_tag (name body : String) : Text.begins "---" (Line.tag name body).text = true :=
  Line.text_tag name body ▸ begins_self_append "---" _

theorem ne_of_begins {l code : String} (hcode : isCode code = true) (hl : Text.begins "---" l = true) :
    l ≠ code := by
  rintro rfl
  simp [isCode, hl] at hcode

theorem empty_ne {code : String} (hcode : isCode code = true) : "" ≠ code := by
  rintro rfl
  cases hcode

/-- A tag whose beginning is neither longer nor shorter than that of an overload is none. -/
theorem isOverload_tag {name : String} (body : String)
    (hlong : ¬ "---@overload ".toList <+: ("---@" ++ name ++ " ").toList)
    (hshort : ¬ ("---@" ++ name ++ " ").toList <+: "---@overload ".toList) :
    isOverload (Line.tag name body).text = false := by
  refine Bool.eq_false_iff.mpr (fun hoverload => ?_)
  have htag := Text.begins_iff.mp (begins_self_append ("---@" ++ name ++ " ") body)
  rcases List.prefix_or_prefix_of_prefix (Text.begins_iff.mp hoverload) htag with h | h
  · exact hlong h
  · exact hshort h

theorem isOverload_comment {ch : Char} (chs : List Char) (hch : ch ≠ '@') :
    isOverload (Line.comment (String.ofList (ch :: chs))).text = false := by
  have htext : (Line.comment (String.ofList (ch :: chs))).text.toList =
      '-' :: '-' :: '-' :: ch :: chs := by
    simp [Line.text]
  rw [isOverload, Text.begins, htext]
  simp [List.isPrefixOf, hch.symm]

/-- Overloads behind comments that are none. -/
theorem filter_isOverload {α : Type} {fixed : List String} (hfixed : ∀ l ∈ fixed, isOverload l = false)
    (body : α → String) (xs : List α) :
    (fixed ++ xs.map (fun x => (Line.tag "overload" (body x)).text)).filter isOverload =
      xs.map (fun x => (Line.tag "overload" (body x)).text) := by
  have hnone : fixed.filter isOverload = [] :=
    List.filter_eq_nil_iff.mpr (fun l hl => by simp [hfixed l hl])
  have hall : (xs.map (fun x => (Line.tag "overload" (body x)).text)).filter isOverload =
      xs.map (fun x => (Line.tag "overload" (body x)).text) := by
    refine List.filter_eq_self.mpr (List.forall_mem_map.mpr (fun x _ => ?_))
    exact begins_self_append "---@overload " (body x)
  rw [List.filter_append, hnone, hall, List.nil_append]

/-! ## What is written -/

/-- The arguments of a callback, in order; where it comes first, `self` is of the class. -/
def signature (c : Class) (e : Event) : String :=
  ", ".intercalate (e.arguments.mapIdx (fun i p =>
    p.name ++ ": " ++ (if i = 0 ∧ p.name = "self" then c.name else p.type)))

/-- An overload for an event up to its result; instances pass themselves. -/
def overload (c : Class) (e : Event) : String :=
  "---@overload fun(" ++ (if c.isStatic then "" else "self: " ++ c.name ++ ", ") ++
    "event_name: \"" ++ e.name ++ "\", callback: fun(" ++ signature c e ++ "))"

theorem callbackList_eq_signature (c : Class) (e : Event) :
    callbackList c.name e.arguments = signature c e := Naming.callbackList_eq c.name e

theorem append_pieces (s : String) :
    s ++ "))" ++ ": fun(" = s ++ ")): fun(" ∧ s ++ ")" ++ " " = s ++ ") " ∧
      s ++ "))" ++ " " = s ++ ")) " := by
  refine ⟨?_, ?_, ?_⟩ <;> rw [String.append_assoc] <;> rfl

theorem text_subscribeTag (c : Class) (e : Event) :
    (subscribeTag c e).text =
      overload c e ++ ": fun(" ++ signature c e ++ ")" ++ " " ++ remark e.doc := by
  unfold overload
  simp only [subscribeTag, Line.text, callbackList_eq_signature, receiver, ← String.append_assoc,
    String.reduceAppend, append_pieces]

theorem text_unsubscribeTag (c : Class) (e : Event) :
    (unsubscribeTag c e).text = overload c e ++ " " ++ remark e.doc := by
  unfold overload
  simp only [unsubscribeTag, Line.text, callbackList_eq_signature, receiver, ← String.append_assoc,
    String.reduceAppend, append_pieces]

theorem isCode_subscription (c : Class) (name : String) : isCode (subscription c name) = true := by
  simp only [subscription, String.append_assoc]
  exact isCode_function _

theorem subscription_ne (c : Class) : subscription c "Subscribe" ≠ subscription c "Unsubscribe" := by
  intro heq
  simp [subscription] at heq

/-! ## The lines of the block -/

/-- The comments above `Subscribe` and above `Unsubscribe` but for the overloads. -/
def subscribeRemarks : Block :=
  [.comment "Subscribe to an event",
    .tag "param" "event_name string @Name of the event to subscribe to",
    .tag "param" "callback function @Function to call when the event is triggered",
    .tag "return" "function @The callback function passed"]

def unsubscribeRemarks : Block :=
  [.comment "Unsubscribe from an event",
    .tag "param" "event_name string @Name of the event to unsubscribe from",
    .tag "param" ("callback? function @Optional callback to unsubscribe (if no callback is " ++
      "passed then all callbacks in this Package will be unsubscribed from this event)")]

def subscribeComments (c : Class) (events : List Event) : List String :=
  subscribeRemarks.map Line.text ++ events.map (fun e => (subscribeTag c e).text)

def unsubscribeComments (c : Class) (events : List Event) : List String :=
  unsubscribeRemarks.map Line.text ++ events.map (fun e => (unsubscribeTag c e).text)

theorem lines_text {b : Block} (hb : ∀ l ∈ b, Unbroken false l.text) :
    lines false (Block.text b) = "" :: b.map Line.text := by
  have hempty : Unbroken false "" := .literal [] rfl
  have hlines := lines_append_unbroken "" hb
  rwa [String.empty_append, lines_of_unbroken hempty, List.singleton_append] at hlines

variable {c : Class} {events : List Event}

theorem lines_subscriptionBlock (hne : events ≠ [])
    (hb : ∀ l ∈ subscriptionBlock c events, Unbroken false l.text) :
    lines false (Block.text (subscriptionBlock c events)) =
      [""] ++ "" :: subscribeComments c events ++ subscription c "Subscribe" ::
        ("" :: unsubscribeComments c events ++ [subscription c "Unsubscribe"]) := by
  have hempty : ¬ events.isEmpty = true := by simpa using hne
  have hblock : subscriptionBlock c events =
      .blank :: subscribeRemarks ++ events.map (subscribeTag c) ++
        subscriptionCode c "Subscribe" :: .blank :: unsubscribeRemarks ++
          events.map (unsubscribeTag c) ++ [subscriptionCode c "Unsubscribe"] := by
    rw [subscriptionBlock, if_neg hempty]
    simp only [List.append_assoc, List.cons_append, List.nil_append, subscribeRemarks,
      unsubscribeRemarks]
  have hcode (name : String) : (subscriptionCode c name).text = subscription c name := rfl
  have hblank : Line.blank.text = "" := rfl
  rw [lines_text hb, hblock]
  simp only [subscribeComments, unsubscribeComments, List.map_append, List.map_cons, List.map_nil,
    List.map_map, Function.comp_def, hcode, hblank, List.cons_append, List.nil_append,
    List.append_assoc]

theorem begins_of_mem_comments :
    (∀ l ∈ subscribeComments c events, Text.begins "---" l = true) ∧
      ∀ l ∈ unsubscribeComments c events, Text.begins "---" l = true := by
  have hcomment (s : String) : Text.begins "---" (Line.comment s).text = true :=
    begins_self_append "---" s
  simp only [subscribeComments, unsubscribeComments, subscribeRemarks, unsubscribeRemarks,
    List.map_cons, List.map_nil, List.forall_mem_append, List.forall_mem_cons, List.forall_mem_map,
    List.not_mem_nil, false_implies, implies_true, and_true]
  exact ⟨⟨⟨hcomment _, begins_of_tag _ _, begins_of_tag _ _, begins_of_tag _ _⟩,
    fun _ _ => begins_of_tag _ _⟩, ⟨hcomment _, begins_of_tag _ _, begins_of_tag _ _⟩,
    fun _ _ => begins_of_tag _ _⟩

theorem filter_comments :
    (subscribeComments c events).filter isOverload = events.map (fun e => (subscribeTag c e).text) ∧
      (unsubscribeComments c events).filter isOverload =
        events.map (fun e => (unsubscribeTag c e).text) := by
  have hcomments : isOverload (Line.comment "Subscribe to an event").text = false ∧
      isOverload (Line.comment "Unsubscribe from an event").text = false :=
    ⟨isOverload_comment _ (by decide), isOverload_comment _ (by decide)⟩
  have hparam (body : String) : isOverload (Line.tag "param" body).text = false :=
    isOverload_tag body (by decide) (by decide)
  have hreturn (body : String) : isOverload (Line.tag "return" body).text = false :=
    isOverload_tag body (by decide) (by decide)
  have hremarks : (∀ l ∈ subscribeRemarks.map Line.text, isOverload l = false) ∧
      ∀ l ∈ unsubscribeRemarks.map Line.text, isOverload l = false := by
    simp only [subscribeRemarks, unsubscribeRemarks, List.map_cons, List.map_nil,
      List.forall_mem_cons, List.not_mem_nil, false_implies, implies_true, and_true]
    exact ⟨⟨hcomments.1, hparam _, hparam _, hreturn _⟩, hcomments.2, hparam _, hparam _⟩
  exact ⟨filter_isOverload hremarks.1 _ events, filter_isOverload hremarks.2 _ events⟩

theorem overloadsOf_subscribe (hne : events ≠ [])
    (hb : ∀ l ∈ subscriptionBlock c events, Unbroken false l.text) :
    overloadsOf (subscription c "Subscribe") (lines false (Block.text (subscriptionBlock c events))) =
      events.map (fun e => (subscribeTag c e).text) := by
  have hcode := isCode_subscription c "Subscribe"
  have hbefore : ∀ l ∈ [""] ++ "" :: subscribeComments c events, l ≠ subscription c "Subscribe" := by
    simp only [List.forall_mem_append, List.forall_mem_cons, List.not_mem_nil, false_implies,
      implies_true, and_true]
    exact ⟨empty_ne hcode, empty_ne hcode,
      fun l hl => ne_of_begins hcode (begins_of_mem_comments.1 l hl)⟩
  rw [overloadsOf, lines_subscriptionBlock hne hb,
    commentsAbove_eq hbefore (by decide) begins_of_mem_comments.1, filter_comments.1]

theorem overloadsOf_unsubscribe (hne : events ≠ [])
    (hb : ∀ l ∈ subscriptionBlock c events, Unbroken false l.text) :
    overloadsOf (subscription c "Unsubscribe")
        (lines false (Block.text (subscriptionBlock c events))) =
      events.map (fun e => (unsubscribeTag c e).text) := by
  have hlines : lines false (Block.text (subscriptionBlock c events)) =
      ("" :: "" :: subscribeComments c events ++ [subscription c "Subscribe"]) ++
        "" :: unsubscribeComments c events ++ subscription c "Unsubscribe" :: [] := by
    rw [lines_subscriptionBlock hne hb]
    simp
  have hcode := isCode_subscription c "Unsubscribe"
  have hbefore : ∀ l ∈ ("" :: "" :: subscribeComments c events ++ [subscription c "Subscribe"]) ++
      "" :: unsubscribeComments c events, l ≠ subscription c "Unsubscribe" := by
    simp only [List.forall_mem_append, List.forall_mem_cons, List.not_mem_nil, false_implies,
      implies_true, and_true]
    exact ⟨⟨⟨empty_ne hcode, empty_ne hcode,
        fun l hl => ne_of_begins hcode (begins_of_mem_comments.1 l hl)⟩, subscription_ne c⟩,
      empty_ne hcode, fun l hl => ne_of_begins hcode (begins_of_mem_comments.2 l hl)⟩
  rw [overloadsOf, hlines, commentsAbove_eq hbefore (by decide) begins_of_mem_comments.2,
    filter_comments.2]

theorem isOverload_subscription (c : Class) (name : String) :
    isOverload (subscription c name) = false := by
  have hcs : ∃ cs, (subscription c name).toList = 'f' :: cs := by
    simp only [subscription, String.append_assoc, String.toList_append]
    exact ⟨_, rfl⟩
  obtain ⟨cs, hcs⟩ := hcs
  rw [isOverload, Text.begins, hcs]
  rfl

/-- No line of the block is an overload of anything else. -/
theorem filter_isOverload_lines (hne : events ≠ [])
    (hb : ∀ l ∈ subscriptionBlock c events, Unbroken false l.text) :
    (lines false (Block.text (subscriptionBlock c events))).filter isOverload =
      events.map (fun e => (subscribeTag c e).text) ++
        events.map (fun e => (unsubscribeTag c e).text) := by
  have hempty : isOverload "" = false := by decide
  rw [lines_subscriptionBlock hne hb]
  simp [hempty, isOverload_subscription, filter_comments]

/-! ## The whole block -/

theorem text_eq_empty {b : Block} : Block.text b = "" ↔ b = [] := by
  cases b with
  | nil => exact ⟨fun _ => rfl, fun _ => rfl⟩
  | cons l b =>
    refine ⟨fun htext => ?_, fun hnil => nomatch hnil⟩
    have hlist := congrArg String.toList htext
    rw [Block.toList_text_cons, List.cons_append] at hlist
    exact nomatch hlist

theorem text_subscriptionBlock_eq_empty :
    Block.text (subscriptionBlock c events) = "" ↔ events = [] := by
  rw [text_eq_empty]
  cases events with
  | nil => exact ⟨fun _ => rfl, fun _ => rfl⟩
  | cons e events => exact ⟨(fun hblock => nomatch hblock), (fun hnil => nomatch hnil)⟩

/-- Each event has one overload of both functions, with the same receiver, name, callback and remark;
that of `Subscribe` gives the callback back. -/
theorem subscriptions_in_step (d : Docs) (c : Class) (hparents : d.Resolves c.parents)
    (hname : '\n' ∉ c.name.toList)
    (hwords : ∀ events, d.eventsOf c = .ok events → ∀ e ∈ events, ∀ s ∈ e.words, '\n' ∉ s.toList) :
    ∃ events before block behind, d.eventsOf c = .ok events ∧
      classText d c = .ok (before ++ block ++ behind) ∧
      block = Block.text (subscriptionBlock c events) ∧ (block = "" ↔ events = []) ∧
      (events ≠ [] →
        (lines false block).filter isCode =
          [subscription c "Subscribe", subscription c "Unsubscribe"] ∧
        overloadsOf (subscription c "Subscribe") (lines false block) =
          events.map (fun e =>
            overload c e ++ ": fun(" ++ signature c e ++ ")" ++ " " ++ remark e.doc) ∧
        overloadsOf (subscription c "Unsubscribe") (lines false block) =
          events.map (fun e => overload c e ++ " " ++ remark e.doc) ∧
        ((lines false block).filter isOverload).length = 2 * events.length) := by
  obtain ⟨events, hevents⟩ := Docs.exists_eventsOf_iff.mpr hparents
  have hb : ∀ l ∈ subscriptionBlock c events, Unbroken false l.text :=
    unbroken_subscriptionBlock (.of_no_feed hname)
      (fun e he s hs => .of_no_feed (hwords events hevents e he s hs))
      (fun e _ => unbroken_line (by simp))
  have htext : classText d c = .ok (Block.text (classLines c events)) := by
    rw [classText, classBlock, hevents]
    rfl
  obtain ⟨before, behind, hsplit⟩ : ∃ before behind, Block.text (classLines c events) =
      before ++ Block.text (subscriptionBlock c events) ++ behind :=
    ⟨_, _, by rw [classLines, text_append, text_append]⟩
  refine ⟨events, before, _, behind, hevents, hsplit ▸ htext, rfl, text_subscriptionBlock_eq_empty,
    fun hne => ?_⟩
  refine ⟨?_, ?_, ?_, ?_⟩
  · have hcodes : codes (subscriptionBlock c events) =
        [subscription c "Subscribe", subscription c "Unsubscribe"] := by
      rw [codes_subscriptionBlock, if_neg (by simpa using hne)]
    rw [lines_text hb, List.filter_cons_of_neg (by decide), filter_isCode, hcodes]
    rw [hcodes]
    simp [isCode_subscription]
  · rw [overloadsOf_subscribe hne hb]
    exact List.map_congr_left (fun e _ => text_subscribeTag c e)
  · rw [overloadsOf_unsubscribe hne hb]
    exact List.map_congr_left (fun e _ => text_unsubscribeTag c e)
  · rw [filter_isOverload_lines hne hb, List.length_append, List.length_map, List.length_map]
    omega

/-- An event that a door inherits; it is called with the door itself. -/
def turning : Event :=
  ⟨"Turn", [⟨"self", "Lock", none, ⟨none, none⟩⟩, ⟨"angle", "number", none, ⟨none, none⟩⟩],
    ⟨some "Half a turn", none⟩⟩

def opening : Event :=
  ⟨"Open", [⟨"by", "Player", none, ⟨none, none⟩⟩, ⟨"wide", "boolean", none, ⟨none, none⟩⟩],
    ⟨none, none⟩⟩

def door : Class :=
  ⟨"Door", .both, some ["Lock"], none, none, none, some [opening], none, false, ⟨none, none⟩⟩

def doors : Docs :=
  ⟨[door, ⟨"Lock", .both, none, none, none, none, some [turning], none, false, ⟨none, none⟩⟩], []⟩

theorem subscriptions_in_step_sample :
    (doors.Resolves door.parents ∧ '\n' ∉ door.name.toList ∧
      ∀ events, doors.eventsOf door = .ok events → ∀ e ∈ events, ∀ s ∈ e.words, '\n' ∉ s.toList) ∧
    ∃ before block behind, classText doors door = .ok (before ++ block ++ behind) ∧
      overloadsOf "function Door:Subscribe(event_name, callback) end" (lines false block) =
        ["---@overload fun(self: Door, event_name: \"Turn\", " ++
            "callback: fun(self: Door, angle: number)): fun(self: Door, angle: number) @Half a turn",
          "---@overload fun(self: Door, event_name: \"Open\", " ++
            "callback: fun(by: Player, wide: boolean)): fun(by: Player, wide: boolean) "] ∧
      overloadsOf "function Door:Unsubscribe(event_name, callback) end" (lines false block) =
        ["---@overload fun(self: Door, event_name: \"Turn\", " ++
            "callback: fun(self: Door, angle: number)) @Half a turn",
          "---@overload fun(self: Door, event_name: \"Open\", " ++
            "callback: fun(by: Player, wide: boolean)) "] := by
  have hparents : doors.Resolves door.parents := by decide
  have hname : '\n' ∉ door.name.toList := by decide
  have hsample : doors.eventsOf door = .ok [turning, opening] := rfl
  have hwords : ∀ events, doors.eventsOf door = .ok events →
      ∀ e ∈ events, ∀ s ∈ e.words, '\n' ∉ s.toList := by
    intro events hevents
    rw [hsample] at hevents
    cases hevents
    decide
  obtain ⟨events, before, block, behind, hevents, htext, -, -, hblock⟩ :=
    subscriptions_in_step doors door hparents hname hwords
  rw [hsample] at hevents
  cases hevents
  obtain ⟨-, hsubscribe, hunsubscribe, -⟩ := hblock (by decide)
  exact ⟨⟨hparents, hname, hwords⟩, before, block, behind, htext, hsubscribe, hunsubscribe⟩

end LuaStubs.Lua
