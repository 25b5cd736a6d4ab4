import LuaStubs.Proofs.Lua.Quoting

/-! The block of an enum loses nothing: it has a line for each entry, and from its lines the name, the
keys and the literals can be read back. -/
namespace LuaStubs

namespace Enum

/-- No text of the enum breaks its line, and no key holds the quote that ends it. -/
structure IsLined (e : Enum) : Prop where
  name : '\n' ∉ e.name.toList
  keys : ∀ v ∈ e.values, '\n' ∉ v.key.toList ∧ '"' ∉ v.key.toList
  literals : ∀ v ∈ e.values, '\n' ∉ v.literal.toList

/-- What is written of the values of an enum. -/
def pairs (e : Enum) : List (String × String) := e.values.map (fun v => (v.key, v.literal))

end Enum

namespace Lua

/-! ## Entries -/

theorem entry_inj {v w : EnumValue} (hv : '"' ∉ v.key.toList) (hw : '"' ∉ w.key.toList) :
    entry v = entry w ↔ v.key = w.key ∧ v.literal = w.literal := by
  refine ⟨fun h => ?_, fun ⟨hkey, hliteral⟩ => by rw [entry, entry, hkey, hliteral]⟩
  have hbody : v.key.toList ++ '"' :: ("] = ".toList ++ v.literal.toList) =
      w.key.toList ++ '"' :: ("] = ".toList ++ w.literal.toList) := by
    have hchars := congrArg String.toList h
    simpa [entry] using hchars
  obtain ⟨hkey, hrest⟩ := (Text.append_cons_inj hv hw).mp hbody
  exact ⟨String.toList_inj.mp hkey, String.toList_inj.mp (List.append_cancel_left hrest)⟩

theorem map_entry_inj {vs ws : List EnumValue} (hvs : ∀ v ∈ vs, '"' ∉ v.key.toList)
    (hws : ∀ w ∈ ws, '"' ∉ w.key.toList) :
    vs.map entry = ws.map entry ↔
      vs.map (fun v => (v.key, v.literal)) = ws.map (fun v => (v.key, v.literal)) := by
  induction vs generalizing ws with
  | nil => cases ws <;> simp
  | cons v vs ih =>
    cases ws with
    | nil => simp
    | cons w ws =>
      obtain ⟨hv, hvs⟩ := List.forall_mem_cons.mp hvs
      obtain ⟨hw, hws⟩ := List.forall_mem_cons.mp hws
      rw [List.map_cons, List.map_cons, List.map_cons, List.map_cons, List.cons.injEq,
        List.cons.injEq, entry_inj hv hw, ih hvs hws, Prod.mk.injEq]

/-- What parts an entry from the next one. -/
def comma (isLast : Bool) : String := if isLast then "" else ","

theorem map_text_entryLines (vs : List EnumValue) :
    (entryLines vs).map Line.text =
      vs.mapIdx (fun i v => entry v ++ comma (i + 1 = vs.length)) := by
  induction vs with
  | nil => rfl
  | cons v vs ih =>
    rw [entryLines_cons, List.map_cons, ih, List.mapIdx_cons]
    cases vs with
    | nil => simp [comma, Line.text]
    | cons w ws => simp [comma, Line.text]

/-- Commas stand between entries only, so they do not tell entries apart. -/
theorem map_text_entryLines_inj {vs ws : List EnumValue} :
    (entryLines vs).map Line.text = (entryLines ws).map Line.text ↔
      vs.map entry = ws.map entry := by
  induction vs generalizing ws with
  | nil => cases ws <;> simp [entryLines, entryLines_cons]
  | cons v vs ih =>
    cases ws with
    | nil => simp [entryLines, entryLines_cons]
    | cons w ws =>
      rw [entryLines_cons, entryLines_cons, List.map_cons, List.map_cons, List.cons.injEq, ih,
        List.map_cons, List.map_cons, List.cons.injEq]
      refine and_congr_left (fun hrest => ?_)
      have hnil : vs = [] ↔ ws = [] := by
        rw [← List.map_eq_nil_iff (f := entry), hrest, List.map_eq_nil_iff]
      simp [Line.text, hnil, String.append_left_inj]

/-! ## Blocks -/

section

variable {e : Enum} (h : e.IsLined)
include h

theorem unbroken_entryLines {vs : List EnumValue} (hvs : ∀ v ∈ vs, v ∈ e.values) :
    ∀ l ∈ entryLines vs, Unbroken false l.text := by
  induction vs with
  | nil => simp [entryLines]
  | cons v vs ih =>
    obtain ⟨hv, hvs⟩ := List.forall_mem_cons.mp hvs
    have hkey : Unbroken false v.key := .of_no_feed (h.keys v hv).1
    have hliteral : Unbroken false v.literal := .of_no_feed (h.literals v hv)
    have hcomma : Unbroken false (if vs = [] then "" else ",") := by split <;> exact .literal _ rfl
    rw [entryLines_cons]
    exact List.forall_mem_cons.mpr ⟨unbroken_code (.append (.append (.append (.append
      (.literal _ rfl) hkey) (.literal _ rfl)) hliteral) hcomma), ih hvs⟩

theorem unbroken_enumBlock : ∀ l ∈ enumBlock e, Unbroken false l.text := by
  have hname : Unbroken false e.name := .of_no_feed h.name
  unfold enumBlock
  simp only [List.cons_append, List.nil_append, List.forall_mem_cons, List.forall_mem_append,
    List.not_mem_nil, false_implies, implies_true, and_true]
  exact ⟨unbroken_blank, unbroken_tag (.literal _ rfl) hname,
    unbroken_code (hname.append (.literal _ rfl)), unbroken_entryLines h (fun _ hv => hv),
    unbroken_code (.literal _ rfl)⟩

/-- The lines of an enum: two that are empty, two with its name, one for each entry, and the brace. -/
theorem lines_enumText :
    lines false (enumText e) =
      ["", "", "---@enum " ++ e.name, e.name ++ " = \x7b"] ++
        ((entryLines e.values).map Line.text ++ ["\x7d"]) := by
  have hlines := lines_append_unbroken "" (unbroken_enumBlock h)
  rw [String.empty_append] at hlines
  rw [enumText, hlines]
  simp [enumBlock, Line.text, lines, Text.split]

end

/-- Two enums have the same block if and only if they have the same name and the same pairs of key and
literal in the same order, repeated keys included.  The block has one line for each value, with a comma
of its own behind each entry but the last. -/
theorem enumText_lossless {e e' : Enum} (h : e.IsLined) (h' : e'.IsLined) :
    (enumText e = enumText e' ↔ e.name = e'.name ∧ e.pairs = e'.pairs) ∧
      lines false (enumText e) =
        ["", "", "---@enum " ++ e.name, e.name ++ " = \x7b"] ++
          (e.values.mapIdx (fun i v => "    [\"" ++ v.key ++ "\"] = " ++ v.literal ++
            comma (i + 1 = e.values.length)) ++ ["\x7d"]) := by
  refine ⟨?_, by rw [lines_enumText h, map_text_entryLines]; rfl⟩
  have hpairs : (entryLines e.values).map Line.text = (entryLines e'.values).map Line.text ↔
      e.pairs = e'.pairs :=
    map_text_entryLines_inj.trans
      (map_entry_inj (fun v hv => (h.keys v hv).2) (fun v hv => (h'.keys v hv).2))
  constructor
  · intro htext
    have hlines := congrArg (lines false) htext
    rw [lines_enumText h, lines_enumText h'] at hlines
    simp only [List.cons_append, List.nil_append, List.cons.injEq, true_and,
      List.append_cancel_right_eq] at hlines
    exact ⟨(String.append_right_inj _).mp hlines.1, hpairs.mp hlines.2.2⟩
  · rintro ⟨hname, heq⟩
    have hlines : (enumBlock e).map Line.text = (enumBlock e').map Line.text := by
      simp only [enumBlock, List.map_append, hpairs.mpr heq, hname]
    have htext (b : Block) : Block.text b = String.join ((b.map Line.text).map ("\n" ++ ·)) := by
      simp [Block.text, Function.comp_def]
    rw [enumText, enumText, htext, htext, hlines]

/-- A literal that ends in a comma, one that looks like an entry and one that looks like the end. -/
def commaEnum : Enum := ⟨"E", [⟨"a", .string "1,"⟩, ⟨"a", .string "[\"b\"] = 2"⟩, ⟨"", .string "\x7d"⟩]⟩

/-- The same characters in other places. -/
def shiftedEnum : Enum := ⟨"E", [⟨"a", .string "1"⟩, ⟨"a", .string ",[\"b\"] = 2"⟩, ⟨"", .string "\x7d"⟩]⟩

theorem isLined_commaEnum : commaEnum.IsLined := ⟨by decide, by decide, by decide⟩

theorem isLined_shiftedEnum : shiftedEnum.IsLined := ⟨by decide, by decide, by decide⟩

theorem enumText_lossless_sample :
    commaEnum.IsLined ∧ shiftedEnum.IsLined ∧ enumText commaEnum ≠ enumText shiftedEnum ∧
      (lines false (enumText commaEnum)).length = commaEnum.values.length + 5 := by
  obtain ⟨hiff, hlines⟩ := enumText_lossless isLined_commaEnum isLined_shiftedEnum
  have hpairs : commaEnum.pairs ≠ shiftedEnum.pairs := by decide
  refine ⟨isLined_commaEnum, isLined_shiftedEnum, fun h => hpairs (hiff.mp h).2, ?_⟩
  rw [hlines]
  rfl

end Lua

end LuaStubs
