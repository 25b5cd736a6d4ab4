import LuaStubs.Proofs.Descriptor.EnumTable
import LuaStubs.Proofs.Json.Kept
import LuaStubs.Proofs.Json.Skim
import LuaStubs.Proofs.Lua.Quoting

/-! Numbers of enums, from the token in a text to the literal in the block: which tokens come out as
they are written. -/
namespace LuaStubs

open Json (Decoder Fields Labelled Padded Schema Spells IsText Unrepeated)
open EnumTable (lastValue?)

/-! ## Members by their names -/

theorem Json.lastValue?_of_unrepeated {names : List String} {members : List (String × Json)}
    (h : Unrepeated names members) {name : String} (hname : name ∈ names) :
    lastValue? name members = Json.value? name members := by
  have hlength : (members.filter (fun m => m.1 = name)).length ≤ 1 := by
    have hcount := h name hname
    rw [List.count_eq_countP, List.countP_map, List.countP_eq_length_filter] at hcount
    exact hcount
  rw [lastValue?, Json.value?, Keyed.get?, ← List.head?_filter]
  generalize members.filter (fun m => m.1 = name) = ms at hlength
  cases ms with
  | nil => rfl
  | cons m ms =>
    obtain rfl : ms = [] := List.eq_nil_of_length_eq_zero (by simpa using hlength)
    rfl

/-- The last member of that name. -/
def Json.Labelled.last? (name : String) (ms : List Labelled) : Option Labelled :=
  (ms.filter (fun m => m.name = name)).getLast?

theorem Json.Labelled.lastValue?_eq {name : String} {ms : List Labelled} {m : Labelled}
    (h : last? name ms = some m) : lastValue? name (ms.map member) = some m.item.value := by
  have hname : (fun n : String × Json => decide (n.1 = name)) ∘ member =
      fun m => decide (m.name = name) := rfl
  rw [lastValue?, List.filter_map, hname, List.getLast?_map, show List.getLast? _ = some m from h]
  rfl

theorem Json.Labelled.mem_of_last? {name : String} {ms : List Labelled} {m : Labelled}
    (h : last? name ms = some m) : m ∈ ms :=
  (List.mem_filter.mp (List.mem_of_getLast? h)).1

theorem Json.Padded.IsPadded.isText {p : Padded} (h : p.IsPadded)
    (hspells : Spells Json.Tree.maxLevel p.body p.value) {text : String} (htext : text.toList = p.chars) :
    IsText text p.value :=
  ⟨p.before, p.body, p.after, h.1, hspells, h.2, htext⟩

/-- A token of a number is spelled as its value only. -/
theorem Json.Spells.exists_number {k : Nat} {token : List Char} {v : Json} (h : Spells k token v)
    {t : Json.Numeral} (ht : Json.Numeral.Spells token t) :
    ∃ n, t.value = .ok n ∧ v = .number n := by
  obtain ⟨c, rest, hc, hstart⟩ := ht.exists_cons
  cases h with
  | number _ ht' hv =>
    obtain rfl := ht.unique ht'
    exact ⟨_, hv, rfl⟩
  | _ =>
    -- any other value starts with a character of its own
    obtain ⟨rfl, -⟩ := List.cons.inj hc
    exact absurd hstart (by decide)

/-! ## Entries -/

namespace EnumValue

/-- An entry as a value: an object whose last `key` and `value` are these, or a list of the two. -/
inductive Holds (key : String) (v : Json) : Json → Prop
  | object {members : List (String × Json)} (hkey : lastValue? "key" members = some (.string key))
      (hvalue : lastValue? "value" members = some v) : Holds key v (.object members)
  | list : Holds key v (.array [.string key, v])

/-- Neither name is repeated in an object. -/
def Once : Json → Prop
  | .object members => Unrepeated ["key", "value"] members
  | _ => True

def members : Json.MemberSchema EnumValue := fun members => do
  let key ← Schema.required "key" Schema.string members
  let value ← Schema.required "value" (fun j => some j.collapse) members
  return ⟨key, value⟩

abbrev fields : Fields EnumValue :=
  EnumValue.mk <$> Fields.required "key" Decoder.string
    <*> Fields.required "value" (fun t => t.full.map Json.collapse)

theorem reads_fields : fields.Reads false fields.slotNames members := by
  have hvalue : Decoder.Reads (fun t => t.full.map Json.collapse) (fun j => some j.collapse) := by
    intro t j a hfull ha
    cases ha
    simp only [hfull]
    rfl
  refine .congr (.apply (.map EnumValue.mk (Fields.reads_required ?_ Decoder.reads_string))
    (Fields.reads_required ?_ hvalue)) ?_
  case refine_3 =>
    intro members
    simp only [Option.map_eq_bind, Option.bind_assoc, Function.comp_apply, Option.bind_some]
    rfl
  all_goals decide

variable {key : String} {v j : Json}

/-- An entry is read from a text of its own, if it does not repeat a name. -/
theorem Holds.decoder_eq_ok (h : Holds key v j) (honce : Once j) {t : Json.Tree}
    (hfull : t.full = .ok j) : decoder t = .ok ⟨key, v.collapse⟩ := by
  cases h with
  | object hkey hvalue =>
    rw [Json.lastValue?_of_unrepeated honce (by decide)] at hkey hvalue
    refine reads_fields.looseDecoder "EnumValue" hfull (Schema.object_eq_some.mpr ⟨honce, ?_⟩)
    simp [members, Schema.required, Schema.string, hkey, hvalue]
  | list => exact reads_fields.looseDecoder_list (by decide) "EnumValue" hfull rfl rfl

/-- An entry is read as a part of a file. -/
theorem Holds.ofJson_collapse (h : Holds key v j) : ofJson j.collapse = .ok ⟨key, v.collapse⟩ := by
  cases h with
  | @object ms hkey hvalue =>
    have hkey' := EnumTable.get?_survivors "key" ms
    have hvalue' := EnumTable.get?_survivors "value" ms
    rw [hkey] at hkey'
    rw [hvalue] at hvalue'
    show ofMembers (EnumTable.survivors ms) = _
    unfold ofMembers
    rw [hkey', hvalue']
    rfl
  | list => rfl

/-- An entry as it is written, with the text of its value. -/
inductive Written (n : Nat) (key : String) (token : List Char) (v : Json) : List Char → Json → Prop
  | object {ms : List Labelled} {k w : Labelled} (hlabel : ∀ m ∈ ms, m.IsLabelled)
      (hspells : ∀ m ∈ ms, Spells n m.item.body m.item.value)
      (hk : Labelled.last? "key" ms = some k) (hkey : k.item.value = .string key)
      (hw : Labelled.last? "value" ms = some w) (htoken : w.item.body = token)
      (hvalue : w.item.value = v) :
      Written n key token v ('\x7b' :: ([','].intercalate (ms.map Labelled.chars) ++ ['\x7d']))
        (.object (ms.map Labelled.member))
  | list {k w : Padded} (hpad : ∀ p ∈ [k, w], p.IsPadded)
      (hspells : ∀ p ∈ [k, w], Spells n p.body p.value) (hkey : k.value = .string key)
      (htoken : w.body = token) (hvalue : w.value = v) :
      Written n key token v ('[' :: ([','].intercalate ([k, w].map Padded.chars) ++ [']']))
        (.array ([k, w].map Padded.value))

variable {n : Nat} {token body : List Char}

theorem Written.holds (h : Written n key token v body j) : Holds key v j := by
  cases h with
  | object _ _ hk hkey hw _ hvalue =>
    rw [← hvalue]
    exact .object (hkey ▸ Labelled.lastValue?_eq hk) (Labelled.lastValue?_eq hw)
  | @list k w _ _ hkey _ hvalue =>
    show Holds key v (.array [k.value, w.value])
    rw [hkey, hvalue]
    exact .list

theorem Written.spells (h : Written n key token v body j) : Spells (n + 1) body j := by
  cases h with
  | object hlabel hspells hk =>
    exact .members (List.ne_nil_of_mem (Labelled.mem_of_last? hk)) hlabel hspells
  | list hpad hspells => exact .items (by simp) hpad hspells

/-- The text of the value is spelled as the value. -/
theorem Written.spells_token (h : Written n key token v body j) : Spells n token v := by
  cases h with
  | object _ hspells _ _ hw htoken hvalue =>
    subst htoken hvalue
    exact hspells _ (Labelled.mem_of_last? hw)
  | list _ hspells _ htoken hvalue =>
    subst htoken hvalue
    exact hspells _ (by simp)

/-- A text of one entry. -/
def IsWritten (text : String) (key : String) (token : List Char) (v : Json) : Prop :=
  ∃ p : Padded, p.IsPadded ∧ text.toList = p.chars ∧
    Written (Json.Tree.maxLevel - 1) key token v p.body p.value ∧ Once p.value

theorem IsWritten.spells_token {text : String} (h : IsWritten text key token v) :
    Spells Json.Tree.maxLevel token v := by
  obtain ⟨p, -, -, hwritten, -⟩ := h
  exact hwritten.spells_token.mono (by decide)

theorem IsWritten.run {text : String} (h : IsWritten text key token v) :
    decoder.run text = .ok ⟨key, v.collapse⟩ := by
  obtain ⟨p, hpad, htext, hwritten, honce⟩ := h
  have hvalue := hpad.isText hwritten.spells htext
  obtain ⟨hfull, hextra⟩ := Decoder.run_eq_ok.mp (Decoder.json_run_eq_ok.mpr hvalue)
  exact Decoder.run_eq_ok.mpr ⟨hwritten.holds.decoder_eq_ok honce hfull, hextra⟩

/-- An entry without blanks. -/
def plain (key : String) (token : List Char) (v : Json) : Padded :=
  let ms : List Labelled :=
    [.plain "key" ('"' :: (key.toList.flatMap Json.escape ++ ['"'])) (.string key),
      .plain "value" token v]
  ⟨[], '\x7b' :: ([','].intercalate (ms.map Labelled.chars) ++ ['\x7d']), [],
    .object (ms.map Labelled.member)⟩

theorem isPadded_plain (key : String) (token : List Char) (v : Json) :
    (plain key token v).IsPadded := ⟨Json.blank_nil, Json.blank_nil⟩

theorem written_plain (key : String) (h : Spells n token v) :
    Written n key token v (plain key token v).body (plain key token v).value := by
  refine .object ?_ ?_ rfl rfl rfl rfl rfl
  · simp [Labelled.isLabelled_plain]
  · exact List.forall_mem_cons.mpr
      ⟨.string n (Json.Text.spells_escape key.toList), List.forall_mem_singleton.mpr h⟩

theorem isWritten_plain (key : String) (h : Spells (Json.Tree.maxLevel - 1) token v) :
    IsWritten (String.ofList (plain key token v).chars) key token v :=
  ⟨plain key token v, isPadded_plain key token v, String.toList_ofList, written_plain key h,
    Json.unrepeated_of_nodup _ (by simp [Labelled.plain, Labelled.member])⟩

end EnumValue

/-! ## Files of enums -/

namespace EnumTable

/-- A file as it is written, with an entry at the place `i` of the last list of that name. -/
inductive Written (n : Nat) (name : String) (i : Nat) (key : String) (token : List Char) (v : Json) :
    List Char → Json → Prop
  | object {ms : List Labelled} {m : Labelled} {items : List Padded} {p : Padded}
      (hlabel : ∀ m ∈ ms, m.IsLabelled) (hspells : ∀ m ∈ ms, Spells (n + 2) m.item.body m.item.value)
      (hm : Labelled.last? name ms = some m)
      (hbody : m.item.body = '[' :: ([','].intercalate (items.map Padded.chars) ++ [']']))
      (hvalue : m.item.value = .array (items.map Padded.value)) (hp : items[i]? = some p)
      (hentry : EnumValue.Written n key token v p.body p.value) :
      Written n name i key token v
        ('\x7b' :: ([','].intercalate (ms.map Labelled.chars) ++ ['\x7d']))
        (.object (ms.map Labelled.member))

/-- A text of such a file. -/
def IsWritten (text name : String) (i : Nat) (key : String) (token : List Char) (v : Json) : Prop :=
  ∃ p : Padded, p.IsPadded ∧ text.toList = p.chars ∧
    Written (Json.Tree.maxLevel - 3) name i key token v p.body p.value

variable {n i : Nat} {name key : String} {token body : List Char} {v j : Json}

theorem Written.spells (h : Written n name i key token v body j) : Spells (n + 3) body j := by
  cases h with
  | object hlabel hspells hm =>
    exact .members (List.ne_nil_of_mem (Labelled.mem_of_last? hm)) hlabel hspells

theorem Written.spells_token (h : Written n name i key token v body j) : Spells n token v := by
  cases h with
  | object _ _ _ _ _ _ hentry => exact hentry.spells_token

theorem collapse_array (items : List Json) :
    (Json.array items).collapse = .array (items.map Json.collapse) := by
  rw [Json.collapse]
  congr 1
  induction items with
  | nil => rfl
  | cons j items ih => rw [Json.collapseItems, ih, List.map_cons]

/-- The entry is at its place in the enum of that name. -/
theorem Written.exists_enum (h : Written n name i key token v body j)
    {members : List (String × Json)} (hj : j = .object members) {enums : List Enum}
    (henums : Declares members enums) :
    ∃ e ∈ enums, e.name = name ∧ e.values[i]? = some ⟨key, v.collapse⟩ := by
  cases h with
  | @object ms m items p hlabel hspells hm hbody hvalue hp hentry =>
    cases hj
    obtain ⟨e, he, hname, hvalues⟩ := henums.exists_enum (Labelled.lastValue?_eq hm)
    refine ⟨e, he, hname, ?_⟩
    rw [hvalue, collapse_array] at hvalues
    have hall := mapM_eq_ok.mp hvalues
    obtain ⟨hi, rfl⟩ := List.getElem?_eq_some_iff.mp hp
    have hlength := hall.length_eq
    rw [List.length_map, List.length_map] at hlength
    have hi' : i < e.values.length := hlength ▸ hi
    have hread := hall.get (by simpa using hi) hi'
    simp only [List.get_eq_getElem, List.getElem_map] at hread
    rw [hentry.holds.ofJson_collapse] at hread
    rw [List.getElem?_eq_getElem hi', Except.ok.inj hread]

theorem IsWritten.spells_token {text : String} (h : IsWritten text name i key token v) :
    Spells Json.Tree.maxLevel token v := by
  obtain ⟨p, -, -, hwritten⟩ := h
  exact hwritten.spells_token.mono (by decide)

theorem IsWritten.exists_enum {text : String} (h : IsWritten text name i key token v)
    {enums : List Enum} (henums : read text = .ok enums) :
    ∃ e ∈ enums, e.name = name ∧ e.values[i]? = some ⟨key, v.collapse⟩ := by
  obtain ⟨p, hpad, htext, hwritten⟩ := h
  have hvalue := hpad.isText hwritten.spells htext
  obtain ⟨members, hmembers, hdeclares⟩ := read_eq_ok.mp henums
  have hrun := Decoder.json_run_eq_ok.mpr hvalue
  rw [Decoder.json_run_eq_ok.mpr hmembers] at hrun
  exact hwritten.exists_enum (Except.ok.inj hrun).symm hdeclares

/-- The member of an enum with one entry, without blanks. -/
def plainMember (name key : String) (token : List Char) (v : Json) : Labelled :=
  .plain name
    ('[' :: ([','].intercalate ([EnumValue.plain key token v].map Padded.chars) ++ [']']))
    (.array ([EnumValue.plain key token v].map Padded.value))

/-- A file of such an enum only. -/
def plain (name key : String) (token : List Char) (v : Json) : Padded :=
  ⟨[], '\x7b' :: ([','].intercalate ([plainMember name key token v].map Labelled.chars) ++ ['\x7d']),
    [], .object ([plainMember name key token v].map Labelled.member)⟩

theorem isWritten_plain (name key : String) (h : Spells (Json.Tree.maxLevel - 3) token v) :
    IsWritten (String.ofList (plain name key token v).chars) name 0 key token v := by
  have hentry := EnumValue.written_plain key h
  have hm : Labelled.last? name [plainMember name key token v] =
      some (plainMember name key token v) := by
    simp [Labelled.last?, plainMember, Labelled.plain]
  have hp : [EnumValue.plain key token v][0]? = some (EnumValue.plain key token v) := rfl
  refine ⟨plain name key token v, ⟨Json.blank_nil, Json.blank_nil⟩, String.toList_ofList,
    .object ?_ ?_ hm rfl rfl hp hentry⟩
  · exact List.forall_mem_singleton.mpr (Labelled.isLabelled_plain _ _ _)
  · exact List.forall_mem_singleton.mpr (.items (by simp)
      (List.forall_mem_singleton.mpr (EnumValue.isPadded_plain key token v))
      (List.forall_mem_singleton.mpr hentry.spells))

end EnumTable

namespace Lua

/-- The text of an enum from the end of a literal on. -/
def textAfter (behind : List EnumValue) : String :=
  (if behind = [] then "" else ",") ++ Block.text (entryLines behind ++ [.code "\x7d"])

/-- The text of an enum at the place of an entry. -/
theorem enumText_of_getElem? {e : Enum} {i : Nat} {v : EnumValue} (h : e.values[i]? = some v) :
    enumText e = textBefore e.name (e.values.take i) ++
      ("[\"" ++ v.key ++ "\"] = " ++ v.literal) ++ textAfter (e.values.drop (i + 1)) := by
  obtain ⟨hi, rfl⟩ := List.getElem?_eq_some_iff.mp h
  have hvalues : e.values.take i ++ e.values[i] :: e.values.drop (i + 1) = e.values := by simp
  have htext := enumText_append_cons e.name (e.values.take i) e.values[i] (e.values.drop (i + 1))
  rw [hvalues] at htext
  rw [htext]
  apply String.toList_inj.mp
  simp [textBehind, textAfter]

end Lua

theorem EnumValue.literal_number (key : String) (n : Json.Number) :
    literal ⟨key, .number n⟩ = n.text := String.ofList_toList

/-- A number of an enum comes out as the token that is written if and only if the token is kept,
whether its entry is a text of its own or part of a file; then the token stands in the block. -/
theorem enum_number_kept_iff {token : List Char} {t : Json.Numeral}
    (ht : Json.Numeral.Spells token t) (key : String) :
    (∀ text v, EnumValue.IsWritten text key token v →
      ∃ n, t.value = .ok n ∧ EnumValue.decoder.run text = .ok ⟨key, .number n⟩) ∧
    (∀ text name i v enums, EnumTable.IsWritten text name i key token v →
      EnumTable.read text = .ok enums →
        ∃ n, t.value = .ok n ∧ ∃ e ∈ enums, e.name = name ∧ e.values[i]? = some ⟨key, .number n⟩) ∧
    ∀ n, t.value = .ok n →
      ((EnumValue.mk key (.number n)).literal = String.ofList token ↔ t.IsKept token n) ∧
      (∀ (e : Enum) (i : Nat), e.values[i]? = some ⟨key, .number n⟩ →
        (Lua.enumText e = Lua.textBefore e.name (e.values.take i) ++
            ("[\"" ++ key ++ "\"] = " ++ String.ofList token) ++
              Lua.textAfter (e.values.drop (i + 1)) ↔ t.IsKept token n)) ∧
      (t.IsShort → (t.IsKept token n ↔ t.IsInteger ∨ token = t.chars ∧ t.IsPrinted)) := by
  refine ⟨fun text v htext => ?_, fun text name i v enums htext henums => ?_, fun n hn => ?_⟩
  · obtain ⟨n, hn, rfl⟩ := htext.spells_token.exists_number ht
    exact ⟨n, hn, htext.run⟩
  · obtain ⟨n, hn, rfl⟩ := htext.spells_token.exists_number ht
    exact ⟨n, hn, htext.exists_enum henums⟩
  · have hliteral : (EnumValue.mk key (.number n)).literal = String.ofList token ↔
        t.IsKept token n := by
      rw [EnumValue.literal_number]
      exact Json.Numeral.text_eq_iff ht hn
    refine ⟨hliteral, fun e i hi => ?_, fun hshort => hshort.isKept_iff ht hn⟩
    rw [Lua.enumText_of_getElem? hi, String.append_left_inj, String.append_right_inj,
      String.append_right_inj]
    exact hliteral

/-- A negative number in printed form. -/
def printedToken : Json.Numeral := ⟨true, [2], some [5], some (true, [7])⟩

def printedNumber : Json.Number := .decimal true ⟨4722366482869645, -74⟩

theorem value_printedToken : printedToken.value = .ok printedNumber := by decide +kernel

theorem spells_printedToken : Json.Numeral.Spells "-2.5e-7".toList printedToken := by
  refine ⟨⟨by decide, by decide⟩, by simp [printedToken], ['.', '5'], ['e', '-', '7'], ?_, ?_, rfl⟩
  · exact ⟨⟨by decide, by decide⟩, rfl⟩
  · exact ⟨⟨by decide, by decide⟩, 'e', by decide, ['-'], by decide, rfl⟩

theorem isShort_printedToken : printedToken.IsShort := ⟨by decide, by decide⟩

theorem isPrinted_printedToken : printedToken.IsPrinted :=
  .scientific (by decide : 2 ≠ 0) (by decide : [2, 5].getLast? ≠ some 0) (by decide) (by decide)

/-- The token as the value of `A` in a text of its own, and in the file of an enum `E`. -/
def printedEntry : String := "\x7b\"key\":\"A\",\"value\":-2.5e-7\x7d"

def printedFile : String := "\x7b\"E\":[" ++ printedEntry ++ "]\x7d"

theorem isWritten_printedEntry :
    EnumValue.IsWritten printedEntry "A" "-2.5e-7".toList (.number printedNumber) := by
  have htext : String.ofList (EnumValue.plain "A" "-2.5e-7".toList (.number printedNumber)).chars =
      printedEntry := by decide +kernel
  rw [← htext]
  exact EnumValue.isWritten_plain "A" (.number _ spells_printedToken value_printedToken)

theorem isWritten_printedFile :
    EnumTable.IsWritten printedFile "E" 0 "A" "-2.5e-7".toList (.number printedNumber) := by
  have htext : String.ofList
      (EnumTable.plain "E" "A" "-2.5e-7".toList (.number printedNumber)).chars = printedFile := by
    decide +kernel
  rw [← htext]
  exact EnumTable.isWritten_plain "E" "A" (.number _ spells_printedToken value_printedToken)

theorem enum_number_kept_iff_sample :
    Json.Numeral.Spells "-2.5e-7".toList printedToken ∧ printedToken.value = .ok printedNumber ∧
      printedToken.IsShort ∧ EnumValue.decoder.run printedEntry = .ok ⟨"A", .number printedNumber⟩ ∧
      (∃ enums, EnumTable.read printedFile = .ok enums ∧
        ∃ e ∈ enums, e.name = "E" ∧ e.values[0]? = some ⟨"A", .number printedNumber⟩) ∧
      (EnumValue.mk "A" (.number printedNumber)).literal = "-2.5e-7" ∧
      Lua.enumText ⟨"E", [⟨"A", .number printedNumber⟩]⟩ =
        Lua.textBefore "E" [] ++ ("[\"" ++ "A" ++ "\"] = " ++ "-2.5e-7") ++ Lua.textAfter [] := by
  obtain ⟨hrun, hread, hprint⟩ := enum_number_kept_iff spells_printedToken "A"
  obtain ⟨hliteral, htext, hshort⟩ := hprint _ value_printedToken
  have hkept := (hshort isShort_printedToken).mpr (.inr ⟨rfl, isPrinted_printedToken⟩)
  have hvalue {n : Json.Number} (hn : printedToken.value = .ok n) : n = printedNumber :=
    Except.ok.inj (hn.symm.trans value_printedToken)
  rw [String.ofList_toList] at hliteral htext
  refine ⟨spells_printedToken, value_printedToken, isShort_printedToken, ?_, ?_, hliteral.mpr hkept,
    (htext _ 0 rfl).mpr hkept⟩
  · obtain ⟨n, hn, hentry⟩ := hrun _ _ isWritten_printedEntry
    rwa [hvalue hn] at hentry
  · have hok : (EnumTable.read printedFile).isOk = true := by decide +kernel
    cases henums : EnumTable.read printedFile with
    | error fault =>
      rw [henums] at hok
      cases hok
    | ok enums =>
      obtain ⟨n, hn, hfile⟩ := hread _ _ _ _ _ isWritten_printedFile henums
      rw [hvalue hn] at hfile
      exact ⟨enums, rfl, hfile⟩

/-- A zero at the end is lost. -/
theorem enum_number_changed :
    (EnumValue.decoder.run "\x7b\"key\":\"A\",\"value\":1.50\x7d").toOption.map EnumValue.literal =
        some "1.5" ∧
      (EnumTable.read "\x7b\"E\":[\x7b\"key\":\"A\",\"value\":1.50\x7d]\x7d").toOption.map
          (List.map Lua.enumText) = some ["\n\n---@enum E\nE = \x7b\n    [\"A\"] = 1.5\n\x7d"] := by
  constructor <;> decide +kernel

end LuaStubs
