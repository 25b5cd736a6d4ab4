import LuaStubs.Proofs.Encoding.Base64
import LuaStubs.Proofs.Text.Utf8
import LuaStubs.Remote.Source

/-! Which text a payload stands for: without its line breaks it is the Base64 text of the bytes of
that text, and any other payload is refused. -/
namespace LuaStubs.Remote

open LuaStubs.Encoding
open LuaStubs.Text

/-- The bytes of a text. -/
def stored (s : String) : List UInt8 := s.toUTF8.data.toList

/-- A text without its line feeds and carriage returns. -/
def unwrapped (payload : String) : String :=
  String.ofList (payload.toList.filter (fun c => c ≠ '\n' ∧ c ≠ '\r'))

/-- The payload is the Base64 text of these bytes, broken into lines in any way. -/
def Carries (payload : String) (bytes : List UInt8) : Prop :=
  stored (unwrapped payload) = Base64.encode bytes

theorem stored_eq (s : String) : stored s = Utf8.bytes s := (Utf8.bytes_eq_toUTF8 s).symm

theorem stored_injective {s t : String} (h : stored s = stored t) : s = t := by
  rw [stored_eq, stored_eq] at h
  exact String.toList_inj.mp (Utf8.encode_injective h)

theorem text_eq_ok_iff_stored {bytes : List UInt8} {text : String} :
    Utf8.text bytes = .ok text ↔ bytes = stored text := by
  rw [stored_eq, Utf8.text_eq_ok_iff]

theorem toList_unwrapped (payload : String) :
    (unwrapped payload).toList = Payload.unbroken payload := by
  rw [unwrapped, String.toList_ofList, Payload.unbroken]
  congr 1
  funext c
  simp [Payload.isLineBreak]

theorem decode_eq_ok_iff_carries {payload : String} {bytes : List UInt8} :
    Base64.decode (Utf8.encode (Payload.unbroken payload)) = .ok bytes ↔ Carries payload bytes := by
  rw [Base64.decode_eq_ok_iff, Carries, stored_eq, Utf8.bytes, toList_unwrapped]

theorem Carries.unique {payload : String} {bytes bytes' : List UInt8} (h : Carries payload bytes)
    (h' : Carries payload bytes') : bytes = bytes' := Base64.encode_injective (h.symm.trans h')

/-! ## The three outcomes -/

theorem textOf_of_carries {payload text : String} (path : String)
    (h : Carries payload (stored text)) : textOf path payload = .ok text := by
  unfold textOf Payload.decode
  rw [decode_eq_ok_iff_carries.mpr h]
  simp only [text_eq_ok_iff_stored.mpr rfl, Except.mapError]

theorem textOf_of_no_text {payload : String} (path : String) {bytes : List UInt8}
    (h : Carries payload bytes) (hbytes : ∀ text, bytes ≠ stored text) :
    ∃ message, textOf path payload = .error (.decode path ("invalid UTF-8: " ++ message)) := by
  unfold textOf Payload.decode
  rw [decode_eq_ok_iff_carries.mpr h]
  cases htext : Utf8.text bytes with
  | error fault => exact ⟨fault.message, by simp only [htext, Except.mapError]; rfl⟩
  | ok text => exact absurd (text_eq_ok_iff_stored.mp htext) (hbytes text)

theorem textOf_of_no_bytes {payload : String} (path : String) (h : ∀ bytes, ¬ Carries payload bytes) :
    ∃ message, textOf path payload = .error (.decode path ("invalid base64: " ++ message)) := by
  unfold textOf Payload.decode
  cases hdecode : Base64.decode (Utf8.encode (Payload.unbroken payload)) with
  | error fault => exact ⟨fault.message, by simp only [Except.mapError]; rfl⟩
  | ok bytes => exact absurd (decode_eq_ok_iff_carries.mp hdecode) (h bytes)

/-- The two kinds of messages differ. -/
theorem base64_message_ne (m m' : String) : "invalid base64: " ++ m ≠ "invalid UTF-8: " ++ m' := by
  intro h
  have hlist := congrArg String.toList h
  rw [String.toList_append, String.toList_append] at hlist
  simp at hlist

/-- Every payload has one of the three outcomes. -/
theorem textOf_cases (path payload : String) :
    (∃ text, Carries payload (stored text) ∧ textOf path payload = .ok text) ∨
    (∃ bytes message, Carries payload bytes ∧ (∀ text, bytes ≠ stored text) ∧
      textOf path payload = .error (.decode path ("invalid UTF-8: " ++ message))) ∨
    (∃ message, (∀ bytes, ¬ Carries payload bytes) ∧
      textOf path payload = .error (.decode path ("invalid base64: " ++ message))) := by
  by_cases hbytes : ∃ bytes, Carries payload bytes
  · obtain ⟨bytes, hcarries⟩ := hbytes
    by_cases htext : ∃ text, bytes = stored text
    · obtain ⟨text, rfl⟩ := htext
      exact .inl ⟨text, hcarries, textOf_of_carries path hcarries⟩
    · have hno : ∀ text, bytes ≠ stored text := fun text h => htext ⟨text, h⟩
      obtain ⟨message, hresult⟩ := textOf_of_no_text path hcarries hno
      exact .inr (.inl ⟨bytes, message, hcarries, hno, hresult⟩)
  · have hno : ∀ bytes, ¬ Carries payload bytes := fun bytes h => hbytes ⟨bytes, h⟩
    obtain ⟨message, hresult⟩ := textOf_of_no_bytes path hno
    exact .inr (.inr ⟨message, hno, hresult⟩)

theorem textOf_eq_ok_iff {path payload text : String} :
    textOf path payload = .ok text ↔ Carries payload (stored text) := by
  constructor
  · intro h
    rcases textOf_cases path payload with ⟨text', hcarries, hok⟩ | ⟨_, _, _, _, herror⟩ | ⟨_, _, herror⟩
    · rw [hok] at h
      cases h
      exact hcarries
    · rw [herror] at h
      cases h
    · rw [herror] at h
      cases h
  · exact textOf_of_carries path

/-- No text of that kind is left in a payload after its line breaks. -/
theorem unwrapped_insert (front back : String) :
    unwrapped (front ++ "\n" ++ back) = unwrapped (front ++ back) ∧
      unwrapped (front ++ "\r" ++ back) = unwrapped (front ++ back) := by
  simp [unwrapped]

theorem textOf_congr (path : String) {payload payload' : String}
    (h : unwrapped payload = unwrapped payload') : textOf path payload = textOf path payload' := by
  have hunbroken : Payload.unbroken payload = Payload.unbroken payload' := by
    rw [← toList_unwrapped, ← toList_unwrapped, h]
  rw [textOf, textOf, Payload.decode, Payload.decode, hunbroken]

/-- A payload stands for a text exactly if it carries the text's bytes.  A payload that carries no
bytes is refused as Base64, and one whose bytes are no text is refused as UTF-8, each with the path.
Line breaks do not count, and different texts have no payload in common. -/
theorem textOf_exact (path payload : String) :
    (∀ text, textOf path payload = .ok text ↔ Carries payload (stored text)) ∧
    ((∃ message, textOf path payload = .error (.decode path ("invalid base64: " ++ message))) ↔
      ¬ ∃ bytes, Carries payload bytes) ∧
    ((∃ message, textOf path payload = .error (.decode path ("invalid UTF-8: " ++ message))) ↔
      ∃ bytes, Carries payload bytes ∧ ¬ ∃ text, bytes = stored text) ∧
    (∀ front back, textOf path (front ++ "\n" ++ back) = textOf path (front ++ back) ∧
      textOf path (front ++ "\r" ++ back) = textOf path (front ++ back)) ∧
    (∀ text text', Base64.encode (stored text) = Base64.encode (stored text') ↔ text = text') := by
  refine ⟨fun text => textOf_eq_ok_iff, ⟨?_, ?_⟩, ⟨?_, ?_⟩, ?_, ?_⟩
  · rintro ⟨message, herror⟩ ⟨bytes, hcarries⟩
    rcases textOf_cases path payload with ⟨_, _, hok⟩ | ⟨_, _, _, _, hutf8⟩ | ⟨_, hno, _⟩
    · rw [hok] at herror
      cases herror
    · rw [hutf8] at herror
      injection herror with herror
      injection herror with _ herror
      exact base64_message_ne _ _ herror.symm
    · exact hno bytes hcarries
  · intro hno
    exact textOf_of_no_bytes path (fun bytes h => hno ⟨bytes, h⟩)
  · rintro ⟨message, herror⟩
    rcases textOf_cases path payload with ⟨_, _, hok⟩ | ⟨bytes, _, hcarries, hno, _⟩ | ⟨_, _, hbase64⟩
    · rw [hok] at herror
      cases herror
    · exact ⟨bytes, hcarries, fun ⟨text, h⟩ => hno text h⟩
    · rw [hbase64] at herror
      injection herror with herror
      injection herror with _ herror
      exact absurd herror (base64_message_ne _ _)
  · rintro ⟨bytes, hcarries, hno⟩
    exact textOf_of_no_text path hcarries (fun text h => hno ⟨text, h⟩)
  · intro front back
    obtain ⟨hfeed, hreturn⟩ := unwrapped_insert front back
    exact ⟨textOf_congr path hfeed, textOf_congr path hreturn⟩
  · intro text text'
    constructor
    · exact fun h => stored_injective (Base64.encode_injective h)
    · rintro rfl
      rfl

end LuaStubs.Remote
