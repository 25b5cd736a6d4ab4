import LuaStubs.Proofs.Remote.Reference

/-! The address of a file as a code for its path: behind a front that no path changes stand the names
of the path, and they are read back as they were. -/
namespace LuaStubs.Remote.Coordinates

open LuaStubs.Text
open LuaStubs.Encoding

/-! ## The front -/

/-- What stands in front of the path in the address of every file. -/
def front (c : Coordinates) : String :=
  c.base ++ "/repos/" ++ c.owner ++ "/" ++ c.repo ++ "/contents/"

theorem contentsUrl_eq_front (c : Coordinates) (path : String) :
    c.contentsUrl path = c.front ++ String.ofList (encodedPath path) := by
  rw [contentsUrl, repository, front]

/-- The same API, with further slashes at the end of its address. -/
def withSlashes (c : Coordinates) (n : Nat) : Coordinates :=
  { c with api := c.api ++ String.ofList (List.replicate n '/') }

theorem base_withSlashes (c : Coordinates) (n : Nat) : (c.withSlashes n).base = c.base := by
  have hslash : isSlash '/' = true := by decide
  rw [base, base, withSlashes]
  simp [dropEnd, hslash]

theorem front_withSlashes (c : Coordinates) (n : Nat) : (c.withSlashes n).front = c.front := by
  rw [front, base_withSlashes]
  rfl

/-! ## The path -/

/-- The names between the slashes of a path, empty ones included; slashes in front of it do not
count. -/
def segments (path : String) : List (List Char) := split isSlash (path.toList.dropWhile isSlash)

/-- The names that the end of an address stands for. -/
def segments? (tail : List Char) : Option (List (List Char)) :=
  (split isSlash tail).mapM Percent.decode

theorem isSlash_iff (c : Char) : isSlash c = true ↔ c = '/' := by simp [isSlash]

theorem isSlash_eq_false_of_mem {cs : List Char} {c : Char} (h : c ∈ Percent.segment cs) :
    isSlash c = false :=
  Percent.IsSegmentChar.forall (P := fun c => isSlash c = false) (by decide) (by decide)
    (Percent.isSegmentChar_of_mem h)

theorem encodedPath_eq (path : String) :
    encodedPath path = ['/'].intercalate ((segments path).map Percent.segment) := rfl

theorem split_encodedPath (path : String) :
    split isSlash (encodedPath path) = (segments path).map Percent.segment := by
  refine split_intercalate (by decide) (by simp [split_ne_nil]) (fun piece hpiece c hc => ?_)
  obtain ⟨cs, -, rfl⟩ := List.mem_map.mp hpiece
  exact isSlash_eq_false_of_mem hc

theorem segments?_encodedPath (path : String) :
    segments? (encodedPath path) = some (segments path) := by
  rw [segments?, split_encodedPath, mapM_eq_some, List.forall₂_map_left_iff, List.forall₂_same]
  exact fun cs _ => Percent.decode_segment cs

/-- Names determine a path, up to slashes in front of it. -/
theorem segments_inj {p q : String} :
    segments p = segments q ↔ p.toList.dropWhile isSlash = q.toList.dropWhile isSlash := by
  constructor
  · intro h
    rw [← intercalate_split isSlash_iff (p.toList.dropWhile isSlash),
      ← intercalate_split isSlash_iff (q.toList.dropWhile isSlash)]
    exact congrArg _ h
  · exact fun h => congrArg (split isSlash) h

/-- What the end of an address is made of. -/
theorem mem_encodedPath {path : String} {x : Char} (h : x ∈ encodedPath path) :
    x.isAlphanum = true ∨ x ∈ ['-', '_', '.', '~', '%', '/'] := by
  rcases isNames_encodedPath path x h with (hplain | rfl) | rfl
  · simp only [Percent.isUnreserved, Bool.or_eq_true, decide_eq_true_eq] at hplain
    rcases hplain with (((hplain | rfl) | rfl) | rfl) | rfl
    · exact .inl hplain
    all_goals exact .inr (by decide)
  · exact .inr (by decide)
  · exact .inr (by decide)

/-- A path puts no mark into the address, and as many slashes as it has itself. -/
theorem count_encodedPath (path : String) :
    (encodedPath path).count '?' = 0 ∧ (encodedPath path).count '#' = 0 ∧
      (encodedPath path).count '/' = (path.toList.dropWhile isSlash).count '/' := by
  have hmark (x : Char) (hplain : ¬ (x.isAlphanum = true ∨ x ∈ ['-', '_', '.', '~', '%', '/'])) :
      (encodedPath path).count x = 0 :=
    List.count_eq_zero_of_not_mem (fun hx => hplain (mem_encodedPath hx))
  refine ⟨hmark '?' (by decide), hmark '#' (by decide), ?_⟩
  have hpieces (cs : List Char) : (split isSlash cs).length = cs.count '/' + 1 := by
    rw [length_split]
    exact congrArg (· + 1) (List.countP_congr (fun c _ => by simp [isSlash]))
  have hlength := congrArg List.length (split_encodedPath path)
  rw [List.length_map, hpieces, segments, hpieces] at hlength
  exact Nat.succ.inj hlength

/-- The address of a file is a front that depends on no path, and on no slashes at the end of the API's
address, and a text of plain characters, escapes and slashes, from which the names of the path are read
back.  So no two paths have one address, but for slashes in front of them, and no path adds a mark or
a segment to what it stands for. -/
theorem contentsUrl_faithful (c : Coordinates) :
    (∀ n path, ∃ tail : List Char,
      (c.withSlashes n).contentsUrl path = c.front ++ String.ofList tail ∧
      (∀ x ∈ tail, x.isAlphanum = true ∨ x ∈ ['-', '_', '.', '~', '%', '/']) ∧
      segments? tail = some (segments path) ∧
      tail.count '?' = 0 ∧ tail.count '#' = 0 ∧
      tail.count '/' = (path.toList.dropWhile isSlash).count '/') ∧
    ∀ p q, c.contentsUrl p = c.contentsUrl q ↔
      p.toList.dropWhile isSlash = q.toList.dropWhile isSlash := by
  constructor
  · intro n path
    refine ⟨encodedPath path, ?_, fun x hx => mem_encodedPath hx, segments?_encodedPath path,
      count_encodedPath path⟩
    rw [contentsUrl_eq_front, front_withSlashes]
  · intro p q
    rw [← segments_inj, contentsUrl_eq_front, contentsUrl_eq_front]
    constructor
    · intro h
      have htail : encodedPath p = encodedPath q := by
        rw [← String.toList_inj, String.toList_append, String.toList_append] at h
        simpa using h
      have hread := congrArg segments? htail
      rw [segments?_encodedPath, segments?_encodedPath] at hread
      exact Option.some.inj hread
    · intro h
      rw [encodedPath_eq, encodedPath_eq, h]

/-- Empty names, an escape that is part of a name, and slashes in front. -/
example : (⟨none, "o", "r", "main", "http://h//"⟩ : Coordinates).contentsUrl "//a%2F//b?/" =
    "http://h/repos/o/r/contents/a%252F//b%3F/" := by decide

end LuaStubs.Remote.Coordinates
