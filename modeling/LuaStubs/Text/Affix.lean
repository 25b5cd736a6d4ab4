/-! Beginnings and ends of texts, characters cut off at either end, and texts cut in pieces. -/
namespace LuaStubs.Text

def begins (head s : String) : Bool := head.toList.isPrefixOf s.toList

def ends (tail s : String) : Bool := tail.toList.isSuffixOf s.toList

theorem begins_iff {head s : String} : begins head s = true ↔ head.toList <+: s.toList :=
  List.isPrefixOf_iff_prefix

theorem ends_iff {tail s : String} : ends tail s = true ↔ tail.toList <:+ s.toList :=
  List.isSuffixOf_iff_suffix

/-- Without the characters of that kind at the end. -/
def dropEnd (p : Char → Bool) (cs : List Char) : List Char := (cs.reverse.dropWhile p).reverse

/-- Without the characters of that kind at either end. -/
def trim (p : Char → Bool) (cs : List Char) : List Char := dropEnd p (cs.dropWhile p)

/-- The pieces between the characters of that kind; one more than there are such characters. -/
def split (p : Char → Bool) : List Char → List (List Char)
  | [] => [[]]
  | c :: cs =>
    if p c then [] :: split p cs
    else
      match split p cs with
      | [] => [[c]]
      | piece :: pieces => (c :: piece) :: pieces

theorem split_ne_nil (p : Char → Bool) (cs : List Char) : split p cs ≠ [] := by
  cases cs with
  | nil => simp [split]
  | cons c cs =>
    by_cases h : p c
    · simp [split, h]
    · cases hs : split p cs <;> simp [split, h, hs]

/-- The characters before byte `n`, and those from there on. -/
def splitBytes (n : Nat) : List Char → List Char × List Char
  | [] => ([], [])
  | c :: cs =>
    if n = 0 then ([], c :: cs)
    else
      let halves := splitBytes (n - c.utf8Size) cs
      (c :: halves.1, halves.2)

end LuaStubs.Text
