/-! Sets of characters as ranges of their numbers, first and last included. -/
namespace LuaStubs.Text

def within (ranges : Array (Nat × Nat)) (n : Nat) : Bool :=
  ranges.any (fun r => r.1 ≤ n && n ≤ r.2)

end LuaStubs.Text
