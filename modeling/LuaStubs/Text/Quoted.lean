import LuaStubs.Text.Printable

/-! Text between double quotes, as messages and log fields show it: the quote, the backslash and
every character without a glyph are escaped. -/
namespace LuaStubs.Text.Quoted

/-- Lower-case hexadecimal digits, at least one. -/
def hex (n : Nat) : List Char := (Nat.toDigits 16 n)

def escape (c : Char) : List Char :=
  if c = '"' then ['\\', '"']
  else if c = '\\' then ['\\', '\\']
  else if c = '\n' then ['\\', 'n']
  else if c = '\r' then ['\\', 'r']
  else if c = '\t' then ['\\', 't']
  else if c.toNat = 0 then ['\\', '0']
  else if Printable.isPrintable c then [c]
  else ['\\', 'u', '\x7b'] ++ hex c.toNat ++ ['\x7d']

def quote (s : String) : String := String.ofList ('"' :: s.toList.flatMap escape ++ ['"'])

end LuaStubs.Text.Quoted
