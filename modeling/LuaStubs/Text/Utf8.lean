/-! UTF-8 as lists of bytes.  `encode` writes scalar values, `decode` reads them back and names the
first byte sequence that encodes none. -/
namespace LuaStubs.Text.Utf8

/-- A continuation byte carries the low six bits of `n`. -/
def tail (n : Nat) : UInt8 := UInt8.ofNat (0x80 + n % 0x40)

def encodeChar (c : Char) : List UInt8 :=
  let n := c.toNat
  if n < 0x80 then [UInt8.ofNat n]
  else if n < 0x800 then [UInt8.ofNat (0xC0 + n / 0x40), tail n]
  else if n < 0x10000 then [UInt8.ofNat (0xE0 + n / 0x1000), tail (n / 0x40), tail n]
  else [UInt8.ofNat (0xF0 + n / 0x40000), tail (n / 0x1000), tail (n / 0x40), tail n]

def encode (cs : List Char) : List UInt8 := cs.flatMap encodeChar

/-- Where reading stops: `size` bytes that begin no character, or an end inside one. -/
inductive Fault where
  | invalid (size index : Nat)
  | truncated (index : Nat)
deriving DecidableEq, Repr

/-- What a nonempty list of bytes begins with. -/
inductive Head where
  | scalar (c : Char) (size : Nat)
  | invalid (size : Nat)
  | truncated
deriving DecidableEq, Repr

def isTail (b : UInt8) : Bool := 0x80 ≤ b.toNat && b.toNat < 0xC0

/-- The second byte narrows the range where the shortest form, the surrogates or the last plane
end. -/
def isSecond (a b : UInt8) : Bool :=
  if a.toNat = 0xE0 then 0xA0 ≤ b.toNat && b.toNat < 0xC0
  else if a.toNat = 0xED then 0x80 ≤ b.toNat && b.toNat < 0xA0
  else if a.toNat = 0xF0 then 0x90 ≤ b.toNat && b.toNat < 0xC0
  else if a.toNat = 0xF4 then 0x80 ≤ b.toNat && b.toNat < 0x90
  else isTail b

def low (b : UInt8) : Nat := b.toNat % 0x40

def head (a : UInt8) (rest : List UInt8) : Head :=
  let n := a.toNat
  if n < 0x80 then .scalar (Char.ofNat n) 1
  else if n < 0xC2 then .invalid 1
  else if n < 0xE0 then
    match rest with
    | [] => .truncated
    | b :: _ => if isTail b then .scalar (Char.ofNat (n % 0x20 * 0x40 + low b)) 2 else .invalid 1
  else if n < 0xF0 then
    match rest with
    | [] => .truncated
    | b :: rest =>
      if isSecond a b then
        match rest with
        | [] => .truncated
        | c :: _ =>
          if isTail c then .scalar (Char.ofNat (n % 0x10 * 0x1000 + low b * 0x40 + low c)) 3
          else .invalid 2
      else .invalid 1
  else if n < 0xF5 then
    match rest with
    | [] => .truncated
    | b :: rest =>
      if isSecond a b then
        match rest with
        | [] => .truncated
        | c :: rest =>
          if isTail c then
            match rest with
            | [] => .truncated
            | d :: _ =>
              if isTail d then
                .scalar (Char.ofNat
                  (n % 0x08 * 0x40000 + low b * 0x1000 + low c * 0x40 + low d)) 4
              else .invalid 3
          else .invalid 2
      else .invalid 1
  else .invalid 1

/-- Reads on from byte `index`; `skip` bytes still belong to the last character of `read`. -/
def decodeFrom (index skip : Nat) (read : List Char) : List UInt8 → Except Fault (List Char)
  | [] => .ok read.reverse
  | a :: rest =>
    match skip with
    | skip + 1 => decodeFrom (index + 1) skip read rest
    | 0 =>
      match head a rest with
      | .scalar c size => decodeFrom (index + 1) (size - 1) (c :: read) rest
      | .invalid size => .error (.invalid size index)
      | .truncated => .error (.truncated index)

def decode (bytes : List UInt8) : Except Fault (List Char) := decodeFrom 0 0 [] bytes

def Fault.message : Fault → String
  | .invalid size index => s!"invalid utf-8 sequence of {size} bytes from index {index}"
  | .truncated index => s!"incomplete utf-8 byte sequence from index {index}"

/-- The number of bytes that write `c`. -/
def width (c : Char) : Nat := (encodeChar c).length

/-- The bytes of a text, and back. -/
def bytes (s : String) : List UInt8 := encode s.toList

def text (bytes : List UInt8) : Except Fault String := (decode bytes).map String.ofList

end LuaStubs.Text.Utf8
