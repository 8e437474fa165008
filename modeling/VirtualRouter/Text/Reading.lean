/-!
# Reading text

Splitting text at a separator, reading unsigned decimal numbers, and taking text from octets in
UTF-8, exactly or with a replacement character for each part that is malformed.
-/

set_option autoImplicit false

namespace VirtualRouter.Text

def fields (sep : Char) : List Char → List (List Char)
  | [] => [[]]
  | c :: r =>
    if c = sep then [] :: fields sep r
    else match fields sep r with
      | [] => [[c]]
      | f :: fs => (c :: f) :: fs

def digit? (base : Nat) (c : Char) : Option Nat :=
  let v :=
    if '0' ≤ c ∧ c ≤ '9' then some (c.toNat - '0'.toNat)
    else if 'a' ≤ c ∧ c ≤ 'f' then some (c.toNat - 'a'.toNat + 10)
    else if 'A' ≤ c ∧ c ≤ 'F' then some (c.toNat - 'A'.toNat + 10)
    else none
  v.filter (· < base)

def digits? (base : Nat) : Nat → List Char → Option Nat
  | acc, [] => some acc
  | acc, c :: r => (digit? base c).bind fun d => digits? base (base * acc + d) r

def natural? (base : Nat) (cs : List Char) : Option Nat :=
  if cs.isEmpty then none else digits? base 0 cs

def hasLeadingZero : List Char → Bool
  | c :: _ :: _ => c == '0'
  | _ => false

/-- The number of octets that follow a first octet, and the range of the second one, which
leaves out overlong forms, surrogates and numbers that are too large. -/
def following? (b : UInt8) : Option (Nat × UInt8 × UInt8) :=
  if 0xc2 ≤ b && b ≤ 0xdf then some (1, 0x80, 0xbf)
  else if b == 0xe0 then some (2, 0xa0, 0xbf)
  else if b == 0xed then some (2, 0x80, 0x9f)
  else if 0xe1 ≤ b && b ≤ 0xef then some (2, 0x80, 0xbf)
  else if b == 0xf0 then some (3, 0x90, 0xbf)
  else if 0xf1 ≤ b && b ≤ 0xf3 then some (3, 0x80, 0xbf)
  else if b == 0xf4 then some (3, 0x80, 0x8f)
  else none

def continuation (n : Nat) (low high : UInt8) : List UInt8 → List UInt8
  | [] => []
  | b :: r =>
    match n with
    | 0 => []
    | n + 1 => if low ≤ b && b ≤ high then b :: continuation n 0x80 0xbf r else []

def leadingBits (n : Nat) (b : UInt8) : Nat :=
  if n = 1 then b.toNat % 32 else if n = 2 then b.toNat % 16 else b.toNat % 8

def firstChar (b : UInt8) (r : List UInt8) : Option Char × Nat :=
  if b < 0x80 then (some (Char.ofNat b.toNat), 1)
  else match following? b with
  | none => (none, 1)
  | some (n, low, high) =>
    let more := continuation n low high r
    if more.length = n then
      (some (Char.ofNat (more.foldl (fun v c => 64 * v + c.toNat % 64) (leadingBits n b))), n + 1)
    else (none, more.length + 1)

def decodeParts : Nat → List UInt8 → List (Option Char)
  | 0, _ => []
  | _ + 1, [] => []
  | bound + 1, b :: r => (firstChar b r).1 :: decodeParts bound (r.drop ((firstChar b r).2 - 1))

def ofUtf8? (d : List UInt8) : Option String :=
  let parts := decodeParts d.length d
  if parts.all Option.isSome then some (String.ofList (parts.filterMap id)) else none

def ofUtf8Lossy (d : List UInt8) : String :=
  String.ofList ((decodeParts d.length d).map (·.getD (Char.ofNat 0xfffd)))

def toUtf8 (s : String) : List UInt8 := s.toUTF8.toList

end VirtualRouter.Text
