import VirtualRouter.Text.Reading

/-!
# Tokens of a YAML text

A text is cut into scalars and the marks of its structure. Block structure follows from the
columns in which things start. Whether a scalar or a flow collection is a key is known only at
the colon behind it, so each candidate leaves a place in the stream that is filled at the end.

Read are block and flow collections, plain and quoted scalars, comments and document marks.
-/

set_option autoImplicit false

namespace VirtualRouter.Yaml

inductive Token
  | documentStart
  | documentEnd
  | blockSequence
  | blockMapping
  | blockEnd
  | flowSequenceStart
  | flowSequenceEnd
  | flowMappingStart
  | flowMappingEnd
  | blockEntry
  | flowEntry
  | key
  | value
  | scalar (text : String) (plain : Bool)
  deriving DecidableEq

/-! ## Characters -/

def isBlank (c : Char) : Bool := c == ' ' || c == '\t'

def isBreak (c : Char) : Bool :=
  c == '\n' || c == '\r' || c.toNat == 0x85 || c.toNat == 0x2028 || c.toNat == 0x2029

def isAllowed (c : Char) : Bool :=
  let n := c.toNat
  n == 0x09 || n == 0x0a || n == 0x0d || (0x20 ≤ n && n ≤ 0x7e) || n == 0x85
    || (0xa0 ≤ n && n ≤ 0xd7ff) || (0xe000 ≤ n && n ≤ 0xfffd) || 0x10000 ≤ n

def startsGap : List Char → Bool
  | [] => true
  | c :: _ => isBlank c || isBreak c

def startsMark (mark : Char) : List Char → Bool
  | a :: b :: c :: r => a == mark && b == mark && c == mark && startsGap r
  | _ => false

/-! ## Positions -/

structure Cursor where
  rest : List Char
  index : Nat
  line : Nat
  column : Nat

namespace Cursor

def atMark (p : Cursor) : Bool :=
  p.column == 0 && (startsMark '-' p.rest || startsMark '.' p.rest)

def skip (p : Cursor) (n : Nat) : Cursor :=
  { p with rest := p.rest.drop n, index := p.index + n, column := p.column + n }

def nextLine (p : Cursor) : Cursor :=
  let n := match p.rest with
    | '\r' :: '\n' :: _ => 2
    | _ => 1
  ⟨p.rest.drop n, p.index + n, p.line + 1, 0⟩

def breakText (p : Cursor) : List Char :=
  match p.rest with
  | c :: _ => if c.toNat == 0x2028 || c.toNat == 0x2029 then [c] else ['\n']
  | [] => []

/-- Goes past the blanks, line breaks and comments before a token. Blanks that are tabs are
passed only where `tabs` is true, which a line break in block context makes false. The result
says whether a line break was passed. -/
def skipSpace (inFlow : Bool) : Nat → Bool → Bool → Cursor → Bool × Cursor
  | 0, _, broken, p => (broken, p)
  | bound + 1, tabs, broken, p =>
    let p := p.skip (p.rest.takeWhile fun c => c == ' ' || (tabs && c == '\t')).length
    let p := match p.rest with
      | '#' :: _ => p.skip (p.rest.takeWhile fun c => !isBreak c).length
      | _ => p
    match p.rest with
    | c :: _ =>
      if isBreak c then skipSpace inFlow bound inFlow true p.nextLine else (broken, p)
    | [] => (broken, p)

end Cursor

/-! ## Scalars -/

inductive Gap
  | blanks (text : List Char)
  | breaks (first others : List Char)

namespace Gap

def isBroken : Gap → Bool
  | blanks _ => false
  | breaks _ _ => true

def text : Gap → List Char
  | blanks t => t
  | breaks ['\n'] [] => [' ']
  | breaks ['\n'] others => others
  | breaks first others => first ++ others

def read (least : Nat) : Nat → Gap → Cursor → Option (Gap × Cursor)
  | 0, g, p => some (g, p)
  | bound + 1, g, p =>
    match p.rest with
    | [] => some (g, p)
    | c :: _ =>
      if isBlank c then
        match g with
        | blanks t => read least bound (blanks (t ++ [c])) (p.skip 1)
        | breaks _ _ =>
          if c == '\t' && p.column < least then none else read least bound g (p.skip 1)
      else if isBreak c then
        match g with
        | blanks _ => read least bound (breaks p.breakText []) p.nextLine
        | breaks first others =>
          read least bound (breaks first (others ++ p.breakText)) p.nextLine
      else some (g, p)

end Gap

def plainPart (inFlow : Bool) : List Char → Option (List Char)
  | [] => some []
  | c :: r =>
    if isBlank c || isBreak c then some []
    else if inFlow && c == ':' && (r.head?.any fun d => ",?[]\x7b\x7d".toList.contains d) then none
    else if c == ':' && startsGap r then some []
    else if inFlow && ",[]\x7b\x7d".toList.contains c then some []
    else (plainPart inFlow r).map (c :: ·)

def readPlain (inFlow : Bool) (least : Nat) :
    Nat → List Char → Gap → Cursor → Option (List Char × Bool × Cursor)
  | 0, _, _, _ => none
  | bound + 1, acc, gap, p =>
    if p.atMark || p.rest.head? == some '#' then some (acc, gap.isBroken, p)
    else
      match plainPart inFlow p.rest with
      | none => none
      | some part =>
        let acc' := if part.isEmpty then acc else acc ++ gap.text ++ part
        let gap' := if part.isEmpty then gap else .blanks []
        let q := p.skip part.length
        match q.rest with
        | [] => some (acc', gap'.isBroken, q)
        | c :: _ =>
          if isBlank c || isBreak c then
            match gap'.read least (q.rest.length + 1) q with
            | none => none
            | some (gap'', q') =>
              if !inFlow && q'.column < least then some (acc', gap''.isBroken, q')
              else readPlain inFlow least bound acc' gap'' q'
          else some (acc', gap'.isBroken, q)

def simpleEscape? : Char → Option Char
  | '0' => some (Char.ofNat 0)
  | 'a' => some (Char.ofNat 7)
  | 'b' => some (Char.ofNat 8)
  | 't' => some '\t'
  | '\t' => some '\t'
  | 'n' => some '\n'
  | 'v' => some (Char.ofNat 11)
  | 'f' => some (Char.ofNat 12)
  | 'r' => some '\r'
  | 'e' => some (Char.ofNat 27)
  | ' ' => some ' '
  | '"' => some '"'
  | '/' => some '/'
  | '\\' => some '\\'
  | 'N' => some (Char.ofNat 0x85)
  | '_' => some (Char.ofNat 0xa0)
  | 'L' => some (Char.ofNat 0x2028)
  | 'P' => some (Char.ofNat 0x2029)
  | _ => none

def hexEscape? : Char → Option Nat
  | 'x' => some 2
  | 'u' => some 4
  | 'U' => some 8
  | _ => none

def charOf? (n : Nat) : Option Char :=
  if n.isValidChar then some (Char.ofNat n) else none

inductive QuotedPart
  | char (c : Char) (length : Nat)
  | joined
  | stop
  | malformed

def quotedPart (double : Bool) : List Char → QuotedPart
  | [] => .stop
  | c :: r =>
    if isBlank c || isBreak c then .stop
    else if double then
      if c == '"' then .stop
      else if c == '\\' then
        match r with
        | [] => .malformed
        | e :: r' =>
          if isBreak e then .joined
          else match simpleEscape? e, hexEscape? e with
          | some d, _ => .char d 2
          | none, some n =>
            if r'.length < n then .malformed
            else match (Text.natural? 16 (r'.take n)).bind charOf? with
            | some d => .char d (2 + n)
            | none => .malformed
          | none, none => .malformed
      else .char c 1
    else
      match c, r with
      | '\x27', '\x27' :: _ => .char c 2
      | '\x27', _ => .stop
      | _, _ => .char c 1

def readQuoted (double : Bool) : Nat → List Char → Gap → Cursor → Option (List Char × Cursor)
  | 0, _, _, _ => none
  | bound + 1, acc, gap, p =>
    if p.atMark then none
    else match quotedPart double p.rest with
    | .malformed => none
    | .char c n => readQuoted double bound (acc ++ gap.text ++ [c]) (.blanks []) (p.skip n)
    | .joined => readSpace bound (acc ++ gap.text) (.breaks [] []) (p.skip 1).nextLine
    | .stop =>
      match p.rest with
      | [] => none
      | c :: _ =>
        if isBlank c || isBreak c then readSpace bound (acc ++ gap.text) (.blanks []) p
        else some (acc ++ gap.text, p.skip 1)
where
  readSpace (bound : Nat) (acc : List Char) (gap : Gap) (p : Cursor) :
      Option (List Char × Cursor) :=
    match gap.read 0 (p.rest.length + 1) p with
    | none => none
    | some (gap, p) => readQuoted double bound acc gap p

end VirtualRouter.Yaml
