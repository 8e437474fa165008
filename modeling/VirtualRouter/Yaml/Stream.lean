import VirtualRouter.Yaml.Token

/-!
# The token stream of a YAML text

Blocks open where a key or an entry starts further to the right than the block around it, and
close where something starts further to the left.
-/

set_option autoImplicit false

namespace VirtualRouter.Yaml

inductive Item
  | token (t : Token)
  | place (number : Nat)

structure FoundKey where
  place : Nat
  opensBlock : Bool

structure Candidate where
  place : Nat
  required : Bool
  index : Nat
  line : Nat
  column : Nat

structure Scanner where
  cursor : Cursor
  columns : List Nat
  /-- The candidates, one for each open flow collection and one for the block around them,
  the innermost first. -/
  candidates : List (Option Candidate)
  keyAllowed : Bool
  items : List Item
  found : List FoundKey
  places : Nat

namespace Scanner

def start (text : List Char) : Scanner :=
  ⟨⟨text, 0, 0, 0⟩, [], [none], true, [], [], 0⟩

def inFlow (s : Scanner) : Bool := 1 < s.candidates.length

def leastColumn (s : Scanner) : Nat :=
  match s.columns with
  | [] => 0
  | c :: _ => c + 1

def emit (s : Scanner) (t : Token) : Scanner := { s with items := .token t :: s.items }

def skip (s : Scanner) (n : Nat) : Scanner := { s with cursor := s.cursor.skip n }

def allowKey (s : Scanner) (b : Bool) : Scanner := { s with keyAllowed := b }

def candidate? (s : Scanner) : Option Candidate := s.candidates.head?.join

def setCandidate (s : Scanner) (c : Option Candidate) : Scanner :=
  { s with candidates := c :: s.candidates.tail }

def dropCandidate (s : Scanner) : Option Scanner :=
  match s.candidate? with
  | some c => if c.required then none else some (s.setCandidate none)
  | none => some (s.setCandidate none)

def isFresh (s : Scanner) (c : Candidate) : Bool :=
  c.line == s.cursor.line && s.cursor.index ≤ c.index + 1024

def dropStale (s : Scanner) : Option Scanner :=
  if s.candidates.any fun c => c.any fun c => c.required && !s.isFresh c then none
  else some { s with candidates := s.candidates.map (·.filter s.isFresh) }

def saveCandidate (s : Scanner) : Option Scanner :=
  if s.keyAllowed then do
    let required := !s.inFlow && s.columns.head? == some s.cursor.column
    let s ← s.dropCandidate
    let c : Candidate := ⟨s.places, required, s.cursor.index, s.cursor.line, s.cursor.column⟩
    return { (s.setCandidate (some c)) with
      items := .place s.places :: s.items, places := s.places + 1 }
  else some s

def opensAt (s : Scanner) (column : Nat) : Bool := !s.inFlow && s.leastColumn ≤ column

def pushColumn (s : Scanner) (column : Nat) : Scanner :=
  if s.opensAt column then { s with columns := column :: s.columns } else s

def openBlock (s : Scanner) (t : Token) : Scanner :=
  if s.opensAt s.cursor.column then (s.pushColumn s.cursor.column).emit t else s

def closeBlocks (s : Scanner) : Nat → Scanner
  | 0 => s
  | n + 1 => closeBlocks { (s.emit .blockEnd) with columns := s.columns.tail } n

def closeBehind (s : Scanner) (column : Nat) : Scanner :=
  if s.inFlow then s else s.closeBlocks (s.columns.takeWhile fun c => column < c).length

def closeAll (s : Scanner) : Scanner := if s.inFlow then s else s.closeBlocks s.columns.length

def documentMark (s : Scanner) (t : Token) : Option Scanner := do
  let s ← s.closeAll.dropCandidate
  return ((s.allowKey false).skip 3).emit t

def flowStart (s : Scanner) (t : Token) : Option Scanner := do
  let s ← s.saveCandidate
  let s := { s with candidates := none :: s.candidates }
  return ((s.allowKey true).skip 1).emit t

def flowEnd (s : Scanner) (t : Token) : Option Scanner := do
  let s ← s.dropCandidate
  let s := if s.inFlow then { s with candidates := s.candidates.tail } else s
  return ((s.allowKey false).skip 1).emit t

def flowEntry (s : Scanner) : Option Scanner := do
  let s ← s.dropCandidate
  return ((s.allowKey true).skip 1).emit .flowEntry

def blockEntry (s : Scanner) : Option Scanner := do
  if !s.inFlow && !s.keyAllowed then none
  else
    let s ← (s.openBlock .blockSequence).dropCandidate
    return ((s.allowKey true).skip 1).emit .blockEntry

def explicitKey (s : Scanner) : Option Scanner := do
  if !s.inFlow && !s.keyAllowed then none
  else
    let s ← (s.openBlock .blockMapping).dropCandidate
    return ((s.allowKey !s.inFlow).skip 1).emit .key

def value (s : Scanner) : Option Scanner :=
  match s.candidate? with
  | some c =>
    let opens := s.opensAt c.column
    let s := { (s.pushColumn c.column) with found := ⟨c.place, opens⟩ :: s.found }
    some ((((s.setCandidate none).allowKey false).skip 1).emit .value)
  | none =>
    if !s.inFlow && !s.keyAllowed then none
    else
      let s := s.openBlock .blockMapping
      some (((s.allowKey !s.inFlow).skip 1).emit .value)

def quoted (s : Scanner) (double : Bool) : Option Scanner := do
  let s ← s.saveCandidate
  let p := s.cursor.skip 1
  let (text, p) ← readQuoted double (p.rest.length + 1) [] (.blanks []) p
  return ({ s with cursor := p }.allowKey false).emit (.scalar (String.ofList text) false)

def plain (s : Scanner) : Option Scanner := do
  let s ← s.saveCandidate
  let (text, broken, p) ←
    readPlain s.inFlow s.leastColumn (s.cursor.rest.length + 1) [] (.blanks []) s.cursor
  return ({ s with cursor := p }.allowKey broken).emit (.scalar (String.ofList text) true)

def indicators : List Char := "-?:,[]\x7b\x7d#&*!|>\x27\"%@\x60".toList

def startsPlain (inFlow : Bool) (c : Char) (r : List Char) : Bool :=
  !indicators.contains c || (c == '-' && !(r.head?.any isBlank))
    || (!inFlow && (c == '?' || c == ':') && !startsGap r)

def token (s : Scanner) (c : Char) (r : List Char) : Option Scanner :=
  if s.cursor.column == 0 && startsMark '-' (c :: r) then s.documentMark .documentStart
  else if s.cursor.column == 0 && startsMark '.' (c :: r) then s.documentMark .documentEnd
  else if c == '[' then s.flowStart .flowSequenceStart
  else if c == '\x7b' then s.flowStart .flowMappingStart
  else if c == ']' then s.flowEnd .flowSequenceEnd
  else if c == '\x7d' then s.flowEnd .flowMappingEnd
  else if c == ',' then s.flowEntry
  else if c == '-' && startsGap r then s.blockEntry
  else if c == '?' && startsGap r then s.explicitKey
  else if c == ':' && (s.inFlow || startsGap r) then s.value
  else if c == '\x27' then s.quoted false
  else if c == '"' then s.quoted true
  else if !isBlank c && !isBreak c && startsPlain s.inFlow c r then s.plain
  else none

def run : Nat → Scanner → Option Scanner
  | 0, _ => none
  | bound + 1, s => do
    let (broken, p) := Cursor.skipSpace s.inFlow (s.cursor.rest.length + 1)
      (s.inFlow || !s.keyAllowed) false s.cursor
    let s := { s with cursor := p, keyAllowed := s.keyAllowed || (broken && !s.inFlow) }
    let s ← s.dropStale
    match p.rest with
    | [] => s.closeAll.dropCandidate
    | c :: r =>
      let s ← (s.closeBehind p.column).token c r
      run bound s

def tokensOf (found : List FoundKey) : Item → List Token
  | .token t => [t]
  | .place n =>
    match found.find? (·.place == n) with
    | some f => if f.opensBlock then [.blockMapping, .key] else [.key]
    | none => []

def tokens (s : Scanner) : List Token := s.items.reverse.flatMap (tokensOf s.found)

end Scanner

def Token.scan? (text : List Char) : Option (List Token) :=
  let text := match text with
    | c :: r => if c.toNat == 0xfeff then r else text
    | [] => []
  if text.all isAllowed then (Scanner.run (text.length + 1) (.start text)).map (·.tokens) else none

end VirtualRouter.Yaml
