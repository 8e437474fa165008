import VirtualRouter.Yaml.Stream

/-!
# YAML documents

The tree that the tokens of a text describe. A text holds at most one document; without any,
the document is an empty plain scalar.
-/

set_option autoImplicit false

namespace VirtualRouter.Yaml

inductive Value
  | scalar (text : String) (plain : Bool)
  | sequence (items : List Value)
  | mapping (entries : List (Value × Value))

namespace Value

def empty : Value := scalar "" true

mutual

/-- Reads one value. In block context the entries of a sequence may follow a key without a
block of their own. -/
def read : Nat → (block entries : Bool) → List Token → Option (Value × List Token)
  | 0, _, _, _ => none
  | n + 1, block, entries, ts =>
    match ts with
    | .scalar t p :: r => some (scalar t p, r)
    | .flowSequenceStart :: r => (readFlowItems n true r).map fun x => (sequence x.1, x.2)
    | .flowMappingStart :: r => (readFlowEntries n true r).map fun x => (mapping x.1, x.2)
    | .blockSequence :: r =>
      if block then (readBlockItems n r).map fun x => (sequence x.1, x.2) else none
    | .blockMapping :: r =>
      if block then (readBlockEntries n r).map fun x => (mapping x.1, x.2) else none
    | .blockEntry :: _ =>
      if entries then (readBareItems n ts).map fun x => (sequence x.1, x.2) else none
    | _ => none

def readBlockItems : Nat → List Token → Option (List Value × List Token)
  | 0, _ => none
  | n + 1, .blockEntry :: r => do
    let (x, r) ← match r with
      | .blockEntry :: _ | .blockEnd :: _ => some (empty, r)
      | _ => read n true false r
    let (xs, r) ← readBlockItems n r
    return (x :: xs, r)
  | _ + 1, .blockEnd :: r => some ([], r)
  | _ + 1, _ => none

def readBareItems : Nat → List Token → Option (List Value × List Token)
  | 0, _ => none
  | n + 1, .blockEntry :: r => do
    let (x, r) ← match r with
      | .blockEntry :: _ | .blockEnd :: _ | .key :: _ | .value :: _ => some (empty, r)
      | _ => read n true false r
    let (xs, r) ← readBareItems n r
    return (x :: xs, r)
  | _ + 1, r => some ([], r)

def readBlockEntries : Nat → List Token →
    Option (List (Value × Value) × List Token)
  | 0, _ => none
  | n + 1, .key :: r => do
    let (k, r) ← readBlockPart n r
    let (v, r) ← readBlockValue n r
    let (es, r) ← readBlockEntries n r
    return ((k, v) :: es, r)
  | _ + 1, .blockEnd :: r => some ([], r)
  | _ + 1, _ => none

def readBlockValue : Nat → List Token → Option (Value × List Token)
  | 0, _ => none
  | n + 1, .value :: r => readBlockPart n r
  | _ + 1, r => some (empty, r)

def readBlockPart : Nat → List Token → Option (Value × List Token)
  | 0, _ => none
  | n + 1, ts =>
    match ts with
    | .key :: _ | .value :: _ | .blockEnd :: _ => some (empty, ts)
    | _ => read n true true ts

def readFlowItems : Nat → Bool → List Token → Option (List Value × List Token)
  | 0, _, _ => none
  | _ + 1, _, .flowSequenceEnd :: r => some ([], r)
  | n + 1, first, ts => do
    let ts ← if first then some ts else match ts with
      | .flowEntry :: r => some r
      | _ => none
    match ts with
    | .flowSequenceEnd :: r => some ([], r)
    | .key :: r =>
      let (k, r) ← readFlowPart n r
      let (v, r) ← readFlowValue n r
      let (xs, r) ← readFlowItems n false r
      return (mapping [(k, v)] :: xs, r)
    | _ =>
      let (x, r) ← read n false false ts
      let (xs, r) ← readFlowItems n false r
      return (x :: xs, r)

def readFlowEntries : Nat → Bool → List Token →
    Option (List (Value × Value) × List Token)
  | 0, _, _ => none
  | _ + 1, _, .flowMappingEnd :: r => some ([], r)
  | n + 1, first, ts => do
    let ts ← if first then some ts else match ts with
      | .flowEntry :: r => some r
      | _ => none
    match ts with
    | .flowMappingEnd :: r => some ([], r)
    | .key :: r =>
      let (k, r) ← readFlowPart n r
      let (v, r) ← readFlowValue n r
      let (es, r) ← readFlowEntries n false r
      return ((k, v) :: es, r)
    | _ =>
      let (k, r) ← read n false false ts
      let (es, r) ← readFlowEntries n false r
      return ((k, empty) :: es, r)

def readFlowValue : Nat → List Token → Option (Value × List Token)
  | 0, _ => none
  | n + 1, .value :: r => readFlowPart n r
  | _ + 1, r => some (empty, r)

def readFlowPart : Nat → List Token → Option (Value × List Token)
  | 0, _ => none
  | n + 1, ts =>
    match ts with
    | .value :: _ | .flowEntry :: _ | .flowSequenceEnd :: _ | .flowMappingEnd :: _ =>
      some (empty, ts)
    | _ => read n false false ts

end

def readMarked (ts : List Token) : Option (Value × List Token) :=
  match ts with
  | [] | .documentStart :: _ | .documentEnd :: _ => some (empty, ts)
  | _ => read (4 * ts.length + 4) true false ts

def ofTokens? (ts : List Token) : Option Value :=
  let content := match ts with
    | [] => some (empty, [])
    | .documentStart :: r => readMarked r
    | _ => read (4 * ts.length + 4) true false ts
  match content with
  | some (x, r) => if r.all (· == .documentEnd) then some x else none
  | none => none

def ofText? (s : String) : Option Value := (Token.scan? s.toList).bind ofTokens?

end Value
end VirtualRouter.Yaml
