import VirtualRouter.Proofs.DumpWalk

/-!
# Reading dumps within their bounds

The readers of dumps and of routes once more, over lookups and slices that give nothing beyond an
end, over numbers that give nothing where a word does not hold them, and with a bound on the
rounds of each loop. Whatever the octets are, they give what the readers give, unless an error
message carries the one code that has no negative.
-/

set_option autoImplicit false

namespace VirtualRouter

namespace Octets

def littleAt? (d : Octets) (i : Nat) : Option UInt16 := do
  return word16 (← d[i + 1]?) (← d[i]?)

def doubleAt? (d : Octets) (i : Nat) : Option UInt32 := do
  return word32 (← d[i + 3]?) (← d[i + 2]?) (← d[i + 1]?) (← d[i]?)

def beyond? (d : Octets) (length : Nat) : Option Octets :=
  if length + 3 < 2 ^ 64 then d.slice? (min (Route.align4 length) d.length) d.length else none

theorem littleAt?_eq_some {d : Octets} {i : Nat} (inside : i + 1 < d.length) :
    d.littleAt? i = some (d.littleAt i) := by
  simp [littleAt?, littleAt, getElem?_eq_byteAt inside,
    getElem?_eq_byteAt (Nat.lt_of_succ_lt inside)]

theorem doubleAt?_eq_some {d : Octets} {i : Nat} (inside : i + 3 < d.length) :
    d.doubleAt? i = some (d.doubleAt i) := by
  simp [doubleAt?, doubleAt, getElem?_eq_byteAt inside,
    getElem?_eq_byteAt (show i + 2 < d.length by omega),
    getElem?_eq_byteAt (show i + 1 < d.length by omega),
    getElem?_eq_byteAt (show i < d.length by omega)]

theorem beyond?_eq_some (d : Octets) {length : Nat} (word : length < 2 ^ 32) :
    d.beyond? length = some (d.drop (Route.align4 length)) := by
  rw [beyond?, if_pos (by omega), slice?_eq_some (Nat.min_le_right _ _) (Nat.le_refl _),
    List.take_length]
  congr 1
  by_cases padded : Route.align4 length ≤ d.length
  · rw [Nat.min_eq_left padded]
  · rw [Nat.min_eq_right (by omega), List.drop_eq_nil_of_le (by omega),
      List.drop_eq_nil_of_le (by omega)]

end Octets

namespace Route

def readAttributes? : Nat → Route → Octets → Option (Except NetlinkFault Route)
  | 0, _, _ => none
  | rounds + 1, r, d =>
    if d.length < 4 then return .ok r
    else do
      let length := (← d.littleAt? 0).toNat
      let kind ← d.littleAt? 2
      if length < 4 ∨ d.length < length then
        return .error (.malformedAttribute kind.toNat length)
      else
        let value ← d.slice? 4 length
        readAttributes? rounds (r.withAttribute kind value) (← d.beyond? length)

def parse? (d : Octets) : Option (Except NetlinkFault Route) :=
  if d.length < 12 then return .error (.shortRoute d.length)
  else do
    readAttributes? (d.length / 4) {
      family := ← d[0]?
      dstLen := ← d[1]?
      srcLen := ← d[2]?
      tos := ← d[3]?
      table := ← d[4]?
      protocol := ← d[5]?
      scope := ← d[6]?
      kind := ← d[7]?
      flags := ← d.doubleAt? 8
      dst := none
      src := none
      prefSrc := none
      gateway := none
      oif := 0
      iif := none
      priority := none
      flow := none
      metrics := none } (← d.slice? 12 d.length)

theorem readAttributes?_eq_some {rounds : Nat} (r : Route) {d : Octets}
    (enough : d.length / 4 < rounds) :
    readAttributes? rounds r d = some (readAttributes r d) := by
  induction rounds generalizing r d with
  | zero => omega
  | succ rounds ih =>
    rw [readAttributes?, readAttributes.eq_def]
    by_cases short : d.length < 4
    · rw [if_pos short, if_pos short]
      rfl
    · rw [if_neg short, if_neg short, Octets.littleAt?_eq_some (by omega),
        Octets.littleAt?_eq_some (by omega)]
      simp only [Option.bind_eq_bind, Option.bind_some]
      by_cases outside : (d.littleAt 0).toNat < 4 ∨ d.length < (d.littleAt 0).toNat
      · rw [if_pos outside, if_pos outside]
        rfl
      · have word := (d.littleAt 0).toNat_lt
        rw [if_neg outside, if_neg outside, Octets.slice?_eq_some (by omega) (by omega),
          Octets.beyond?_eq_some d (by omega)]
        refine ih _ ?_
        rw [List.length_drop, align4]
        omega

theorem parse?_eq_some (d : Octets) : parse? d = some (parse d) := by
  unfold parse? parse
  by_cases short : d.length < 12
  · rw [if_pos short, if_pos short]
    rfl
  · have inside {i : Nat} (low : i < 8) : d[i]? = some (d.byteAt i) :=
      Octets.getElem?_eq_byteAt (by omega)
    rw [if_neg short, if_neg short]
    simp only [inside (show 0 < 8 by omega), inside (show 1 < 8 by omega),
      inside (show 2 < 8 by omega), inside (show 3 < 8 by omega), inside (show 4 < 8 by omega),
      inside (show 5 < 8 by omega), inside (show 6 < 8 by omega), inside (show 7 < 8 by omega),
      Octets.doubleAt?_eq_some (show 8 + 3 < d.length by omega),
      Octets.slice?_eq_some (Nat.not_lt.mp short) (Nat.le_refl _), Option.bind_eq_bind,
      Option.bind_some, List.take_length]
    exact readAttributes?_eq_some _ (by rw [List.length_drop]; omega)

end Route

namespace DumpChunk
open RouteMessage

def negated? (code : Int) : Option Int := if code = -2147483648 then none else some (-code)

def readFrom? : Nat → DumpChunk → Octets → Option (Except NetlinkFault DumpChunk)
  | 0, _, _ => none
  | rounds + 1, c, d =>
    if d.length < headerLength then return .ok c
    else do
      let length := (← d.doubleAt? 0).toNat
      let kind ← d.littleAt? 4
      if length < headerLength ∨ d.length < length then
        return .error (.malformedMessage length)
      else
        let body ← d.slice? headerLength length
        if kind = doneKind then return .ok { c with done := true }
        else if kind = errorKind then
          return .error (.dumpRefused (← negated? (errorCode body)))
        else if kind = newRouteKind then
          match ← Route.parse? body with
          | .error e => return .error e
          | .ok r => readFrom? rounds (c.keep r) (← d.beyond? length)
        else readFrom? rounds c (← d.beyond? length)

structure Unnegatable (m : Octets) : Prop where
  whole : messageFraming.Whole m
  error : kind m = errorKind
  code : errorCode (bodyOf m) = -2147483648

instance (m : Octets) : Decidable (Unnegatable m) :=
  decidable_of_iff (messageFraming.Whole m ∧ kind m = errorKind ∧
    errorCode (bodyOf m) = -2147483648)
    ⟨fun ⟨whole, error, code⟩ => ⟨whole, error, code⟩,
      fun ⟨whole, error, code⟩ => ⟨whole, error, code⟩⟩

/-- The first message on the way that is an end mark or irregular does not carry the code that
has no negative. -/
def Negatable (d : Octets) : Prop :=
  ¬FirstIs Unnegatable (fun m => kind m = doneKind ∨ Irregular m) (messageFraming.starts d)

theorem Negatable.front {d : Octets} (some : ¬d.length < headerLength)
    (whole : messageFraming.Whole d) (codes : Negatable d) : ¬Unnegatable d := by
  rw [Negatable, Framing.starts_of_whole some whole, firstIs_cons_iff] at codes
  exact (not_or.mp codes).1

theorem Negatable.behind {d : Octets} (some : ¬d.length < headerLength)
    (whole : messageFraming.Whole d) {g : DumpChunk → DumpChunk}
    (passed : dumpEffect (messageFraming.front d) = .passes g) (codes : Negatable d) :
    Negatable (messageFraming.behind d) := by
  have other : kind d ≠ doneKind := by
    refine mt (ends_iff whole).mpr ?_
    rintro ⟨g', ended⟩
    cases passed.symm.trans ended
  have regular : ¬Irregular d := by
    rw [← fails_iff]
    rintro (broken | ⟨e, failed⟩)
    · exact broken whole
    · cases passed.symm.trans failed
  rw [Negatable, Framing.starts_of_whole some whole, firstIs_cons_iff] at codes
  exact fun first => codes (.inr ⟨not_or.mpr ⟨other, regular⟩, first⟩)

theorem readFrom?_of_broken (rounds : Nat) (c : DumpChunk) {d : Octets}
    (some : ¬d.length < headerLength) (broken : ¬messageFraming.Whole d) :
    readFrom? (rounds + 1) c d = .some (.error (malformedMessage d)) := by
  have long : 16 ≤ d.length := Nat.not_lt.mp some
  rw [readFrom?, if_neg some, Octets.doubleAt?_eq_some (by omega),
    Octets.littleAt?_eq_some (by omega)]
  simp only [Option.bind_eq_bind, Option.bind_some]
  rw [if_pos]
  · rfl
  · by_contra inside
    exact broken ⟨Nat.not_lt.mp (not_or.mp inside).1, Nat.not_lt.mp (not_or.mp inside).2⟩

/-- Nothing that is looked up in a whole message is beyond its end. -/
theorem readFrom?_of_whole (rounds : Nat) (c : DumpChunk) {d : Octets}
    (some : ¬d.length < headerLength) (whole : messageFraming.Whole d)
    (negatable : ¬Unnegatable d) :
    readFrom? (rounds + 1) c d =
      match dumpEffect (messageFraming.front d) with
      | .fails e => .some (.error e)
      | .ends g => .some (.ok (g c))
      | .passes g => readFrom? rounds (g c) (messageFraming.behind d) := by
  have long : 16 ≤ d.length := Nat.not_lt.mp some
  have header : headerLength ≤ (d.doubleAt 0).toNat := whole.1
  have inside : (d.doubleAt 0).toNat ≤ d.length := whole.2
  rw [readFrom?, if_neg some, Octets.doubleAt?_eq_some (by omega),
    Octets.littleAt?_eq_some (by omega)]
  simp only [Option.bind_eq_bind, Option.bind_some]
  rw [if_neg (by omega), Octets.slice?_eq_some header inside,
    Octets.beyond?_eq_some d (UInt32.toNat_lt _), effect_front whole]
  simp only [Option.bind_some, Route.parse?_eq_some]
  change (if kind d = doneKind then _ else if kind d = errorKind then _
    else if kind d = newRouteKind then _ else _) = _
  by_cases done : kind d = doneKind
  · rw [if_pos done, if_pos done]
    rfl
  · rw [if_neg done, if_neg done]
    by_cases error : kind d = errorKind
    · have negated : negated? (errorCode (bodyOf d)) = .some (-errorCode (bodyOf d)) :=
        if_neg fun code => negatable ⟨whole, error, code⟩
      rw [if_pos error, if_pos error]
      change (negated? (errorCode (bodyOf d))).bind _ = _
      rw [negated]
      rfl
    · rw [if_neg error, if_neg error]
      by_cases route : kind d = newRouteKind
      · rw [if_pos route, if_pos route]
        change (match Route.parse (bodyOf d) with | .error e => _ | .ok r => _) = _
        cases Route.parse (bodyOf d) <;> rfl
      · rw [if_neg route, if_neg route]
        rfl

theorem readFrom?_eq_some {rounds : Nat} (c : DumpChunk) {d : Octets}
    (enough : d.length / 16 < rounds) (codes : Negatable d) :
    readFrom? rounds c d = some (readFrom c d) := by
  obtain ⟨rounds, rfl⟩ := Nat.exists_eq_add_one.mpr (Nat.zero_lt_of_lt enough)
  rw [readFrom_eq_run]
  fun_induction Framing.run messageFraming malformedMessage dumpEffect c d generalizing rounds with
  | case1 c d short =>
    rw [readFrom?]
    exact if_pos short
  | case2 c d some whole e failed =>
    rw [readFrom?_of_whole _ c some whole (codes.front some whole), failed]
  | case3 c d some whole g ended =>
    rw [readFrom?_of_whole _ c some whole (codes.front some whole), ended]
  | case4 c d some whole g passed ih =>
    rw [readFrom?_of_whole _ c some whole (codes.front some whole), passed]
    -- a whole message takes a header off at least, so that a round is left for the rest
    have less : (messageFraming.behind d).length / 16 < rounds := by
      have header : 16 ≤ messageFraming.size d := whole.1
      have long : 16 ≤ d.length := Nat.not_lt.mp some
      rw [Framing.behind, List.length_drop, Route.align4]
      omega
    obtain ⟨rounds, rfl⟩ := Nat.exists_eq_add_one.mpr (Nat.zero_lt_of_lt less)
    exact ih (codes.behind some whole passed) rounds less
  | case5 c d some broken => exact readFrom?_of_broken _ c some broken

/-- Reading a dump ends, and never asks for an octet beyond an end or for the negative of a number
that has none. Every step of the walk along the messages, and along the attributes of a route,
leaves less. The dump is refused exactly when the first message on the way that is an end mark or
irregular is irregular, and less than a header at the end is ignored in dumps and in routes. -/
theorem reading_stays_inside (d : Octets) (codes : Negatable d) :
    (∀ rounds, d.length / 16 < rounds → readFrom? rounds empty d = some (read d)) ∧
    (∀ b, Route.parse? b = some (Route.parse b)) ∧
    (messageFraming.starts d).Pairwise (fun a b => b.length < a.length) ∧
    (∀ b, (Route.attributeFraming.starts b).Pairwise fun a b => b.length < a.length) ∧
    ((∃ e, read d = .error e) ↔
      FirstIs Irregular (kind · = doneKind) (messageFraming.starts d)) ∧
    (∀ e, d = e ++ messageFraming.leftover d → (messageFraming.leftover d).length < 16 →
      read d = read e) ∧
    ∀ r b e, b = e ++ Route.attributeFraming.leftover b →
      (Route.attributeFraming.leftover b).length < 4 →
      Route.readAttributes r b = Route.readAttributes r e := by
  refine ⟨fun rounds enough => readFrom?_eq_some empty enough codes, Route.parse?_eq_some,
    Framing.starts_shorten _ d, Framing.starts_shorten _, ?_, fun e split short => ?_,
    fun r b e split short => ?_⟩
  · rw [read, readFrom_eq_run, Framing.run_error_iff]
    refine firstIs_congr fun m reached => ⟨fails_iff m, fun regular => ends_iff ?_⟩
    by_contra broken
    exact regular (.inl broken)
  · rw [read, read, readFrom_eq_run, readFrom_eq_run]
    exact Framing.run_before_leftover _ _ _ empty split short
  · rw [Route.readAttributes_eq_run, Route.readAttributes_eq_run]
    exact Framing.run_before_leftover _ _ _ r split short

/-- Behind a padded message of no interest stands an error message, and behind that one what
claims to be longer than any text. -/
theorem error_message_refuses_dump :
    let claiming : Octets := List.replicate 20 0xff
    let refusal := encode errorKind 0 42 [0xff, 0xff, 0xff, 0xff] ++ claiming
    let d := encode 16 2 42 [1, 2] ++ [0, 0] ++ refusal
    Negatable d ∧ readFrom? 6 empty d = some (read d) ∧ ∃ e, read d = .error e := by
  intro claiming refusal d
  have reached : messageFraming.starts d = [d, refusal, claiming] := by
    rw [Framing.starts_of_whole (by decide +kernel) (by decide +kernel),
      show messageFraming.behind d = refusal by decide +kernel,
      Framing.starts_of_whole (by decide +kernel) (by decide +kernel),
      show messageFraming.behind refusal = claiming by decide +kernel,
      Framing.starts, if_neg (by decide +kernel), if_neg (by decide +kernel)]
  have codes : Negatable d := by
    rw [Negatable, reached, firstIs_cons_iff, firstIs_cons_iff]
    rintro (here | ⟨-, here | ⟨other, -⟩⟩)
    · exact absurd here (by decide +kernel)
    · exact absurd here (by decide +kernel)
    · exact other (.inr (.error (by decide +kernel)))
  obtain ⟨inside, -, -, -, refused, -⟩ := reading_stays_inside d codes
  refine ⟨codes, inside 6 (by decide +kernel), refused.mpr ?_⟩
  have regular : ¬Irregular d := by
    rw [irregular_iff (by decide +kernel)]
    rintro (error | ⟨route, -⟩)
    · exact absurd error (by decide +kernel)
    · exact absurd route (by decide +kernel)
  rw [reached]
  exact ⟨[d], refusal, [claiming], rfl, .error (by decide +kernel),
    by simpa using ⟨regular, by decide +kernel⟩⟩

end DumpChunk
end VirtualRouter
