import VirtualRouter.Route.Message
import VirtualRouter.Proofs.RouteCodec
import VirtualRouter.Proofs.AdvertReads
import VirtualRouter.Proofs.PaddedElements

/-!
# Dumps and routes as walks

The messages of a dump and the attributes of a route are padded elements, and reading them is a
walk that takes them in one by one. So it is the walk that tells when a dump is refused.
-/

set_option autoImplicit false

namespace VirtualRouter

open Framing (Effect)

namespace Octets

theorem littleAt_take {d : Octets} {k i : Nat} (inside : i + 1 < k) :
    littleAt (d.take k) i = d.littleAt i := by
  rw [littleAt, littleAt, byteAt_take inside, byteAt_take (Nat.lt_of_succ_lt inside)]

end Octets

namespace Route

def attributeFraming : Framing where
  header := 4
  size d := (d.littleAt 0).toNat
  header_pos := by decide
  size_append rest long := by rw [Octets.littleAt_append (by omega)]

def attributeEffect (a : Octets) : Effect NetlinkFault Route :=
  .passes fun r => r.withAttribute (a.littleAt 2) (a.drop 4)

def malformedAttribute (d : Octets) : NetlinkFault :=
  .malformedAttribute (d.littleAt 2).toNat (attributeFraming.size d)

theorem readAttributes_eq_run (r : Route) (d : Octets) :
    readAttributes r d = attributeFraming.run malformedAttribute attributeEffect r d := by
  fun_induction readAttributes r d with
  | case1 r d short => exact (Framing.run_of_short _ _ _ r short).symm
  | case2 r d some length kind outside =>
    have broken : ¬attributeFraming.Whole d := by
      rintro ⟨header, inside⟩
      change 4 ≤ length at header
      change length ≤ d.length at inside
      omega
    exact (Framing.run_of_broken _ malformedAttribute attributeEffect r some broken).symm
  | case3 r d some length kind inside ih =>
    have whole : attributeFraming.Whole d := by
      change 4 ≤ length ∧ length ≤ d.length
      omega
    have known : (attributeFraming.front d).littleAt 2 = kind :=
      Octets.littleAt_take (by change 2 + 1 < length; omega)
    rw [ih, Framing.run_of_whole _ _ _ r some whole]
    simp only [attributeEffect, known]
    rfl

/-- A route is refused when it is too short, or when the walk along its attributes reaches one
that is shorter than its own header or ends beyond the route. -/
theorem parse_error_iff (d : Octets) : (∃ e, parse d = .error e) ↔
    d.length < 12 ∨ ∃ a ∈ attributeFraming.starts (d.drop 12), ¬attributeFraming.Whole a := by
  unfold parse
  by_cases short : d.length < 12
  · simp [short]
  · have fails (a : Octets) :
        attributeFraming.Fails attributeEffect a ↔ ¬attributeFraming.Whole a := by
      simp [Framing.Fails, attributeEffect]
    have never : ∀ a ∈ attributeFraming.starts (d.drop 12),
        ¬attributeFraming.Ends attributeEffect a := by
      simp [Framing.Ends, attributeEffect]
    rw [if_neg short, readAttributes_eq_run, Framing.run_error_iff, firstIs_iff_exists never]
    simp only [fails, short, false_or]

end Route

namespace RouteMessage

def messageFraming : Framing where
  header := headerLength
  size d := (d.doubleAt 0).toNat
  header_pos := by decide
  size_append rest long := by
    unfold headerLength at long
    rw [Octets.doubleAt_append (by omega)]

def kind (d : Octets) : UInt16 := d.littleAt 4

def bodyOf (d : Octets) : Octets := (messageFraming.front d).drop headerLength

def malformedMessage (d : Octets) : NetlinkFault := .malformedMessage (messageFraming.size d)

def dumpEffect (m : Octets) : Effect NetlinkFault DumpChunk :=
  if kind m = doneKind then .ends fun c => { c with done := true }
  else if kind m = errorKind then
    .fails (.dumpRefused (-(errorCode (m.drop headerLength))))
  else if kind m = newRouteKind then
    match Route.parse (m.drop headerLength) with
    | .error e => .fails e
    | .ok r => .passes (·.keep r)
  else .passes id

theorem kind_front {d : Octets} (whole : messageFraming.Whole d) :
    kind (messageFraming.front d) = kind d :=
  Octets.littleAt_take (Nat.lt_of_lt_of_le (by decide) whole.1)

/-- What makes a reader of dumps refuse the message at the front: that it is shorter than its
header or ends beyond the text, that it is an error message, or a route that is refused. -/
inductive Irregular (d : Octets) : Prop
  | length (broken : ¬messageFraming.Whole d)
  | error (known : kind d = errorKind)
  | short (known : kind d = newRouteKind) (short : (bodyOf d).length < 12)
  | attribute (known : kind d = newRouteKind) (a : Octets)
      (reached : a ∈ Route.attributeFraming.starts ((bodyOf d).drop 12))
      (broken : ¬Route.attributeFraming.Whole a)

def Refuses (d : Octets) : Prop :=
  kind d = errorKind ∨ kind d = newRouteKind ∧ ∃ e, Route.parse (bodyOf d) = .error e

theorem irregular_iff {d : Octets} (whole : messageFraming.Whole d) :
    Irregular d ↔ Refuses d := by
  rw [Refuses, Route.parse_error_iff]
  constructor
  · rintro (broken | known | ⟨known, short⟩ | ⟨known, a, reached, broken⟩)
    · exact absurd whole broken
    · exact .inl known
    · exact .inr ⟨known, .inl short⟩
    · exact .inr ⟨known, .inr ⟨a, reached, broken⟩⟩
  · rintro (known | ⟨known, short | ⟨a, reached, broken⟩⟩)
    · exact .error known
    · exact .short known short
    · exact .attribute known a reached broken

theorem effect_front {d : Octets} (whole : messageFraming.Whole d) :
    dumpEffect (messageFraming.front d) =
      if kind d = doneKind then .ends fun c => { c with done := true }
      else if kind d = errorKind then .fails (.dumpRefused (-(errorCode (bodyOf d))))
      else if kind d = newRouteKind then
        match Route.parse (bodyOf d) with
        | .error e => .fails e
        | .ok r => .passes (·.keep r)
      else .passes id := by
  rw [dumpEffect, kind_front whole]
  rfl

theorem fails_iff (d : Octets) : messageFraming.Fails dumpEffect d ↔ Irregular d := by
  by_cases whole : messageFraming.Whole d
  · rw [irregular_iff whole, Refuses, Framing.Fails, effect_front whole]
    by_cases done : kind d = doneKind
    · simp [whole, done, doneKind, errorKind, newRouteKind]
    · by_cases error : kind d = errorKind
      · simp [whole, error, doneKind, errorKind]
      · by_cases route : kind d = newRouteKind
        · cases Route.parse (bodyOf d) <;> simp [whole, route, doneKind, errorKind, newRouteKind]
        · simp [whole, done, error, route]
  · exact iff_of_true (.inl whole) (.length whole)

theorem ends_iff {d : Octets} (whole : messageFraming.Whole d) :
    messageFraming.Ends dumpEffect d ↔ kind d = doneKind := by
  rw [Framing.Ends, effect_front whole]
  by_cases done : kind d = doneKind
  · simp [done]
  · by_cases error : kind d = errorKind
    · simp [error, doneKind, errorKind]
    · by_cases route : kind d = newRouteKind
      · cases Route.parse (bodyOf d) <;> simp [route, doneKind, errorKind, newRouteKind]
      · simp [done, error, route]

end RouteMessage

namespace DumpChunk
open RouteMessage

/-- Reading a dump is the walk along its messages. -/
theorem readFrom_eq_run (c : DumpChunk) (d : Octets) :
    readFrom c d = messageFraming.run malformedMessage dumpEffect c d := by
  have whole {d : Octets}
      (inside : ¬((d.doubleAt 0).toNat < headerLength ∨ d.length < (d.doubleAt 0).toNat)) :
      messageFraming.Whole d := by
    change headerLength ≤ (d.doubleAt 0).toNat ∧ (d.doubleAt 0).toNat ≤ d.length
    omega
  fun_induction readFrom c d with
  | case1 c d short => exact (Framing.run_of_short _ _ _ c short).symm
  | case2 c d some length outside =>
    have broken : ¬messageFraming.Whole d := by
      rintro ⟨header, inside⟩
      change headerLength ≤ length at header
      change length ≤ d.length at inside
      omega
    exact (Framing.run_of_broken _ malformedMessage dumpEffect c some broken).symm
  | case3 c d some length _ inside done =>
    have known := (effect_front (whole inside)).trans (if_pos done)
    rw [Framing.run_of_whole _ _ _ c some (whole inside), known]
  | case4 c d some length _ inside body other error =>
    have known := (effect_front (whole inside)).trans ((if_neg other).trans (if_pos error))
    rw [Framing.run_of_whole _ _ _ c some (whole inside), known]
    rfl
  | case5 c d some length _ inside body other other' route e refused =>
    have known := (effect_front (whole inside)).trans
      ((if_neg other).trans ((if_neg other').trans (if_pos route)))
    rw [Framing.run_of_whole _ _ _ c some (whole inside), known,
      show Route.parse (bodyOf d) = .error e from refused]
  | case6 c d some length _ inside body other other' route r parsed ih =>
    have known := (effect_front (whole inside)).trans
      ((if_neg other).trans ((if_neg other').trans (if_pos route)))
    rw [ih, Framing.run_of_whole _ _ _ c some (whole inside), known,
      show Route.parse (bodyOf d) = .ok r from parsed]
    rfl
  | case7 c d some length _ inside other other' other'' ih =>
    have known := (effect_front (whole inside)).trans
      ((if_neg other).trans ((if_neg other').trans (if_neg other'')))
    rw [ih, Framing.run_of_whole _ _ _ c some (whole inside), known]
    rfl

end DumpChunk
end VirtualRouter
