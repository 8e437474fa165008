import VirtualRouter.Route.Message
import VirtualRouter.Proofs.ChecksumSum
import Mathlib.Data.List.GetD
import Mathlib.Tactic.GCongr
import Mathlib.Algebra.Order.Group.Nat

/-!
# Writing a route and reading it back

A route is written as one attribute for each of its fields that is set. Any attributes are read
back one by one as they were written, whatever their kinds and their order, so that the route
that is read is the one that was written. The only limit is that the metrics have to fit into an
attribute, and metrics that were read out of one do.
-/

set_option autoImplicit false

namespace VirtualRouter

namespace Octets

theorem word32_little32 (w : UInt32) :
    word32 (UInt8.ofNat (w.toNat / 16777216)) (UInt8.ofNat (w.toNat / 65536))
      (UInt8.ofNat (w.toNat / 256)) (UInt8.ofNat w.toNat) = w := by
  have := w.toNat_lt
  rw [word32, ← UInt32.toNat_inj, UInt32.toNat_ofNat']
  simp only [UInt8.toNat_ofNat']
  omega

theorem littleAt_append {a b : Octets} {i : Nat} (inside : i + 1 < a.length) :
    littleAt (a ++ b) i = littleAt a i := by
  simp only [littleAt, byteAt]
  rw [List.getD_append _ _ _ _ inside, List.getD_append _ _ _ _ (by omega)]

theorem doubleAt_append {a b : Octets} {i : Nat} (inside : i + 3 < a.length) :
    doubleAt (a ++ b) i = doubleAt a i := by
  simp only [doubleAt, byteAt]
  rw [List.getD_append _ _ _ _ inside, List.getD_append _ _ _ _ (by omega),
    List.getD_append _ _ _ _ (by omega), List.getD_append _ _ _ _ (by omega)]

end Octets

namespace Route

theorem align4_of_dvd {n : Nat} (whole : n % 4 = 0) : align4 n = n := by
  unfold align4
  omega

theorem length_encodeAttribute (kind : UInt16) (value : Octets) :
    (encodeAttribute kind value).length = align4 (4 + value.length) := by
  simp only [encodeAttribute, align4, List.length_append, Octets.length_little16,
    List.length_replicate]
  omega

/-- An attribute is read as it was written, and what follows its padding is read next. -/
theorem readAttributes_encodeAttribute (r : Route) (kind : UInt16) {value : Octets}
    (short : value.length ≤ 65531) (rest : Octets) :
    readAttributes r (encodeAttribute kind value ++ rest) =
      readAttributes (r.withAttribute kind value) rest := by
  have size := length_encodeAttribute kind value
  have padded : 4 + value.length ≤ align4 (4 + value.length) := by
    unfold align4
    omega
  have length : ((encodeAttribute kind value ++ rest).littleAt 0).toNat = 4 + value.length := by
    have field : (encodeAttribute kind value ++ rest).littleAt 0 =
        UInt16.ofNat (4 + value.length) := Octets.word16_big16 _
    rw [field, UInt16.toNat_ofNat']
    omega
  have known : (encodeAttribute kind value ++ rest).littleAt 2 = kind := Octets.word16_big16 kind
  have taken : ((encodeAttribute kind value ++ rest).take (4 + value.length)).drop 4 = value := by
    rw [Nat.add_comm, List.drop_take]
    simp [encodeAttribute, Octets.little16]
  have left : (encodeAttribute kind value ++ rest).drop (align4 (4 + value.length)) = rest :=
    List.drop_left' size
  rw [readAttributes.eq_def]
  simp only [length, known, taken, left, List.length_append, size]
  rw [if_neg (by omega), if_neg (by omega)]

theorem encodeAll_cons (x : UInt16 × Octets) (l : List (UInt16 × Octets)) :
    encodeAll (x :: l) = encodeAttribute x.1 x.2 ++ encodeAll l := rfl

def withAll (r : Route) (l : List (UInt16 × Octets)) : Route :=
  l.foldl (fun r x => r.withAttribute x.1 x.2) r

theorem readAttributes_encodeAll (r : Route) {l : List (UInt16 × Octets)}
    (short : ∀ x ∈ l, x.2.length ≤ 65531) : readAttributes r (encodeAll l) = .ok (r.withAll l) := by
  induction l generalizing r with
  | nil =>
    rw [readAttributes.eq_def]
    rfl
  | cons x l ih =>
    obtain ⟨first, later⟩ := List.forall_mem_cons.mp short
    rw [encodeAll_cons, readAttributes_encodeAttribute r x.1 first, ih _ later]
    rfl

def saying (r : Route) (src prefSrc dst gateway : Option IPv4)
    (flow oif iif priority : Option UInt32) (metrics : Option Octets) : Route :=
  { r with
    dst := dst
    src := src
    prefSrc := prefSrc
    gateway := gateway
    oif := oif.getD 0
    iif := iif
    priority := priority
    flow := flow
    metrics := metrics }

def bare (r : Route) : Route := r.saying none none none none none none none none none

theorem withAll_append (r : Route) (l m : List (UInt16 × Octets)) :
    r.withAll (l ++ m) = (r.withAll l).withAll m := List.foldl_append

/-- The attribute of a field sets that field, if it is not set yet. -/
theorem withAll_field {α : Type} {k : UInt16} {v : α → Octets} {x : Option α}
    (f : Option α → Route) (set : ∀ a, (f none).withAttribute k (v a) = f (some a)) :
    (f none).withAll (field k v x) = f x := by
  cases x with
  | none => rfl
  | some a => exact set a

theorem withAll_word {k : UInt16} {w : Option UInt32} (f : Option UInt32 → Route)
    (set : ∀ d, (f none).withAttribute k d = f (wordValue? d)) :
    (f none).withAll (field k Octets.little32 w) = f w := by
  refine withAll_field f fun w => ?_
  have value : wordValue? (Octets.little32 w) = some w :=
    congrArg some (Octets.word32_little32 w)
  rw [set, value]

/-- The attributes of a route set every field that the fixed part does not say. -/
theorem withAll_attributes (r : Route) : r.bare.withAll r.attributes = r := by
  have oif : (if r.oif = 0 then none else some r.oif).getD 0 = r.oif := by
    split
    · rename_i zero
      exact zero.symm
    · rfl
  simp only [attributes, withAll_append, bare]
  -- The attributes are taken in as they are written, each into a field that nothing set before.
  rw [withAll_field (k := 2) (r.saying · none none none none none none none none) fun _ => rfl,
    withAll_field (k := 7) (r.saying _ · none none none none none none none) fun _ => rfl,
    withAll_field (k := 1) (r.saying _ _ · none none none none none none) fun _ => rfl,
    withAll_field (k := 5) (r.saying _ _ _ · none none none none none) fun _ => rfl,
    withAll_word (k := 11) (r.saying _ _ _ _ · none none none none) fun _ => rfl,
    withAll_word (k := 4) (r.saying _ _ _ _ _ · none none none) fun _ => rfl,
    withAll_word (k := 3) (r.saying _ _ _ _ _ _ · none none) fun _ => rfl,
    withAll_word (k := 6) (r.saying _ _ _ _ _ _ _ · none) fun _ => rfl,
    withAll_field (k := 8) (r.saying _ _ _ _ _ _ _ _ ·) fun _ => rfl]
  rw [saying, oif]

def Fits (r : Route) : Prop := ∀ m ∈ r.metrics, m.length ≤ 65531

theorem length_of_field {α : Type} {k : UInt16} {v : α → Octets} {o : Option α} {bound : Nat}
    (short : ∀ a ∈ o, (v a).length ≤ bound) : ∀ x ∈ field k v o, x.2.length ≤ bound := by
  cases o with
  | none => simp [field]
  | some a =>
    simp only [field, Option.map_some, Option.toList_some, List.forall_mem_singleton]
    exact short a rfl

theorem Fits.attributes {r : Route} (fits : r.Fits) :
    ∀ x ∈ r.attributes, x.2.length ≤ 65531 := by
  have address (k : UInt16) (a : Option IPv4) : ∀ x ∈ field k IPv4.octets a, x.2.length ≤ 65531 :=
    length_of_field fun a _ => by simp
  have word (k : UInt16) (w : Option UInt32) :
      ∀ x ∈ field k Octets.little32 w, x.2.length ≤ 65531 :=
    length_of_field fun w _ => by simp
  simp only [Route.attributes, List.forall_mem_append]
  exact ⟨⟨⟨⟨⟨⟨⟨⟨address _ _, address _ _⟩, address _ _⟩, address _ _⟩, word _ _⟩, word _ _⟩,
    word _ _⟩, word _ _⟩, length_of_field fits⟩

theorem parse_header (r : Route) (rest : Octets) :
    parse (r.header ++ rest) = readAttributes r.bare rest := by
  have flags : (r.header ++ rest).doubleAt 8 = r.flags := Octets.word32_little32 r.flags
  have long : ¬(r.header ++ rest).length < 12 := by
    rw [List.length_append]
    exact Nat.not_lt.mpr (Nat.le_add_right 12 _)
  rw [parse, if_neg long, flags]
  rfl

/-- What is written for a route is read as that route. -/
theorem parse_body {r : Route} (fits : r.Fits) : parse r.body = .ok r := by
  rw [body, parse_header, readAttributes_encodeAll _ fits.attributes, withAll_attributes]

theorem encodeAll_whole (l : List (UInt16 × Octets)) : (encodeAll l).length % 4 = 0 := by
  induction l with
  | nil => rfl
  | cons x l ih =>
    rw [encodeAll_cons, List.length_append, length_encodeAttribute]
    unfold align4
    omega

theorem length_encodeAll_le {l : List (UInt16 × Octets)} (short : ∀ x ∈ l, x.2.length ≤ 65531) :
    (encodeAll l).length ≤ l.length * 65536 := by
  induction l with
  | nil => exact Nat.le_refl _
  | cons x l ih =>
    obtain ⟨first, later⟩ := List.forall_mem_cons.mp short
    have rest := ih later
    rw [encodeAll_cons, List.length_append, length_encodeAttribute, List.length_cons]
    unfold align4
    omega

theorem length_attributes_le (r : Route) : r.attributes.length ≤ 9 := by
  have one {α : Type} (k : UInt16) (v : α → Octets) (x : Option α) : (field k v x).length ≤ 1 := by
    cases x <;> simp [field]
  calc r.attributes.length ≤ 1 + 1 + 1 + 1 + 1 + 1 + 1 + 1 + 1 := by
        simp only [attributes, List.length_append]
        gcongr <;> exact one _ _ _
    _ = 9 := rfl

theorem body_whole (r : Route) : r.body.length % 4 = 0 := by
  have attributes := encodeAll_whole r.attributes
  rw [body, List.length_append, show r.header.length = 12 from rfl]
  omega

theorem length_body_lt {r : Route} (fits : r.Fits) : r.body.length < 2 ^ 20 := by
  have few := length_attributes_le r
  have attributes := length_encodeAll_le fits.attributes
  rw [body, List.length_append, show r.header.length = 12 from rfl]
  omega

theorem Fits.withAttribute {r : Route} (fits : r.Fits) (kind : UInt16) {value : Octets}
    (short : value.length ≤ 65531) : (r.withAttribute kind value).Fits := by
  by_cases metrics : kind = 8
  · subst metrics
    rintro m ⟨⟩
    exact short
  · have kept : (r.withAttribute kind value).metrics = r.metrics := by
      simp only [Route.withAttribute, apply_ite Route.metrics, if_neg metrics, ite_self]
    rwa [Fits, kept]

/-- Attributes that are read leave metrics that fit into an attribute again. -/
theorem fits_of_readAttributes {r s : Route} {d : Octets} (fits : r.Fits)
    (read : readAttributes r d = .ok s) : s.Fits := by
  fun_induction readAttributes r d with
  | case1 r d few =>
    cases read
    exact fits
  | case2 => cases read
  | case3 r d enough length kind bounded ih =>
    have longest := (d.littleAt 0).toNat_lt
    refine ih (fits.withAttribute kind ?_) read
    rw [List.length_drop, List.length_take]
    omega

theorem fits_of_parse {r : Route} {d : Octets} (read : parse d = .ok r) : r.Fits := by
  unfold parse at read
  split at read
  · cases read
  · exact fits_of_readAttributes (by rintro _ ⟨⟩) read

end Route
end VirtualRouter
