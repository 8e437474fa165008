import VirtualRouter.Proofs.CheckedTimers

/-!
# What timers hold after any operations

The skew time and the wait of a backup are stored beside the interval that they follow from, and
there is a place for each of the two deadlines. Every operation keeps the stored numbers in step
with the interval, and arms one deadline at most.
-/

set_option autoImplicit false

namespace VirtualRouter

theorem unsigned64?_eq_some {n m : Nat} (fits : unsigned64? n = some m) : m = n :=
  (Option.some.inj (Option.ite_none_right_eq_some.mp fits).2).symm

/-- What is made of a number that fits is made of the number itself. -/
theorem made_of_fitting {α : Type} {f : Nat → α} {n : Nat} {a : α}
    (fits : ((unsigned64? n).bind fun m => some (f m)) = some a) : a = f n := by
  obtain ⟨m, fit, made⟩ := Option.bind_eq_some_iff.mp fits
  rw [← Option.some.inj made, unsigned64?_eq_some fit]

theorem skewTime?_eq_some {p : UInt8} {i s : Nat} (fits : skewTime? p i = some s) :
    s = skewTime p i :=
  made_of_fitting (f := (· / 256)) fits

theorem masterDownInterval?_eq_some {p : UInt8} {i d : Nat}
    (fits : masterDownInterval? p i = some d) : d = masterDownInterval p i := by
  obtain ⟨thrice, product, rest⟩ := Option.bind_eq_some_iff.mp fits
  obtain ⟨skew, skewed, sum⟩ := Option.bind_eq_some_iff.mp rest
  rw [unsigned64?_eq_some sum, unsigned64?_eq_some product, skewTime?_eq_some skewed,
    masterDownInterval]

namespace Timers

inductive Operation
  | resync (v : Version) (interval : Nat)
  | armAdvert (now : Nat)
  | armMasterDown (now : Nat)
  | armSkew (now : Nat)
  | disarm

namespace Operation

def perform (t : Timers) : Operation → Timers
  | resync v i => t.resync v i
  | armAdvert now => t.armAdvert now
  | armMasterDown now => t.armMasterDown now
  | armSkew now => t.armSkew now
  | disarm => t.disarm

def perform? (t : Timers) : Operation → Option Timers
  | resync v i => t.resync? v i
  | armAdvert now => t.armAdvert? now
  | armMasterDown now => t.armMasterDown? now
  | armSkew now => t.armSkew? now
  | disarm => some t.disarm

def adopted? : Operation → Option Nat
  | resync .v3 i => some i
  | _ => none

end Operation

def performAll (t : Timers) (ops : List Operation) : Timers := ops.foldl Operation.perform t

def performAll? (t : Timers) (ops : List Operation) : Option Timers :=
  ops.foldlM Operation.perform? t

def lastAdopted (ops : List Operation) : Option Nat := (ops.filterMap Operation.adopted?).getLast?

theorem lastAdopted_cons (o : Operation) (ops : List Operation) :
    lastAdopted (o :: ops) = (lastAdopted ops).or o.adopted? := by
  rw [lastAdopted, List.filterMap_cons]
  cases adopts : o.adopted? with
  | none => exact (Option.or_none).symm
  | some i =>
    dsimp only
    rw [List.getLast?_cons, Option.or_some]
    rfl

section
variable {t u : Timers}

theorem recompute?_eq_some (fits : t.recompute? = some u) : u = t.recompute := by
  obtain ⟨skew, skewed, rest⟩ := Option.bind_eq_some_iff.mp fits
  obtain ⟨masterDown, summed, made⟩ := Option.bind_eq_some_iff.mp rest
  obtain rfl := skewTime?_eq_some skewed
  obtain rfl := masterDownInterval?_eq_some summed
  exact (Option.some.inj made).symm

theorem resync?_eq_some {v : Version} {i : Nat} (fits : t.resync? v i = some u) :
    u = t.resync v i := by
  unfold resync? at fits
  unfold resync
  split_ifs at fits ⊢ with resyncs
  · exact recompute?_eq_some fits
  · exact (Option.some.inj fits).symm

/-- Where nothing overflows, words of sixty-four bits make no difference. -/
theorem Operation.perform?_eq_some {o : Operation} (fits : o.perform? t = some u) :
    u = o.perform t := by
  cases o with
  | resync v i => exact resync?_eq_some fits
  | armAdvert now => exact made_of_fitting fits
  | armMasterDown now => exact made_of_fitting fits
  | armSkew now => exact made_of_fitting fits
  | disarm => exact (Option.some.inj fits).symm

theorem performAll?_eq_some {ops : List Operation} (fits : t.performAll? ops = some u) :
    u = t.performAll ops := by
  induction ops generalizing t with
  | nil => exact (Option.some.inj fits).symm
  | cons o ops ih =>
    obtain ⟨next, first, rest⟩ := Option.bind_eq_some_iff.mp fits
    obtain rfl := Operation.perform?_eq_some first
    exact ih rest

end

/-- An operation keeps what follows from the interval of the master in step with it. -/
theorem disarm_perform {t : Timers} {p : UInt8} {own i : Nat}
    (tuned : t.disarm = following p own i) (o : Operation) :
    (o.perform t).disarm = following p own (o.adopted?.getD i) := by
  cases o with
  | resync v j =>
    cases v with
    | v2 => exact tuned
    | v3 => exact disarm_resync j tuned rfl
  | armAdvert now => exact tuned
  | armMasterDown now => exact tuned
  | armSkew now => exact tuned
  | disarm => exact tuned

theorem disarm_performAll {t : Timers} {p : UInt8} {own i : Nat}
    (tuned : t.disarm = following p own i) (ops : List Operation) :
    (t.performAll ops).disarm = following p own ((lastAdopted ops).getD i) := by
  induction ops generalizing t i with
  | nil => exact tuned
  | cons o ops ih =>
    have rest := ih (disarm_perform tuned o)
    rwa [← Option.getD_or, ← lastAdopted_cons] at rest

structure Coherent (t : Timers) (p : UInt8) : Prop where
  skew : t.skew = skewTime p t.masterInterval
  masterDown : t.masterDown = masterDownInterval p t.masterInterval

theorem coherent_of_tuned {t : Timers} {p : UInt8} {own i : Nat}
    (tuned : t.disarm = following p own i) : t.Coherent p := by
  obtain rfl : t.masterInterval = i := congrArg Timers.masterInterval tuned
  exact ⟨congrArg Timers.skew tuned, congrArg Timers.masterDown tuned⟩

/-- Under one interval a router of higher priority waits for less. -/
theorem Coherent.shorter {t u : Timers} {p q : UInt8} (ht : t.Coherent p) (hu : u.Coherent q)
    (same : u.masterInterval = t.masterInterval) (long : 256 ≤ t.masterInterval) (higher : p < q) :
    u.skew < t.skew ∧ u.masterDown < t.masterDown := by
  have skew := skewTime_strictAnti higher long
  rw [ht.skew, hu.skew, ht.masterDown, hu.masterDown, same]
  exact ⟨skew, Nat.add_lt_add_left skew _⟩

def Single (t : Timers) : Prop := t.advertDeadline = none ∨ t.masterDownDeadline = none

theorem single_perform {t : Timers} (h : t.Single) (o : Operation) : (o.perform t).Single := by
  cases o with
  | resync v i =>
    cases v with
    | v2 => exact h
    | v3 => exact h
  | armAdvert now => exact .inr rfl
  | armMasterDown now => exact .inl rfl
  | armSkew now => exact .inl rfl
  | disarm => exact .inl rfl

theorem single_performAll {t : Timers} (h : t.Single) (ops : List Operation) :
    (t.performAll ops).Single := by
  induction ops generalizing t with
  | nil => exact h
  | cons o ops ih => exact ih (single_perform h o)

/-- Timers with one deadline wait for it. -/
theorem remaining_of_armed {t : Timers} (h : t.Single) {d : Nat}
    (armed : t.advertDeadline = some d ∨ t.masterDownDeadline = some d) (now : Nat) :
    t.remaining now = d - now := by
  unfold remaining
  rcases armed with advert | masterDown
  · rw [advert, Option.some_or]
  · rw [h.resolve_right (by simp [masterDown]), Option.none_or, masterDown]

/-- After any operations, also over words of sixty-four bits if nothing overflows, timers know
their own interval and the one taken over last, from which their waits follow. At most one
deadline is armed, which they wait for. Under one interval a higher priority waits for less. -/
theorem stored_waits_follow (p : UInt8) (interval : Nat) (ops : List Operation) :
    let t := (start p interval).performAll ops
    (∀ u, ((start? p interval).bind fun t₀ => t₀.performAll? ops) = some u → u = t) ∧
    (t.advertDeadline = none ∨ t.masterDownDeadline = none) ∧
    t.advertInterval = interval ∧
    t.masterInterval = (lastAdopted ops).getD interval ∧
    t.skew = (256 - p.toNat) * t.masterInterval / 256 ∧
    t.skew ≤ t.masterInterval ∧
    t.masterDown = 3 * t.masterInterval + t.skew ∧
    (∀ now,
      (∀ d, t.advertDeadline = some d ∨ t.masterDownDeadline = some d →
        (now ≤ d → now + t.remaining now = d) ∧ (d ≤ now → t.remaining now = 0)) ∧
      (t.advertDeadline = none → t.masterDownDeadline = none → t.remaining now = 0)) ∧
    ∀ (q : UInt8) (interval' : Nat) (ops' : List Operation),
      let u := (start q interval').performAll ops'
      u.masterInterval = t.masterInterval → 256 ≤ t.masterInterval → p < q →
        u.skew < t.skew ∧ u.masterDown < t.masterDown := by
  intro t
  have tuned (q : UInt8) (i : Nat) (ops : List Operation) :
      ((start q i).performAll ops).disarm = following q i ((lastAdopted ops).getD i) :=
    disarm_performAll rfl ops
  have coherent : t.Coherent p := coherent_of_tuned (tuned p interval ops)
  have single : t.Single := single_performAll (.inl rfl) ops
  refine ⟨fun u fits => ?_, single, congrArg Timers.advertInterval (tuned p interval ops),
    congrArg Timers.masterInterval (tuned p interval ops), coherent.skew, ?_, ?_,
    fun now => ⟨fun d armed => ?_, fun advert masterDown => ?_⟩, fun q interval' ops' => ?_⟩
  · obtain ⟨t₀, started, performed⟩ := Option.bind_eq_some_iff.mp fits
    obtain rfl : t₀ = start p interval := recompute?_eq_some started
    exact performAll?_eq_some performed
  · rw [coherent.skew]
    exact skewTime_le p _
  · rw [coherent.masterDown, coherent.skew, masterDownInterval]
  · have left := remaining_of_armed single armed now
    omega
  · rw [remaining, advert, masterDown]
    rfl
  · exact coherent.shorter (coherent_of_tuned (tuned q interval' ops'))

def slowed : List Operation :=
  [.armMasterDown 5000000, .resync .v3 2000000, .resync .v2 7, .armMasterDown 6000000]

theorem waits_of_slowed :
    let t := (start 100 1000000).performAll slowed
    let rest := (start 100 1000000).performAll (slowed ++ [.disarm])
    let u := (start 200 2000000).performAll [.armAdvert 6000000]
    ((start? 100 1000000).bind fun t₀ => t₀.performAll? slowed) = some t ∧
    t.masterInterval = 2000000 ∧ t.skew = 1218750 ∧ t.masterDownDeadline = some 13218750 ∧
    t.remaining 13000000 = 218750 ∧ t.remaining 14000000 = 0 ∧
    rest.advertDeadline = none ∧ rest.masterDownDeadline = none ∧ rest.remaining 13000000 = 0 ∧
    u.masterInterval = t.masterInterval ∧ u.skew < t.skew ∧ u.masterDown < t.masterDown := by
  intro t rest u
  obtain ⟨checked, -, -, interval, skew, -, -, waits, shorter⟩ :=
    stored_waits_follow 100 1000000 slowed
  obtain ⟨-, -, -, -, -, -, -, idle, -⟩ := stored_waits_follow 100 1000000 (slowed ++ [.disarm])
  have armed : t.masterDownDeadline = some 13218750 := by decide
  have equal : u.masterInterval = t.masterInterval := by decide
  have fits : ((start? 100 1000000).bind fun t₀ => t₀.performAll? slowed) = some t := by decide
  refine ⟨fits.trans (congrArg some (checked t fits)), interval, skew, armed, ?_,
    ((waits 14000000).1 _ (.inr armed)).2 (by decide), rfl, rfl, (idle 13000000).2 rfl rfl, equal,
    shorter 200 2000000 _ equal (by decide) (by decide)⟩
  have left : 13000000 + t.remaining 13000000 = 13000000 + 218750 :=
    ((waits 13000000).1 _ (.inr armed)).1 (by decide)
  exact Nat.add_left_cancel left

end Timers
end VirtualRouter
