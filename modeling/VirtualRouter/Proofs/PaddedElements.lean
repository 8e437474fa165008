import VirtualRouter.Route.Message
import Mathlib.Data.List.Basic

/-!
# Walking padded elements

Elements stand one behind the other, each with a header that says its length, and each padded to
a multiple of four. A walk goes from element to element for as long as a header is left, and a
reader takes the elements in on the way. What a reader makes of a text follows from the walk
alone: where it fails, and that it reads whole elements one by one.
-/

set_option autoImplicit false

namespace VirtualRouter

structure Framing where
  header : Nat
  /-- The length that the element at the front says, its header included and its padding not. -/
  size : Octets → Nat
  header_pos : 0 < header
  size_append : ∀ {m : Octets} (rest : Octets), header ≤ m.length → size (m ++ rest) = size m

def FirstIs {α : Type} (P Q : α → Prop) (l : List α) : Prop :=
  ∃ before a after, l = before ++ a :: after ∧ P a ∧ ∀ b ∈ before, ¬P b ∧ ¬Q b

section
variable {α : Type} {P Q P' Q' : α → Prop} {a : α} {l : List α}

theorem not_firstIs_nil : ¬FirstIs P Q [] := by
  rintro ⟨before, a, after, split, -⟩
  simp at split

theorem firstIs_cons_iff : FirstIs P Q (a :: l) ↔ P a ∨ ¬Q a ∧ FirstIs P Q l := by
  constructor
  · rintro ⟨_ | ⟨b, before⟩, c, after, split, special, plain⟩
    · cases split
      exact .inl special
    · cases split
      obtain ⟨first, later⟩ := List.forall_mem_cons.mp plain
      exact .inr ⟨first.2, before, c, after, rfl, special, later⟩
  · by_cases special : P a
    · exact fun _ => ⟨[], a, l, rfl, special, by simp⟩
    · rintro (here | ⟨other, before, c, after, rfl, special', plain⟩)
      · exact absurd here special
      · exact ⟨a :: before, c, after, rfl, special',
          List.forall_mem_cons.mpr ⟨⟨special, other⟩, plain⟩⟩

theorem firstIs_congr (same : ∀ a ∈ l, (P a ↔ P' a) ∧ (¬P a → (Q a ↔ Q' a))) :
    FirstIs P Q l ↔ FirstIs P' Q' l := by
  induction l with
  | nil => exact iff_of_false not_firstIs_nil not_firstIs_nil
  | cons a l ih =>
    obtain ⟨⟨first, second⟩, later⟩ := List.forall_mem_cons.mp same
    rw [firstIs_cons_iff, firstIs_cons_iff, ← ih later, ← first]
    by_cases special : P a
    · simp [special]
    · rw [second special]

/-- Where nothing is special in the second way, anything special is enough. -/
theorem firstIs_iff_exists (never : ∀ a ∈ l, ¬Q a) : FirstIs P Q l ↔ ∃ a ∈ l, P a := by
  induction l with
  | nil => exact iff_of_false not_firstIs_nil (by simp)
  | cons a l ih =>
    obtain ⟨first, later⟩ := List.forall_mem_cons.mp never
    rw [firstIs_cons_iff, ih later, List.exists_mem_cons_iff]
    simp [first]

end

namespace Framing
variable (f : Framing) {d m : Octets}

def Whole (d : Octets) : Prop := f.header ≤ f.size d ∧ f.size d ≤ d.length

instance (d : Octets) : Decidable (f.Whole d) := inferInstanceAs (Decidable (_ ∧ _))

def front (d : Octets) : Octets := d.take (f.size d)

def behind (d : Octets) : Octets := d.drop (Route.align4 (f.size d))

theorem length_behind_lt {f : Framing} (some : ¬d.length < f.header) (whole : f.Whole d) :
    (f.behind d).length < d.length := by
  have := f.header_pos
  have := whole.1
  rw [behind, List.length_drop, Route.align4]
  omega

/-- What is left in front of each element that a walk reaches. The walk ends where less than a
header is left, and at an element that is not whole. -/
def starts (d : Octets) : List Octets :=
  if d.length < f.header then []
  else if f.Whole d then d :: starts (f.behind d)
  else [d]
termination_by d.length
decreasing_by exact length_behind_lt ‹_› ‹_›

theorem starts_of_whole {f : Framing} (some : ¬d.length < f.header) (whole : f.Whole d) :
    f.starts d = d :: f.starts (f.behind d) := by
  rw [starts, if_neg some, if_pos whole]

def leftover (d : Octets) : Octets :=
  if d.length < f.header then d
  else if f.Whole d then leftover (f.behind d)
  else d
termination_by d.length
decreasing_by exact length_behind_lt ‹_› ‹_›

theorem mem_starts {f : Framing} {a : Octets} (reached : a ∈ f.starts d) :
    ¬a.length < f.header ∧ a.length ≤ d.length := by
  fun_induction starts f d with
  | case1 => simp at reached
  | case2 d some whole ih =>
    rcases List.mem_cons.mp reached with rfl | later
    · exact ⟨some, Nat.le_refl _⟩
    · have := length_behind_lt some whole
      exact ⟨(ih later).1, by have := (ih later).2; omega⟩
  | case3 d some =>
    cases List.mem_singleton.mp reached
    exact ⟨some, Nat.le_refl _⟩

/-- Every step of a walk leaves less. -/
theorem starts_shorten (d : Octets) :
    (f.starts d).Pairwise fun a b => b.length < a.length := by
  fun_induction starts f d with
  | case1 => exact .nil
  | case2 d some whole ih =>
    refine .cons (fun b reached => ?_) ih
    exact Nat.lt_of_le_of_lt (mem_starts reached).2 (length_behind_lt some whole)
  | case3 d => exact List.pairwise_singleton _ d

theorem leftover_suffix (d : Octets) : f.leftover d <:+ d := by
  fun_induction leftover f d with
  | case1 d | case3 d => exact List.suffix_refl d
  | case2 d _ _ ih => exact ih.trans (List.drop_suffix _ d)

theorem size_le_align4 (n : Nat) : n ≤ Route.align4 n := by
  unfold Route.align4
  omega

/-- What follows a whole element and its padding does not change how it is read. -/
theorem append_of_whole {f : Framing} {e : Octets} (whole : f.Whole e) {t : Octets}
    (padded : t = [] ∨ Route.align4 (f.size e) ≤ e.length) :
    f.Whole (e ++ t) ∧ f.front (e ++ t) = f.front e ∧ f.behind (e ++ t) = f.behind e ++ t := by
  rcases padded with rfl | padded
  · simp [whole]
  · have size : f.size (e ++ t) = f.size e := f.size_append t (Nat.le_trans whole.1 whole.2)
    refine ⟨⟨size ▸ whole.1, ?_⟩, ?_, ?_⟩
    · rw [size, List.length_append]
      exact Nat.le_trans whole.2 (Nat.le_add_right _ _)
    · rw [front, size, List.take_append_of_le_length whole.2, front]
    · rw [behind, size, List.drop_append_of_le_length padded, behind]

theorem whole_of_append {f : Framing} {e t : Octets} (whole : f.Whole (e ++ t))
    (inside : t.length ≤ (f.behind (e ++ t)).length) :
    f.Whole e ∧ (t = [] ∨ Route.align4 (f.size e) ≤ e.length) := by
  rcases List.eq_nil_or_concat t with rfl | ⟨_, _, more⟩
  · rw [List.append_nil] at whole
    exact ⟨whole, .inl rfl⟩
  · have some : 0 < t.length := by simp [more]
    have rounded := size_le_align4 (f.size (e ++ t))
    rw [behind, List.length_drop, List.length_append] at inside
    have size : f.size (e ++ t) = f.size e := f.size_append t (by have := whole.1; omega)
    rw [size] at rounded inside
    exact ⟨⟨size ▸ whole.1, by omega⟩, .inr (by omega)⟩

theorem leftover_of_whole {f : Framing} (some : ¬d.length < f.header) (whole : f.Whole d) :
    f.leftover d = f.leftover (f.behind d) := by
  rw [leftover, if_neg some, if_pos whole]

/-- A step of a walk over a text is the same step over the text without what is left at the end. -/
theorem step_before_leftover {f : Framing} {e : Octets} (some : ¬d.length < f.header)
    (whole : f.Whole d) (split : d = e ++ f.leftover d) :
    ¬e.length < f.header ∧ f.Whole e ∧ f.front d = f.front e ∧
      f.behind d = f.behind e ++ f.leftover (f.behind d) := by
  rw [leftover_of_whole some whole] at split
  generalize rest : f.leftover (f.behind d) = t at split
  have inside : t.length ≤ (f.behind d).length := rest ▸ (f.leftover_suffix _).length_le
  subst split
  obtain ⟨whole', padded⟩ := whole_of_append whole inside
  obtain ⟨-, front, behind⟩ := append_of_whole whole' padded
  have := whole'.1
  have := whole'.2
  exact ⟨by omega, whole', front, behind⟩

structure Complete (m : Octets) : Prop where
  header : f.header ≤ f.size m
  length : m.length = Route.align4 (f.size m)

theorem Complete.whole {f : Framing} (complete : f.Complete m) : f.Whole m :=
  ⟨complete.header, complete.length ▸ size_le_align4 (f.size m)⟩

theorem Complete.append {f : Framing} (complete : f.Complete m) (rest : Octets) :
    ¬(m ++ rest).length < f.header ∧ f.Whole (m ++ rest) ∧ f.front (m ++ rest) = f.front m ∧
      f.behind (m ++ rest) = rest := by
  obtain ⟨header, inside⟩ := complete.whole
  obtain ⟨whole, front, behind⟩ :=
    append_of_whole (t := rest) complete.whole (.inr (Nat.le_of_eq complete.length.symm))
  refine ⟨?_, whole, front, ?_⟩
  · rw [List.length_append]
    omega
  · rw [behind, Framing.behind, List.drop_eq_nil_of_le (Nat.le_of_eq complete.length),
      List.nil_append]

inductive Effect (ε σ : Type)
  | fails (e : ε)
  | ends (g : σ → σ)
  | passes (g : σ → σ)

variable {ε σ : Type} (broken : Octets → ε) (effect : Octets → Effect ε σ)

def run (s : σ) (d : Octets) : Except ε σ :=
  if d.length < f.header then .ok s
  else if f.Whole d then
    match effect (f.front d) with
    | .fails e => .error e
    | .ends g => .ok (g s)
    | .passes g => run (g s) (f.behind d)
  else .error (broken d)
termination_by d.length
decreasing_by exact length_behind_lt ‹_› ‹_›

theorem run_of_short (s : σ) (short : d.length < f.header) :
    f.run broken effect s d = .ok s := by
  rw [run, if_pos short]

theorem run_of_broken (s : σ) (some : ¬d.length < f.header) (cut : ¬f.Whole d) :
    f.run broken effect s d = .error (broken d) := by
  rw [run, if_neg some, if_neg cut]

theorem run_of_whole (s : σ) (some : ¬d.length < f.header) (whole : f.Whole d) :
    f.run broken effect s d =
      match effect (f.front d) with
      | .fails e => .error e
      | .ends g => .ok (g s)
      | .passes g => f.run broken effect (g s) (f.behind d) := by
  rw [run, if_neg some, if_pos whole]

def Fails (d : Octets) : Prop := ¬f.Whole d ∨ ∃ e, effect (f.front d) = .fails e

def Ends (d : Octets) : Prop := ∃ g, effect (f.front d) = .ends g

/-- A reader fails when the first element that fails or ends the reading fails it. -/
theorem run_error_iff (s : σ) (d : Octets) :
    (∃ e, f.run broken effect s d = .error e) ↔
      FirstIs (f.Fails effect) (f.Ends effect) (f.starts d) := by
  fun_induction run f broken effect s d with
  | case1 s d short =>
    rw [starts, if_pos short]
    exact iff_of_false (by simp) not_firstIs_nil
  | case2 s d some whole e failed =>
    rw [starts_of_whole some whole, firstIs_cons_iff]
    exact iff_of_true ⟨e, rfl⟩ (.inl (.inr ⟨e, failed⟩))
  | case3 s d some whole g ended =>
    rw [starts_of_whole some whole, firstIs_cons_iff]
    simp [Fails, Ends, whole, ended]
  | case4 s d some whole g passed ih =>
    rw [ih, starts_of_whole some whole, firstIs_cons_iff]
    simp [Fails, Ends, whole, passed]
  | case5 s d some whole =>
    rw [starts, if_neg some, if_neg whole, firstIs_cons_iff]
    exact iff_of_true ⟨_, rfl⟩ (.inl (.inl whole))

/-- Less than a header at the end of a walk is ignored. -/
theorem run_before_leftover (s : σ) {d e : Octets} (split : d = e ++ f.leftover d)
    (short : (f.leftover d).length < f.header) :
    f.run broken effect s d = f.run broken effect s e := by
  fun_induction run f broken effect s d generalizing e with
  | case1 s d few =>
    have less := congrArg List.length split
    rw [leftover, if_pos few, List.length_append] at less
    rw [run_of_short]
    have := f.header_pos
    omega
  | case2 s d some whole e failed =>
    obtain ⟨some', whole', front, -⟩ := step_before_leftover some whole split
    rw [run_of_whole _ _ _ s some' whole', ← front, failed]
  | case3 s d some whole g ended =>
    obtain ⟨some', whole', front, -⟩ := step_before_leftover some whole split
    rw [run_of_whole _ _ _ s some' whole', ← front, ended]
  | case4 s d some whole g passed ih =>
    obtain ⟨some', whole', front, behind⟩ := step_before_leftover some whole split
    rw [leftover_of_whole some whole] at short
    rw [ih behind short, run_of_whole _ _ _ s some' whole', ← front, passed]
  | case5 s d some whole =>
    rw [leftover, if_neg some, if_neg whole] at short
    exact absurd short some

/-- A complete element is taken in, and the rest is read after it. -/
theorem run_complete (s : σ) (complete : f.Complete m) (rest : Octets) :
    f.run broken effect s (m ++ rest) =
      match effect (f.front m) with
      | .fails e => .error e
      | .ends g => .ok (g s)
      | .passes g => f.run broken effect (g s) rest := by
  obtain ⟨some, whole, front, behind⟩ := complete.append rest
  rw [run_of_whole _ _ _ s some whole, front, behind]

end Framing
end VirtualRouter
