import VirtualRouter.Config

/-!
# Usable configurations

What a configuration has to be so that none of its checks refuses it.
-/

set_option autoImplicit false

namespace VirtualRouter

theorem firstRepeat?_eq_none_iff {seen l : List IPv4} :
    firstRepeat? seen l = none ↔ l.Nodup ∧ ∀ a ∈ l, a ∉ seen := by
  induction l generalizing seen with
  | nil => simp [firstRepeat?]
  | cons a r ih =>
    by_cases repeated : a ∈ seen
    · simp [firstRepeat?, repeated]
    · rw [firstRepeat?, if_neg repeated, ih, List.nodup_cons]
      constructor
      · rintro ⟨distinct, unseen⟩
        have first : a ∉ r := fun later => unseen a later (List.mem_cons_self)
        refine ⟨⟨first, distinct⟩, fun b held => ?_⟩
        rcases List.mem_cons.mp held with rfl | later
        · exact repeated
        · exact fun before => unseen b later (List.mem_cons_of_mem a before)
      · rintro ⟨⟨first, distinct⟩, unseen⟩
        refine ⟨distinct, fun b later before => ?_⟩
        rcases List.mem_cons.mp before with rfl | before
        · exact first later
        · exact unseen b (List.mem_cons_of_mem a later) before

namespace Config

structure Usable (c : Config) : Prop where
  router : c.vrid ≠ 0
  priority : c.priority ≠ releasePriority
  served : ¬c.addresses.isEmpty
  count : c.addresses.length ≤ maxAddresses
  distinct : c.addresses.Nodup
  named : ¬c.interface.isEmpty
  short : c.interface.utf8ByteSize ≤ maxNameLength
  paced : c.advertInterval ≠ 0
  interval : c.advertInterval ≤ c.version.maxInterval

/-- The check of one condition, in front of further ones. -/
theorem check_eq_none_iff {p : Prop} [Decidable p] {f : ConfigFault} {rest : Option ConfigFault} :
    (if p then some f else rest) = none ↔ ¬p ∧ rest = none := by
  split <;> simp_all

theorem fault?_eq_none_iff {c : Config} : c.fault? = none ↔ c.Usable := by
  have checks : c.fault? = none ↔ c.vrid ≠ 0 ∧ c.priority ≠ releasePriority ∧
      ¬c.addresses.isEmpty ∧ c.addresses.length ≤ maxAddresses ∧
      firstRepeat? [] c.addresses = none ∧ ¬c.interface.isEmpty ∧
      c.interface.utf8ByteSize ≤ maxNameLength ∧ c.advertInterval ≠ 0 ∧
      c.advertInterval ≤ c.version.maxInterval := by
    unfold fault?
    cases firstRepeat? [] c.addresses <;>
      simp only [check_eq_none_iff, not_or, Nat.not_lt, UInt16.not_lt, reduceCtorEq, and_true,
        true_and, false_and, and_false, ne_eq]
  rw [checks, firstRepeat?_eq_none_iff]
  constructor
  · rintro ⟨router, priority, served, count, ⟨distinct, -⟩, named, short, paced, interval⟩
    exact ⟨router, priority, served, count, distinct, named, short, paced, interval⟩
  · rintro ⟨router, priority, served, count, distinct, named, short, paced, interval⟩
    exact ⟨router, priority, served, count, ⟨distinct, by simp⟩, named, short, paced, interval⟩

end Config
end VirtualRouter
