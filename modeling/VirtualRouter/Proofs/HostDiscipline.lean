import VirtualRouter.Proofs.NodeHistory

/-!
# What a node does to its host

The calls to the host are a sequence of tenures. A tenure switches the interface to the
hardware address of the virtual router, announces every virtual address and, when the role is
given up, switches back. No failing call changes the sequence.
-/

set_option autoImplicit false

namespace VirtualRouter

def Call.isHost : Call → Bool
  | .applyMac _ _ _ => true
  | .announce _ _ _ => true
  | _ => false

def hostCalls (t : List Exchange) : List Call := (t.map Exchange.call).filter Call.isHost

theorem hostCalls_append (t u : List Exchange) :
    hostCalls (t ++ u) = hostCalls t ++ hostCalls u := by
  simp [hostCalls]

def takeoverCalls (c : Config) (b : Binding) : List Call :=
  .applyMac b (Mac.ofRouter c.vrid) .virtual ::
    c.addresses.map fun a => .announce b.index (Mac.ofRouter c.vrid) a

def restoreCall (b : Binding) : Call := .applyMac b b.mac .real

def tenure (c : Config) (b : Binding) : List Call := takeoverCalls c b ++ [restoreCall b]

def tenures (c : Config) (b : Binding) (k : Nat) : List Call :=
  (List.replicate k (tenure c b)).flatten

theorem tenures_succ (c : Config) (b : Binding) (k : Nat) :
    tenures c b (k + 1) = tenures c b k ++ takeoverCalls c b ++ [restoreCall b] := by
  simp [tenures, List.replicate_succ', tenure]

namespace Node

theorem hostCalls_takesOver {n m : Node} {t : List Exchange} (h : n.TakesOver t m) :
    hostCalls t = takeoverCalls n.config n.binding := by
  cases h with
  | mk switched sent u now announced =>
    have all : n.announcements.filter Call.isHost = n.announcements := by
      simp [announcements, Call.isHost]
    simp only [hostCalls, List.map_cons, List.map_append, announced, List.filter_cons,
      List.filter_append, all]
    simp [Call.isHost, takeoverCalls, announcements, virtualMac]

/-- A step opens a tenure where it takes the role, ends it where it leaves the role, and else
makes no call to the host. -/
theorem hostCalls_acts {n m : Node} {t : List Exchange} (acted : n.Acts t m) :
    (n.role ≠ .master ∧ m.role = .master ∧ hostCalls t = takeoverCalls n.config n.binding) ∨
    (n.role = .master ∧ m.role ≠ .master ∧ hostCalls t = [restoreCall n.binding]) ∨
    ((m.role = .master ↔ n.role = .master) ∧ hostCalls t = []) := by
  cases acted with
  | ownerTakesOver role _ run =>
    have calls := hostCalls_takesOver run
    cases run
    exact .inl ⟨by simp [role], rfl, calls⟩
  | backupTakesOver now role _ run =>
    have calls := hostCalls_takesOver run
    cases run
    exact .inl ⟨by simp [role], rfl, calls⟩
  | stepsDown _ _ _ _ _ role =>
    exact .inr (.inl ⟨role, by simp, rfl⟩)
  | standsBy _ role => exact .inr (.inr ⟨by simp [role], rfl⟩)
  | _ => exact .inr (.inr ⟨by simp, rfl⟩)

theorem hostCalls_releases {n m : Node} {t : List Exchange} {wasMaster : Bool}
    (h : n.Releases t wasMaster m) :
    hostCalls t = if n.role = .master then [restoreCall n.binding] else [] := by
  cases h with
  | master _ _ role => simp [hostCalls, role, List.filter_cons, Call.isHost, restoreCall]
  | other role => simp [hostCalls, role]

theorem Life.hostCalls_eq {c : Config} {b : Binding} {n₀ n : Node} {t : List Exchange}
    {w : Option Bool} (same : n₀.config = c ∧ n₀.binding = b) (outside : n₀.role ≠ .master)
    (h : Life n₀ t w n) : ∃ k, hostCalls t = tenures c b k ++
      if w = none ∧ n.role = .master then takeoverCalls c b else [] := by
  induction h with
  | start => exact ⟨0, by simp [hostCalls, tenures, outside]⟩
  | refused _ ih =>
    obtain ⟨k, calls⟩ := ih
    exact ⟨k, by simpa [hostCalls, Call.isHost] using calls⟩
  | @acts t u n m before acted ih =>
    obtain ⟨k, calls⟩ := ih
    have config : n.config = c := (congrArg (·.1) before.identity_eq).trans same.1
    have binding : n.binding = b := (congrArg (·.2.1) before.identity_eq).trans same.2
    have split : hostCalls (t ++ ⟨.shutdownRequested, false⟩ :: u) = hostCalls t ++ hostCalls u :=
      hostCalls_append t _
    rw [split, calls]
    rcases hostCalls_acts acted with ⟨off, on, opened⟩ | ⟨on, off, closed⟩ | ⟨kept, none⟩
    · exact ⟨k, by simp [off, on, opened, config, binding]⟩
    · exact ⟨k + 1, by simp [off, on, closed, binding, tenures_succ]⟩
    · exact ⟨k, by simp [kept, none]⟩
  | @releases t u n m wasMaster before released ih =>
    obtain ⟨k, calls⟩ := ih
    have binding : n.binding = b := (congrArg (·.2.1) before.identity_eq).trans same.2
    have split : hostCalls (t ++ ⟨.shutdownRequested, true⟩ :: u) = hostCalls t ++ hostCalls u :=
      hostCalls_append t _
    rw [split, calls, hostCalls_releases released, binding]
    by_cases role : n.role = .master
    · exact ⟨k + 1, by simp [role, tenures_succ]⟩
    · exact ⟨k, by simp [role]⟩

/-- The calls to the host are full tenures, and an open one at the end exactly while the node
is master and its first run has not returned. -/
theorem host_calls_are_tenures {c : Config} {b : Binding} {n₀ n : Node} {t : List Exchange}
    {w : Option Bool} (started : start c b = .ok n₀) (h : History n₀ t w n) :
    ∃ k, hostCalls t = tenures c b k ++
      if w = none ∧ n.role = .master then takeoverCalls c b else [] := by
  obtain ⟨-, p, -, rfl⟩ := start_eq_ok_iff.mp started
  exact h.life.hostCalls_eq ⟨rfl, rfl⟩ (by simp)

theorem host_calls_of_one_tenure : ∃ t n k,
    start .sample .sample = .ok sample ∧ History sample t (some true) n ∧
      hostCalls t = tenures .sample .sample k ++
        if some true = none ∧ n.role = .master then takeoverCalls .sample .sample else [] := by
  obtain ⟨t, n, h⟩ := history_sample
  obtain ⟨k, calls⟩ := host_calls_are_tenures start_sample h
  exact ⟨t, n, k, start_sample, h, calls⟩

end Node
end VirtualRouter
