import VirtualRouter.Proofs.NodeHistory

/-!
# The armed timer follows the role

A backup waits on the master-down timer and nothing else, a master on the advertisement timer
and nothing else. Every branch of a step arms the right one again, whatever fails on the way.
-/

set_option autoImplicit false

namespace VirtualRouter.Node

def Armed (n : Node) : Prop :=
  match n.role with
  | .init => n.timers.advertDeadline = none ∧ n.timers.masterDownDeadline = none
  | .backup => n.timers.advertDeadline = none ∧ n.timers.masterDownDeadline ≠ none
  | .master => n.timers.advertDeadline ≠ none ∧ n.timers.masterDownDeadline = none

def Disarmed (n : Node) : Prop :=
  n.timers.advertDeadline = none ∧ n.timers.masterDownDeadline = none

theorem armed_congr {n m : Node} (role : m.role = n.role) (timers : m.timers = n.timers)
    (h : n.Armed) : m.Armed := by
  simpa only [Armed, role, timers] using h

theorem armed_start {c : Config} {b : Binding} {n₀ : Node} (started : start c b = .ok n₀) :
    n₀.Armed := by
  obtain ⟨-, p, -, rfl⟩ := start_eq_ok_iff.mp started
  exact ⟨rfl, rfl⟩

theorem armed_toBackup (n : Node) (now : Nat) : (n.toBackup now).Armed :=
  ⟨rfl, Option.some_ne_none _⟩

theorem armed_toMaster (n : Node) (now : Nat) : (n.toMaster now).Armed :=
  ⟨Option.some_ne_none _, rfl⟩

/-- Arming the advertisement timer again is right for a master. -/
theorem armed_armAdvert {n : Node} (role : n.role = .master) (now : Nat) :
    (n.mapTimers (·.armAdvert now)).Armed := by
  simp [Armed, role, Timers.armAdvert]

theorem armed_backupHears {n : Node} (role : n.role = .backup) (h : n.Armed) (a : Advert)
    (now : Nat) : (n.backupHears a now).Armed := by
  unfold backupHears
  split_ifs
  · simp [Armed, role, Timers.armSkew]
  · simp [Armed, role, Timers.armMasterDown]
  · exact h

theorem armed_takesOver {n m : Node} {t : List Exchange} (h : n.TakesOver t m) :
    m.Armed ∧ m.role = .master := by
  cases h
  exact ⟨armed_toMaster _ _, rfl⟩

/-- One step leaves the right timer armed, and leaves the first state for good. -/
theorem armed_acts {n m : Node} {t : List Exchange} (h : n.Armed) (acted : n.Acts t m) :
    m.Armed ∧ m.role ≠ .init := by
  cases acted with
  | ownerTakesOver _ _ run =>
    obtain ⟨armed, role⟩ := armed_takesOver run
    exact ⟨armed, by simp [role]⟩
  | standsBy now => exact ⟨armed_toBackup n now, by simp⟩
  | advertises _ later sent role =>
    exact ⟨armed_armAdvert (by simp [role]) later, by simp [role]⟩
  | masterHearsNothing _ rc role =>
    exact ⟨armed_congr (by simp) (by simp) h, by simp [role]⟩
  | reasserts _ later _ _ _ role =>
    exact ⟨armed_armAdvert (by simp [role]) later, by simp [role]⟩
  | stepsDown _ later => exact ⟨armed_toBackup _ later, by simp⟩
  | ignores _ rc _ role => exact ⟨armed_congr (by simp) (by simp) h, by simp [role]⟩
  | backupTakesOver _ _ _ run =>
    obtain ⟨armed, role⟩ := armed_takesOver run
    exact ⟨armed, by simp [role]⟩
  | backupHearsNothing _ rc role =>
    exact ⟨armed_congr (by simp) (by simp) h, by simp [role]⟩
  | backupHears _ later rc a role =>
    have waiting : (n.heard rc).1.Armed := armed_congr (by simp) (by simp) h
    exact ⟨armed_backupHears (by simp [role]) waiting a later, by simp [role]⟩

theorem disarmed_releases {n m : Node} {t : List Exchange} {wasMaster : Bool}
    (h : n.Releases t wasMaster m) : m.Disarmed ∧ m.role = n.role := by
  cases h <;> exact ⟨⟨rfl, rfl⟩, by simp⟩

theorem Life.armed {n₀ n : Node} {t : List Exchange} {w : Option Bool} (h₀ : n₀.Armed)
    (h : Life n₀ t w n) : (w = none → n.Armed) ∧ (w ≠ none → n.Disarmed) := by
  induction h with
  | start => exact ⟨fun _ => h₀, fun h => absurd rfl h⟩
  | refused _ ih => exact ih
  | acts _ acted ih => exact ⟨fun _ => (armed_acts (ih.1 rfl) acted).1, fun h => absurd rfl h⟩
  | releases _ released => exact ⟨nofun, fun _ => (disarmed_releases released).1⟩

/-- A node that has left its first state never gets back to it. -/
theorem Life.role_ne_init {n₀ n : Node} {t : List Exchange} {w : Option Bool} (h₀ : n₀.Armed)
    (left : n₀.role ≠ .init) (h : Life n₀ t w n) : n.role ≠ .init := by
  induction h with
  | start => exact left
  | refused _ ih => exact ih
  | acts before acted => exact (armed_acts ((before.armed h₀).1 rfl) acted).2
  | releases _ released ih => rwa [(disarmed_releases released).2]

/-- At every moment before the first run has returned exactly the timer of the role is armed;
from then on none is. The first state is left for good. -/
theorem armed_timer_follows_role {c : Config} {b : Binding} {n₀ n m : Node}
    {t u : List Exchange} {w : Option Bool} (started : start c b = .ok n₀)
    (before : History n₀ t none n) (after : History n u w m) :
    n.Armed ∧ (n.role ≠ .init → m.role ≠ .init) ∧ (w ≠ none → m.Disarmed) := by
  have armed : n.Armed := (before.life.armed (armed_start started)).1 rfl
  exact ⟨armed, fun left => after.life.role_ne_init armed left, (after.life.armed armed).2⟩

/-- A backup that the silence of its master promotes, and that is then told to stop. -/
theorem armed_timer_of_promoted_backup : ∃ n m t u,
    start .sample .sample = .ok sample ∧ History sample t none n ∧ History n u (some true) m ∧
      n.role = .master ∧ n.Armed ∧ (n.role ≠ .init → m.role ≠ .init) ∧
      (some true ≠ none → m.Disarmed) := by
  let s := ((Session.start sample 0).handle (.step 3)).2
  have before : History sample s.lan.exchanges none s.node := Session.history_handle _ .start
  have told : ((s.node.runFor 1).runIn Lan.serve
      { s.lan with shutdownRequested := true }).1.1 = some true := by decide
  obtain ⟨u, m, after⟩ := exists_history told
  exact ⟨s.node, m, _, u, start_sample, before, after, by decide,
    armed_timer_follows_role start_sample before after⟩

end VirtualRouter.Node
