import VirtualRouter.Proofs.Outside
import VirtualRouter.Proofs.TimerIntervals

/-!
# A shutdown is prompt and final

A shutdown may be requested at any moment, in the middle of a receive as well, and the request is
never taken back. The step under way completes. After it every step is refused and does nothing,
and the run under way, or else the next one, gives up the role once and returns.
-/

set_option autoImplicit false

namespace VirtualRouter

def Occurrence.isOutside : Occurrence → Bool
  | .takes _ _ => false
  | .exchanges _ => false
  | _ => true

namespace Outside

variable {o o' : Outside} {l : List Occurrence}

theorem Becomes.requested_iff {e : Occurrence} (h : o.Becomes e o') :
    o'.requested = true ↔ o.requested = true ∨ e = .requests := by
  cases h <;> simp

/-- A request stays, and nothing else sets the flag. -/
theorem Goes.requested_iff (h : o.Goes l o') :
    o'.requested = true ↔ o.requested = true ∨ .requests ∈ l := by
  induction h with
  | nil => simp
  | @cons _ _ _ e _ first _ ih =>
    rw [ih, first.requested_iff, List.mem_cons, or_assoc, @eq_comm _ e]

theorem Answers.flag_eq {r : Bool} (h : o.Answers ⟨.shutdownRequested, r⟩) : r = o.requested := by
  generalize told : (⟨.shutdownRequested, r⟩ : Exchange) = e at h
  cases h with
  | flag =>
    cases told
    rfl
  | effect may =>
    cases told
    cases may
  | _ => cases told

/-- Once a shutdown is requested, no look at the flag misses it. -/
theorem Goes.flag_not_false (h : o.Goes l o') (asked : o.requested = true) :
    ⟨.shutdownRequested, false⟩ ∉ exchanges l := by
  induction h with
  | nil => exact List.not_mem_nil
  | cons first _ ih =>
    have later := ih (first.requested_iff.mpr (.inl asked))
    cases first with
    | exchanges answered =>
      refine fun member => (List.mem_cons.mp member).elim (fun now => ?_) later
      subst now
      exact Bool.false_ne_true (answered.flag_eq.trans asked)
    | takes => exact fun member => (List.mem_cons.mp member).elim nofun later
    | _ => exact later

/-- If nothing is taken, the outside goes the same way without the node. -/
theorem Goes.alone (h : o.Goes l o') (untaken : taken l = []) :
    o.Goes (l.filter Occurrence.isOutside) o' := by
  induction h with
  | nil o => exact .nil o
  | cons first _ ih =>
    rw [taken_cons, List.append_eq_nil_iff] at untaken
    have later := ih untaken.2
    cases first with
    | takes => cases untaken.1
    | exchanges => exact later
    | passes now => exact .cons (.passes now) later
    | arrives x => exact .cons (.arrives x) later
    | requests => exact .cons .requests later

end Outside

namespace Course

variable {n₀ n k : Node} {o₀ o o' : Outside} {ss : List Stretch} {ws : List Bool}

theorem requested_iff (course : Course n₀ o₀ ss ws n o) :
    o.requested = true ↔ o₀.requested = true ∨ ∃ s ∈ ss, .requests ∈ s.occurred := by
  have extended {ss : List Stretch} {o o' : Outside} {l : List Occurrence} {m : Node}
      (goes : o.Goes l o')
      (ih : o.requested = true ↔ o₀.requested = true ∨ ∃ s ∈ ss, .requests ∈ s.occurred) :
      o'.requested = true ↔
        o₀.requested = true ∨ ∃ s ∈ ss ++ [⟨l, m, o'⟩], .requests ∈ s.occurred := by
    rw [goes.requested_iff, ih]
    simp [or_and_right, exists_or, or_assoc]
  induction course with
  | start => simp
  | rests _ goes _ ih | steps _ goes _ ih | ends _ goes _ _ _ ih => exact extended goes ih

end Course

namespace Interaction

variable {α β : Type} {i : Interaction α} {f : α → Interaction β} {t u : List Exchange}
  {a : α} {b : β}

/-- What has been exchanged settles how the first of two interactions has ended. -/
theorem runs_bind_of_runs (first : i.Runs t a) : (i >>= f).Runs (t ++ u) b ↔ (f a).Runs u b := by
  induction first with
  | done => exact Iff.rfl
  | ask _ ih =>
    constructor
    · intro run
      cases run with
      | ask rest => exact ih.mp rest
    · intro run
      exact .ask (ih.mpr run)

end Interaction

namespace Node
open Interaction

variable {n k m : Node} {t u : List Exchange} {w : Bool}

theorem runs_refused (n : Node) : n.step.Runs [⟨.shutdownRequested, true⟩] (.shutdown, n) :=
  .ask (.done _)

theorem runs_release_iff : n.release.Runs t (w, m) ↔ n.Releases t w m := by
  refine ⟨releases_of_release, fun released => ?_⟩
  cases released with
  | master switched sent role =>
    simp only [release, if_pos role, call, ask_bind, done_bind, runs_ask_iff, runs_bind_iff,
      runs_sendAdvert_iff]
    exact ⟨switched, _, rfl, _, _, [], rfl, ⟨sent, rfl, rfl⟩, .done _⟩
  | other role =>
    simp only [release, if_neg role]
    exact .done _

theorem received_releases (released : n.Releases t w m) : received t = [] := by
  cases released <;> rfl

/-- A run that has made some steps goes on as a run of the node that they have led to. -/
theorem runs_runFor_add {i j : Nat} {x : Option Bool × Node}
    (made : (n.runFor i).Runs u (none, k)) :
    (n.runFor (i + j)).Runs (u ++ t) x ↔ (k.runFor j).Runs t x := by
  induction i generalizing n u with
  | zero =>
    obtain ⟨rfl, ended⟩ := runs_done_iff.mp made
    obtain ⟨-, rfl⟩ := Prod.mk.inj ended
    rw [Nat.zero_add, List.nil_append]
  | succ i ih =>
    unfold runFor at made
    obtain ⟨⟨r, n'⟩, v, u', rfl, first, rest⟩ := runs_bind_iff.mp made
    cases r with
    | proceed =>
      rw [Nat.succ_add, runFor, List.append_assoc, runs_bind_of_runs first]
      exact ih rest
    | shutdown =>
      obtain ⟨⟨wasMaster, k'⟩, _, _, -, -, ended⟩ := runs_bind_iff.mp rest
      cases (runs_done_iff.mp ended).2

/-- What a node that is told to stop does while the outside goes along `l`. A step is refused.
Whichever run is under way ends at once, and gives up the role once if there is one to give up.
Neither of them takes anything or takes any time. -/
structure Stops (n : Node) (o : Outside) (l : List Occurrence) (o' : Outside) : Prop where
  step (r : Step) (m : Node) : n.step.Runs (exchanges l) (r, m) ↔
    exchanges l = [⟨.shutdownRequested, true⟩] ∧ r = .shutdown ∧ m = n ∧
      o.Goes (l.filter Occurrence.isOutside) o'
  run {a : Node} {u : List Exchange} {i : Nat} (made : (a.runFor i).Runs u (none, n)) (j : Nat)
    (w : Option Bool) (m : Node) : (a.runFor (i + (j + 1))).Runs (u ++ exchanges l) (w, m) ↔
      ∃ t wasMaster, exchanges l = ⟨.shutdownRequested, true⟩ :: t ∧ w = some wasMaster ∧
        n.Releases t wasMaster m ∧ o.Goes (l.filter Occurrence.isOutside) o'

theorem stops_of_requested {o o' : Outside} {l : List Occurrence} (n : Node)
    (asked : o.requested = true) (goes : o.Goes l o') : n.Stops o l o' := by
  have told := goes.flag_not_false asked
  have alone (unheard : received (exchanges l) = []) : o.Goes (l.filter Occurrence.isOutside) o' :=
    goes.alone (List.map_eq_nil_iff.mp (goes.received_eq.symm.trans unheard))
  constructor
  · intro r m
    constructor
    · intro run
      rcases runs_step run with ⟨rfl, all, rfl⟩ | ⟨-, u, all, -⟩
      · exact ⟨all, rfl, rfl, alone (all ▸ rfl)⟩
      · exact absurd (all ▸ List.mem_cons_self) told
    · rintro ⟨all, rfl, same, -⟩
      rw [all, same]
      exact n.runs_refused
  · intro a u i made j w m
    rw [runs_runFor_add made]
    constructor
    · intro run
      rcases runs_runFor_succ run with ⟨t, wasMaster, all, rfl, released⟩ | ⟨t, v, -, all, -, -⟩
      · refine ⟨t, wasMaster, all, rfl, released, alone ?_⟩
        calc received (exchanges l) = received t := by rw [all]; rfl
          _ = [] := received_releases released
      · exact absurd (all ▸ List.mem_cons_self) told
    · rintro ⟨t, wasMaster, all, rfl, released, -⟩
      rw [all]
      refine runs_bind_iff.mpr ⟨_, _, t, rfl, n.runs_refused, ?_⟩
      exact runs_bind_iff.mpr ⟨_, t, [], (List.append_nil t).symm, runs_release_iff.mpr released,
        .done _⟩

end Node
end VirtualRouter
