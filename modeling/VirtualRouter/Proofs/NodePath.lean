import VirtualRouter.Proofs.OwnAdverts

/-!
# Paths of single steps

A path is a sequence of steps with the nodes before and after each of them. What a step read
from the clock, waited for and accepted is told by its exchanges alone, so that what the timers
have to be can be said without the timers.
-/

set_option autoImplicit false

namespace VirtualRouter

def Exchange.reading? : Exchange → Option Nat
  | ⟨.clock, now⟩ => some now
  | _ => none

def Exchange.wait? : Exchange → Option Nat
  | ⟨.receive timeout, _⟩ => some timeout
  | _ => none

def readings (t : List Exchange) : List Nat := t.filterMap Exchange.reading?

def waits (t : List Exchange) : List Nat := t.filterMap Exchange.wait?

theorem readings_append (t u : List Exchange) : readings (t ++ u) = readings t ++ readings u :=
  List.filterMap_append

namespace Timers

@[simp] theorem disarm_armAdvert (t : Timers) (now : Nat) : (t.armAdvert now).disarm = t.disarm :=
  rfl

@[simp] theorem disarm_armMasterDown (t : Timers) (now : Nat) :
    (t.armMasterDown now).disarm = t.disarm := rfl

@[simp] theorem disarm_armSkew (t : Timers) (now : Nat) : (t.armSkew now).disarm = t.disarm := rfl

@[simp] theorem disarm_disarm (t : Timers) : t.disarm.disarm = t.disarm := rfl

end Timers

namespace Node
open Interaction

def accepted? (n : Node) : Exchange → Option Advert
  | ⟨.receive _, .datagram d⟩ => (n.expectation.accept d).toOption
  | _ => none

def adverts (n : Node) (t : List Exchange) : List Advert := t.filterMap n.accepted?

theorem accepted?_receive (n : Node) (timeout : Nat) (rc : Reception) :
    n.accepted? ⟨.receive timeout, rc⟩ = (n.heard rc).2 := by
  cases rc with
  | datagram d =>
    simp only [accepted?, heard]
    cases n.expectation.accept d <;> rfl
  | timeout => rfl
  | failed => rfl

structure Episode where
  before : Node
  exchanged : List Exchange
  after : Node

/-- In `Path n₀ s ws n` a node that was `n₀` has become `n` by the episodes `s`. The runs that
have returned told `ws`. -/
inductive Path (n₀ : Node) : List Episode → List Bool → Node → Prop
  | start : Path n₀ [] [] n₀
  | step {s : List Episode} {ws : List Bool} {u : List Exchange} {n m : Node} {r : Step}
      (before : Path n₀ s ws n) (run : n.step.Runs u (r, m)) :
      Path n₀ (s ++ [⟨n, u, m⟩]) ws m
  | finish {s : List Episode} {ws : List Bool} {u v : List Exchange} {n k m : Node} {w : Bool}
      (before : Path n₀ s ws n) (refused : n.step.Runs u (.shutdown, k))
      (released : k.release.Runs v (w, m)) : Path n₀ (s ++ [⟨n, u ++ v, m⟩]) (ws ++ [w]) m

def trace (s : List Episode) : List Exchange := s.flatMap Episode.exchanged

theorem trace_concat (s : List Episode) (e : Episode) :
    trace (s ++ [e]) = trace s ++ e.exchanged := by
  simp [trace]

theorem path_run {n₀ n m : Node} {s : List Episode} {ws : List Bool} {u : List Exchange}
    {w : Option Bool} (bound : Nat) (before : Path n₀ s ws n)
    (run : (n.runFor bound).Runs u (w, m)) :
    ∃ s', Path n₀ s' (ws ++ w.toList) m ∧ trace s' = trace s ++ u := by
  -- Each step that proceeds is one more episode; the one that does not is part of the last.
  induction bound generalizing s u n with
  | zero =>
    obtain ⟨rfl, ended⟩ := runs_done_iff.mp run
    obtain ⟨rfl, rfl⟩ := Prod.mk.inj ended
    exact ⟨s, by simpa using before, by simp⟩
  | succ bound ih =>
    unfold runFor at run
    obtain ⟨⟨r, k⟩, u, v, rfl, first, rest⟩ := runs_bind_iff.mp run
    cases r with
    | proceed =>
      obtain ⟨s', path, all⟩ := ih (before.step first) rest
      exact ⟨s', path, by simp [all, trace_concat]⟩
    | shutdown =>
      obtain ⟨⟨wasMaster, k'⟩, v, _, rfl, released, ended⟩ := runs_bind_iff.mp rest
      simp only [pure_eq, runs_done_iff, Prod.mk.injEq] at ended
      obtain ⟨rfl, rfl, rfl⟩ := ended
      exact ⟨_, before.finish first released, by simp [trace_concat]⟩

theorem History.path {n₀ n : Node} {t : List Exchange} {w : Option Bool}
    (h : History n₀ t w n) : ∃ s, Path n₀ s w.toList n ∧ trace s = t := by
  induction h with
  | start => exact ⟨[], .start, rfl⟩
  | step _ run ih =>
    obtain ⟨s, path, rfl⟩ := ih
    exact ⟨_, path.step run, trace_concat _ _⟩
  | run bound _ run ih =>
    obtain ⟨s, path, rfl⟩ := ih
    simpa using path_run bound path run

def follows (n : Node) (a : Advert) : Bool :=
  a.priority ≠ releasePriority && match n.role with
    | .init => false
    | .backup => !n.config.preempt || n.priority ≤ a.priority
    | .master => dominates a.priority a.source n.priority n.binding.address

def Disregards (n : Node) (a : Advert) : Prop :=
  a.priority ≠ releasePriority ∧ n.follows a = false

namespace Episode

def advert? (e : Episode) : Option Advert := (e.before.adverts e.exchanged).head?

def followed? (e : Episode) : Option Advert := e.advert?.filter e.before.follows

def lastReading? (e : Episode) : Option Nat := (readings e.exchanged).getLast?

/-- What an episode does to the timers, and the reading of the clock at which it arms one. -/
inductive Times (e : Episode) : Prop
  | keeps (timers : e.after.timers = e.before.timers) (role : e.after.role = e.before.role)
      (silent : payloads e.exchanged = [])
      (disregarded : ∀ a, e.advert? = some a → e.before.Disregards a)
  | standsBy (now : Nat) (before : e.before.role = .init) (after : e.after.role = .backup)
      (unheard : e.advert? = none) (reading : e.lastReading? = some now)
      (timers : e.after.timers = e.before.timers.armMasterDown now)
  | follows (a : Advert) (now : Nat) (followed : e.followed? = some a)
      (after : e.after.role = .backup) (reading : e.lastReading? = some now)
      (timers : e.after.timers = (e.before.resync a).timers.armMasterDown now)
  | hurries (a : Advert) (now : Nat) (heard : e.advert? = some a)
      (release : a.priority = releasePriority) (before : e.before.role = .backup)
      (after : e.after.role = .backup) (reading : e.lastReading? = some now)
      (timers : e.after.timers = e.before.timers.armSkew now)
  | asserts (now : Nat) (sent : payloads e.exchanged ≠ []) (after : e.after.role = .master)
      (unfollowed : e.followed? = none) (reading : e.lastReading? = some now)
      (timers : e.after.timers = e.before.timers.armAdvert now)

end Episode

@[simp] theorem timers_afterSend (n : Node) (sent : Bool) :
    (n.afterSend sent).timers = n.timers := by
  cases sent <;> rfl

/-- Of a takeover only the last exchange tells what announcements do not tell. -/
theorem filterMap_announced {α : Type} {n : Node} {u : List Exchange} {f : Exchange → Option α}
    (silent : ∀ i m a told, f ⟨.announce i m a, told⟩ = none)
    (announced : u.map Exchange.call = n.announcements) (x : Exchange) :
    (u ++ [x]).filterMap f = (f x).toList := by
  have none : u.filterMap f = [] := by
    rw [List.filterMap_eq_nil_iff]
    intro e member
    obtain ⟨a, told, rfl⟩ := announce_of_mem announced member
    exact silent _ _ _ told
  rw [List.filterMap_append, none, List.nil_append]
  cases told : f x <;> simp [told]

theorem adverts_receive {n : Node} {u : List Exchange} (timeout : Nat) (rc : Reception)
    (unheard : n.adverts u = []) :
    (n.adverts (⟨.receive timeout, rc⟩ :: u)).head? = (n.heard rc).2 := by
  rw [adverts, List.filterMap_cons, accepted?_receive]
  cases (n.heard rc).2 with
  | none => exact congrArg List.head? unheard
  | some a => rfl

theorem times_takesOver {n m : Node} {t : List Exchange} (h : n.TakesOver t m) :
    m.role = .master ∧ ∃ now, m.timers = n.timers.armAdvert now ∧ readings t = [now] ∧
      waits t = [] ∧ ∀ k : Node, k.adverts t = [] := by
  cases h with
  | mk switched sent u now announced =>
    refine ⟨rfl, now, by simp [toMaster], ?_, ?_, fun k => ?_⟩
    · exact filterMap_announced (f := Exchange.reading?) (fun _ _ _ _ => rfl) announced _
    · exact filterMap_announced (f := Exchange.wait?) (fun _ _ _ _ => rfl) announced _
    · exact filterMap_announced (f := k.accepted?) (fun _ _ _ _ => rfl) announced _

theorem timers_resync_heard (n : Node) (rc : Reception) (a : Advert) :
    ((n.heard rc).1.resync a).timers = (n.resync a).timers := by
  have config : (n.heard rc).1.config = n.config := congrArg (·.1) (identity_heard n rc)
  unfold resync
  split
  · rw [timers_mapTimers, timers_mapTimers, timers_heard, config]
  · exact timers_heard n rc

theorem follows_release {n : Node} {a : Advert} (release : a.priority = releasePriority) :
    n.follows a = false := by
  simp [follows, release]

theorem Episode.followed?_eq {e : Episode} {a : Advert} (heard : e.advert? = some a) :
    e.followed? = if e.before.follows a then some a else none := by
  rw [followed?, heard, Option.filter_some]

theorem times_takenOver {n m : Node} {t u : List Exchange} (run : n.TakesOver t m)
    (before : n.adverts u = []) : Episode.Times ⟨n, u ++ t, m⟩ := by
  obtain ⟨role, now, timers, reading, -, unheard⟩ := times_takesOver run
  have quiet : (n.adverts (u ++ t)).head? = none := by
    rw [adverts, List.filterMap_append, ← adverts, ← adverts, before, unheard]
    rfl
  refine .asserts now ?_ role (by rw [Episode.followed?, Episode.advert?, quiet]; rfl) ?_ timers
  · rw [payloads_append, payloads_takesOver run]
    simp
  · rw [Episode.lastReading?, readings_append, reading]
    simp

theorem advert?_waiting {n m : Node} {now timeout : Nat} {rc : Reception} {u : List Exchange}
    (unheard : n.adverts u = []) :
    Episode.advert? ⟨n, ⟨.shutdownRequested, false⟩ :: ⟨.clock, now⟩ ::
      ⟨.receive timeout, rc⟩ :: u, m⟩ = (n.heard rc).2 :=
  adverts_receive timeout rc unheard

theorem keeps_of_unheard {n : Node} {now timeout : Nat} {rc : Reception}
    (nothing : (n.heard rc).2 = none) :
    Episode.Times ⟨n, [⟨.shutdownRequested, false⟩, ⟨.clock, now⟩, ⟨.receive timeout, rc⟩],
      (n.heard rc).1⟩ := by
  refine .keeps (timers_heard n rc) (role_heard n rc) rfl fun a heard => ?_
  rw [advert?_waiting rfl, nothing] at heard
  cases heard

theorem timers_backupHears {n : Node} (role : n.role = .backup) (rc : Reception) (a : Advert)
    (now : Nat) :
    ((n.heard rc).1.backupHears a now).timers =
      if a.priority = releasePriority then n.timers.armSkew now
      else if n.follows a then (n.resync a).timers.armMasterDown now
      else n.timers := by
  have config : (n.heard rc).1.config = n.config := congrArg (·.1) (identity_heard n rc)
  have priority : (n.heard rc).1.priority = n.priority := congrArg (·.2.2) (identity_heard n rc)
  unfold backupHears
  by_cases release : a.priority = releasePriority
  · rw [if_pos release, if_pos release, timers_mapTimers, timers_heard]
  · have same : n.follows a = (!n.config.preempt || n.priority ≤ a.priority) := by
      simp [follows, role, release]
    rw [if_neg release, if_neg release, config, priority, same]
    split_ifs
    · rw [timers_mapTimers, timers_resync_heard]
    · rw [timers_heard]

theorem times_acts {n m : Node} {u : List Exchange} (acted : n.Acts u m) :
    Episode.Times ⟨n, ⟨.shutdownRequested, false⟩ :: u, m⟩ := by
  cases acted with
  | ownerTakesOver role _ run =>
    exact times_takenOver (u := [⟨.shutdownRequested, false⟩]) run rfl
  | standsBy now role other => exact .standsBy now role rfl rfl rfl rfl
  | advertises now later sent role fired =>
    exact .asserts later nofun (by simp [role]) rfl rfl (by simp)
  | masterHearsNothing now rc role waiting nothing => exact keeps_of_unheard nothing
  | reasserts now later rc a sent role waiting accepted release =>
    refine .asserts later nofun (by simp [role]) ?_ rfl (by simp)
    rw [Episode.followed?_eq ((advert?_waiting rfl).trans accepted), follows_release release]
    rfl
  | stepsDown now later rc a switched role waiting accepted claim beaten =>
    refine .follows a later ?_ rfl rfl ?_
    · rw [Episode.followed?_eq ((advert?_waiting rfl).trans accepted),
        if_pos (by simp [follows, role, claim, beaten])]
    · exact congrArg (·.armMasterDown later) (timers_resync_heard n rc a)
  | ignores now rc a role waiting accepted claim unbeaten =>
    refine .keeps (timers_heard n rc) (role_heard n rc) rfl fun a' heard => ?_
    rw [advert?_waiting rfl, accepted] at heard
    cases heard
    exact ⟨claim, by simp [follows, role, unbeaten]⟩
  | backupTakesOver now role fired run =>
    exact times_takenOver (u := [⟨.shutdownRequested, false⟩, ⟨.clock, now⟩]) run rfl
  | backupHearsNothing now rc role waiting nothing => exact keeps_of_unheard nothing
  | backupHears now later rc a role waiting accepted =>
    -- The one act that either hurries, follows or leaves all as it is.
    have heard (m : Node) : Episode.advert? ⟨n, [⟨.shutdownRequested, false⟩, ⟨.clock, now⟩,
        ⟨.receive (n.timers.remaining now), rc⟩, ⟨.clock, later⟩], m⟩ = some a :=
      (advert?_waiting rfl).trans accepted
    have after : ((n.heard rc).1.backupHears a later).role = .backup := by simp [role]
    have timers := timers_backupHears role rc a later
    by_cases release : a.priority = releasePriority
    · exact .hurries a later (heard _) release role after rfl (by rw [timers, if_pos release])
    rw [if_neg release] at timers
    by_cases followed : n.follows a = true
    · refine .follows a later ?_ after rfl (by rw [timers, if_pos followed])
      rw [Episode.followed?_eq (heard _), if_pos followed]
    · refine .keeps (by rw [timers, if_neg followed]) (after.trans role.symm) rfl fun a' same => ?_
      cases (heard _).symm.trans same
      exact ⟨release, by simpa using followed⟩

theorem times_step {n m : Node} {u : List Exchange} {r : Step} (run : n.step.Runs u (r, m)) :
    Episode.Times ⟨n, u, m⟩ := by
  rcases runs_step run with ⟨-, rfl, rfl⟩ | ⟨-, u, rfl, acted⟩
  · -- A step that is refused does nothing at all.
    exact .keeps rfl rfl rfl nofun
  · exact times_acts acted

theorem identity_step {n m : Node} {u : List Exchange} {r : Step} (run : n.step.Runs u (r, m)) :
    m.identity = n.identity := by
  rcases runs_step run with ⟨-, -, rfl⟩ | ⟨-, u, -, acted⟩
  · rfl
  · exact identity_acts acted

theorem times_finish {n k m : Node} {u v : List Exchange} {w : Bool}
    (refused : n.step.Runs u (.shutdown, k)) (released : k.release.Runs v (w, m)) :
    m.timers = n.timers.disarm ∧ Episode.advert? ⟨n, u ++ v, m⟩ = none := by
  rcases runs_step refused with ⟨-, rfl, rfl⟩ | ⟨shutdown, -⟩
  · cases releases_of_release released with
    | master => exact ⟨by simp, rfl⟩
    | other => exact ⟨rfl, rfl⟩
  · cases shutdown

theorem identity_finish {n k m : Node} {u v : List Exchange} {w : Bool}
    (refused : n.step.Runs u (.shutdown, k)) (released : k.release.Runs v (w, m)) :
    m.identity = n.identity :=
  (identity_releases (releases_of_release released)).trans (identity_step refused)

theorem Path.identity_eq {n₀ n : Node} {s : List Episode} {ws : List Bool}
    (path : Path n₀ s ws n) : n.identity = n₀.identity := by
  induction path with
  | start => rfl
  | step _ run ih => exact (identity_step run).trans ih
  | finish _ refused released ih => exact (identity_finish refused released).trans ih

theorem Episode.followed?_eq_some_iff {e : Episode} {a : Advert} :
    e.followed? = some a ↔ e.advert? = some a ∧ e.before.follows a = true := by
  rw [followed?, Option.filter_eq_some_iff]

theorem Episode.exists_accepted {e : Episode} {a : Advert} (followed : e.followed? = some a) :
    ∃ d, e.before.expectation.accept d = .ok a := by
  have heard := (followed?_eq_some_iff.mp followed).1
  obtain ⟨x, -, accepted⟩ := List.mem_filterMap.mp (List.mem_of_head? heard)
  unfold accepted? at accepted
  split at accepted
  · rename_i d
    cases verdict : e.before.expectation.accept d with
    | error => simp [verdict, Except.toOption] at accepted
    | ok b =>
      obtain rfl : b = a := by simpa [verdict, Except.toOption] using accepted
      exact ⟨d, verdict⟩
  · cases accepted

theorem Episode.Times.of_followed {e : Episode} {a : Advert} (times : e.Times)
    (followed : e.followed? = some a) :
    e.after.role = .backup ∧ ∃ now, e.lastReading? = some now ∧
      e.after.timers = (e.before.resync a).timers.armMasterDown now := by
  obtain ⟨heard, follows⟩ := followed?_eq_some_iff.mp followed
  cases times with
  | keeps _ _ _ disregarded =>
    rw [(disregarded a heard).2] at follows
    cases follows
  | standsBy _ _ _ unheard => cases unheard.symm.trans heard
  | follows a' now followed' after reading timers =>
    cases followed.symm.trans followed'
    exact ⟨after, now, reading, timers⟩
  | hurries a' _ heard' release =>
    cases heard.symm.trans heard'
    rw [follows_release release] at follows
    cases follows
  | asserts _ _ _ unfollowed => cases unfollowed.symm.trans followed

theorem Episode.Times.rearmed_of_followed {e : Episode} {a : Advert} (times : e.Times)
    (followed : e.followed? = some a) : ∃ now, e.lastReading? = some now ∧
      e.after.timers = e.after.timers.armMasterDown now := by
  obtain ⟨-, now, reading, timers⟩ := times.of_followed followed
  refine ⟨now, reading, ?_⟩
  rw [timers]
  rfl

theorem Episode.Times.of_unfollowed {e : Episode} (times : e.Times)
    (unfollowed : e.followed? = none) : e.after.timers.disarm = e.before.timers.disarm := by
  cases times with
  | keeps timers => rw [timers]
  | follows _ _ followed => cases unfollowed.symm.trans followed
  | standsBy _ _ _ _ _ timers | hurries _ _ _ _ _ _ _ timers | asserts _ _ _ _ _ timers =>
    simp [timers]

/-- A backup that has accepted an advertisement follows its sender, unless it would displace it.
It does not matter whether it was a master before. -/
theorem Episode.Times.followed_of_backup {e : Episode} {a : Advert} (times : e.Times)
    (heard : e.advert? = some a) (claim : a.priority ≠ releasePriority)
    (yields : e.before.config.preempt = false ∨ e.before.priority ≤ a.priority)
    (after : e.after.role = .backup) : e.followed? = some a := by
  cases times with
  | keeps _ same _ disregarded =>
    have role : e.before.role = .backup := same.symm.trans after
    have unfollowed := (disregarded a heard).2
    simp only [Node.follows, role] at unfollowed
    rcases yields with off | lower
    · simp [claim, off] at unfollowed
    · simp [claim, lower] at unfollowed
  | standsBy _ _ _ unheard => cases unheard.symm.trans heard
  | follows a' _ followed =>
    cases heard.symm.trans (followed?_eq_some_iff.mp followed).1
    exact followed
  | hurries a' _ heard' release =>
    cases heard.symm.trans heard'
    exact absurd release claim
  | asserts _ _ master => cases after.symm.trans master

def episode (n : Node) (l : Lan) : Episode :=
  let r := n.step.runIn Lan.serve l
  ⟨n, r.2.exchanges, r.1.2⟩

theorem runs_episode (n : Node) {l : Lan} (fresh : l.exchanges = []) :
    ∃ r, n.step.Runs (n.episode l).exchanged (r, (n.episode l).after) := by
  obtain ⟨t, recorded, run⟩ := Lan.runs_runIn_serve n.step l
  rw [fresh, List.nil_append] at recorded
  exact ⟨_, recorded ▸ run⟩

theorem Path.among {n₀ n : Node} {s : List Episode} {ws : List Bool} (path : Path n₀ s ws n)
    {l : Lan} (fresh : l.exchanges = []) :
    Path n₀ (s ++ [n.episode l]) ws (n.episode l).after := by
  obtain ⟨r, run⟩ := n.runs_episode fresh
  exact path.step run

/-- A run among surroundings that have recorded nothing yet is a path. -/
theorem path_runFor (n : Node) (bound : Nat) {l : Lan} (fresh : l.exchanges = []) :
    let ended := (n.runFor bound).runIn Lan.serve l
    ∃ s, Path n s ended.1.1.toList ended.1.2 ∧ trace s = ended.2.exchanges := by
  intro ended
  obtain ⟨t, recorded, run⟩ := Lan.runs_runIn_serve (n.runFor bound) l
  obtain ⟨s, path, all⟩ := path_run bound .start run
  rw [fresh] at recorded
  exact ⟨s, path, all.trans recorded.symm⟩

end Node
end VirtualRouter
