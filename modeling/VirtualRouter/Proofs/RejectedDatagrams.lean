import VirtualRouter.Proofs.Outside
import VirtualRouter.Proofs.HostDiscipline
import VirtualRouter.Proofs.OwnAdverts

/-!
# Rejected datagrams do not influence a node

If any datagrams that a node rejects are deleted from a course, and with them the steps that take
them, then what is left is a course again. In it the node has the same states and timers at the
same times, sends the same and asks the same of its host. Only what it counts as rejected differs.
-/

set_option autoImplicit false

namespace VirtualRouter

def SameButRejected (s s' : Stats) : Prop :=
  s' = { s with invalidAdverts := s'.invalidAdverts, checksumErrors := s'.checksumErrors }

namespace Node

theorem impartial_rejected : Impartial (fun _ r r' => r = r') SameButRejected where
  decides _ answers := answers
  sends n s payload r r' answers counts := by
    subst answers
    rw [counts]
    cases r <;> rfl
  hears n s rc counts := by
    rw [counts]
    cases rc with
    | datagram d =>
      have expected : (n.withStats { n.stats with
        invalidAdverts := s.invalidAdverts, checksumErrors := s.checksumErrors }).expectation =
          n.expectation := rfl
      simp only [heard, expected]
      cases n.expectation.accept d <;> rfl
    | timeout => rfl
    | failed => rfl
  turns n s now counts := by
    rw [counts]
    exact ⟨rfl, rfl⟩

theorem heard_of_rejected {n : Node} {d : Octets} {e : Rejection}
    (rejected : n.expectation.accept d = .error e) :
    n.heard (.datagram d) = (n.countRejected e, none) := by
  simp only [heard, rejected]

/-- A step waits only once. -/
theorem mem_received_waiting {now timeout : Nat} {rc : Reception} {u : List Exchange} {d : Octets}
    (silent : received u = []) :
    d ∈ received (⟨.clock, now⟩ :: ⟨.receive timeout, rc⟩ :: u) ↔ rc = .datagram d := by
  have told : received (⟨.clock, now⟩ :: ⟨.receive timeout, rc⟩ :: u) =
      received [⟨.receive timeout, rc⟩] := by
    change received ([⟨.receive timeout, rc⟩] ++ u) = _
    rw [received, List.filterMap_append, ← received, ← received, silent, List.append_nil]
  rw [told]
  cases rc with
  | datagram d' => simp [received, Exchange.datagram?, eq_comm]
  | timeout => simp [received, Exchange.datagram?]
  | failed => simp [received, Exchange.datagram?]

theorem received_takesOver {n m : Node} {t : List Exchange} (h : n.TakesOver t m) :
    received t = [] := by
  cases h with
  | mk switched sent u now announced =>
    exact filterMap_announced (f := Exchange.datagram?) (fun _ _ _ _ => rfl) announced _

/-- A step that takes a datagram which is rejected counts it and does nothing else. -/
theorem acts_of_rejected {n m : Node} {t : List Exchange} (acted : n.Acts t m) {d : Octets}
    {e : Rejection} (took : d ∈ received t) (rejected : n.expectation.accept d = .error e) :
    ∃ now, t = [⟨.clock, now⟩, ⟨.receive (n.timers.remaining now), .datagram d⟩] ∧
      m = n.countRejected e := by
  have heard := heard_of_rejected rejected
  cases acted with
  | ownerTakesOver _ _ run =>
    rw [received_takesOver run] at took
    exact absurd took List.not_mem_nil
  | @backupTakesOver u _ now _ _ run =>
    have silent : received u = [] := received_takesOver run
    have same : received (⟨.clock, now⟩ :: u) = received u := rfl
    rw [same, silent] at took
    exact absurd took List.not_mem_nil
  | standsBy | advertises => exact absurd took List.not_mem_nil
  | masterHearsNothing now rc | backupHearsNothing now rc =>
    obtain rfl := (mem_received_waiting rfl).mp took
    exact ⟨now, rfl, congrArg Prod.fst heard⟩
  | reasserts now later rc a sent _ _ accepted | stepsDown now later rc a sent _ _ accepted
  | ignores now rc a _ _ accepted | backupHears now later rc a _ _ accepted =>
    -- What is rejected is not accepted.
    obtain rfl := (mem_received_waiting rfl).mp took
    rw [heard] at accepted
    cases accepted

theorem step_of_rejected {n m : Node} {t : List Exchange} {r : Step}
    (run : n.step.Runs t (r, m)) {d : Octets} {e : Rejection} (took : d ∈ received t)
    (rejected : n.expectation.accept d = .error e) :
    m = n.countRejected e ∧ received t = [d] ∧ payloads t = [] ∧ hostCalls t = [] := by
  rcases runs_step run with ⟨-, rfl, -⟩ | ⟨-, u, rfl, acted⟩
  · exact absurd took List.not_mem_nil
  · obtain ⟨now, rfl, rfl⟩ := acts_of_rejected acted took rejected
    exact ⟨rfl, rfl, rfl, rfl⟩

theorem received_finish {n k m : Node} {t u : List Exchange} {w : Bool}
    (refused : n.step.Runs t (.shutdown, k)) (released : k.release.Runs u (w, m)) :
    received (t ++ u) = [] := by
  rcases runs_step refused with ⟨-, rfl, rfl⟩ | ⟨shutdown, -⟩
  · cases releases_of_release released with
    | master => rfl
    | other => rfl
  · cases shutdown

theorem Twins.of_rejected {n m : Node} (h : Twins SameButRejected n m) (e : Rejection) :
    Twins SameButRejected (n.countRejected e) m := by
  obtain ⟨s, counts⟩ := h
  exact .of_eq rfl counts

end Node

/-! ## Deleting parcels -/

def Occurrence.stays (junk : Parcel → Bool) (deleted : Bool) : Occurrence → Bool
  | .arrives x => !junk x
  | .takes _ _ => !deleted
  | .exchanges _ => !deleted
  | _ => true

/-- What stays of a stretch. A step that takes some of the `junk` is deleted. -/
def spared (junk : Parcel → Bool) (l : List Occurrence) : List Occurrence :=
  l.filter (·.stays junk ((taken l).any junk))

def Outside.without (o : Outside) (junk : Parcel → Bool) : Outside :=
  { o with queue := o.queue.filter (!junk ·) }

/-- What stays of a stretch leads to the same state and timers at the same time, by the same
payloads and the same calls to the host. -/
structure Stretch.Spared (junk : Parcel → Bool) (s s' : Stretch) : Prop where
  occurred : s'.occurred = spared junk s.occurred
  role : s'.node.role = s.node.role
  timers : s'.node.timers = s.node.timers
  stats : SameButRejected s.node.stats s'.node.stats
  payloads : payloads (exchanges s'.occurred) = payloads (exchanges s.occurred)
  hostCalls : hostCalls (exchanges s'.occurred) = hostCalls (exchanges s.occurred)
  outside : s'.outside = s.outside.without junk

section
variable (junk : Parcel → Bool) {o o' : Outside} {l : List Occurrence}

theorem exchanges_kept (l : List Occurrence) :
    exchanges (l.filter (·.stays junk false)) = exchanges l := by
  rw [exchanges, exchanges, List.filterMap_filter]
  congr 1
  funext e
  cases e with
  | arrives x => exact ite_self none
  | _ => rfl

theorem exchanges_deleted (l : List Occurrence) :
    exchanges (l.filter (·.stays junk true)) = [] := by
  rw [exchanges, List.filterMap_eq_nil_iff]
  intro e member
  have stays := (List.mem_filter.mp member).2
  cases e with
  | takes | exchanges => cases stays
  | _ => rfl

namespace Outside

theorem Answers.without {e : Exchange} (h : o.Answers e) : (o.without junk).Answers e := by
  cases h with
  | flag => exact .flag
  | time => exact .time
  | silence timeout empty =>
    have none : (o.without junk).queue = [] := by rw [Outside.without, empty, List.filter_nil]
    exact .silence timeout none
  | failure timeout => exact .failure timeout
  | effect may r => exact .effect may r

/-- An occurrence that stays has the same effect. One that does not has none on what is left. -/
theorem Becomes.without {e : Occurrence} {deleted : Bool} (h : o.Becomes e o')
    (takes : ∀ x, e.taken? = some x → junk x = deleted) :
    if e.stays junk deleted then (o.without junk).Becomes e (o'.without junk)
    else o'.without junk = o.without junk := by
  cases h with
  | passes now => exact .passes now
  | requests => exact .requests
  | arrives x =>
    simp only [Occurrence.stays, Outside.without, List.filter_append, List.filter_singleton]
    cases junk x with
    | true => simp
    | false => exact .arrives x
  | exchanges answered =>
    cases deleted with
    | true => rfl
    | false => exact .exchanges (answered.without junk)
  | @takes timeout x rest waiting =>
    have found := takes x rfl
    have queued : o.queue.filter (!junk ·) = (x :: rest).filter (!junk ·) := by rw [waiting]
    cases deleted with
    | true =>
      simp only [Outside.without, queued, List.filter_cons, found]
      rfl
    | false =>
      have left : (o.without junk).queue = x :: rest.filter (!junk ·) := by
        simp [Outside.without, queued, found]
      exact .takes timeout left

theorem Goes.filtered {deleted : Bool} (h : o.Goes l o')
    (takes : ∀ x ∈ taken l, junk x = deleted) :
    (o.without junk).Goes (l.filter (·.stays junk deleted)) (o'.without junk) := by
  induction h with
  | nil o => exact .nil _
  | @cons o o₁ o₂ e l first _ ih =>
    rw [taken_cons] at takes
    have now := first.without junk fun x took =>
      takes x (List.mem_append_left _ (Option.mem_toList.mpr took))
    have later := ih fun x member => takes x (List.mem_append_right _ member)
    rw [List.filter_cons]
    split_ifs at now ⊢ with stays
    · exact .cons now later
    · exact now ▸ later

/-- If no junk is taken, all exchanges stay. -/
theorem Goes.kept (h : o.Goes l o') (untaken : ∀ x ∈ taken l, junk x = false) :
    (o.without junk).Goes (spared junk l) (o'.without junk) ∧
      exchanges (spared junk l) = exchanges l := by
  have stays : (taken l).any junk = false := by simpa using untaken
  unfold spared
  rw [stays]
  exact ⟨h.filtered junk untaken, exchanges_kept junk l⟩

theorem Goes.kept_of_unheard (h : o.Goes l o') (unheard : received (exchanges l) = []) :
    (o.without junk).Goes (spared junk l) (o'.without junk) ∧
      exchanges (spared junk l) = exchanges l := by
  have none : taken l = [] := List.map_eq_nil_iff.mp (h.received_eq.symm.trans unheard)
  exact h.kept junk (by simp [none])

/-- If junk is taken and nothing else, no exchange stays. -/
theorem Goes.deleted (h : o.Goes l o') {x : Parcel} (took : taken l = [x])
    (found : junk x = true) :
    (o.without junk).Goes (spared junk l) (o'.without junk) ∧ exchanges (spared junk l) = [] := by
  have goes : (taken l).any junk = true := by simp [took, found]
  unfold spared
  rw [goes]
  exact ⟨h.filtered junk (by simp [took, found]), exchanges_deleted junk l⟩

/-- A step that takes a parcel which is rejected takes no other, and does nothing else. -/
theorem Goes.step_rejected (h : o.Goes l o') {n m : Node} {r : Step}
    (run : n.step.Runs (exchanges l) (r, m)) {x : Parcel} (took : x ∈ taken l) {e : Rejection}
    (rejected : n.expectation.accept x.text = .error e) :
    m = n.countRejected e ∧ taken l = [x] ∧ payloads (exchanges l) = [] ∧
      hostCalls (exchanges l) = [] := by
  have heard : x.text ∈ received (exchanges l) := by
    rw [h.received_eq]
    exact List.mem_map_of_mem took
  obtain ⟨counted, only, unsent, unasked⟩ := Node.step_of_rejected run heard rejected
  refine ⟨counted, ?_, unsent, unasked⟩
  rw [h.received_eq] at only
  obtain ⟨y, single, -⟩ := List.map_eq_singleton_iff.mp only
  rw [single, List.mem_singleton] at took
  rw [single, took]

end Outside

open Node (Twins runs_of_lockstep impartial_rejected)

theorem Stretch.spared_of_twins {n n' : Node} (twins : Twins SameButRejected n n')
    (sent : payloads (exchanges (spared junk l)) = payloads (exchanges l))
    (asked : hostCalls (exchanges (spared junk l)) = hostCalls (exchanges l)) :
    Stretch.Spared junk ⟨l, n, o⟩ ⟨spared junk l, n', o.without junk⟩ :=
  ⟨rfl, twins.role, twins.timers, twins.counts, sent, asked, rfl⟩

/-- A step is kept or, if it takes junk, becomes a rest. -/
theorem Outside.Goes.step_spared (goes : o.Goes l o') {n n' m : Node} {r : Step}
    (run : n.step.Runs (exchanges l) (r, m)) (twins : Twins SameButRejected n n')
    (rejected : ∀ x, junk x = true → ∃ e, n.expectation.accept x.text = .error e) :
    (o.without junk).Goes (spared junk l) (o'.without junk) ∧ ∃ m',
      (exchanges (spared junk l) = [] ∧ m' = n' ∨
        n'.step.Runs (exchanges (spared junk l)) (r, m')) ∧
      Stretch.Spared junk ⟨l, m, o'⟩ ⟨spared junk l, m', o'.without junk⟩ ∧
        Twins SameButRejected m m' := by
  by_cases any : ∃ x ∈ taken l, junk x = true
  · obtain ⟨x, took, found⟩ := any
    obtain ⟨e, rejects⟩ := rejected x found
    obtain ⟨rfl, only, unsent, unasked⟩ := goes.step_rejected run took rejects
    obtain ⟨goes', idle⟩ := goes.deleted junk only found
    have counted := twins.of_rejected e
    refine ⟨goes', n', .inl ⟨idle, rfl⟩, Stretch.spared_of_twins junk counted ?_ ?_, counted⟩
    · exact (congrArg payloads idle).trans unsent.symm
    · exact (congrArg hostCalls idle).trans unasked.symm
  · obtain ⟨goes', kept⟩ := goes.kept junk (by simpa using any)
    obtain ⟨m', run', twins'⟩ :=
      runs_of_lockstep (impartial_rejected.step twins) run (Exchange.alike_refl (fun _ _ => rfl) _)
    rw [← kept] at run'
    exact ⟨goes', m', .inr run', Stretch.spared_of_twins junk twins' (congrArg payloads kept)
      (congrArg hostCalls kept), twins'⟩

/-- Whatever is deleted of what a node rejects, the rest is a course with the same outcomes. A
step that would take some of it becomes a rest, during which time passes, other datagrams arrive
and a shutdown is requested as they were during the step. -/
theorem Course.without_rejected {n₀ n : Node} {o₀ o : Outside} {ss : List Stretch}
    {ws : List Bool} (course : Course n₀ o₀ ss ws n o)
    (rejected : ∀ x, junk x = true → ∃ e, n₀.expectation.accept x.text = .error e) :
    ∃ ss' n', Course n₀ (o₀.without junk) ss' ws n' (o.without junk) ∧
      List.Forall₂ (Stretch.Spared junk) ss ss' ∧ Twins SameButRejected n n' := by
  induction course with
  | start => exact ⟨[], n₀, .start, .nil, .of_eq rfl rfl⟩
  | @rests ss ws n o o' l before goes idle ih =>
    obtain ⟨ss', n', course, stretches, twins⟩ := ih
    obtain ⟨goes', kept⟩ := goes.kept_of_unheard junk (congrArg received idle)
    have stretch := Stretch.spared_of_twins junk (o := o') twins (congrArg payloads kept)
      (congrArg hostCalls kept)
    exact ⟨_, n', course.rests goes' (kept.trans idle),
      List.rel_append stretches (.cons stretch .nil), twins⟩
  | @steps ss ws n m o o' r l before goes run ih =>
    obtain ⟨ss', n', course, stretches, twins⟩ := ih
    rw [← Node.expectation_congr before.identity_eq] at rejected
    obtain ⟨goes', m', made, stretch, twins'⟩ := goes.step_spared junk run twins rejected
    refine ⟨_, m', ?_, List.rel_append stretches (.cons stretch .nil), twins'⟩
    rcases made with ⟨idle, rfl⟩ | run'
    · exact course.rests goes' idle
    · exact course.steps goes' run'
  | @ends ss ws n k m o o' w l t u before goes split refused released ih =>
    obtain ⟨ss', n', course, stretches, twins⟩ := ih
    have unheard : received (exchanges l) = [] := split ▸ Node.received_finish refused released
    obtain ⟨goes', kept⟩ := goes.kept_of_unheard junk unheard
    obtain ⟨k', refused', stopped⟩ := runs_of_lockstep (impartial_rejected.step twins) refused
      (Exchange.alike_refl (fun _ _ => rfl) t)
    obtain ⟨m', released', twins'⟩ := runs_of_lockstep (impartial_rejected.release stopped) released
      (Exchange.alike_refl (fun _ _ => rfl) u)
    have stretch := Stretch.spared_of_twins junk (o := o') twins' (congrArg payloads kept)
      (congrArg hostCalls kept)
    exact ⟨_, m', course.ends goes' (kept.trans split) refused' released',
      List.rel_append stretches (.cons stretch .nil), twins'⟩

end

/-- The sample node as backup takes a datagram of one octet, is told to stop while it does, and
ends its run. -/
theorem Course.one_octet_deleted :
    let backup := Node.sample.toBackup 0
    let delivered := ((Session.start backup 0).handle (.deliver [0x45])).2
    let ended := delivered.handle (.run (some 1))
    let o : Outside := ⟨0, [], false⟩
    let junk (x : Parcel) : Bool := x.text = [0x45]
    ended.1 = .finished false ∧
      ∃ ss ws o', Course backup o ss ws ended.2.node o' ∧
        ∃ ss' n', Course backup (o.without junk) ss' ws n' (o'.without junk) ∧
          List.Forall₂ (Stretch.Spared junk) ss ss' ∧
            Node.Twins SameButRejected ended.2.node n' := by
  intro backup delivered ended o junk
  let s := Session.start backup 0
  have first : Course backup o [] [] s.node o := .start
  have holds : Outside.Holds s.lan o := ⟨rfl, rfl, rfl⟩
  obtain ⟨ss, ws, o', course, holds⟩ := first.handle_among (s := s) 0 (.deliver [0x45]) holds
  obtain ⟨ss', ws', o'', course', -⟩ :=
    course.handle_among (s := delivered) 0 (.run (some 1)) holds
  have rejected (x : Parcel) (found : junk x = true) :
      ∃ e, backup.expectation.accept x.text = .error e := by
    have text : x.text = [0x45] := by simpa [junk] using found
    refine ⟨.shortIpHeader 1, ?_⟩
    rw [text]
    rfl
  have told : ended.1 = .finished false := by decide
  have same : delivered.handle (.run (some 1)) = ended := rfl
  rw [same] at course'
  clear_value ended
  exact ⟨told, _, _, o'', course', course'.without_rejected junk rejected⟩

end VirtualRouter
