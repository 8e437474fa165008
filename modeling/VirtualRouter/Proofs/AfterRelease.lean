import VirtualRouter.Proofs.FinalShutdown
import VirtualRouter.Proofs.ResponderFailures

/-!
# After the release of a role

A run that gives up the role of a master leaves the state as it was: the release is no change of
state, it is followed by the end of the program. A responder that was left running would therefore
go on as before. The daemon ends its task when the run has returned, and no request is answered
after that.
-/

set_option autoImplicit false

namespace VirtualRouter

namespace Node

variable {n m : Node} {t : List Exchange}

theorem runs_runFor_some {bound : Nat} {w : Bool} (run : (n.runFor bound).Runs t (some w, m)) :
    ⟨.shutdownRequested, true⟩ ∈ t ∧ (w = true ↔ m.role = .master) := by
  induction bound generalizing n t with
  | zero => cases (Interaction.runs_done_iff.mp run).2
  | succ bound ih =>
    rcases runs_runFor_succ run with ⟨u, wasMaster, rfl, told, released⟩ | ⟨u, v, n', rfl, -, rest⟩
    · obtain rfl := Option.some.inj told
      refine ⟨List.mem_cons_self, ?_⟩
      cases released with
      | master switched sent role => simp [role]
      | other role => simp [role]
    · obtain ⟨seen, left⟩ := ih rest
      exact ⟨List.mem_append_right _ seen, left⟩

theorem role_release {w : Bool} (run : n.release.Runs t (w, m)) : m.role = n.role := by
  cases releases_of_release run <;> simp

end Node

namespace Outside

variable {o o' : Outside} {l : List Occurrence}

/-- The flag is seen set only after a request. -/
theorem Goes.requested_of_seen (h : o.Goes l o')
    (seen : ⟨.shutdownRequested, true⟩ ∈ exchanges l) : o'.requested = true := by
  induction h with
  | nil => exact absurd seen List.not_mem_nil
  | cons first rest ih =>
    cases first with
    | exchanges answered =>
      rcases List.mem_cons.mp seen with now | later
      · subst now
        exact rest.requested_iff.mpr (.inl answered.flag_eq.symm)
      · exact ih later
    | takes => exact (List.mem_cons.mp seen).elim nofun ih
    | _ => exact ih seen

theorem exists_holds (l : Lan) : ∃ o, Holds l o :=
  ⟨⟨l.now, l.queue.map (Parcel.mk 0), l.shutdownRequested⟩, rfl,
    by simp [Function.comp_def], rfl⟩

end Outside

namespace Course

variable {n m : Node} {o o' : Outside} {ss : List Stretch} {ws : List Bool}

/-- After the request the state stays what it is, whether runs return or not. -/
theorem role_of_requested (course : Course n o ss ws m o') (asked : o.requested = true) :
    m.role = n.role := by
  induction course with
  | start => rfl
  | rests _ _ _ ih => exact ih
  | @steps ss ws k m o₁ o' r l before goes run ih =>
    have stops := k.stops_of_requested (before.requested_iff.mpr (.inl asked)) goes
    obtain ⟨-, -, rfl, -⟩ := (stops.step r m).mp run
    exact ih
  | ends before goes split refused released ih =>
    rcases Node.runs_step refused with ⟨-, -, rfl⟩ | ⟨told, -⟩
    · exact (Node.role_release released).trans ih
    · cases told

end Course

/-- A responder that has done its work finds none until something else happens. -/
theorem Responder.settle_settle (r : Responder) (role : Role) (k : Kernel) :
    ((r.settle role k).1.settle role (r.settle role k).2).2 = (r.settle role k).2 := by
  have served (r : Responder) (k : Kernel) :
      ((r.serveQueue k).1.settle .master (r.serveQueue k).2).2 = (r.serveQueue k).2 := by
    unfold serveQueue
    obtain ⟨_ | e, k'⟩ := r.serve r.queue k <;> rfl
  obtain ⟨own, addresses, mac, phase, queue⟩ := r
  cases phase with
  | stopped e => rfl
  | serving =>
    by_cases master : role = .master
    · subst master
      exact served _ k
    · simp [settle, master]
  | waiting =>
    by_cases master : role = .master
    · subst master
      unfold settle
      dsimp only
      rw [if_pos rfl]
      cases drain queue with
      | error e => rfl
      | ok rest => exact served _ k
    · simp [settle, master]

namespace Session
open Outside (exists_holds follows_runIn)

/-- Ending the task of a responder, as a runtime does it from outside: the task and its socket are
gone, and all that may still happen is that it goes on to where it next waits. -/
structure Aborts (abort : Session → Session) : Prop where
  gone : ∀ s, (abort s).responder = none
  kernel : ∀ s, (abort s).kernel = s.kernel ∨ (abort s).kernel = s.settle.kernel
  node : ∀ s, (abort s).node = s.node
  lan : ∀ s, (abort s).lan = s.lan

/-- What each event keeps, all of them keep. -/
theorem after_keeps {P : Session → Prop} (keeps : ∀ {s} (e : Event), P s → P (s.handle e).2)
    {s : Session} (h : P s) (es : List Event) : P (s.after es) := by
  induction es generalizing s with
  | nil => exact h
  | cons e es ih => exact ih (keeps e h)

theorem still_handle {s : Session} (asked : s.lan.shutdownRequested = true) (e : Event) :
    (s.handle e).2.lan.shutdownRequested = true ∧ (s.handle e).2.node.role = s.node.role := by
  obtain ⟨o, holds⟩ := exists_holds s.lan
  obtain ⟨ss, ws, o', course, holds'⟩ := Course.start.handle_among 0 e holds
  have requested : o.requested = true := holds.requested.trans asked
  exact ⟨holds'.requested.symm.trans (course.requested_iff.mpr (.inl requested)),
    course.role_of_requested requested⟩

/-- A request that has been made stays, and with it the state. -/
theorem still_after {s : Session} (asked : s.lan.shutdownRequested = true) (es : List Event) :
    (s.after es).lan.shutdownRequested = true ∧ (s.after es).node.role = s.node.role := by
  refine after_keeps (P := fun s' => s'.lan.shutdownRequested = true ∧ s'.node.role = s.node.role)
    ?_ ⟨asked, rfl⟩ es
  rintro s' e ⟨asked', same⟩
  obtain ⟨asked'', still⟩ := still_handle asked' e
  exact ⟨asked'', still.trans same⟩

/-- A run that has finished has seen the request, and has told whether it leaves a master. -/
theorem finished_run {s : Session} {receives : Option Nat} {w : Bool}
    (finished : (s.handle (.run receives)).1 = .finished w) :
    (s.handle (.run receives)).2.lan.shutdownRequested = true ∧
      (w = true ↔ (s.handle (.run receives)).2.node.role = .master) := by
  simp only [handle, happen, node_settle, lan_settle, run, ranIn] at finished ⊢
  obtain ⟨t, run, follows⟩ :=
    follows_runIn (s.node.runFor (runBound receives)) (entering s.lan receives)
  obtain ⟨o, holds⟩ := exists_holds (entering s.lan receives)
  obtain ⟨l, o', rfl, goes, holds'⟩ := follows o holds
  generalize (s.node.runFor (runBound receives)).runIn Lan.serve (entering s.lan receives) = r at *
  obtain ⟨⟨_ | told, m⟩, lan⟩ := r
  · cases finished
  · cases finished
    obtain ⟨seen, left⟩ := Node.runs_runFor_some run
    exact ⟨holds'.requested.symm.trans (goes.requested_of_seen seen), left⟩

/-- Without a responder nothing that happens calls the system. -/
theorem unattended_handle {s : Session} (alone : s.responder = none) (e : Event) :
    (s.handle e).2.responder = none ∧ (s.handle e).2.kernel = s.kernel := by
  have unwatched : (s.happen e).2.watch? = none := by
    rw [watch?_happen, watch?, alone]
    rfl
  have gone : (s.happen e).2.responder = none := Option.map_eq_none_iff.mp unwatched
  simp only [handle, settle, gone]
  exact ⟨trivial, s.kernel_happen e⟩

theorem unattended_after {s : Session} (alone : s.responder = none) (es : List Event) :
    (s.after es).responder = none ∧ (s.after es).kernel = s.kernel := by
  refine after_keeps (P := fun s' => s'.responder = none ∧ s'.kernel = s.kernel)
    ?_ ⟨alone, rfl⟩ es
  rintro s' e ⟨alone', same⟩
  obtain ⟨alone'', still⟩ := unattended_handle alone' e
  exact ⟨alone'', still.trans same⟩

theorem kernel_settle_handle (s : Session) (e : Event) :
    (s.handle e).2.settle.kernel = (s.handle e).2.kernel := by
  change (s.happen e).2.settle.settle.kernel = (s.happen e).2.settle.kernel
  obtain ⟨node, lan, responder, kernel⟩ := (s.happen e).2
  cases responder with
  | none => rfl
  | some r => exact r.settle_settle node.role kernel

/-- A run has returned after it gave up the role of a master, and whatever may have followed it.
The state is that of a master, so a responder that goes on answers as before, unless something has
ended it. With its task aborted, the system is not called any more, although the state stays. -/
theorem answers_after_release {c : Config} {b : Binding} {n : Node} {now : Nat} {k k' : Kernel}
    {s : Session} (started : Node.start c b = .ok n)
    (opened : (start n now).withResponder k = (.ok s, k')) (es : List Event)
    {receives : Option Nat} (released : ((s.after es).handle (.run receives)).1 = .finished true)
    (later : List Event) {abort : Session → Session} (aborts : Aborts abort) :
    let all := es ++ .run receives :: later
    (s.after all).node.role = .master ∧
    (∀ {f : Octets} {q : ArpPacket}, ArpPacket.AsksFor f b.address c.addresses q →
      ((s.after (all ++ [.frame (.ok f)])).kernel.log.map LogEntry.call =
          (s.after all).kernel.log.map LogEntry.call ++
            [.sendPacket (q.answer (Mac.ofRouter c.vrid))] ↔
        ¬ Ended (s.encounters all))) ∧
    ∀ rest : List Event,
      ((abort (s.after all)).after rest).node.role = .master ∧
      ((abort (s.after all)).after rest).kernel = (s.after all).kernel := by
  intro all
  have ran : s.after all = ((s.after es).handle (.run receives)).2.after later :=
    List.foldl_append
  obtain ⟨asked, left⟩ := finished_run released
  obtain ⟨asked', still⟩ := still_after asked later
  have master : (s.after all).node.role = .master := by
    rw [ran, still]
    exact left.mp rfl
  have watching := watch?_withResponder started opened
  -- every event has left the responder with its work done, so aborting it finds none to finish
  have settled : (s.after all).settle.kernel = (s.after all).kernel := by
    rw [ran]
    exact after_keeps (P := fun s' => s'.settle.kernel = s'.kernel)
      (fun e _ => kernel_settle_handle _ e) (kernel_settle_handle _ _) later
  have kept : (abort (s.after all)).kernel = (s.after all).kernel :=
    (aborts.kernel _).elim id fun finished => finished.trans settled
  have requested : (abort (s.after all)).lan.shutdownRequested = true := by
    rw [aborts.lan, ran]
    exact asked'
  refine ⟨master, fun asks => answered_iff_not_ended watching all master asks, fun rest => ?_⟩
  constructor
  · rw [(still_after requested rest).2, aborts.node]
    exact master
  · exact (unattended_after (aborts.gone _) rest).2.trans kept

def withoutResponder (s : Session) : Session := { s with responder := none }

/-- A master is told to stop during a receive. A request that comes later is answered by its
responder if that was left running, and by none if it was dropped. -/
theorem answers_after_release_in_receive :
    let f := ArpPacket.requestBy ⟨10, 0, 0, 21⟩
    let es := [.step 1, .setClock 4000000, .step 1]
    let all := es ++ [.run (some 1), .step 1, .advance 5000000]
    let ended := (sample.after all).withoutResponder
    Node.start .sample .sample = .ok .sample ∧
      (start .sample 0).withResponder .idle = (.ok sample, sample.kernel) ∧
      ((sample.after es).handle (.run (some 1))).1 = .finished true ∧
      Aborts withoutResponder ∧
      (sample.after all).node.role = .master ∧ ¬ Ended (sample.encounters all) ∧
      (ended.after [.step 1, .frame (.ok f)]).node.role = .master ∧
      (ended.after [.step 1, .frame (.ok f)]).kernel = (sample.after all).kernel := by
  intro f es all ended
  have released : ((sample.after es).handle (.run (some 1))).1 = .finished true := by
    decide +kernel
  have aborts : Aborts withoutResponder :=
    ⟨fun _ => rfl, fun _ => .inl rfl, fun _ => rfl, fun _ => rfl⟩
  obtain ⟨master, answered, silent⟩ := answers_after_release Node.start_sample
    withResponder_sample es released [.step 1, .advance 5000000] aborts
  exact ⟨Node.start_sample, withResponder_sample, released, aborts, master,
    (answered asksFor_sample).mp (by decide +kernel), silent [.step 1, .frame (.ok f)]⟩

/-- The responder of a node that has given up the role of a master answers for it. -/
theorem request_answered_after_release :
    let f := ArpPacket.requestBy ⟨10, 0, 0, 21⟩
    let q := ArpPacket.askedBy ⟨10, 0, 0, 21⟩
    let es := [.step 1, .setClock 4000000, .step 1, .requestShutdown]
    let ran := (sample.after es).handle (.run none)
    ran.1 = .finished true ∧ ran.2.node.role = .master ∧
      ArpPacket.AsksFor f Binding.sample.address Config.sample.addresses q ∧
      (ran.2.after [.frame (.ok f)]).kernel.log.map LogEntry.call =
        ran.2.kernel.log.map LogEntry.call ++ [.sendPacket (q.answer (Mac.ofRouter 1))] :=
  ⟨by decide +kernel, by decide +kernel, asksFor_sample, by decide +kernel⟩

end Session
end VirtualRouter
