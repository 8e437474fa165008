import VirtualRouter.Proofs.LinkChanges
import VirtualRouter.Proofs.RouteRestore
import VirtualRouter.MacSwitch

/-!
# Switching the hardware address

A switch makes all of its steps in their order, whatever comes of each. Its calls show it: the
routes are read, then the interface is changed twice, then the routes are added again.
-/

set_option autoImplicit false

namespace VirtualRouter

def OnRoutes (kind : UInt16) : SysCall → Prop
  | .bindNetlink | .connectNetlink | .receiveNetlink => True
  | .sendNetlink m => m.littleAt 4 = kind
  | _ => False

theorem Kernel.Leads.requests {k k' : Kernel} {calls : List LogEntry} (leads : k.Leads calls k') :
    k'.requests = k.requests ++ requestsIn calls := by
  rw [Kernel.requests, Kernel.requests, leads.log, requestsIn, List.filterMap_append]
  rfl

def Unasking (c : SysCall) : Prop := ∀ m, c ≠ .sendNetlink m

theorem Makes.requests {α : Type} {act : StateM Kernel α} (made : Makes Unasking act)
    (k : Kernel) : (act k).2.requests = k.requests := by
  obtain ⟨calls, leads, silent⟩ := made k
  have none : requestsIn calls = [] := by
    refine List.filterMap_eq_nil_iff.mpr fun x member => ?_
    have quiet := silent x member
    split
    · exact absurd ‹_› (quiet _)
    · rfl
  rw [leads.requests, none, List.append_nil]

namespace RouteSocket

theorem makes_send {m : Octets} {kind : UInt16} (fits : m.littleAt 4 = kind) :
    Makes (OnRoutes kind) (send m) :=
  .adapt _ (.of_leads (Kernel.leads_sendNetlink · m) fits)

theorem makes_receive {kind : SysCall → Prop} (receives : kind .receiveNetlink) :
    Makes kind receive :=
  .adapt _ (.of_leads Kernel.leads_receiveNetlink receives)

theorem makes_collect {kind : SysCall → Prop} (receives : kind .receiveNetlink) (bound : Nat)
    (routes : List Route) : Makes kind (collect bound routes) := by
  induction bound generalizing routes with
  | zero => exact .pure _
  | succ bound ih =>
    refine .andThen (makes_receive receives) fun buffer => ?_
    split
    · exact .throw _
    · split
      · exact .pure _
      · exact ih _

theorem makes_snapshot (s : RouteSocket) :
    Makes (OnRoutes RouteMessage.dumpKind) s.snapshot := by
  refine .bind (.andThen (makes_send (Octets.word16_big16 _)) fun _ => ?_) fun _ => .pure _
  exact .andThen .get fun k => makes_collect trivial _ _

theorem makes_add (s : RouteSocket) (r : Route) :
    Makes (OnRoutes RouteMessage.newRouteKind) (s.add r) := by
  refine .andThen (makes_send (Octets.word16_big16 _)) fun _ => ?_
  refine .andThen (makes_receive trivial) fun reply => ?_
  dsimp only
  split
  · exact .pure _
  · exact .throw _

theorem makes_addAll (routes : List Route) (s : RouteSocket) :
    Makes (OnRoutes RouteMessage.newRouteKind) (s.addAll routes) := by
  induction routes generalizing s with
  | nil => exact .pure _
  | cons r rest ih =>
    refine .bind (makes_add s.next r) fun result => ?_
    cases result with
    | error f => exact .pure _
    | ok => exact ih s.next

theorem makes_ready {kind : SysCall → Prop} (binds : kind .bindNetlink)
    (connects : kind .connectNetlink) : Makes kind ready := by
  refine .andThen (.adapt _ (.of_leads (Kernel.leads_attempt fun _ => rfl) binds)) fun _ => ?_
  refine .andThen (.adapt _ (.of_leads (Kernel.leads_attempt fun _ => rfl) connects)) fun _ => ?_
  exact .pure _

theorem starts_connect {α : Type} {kind : UInt16} {next : RouteSocket → SysM Fault α}
    (made : ∀ s, Makes (OnRoutes kind) (next s)) :
    Starts .openNetlink (OnRoutes kind) (connect >>= next : SysM Fault α) := by
  rw [connect, bind_assoc]
  exact starts_of_attempt (fun _ => rfl) _ fun _ => .andThen (makes_ready trivial trivial) made

theorem makes_connect : Makes Unasking connect :=
  .andThen (.adapt _ (.of_leads (Kernel.leads_attempt fun _ => rfl) (by simp [Unasking])))
    fun _ => makes_ready (by simp [Unasking]) (by simp [Unasking])

/-- A socket is new when it is connected: it has used no sequence number yet. -/
theorem fresh_of_connect {k k' : Kernel} {s : RouteSocket} (connected : connect k = (.ok s, k')) :
    s = ⟨0⟩ := by
  obtain ⟨-, _, -, ready⟩ := SysM.exists_of_bind_ok connected
  obtain ⟨-, _, -, ready⟩ := SysM.exists_of_bind_ok ready
  obtain ⟨-, _, -, done⟩ := SysM.exists_of_bind_ok ready
  cases done
  rfl

theorem requests_send (m : Octets) (k : Kernel) : (send m k).2.requests = k.requests ++ [m] :=
  (Kernel.leads_sendNetlink k m).requests

/-- A snapshot asks for the routes once, and for nothing else. -/
theorem requests_snapshot (s : RouteSocket) (k : Kernel) :
    (s.snapshot k).2.requests = k.requests ++ [RouteMessage.dumpRequest s.next.sequence] := by
  have asked := requests_send (RouteMessage.dumpRequest s.next.sequence) k
  have reads : Makes Unasking (do
      let k ← get
      collect (k.inbox.length + 1) [] : SysM Fault (List Route)) :=
    .andThen .get fun _ => makes_collect (by simp [Unasking]) _ _
  rw [snapshot_apply, SysM.bind_apply]
  rcases sent : send (RouteMessage.dumpRequest s.next.sequence) k with ⟨_ | _, k'⟩
  all_goals rw [sent] at asked
  · exact asked
  · exact (reads.requests k').trans asked

/-- What needs a socket ends without one, or goes on with a new one. Nothing is asked before. -/
theorem connect_cases {α : Type} (next : RouteSocket → SysM Fault α) (k : Kernel) :
    ∃ k', k'.requests = k.requests ∧
      ((∃ f, connect k = (.error f, k') ∧ (connect >>= next) k = (.error f, k')) ∨
        connect k = (.ok ⟨0⟩, k') ∧ (connect >>= next) k = next ⟨0⟩ k') := by
  have run := SysM.bind_apply connect next k
  have unasking := makes_connect.requests k
  rcases connected : connect k with ⟨f | s, k'⟩
  all_goals rw [connected] at run unasking
  · exact ⟨k', unasking, .inl ⟨f, rfl, run⟩⟩
  · obtain rfl := fresh_of_connect connected
    exact ⟨k', unasking, .inr ⟨rfl, run⟩⟩

end RouteSocket

namespace MacSwitch

theorem saveRoutes_starts : Starts .openNetlink (OnRoutes RouteMessage.dumpKind) saveRoutes :=
  RouteSocket.starts_connect RouteSocket.makes_snapshot

theorem restoreRoutes_starts {routes : List Route} (some : ¬routes.isEmpty) (index : UInt32) :
    Starts .openNetlink (OnRoutes RouteMessage.newRouteKind) (restoreRoutes routes index) := by
  rw [restoreRoutes, if_neg some]
  exact RouteSocket.starts_connect fun s => RouteSocket.makes_addAll _ s

theorem restoreRoutes_ends (routes : List Route) (index : UInt32) (k : Kernel) :
    (restoreRoutes routes index).Ends k fun calls _ => if routes.isEmpty then calls = []
      else Opens .openNetlink (OnRoutes RouteMessage.newRouteKind) calls := by
  by_cases none : routes.isEmpty
  · have run : restoreRoutes routes index k = (.ok (), k) := by
      rw [restoreRoutes, if_pos none]
      rfl
    exact .of_run run (.refl k) (by rw [if_pos none])
  · simp only [if_neg none]
    exact restoreRoutes_starts none index k

inductive Saving (k : Kernel) : List Octets → Except Fault (List Route) → Prop
  | unconnected {f : Fault} {k' : Kernel} (failed : RouteSocket.connect k = (.error f, k')) :
    Saving k [] (.error f)
  | asked {k' : Kernel} (connected : RouteSocket.connect k = (.ok ⟨0⟩, k')) :
    Saving k [RouteMessage.dumpRequest 1] (RouteSocket.snapshot ⟨0⟩ k').1.1

/-- What restoring routes asks, and how it ends: nothing is to be done without routes, a socket
that cannot be had ends it, and otherwise the routes through the interface are added up to the
first that is refused. -/
inductive Restoring (routes : List Route) (index : UInt32) (k : Kernel) :
    List Octets → Except Fault Unit → Prop
  | unneeded (none : routes = []) : Restoring routes index k [] (.ok ())
  | unconnected {f : Fault} {k' : Kernel} (needed : routes ≠ [])
    (failed : RouteSocket.connect k = (.error f, k')) : Restoring routes index k [] (.error f)
  | asked {k' : Kernel} {n : Nat} {result : Except Fault Unit} (needed : routes ≠ [])
    (connected : RouteSocket.connect k = (.ok ⟨0⟩, k'))
    (outcome : RouteSocket.Outcome k' ((restoreOrder routes).filter (·.oif == index)) n result) :
    Restoring routes index k
      (RouteSocket.requestsFor ⟨0⟩ (((restoreOrder routes).filter (·.oif == index)).take n)) result

/-- The requests among the calls of an operation are those by which the system has got more. -/
theorem requestsIn_calls {α : Type} {act : SysM Fault α} {k k' : Kernel} {calls : List LogEntry}
    {result : Except Fault α} {asked : List Octets} (leads : k.Leads calls (act k).2)
    (run : act k = (result, k')) (requests : k'.requests = k.requests ++ asked) :
    requestsIn calls = asked := by
  rw [run] at leads
  exact List.append_cancel_left (leads.requests.symm.trans requests)

theorem saveRoutes_saving (k : Kernel) :
    Saving k (requestsIn (saveRoutes.calls k)) (saveRoutes k).1 := by
  have leads := (saveRoutes_starts k).leads
  obtain ⟨k', unasking, ⟨f, failed, run⟩ | ⟨connected, run⟩⟩ :=
    RouteSocket.connect_cases (fun s => ExceptT.mk ((·.1) <$> s.snapshot)) k
  · have ran : saveRoutes k = (.error f, k') := run
    rw [requestsIn_calls leads ran (unasking.trans (List.append_nil _).symm), ran]
    exact .unconnected failed
  · have ran : saveRoutes k = ((RouteSocket.snapshot ⟨0⟩ k').1.1,
        (RouteSocket.snapshot ⟨0⟩ k').2) := run
    have asked := RouteSocket.requests_snapshot ⟨0⟩ k'
    rw [unasking] at asked
    rw [requestsIn_calls leads ran asked, ran]
    exact .asked connected

theorem restoreRoutes_restoring (routes : List Route) (index : UInt32) (k : Kernel) :
    Restoring routes index k (requestsIn ((restoreRoutes routes index).calls k))
      (restoreRoutes routes index k).1 := by
  have leads := (restoreRoutes_ends routes index k).leads
  by_cases none : routes = []
  · have ran : restoreRoutes routes index k = (.ok (), k) := by rw [none]; rfl
    rw [requestsIn_calls leads ran (List.append_nil _).symm, ran]
    exact .unneeded none
  have needed : restoreRoutes routes index =
      RouteSocket.connect >>= fun s => ExceptT.mk ((·.1) <$> s.restore routes index) := by
    rw [restoreRoutes, if_neg (by simpa using none)]
  obtain ⟨k', unasking, ⟨f, failed, run⟩ | ⟨connected, run⟩⟩ :=
    RouteSocket.connect_cases (fun s => ExceptT.mk ((·.1) <$> s.restore routes index)) k
  · rw [← needed] at run
    rw [requestsIn_calls leads run (unasking.trans (List.append_nil _).symm), run]
    exact .unconnected none failed
  · obtain ⟨n, result, k'', made, asked, outcome⟩ := RouteSocket.addAll_outcome
      ((restoreOrder routes).filter (·.oif == index)) ⟨0⟩ k'
    have ran : restoreRoutes routes index k = (result, k'') := by
      rw [needed, run]
      change ((RouteSocket.restore ⟨0⟩ routes index k').1.1,
        (RouteSocket.restore ⟨0⟩ routes index k').2) = _
      rw [RouteSocket.restore, made]
    rw [unasking] at asked
    rw [requestsIn_calls leads ran asked, ran]
    exact .asked none connected outcome

theorem firstChange_starts (b : Binding) (mac : Mac) (role : MacRole) :
    Starts .openInet (OnInterface b.name) (firstChange b mac role) := by
  cases role with
  | virtual => exact Link.setMac_starts b.name mac
  | real => exact Link.setPromiscuous_starts b.name false

theorem secondChange_starts (b : Binding) (mac : Mac) (role : MacRole) :
    Starts .openInet (OnInterface b.name) (secondChange b mac role) := by
  cases role with
  | virtual => exact Link.setPromiscuous_starts b.name true
  | real => exact Link.setMac_starts b.name mac

theorem firstFault_cons (r : Except Fault Unit) (rest : List (Except Fault Unit)) :
    firstFault (r :: rest) = (do r; firstFault rest) := by
  cases r <;> rfl

theorem runAll_cons (act : SysM Fault Unit) (rest : List (SysM Fault Unit)) (k : Kernel) :
    runAll (act :: rest) k =
      ((act k).1 :: (runAll rest (act k).2).1, (runAll rest (act k).2).2) := rfl

/-- A switch is its four parts, each in the state that the one before has left. -/
theorem switch_eq (b : Binding) (mac : Mac) (role : MacRole) (k : Kernel) :
    let k₁ := (saveRoutes k).2
    let k₂ := (firstChange b mac role k₁).2
    let k₃ := (secondChange b mac role k₂).2
    let restore := restoreRoutes ((saveRoutes k).1.toOption.getD []) b.index
    switch b mac role k =
      ((do (firstChange b mac role k₁).1; (secondChange b mac role k₂).1; (restore k₃).1),
       (restore k₃).2) := by
  intro k₁ k₂ k₃ restore
  have saved : outcome saveRoutes k = saveRoutes k := rfl
  have run : switch b mac role k =
      (firstFault (runAll (linkChanges b mac role ++ [restore]) k₁).1,
       (runAll (linkChanges b mac role ++ [restore]) k₁).2) := by
    rw [switch, ExceptT.mk, Kernel.bind_apply, saved]
    dsimp only [restore, k₁]
    cases (saveRoutes k).1 <;> rfl
  rw [run, linkChanges]
  simp only [List.cons_append, List.nil_append, runAll_cons, firstFault_cons]
  -- after the last part there is no further fault to look for
  congr 1
  cases (restore k₃).1 <;> rfl

theorem switch_leads (b : Binding) (mac : Mac) (role : MacRole) (k : Kernel) :
    let k₁ := (saveRoutes k).2
    let k₂ := (firstChange b mac role k₁).2
    let k₃ := (secondChange b mac role k₂).2
    let restore := restoreRoutes ((saveRoutes k).1.toOption.getD []) b.index
    k.Leads (saveRoutes.calls k ++ (firstChange b mac role).calls k₁ ++
      (secondChange b mac role).calls k₂ ++ restore.calls k₃) (switch b mac role k).2 := by
  intro k₁ k₂ k₃ restore
  rw [switch_eq]
  have saves := (saveRoutes_starts k).leads
  have changes := (firstChange_starts b mac role k₁).leads
  have changes' := (secondChange_starts b mac role k₂).leads
  exact ((saves.trans changes).trans changes').trans (restoreRoutes_ends _ _ k₃).leads

theorem no_addition {calls : List LogEntry} {first : SysCall} {kind : SysCall → Prop}
    (opens : Opens first kind calls) (other : ∀ m, first ≠ .sendNetlink m)
    (allowed : ∀ m, kind (.sendNetlink m) → m.littleAt 4 ≠ RouteMessage.newRouteKind) :
    ∀ x ∈ calls, ∀ m, x.call = .sendNetlink m → m.littleAt 4 ≠ RouteMessage.newRouteKind := by
  obtain ⟨failure, rest, rfl, made⟩ := opens
  intro x member m sent
  rcases List.mem_cons.mp member with rfl | later
  · exact absurd sent (other m)
  · exact allowed m (sent ▸ made x later)

theorem after_onRoutes {c : SysCall} {kind : UInt16} (about : OnRoutes kind c) (i : Interface)
    (failure : Option Errno) : i.after ⟨c, failure⟩ = i := by
  cases c <;> first | exact about.elim | (cases failure <;> rfl)

theorem afterAll_onRoutes {kind : UInt16} {calls : List LogEntry}
    (opens : Opens .openNetlink (OnRoutes kind) calls) (i : Interface) : i.afterAll calls = i := by
  obtain ⟨failure, rest, rfl, about⟩ := opens
  have first : i.after ⟨.openNetlink, failure⟩ = i := by cases failure <;> rfl
  rw [Interface.afterAll_cons, first]
  clear first
  induction rest with
  | nil => rfl
  | cons x rest ih =>
    rw [Interface.afterAll_cons, after_onRoutes (about x List.mem_cons_self)]
    exact ih fun y later => about y (List.mem_cons_of_mem x later)

theorem restoreRoutes_untouched (routes : List Route) (index : UInt32) (k : Kernel)
    (name : String) :
    (restoreRoutes routes index k).2.interface? name = k.interface? name := by
  obtain ⟨leads, opens⟩ := restoreRoutes_ends routes index k
  have untouched (i : Interface) :
      i.afterAll ((restoreRoutes routes index).calls k) = i := by
    split at opens
    · rw [opens]
      rfl
    · exact afterAll_onRoutes opens i
  rw [leads.interface?]
  simp [untouched]

theorem saveRoutes_untouched (k : Kernel) (name : String) :
    (saveRoutes k).2.interface? name = k.interface? name := by
  obtain ⟨leads, opens⟩ := saveRoutes_starts k
  rw [leads.interface?]
  simp [afterAll_onRoutes opens]

def switched (i : Interface) (mac : Mac) (role : MacRole) : Interface :=
  { i with
    mac := mac
    flags := Link.promiscuous (role = .virtual) i.flags }

section
variable {b : Binding} {mac : Mac} {role : MacRole} {k : Kernel} {i : Interface}
  (there : k.interface? b.name = some i)
include there

theorem interface_of_saveRoutes : (saveRoutes k).2.interface? b.name = some i := by
  rw [saveRoutes_untouched, there]

theorem interface_of_firstChange
    (ok : (firstChange b mac role (saveRoutes k).2).1 = .ok ()) :
    (firstChange b mac role (saveRoutes k).2).2.interface? b.name = some (match role with
      | .virtual => { i with mac := mac }
      | .real => { i with flags := Link.promiscuous false i.flags }) := by
  cases role with
  | virtual => exact Link.setMac_of_ok (interface_of_saveRoutes there) ok
  | real => exact Link.setPromiscuous_of_ok (interface_of_saveRoutes there) ok

/-- The routes have no part in what a switch does to the interface. -/
theorem switch_of_changed
    (first : (firstChange b mac role (saveRoutes k).2).1 = .ok ())
    (second : (secondChange b mac role
      (firstChange b mac role (saveRoutes k).2).2).1 = .ok ()) :
    (switch b mac role k).2.interface? b.name = some (switched i mac role) := by
  rw [switch_eq, restoreRoutes_untouched]
  have between := interface_of_firstChange there first
  cases role with
  | virtual => exact Link.setPromiscuous_of_ok between second
  | real => exact Link.setMac_of_ok between second

theorem switch_of_ok (ok : (switch b mac role k).1 = .ok ()) :
    (switch b mac role k).2.interface? b.name = some (switched i mac role) := by
  rw [switch_eq] at ok
  cases first : (firstChange b mac role (saveRoutes k).2).1 with
  | error f =>
    rw [first] at ok
    cases ok
  | ok =>
    cases second : (secondChange b mac role (firstChange b mac role (saveRoutes k).2).2).1 with
    | error f =>
      rw [first, second] at ok
      cases ok
    | ok => exact switch_of_changed there first second

theorem switch_of_through (valid : Link.ValidName b.name)
    (through : ∀ x ∈ (switch b mac role).calls k, x.failure = none) :
    (switch b mac role k).2.interface? b.name = some (switched i mac role) := by
  rw [(switch_leads b mac role k).calls_eq rfl] at through
  simp only [List.mem_append, or_imp, forall_and] at through
  obtain ⟨⟨⟨-, first⟩, second⟩, -⟩ := through
  have before := interface_of_saveRoutes there
  cases role with
  | virtual =>
    have changed : (firstChange b mac .virtual (saveRoutes k).2).1 = .ok () :=
      Link.setMac_ok before valid first
    exact switch_of_changed there changed
      (Link.setPromiscuous_ok (interface_of_firstChange there changed) valid second)
  | real =>
    have changed : (firstChange b mac .real (saveRoutes k).2).1 = .ok () :=
      Link.setPromiscuous_ok before valid first
    exact switch_of_changed there changed
      (Link.setMac_ok (interface_of_firstChange there changed) valid second)

end

theorem or_and_not (x y : UInt16) : (x ||| y) &&& ~~~y = x &&& ~~~y := by
  apply UInt16.toBitVec_inj.mp
  ext i
  simp
  grind

/-- Going to a virtual address and back puts the interface back, except that it ends without the
promiscuous mode. -/
theorem switched_back (i : Interface) (virtual own : Mac) :
    switched (switched i virtual .virtual) own .real =
      { i with mac := own, flags := i.flags &&& ~~~Interface.promiscuousFlag } := by
  simp [switched, Link.promiscuous, or_and_not]

/-- Every part of a switch is made once, in its order and whatever comes of the others, and the
first fault that is not one of reading the routes is its result. The first part asks once for the
routes, the last one adds those of the interface in their order. No route is added before both
changes of the interface are over. A switch to a virtual address and back of which nothing failed
leaves the own address on the interface and its flags without the promiscuous mode. -/
theorem switch_skips_nothing (b : Binding) :
    (∀ (mac : Mac) (role : MacRole) (k : Kernel),
      let k₁ := (saveRoutes k).2
      let k₂ := (firstChange b mac role k₁).2
      let k₃ := (secondChange b mac role k₂).2
      let routes := (saveRoutes k).1.toOption.getD []
      let restore := restoreRoutes routes b.index
      let c₀ := saveRoutes.calls k
      let c₁ := (firstChange b mac role).calls k₁
      let c₂ := (secondChange b mac role).calls k₂
      let c₃ := restore.calls k₃
      switch b mac role k =
        ((do (firstChange b mac role k₁).1; (secondChange b mac role k₂).1; (restore k₃).1),
         (restore k₃).2) ∧
      (switch b mac role k).2.log = k.log ++ (c₀ ++ c₁ ++ c₂ ++ c₃) ∧
      Opens .openNetlink (OnRoutes RouteMessage.dumpKind) c₀ ∧
      Opens .openInet (OnInterface b.name) c₁ ∧
      Opens .openInet (OnInterface b.name) c₂ ∧
      (if routes.isEmpty then c₃ = []
        else Opens .openNetlink (OnRoutes RouteMessage.newRouteKind) c₃) ∧
      Saving k (requestsIn c₀) (saveRoutes k).1 ∧
      Restoring routes b.index k₃ (requestsIn c₃) (restore k₃).1 ∧
      ∀ x ∈ c₀ ++ c₁ ++ c₂, ∀ m, x.call = .sendNetlink m →
        m.littleAt 4 ≠ RouteMessage.newRouteKind) ∧
    ∀ (virtual : Mac) (k : Kernel) (i : Interface), k.interface? b.name = some i →
      let forth : SysM Fault Unit := switch b virtual .virtual
      let back : SysM Fault Unit := switch b b.mac .real
      let k' := (forth k).2
      ((forth k).1 = .ok () ∧ (back k').1 = .ok ()) ∨
        (Link.ValidName b.name ∧ ∀ x ∈ forth.calls k ++ back.calls k', x.failure = none) →
      (back k').2.interface? b.name = some { i with
        mac := b.mac
        flags := i.flags &&& ~~~Interface.promiscuousFlag } := by
  constructor
  · intro mac role k k₁ k₂ k₃ routes restore c₀ c₁ c₂ c₃
    have saves := (saveRoutes_starts k).told
    have changes := (firstChange_starts b mac role k₁).told
    have changes' := (secondChange_starts b mac role k₂).told
    refine ⟨switch_eq b mac role k, (switch_leads b mac role k).log, saves, changes, changes',
      (restoreRoutes_ends routes b.index k₃).told, saveRoutes_saving k,
      restoreRoutes_restoring routes b.index k₃, ?_⟩
    intro x member
    rcases List.mem_append.mp member with earlier | second
    · rcases List.mem_append.mp earlier with saving | first
      · exact no_addition saves (by simp) (fun m fits => fits ▸ by decide) x saving
      · exact no_addition changes (by simp) (fun m fits => fits.elim) x first
    · exact no_addition changes' (by simp) (fun m fits => fits.elim) x second
  · intro virtual k i there forth back k' success
    have ended : (back k').2.interface? b.name =
        some (switched (switched i virtual .virtual) b.mac .real) := by
      rcases success with ⟨ok, ok'⟩ | ⟨valid, through⟩
      · exact switch_of_ok (switch_of_ok there ok) ok'
      · refine switch_of_through (switch_of_through there valid ?_) valid ?_
        · exact fun x made => through x (List.mem_append_left _ made)
        · exact fun x made => through x (List.mem_append_right _ made)
    rw [ended, switched_back]

def uplink : Binding := ⟨"eth0", 2, ⟨2, 0, 0, 0, 0, 1⟩, ⟨10, 0, 0, 2⟩⟩

/-- Forth and back on an interface that has to be taken down for it, with no routes to save. -/
theorem switched_forth_and_back :
    let mark := RouteMessage.encode RouteMessage.doneKind 2 1 [0, 0, 0, 0]
    let k := { Kernel.idle with interfaces := [Link.eth0], dumps := [[mark], [mark]] }
    let k' := (switch uplink (Mac.ofRouter 1) .virtual k).2
    k'.interface? "eth0" = some { Link.eth0 with mac := Mac.ofRouter 1, flags := 0x1103 } ∧
    (switch uplink uplink.mac .real k').2.interface? "eth0" = some Link.eth0 := by
  intro mark k k'
  have there : k.interface? uplink.name = some Link.eth0 := rfl
  have valid : Link.ValidName uplink.name := ⟨by decide, by decide, by decide⟩
  have through : ∀ x ∈ (switch uplink (Mac.ofRouter 1) .virtual).calls k ++
      (switch uplink uplink.mac .real).calls k', x.failure = none := by
    decide +kernel
  exact ⟨by decide +kernel, (switch_skips_nothing uplink).2 (Mac.ofRouter 1) k Link.eth0 there
    (.inr ⟨valid, through⟩)⟩

end MacSwitch
end VirtualRouter
