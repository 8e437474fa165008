import VirtualRouter.Proofs.SystemCalls
import VirtualRouter.Proofs.ChecksumSum
import Mathlib.Tactic.ByContra

/-!
# Restoring routes

Saved routes are added again one at a time, and an answer is awaited for each. The first one that
is not taken ends it, so that what is sent is a beginning of what was to be sent.
-/

set_option autoImplicit false

namespace VirtualRouter

namespace Kernel

def answer (k : Kernel) (i : Nat) : Except NetlinkFault Octets :=
  match k.scheduled "send_netlink" i with
  | some e => .error (.cannotSend e)
  | none =>
    match k.scheduled "recv_netlink" i with
    | some e => .error (.cannotReceive e)
    | none => .ok ((k.replies.getD i (.acknowledged 0)).octets.take netlinkBufferLength)

end Kernel

def requestsIn (calls : List LogEntry) : List Octets :=
  calls.filterMap fun x =>
    match x.call with
    | .sendNetlink m => some m
    | _ => none

def Kernel.requests (k : Kernel) : List Octets := requestsIn k.log

structure ErrorReply (reply : Octets) (code : Int) : Prop where
  long : 20 ≤ reply.length
  kind : reply.littleAt 4 = RouteMessage.errorKind
  code : RouteMessage.errorCode (reply.drop RouteMessage.headerLength) = code

inductive Refused (r : Route) : Except NetlinkFault Octets → NetlinkFault → Prop
  | unanswered (f : NetlinkFault) : Refused r (.error f) f
  | denied {reply : Octets} {code : Int} (error : ErrorReply reply code) (bad : code ≠ 0)
      (new : code ≠ -17) : Refused r (.ok reply) (.routeRefused r.dst ⟨-code⟩)

/-- An answer that takes a route in: a reply that is no error message, or one that says that all
is well or that the route is there already. -/
def Accepted (answer : Except NetlinkFault Octets) : Prop :=
  ∃ reply, answer = .ok reply ∧ ∀ code, ErrorReply reply code → code = 0 ∨ code = -17

/-- Every answer either takes the route in or refuses it. -/
theorem refused_iff (r : Route) (answer : Except NetlinkFault Octets) :
    (∃ f, Refused r answer f) ↔ ¬Accepted answer := by
  constructor
  · rintro ⟨f, refused⟩ ⟨reply, rfl, fine⟩
    cases refused with
    | denied error bad new => exact (fine _ error).elim bad new
  · intro neither
    rcases answer with f | reply
    · exact ⟨f, .unanswered f⟩
    · simp only [Accepted, Except.ok.injEq, exists_eq_left'] at neither
      push Not at neither
      obtain ⟨code, error, bad, new⟩ := neither
      exact ⟨_, .denied error bad new⟩

namespace RouteSocket
open Kernel RouteMessage

theorem replyNumber_of_error {reply : Octets} {code : Int} (error : ErrorReply reply code) :
    replyNumber reply = -code := by
  have := error.long
  rw [replyNumber, if_pos ⟨by omega, error.kind⟩, error.code]

theorem replyNumber_of_other {reply : Octets} (other : ∀ code, ¬ErrorReply reply code) :
    replyNumber reply = 0 := by
  unfold replyNumber
  split
  · rename_i error
    -- a message that is cut before its code reads as one without an error
    have short : (reply.drop headerLength).length < 4 := by
      by_contra long
      rw [List.length_drop, headerLength] at long
      exact other _ ⟨by omega, error.2, rfl⟩
    rw [errorCode, if_pos short]
    rfl
  · rfl

theorem replyNumber_fine_iff {reply : Octets} :
    replyNumber reply = 0 ∨ replyNumber reply = Errno.alreadyThere.number ↔
      ∀ code, ErrorReply reply code → code = 0 ∨ code = -17 := by
  have there : Errno.alreadyThere.number = 17 := rfl
  constructor
  · intro fine code error
    rw [replyNumber_of_error error] at fine
    omega
  · intro fine
    by_cases other : ∀ code, ¬ErrorReply reply code
    · exact .inl (replyNumber_of_other other)
    · obtain ⟨code, error⟩ := not_forall_not.mp other
      have := fine code error
      rw [replyNumber_of_error error]
      omega

def after (s : RouteSocket) (n : Nat) : RouteSocket := ⟨s.sequence + UInt32.ofNat n⟩

@[simp] theorem after_zero (s : RouteSocket) : s.after 0 = s := by
  simp [after]

theorem next_after (s : RouteSocket) (n : Nat) : s.next.after n = s.after (n + 1) := by
  simp only [next, after, UInt32.ofNat_add, mk.injEq]
  rw [UInt32.add_assoc, UInt32.add_comm (UInt32.ofNat n)]
  rfl

variable {k : Kernel}

/-- A request uses up its own failure and its own receive. -/
theorem answer_next (k : Kernel) (m : Octets) (i : Nat) :
    (k.sentRequest m).received.answer i = k.answer (i + 1) := by
  have sends : (k.sentRequest m).received.scheduled "send_netlink" i =
      k.scheduled "send_netlink" (i + 1) := by
    refine ((k.sentRequest m).scheduled_dropFailure_of_ne
      (show "send_netlink" ≠ "recv_netlink" by decide) i).trans ?_
    exact k.scheduled_dropFailure "send_netlink" i
  have receives : (k.sentRequest m).received.scheduled "recv_netlink" i =
      k.scheduled "recv_netlink" (i + 1) := by
    rw [scheduled_received]
    exact k.scheduled_dropFailure_of_ne (show "recv_netlink" ≠ "send_netlink" by decide) (i + 1)
  have replies : (k.sentRequest m).received.replies.getD i (.acknowledged 0) =
      k.replies.getD (i + 1) (.acknowledged 0) := by
    change k.replies.tail.getD i _ = _
    cases k.replies <;> rfl
  simp only [answer, sends, receives, replies]

theorem send_newRoute (s : RouteSocket) (r : Route)
    (through : k.scheduled "send_netlink" 0 = none) :
    send (newRoute r s.sequence) k = (.ok (), k.sentRequest (newRoute r s.sequence)) := by
  have kind : (newRoute r s.sequence).littleAt 4 = newRouteKind := Octets.word16_big16 _
  exact send_request (kind ▸ show newRouteKind ≠ routeDumpKind by decide) through

theorem scheduled_of_answer {reply : Octets} (came : k.answer 0 = .ok reply) :
    k.scheduled "send_netlink" 0 = none ∧ k.scheduled "recv_netlink" 0 = none := by
  unfold answer at came
  split at came
  · cases came
  · split at came
    · cases came
    · exact ⟨‹_›, ‹_›⟩

theorem add_of_unanswered (s : RouteSocket) (r : Route) {f : NetlinkFault}
    (lost : k.answer 0 = .error f) :
    ∃ k', s.add r k = (.error (.netlink f), k') ∧
      k'.requests = k.requests ++ [newRoute r s.sequence] := by
  unfold answer at lost
  split at lost
  · rename_i e failure
    cases lost
    refine ⟨k.failed (.sendNetlink (newRoute r s.sequence)) e, ?_, by simp [requests, requestsIn]⟩
    rw [add, SysM.bind_apply, send_of_failure _ failure]
  · rename_i sends
    split at lost
    · rename_i e failure
      cases lost
      refine ⟨(k.sentRequest (newRoute r s.sequence)).failed .receiveNetlink e, ?_,
        by simp [requests, requestsIn]⟩
      rw [add, SysM.bind_apply, send_newRoute s r sends]
      dsimp only
      rw [SysM.bind_apply, receive_of_failure ((k.scheduled_sentRequest _ 0).trans failure)]
    · cases lost

theorem add_of_answer (s : RouteSocket) (r : Route) {reply : Octets}
    (came : k.answer 0 = .ok reply) :
    s.add r k =
      (if replyNumber reply = 0 ∨ replyNumber reply = Errno.alreadyThere.number then return ()
        else throw (.netlink (.routeRefused r.dst ⟨replyNumber reply⟩)) : SysM Fault Unit)
      (k.sentRequest (newRoute r s.sequence)).received := by
  obtain ⟨sends, receives⟩ := scheduled_of_answer came
  have through : (k.sentRequest (newRoute r s.sequence)).scheduled "recv_netlink" 0 = none :=
    (k.scheduled_sentRequest _ 0).trans receives
  have held : (k.replies.headD (.acknowledged 0)).octets.take netlinkBufferLength = reply := by
    simp only [answer, sends, receives, Except.ok.injEq] at came
    rw [← came]
    cases k.replies <;> rfl
  rw [add, SysM.bind_apply, send_newRoute s r sends]
  dsimp only
  rw [SysM.bind_apply, receive_buffer (inbox_sentRequest k _) through, held]

theorem add_of_accepted (s : RouteSocket) (r : Route) (accepted : Accepted (k.answer 0)) :
    s.add r k = (.ok (), (k.sentRequest (newRoute r s.sequence)).received) := by
  obtain ⟨reply, came, fine⟩ := accepted
  rw [add_of_answer s r came, if_pos (replyNumber_fine_iff.mpr fine)]
  rfl

theorem add_of_refused (s : RouteSocket) {r : Route} {f : NetlinkFault}
    (refused : Refused r (k.answer 0) f) :
    ∃ k', s.add r k = (.error (.netlink f), k') ∧
      k'.requests = k.requests ++ [newRoute r s.sequence] := by
  generalize told : k.answer 0 = answer at refused
  cases refused with
  | unanswered => exact add_of_unanswered s r told
  | denied error bad new =>
    refine ⟨(k.sentRequest (newRoute r s.sequence)).received, ?_, by simp [requests, requestsIn]⟩
    have denied : ¬(replyNumber _ = 0 ∨ replyNumber _ = Errno.alreadyThere.number) :=
      fun fine => (replyNumber_fine_iff.mp fine _ error).elim bad new
    rw [add_of_answer s r told, if_neg denied, replyNumber_of_error error]
    rfl

/-- What comes of adding these routes one after the other: `n` requests and a result. -/
inductive Outcome (k : Kernel) (wanted : List Route) : Nat → Except Fault Unit → Prop
  | all (accepted : ∀ i < wanted.length, Accepted (k.answer i)) :
    Outcome k wanted wanted.length (.ok ())
  | upTo {i : Nat} {r : Route} {f : NetlinkFault} (last : wanted[i]? = some r)
    (before : ∀ j < i, Accepted (k.answer j)) (refused : Refused r (k.answer i) f) :
    Outcome k wanted (i + 1) (.error (.netlink f))

def requestsFor (s : RouteSocket) (routes : List Route) : List Octets :=
  routes.mapIdx fun i r => newRoute r (s.after (i + 1)).sequence

theorem requestsFor_cons (s : RouteSocket) (r : Route) (rest : List Route) :
    s.requestsFor (r :: rest) = newRoute r s.next.sequence :: s.next.requestsFor rest := by
  simp only [requestsFor, List.mapIdx_cons, ← next_after, after_zero]

theorem addAll_of_ok {s : RouteSocket} {r : Route} {k' : Kernel} (rest : List Route)
    (added : s.next.add r k = (.ok (), k')) :
    s.addAll (r :: rest) k = s.next.addAll rest k' := by
  rw [addAll, bind_apply, ExceptT.run, added]

theorem addAll_of_error {s : RouteSocket} {r : Route} {k' : Kernel} {f : Fault}
    (rest : List Route) (failed : s.next.add r k = (.error f, k')) :
    s.addAll (r :: rest) k = ((.error f, s.next), k') := by
  rw [addAll, bind_apply, ExceptT.run, failed]
  rfl

/-- An outcome of the rest is one of the whole, if its first route was taken. -/
theorem Outcome.cons {r : Route} {rest : List Route} {n : Nat} {result : Except Fault Unit}
    (m : Octets) (first : Accepted (k.answer 0))
    (outcome : Outcome (k.sentRequest m).received rest n result) :
    Outcome k (r :: rest) (n + 1) result := by
  cases outcome with
  | all accepted =>
    refine .all fun i low => ?_
    cases i with
    | zero => exact first
    | succ i => exact answer_next k m i ▸ accepted i (Nat.lt_of_succ_lt_succ low)
  | @upTo i r f last before refused =>
    refine .upTo last (fun j low => ?_) (answer_next k m i ▸ refused)
    cases j with
    | zero => exact first
    | succ j => exact answer_next k m j ▸ before j (Nat.lt_of_succ_lt_succ low)

/-- However the requests are answered, routes are added up to the first that is refused. -/
theorem addAll_outcome (wanted : List Route) (s : RouteSocket) (k : Kernel) :
    ∃ n result k', s.addAll wanted k = ((result, s.after n), k') ∧
      k'.requests = k.requests ++ s.requestsFor (wanted.take n) ∧
      Outcome k wanted n result := by
  -- after the first request the answers are those of the whole run, each one place earlier
  induction wanted generalizing s k with
  | nil =>
    refine ⟨0, .ok (), k, ?_, (List.append_nil _).symm, .all (by simp)⟩
    rw [after_zero]
    rfl
  | cons r rest ih =>
    by_cases accepted : Accepted (k.answer 0)
    · obtain ⟨n, result, k', made, requests, outcome⟩ :=
        ih s.next (k.sentRequest (newRoute r s.next.sequence)).received
      refine ⟨n + 1, result, k', ?_, ?_, .cons _ accepted outcome⟩
      · rw [addAll_of_ok rest (add_of_accepted s.next r accepted), made, next_after]
      · rw [requests, List.take_succ_cons, requestsFor_cons]
        simp [Kernel.requests, requestsIn]
    · obtain ⟨f, refused⟩ := (refused_iff r _).mpr accepted
      obtain ⟨k', added, requests⟩ := add_of_refused s.next refused
      refine ⟨1, .error (.netlink f), k', addAll_of_error rest added, ?_,
        .upTo rfl (by simp) refused⟩
      rw [requests, List.take_succ_cons, requestsFor_cons]
      rfl

theorem restoreOrder_perm (routes : List Route) : (restoreOrder routes).Perm routes := by
  have others : routes.filter (·.gateway.isSome) = routes.filter (!·.gateway.isNone) :=
    List.filter_congr fun r _ => (Option.not_isNone r.gateway).symm
  rw [restoreOrder, others]
  exact List.filter_append_perm _ routes

theorem restoreOrder_group (routes : List Route) (direct : Bool) :
    (restoreOrder routes).filter (·.gateway.isNone == direct) =
      routes.filter (·.gateway.isNone == direct) := by
  rw [restoreOrder, List.filter_append, List.filter_filter, List.filter_filter]
  cases direct <;> simp [← Option.not_isNone]

theorem restoreOrder_direct_first (routes : List Route) :
    (restoreOrder routes).Pairwise fun a b => b.gateway = none → a.gateway = none := by
  have direct : ∀ a ∈ routes.filter (·.gateway.isNone), a.gateway = none := by simp
  have through : ∀ b ∈ routes.filter (·.gateway.isSome), b.gateway ≠ none := by
    simp [Option.isSome_iff_ne_none]
  refine List.pairwise_append.mpr ⟨?_, ?_, fun a first _ _ _ => direct a first⟩
  · exact List.pairwise_of_forall_mem_list fun a held _ _ _ => direct a held
  · exact List.pairwise_of_forall_mem_list fun _ _ b held none => absurd none (through b held)

/-- The order of restoring, of the routes through one interface. -/
theorem restoreOrder_through (routes : List Route) (index : UInt32) :
    (restoreOrder routes).filter (·.oif == index) =
      routes.filter (fun r => r.oif = index ∧ r.gateway = none) ++
        routes.filter (fun r => r.oif = index ∧ r.gateway ≠ none) := by
  rw [restoreOrder, List.filter_append, List.filter_filter, List.filter_filter]
  congr 1 <;>
  · refine List.filter_congr fun r _ => ?_
    cases r.gateway <;> simp [Bool.beq_eq_decide_eq]

/-- Whatever the operating system answers, restoring sends each request for a beginning of the
routes through the interface once, those without a gateway before the others and each group in
the saved order. It goes on to the end unless a route is refused, which is then the last one. -/
theorem restore_sends_prefix (s : RouteSocket) (routes : List Route) (index : UInt32)
    (k : Kernel) :
    let wanted := routes.filter (fun r => r.oif = index ∧ r.gateway = none) ++
      routes.filter (fun r => r.oif = index ∧ r.gateway ≠ none)
    (∃ n result k', s.restore routes index k = ((result, s.after n), k') ∧
      k'.requests = k.requests ++ s.requestsFor (wanted.take n) ∧
      Outcome k wanted n result) ∧
    (∀ r ∈ wanted, r.oif = index) ∧
    (restoreOrder routes).Perm routes ∧
    (restoreOrder routes).Pairwise (fun a b => b.gateway = none → a.gateway = none) ∧
    ∀ direct : Bool, (restoreOrder routes).filter (·.gateway.isNone == direct) =
      routes.filter (·.gateway.isNone == direct) := by
  intro wanted
  refine ⟨?_, fun r held => ?_, restoreOrder_perm routes, restoreOrder_direct_first routes,
    restoreOrder_group routes⟩
  · rw [restore, restoreOrder_through]
    exact addAll_outcome wanted s k
  · rcases List.mem_append.mp held with direct | through
    · exact (of_decide_eq_true (List.mem_filter.mp direct).2).1
    · exact (of_decide_eq_true (List.mem_filter.mp through).2).1

end RouteSocket
end VirtualRouter
