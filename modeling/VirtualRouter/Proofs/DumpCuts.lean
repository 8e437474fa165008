import VirtualRouter.Proofs.DumpWalk
import VirtualRouter.Proofs.RouteRoundTrip
import VirtualRouter.Proofs.SystemCalls

/-!
# Snapshots and how dumps are cut

The system hands out the messages of a dump in buffers, and may cut between any two of them. Each
buffer is read on its own. What comes of all of them is what each message says by itself, in
order, so that the cuts do not matter.
-/

set_option autoImplicit false

namespace VirtualRouter

namespace RouteMessage

def saved (m : Octets) : Except NetlinkFault (List Route) :=
  if kind m = errorKind then .error (.dumpRefused (-(errorCode (bodyOf m))))
  else if kind m = newRouteKind then
    (Route.parse (bodyOf m)).map fun r => [r].filter fun r => r.Restorable
  else .ok []

def restorableIn (m : Octets) : List Route :=
  if kind m = newRouteKind then
    (Route.parse (bodyOf m)).toOption.toList.filter fun r => r.Restorable
  else []

def savedAll : List Octets → Except NetlinkFault (List Route)
  | [] => .ok []
  | m :: ms => (saved m).bind fun own => (savedAll ms).map (own ++ ·)

theorem savedAll_append (a b : List Octets) :
    savedAll (a ++ b) = (savedAll a).bind fun x => (savedAll b).map (x ++ ·) := by
  induction a with
  | nil =>
    change savedAll b = (savedAll b).map ([] ++ ·)
    cases savedAll b <;> rfl
  | cons m a ih =>
    rw [List.cons_append, savedAll, savedAll, ih]
    cases saved m with
    | error e => rfl
    | ok own =>
      cases savedAll a with
      | error e => rfl
      | ok x =>
        cases savedAll b with
        | error e => rfl
        | ok y => exact congrArg Except.ok (List.append_assoc own x y).symm

structure Ordinary (m : Octets) : Prop where
  complete : messageFraming.Complete m
  kind : kind m ≠ doneKind

structure Ending (m : Octets) : Prop where
  complete : messageFraming.Complete m
  kind : kind m = doneKind

theorem saved_error_iff (m : Octets) : (∃ e, saved m = .error e) ↔ Refuses m := by
  rw [saved, Refuses]
  by_cases error : kind m = errorKind
  · simp [error]
  · by_cases route : kind m = newRouteKind
    · rw [if_neg error, if_pos route]
      cases Route.parse (bodyOf m) <;> simp [route, Except.map, newRouteKind, errorKind]
    · simp [error, route]

theorem saved_of_not_refuses {m : Octets} (regular : ¬Refuses m) :
    saved m = .ok (restorableIn m) := by
  have other : kind m ≠ errorKind := fun error => regular (.inl error)
  unfold saved restorableIn
  by_cases route : kind m = newRouteKind
  · rw [if_neg other, if_pos route, if_pos route]
    cases parsed : Route.parse (bodyOf m) with
    | error e => exact absurd (.inr ⟨route, e, parsed⟩) regular
    | ok r => rfl
  · rw [if_neg other, if_neg route, if_neg route]

theorem savedAll_of_not_refuses {ms : List Octets} (regular : ∀ m ∈ ms, ¬Refuses m) :
    savedAll ms = .ok (ms.flatMap restorableIn) := by
  induction ms with
  | nil => rfl
  | cons m ms ih =>
    obtain ⟨first, later⟩ := List.forall_mem_cons.mp regular
    rw [savedAll, saved_of_not_refuses first, ih later]
    rfl

theorem savedAll_error_iff (ms : List Octets) :
    (∃ e, savedAll ms = .error e) ↔ ∃ m ∈ ms, Refuses m := by
  induction ms with
  | nil => simp [savedAll]
  | cons m ms ih =>
    rw [List.exists_mem_cons_iff, ← saved_error_iff, ← ih, savedAll]
    cases saved m with
    | error e => simp [Except.bind]
    | ok own => cases savedAll ms <;> simp [Except.bind, Except.map]

/-- The messages up to an end mark, cut into buffers between any of them, with any octets behind
the end mark. -/
inductive CutInto (mark : Octets) : List Octets → List Octets → Prop
  | last (group : List Octets) (behind : Octets) :
      CutInto mark group [group.flatten ++ mark ++ behind]
  | more (group : List Octets) {messages buffers : List Octets}
      (rest : CutInto mark messages buffers) :
      CutInto mark (group ++ messages) (group.flatten :: buffers)

end RouteMessage

namespace DumpChunk
open RouteMessage

theorem readFrom_message (c : DumpChunk) {m : Octets} (ordinary : Ordinary m) (rest : Octets) :
    readFrom c (m ++ rest) =
      (saved m).bind fun own => readFrom { c with routes := c.routes ++ own } rest := by
  rw [readFrom_eq_run, Framing.run_complete _ _ _ c ordinary.complete,
    effect_front ordinary.complete.whole, if_neg ordinary.kind, saved]
  by_cases error : kind m = errorKind
  · rw [if_pos error, if_pos error]
    rfl
  · rw [if_neg error, if_neg error]
    by_cases route : kind m = newRouteKind
    · rw [if_pos route, if_pos route]
      cases Route.parse (bodyOf m) with
      | error e => rfl
      | ok r =>
        change messageFraming.run _ _ (c.keep r) rest = readFrom _ rest
        rw [← readFrom_eq_run, keep_eq]
    · rw [if_neg route, if_neg route]
      change messageFraming.run _ _ c rest = readFrom { c with routes := c.routes ++ [] } rest
      rw [← readFrom_eq_run, List.append_nil]

theorem readFrom_messages (c : DumpChunk) {ms : List Octets} (ordinary : ∀ m ∈ ms, Ordinary m)
    (rest : Octets) :
    readFrom c (ms.flatten ++ rest) =
      (savedAll ms).bind fun all => readFrom { c with routes := c.routes ++ all } rest := by
  induction ms generalizing c with
  | nil =>
    change readFrom c rest = readFrom { c with routes := c.routes ++ [] } rest
    rw [List.append_nil]
  | cons m ms ih =>
    obtain ⟨first, later⟩ := List.forall_mem_cons.mp ordinary
    rw [List.flatten_cons, List.append_assoc, readFrom_message c first, savedAll]
    cases saved m with
    | error e => rfl
    | ok own =>
      change readFrom { c with routes := c.routes ++ own } _ = _
      rw [ih _ later]
      cases savedAll ms with
      | error e => rfl
      | ok all =>
        change readFrom { c with routes := c.routes ++ own ++ all } rest = _
        rw [List.append_assoc]
        rfl

theorem readFrom_ending (c : DumpChunk) {mark : Octets} (ending : Ending mark) (rest : Octets) :
    readFrom c (mark ++ rest) = .ok { c with done := true } := by
  rw [readFrom_eq_run, Framing.run_complete _ _ _ c ending.complete,
    effect_front ending.complete.whole, if_pos ending.kind]

/-- What one buffer in the middle of a dump holds. -/
theorem read_group {group : List Octets} (ordinary : ∀ m ∈ group, Ordinary m) :
    read group.flatten = (savedAll group).map fun routes => ⟨routes, false⟩ := by
  have all := readFrom_messages empty ordinary []
  rw [List.append_nil] at all
  rw [read, all]
  cases savedAll group with
  | error e => rfl
  | ok routes => exact readFrom_nil _

/-- What the last buffer of a dump holds, whatever stands behind the end mark. -/
theorem read_last {group : List Octets} {mark : Octets} (ordinary : ∀ m ∈ group, Ordinary m)
    (ending : Ending mark) (behind : Octets) :
    read (group.flatten ++ mark ++ behind) =
      (savedAll group).map fun routes => ⟨routes, true⟩ := by
  rw [read, List.append_assoc, readFrom_messages empty ordinary]
  cases savedAll group with
  | error e => rfl
  | ok routes => exact readFrom_ending _ ending behind

end DumpChunk

namespace RouteSocket
open Kernel RouteMessage

variable {k : Kernel}

theorem collect_buffer {b : Octets} {rest : List Octets} (held : k.inbox = b :: rest)
    (through : k.scheduled "recv_netlink" 0 = none) (bound : Nat) (routes : List Route) :
    collect (bound + 1) routes k =
      match DumpChunk.read (b.take netlinkBufferLength) with
      | .error cause => (.error (.netlink cause), k.received)
      | .ok chunk =>
        if chunk.done then (.ok (routes ++ chunk.routes), k.received)
        else collect bound (routes ++ chunk.routes) k.received := by
  rw [collect, SysM.bind_apply, receive_buffer held through]
  dsimp only
  cases DumpChunk.read (b.take netlinkBufferLength) with
  | error cause => rfl
  | ok chunk =>
    dsimp only
    split <;> rfl

/-- Collecting takes the buffers of a dump off the socket, none behind the one with the end mark,
and makes of them what the messages say. -/
theorem collect_of_cut {mark : Octets} {messages texts : List Octets}
    (cut : CutInto mark messages texts) (ordinary : ∀ m ∈ messages, Ordinary m)
    (ending : Ending mark) {buffers later : List Octets} {bound : Nat} (routes : List Route)
    (held : k.inbox = buffers ++ later)
    (received : buffers.map (·.take netlinkBufferLength) = texts)
    (through : ∀ i < buffers.length, k.scheduled "recv_netlink" i = none)
    (enough : buffers.length ≤ bound) :
    ∃ n ≤ buffers.length, ∃ k',
      collect bound routes k =
        ((savedAll messages).mapError Fault.netlink |>.map (routes ++ ·), k') ∧
      k'.inbox = k.inbox.drop n ∧
      k'.log = k.log ++ List.replicate n ⟨.receiveNetlink, none⟩ ∧
      ((∃ all, savedAll messages = .ok all) → n = buffers.length) := by
  induction cut generalizing k buffers bound routes with
  | last group behind =>
    obtain ⟨b, rfl, text⟩ := List.map_eq_singleton_iff.mp received
    obtain ⟨bound, rfl⟩ := Nat.exists_eq_succ_of_ne_zero (Nat.ne_of_gt enough)
    refine ⟨1, Nat.le_refl 1, k.received, ?_, ?_, ?_, fun _ => rfl⟩
    · rw [collect_buffer held (through 0 (by simp)), text,
        DumpChunk.read_last ordinary ending]
      cases savedAll group <;> rfl
    · exact List.drop_one.symm
    · exact k.log_received
  | @more group messages texts rest ih =>
    obtain ⟨b, buffers, rfl, text, texts⟩ := List.map_eq_cons_iff.mp received
    obtain ⟨bound, rfl⟩ := Nat.exists_eq_succ_of_ne_zero (Nat.ne_of_gt (Nat.zero_lt_of_lt enough))
    obtain ⟨first, rest⟩ := List.forall_mem_append.mp ordinary
    have step := collect_buffer held (through 0 (by simp)) bound routes
    rw [text, DumpChunk.read_group first] at step
    rw [savedAll_append, step]
    cases savedAll group with
    | error e =>
      exact ⟨1, by simp, k.received, rfl, List.drop_one.symm, k.log_received, by simp [Except.bind]⟩
    | ok own =>
      have next : k.received.inbox = buffers ++ later := by
        change k.inbox.tail = _
        rw [held]
        rfl
      obtain ⟨n, few, k', result, inbox, log, all⟩ := ih rest (routes ++ own) next texts
        (fun i low => (k.scheduled_received i).trans (through (i + 1) (Nat.succ_lt_succ low)))
        (Nat.le_of_succ_le_succ enough)
      refine ⟨n + 1, Nat.succ_le_succ few, k', ?_, ?_, ?_, ?_⟩
      · change collect bound (routes ++ own) k.received = _
        rw [result]
        cases savedAll messages with
        | error e => rfl
        | ok all =>
          change (Except.ok (routes ++ own ++ all), k') = (Except.ok (routes ++ (own ++ all)), k')
          rw [List.append_assoc]
      · rw [inbox, next, held]
        rfl
      · rw [log, log_received, List.append_assoc]
        rfl
      · rintro ⟨_, told⟩
        cases known : savedAll messages with
        | error e =>
          rw [known] at told
          cases told
        | ok rest => rw [all ⟨rest, known⟩, List.length_cons]

theorem snapshot_of_through (s : RouteSocket) (through : k.scheduled "send_netlink" 0 = none) :
    s.snapshot k =
      let asked := k.sentDump (dumpRequest s.next.sequence)
      let made := collect (asked.inbox.length + 1) [] asked
      ((made.1, s.next), made.2) := by
  have dump : (dumpRequest s.next.sequence).littleAt 4 = routeDumpKind :=
    Octets.word16_big16 dumpKind
  rw [snapshot_apply, SysM.bind_apply, send_dump dump through]
  rfl

/-- A snapshot does not depend on how the dump is cut. For all complete messages up to an end mark
there is one outcome: the restorable routes that they report, in order, unless one of them is an
error or a malformed route. It is the outcome for every cut of these messages into buffers, with
anything behind the end mark, and no buffer behind the one with the end mark is read. -/
theorem snapshot_whatever_the_cuts {messages : List Octets} {mark : Octets}
    (ordinary : ∀ m ∈ messages, Ordinary m) (ending : Ending mark) :
    ∃ outcome : Except Fault (List Route),
      ((∀ m ∈ messages, ¬Refuses m) → outcome = .ok (messages.flatMap restorableIn)) ∧
      ((∃ f, outcome = .error f) ↔ ∃ m ∈ messages, Refuses m) ∧
      ∀ (s : RouteSocket) (k : Kernel) (buffers later : List Octets),
        CutInto mark messages (buffers.map (·.take netlinkBufferLength)) →
        k.dumps.head? = some (buffers ++ later) →
        k.scheduled "send_netlink" 0 = none →
        (∀ i < buffers.length, k.scheduled "recv_netlink" i = none) →
        ∃ n ≤ buffers.length, ∃ k',
          s.snapshot k = ((outcome, s.next), k') ∧
          k'.inbox = (buffers ++ later).drop n ∧
          k'.log = k.log ++ ⟨.sendNetlink (dumpRequest s.next.sequence), none⟩ ::
            List.replicate n ⟨.receiveNetlink, none⟩ ∧
          ((∀ m ∈ messages, ¬Refuses m) → n = buffers.length) := by
  refine ⟨(savedAll messages).mapError Fault.netlink, fun regular => ?_, ?_,
    fun s k buffers later cut dump sends receives => ?_⟩
  · rw [savedAll_of_not_refuses regular]
    rfl
  · rw [← savedAll_error_iff]
    cases savedAll messages <;> simp [Except.mapError]
  · have held : (k.sentDump (dumpRequest s.next.sequence)).inbox = buffers ++ later := by
      change k.dumps.headD [] = _
      rw [List.headD_eq_head?_getD, dump, Option.getD_some]
    have enough : buffers.length ≤ (k.sentDump (dumpRequest s.next.sequence)).inbox.length + 1 := by
      rw [held, List.length_append]
      omega
    obtain ⟨n, few, k', result, inbox, log, all⟩ := collect_of_cut cut ordinary ending [] held rfl
      (fun i low => (k.scheduled_sentDump _ i).trans (receives i low)) enough
    refine ⟨n, few, k', ?_, held ▸ inbox, ?_,
      fun regular => all ⟨_, savedAll_of_not_refuses regular⟩⟩
    · rw [snapshot_of_through s sends]
      dsimp only
      rw [result]
      cases savedAll messages <;> rfl
    · rw [log, log_sentDump, List.append_assoc]
      rfl

/-- A route of which one buffer is full, then one with a padded message of no interest, the end
mark and some octets more. The third buffer stays where it is. -/
theorem snapshot_of_two_buffers :
    let route := newRoute DumpChunk.viaGateway 42
    let noise := encode 16 2 42 [1, 2] ++ [0, 0]
    let mark := encode doneKind 2 42 [0, 0, 0, 0]
    let k := { Kernel.idle with dumps := [[route, noise ++ mark ++ [1, 2, 3], [9]]] }
    (∀ m ∈ [route, noise], Ordinary m) ∧ Ending mark ∧
    ∃ k', snapshot ⟨7⟩ k = ((.ok [DumpChunk.viaGateway], ⟨8⟩), k') ∧ k'.inbox = [[9]] := by
  intro route noise mark k
  have first : Ordinary route := ⟨⟨by decide +kernel, by decide +kernel⟩, by decide +kernel⟩
  have second : Ordinary noise := ⟨⟨by decide +kernel, by decide +kernel⟩, by decide +kernel⟩
  have ordinary : ∀ m ∈ [route, noise], Ordinary m := by simp [first, second]
  have ending : Ending mark := ⟨⟨by decide +kernel, by decide +kernel⟩, by decide +kernel⟩
  have parsed : Route.parse (bodyOf route) = .ok DumpChunk.viaGateway := by
    rw [show bodyOf route = DumpChunk.viaGateway.body by decide +kernel]
    exact Route.parse_body (by simp [Route.Fits, DumpChunk.viaGateway])
  have regular : ∀ m ∈ [route, noise], ¬Refuses m := by
    simp only [List.forall_mem_cons, List.not_mem_nil, false_imp_iff, implies_true, and_true]
    rw [Refuses, Refuses, parsed]
    refine ⟨?_, ?_⟩
    · rintro (error | ⟨-, e, refused⟩)
      · exact absurd error (by decide +kernel)
      · cases refused
    · rintro (error | ⟨told, -⟩)
      · exact absurd error (by decide +kernel)
      · exact absurd told (by decide +kernel)
  obtain ⟨outcome, good, -, made⟩ := snapshot_whatever_the_cuts ordinary ending
  have cut : CutInto mark ([route] ++ [noise]) [route, noise ++ mark ++ [1, 2, 3]] :=
    .more [route] (.last [noise] [1, 2, 3])
  obtain ⟨n, -, k', result, inbox, -, all⟩ := made ⟨7⟩ k [route, noise ++ mark ++ [1, 2, 3]] [[9]]
    (by
      rw [show [route, noise ++ mark ++ [1, 2, 3]].map (·.take netlinkBufferLength) =
        [route, noise ++ mark ++ [1, 2, 3]] by decide +kernel]
      exact cut)
    rfl rfl (by simp [k, Kernel.idle, Kernel.scheduled])
  have told : [route, noise].flatMap restorableIn = [DumpChunk.viaGateway] := by
    have reported : restorableIn route = [DumpChunk.viaGateway] := by
      rw [restorableIn, if_pos (by decide +kernel), parsed]
      decide +kernel
    have nothing : restorableIn noise = [] := by
      rw [restorableIn, if_neg (by decide +kernel)]
    rw [List.flatMap_cons, reported, List.flatMap_cons, nothing]
    rfl
  refine ⟨ordinary, ending, k', ?_, ?_⟩
  · rw [result, good regular, told]
    rfl
  · rw [inbox, all regular]
    rfl

end RouteSocket
end VirtualRouter
