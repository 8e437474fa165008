import VirtualRouter.Proofs.NodePath
import Mathlib.Logic.Relation

/-!
# Two nodes on one network

Two nodes that share a clock and send to each other. A node is followed call by call, so that
the steps of the two may overlap in any way, and time may pass between any two calls but for
one that sends and the next.
-/

set_option autoImplicit false

namespace VirtualRouter
open Interaction

namespace Node

def finish (i : Interaction Node) : Interaction (Step × Node) :=
  i >>= fun n => done (.proceed, n)

theorem step_eq (n : Node) : n.step = ask .shutdownRequested fun requested =>
    if requested then done (.shutdown, n) else finish n.act := rfl

theorem finish_assertRole (n : Node) : finish n.assertRole =
    ask (.send (n.payload n.priority)) fun sent => ask .clock fun later =>
      done (.proceed, (n.afterSend sent).mapTimers (·.armAdvert later)) := rfl

def listens (n : Node) (timeout : Nat) (hears : Node → Advert → Interaction Node) :
    Interaction (Step × Node) :=
  ask (.receive timeout) fun rc =>
    match n.heard rc with
    | (m, some a) => finish (hears m a)
    | (m, none) => done (.proceed, m)

def hearsAtOnce (n : Node) (a : Advert) : Interaction Node :=
  ask .clock fun now => done (n.backupHears a now)

theorem finish_receive (n : Node) (timeout : Nat) (hears : Node → Advert → Interaction Node) :
    finish (n.receive timeout >>= fun
      | (m, some a) => hears m a
      | (m, none) => pure m) = n.listens timeout hears := by
  rw [receive_eq]
  simp only [finish, listens, ask_bind]
  congr 1
  funext rc
  obtain ⟨m, a?⟩ := n.heard rc
  cases a? <;> rfl

def Turns (n : Node) (fires : Nat → Bool) (fired : Interaction Node)
    (hears : Node → Advert → Interaction Node) : Prop :=
  finish n.act = ask .clock fun now =>
    if fires now then finish fired else n.listens (n.timers.remaining now) hears

theorem turns_master {n : Node} (role : n.role = .master) :
    n.Turns n.timers.advertFired n.assertRole masterHears := by
  simp only [Turns, act, role, masterStep, call, finish, ask_bind, done_bind]
  congr 1
  funext now
  split
  · rfl
  · exact n.finish_receive _ masterHears

theorem turns_backup {n : Node} (role : n.role = .backup) :
    n.Turns n.timers.masterDownFired n.becomeMaster hearsAtOnce := by
  simp only [Turns, act, role, backupStep, call, finish, ask_bind, done_bind]
  congr 1
  funext now
  split
  · rfl
  · exact n.finish_receive _ hearsAtOnce

end Node

structure Letter where
  stamp : Nat
  text : Octets

structure Party where
  node : Node
  /-- What is left to do of the step under way. -/
  doing : Option (Interaction (Step × Node))
  sent : Bool
  inbox : List Letter

namespace Party

def resume (p : Party) : Interaction (Step × Node) → Party
  | .done (_, n) => { p with node := n, doing := none }
  | .ask c k => { p with doing := some (.ask c k) }

@[simp] theorem resume_done (p : Party) (r : Step) (n : Node) :
    p.resume (.done (r, n)) = { p with node := n, doing := none } := rfl

@[simp] theorem resume_ask (p : Party) (c : Call) (k : c.Answer → Interaction (Step × Node)) :
    p.resume (.ask c k) = { p with doing := some (.ask c k) } := rfl

/-- The answers that a party may get at the time `now`, with the party and what it has sent
then. No shutdown is requested and every send succeeds. A wait gives the oldest letter, or
nothing that is accepted. -/
inductive Answers (p : Party) (now : Nat) : (c : Call) → c.Answer → Party → List Letter → Prop
  | running : Answers p now .shutdownRequested false { p with sent := false } []
  | time : Answers p now .clock now { p with sent := false } []
  | letter (timeout : Nat) (x : Letter) (rest : List Letter) (waiting : p.inbox = x :: rest) :
      Answers p now (.receive timeout) (.datagram x.text)
        { p with sent := false, inbox := rest } []
  | silence (timeout : Nat) (rc : Reception) (unheard : (p.node.heard rc).2 = none) :
      Answers p now (.receive timeout) rc { p with sent := false } []
  | delivered (payload : Octets) :
      Answers p now (.send payload) true { p with sent := true }
        [⟨now, datagram payload p.node.binding.address requiredTtl⟩]
  | switched (b : Binding) (mac : Mac) (role : MacRole) (succeeded : Bool) :
      Answers p now (.applyMac b mac role) succeeded { p with sent := false } []
  | announced (i : UInt32) (mac : Mac) (a : IPv4) (succeeded : Bool) :
      Answers p now (.announce i mac a) succeeded { p with sent := false } []

inductive Moves (p : Party) (now : Nat) : Party → List Letter → Prop
  | begins (resting : p.doing = none) : Moves p now { p with doing := some p.node.step } []
  | goesOn {c : Call} {k : c.Answer → Interaction (Step × Node)} {r : c.Answer} {q : Party}
      {out : List Letter} (doing : p.doing = some (.ask c k)) (answered : p.Answers now c r q out) :
      Moves p now (q.resume (k r)) out

theorem moves_resting {p q : Party} {now : Nat} {out : List Letter} (resting : p.doing = none)
    (moved : p.Moves now q out) : q = { p with doing := some p.node.step } ∧ out = [] := by
  cases moved with
  | begins => exact ⟨rfl, rfl⟩
  | goesOn doing => cases resting.symm.trans doing

theorem moves_ask {p q : Party} {now : Nat} {out : List Letter} {c : Call}
    {k : c.Answer → Interaction (Step × Node)} (doing : p.doing = some (.ask c k))
    (moved : p.Moves now q out) : ∃ r q', p.Answers now c r q' out ∧ q = q'.resume (k r) := by
  cases moved with
  | begins resting => cases resting.symm.trans doing
  | goesOn doing' answered =>
    cases doing.symm.trans doing'
    exact ⟨_, _, answered, rfl⟩

/-- The party rests, or it is at some point of its step at which nothing has happened yet. -/
inductive Idles (p : Party) (hears : Node → Advert → Interaction Node) : Prop
  | rests (doing : p.doing = none)
  | begins (doing : p.doing = some p.node.step)
  | turns (doing : p.doing = some (Node.finish p.node.act))
  | listens (timeout : Nat) (doing : p.doing = some (p.node.listens timeout hears))

/-- What comes of a move of a party that idles: nothing yet, a timer that has fired, a wait
that ends the step with nothing heard, or the oldest letter. -/
theorem idles_moves {p q : Party} {now : Nat} {out : List Letter} {fires : Nat → Bool}
    {fired : Interaction Node} {hears : Node → Advert → Interaction Node}
    (h : p.Idles hears) (turns : p.node.Turns fires fired hears) (moved : p.Moves now q out) :
    out = [] ∧
      ((q.node = p.node ∧ q.inbox = p.inbox ∧ q.Idles hears) ∨
      (fires now = true ∧ q = { p with sent := false }.resume (Node.finish fired)) ∨
      (∃ rc, (p.node.heard rc).2 = none ∧
        q = { p with node := (p.node.heard rc).1, doing := none, sent := false }) ∨
      ∃ x rest, p.inbox = x :: rest ∧ q = { p with sent := false, inbox := rest }.resume
        (match p.node.heard (.datagram x.text) with
        | (m, some a) => Node.finish (hears m a)
        | (m, none) => .done (.proceed, m))) := by
  cases h with
  | rests doing =>
    obtain ⟨rfl, rfl⟩ := moves_resting doing moved
    exact ⟨rfl, .inl ⟨rfl, rfl, .begins rfl⟩⟩
  | begins doing =>
    rw [Node.step_eq] at doing
    obtain ⟨r, p', answered, rfl⟩ := moves_ask doing moved
    cases answered with
    | running =>
      have ask : { p with sent := false }.resume (Node.finish p.node.act) =
          { p with sent := false, doing := some (Node.finish p.node.act) } := by
        rw [turns, resume_ask]
      rw [if_neg Bool.false_ne_true, ask]
      exact ⟨rfl, .inl ⟨rfl, rfl, .turns rfl⟩⟩
  | turns doing =>
    rw [turns] at doing
    obtain ⟨r, p', answered, rfl⟩ := moves_ask doing moved
    cases answered with
    | time =>
      cases passed : fires now with
      | true => exact ⟨rfl, .inr (.inl ⟨rfl, by rw [if_pos rfl]⟩)⟩
      | false =>
        rw [if_neg Bool.false_ne_true]
        exact ⟨rfl, .inl ⟨rfl, rfl, .listens _ rfl⟩⟩
  | listens timeout doing =>
    obtain ⟨r, p', answered, rfl⟩ := moves_ask doing moved
    cases answered with
    | letter _ x rest waiting => exact ⟨rfl, .inr (.inr (.inr ⟨x, rest, waiting, rfl⟩))⟩
    | silence _ _ unheard =>
      have split : p.node.heard r = ((p.node.heard r).1, none) := Prod.ext rfl unheard
      refine ⟨rfl, .inr (.inr (.inl ⟨r, unheard, ?_⟩))⟩
      rw [split, resume_done]

def go? (p : Party) (now : Nat) : Option (Party × List Letter) :=
  match p.doing with
  | none => some ({ p with doing := some p.node.step }, [])
  | some (.done _) => none
  | some (.ask .shutdownRequested k) => some ({ p with sent := false }.resume (k false), [])
  | some (.ask .clock k) => some ({ p with sent := false }.resume (k now), [])
  | some (.ask (.receive _) k) =>
    match p.inbox with
    | [] => some ({ p with sent := false }.resume (k .timeout), [])
    | x :: rest =>
      some ({ p with sent := false, inbox := rest }.resume (k (.datagram x.text)), [])
  | some (.ask (.send payload) k) =>
    some ({ p with sent := true }.resume (k true),
      [⟨now, datagram payload p.node.binding.address requiredTtl⟩])
  | some (.ask (.applyMac _ _ _) k) => some ({ p with sent := false }.resume (k true), [])
  | some (.ask (.announce _ _ _) k) => some ({ p with sent := false }.resume (k true), [])

theorem moves_of_go? {p q : Party} {now : Nat} {out : List Letter}
    (went : p.go? now = some (q, out)) : p.Moves now q out := by
  unfold go? at went
  split at went
  next resting => cases went; exact .begins resting
  next => cases went
  next doing => cases went; exact .goesOn doing .running
  next doing => cases went; exact .goesOn doing .time
  next doing =>
    split at went
    next => cases went; exact .goesOn doing (.silence _ _ rfl)
    next waiting => cases went; exact .goesOn doing (.letter _ _ _ waiting)
  next doing => cases went; exact .goesOn doing (.delivered _)
  next doing => cases went; exact .goesOn doing (.switched _ _ _ _)
  next doing => cases went; exact .goesOn doing (.announced _ _ _ _)

end Party

structure Pair where
  now : Nat
  master : Party
  backup : Party

namespace Pair

inductive Moves : Pair → Pair → Prop
  | master (l : Pair) (p : Party) (out : List Letter) (moved : l.master.Moves l.now p out) :
      Moves l ⟨l.now, p, { l.backup with inbox := l.backup.inbox ++ out }⟩
  | backup (l : Pair) (p : Party) (out : List Letter) (moved : l.backup.Moves l.now p out) :
      Moves l ⟨l.now, { l.master with inbox := l.master.inbox ++ out }, p⟩
  | passes (l : Pair) (later : Nat) (forward : l.now ≤ later)
      (free : l.master.sent = false ∧ l.backup.sent = false) : Moves l { l with now := later }

inductive Choice
  | master
  | backup
  | wait (later : Nat)

def next? (l : Pair) : Choice → Option Pair
  | .master => (l.master.go? l.now).map fun (p, out) =>
      ⟨l.now, p, { l.backup with inbox := l.backup.inbox ++ out }⟩
  | .backup => (l.backup.go? l.now).map fun (p, out) =>
      ⟨l.now, { l.master with inbox := l.master.inbox ++ out }, p⟩
  | .wait later =>
    if l.now ≤ later ∧ l.master.sent = false ∧ l.backup.sent = false then
      some { l with now := later }
    else none

theorem moves_of_next? {l l' : Pair} {c : Choice} (went : l.next? c = some l') : l.Moves l' := by
  cases c with
  | master =>
    obtain ⟨⟨p, out⟩, moved, rfl⟩ := Option.map_eq_some_iff.mp went
    exact .master l p out (Party.moves_of_go? moved)
  | backup =>
    obtain ⟨⟨p, out⟩, moved, rfl⟩ := Option.map_eq_some_iff.mp went
    exact .backup l p out (Party.moves_of_go? moved)
  | wait later =>
    rw [next?] at went
    split at went
    next free => cases went; exact .passes l later free.1 free.2
    next => cases went

end Pair
end VirtualRouter
