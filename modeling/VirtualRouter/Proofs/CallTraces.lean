import VirtualRouter.Proofs.SystemCalls

/-!
# What operations do to interfaces

The calls that went through say all that an operation does to the interfaces: played back, they
give the interfaces as it leaves them.
-/

set_option autoImplicit false

namespace VirtualRouter

namespace Interface

def after (i : Interface) (x : LogEntry) : Interface :=
  match x.failure, x.call with
  | none, .setFlags name flags => if i.name = name then { i with flags := flags } else i
  | none, .setMac name mac => if i.name = name then { i with mac := mac } else i
  | _, _ => i

def afterAll (i : Interface) (calls : List LogEntry) : Interface := calls.foldl after i

@[simp] theorem after_failed (i : Interface) (c : SysCall) (e : Errno) :
    i.after ⟨c, some e⟩ = i := by
  cases c <;> rfl

@[simp] theorem name_after (i : Interface) (x : LogEntry) : (i.after x).name = i.name := by
  unfold after
  split
  · split <;> rfl
  · split <;> rfl
  · rfl

@[simp] theorem afterAll_nil (i : Interface) : i.afterAll [] = i := rfl

@[simp] theorem afterAll_cons (i : Interface) (x : LogEntry) (calls : List LogEntry) :
    i.afterAll (x :: calls) = (i.after x).afterAll calls := rfl

theorem afterAll_append (i : Interface) (xs ys : List LogEntry) :
    i.afterAll (xs ++ ys) = (i.afterAll xs).afterAll ys := List.foldl_append

@[simp] theorem name_afterAll (i : Interface) (calls : List LogEntry) :
    (i.afterAll calls).name = i.name := by
  induction calls generalizing i with
  | nil => rfl
  | cons x calls ih => rw [afterAll_cons, ih, name_after]

end Interface

def failureOf {α : Type} : Except Errno α → Option Errno
  | .ok _ => none
  | .error e => some e

namespace Kernel

/-- These calls lead from one state to the other, as far as interfaces and log go. -/
structure Leads (k : Kernel) (calls : List LogEntry) (k' : Kernel) : Prop where
  log : k'.log = k.log ++ calls
  interfaces : k'.interfaces = k.interfaces.map (·.afterAll calls)

theorem Leads.refl (k : Kernel) : k.Leads [] k :=
  ⟨(List.append_nil _).symm, (List.map_id' _).symm⟩

theorem Leads.trans {k₁ k₂ k₃ : Kernel} {xs ys : List LogEntry} (first : k₁.Leads xs k₂)
    (second : k₂.Leads ys k₃) : k₁.Leads (xs ++ ys) k₃ where
  log := by rw [second.log, first.log, List.append_assoc]
  interfaces := by
    rw [second.interfaces, first.interfaces, List.map_map]
    exact List.map_congr_left fun i _ => (i.afterAll_append xs ys).symm

theorem Leads.interface? {k k' : Kernel} {calls : List LogEntry} (leads : k.Leads calls k')
    (name : String) : k'.interface? name = (k.interface? name).map (·.afterAll calls) := by
  rw [Kernel.interface?, leads.interfaces, List.find?_map]
  congr 2
  funext i
  simp

/-- What a call that goes through does to the interfaces is what the log says of it. -/
def Tells {α : Type} (c : SysCall) (effect : Kernel → Except Errno (α × Kernel)) : Prop :=
  ∀ k a k', effect k = .ok (a, k') →
    k'.log = k.log ∧ k'.interfaces = k.interfaces.map (·.after ⟨c, none⟩)

/-- A call that names no interface leaves all of them. -/
theorem Tells.of_untouched {α : Type} {c : SysCall} {effect : Kernel → Except Errno (α × Kernel)}
    (inert : ∀ i : Interface, i.after ⟨c, none⟩ = i)
    (untouched : ∀ k a k', effect k = .ok (a, k') →
      k'.log = k.log ∧ k'.interfaces = k.interfaces) : Tells c effect := by
  intro k a k' done
  obtain ⟨log, interfaces⟩ := untouched k a k' done
  exact ⟨log, by simp [interfaces, inert]⟩

theorem leads_failed (k : Kernel) (c : SysCall) (e : Errno) :
    k.Leads [⟨c, some e⟩] (k.failed c e) :=
  ⟨rfl, by simp [failed, record, dropFailure]⟩

theorem leads_perform {α : Type} {c : SysCall} {effect : Kernel → Except Errno (α × Kernel)}
    (tells : Tells c effect) (k : Kernel) :
    k.Leads [⟨c, failureOf (perform c effect k).1⟩] (perform c effect k).2 := by
  unfold perform
  split
  · exact leads_failed k c _
  · split
    · exact leads_failed k c _
    · rename_i done
      obtain ⟨log, interfaces⟩ := tells _ _ _ done
      exact ⟨congrArg (· ++ _) log, interfaces⟩

theorem leads_attempt {c : SysCall} (inert : ∀ i : Interface, i.after ⟨c, none⟩ = i)
    (k : Kernel) : k.Leads [⟨c, failureOf (attempt c k).1⟩] (attempt c k).2 :=
  leads_perform (.of_untouched inert fun _ _ _ done => by cases done; exact ⟨rfl, rfl⟩) k

theorem leads_performOn {α : Type} {c : SysCall} {name : String}
    {effect : Interface → Kernel → Except Errno (α × Kernel)}
    (tells : ∀ i, Tells c (effect i)) (k : Kernel) :
    k.Leads [⟨c, failureOf (performOn c name effect k).1⟩] (performOn c name effect k).2 := by
  refine leads_perform (fun k a k' done => ?_) k
  split at done
  · cases done
  · exact tells _ k a k' done

theorem ok_of_performOn {α : Type} {c : SysCall} {name : String}
    {effect : Interface → Kernel → Except Errno (α × Kernel)} {k : Kernel} {a : α}
    (through : (performOn c name effect k).1 = .ok a) :
    ∃ i, k.interface? name = some i ∧ ∃ k', effect i (k.dropFailure c.name) = .ok (a, k') := by
  unfold performOn perform at through
  dsimp only at through
  split at through
  · cases through
  · split at through
    · cases through
    · rename_i done
      cases through
      split at done
      · cases done
      · exact ⟨_, ‹_›, _, done⟩

variable (k : Kernel) (name : String)

theorem leads_getFlags :
    k.Leads [⟨.getFlags name, failureOf (getFlags name k).1⟩] (getFlags name k).2 :=
  leads_performOn (fun _ => .of_untouched (fun _ => rfl)
    fun _ _ _ done => by cases done; exact ⟨rfl, rfl⟩) k

theorem leads_getMac : k.Leads [⟨.getMac name, failureOf (getMac name k).1⟩] (getMac name k).2 :=
  leads_performOn (fun _ => .of_untouched (fun _ => rfl)
    fun _ _ _ done => by cases done; exact ⟨rfl, rfl⟩) k

theorem leads_setFlags (flags : UInt16) :
    k.Leads [⟨.setFlags name flags, failureOf (setFlags name flags k).1⟩]
      (setFlags name flags k).2 := by
  refine leads_performOn (fun i k a k' done => ?_) k
  cases done
  refine ⟨rfl, List.map_congr_left fun i _ => ?_⟩
  simp [Interface.after]

theorem leads_setMac (mac : Mac) :
    k.Leads [⟨.setMac name mac, failureOf (setMac name mac k).1⟩] (setMac name mac k).2 := by
  refine leads_performOn (fun i k a k' done => ?_) k
  split at done
  · cases done
  · cases done
    refine ⟨rfl, List.map_congr_left fun i _ => ?_⟩
    simp [Interface.after]

theorem leads_sendNetlink (m : Octets) :
    k.Leads [⟨.sendNetlink m, failureOf (sendNetlink m k).1⟩] (sendNetlink m k).2 := by
  refine leads_perform (.of_untouched (fun _ => rfl) fun k a k' done => ?_) k
  split at done <;> (cases done; exact ⟨rfl, rfl⟩)

theorem leads_receiveNetlink :
    k.Leads [⟨.receiveNetlink, failureOf (receiveNetlink k).1⟩] (receiveNetlink k).2 := by
  refine leads_perform (.of_untouched (fun _ => rfl) fun k a k' done => ?_) k
  split at done <;> (cases done; try exact ⟨rfl, rfl⟩)

theorem flags_of_getFlags {k : Kernel} {name : String} {flags : UInt16}
    (read : (getFlags name k).1 = .ok flags) :
    ∃ i, k.interface? name = some i ∧ i.flags = flags := by
  obtain ⟨i, there, k', done⟩ := ok_of_performOn read
  cases done
  exact ⟨i, there, rfl⟩

theorem mac_of_getMac {k : Kernel} {name : String} {mac : Mac}
    (read : (getMac name k).1 = .ok mac) : ∃ i, k.interface? name = some i ∧ i.mac = mac := by
  obtain ⟨i, there, k', done⟩ := ok_of_performOn read
  cases done
  exact ⟨i, there, rfl⟩

end Kernel

def SysM.calls {ε α : Type} (act : SysM ε α) (k : Kernel) : List LogEntry :=
  (act k).2.log.drop k.log.length

theorem Kernel.Leads.calls_eq {ε α : Type} {act : SysM ε α} {k k' : Kernel}
    {calls : List LogEntry} {result : Except ε α} (leads : k.Leads calls k')
    (run : act k = (result, k')) : act.calls k = calls := by
  rw [SysM.calls, run, leads.log, List.drop_left]

structure SysM.Ends {ε α : Type} (act : SysM ε α) (k : Kernel)
    (told : List LogEntry → Except ε α → Prop) : Prop where
  leads : k.Leads (act.calls k) (act k).2
  told : told (act.calls k) (act k).1

theorem SysM.Ends.of_run {ε α : Type} {act : SysM ε α} {k k' : Kernel} {result : Except ε α}
    {calls : List LogEntry} {told : List LogEntry → Except ε α → Prop}
    (run : act k = (result, k')) (leads : k.Leads calls k') (h : told calls result) :
    act.Ends k told := by
  have made := leads.calls_eq run
  exact ⟨by rwa [made, run], by rwa [made, run]⟩

theorem SysM.Ends.exists_run {ε α : Type} {act : SysM ε α} {k : Kernel}
    {told : List LogEntry → Except ε α → Prop} (ends : act.Ends k told) :
    ∃ calls result k', act k = (result, k') ∧ k.Leads calls k' ∧ told calls result :=
  ⟨_, _, _, rfl, ends.leads, ends.told⟩

def Makes {α : Type} (kind : SysCall → Prop) (act : StateM Kernel α) : Prop :=
  ∀ k : Kernel, ∃ calls, k.Leads calls (act k).2 ∧ ∀ x ∈ calls, kind x.call

namespace Makes
variable {ε α β : Type} {kind : SysCall → Prop}

theorem silent {act : StateM Kernel α} (same : ∀ k, (act k).2 = k) : Makes kind act := by
  intro k
  rw [same]
  exact ⟨[], .refl k, fun _ member => by cases member⟩

theorem pure (a : α) : Makes kind (Pure.pure a : StateM Kernel α) := .silent fun _ => rfl

theorem throw (e : ε) : Makes kind (MonadExcept.throw e : SysM ε α) := .silent fun _ => rfl

theorem get : Makes kind (MonadState.get : SysM ε Kernel) := .silent fun _ => rfl

theorem bind {act : StateM Kernel α} {next : α → StateM Kernel β} (first : Makes kind act)
    (second : ∀ a, Makes kind (next a)) : Makes kind (act >>= next) := by
  intro k
  obtain ⟨xs, leads, made⟩ := first k
  obtain ⟨ys, leads', made'⟩ := second (act k).1 (act k).2
  exact ⟨xs ++ ys, leads.trans leads', fun x member =>
    (List.mem_append.mp member).elim (made x) (made' x)⟩

theorem andThen {act : SysM ε α} {next : α → SysM ε β} (first : Makes kind act)
    (second : ∀ a, Makes kind (next a)) : Makes kind (act >>= next : SysM ε β) := by
  -- a fault of the first part is passed on without a call
  have continued (r : Except ε α) : Makes kind (ExceptT.bindCont next r) := by
    cases r with
    | ok a => exact second a
    | error e => exact .pure _
  exact bind first continued

theorem adapt {act : SysM ε α} (fault : ε → β) (made : Makes kind act) :
    Makes kind (act.adapt fault : SysM β α) := made

theorem of_leads {act : SysM Errno α} {c : SysCall}
    (leads : ∀ k : Kernel, k.Leads [⟨c, failureOf (act k).1⟩] (act k).2) (fits : kind c) :
    Makes kind act :=
  fun k => ⟨_, leads k, fun _ member => by
    cases List.mem_singleton.mp member
    exact fits⟩

end Makes

def Opens (c : SysCall) (kind : SysCall → Prop) (calls : List LogEntry) : Prop :=
  ∃ failure rest, calls = ⟨c, failure⟩ :: rest ∧ ∀ x ∈ rest, kind x.call

def Starts {ε α : Type} (c : SysCall) (kind : SysCall → Prop) (act : SysM ε α) : Prop :=
  ∀ k : Kernel, act.Ends k fun calls _ => Opens c kind calls

theorem starts_of_attempt {α : Type} {c : SysCall} {kind : SysCall → Prop}
    (inert : ∀ i : Interface, i.after ⟨c, none⟩ = i) (fault : Errno → Fault)
    {next : Unit → SysM Fault α} (rest : ∀ a, Makes kind (next a)) :
    Starts c kind ((Kernel.attempt c).adapt fault >>= next : SysM Fault α) := by
  intro k
  have first := Kernel.leads_attempt inert k
  have opened : ((Kernel.attempt c).adapt fault : SysM Fault Unit) k =
      ((Kernel.attempt c k).1.mapError fault, (Kernel.attempt c k).2) := rfl
  have run := SysM.bind_apply ((Kernel.attempt c).adapt fault) next k
  rw [opened] at run
  -- the first call alone, or with all that follows it
  generalize Kernel.attempt c k = tried at first run
  obtain ⟨e | ⟨⟩, k'⟩ := tried
  · exact .of_run run first ⟨_, _, rfl, by simp⟩
  · obtain ⟨calls, leads, made⟩ := rest () k'
    exact .of_run run (first.trans leads) ⟨_, _, rfl, made⟩

end VirtualRouter
