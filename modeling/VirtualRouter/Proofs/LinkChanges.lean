import VirtualRouter.Proofs.CallTraces
import VirtualRouter.Link

/-!
# Changing interfaces

Every way in which a change of an interface can end, with the calls that it has made by then.
-/

set_option autoImplicit false

namespace VirtualRouter

def OnInterface (name : String) : SysCall → Prop
  | .getFlags other | .setFlags other _ | .setMac other _ => other = name
  | _ => False

namespace Link
open Kernel

structure ValidName (name : String) : Prop where
  named : ¬name.isEmpty
  short : name.utf8ByteSize ≤ maxNameLength
  whole : ¬name.toList.contains (Char.ofNat 0)

theorem validName_iff {name : String} : ValidName name ↔
    ¬(name.isEmpty ∨ maxNameLength < name.utf8ByteSize ∨ name.toList.contains (Char.ofNat 0)) := by
  rw [not_or, not_or, Nat.not_lt]
  exact ⟨fun ⟨named, short, whole⟩ => ⟨named, short, whole⟩,
    fun ⟨named, short, whole⟩ => ⟨named, short, whole⟩⟩

theorem checkName_of_valid {name : String} (valid : ValidName name) (k : Kernel) :
    checkName name k = (.ok (), k) := by
  rw [checkName, if_neg (validName_iff.mp valid)]
  rfl

theorem checkName_of_invalid {name : String} (invalid : ¬ValidName name) (k : Kernel) :
    checkName name k = (.error (.interface (.invalidName name)), k) := by
  rw [checkName, if_pos (Decidable.not_not.mp (mt validName_iff.mpr invalid))]
  rfl

theorem request_apply {α : Type} {name : String} (valid : ValidName name) (call : String)
    (act : SysM Errno α) (k : Kernel) : request name call act k =
      ((act k).1.mapError fun e => .interface (.requestFailed name call e), (act k).2) := by
  rw [request, SysM.bind_apply, checkName_of_valid valid]
  rfl

section
variable (k : Kernel)

theorem openSocket_leads : ∃ (r : Except Errno Unit) (k' : Kernel),
    openSocket k = (r.mapError .io, k') ∧ k.Leads [⟨.openInet, failureOf r⟩] k' :=
  ⟨_, _, rfl, leads_attempt (fun _ => rfl) k⟩

variable {name : String} (valid : ValidName name)
include valid

theorem getFlags_leads : ∃ (r : Except Errno UInt16) (k' : Kernel),
    getFlags name k =
      (r.mapError fun e => .interface (.requestFailed name "SIOCGIFFLAGS" e), k') ∧
    k.Leads [⟨.getFlags name, failureOf r⟩] k' ∧
    ∀ flags, r = .ok flags → ∃ i, k.interface? name = some i ∧ i.flags = flags :=
  ⟨_, _, request_apply valid _ _ k, leads_getFlags k name, fun _ => flags_of_getFlags⟩

theorem setFlags_leads (flags : UInt16) : ∃ (r : Except Errno Unit) (k' : Kernel),
    setFlags name flags k =
      (r.mapError fun e => .interface (.requestFailed name "SIOCSIFFLAGS" e), k') ∧
    k.Leads [⟨.setFlags name flags, failureOf r⟩] k' :=
  ⟨_, _, request_apply valid _ _ k, leads_setFlags k name flags⟩

theorem getMac_leads : ∃ (r : Except Errno Mac) (k' : Kernel),
    request name "SIOCGIFHWADDR" (Kernel.getMac name) k =
      (r.mapError fun e => .interface (.requestFailed name "SIOCGIFHWADDR" e), k') ∧
    k.Leads [⟨.getMac name, failureOf r⟩] k' ∧
    ∀ mac, r = .ok mac → ∃ i, k.interface? name = some i ∧ i.mac = mac :=
  ⟨_, _, request_apply valid _ _ k, leads_getMac k name, fun _ => mac_of_getMac⟩

theorem changeMac_leads (mac : Mac) : ∃ (r : Except Errno Unit) (k' : Kernel),
    replaceMac.observe (request name "SIOCSIFHWADDR" (Kernel.setMac name mac)) k =
      (.ok (r.mapError fun e => .interface (.requestFailed name "SIOCSIFHWADDR" e)), k') ∧
    k.Leads [⟨.setMac name mac, failureOf r⟩] k' := by
  refine ⟨_, _, ?_, leads_setMac k name mac⟩
  rw [replaceMac.observe, request_apply valid]

end

inductive Reading (name : String) (flags : UInt16) : List LogEntry → Except Fault UInt16 → Prop
  | unopened (e : Errno) : Reading name flags [⟨.openInet, some e⟩] (.error (.io e))
  | misnamed (invalid : ¬ValidName name) :
    Reading name flags [⟨.openInet, none⟩] (.error (.interface (.invalidName name)))
  | unread (e : Errno) : Reading name flags [⟨.openInet, none⟩, ⟨.getFlags name, some e⟩]
      (.error (.interface (.requestFailed name "SIOCGIFFLAGS" e)))
  | read (valid : ValidName name) :
    Reading name flags [⟨.openInet, none⟩, ⟨.getFlags name, none⟩] (.ok flags)

theorem readFlags_reading (name : String) (k : Kernel) {flags : UInt16}
    (agrees : ∀ i, k.interface? name = some i → i.flags = flags) :
    (readFlags name).Ends k (Reading name flags) := by
  obtain ⟨e | _, k₁, socket, opened⟩ := openSocket_leads k
  · refine .of_run ?_ opened (.unopened e)
    rw [readFlags, SysM.bind_apply, socket]
    rfl
  · have open₁ : readFlags name k = getFlags name k₁ := by
      rw [readFlags, SysM.bind_apply, socket]
      rfl
    by_cases valid : ValidName name
    · obtain ⟨e | f, k₂, request, asked, told⟩ := getFlags_leads k₁ valid
      · exact .of_run (open₁.trans request) (opened.trans asked) (.unread e)
      · obtain ⟨i, there, rfl⟩ := told f rfl
        rw [opened.interface?] at there
        obtain ⟨j, before, rfl⟩ := Option.map_eq_some_iff.mp there
        obtain rfl := agrees j before
        exact .of_run (open₁.trans request) (opened.trans asked) (.read valid)
    · refine .of_run (open₁.trans ?_) opened (.misnamed valid)
      rw [getFlags, request, SysM.bind_apply, checkName_of_invalid valid]

/-- Reading the flags changes no interface. -/
theorem Reading.afterAll {name : String} {flags : UInt16} {calls : List LogEntry}
    {result : Except Fault UInt16} (reading : Reading name flags calls result) (i : Interface) :
    i.afterAll calls = i := by
  cases reading <;> rfl

theorem Reading.misnamed_of_through {name : String} {flags : UInt16} {calls : List LogEntry}
    {fault : Fault} (reading : Reading name flags calls (.error fault))
    (through : ∀ x ∈ calls, x.failure = none) : ¬ValidName name := by
  cases reading with
  | unopened e => simp at through
  | misnamed invalid => exact invalid
  | unread e => simp at through

/-- How changing the address ends. The flags are put back in every case in which the interface was
taken down, and a failure to do so hides one of the change. -/
inductive Replacing (name : String) (mac : Mac) (flags : UInt16) :
    List LogEntry → Except Fault Unit → Prop
  | unread {calls : List LogEntry} {fault : Fault}
    (reading : Reading name flags calls (.error fault)) :
    Replacing name mac flags calls (.error fault)
  | held (e : Errno) : Replacing name mac flags
      [⟨.openInet, none⟩, ⟨.getFlags name, none⟩,
       ⟨.setFlags name (flags &&& ~~~Interface.upFlag), some e⟩]
      (.error (.interface (.requestFailed name "SIOCSIFFLAGS" e)))
  | tried (valid : ValidName name) (changed restored : Except Errno Unit) :
    Replacing name mac flags
      [⟨.openInet, none⟩, ⟨.getFlags name, none⟩,
       ⟨.setFlags name (flags &&& ~~~Interface.upFlag), none⟩,
       ⟨.setMac name mac, failureOf changed⟩, ⟨.setFlags name flags, failureOf restored⟩]
      (do
        restored.mapError fun e => .interface (.requestFailed name "SIOCSIFFLAGS" e)
        changed.mapError fun e => .interface (.requestFailed name "SIOCSIFHWADDR" e))

theorem setMac_replacing (name : String) (mac : Mac) (k : Kernel) {flags : UInt16}
    (agrees : ∀ i, k.interface? name = some i → i.flags = flags) :
    (setMac name mac).Ends k (Replacing name mac flags) := by
  obtain ⟨calls, result, k₂, read, leads, reading⟩ := (readFlags_reading name k agrees).exists_run
  have run := SysM.bind_apply (readFlags name) (replaceMac name mac) k
  rw [← setMac, read] at run
  cases reading with
  | unopened e => exact .of_run run leads (.unread (.unopened e))
  | misnamed invalid => exact .of_run run leads (.unread (.misnamed invalid))
  | unread e => exact .of_run run leads (.unread (.unread e))
  | read valid =>
    obtain ⟨e | _, k₃, clear, cleared⟩ :=
      setFlags_leads k₂ valid (flags &&& ~~~Interface.upFlag)
    · refine .of_run (run.trans ?_) (leads.trans cleared) (.held e)
      dsimp only
      rw [replaceMac, SysM.bind_apply, clear]
      rfl
    -- from here on both calls are made, whatever comes of the first
    · obtain ⟨changed, k₄, change, changes⟩ := changeMac_leads k₃ valid mac
      obtain ⟨restored, k₅, restore, restores⟩ := setFlags_leads k₄ valid flags
      refine .of_run (run.trans ?_) (leads.trans (cleared.trans (changes.trans restores)))
        (.tried valid changed restored)
      have clearing : setFlags name (flags &&& ~~~Interface.upFlag) k₂ = (.ok (), k₃) := clear
      simp only [replaceMac, SysM.bind_apply, clearing, checkName_of_valid valid, change, restore]
      cases restored <;> cases changed <;> rfl

namespace Replacing
variable {i : Interface} {mac : Mac} {calls : List LogEntry} {result : Except Fault Unit}
  (h : Replacing i.name mac i.flags calls result)
include h

theorem in_order : calls.map LogEntry.call <+:
    [.openInet, .getFlags i.name, .setFlags i.name (i.flags &&& ~~~Interface.upFlag),
     .setMac i.name mac, .setFlags i.name i.flags] := by
  cases h with
  | unread reading => cases reading <;> simp
  | held e => simp
  | tried valid changed restored => simp

theorem done (ok : result = .ok ()) : ValidName i.name ∧ i.afterAll calls = { i with mac := mac } := by
  cases h with
  | unread reading => cases ok
  | held e => cases ok
  | tried valid changed restored =>
    cases restored with
    | error e => cases ok
    | ok =>
      cases changed with
      | error e => cases ok
      | ok => exact ⟨valid, by simp [failureOf, Interface.after]⟩

theorem ok_of_through (valid : ValidName i.name) (through : ∀ x ∈ calls, x.failure = none) :
    result = .ok () := by
  cases h with
  | unread reading => exact absurd valid (reading.misnamed_of_through through)
  | held e => simp at through
  | tried valid changed restored =>
    cases restored with
    | error e => simp [failureOf] at through
    | ok =>
      cases changed with
      | error e => simp [failureOf] at through
      | ok => rfl

theorem undone {fault : Fault} (failed : result = .error fault)
    (restored : ∀ e, calls[4]? ≠ some ⟨.setFlags i.name i.flags, some e⟩) :
    i.afterAll calls = i := by
  cases h with
  | unread reading => exact reading.afterAll i
  | held e => simp [Interface.after]
  | tried valid changed restored' =>
    cases restored' with
    | error e => exact absurd rfl (restored e)
    | ok =>
      cases changed with
      | error e => simp [failureOf, Interface.after]
      | ok => cases failed

theorem left_down {e : Errno}
    (unrestored : calls[4]? = some ⟨.setFlags i.name i.flags, some e⟩) :
    result = .error (.interface (.requestFailed i.name "SIOCSIFFLAGS" e)) ∧
    i.afterAll calls = { i with
      flags := i.flags &&& ~~~Interface.upFlag
      mac := if calls[3]? = some ⟨.setMac i.name mac, none⟩ then mac else i.mac } := by
  cases h with
  | unread reading => cases reading <;> cases unrestored
  | held e => cases unrestored
  | tried valid changed restored =>
    cases restored with
    | ok => cases unrestored
    | error e =>
      cases unrestored
      cases changed <;> exact ⟨rfl, by simp [failureOf, Interface.after]⟩

theorem given_up {e : Errno}
    (held : calls[2]? = some ⟨.setFlags i.name (i.flags &&& ~~~Interface.upFlag), some e⟩) :
    calls.length = 3 := by
  cases h with
  | unread reading => cases reading <;> cases held
  | held e => rfl
  | tried valid changed restored => cases held

theorem restored_once
    (cleared : calls[2]? = some ⟨.setFlags i.name (i.flags &&& ~~~Interface.upFlag), none⟩) :
    ∃ changed restored, calls.drop 3 =
      [⟨.setMac i.name mac, changed⟩, ⟨.setFlags i.name i.flags, restored⟩] := by
  cases h with
  | unread reading => cases reading <;> cases cleared
  | held e => cases cleared
  | tried valid changed restored => exact ⟨_, _, rfl⟩

theorem changed_while_down {failure : Option Errno}
    (tried : calls[3]? = some ⟨.setMac i.name mac, failure⟩) :
    (i.afterAll (calls.take 3)).isUp = false := by
  cases h with
  | unread reading => cases reading <;> cases tried
  | held e => cases tried
  | tried valid changed restored =>
    simp [Interface.after, Interface.isUp, UInt16.and_assoc]

end Replacing

/-- What a reader is told of the address, if no call of it fails. -/
theorem getMac_of_through {name : String} (valid : ValidName name) {k : Kernel} {i : Interface}
    (there : k.interface? name = some i)
    (through : ∀ x ∈ (getMac name).calls k, x.failure = none) : (getMac name k).1 = .ok i.mac := by
  obtain ⟨opened, k₁, socket, opening⟩ := openSocket_leads k
  cases opened with
  | error e =>
    have run : getMac name k = (.error (.io e), k₁) := by
      rw [getMac, SysM.bind_apply, socket]
      rfl
    rw [opening.calls_eq run] at through
    cases through _ (List.mem_singleton_self _)
  | ok =>
    obtain ⟨read, k₂, request, asking, told⟩ := getMac_leads k₁ valid
    have run : getMac name k =
        (read.mapError fun e => .interface (.requestFailed name "SIOCGIFHWADDR" e), k₂) := by
      rw [getMac, SysM.bind_apply, socket]
      exact request
    rw [(opening.trans asking).calls_eq run] at through
    cases read with
    | error e => cases through ⟨.getMac name, some e⟩ (by simp [failureOf])
    | ok mac =>
      obtain ⟨j, held, rfl⟩ := told mac rfl
      rw [opening.interface?, there] at held
      cases held
      rw [run]
      rfl

theorem name_of_interface {name : String} {k : Kernel} {i : Interface}
    (there : k.interface? name = some i) : i.name = name := by
  simpa using List.find?_some there

theorem flags_of_interface {name : String} {k : Kernel} {i : Interface}
    (there : k.interface? name = some i) :
    ∀ j, k.interface? name = some j → j.flags = i.flags := by
  intro j other
  rw [there] at other
  cases other
  rfl

/-- Changing the address either does just that or leaves the interface as it was, unless the flags
could not be put back. That is tried once whenever the interface was taken down, which it is
before the address is touched. -/
theorem setMac_keeps_link (name : String) (mac : Mac) {k : Kernel} {i : Interface}
    (there : k.interface? name = some i) :
    let made := (setMac name mac).calls k
    let result := (setMac name mac k).1
    let k' := (setMac name mac k).2
    let clearing : SysCall := .setFlags name (i.flags &&& ~~~Interface.upFlag)
    let changing : SysCall := .setMac name mac
    let restoring : SysCall := .setFlags name i.flags
    made.map LogEntry.call <+: [.openInet, .getFlags name, clearing, changing, restoring] ∧
    k'.interface? name = some (i.afterAll made) ∧
    (result = .ok () → k'.interface? name = some { i with mac := mac } ∧
      ((∀ x ∈ (getMac name).calls k', x.failure = none) → (getMac name k').1 = .ok mac)) ∧
    (∀ fault, result = .error fault → (∀ e, made[4]? ≠ some ⟨restoring, some e⟩) →
      k'.interface? name = some i) ∧
    (∀ e, made[4]? = some ⟨restoring, some e⟩ →
      result = .error (.interface (.requestFailed name "SIOCSIFFLAGS" e)) ∧
      k'.interface? name = some { i with
        flags := i.flags &&& ~~~Interface.upFlag
        mac := if made[3]? = some ⟨changing, none⟩ then mac else i.mac }) ∧
    (∀ e, made[2]? = some ⟨clearing, some e⟩ → made.length = 3) ∧
    (made[2]? = some ⟨clearing, none⟩ →
      ∃ changed restored, made.drop 3 = [⟨changing, changed⟩, ⟨restoring, restored⟩]) ∧
    (∀ failure, made[3]? = some ⟨changing, failure⟩ →
      (i.afterAll (made.take 3)).isUp = false) := by
  obtain ⟨leads, h⟩ := setMac_replacing name mac k (flags_of_interface there)
  obtain rfl := name_of_interface there
  intro made result k' clearing changing restoring
  have now : k'.interface? i.name = some (i.afterAll made) := by
    rw [leads.interface?, there]
    rfl
  refine ⟨h.in_order, now, fun ok => ?_, fun fault failed restored => ?_, fun e unrestored => ?_,
    fun e => h.given_up, h.restored_once, fun failure => h.changed_while_down⟩
  · obtain ⟨valid, changed⟩ := h.done ok
    rw [changed] at now
    exact ⟨now, getMac_of_through valid now⟩
  · rw [now, h.undone failed restored]
  · obtain ⟨told, changed⟩ := h.left_down unrestored
    exact ⟨told, by rw [now, changed]⟩

def eth0 : Interface := ⟨"eth0", 2, 0x1003, ⟨2, 0, 0, 0, 0, 1⟩, some ⟨10, 0, 0, 2⟩, true⟩

def refusing : Kernel :=
  { Kernel.idle with
    interfaces := [eth0]
    failures := fun name => if name = "SIOCSIFFLAGS" then [0, 1] else [] }

theorem link_of_refused_restore :
    refusing.interface? "eth0" = some eth0 ∧
    ((setMac "eth0" (Mac.ofRouter 1)).calls refusing)[4]? =
      some ⟨.setFlags "eth0" 0x1003, some ⟨1⟩⟩ ∧
    (setMac "eth0" (Mac.ofRouter 1) refusing).1 =
      .error (.interface (.requestFailed "eth0" "SIOCSIFFLAGS" ⟨1⟩)) ∧
    (setMac "eth0" (Mac.ofRouter 1) refusing).2.interface? "eth0" =
      some { eth0 with flags := 0x1002, mac := Mac.ofRouter 1 } := by
  have there : refusing.interface? "eth0" = some eth0 := rfl
  have failed : ((setMac "eth0" (Mac.ofRouter 1)).calls refusing)[4]? =
      some ⟨.setFlags "eth0" 0x1003, some ⟨1⟩⟩ := rfl
  obtain ⟨-, -, -, -, unrestored, -⟩ := setMac_keeps_link "eth0" (Mac.ofRouter 1) there
  obtain ⟨told, left⟩ := unrestored _ failed
  exact ⟨there, failed, told, left⟩

inductive Toggling (name : String) (enable : Bool) (flags : UInt16) :
    List LogEntry → Except Fault Unit → Prop
  | unread {calls : List LogEntry} {fault : Fault}
    (reading : Reading name flags calls (.error fault)) :
    Toggling name enable flags calls (.error fault)
  | unchanged (same : promiscuous enable flags = flags) : Toggling name enable flags
      [⟨.openInet, none⟩, ⟨.getFlags name, none⟩] (.ok ())
  | written (changed : Except Errno Unit) : Toggling name enable flags
      [⟨.openInet, none⟩, ⟨.getFlags name, none⟩,
       ⟨.setFlags name (promiscuous enable flags), failureOf changed⟩]
      (changed.mapError fun e => .interface (.requestFailed name "SIOCSIFFLAGS" e))

theorem setPromiscuous_toggling (name : String) (enable : Bool) (k : Kernel) {flags : UInt16}
    (agrees : ∀ i, k.interface? name = some i → i.flags = flags) :
    (setPromiscuous name enable).Ends k (Toggling name enable flags) := by
  obtain ⟨calls, result, k₂, read, leads, reading⟩ := (readFlags_reading name k agrees).exists_run
  have run := SysM.bind_apply (readFlags name) (toggle name enable) k
  rw [← setPromiscuous, read] at run
  cases reading with
  | unopened e => exact .of_run run leads (.unread (.unopened e))
  | misnamed invalid => exact .of_run run leads (.unread (.misnamed invalid))
  | unread e => exact .of_run run leads (.unread (.unread e))
  | read valid =>
    dsimp only at run
    by_cases same : promiscuous enable flags = flags
    · rw [toggle, if_pos same] at run
      exact .of_run run leads (.unchanged same)
    · rw [toggle, if_neg same] at run
      obtain ⟨changed, k₃, change, changes⟩ :=
        setFlags_leads k₂ valid (promiscuous enable flags)
      exact .of_run (run.trans change) (leads.trans changes) (.written changed)

namespace Toggling
variable {i : Interface} {enable : Bool} {calls : List LogEntry} {result : Except Fault Unit}
  (h : Toggling i.name enable i.flags calls result)
include h

theorem done (ok : result = .ok ()) :
    i.afterAll calls = { i with flags := promiscuous enable i.flags } := by
  cases h with
  | unread reading => cases ok
  | unchanged same => simp [Interface.after, same]
  | written changed =>
    cases changed with
    | error e => cases ok
    | ok => simp [failureOf, Interface.after]

theorem ok_of_through (valid : ValidName i.name) (through : ∀ x ∈ calls, x.failure = none) :
    result = .ok () := by
  cases h with
  | unread reading => exact absurd valid (reading.misnamed_of_through through)
  | unchanged same => rfl
  | written changed =>
    cases changed with
    | error e => simp [failureOf] at through
    | ok => rfl

end Toggling

section
variable {name : String} {k : Kernel} {i : Interface} (there : k.interface? name = some i)
include there

theorem setMac_of_ok {mac : Mac} (ok : (setMac name mac k).1 = .ok ()) :
    (setMac name mac k).2.interface? name = some { i with mac := mac } := by
  obtain ⟨leads, h⟩ := setMac_replacing name mac k (flags_of_interface there)
  obtain rfl := name_of_interface there
  rw [leads.interface?, there, Option.map_some, (h.done ok).2]

theorem setPromiscuous_of_ok {enable : Bool} (ok : (setPromiscuous name enable k).1 = .ok ()) :
    (setPromiscuous name enable k).2.interface? name =
      some { i with flags := promiscuous enable i.flags } := by
  obtain ⟨leads, h⟩ := setPromiscuous_toggling name enable k (flags_of_interface there)
  obtain rfl := name_of_interface there
  rw [leads.interface?, there, Option.map_some, h.done ok]

variable (valid : ValidName name)
include valid

theorem setMac_ok {mac : Mac} (through : ∀ x ∈ (setMac name mac).calls k, x.failure = none) :
    (setMac name mac k).1 = .ok () := by
  obtain ⟨leads, h⟩ := setMac_replacing name mac k (flags_of_interface there)
  obtain rfl := name_of_interface there
  exact h.ok_of_through valid through

theorem setPromiscuous_ok {enable : Bool}
    (through : ∀ x ∈ (setPromiscuous name enable).calls k, x.failure = none) :
    (setPromiscuous name enable k).1 = .ok () := by
  obtain ⟨leads, h⟩ := setPromiscuous_toggling name enable k (flags_of_interface there)
  obtain rfl := name_of_interface there
  exact h.ok_of_through valid through

end

theorem makes_checkName {kind : SysCall → Prop} (name : String) : Makes kind (checkName name) := by
  rw [checkName]
  split
  · exact .throw _
  · exact .pure _

theorem makes_request {α : Type} {kind : SysCall → Prop} {name call : String} {act : SysM Errno α}
    (made : Makes kind act) : Makes kind (request name call act) :=
  .andThen (makes_checkName name) fun _ => .adapt _ made

theorem makes_getFlags (name : String) : Makes (OnInterface name) (getFlags name) :=
  makes_request (.of_leads (leads_getFlags · name) rfl)

theorem makes_setFlags (name : String) (flags : UInt16) :
    Makes (OnInterface name) (setFlags name flags) :=
  makes_request (.of_leads (leads_setFlags · name flags) rfl)

theorem makes_observe {kind : SysCall → Prop} {act : SysM Fault Unit} (made : Makes kind act) :
    Makes kind (replaceMac.observe act) := made

theorem makes_replaceMac (name : String) (mac : Mac) (flags : UInt16) :
    Makes (OnInterface name) (replaceMac name mac flags) := by
  refine .andThen (makes_setFlags _ _) fun _ => .andThen (makes_checkName name) fun _ => ?_
  have change : Makes (OnInterface name)
      (request name "SIOCSIFHWADDR" (Kernel.setMac name mac)) :=
    makes_request (.of_leads (leads_setMac · name mac) rfl)
  refine .andThen (makes_observe change) fun changed => .andThen (makes_setFlags _ _) fun _ => ?_
  cases changed with
  | ok => exact .pure _
  | error f => exact .throw _

theorem setMac_starts (name : String) (mac : Mac) :
    Starts .openInet (OnInterface name) (setMac name mac) := by
  rw [setMac, readFlags, bind_assoc]
  exact starts_of_attempt (fun _ => rfl) .io
    fun _ => .andThen (makes_getFlags name) (makes_replaceMac name mac)

theorem setPromiscuous_starts (name : String) (enable : Bool) :
    Starts .openInet (OnInterface name) (setPromiscuous name enable) := by
  rw [setPromiscuous, readFlags, bind_assoc]
  refine starts_of_attempt (fun _ => rfl) .io
    fun _ => .andThen (makes_getFlags name) fun flags => ?_
  rw [toggle]
  split
  · exact .pure _
  · exact makes_setFlags name _

end Link
end VirtualRouter
