import VirtualRouter.Settings
import VirtualRouter.Proofs.NodeStep
import VirtualRouter.Proofs.UsableConfigs

/-!
# The command line shadows the configuration file

What the command line says is followed, and what the file says about the same is never looked
at, however wrong it is. Settings that come of both have a usable router.
-/

set_option autoImplicit false

namespace VirtualRouter

/-- Two files say the same wherever the command line is silent. -/
structure CommandLine.SameBeside (line : CommandLine) (f g : FileConfig) : Prop where
  protocol : line.protocol = none → f.protocol = g.protocol
  interface : line.ifname = none → f.interface = g.interface
  vrid : line.vrid = none → f.vrid = g.vrid
  priority : line.priority = none → f.priority = g.priority
  interval : line.interval = none → f.advertInterval = g.advertInterval
  addresses : line.addresses = [] → f.addresses = g.addresses
  preempt : line.noPreempt = false → f.preempt = g.preempt
  daemonize : line.daemonize = false → f.daemonize = g.daemonize
  pidDir : line.pidDir = none → f.pidDir = g.pidDir
  level : line.logLevel = none → f.logging.level = g.logging.level
  format : line.logJson = false → f.logging.format = g.logging.format
  file : line.logFile = none → f.logging.file = g.logging.file

theorem or_congr_of_none {α : Type} {given a b : Option α} (same : given = none → a = b) :
    given.or a = given.or b := by
  cases given with
  | none => simpa using same rfl
  | some x => rfl

theorem getD_or_of_mem {α : Type} {given : Option α} {x : α} (there : x ∈ given)
    (a : Option α) (d : α) : (given.or a).getD d = x := by
  rw [Option.mem_def.mp there]
  rfl

theorem exists_of_bind_ok {ε α β : Type} {x : Except ε α} {f : α → Except ε β} {b : β}
    (ok : x >>= f = .ok b) : ∃ a, x = .ok a ∧ f a = .ok b := by
  cases x with
  | error e => cases ok
  | ok a => exact ⟨a, rfl, ok⟩

namespace Settings

section
variable {line : CommandLine} {f g : FileConfig} (same : line.SameBeside f g)
include same

theorem version_congr : version line f = version line g := by
  unfold version
  cases given : line.protocol with
  | some v => rfl
  | none => rw [same.protocol given]

theorem routerConfig_congr : routerConfig line f = routerConfig line g := by
  have preempt : (!line.noPreempt && f.preempt.getD true) =
      (!line.noPreempt && g.preempt.getD true) := by
    cases given : line.noPreempt with
    | true => rfl
    | false => rw [same.preempt given]
  have addresses : (if line.addresses.isEmpty then f.addresses else line.addresses) =
      if line.addresses.isEmpty then g.addresses else line.addresses := by
    cases given : line.addresses with
    | nil => simpa using same.addresses given
    | cons a r => rfl
  funext v interface vrid
  rw [routerConfig, routerConfig, or_congr_of_none same.priority, or_congr_of_none same.interval,
    addresses, preempt]

theorem wantsJson_congr : wantsJson line f = wantsJson line g := by
  unfold wantsJson
  cases given : line.logJson with
  | true => rfl
  | false => rw [same.format given]

theorem resolve_congr : resolve line f = resolve line g := by
  have daemonize : (line.daemonize || f.daemonize) = (line.daemonize || g.daemonize) := by
    cases given : line.daemonize with
    | true => rfl
    | false => rw [same.daemonize given]
  unfold resolve
  rw [version_congr same, routerConfig_congr same, wantsJson_congr same, daemonize,
    or_congr_of_none same.interface, or_congr_of_none same.vrid, or_congr_of_none same.pidDir,
    or_congr_of_none same.level, or_congr_of_none same.file]

end

/-- What settings come of, when nothing is refused. -/
theorem parts_of_resolve {line : CommandLine} {file : FileConfig} {s : Settings}
    (resolved : resolve line file = .ok s) : ∃ v name vrid json,
      version line file = .ok v ∧ line.ifname.or file.interface = some name ∧
      line.vrid.or file.vrid = some vrid ∧
      (routerConfig line file v name vrid).fault? = none ∧ wantsJson line file = .ok json ∧
      s = {
        router := routerConfig line file v name vrid
        daemonize := line.daemonize || file.daemonize
        pidDir := (line.pidDir.or file.pidDir).getD defaultPidDir
        logLevel := (line.logLevel.or file.logging.level).getD defaultLogLevel
        logJson := json
        logFile := (line.logFile.or file.logging.file).getD
          (Path.join defaultLogDir ("vrrpd_" ++ name ++ ".log")) } := by
  obtain ⟨v, spoken, resolved⟩ := exists_of_bind_ok resolved
  cases named : line.ifname.or file.interface with
  | none =>
    rw [named] at resolved
    cases resolved
  | some name =>
    cases numbered : line.vrid.or file.vrid with
    | none =>
      rw [named, numbered] at resolved
      cases resolved
    | some vrid =>
      simp only [named, numbered, bind, Except.bind] at resolved
      cases usable : (routerConfig line file v name vrid).fault? with
      | some f =>
        rw [usable] at resolved
        cases resolved
      | none =>
        rw [usable] at resolved
        obtain ⟨json, wanted, made⟩ := exists_of_bind_ok resolved
        exact ⟨v, name, vrid, json, spoken, rfl, rfl, usable, wanted, (Except.ok.inj made).symm⟩

structure Obeys (s : Settings) (line : CommandLine) : Prop where
  protocol : ∀ v ∈ line.protocol, s.router.version = v
  interface : ∀ name ∈ line.ifname, s.router.interface = name
  vrid : ∀ n ∈ line.vrid, s.router.vrid = n
  priority : ∀ p ∈ line.priority, s.router.priority = p
  interval : ∀ i ∈ line.interval, s.router.advertInterval = i
  addresses : line.addresses ≠ [] → s.router.addresses = line.addresses
  preempt : line.noPreempt = true → s.router.preempt = false
  daemonize : line.daemonize = true → s.daemonize = true
  pidDir : ∀ dir ∈ line.pidDir, s.pidDir = dir
  level : ∀ level ∈ line.logLevel, s.logLevel = level
  json : line.logJson = true → s.logJson = true
  file : ∀ path ∈ line.logFile, s.logFile = path

theorem obeys_of_resolve {line : CommandLine} {file : FileConfig} {s : Settings}
    (resolved : resolve line file = .ok s) : s.Obeys line := by
  obtain ⟨v, name, vrid, json, spoken, named, numbered, -, wanted, rfl⟩ :=
    parts_of_resolve resolved
  constructor
  case protocol =>
    intro w given
    rw [version, Option.mem_def.mp given] at spoken
    exact (Except.ok.inj spoken).symm
  case interface =>
    intro other given
    rw [Option.mem_def.mp given] at named
    exact (Option.some.inj named).symm
  case vrid =>
    intro n given
    rw [Option.mem_def.mp given] at numbered
    exact (Option.some.inj numbered).symm
  case addresses =>
    intro given
    exact if_neg (by simpa using given)
  case preempt =>
    intro given
    simp [routerConfig, given]
  case daemonize =>
    intro given
    simp [given]
  case json =>
    intro given
    rw [wantsJson, if_pos given] at wanted
    exact (Except.ok.inj wanted).symm
  all_goals exact fun x given => getD_or_of_mem given _ _

end Settings

/-- A router whose configuration is usable is refused for one reason alone. -/
theorem Node.start_eq_error_iff {c : Config} (usable : c.fault? = none) {b : Binding}
    {f : ConfigFault} : start c b = .error f ↔
      (c.priority = ownerPriority ∧ b.address ∉ c.addresses) ∧ f = .ownerPriority b.name := by
  have owner : c.owns b.address = true ↔ b.address ∈ c.addresses := List.contains_iff_mem
  unfold start effectivePriority
  rw [usable]
  by_cases owned : b.address ∈ c.addresses
  · simp [owner.mpr owned, owned]
  · by_cases reserved : c.priority = ownerPriority
    · simp [mt owner.mp owned, reserved, owned, eq_comm]
    · simp [mt owner.mp owned, reserved]

namespace Settings

/-- What the command line says is followed, whatever the file says about the same. -/
theorem command_line_shadows_file (line : CommandLine) :
    (∀ f g : FileConfig, line.SameBeside f g → resolve line f = resolve line g) ∧
    ∀ (file : FileConfig) (s : Settings), resolve line file = .ok s →
      s.Obeys line ∧ s.router.fault? = none ∧
      s.router.vrid ≠ 0 ∧ s.router.priority ≠ 0 ∧
      (1 ≤ s.router.addresses.length ∧ s.router.addresses.length ≤ 16) ∧
      s.router.addresses.Nodup ∧
      (1 ≤ s.router.interface.utf8ByteSize ∧ s.router.interface.utf8ByteSize ≤ 15) ∧
      (1 ≤ s.router.advertInterval ∧ s.router.advertInterval ≤ s.router.version.maxInterval) ∧
      ∀ (b : Binding) (f : ConfigFault), Node.start s.router b = .error f ↔
        (s.router.priority = 255 ∧ b.address ∉ s.router.addresses) ∧ f = .ownerPriority b.name := by
  refine ⟨fun f g same => resolve_congr same, fun file s resolved => ?_⟩
  have usable : s.router.fault? = none := by
    obtain ⟨v, name, vrid, json, -, -, -, usable, -, rfl⟩ := parts_of_resolve resolved
    exact usable
  have checked := Config.fault?_eq_none_iff.mp usable
  refine ⟨obeys_of_resolve resolved, usable, checked.router, checked.priority,
    ⟨?_, checked.count⟩, checked.distinct, ⟨?_, checked.short⟩, ⟨?_, checked.interval⟩,
    fun b f => Node.start_eq_error_iff usable⟩
  · exact List.length_pos_iff.mpr (mt List.isEmpty_iff.mpr checked.served)
  · exact Nat.pos_of_ne_zero (mt beq_iff_eq.mpr checked.named)
  · have positive := UInt16.lt_iff_toNat_lt.mp (UInt16.pos_iff_ne_zero.mpr checked.paced)
    exact UInt16.le_iff_toNat_le.mpr positive

def sampleLine : CommandLine where
  daemonize := true
  ifname := some "eth0"
  vrid := some 7
  noPreempt := true
  priority := none
  interval := some 255
  protocol := some .v2
  config := none
  pidDir := some "/run"
  logLevel := none
  logFile := some "/tmp/log"
  logJson := true
  addresses := [⟨10, 0, 0, 100⟩]

def sampleFile : FileConfig where
  interface := some ""
  vrid := some 0
  priority := some 255
  protocol := some 4
  advertInterval := some 4096
  preempt := some true
  addresses := [⟨10, 0, 0, 1⟩, ⟨10, 0, 0, 1⟩]
  daemonize := false
  pidDir := some ""
  logging := ⟨some "debug", some "xml", some ""⟩

def sampleRest : FileConfig :=
  { FileConfig.empty with priority := some 255, logging := ⟨some "debug", none, none⟩ }

theorem sample_line_shadows_file :
    sampleLine.SameBeside sampleFile sampleRest ∧
    ∃ s, resolve sampleLine sampleRest = .ok s ∧ resolve sampleLine sampleFile = .ok s ∧
      s.Obeys sampleLine ∧ s.router.priority = 255 ∧ s.logLevel = "debug" ∧
      Node.start s.router ⟨"eth0", 2, Mac.ofRouter 1, ⟨10, 0, 0, 2⟩⟩ =
        .error (.ownerPriority "eth0") := by
  have same : sampleLine.SameBeside sampleFile sampleRest := by
    constructor <;> simp [sampleLine, sampleFile, sampleRest]
  obtain ⟨shadowed, sound⟩ := command_line_shadows_file sampleLine
  have resolved : resolve sampleLine sampleRest = .ok _ := rfl
  obtain ⟨obeys, -, -, -, -, -, -, -, starts⟩ := sound sampleRest _ resolved
  exact ⟨same, _, resolved, (shadowed _ _ same).trans resolved, obeys, rfl, rfl,
    (starts _ _).mpr ⟨⟨rfl, by decide⟩, rfl⟩⟩

end Settings
end VirtualRouter
