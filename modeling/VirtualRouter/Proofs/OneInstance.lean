import VirtualRouter.Proofs.PidFileClaims
import Mathlib.Data.Set.Defs

/-!
# One instance at a time

The process identifier file of an interface is there exactly while one instance holds it. Any
number of instances may claim such files and give them up, in any order.
-/

set_option autoImplicit false

namespace VirtualRouter.PidFile
open FileSystem

structure Holding where
  dir : String
  interface : String
  process : Nat
  file : PidFile
  deriving DecidableEq

def Holding.name (h : Holding) : String × String := (h.dir, h.interface)

structure Instances where
  disk : FileSystem
  held : List Holding

inductive Operation
  | claim (dir interface : String) (process : Nat)
  | release (holder : Nat)
  | drop (holder : Nat)

def Operation.Within (names : Set (String × String)) : Operation → Prop
  | .claim dir interface _ => (dir, interface) ∈ names
  | .release _ | .drop _ => True

namespace Instances

def settle (s : Instances) (dir interface : String) (process : Nat) :
    Except PidFileFault PidFile × FileSystem → Instances
  | (.ok file, disk) => ⟨disk, s.held ++ [⟨dir, interface, process, file⟩]⟩
  | (.error _, disk) => ⟨disk, s.held⟩

def perform (s : Instances) : Operation → Instances
  | .claim dir interface process =>
    s.settle dir interface process (PidFile.claim dir interface process s.disk)
  | .release k =>
    match s.held[k]? with
    | none => s
    | some h => ⟨(h.file.release s.disk).2, s.held.eraseIdx k⟩
  | .drop k =>
    match s.held[k]? with
    | none => s
    | some h => ⟨h.file.drop s.disk, s.held.eraseIdx k⟩

def performAll (s : Instances) (ops : List Operation) : Instances := ops.foldl perform s

def holders (s : Instances) (x : String × String) : Nat := (s.held.map Holding.name).count x

def subject? (s : Instances) : Operation → Option (String × String)
  | .claim dir interface _ => some (dir, interface)
  | .release k | .drop k => s.held[k]?.map Holding.name

theorem holders_eq_zero_iff {s : Instances} {x : String × String} :
    s.holders x = 0 ↔ ∀ h ∈ s.held, h.name ≠ x := by
  simp [holders, List.count_eq_zero]

end Instances

/-- Names in directories that exist, each under one name, without any of the files. -/
structure Vacant (fs : FileSystem) (names : Set (String × String)) : Prop where
  single : ∀ x ∈ names, '/' ∉ x.2.toList
  exists_directory : ∀ x ∈ names, (fs.directory? x.1).isSome
  apart : ∀ x ∈ names, ∀ y ∈ names, fs.directory? x.1 = fs.directory? y.1 → x.1 = y.1
  free : ∀ x ∈ names, content? fs x = none

structure Holding.Genuine (names : Set (String × String)) (h : Holding) : Prop where
  name_mem : h.name ∈ names
  path : h.file = ⟨pathFor h.dir h.interface⟩
  named : nameFault? (pathFor h.dir h.interface) (fileName h.interface) = none

/-- Every file is there for one holder, and holds its process. -/
structure Exclusive (names : Set (String × String)) (fs : FileSystem) (s : Instances) : Prop where
  directories : SameDirectories fs s.disk
  genuine : ∀ h ∈ s.held, h.Genuine names
  distinct : (s.held.map Holding.name).Nodup
  contents : ∀ x ∈ names, ∀ c,
    content? s.disk x = some c ↔ ∃ h ∈ s.held, h.name = x ∧ content h.process = c

inductive Effect (names : Set (String × String)) (s : Instances) (x : String × String)
    (l : Location) : Instances → Prop
  | kept {gs : FileSystem} (changed : Changed s.disk l (s.disk.entry? l) gs) :
    Effect names s x l ⟨gs, s.held⟩
  | taken {gs : FileSystem} {h : Holding} (name : h.name = x) (genuine : h.Genuine names)
      (free : s.disk.entry? l = none)
      (changed : Changed s.disk l (some (.file (content h.process))) gs) :
    Effect names s x l ⟨gs, s.held ++ [h]⟩
  | given {gs : FileSystem} {h : Holding} {k : Nat} (at_ : s.held[k]? = some h) (name : h.name = x)
      (there : s.disk.entry? l = some (.file (content h.process)))
      (changed : Changed s.disk l none gs) :
    Effect names s x l ⟨gs, s.held.eraseIdx k⟩

section
variable {fs : FileSystem} {names : Set (String × String)} {x y : String × String}

theorem Vacant.place (vacant : Vacant fs names) (hx : x ∈ names) : ∃ l, place? fs x = some l := by
  obtain ⟨d, leads⟩ := Option.isSome_iff_exists.mp (vacant.exists_directory x hx)
  exact ⟨d ++ [fileName x.2], by rw [place?, leads]; rfl⟩

/-- Different names have different places. -/
theorem Vacant.place_inj (vacant : Vacant fs names) (hx : x ∈ names) (hy : y ∈ names)
    {l : Location} (at_x : place? fs x = some l) (at_y : place? fs y = some l) : x = y := by
  obtain ⟨d, leads, rfl⟩ := directory_of_place at_x
  obtain ⟨d', leads', same⟩ := directory_of_place at_y
  obtain ⟨rfl, last⟩ := List.append_inj' same rfl
  exact Prod.ext (vacant.apart x hx y hy (leads.trans leads'.symm))
    (fileName_inj (List.singleton_inj.mp last)).symm

variable {s t : Instances} {h : Holding} {k : Nat}

namespace Exclusive

theorem init (vacant : Vacant fs names) : Exclusive names fs ⟨fs, []⟩ where
  directories := .refl fs
  genuine := nofun
  distinct := List.nodup_nil
  contents x hx c := by simp [vacant.free x hx]

theorem place (vacant : Vacant fs names) (exclusive : Exclusive names fs s) (hx : x ∈ names) :
    ∃ l, place? s.disk x = some l := by
  simpa only [place?_congr exclusive.directories] using vacant.place hx

/-- The file of a holder is there. -/
theorem there (exclusive : Exclusive names fs s) (mem : h ∈ s.held) :
    content? s.disk h.name = some (content h.process) :=
  (exclusive.contents _ (exclusive.genuine h mem).name_mem _).mpr ⟨h, mem, rfl, rfl⟩

theorem isSome_iff (exclusive : Exclusive names fs s) (hx : x ∈ names) :
    (content? s.disk x).isSome ↔ x ∈ s.held.map Holding.name := by
  rw [Option.isSome_iff_exists, List.mem_map]
  constructor
  · rintro ⟨c, found⟩
    obtain ⟨h, mem, name, -⟩ := (exclusive.contents x hx c).mp found
    exact ⟨h, mem, name⟩
  · rintro ⟨h, mem, rfl⟩
    exact ⟨_, exclusive.there mem⟩

theorem not_mem_of_free (exclusive : Exclusive names fs s) (hx : x ∈ names)
    {l : Location} (at_x : place? s.disk x = some l) (free : s.disk.entry? l = none) :
    x ∉ s.held.map Holding.name := by
  rw [← exclusive.isSome_iff hx, content?_of_place at_x, free]
  exact Bool.false_ne_true

theorem holders_eq (exclusive : Exclusive names fs s) (x : String × String) :
    s.holders x = if x ∈ s.held.map Holding.name then 1 else 0 :=
  exclusive.distinct.count

/-- The file is there exactly while there is one holder. -/
theorem isSome_iff_holders (exclusive : Exclusive names fs s) (hx : x ∈ names) :
    ((content? s.disk x).isSome ↔ s.holders x = 1) ∧ s.holders x ≤ 1 := by
  rw [exclusive.isSome_iff hx, exclusive.holders_eq]
  split_ifs with held <;> simp [held]

theorem content?_of_unheld (exclusive : Exclusive names fs s) (hx : x ∈ names)
    (unheld : s.holders x = 0) : content? s.disk x = none := by
  have absent := mt (exclusive.isSome_iff_holders hx).1.mp (by omega)
  exact Option.not_isSome_iff_eq_none.mp absent

/-- Giving up one file ends the only holding of its name. -/
theorem mem_eraseIdx_iff (exclusive : Exclusive names fs s) (at_ : s.held[k]? = some h)
    {h' : Holding} : h' ∈ s.held.eraseIdx k ↔ h' ∈ s.held ∧ h'.name ≠ h.name := by
  rw [List.mem_eraseIdx_iff_getElem?, List.mem_iff_getElem?]
  have bound : k < (s.held.map Holding.name).length := by
    rw [List.length_map]
    exact (List.getElem?_eq_some_iff.mp at_).1
  constructor
  · rintro ⟨i, other, here⟩
    refine ⟨⟨i, here⟩, fun same => other ?_⟩
    refine ((List.getElem?_inj bound exclusive.distinct).mp ?_).symm
    rw [List.getElem?_map, List.getElem?_map, at_, here, Option.map_some, Option.map_some, same]
  · rintro ⟨⟨i, here⟩, other⟩
    refine ⟨i, ?_, here⟩
    rintro rfl
    exact other (congrArg Holding.name (Option.some.inj (here.symm.trans at_)))

theorem holders_of_given (exclusive : Exclusive names fs s) (at_ : s.held[k]? = some h) :
    (s.perform (.release k)).holders h.name = 0 := by
  rw [Instances.holders_eq_zero_iff, Instances.perform, at_]
  exact fun h' mem => ((exclusive.mem_eraseIdx_iff at_).mp mem).2

end Exclusive

section
variable {l : Location} (effect : Effect names s x l t)
include effect

theorem Effect.sameDirectories : SameDirectories s.disk t.disk := by
  cases effect with
  | kept changed => exact changed.sameDirectories .rfl
  | taken name genuine free changed => exact changed.sameDirectories (by simp [free])
  | given at_ name there changed => exact changed.sameDirectories (by simp [there])

theorem Effect.changed : ∃ e, Changed s.disk l e t.disk := by
  cases effect with
  | kept changed => exact ⟨_, changed⟩
  | taken name genuine free changed => exact ⟨_, changed⟩
  | given at_ name there changed => exact ⟨_, changed⟩

variable (exclusive : Exclusive names fs s)
include exclusive

/-- The holders of other names stay. -/
theorem Effect.mem_held_iff (other : h.name ≠ x) : h ∈ t.held ↔ h ∈ s.held := by
  cases effect with
  | kept changed => rfl
  | taken name genuine free changed =>
    rw [List.mem_append, List.mem_singleton, or_iff_left]
    rintro rfl
    exact other name
  | given at_ name there changed =>
    rw [exclusive.mem_eraseIdx_iff at_, name, and_iff_left other]

variable (hx : x ∈ names) (at_x : place? s.disk x = some l)
include hx at_x

theorem Effect.distinct : (t.held.map Holding.name).Nodup := by
  cases effect with
  | kept changed => exact exclusive.distinct
  | taken name genuine free changed =>
    rw [List.map_append, List.map_singleton, name]
    exact List.nodup_append.mpr
      ⟨exclusive.distinct, List.pairwise_singleton _ x, fun y mem z last same =>
        exclusive.not_mem_of_free hx at_x free (List.mem_singleton.mp last ▸ same ▸ mem)⟩
  | given at_ name there changed =>
    exact exclusive.distinct.sublist ((List.eraseIdx_sublist _ _).map _)

/-- The file is there for its holder. -/
theorem Effect.contents (c : Octets) :
    content? t.disk x = some c ↔ ∃ h ∈ t.held, h.name = x ∧ content h.process = c := by
  have found := content?_of_place ((place?_congr effect.sameDirectories x).trans at_x)
  cases effect with
  | kept changed =>
    rw [found, changed.here, ← content?_of_place at_x]
    exact exclusive.contents x hx c
  | @taken gs h name genuine free changed =>
    rw [found, changed.here]
    constructor
    · rintro ⟨⟩
      exact ⟨h, List.mem_append_right _ (List.mem_singleton_self h), name, rfl⟩
    · rintro ⟨h', mem, name', rfl⟩
      rcases List.mem_append.mp mem with before | last
      · exact absurd (List.mem_map.mpr ⟨h', before, name'⟩)
          (exclusive.not_mem_of_free hx at_x free)
      · rw [List.mem_singleton.mp last]
        rfl
  | given at_ name there changed =>
    rw [found, changed.here]
    refine iff_of_false nofun ?_
    rintro ⟨h', mem, name', -⟩
    exact ((exclusive.mem_eraseIdx_iff at_).mp mem).2 (name'.trans name.symm)

variable (vacant : Vacant fs names)
include vacant

/-- The other files stay. -/
theorem Effect.content?_eq (hy : y ∈ names) (other : y ≠ x) :
    content? t.disk y = content? s.disk y := by
  obtain ⟨m, at_y⟩ := exclusive.place vacant hy
  obtain ⟨e, changed⟩ := effect.changed
  rw [content?_of_place at_y,
    content?_of_place ((place?_congr effect.sameDirectories y).trans at_y)]
  refine congrArg stored (changed.elsewhere ?_)
  rintro rfl
  rw [place?_congr exclusive.directories] at at_x at_y
  exact other (vacant.place_inj hy hx at_y at_x)

theorem Exclusive.of_effect : Exclusive names fs t where
  directories := exclusive.directories.trans effect.sameDirectories
  genuine h mem := by
    cases effect with
    | kept changed => exact exclusive.genuine h mem
    | taken name genuine free changed =>
      rcases List.mem_append.mp mem with before | last
      · exact exclusive.genuine h before
      · exact List.mem_singleton.mp last ▸ genuine
    | given at_ name there changed => exact exclusive.genuine h (List.mem_of_mem_eraseIdx mem)
  distinct := effect.distinct exclusive hx at_x
  contents y hy c := by
    by_cases here : y = x
    · subst here
      exact effect.contents exclusive hx at_x c
    · rw [effect.content?_eq exclusive hx at_x vacant hy here, exclusive.contents y hy c]
      refine exists_congr fun h => and_congr_left fun kept => ?_
      exact (effect.mem_held_iff exclusive (kept.1 ▸ here)).symm

end

/-! ## Runs -/

namespace Exclusive
variable (vacant : Vacant fs names) (exclusive : Exclusive names fs s)
include vacant exclusive

/-- The place of a holder's file. -/
theorem place_of_held (mem : h ∈ s.held) : ∃ l, place? s.disk (h.dir, h.interface) = some l ∧
    s.disk.entry? l = some (.file (content h.process)) := by
  obtain ⟨l, place⟩ := exclusive.place vacant (exclusive.genuine h mem).name_mem
  exact ⟨l, place,
    stored_eq_some.mp ((content?_of_place place).symm.trans (exclusive.there mem))⟩

/-- A holder can remove its file, by releasing or by dropping it. -/
theorem give_up (at_ : s.held[k]? = some h) : (h.file.release s.disk).1 = .ok () ∧
    h.file.drop s.disk = (h.file.release s.disk).2 ∧
    ∃ l, place? s.disk h.name = some l ∧ Effect names s h.name l (s.perform (.release k)) := by
  have mem := List.mem_of_getElem? at_
  have genuine := exclusive.genuine h mem
  obtain ⟨l, place, there⟩ := exclusive.place_of_held vacant mem
  have removed : s.disk.remove h.file.path = .ok (s.disk.erase l) := by
    rw [genuine.path]
    exact remove_of_there place (vacant.single _ genuine.name_mem) genuine.named there
  have released : h.file.release s.disk = (.ok (), s.disk.erase l) := by
    rw [PidFile.release, removed]
  rw [released]
  refine ⟨rfl, by rw [PidFile.drop, removed], l, place, ?_⟩
  simp only [Instances.perform, at_, released]
  exact .given at_ rfl there (.erase (ne_nil_of_place place))

theorem perform_drop (k : Nat) : s.perform (.drop k) = s.perform (.release k) := by
  rw [Instances.perform, Instances.perform]
  cases at_ : s.held[k]? with
  | none => rfl
  | some h =>
    dsimp only
    rw [(exclusive.give_up vacant at_).2.1]

theorem effect_of_release (k : Nat) : s.perform (.release k) = s ∨
    ∃ x ∈ names, s.subject? (.release k) = some x ∧
      ∃ l, place? s.disk x = some l ∧ Effect names s x l (s.perform (.release k)) := by
  cases at_ : s.held[k]? with
  | none => exact .inl (by rw [Instances.perform, at_])
  | some h =>
    have mem := (exclusive.genuine h (List.mem_of_getElem? at_)).name_mem
    obtain ⟨-, -, given⟩ := exclusive.give_up vacant at_
    exact .inr ⟨h.name, mem, by rw [Instances.subject?, at_, Option.map_some], given⟩

theorem effect {o : Operation} (within : o.Within names) : s.perform o = s ∨
    ∃ x ∈ names, s.subject? o = some x ∧
      ∃ l, place? s.disk x = some l ∧ Effect names s x l (s.perform o) := by
  cases o with
  | claim dir interface process =>
    obtain ⟨l, at_⟩ := exclusive.place vacant within
    have attempt := claim_attempt at_ (vacant.single _ within) process
    refine .inr ⟨(dir, interface), within, rfl, l, at_, ?_⟩
    rw [Instances.perform]
    generalize claim dir interface process s.disk = result at attempt
    cases attempt with
    | unnamed fault => exact .kept (.none_of_entries l rfl rfl)
    | taken there => exact .kept (.none_of_entries l rfl rfl)
    | unwritten free failing changed =>
      rw [← free] at changed
      exact .kept changed
    | made named free passing changed => exact .taken rfl ⟨within, rfl, named⟩ free changed
  | release k => exact exclusive.effect_of_release vacant k
  | drop k =>
    rw [exclusive.perform_drop vacant k]
    exact exclusive.effect_of_release vacant k

theorem perform {o : Operation} (within : o.Within names) :
    Exclusive names fs (s.perform o) := by
  rcases exclusive.effect vacant within with same | ⟨x, hx, -, l, at_, effect⟩
  · exact same.symm ▸ exclusive
  · exact .of_effect effect exclusive hx at_ vacant

omit exclusive in
theorem performAll {s : Instances} (exclusive : Exclusive names fs s) {ops : List Operation}
    (within : ∀ o ∈ ops, o.Within names) : Exclusive names fs (s.performAll ops) := by
  induction ops generalizing s with
  | nil => exact exclusive
  | cons o ops ih =>
    obtain ⟨first, rest⟩ := List.forall_mem_cons.mp within
    exact ih (exclusive.perform vacant first) rest

/-! ## What holders can rely on -/

/-- A holder excludes a second one. -/
theorem second_claim (mem : h ∈ s.held) (process : Nat) :
    claim h.dir h.interface process s.disk =
      (.error (.alreadyExists (pathFor h.dir h.interface) h.interface), s.disk) := by
  have genuine := exclusive.genuine h mem
  obtain ⟨l, place, there⟩ := exclusive.place_of_held vacant mem
  exact claim_of_there place (vacant.single _ genuine.name_mem) process genuine.named there

/-- What has been held can be claimed again when it is not held any more. -/
theorem next_claim (mem : h ∈ s.held) (later : Exclusive names fs t)
    (unheld : t.holders h.name = 0) (passing : t.disk.writeFailures.headD 0 = 0) (process : Nat) :
    (claim h.dir h.interface process t.disk).1 = .ok ⟨pathFor h.dir h.interface⟩ := by
  have genuine := exclusive.genuine h mem
  obtain ⟨l, place, there⟩ := exclusive.place_of_held vacant mem
  rw [place?_congr exclusive.directories, ← place?_congr later.directories] at place
  -- no directory can have come where the file was
  have other : t.disk.entry? l ≠ some .directory := by
    rw [ne_eq, later.directories.directory_iff, ← exclusive.directories.directory_iff, there]
    nofun
  have free : t.disk.entry? l = none := by
    rw [← stored_eq_none other, ← content?_of_place place]
    exact later.content?_of_unheld genuine.name_mem unheld
  exact claim_of_free place (vacant.single _ genuine.name_mem) process genuine.named free passing

/-- What is done with one file does nothing to the others. -/
theorem frame {o : Operation} (within : o.Within names) (hy : y ∈ names)
    (other : s.subject? o ≠ some y) :
    content? (s.perform o).disk y = content? s.disk y ∧
      (s.perform o).holders y = s.holders y := by
  have after := exclusive.perform vacant within
  rcases exclusive.effect vacant within with same | ⟨x, hx, subject, l, at_, effect⟩
  · rw [same]
    exact ⟨rfl, rfl⟩
  · have apart : y ≠ x := by
      rintro rfl
      exact other subject
    have held : y ∈ (s.perform o).held.map Holding.name ↔ y ∈ s.held.map Holding.name := by
      rw [List.mem_map, List.mem_map]
      refine exists_congr fun h => and_congr_left fun name => ?_
      exact effect.mem_held_iff exclusive (name ▸ apart)
    refine ⟨effect.content?_eq exclusive hx at_ vacant hy apart, ?_⟩
    simp only [after.holders_eq, exclusive.holders_eq, held]

end Exclusive
end

/-- The file of an interface excludes a second instance, however the instances before have come
and gone. -/
theorem second_instance_excluded {fs : FileSystem} {names : Set (String × String)}
    (vacant : Vacant fs names) {ops : List Operation} (within : ∀ o ∈ ops, o.Within names)
    {s : Instances} (run : Instances.performAll ⟨fs, []⟩ ops = s) :
    -- a file is there exactly while there is one holder
    (∀ x ∈ names, ((content? s.disk x).isSome ↔ s.holders x = 1) ∧ s.holders x ≤ 1) ∧
    -- it names the holder, and a second claim fails and leaves it so
    (∀ h ∈ s.held, content? s.disk h.name = some (content h.process) ∧
      ∀ process, claim h.dir h.interface process s.disk =
        (.error (.alreadyExists (pathFor h.dir h.interface) h.interface), s.disk)) ∧
    -- a claim that fails changes nothing, and one that fails to write leaves no file behind
    (∀ x ∈ names, ∀ process,
      (∀ e gs, claim x.1 x.2 process s.disk = (.error e, gs) →
        ∀ l, gs.entry? l = s.disk.entry? l) ∧
      (s.holders x = 0 → s.disk.writeFailures.headD 0 ≠ 0 →
        ∃ e gs, claim x.1 x.2 process s.disk = (.error e, gs) ∧ content? gs x = none)) ∧
    -- a holder can give up its file in either way
    (∀ k h, s.held[k]? = some h → (h.file.release s.disk).1 = .ok () ∧
      (s.perform (.release k)).holders h.name = 0 ∧
      (s.perform (.drop k)).holders h.name = 0) ∧
    -- and then the next one can claim it
    (∀ h ∈ s.held, ∀ more : List Operation, (∀ o ∈ more, o.Within names) →
      (s.performAll more).holders h.name = 0 →
      (s.performAll more).disk.writeFailures.headD 0 = 0 →
      ∀ process, (claim h.dir h.interface process (s.performAll more).disk).1 =
        .ok ⟨pathFor h.dir h.interface⟩) ∧
    -- all the while the other files are left alone
    (∀ o : Operation, o.Within names → ∀ x ∈ names, s.subject? o ≠ some x →
      content? (s.perform o).disk x = content? s.disk x ∧
        (s.perform o).holders x = s.holders x) ∧
    ∀ dir, Function.Injective (pathFor dir) := by
  subst run
  have exclusive := (Exclusive.init vacant).performAll vacant within
  refine ⟨fun x hx => exclusive.isSome_iff_holders hx,
    fun h mem => ⟨exclusive.there mem, exclusive.second_claim vacant mem⟩,
    fun x hx process => ?_, fun k h at_ => ?_,
    fun h mem more later => exclusive.next_claim vacant mem (exclusive.performAll vacant later),
    fun o one x hx => exclusive.frame vacant one hx,
    fun dir i j => pathFor_inj⟩
  · obtain ⟨l, place⟩ := exclusive.place vacant hx
    have single := vacant.single x hx
    exact ⟨fun e gs refused => entry?_of_refused place single refused,
      fun unheld failing => refused_of_failing place single process failing
        (exclusive.content?_of_unheld hx unheld)⟩
  · have given := exclusive.holders_of_given at_
    refine ⟨(exclusive.give_up vacant at_).1, given, ?_⟩
    rw [exclusive.perform_drop vacant k]
    exact given

def sampleDisk : FileSystem := { fresh with writeFailures := [28] }

def sampleOperations : List Operation :=
  [.claim "" "eth0" 1, .claim "" "eth0" 2, .claim "/" "eth0" 3, .claim "" "eth0" 4, .release 0,
    .claim "" "eth0" 5, .drop 0, .drop 7]

theorem second_instance_excluded_sample :
    ∃ s, Instances.performAll ⟨sampleDisk, []⟩ sampleOperations = s ∧
      s.held = [⟨"", "eth0", 5, ⟨"vrrpd_eth0.pid"⟩⟩] ∧
      content? s.disk ("", "eth0") = some (content 5) ∧ content? s.disk ("/", "eth0") = none := by
  let names : Set (String × String) := {("", "eth0"), ("/", "eth0")}
  have vacant : Vacant sampleDisk names := by
    refine ⟨?_, ?_, ?_, ?_⟩
    · rintro x (rfl | rfl) <;> decide
    · rintro x (rfl | rfl) <;> decide +kernel
    · rintro x (rfl | rfl) y (rfl | rfl) <;> decide +kernel
    · rintro x (rfl | rfl) <;> decide +kernel
  have first : ("", "eth0") ∈ names := .inl rfl
  have second : ("/", "eth0") ∈ names := .inr rfl
  have within : ∀ o ∈ sampleOperations, o.Within names := by
    simp [sampleOperations, Operation.Within, first, second]
  have held : (Instances.performAll ⟨sampleDisk, []⟩ sampleOperations).held =
      [⟨"", "eth0", 5, ⟨"vrrpd_eth0.pid"⟩⟩] := by decide +kernel
  obtain ⟨exists_iff, excludes, -⟩ := second_instance_excluded vacant within rfl
  have unheld := (exists_iff _ second).1
  rw [Instances.holders, held] at unheld
  refine ⟨_, rfl, held, (excludes ⟨"", "eth0", 5, ⟨"vrrpd_eth0.pid"⟩⟩ ?_).1, ?_⟩
  · rw [held]
    exact List.mem_singleton_self _
  · exact Option.not_isSome_iff_eq_none.mp (mt unheld.mp (by decide))

end VirtualRouter.PidFile
