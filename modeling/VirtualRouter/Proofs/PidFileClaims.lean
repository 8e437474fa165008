import VirtualRouter.PidFile
import VirtualRouter.Proofs.DirectoryPaths

/-!
# Claims of a process identifier file

What a claim of the file for a directory and an interface can come to. Nothing but the place of
that file changes, and only a claim that succeeds leaves a file there.
-/

set_option autoImplicit false

namespace VirtualRouter.PidFile
open FileSystem

def place? (fs : FileSystem) (x : String × String) : Option Location :=
  (fs.directory? x.1).map fun l => l ++ [fileName x.2]

def stored : Option FileEntry → Option Octets
  | some (.file c) => some c
  | _ => none

theorem stored_eq_some {e : Option FileEntry} {c : Octets} :
    stored e = some c ↔ e = some (.file c) := by
  unfold stored
  split <;> simp_all

theorem stored_eq_none {e : Option FileEntry} (other : e ≠ some .directory) :
    stored e = none ↔ e = none := by
  rcases e with _ | _ | c
  · exact iff_of_true rfl rfl
  · exact absurd rfl other
  · exact iff_of_false nofun nofun

def content? (fs : FileSystem) (x : String × String) : Option Octets :=
  (place? fs x).bind fun l => stored (fs.entry? l)

theorem toList_fileName (interface : String) : (fileName interface).toList =
    'v' :: ("rrpd_".toList ++ interface.toList ++ ".pid".toList) := by
  simp [fileName, String.toList_append]

theorem proper_fileName {interface : String} (single : '/' ∉ interface.toList) :
    Proper (fileName interface) := by
  have starts := toList_fileName interface
  constructor
  case single => simp [starts, single]
  all_goals
    intro same
    rw [same] at starts
    simp at starts

theorem fileName_inj {i j : String} (same : fileName i = fileName j) : i = j :=
  (String.append_right_inj _).mp ((String.append_left_inj _).mp same)

theorem pathFor_inj {dir i j : String} (same : pathFor dir i = pathFor dir j) : i = j := by
  have relative (i : String) : (fileName i).toList.head? ≠ some '/' := by
    rw [toList_fileName]
    simp
  refine fileName_inj ?_
  rw [pathFor, pathFor] at same
  rw [Path.join, Path.join, if_neg (relative i), if_neg (relative j)] at same
  split_ifs at same
  · exact same
  · exact (String.append_right_inj _).mp same
  · exact (String.append_right_inj _).mp same

theorem place?_congr {fs gs : FileSystem} (same : SameDirectories fs gs) (x : String × String) :
    place? gs x = place? fs x := by
  rw [place?, place?, same.directory?_eq]

/-! ## One file -/

inductive Attempt (fs : FileSystem) (dir interface : String) (l : Location) (process : Nat) :
    Except PidFileFault PidFile × FileSystem → Prop
  | unnamed {why : PathFault}
      (fault : nameFault? (pathFor dir interface) (fileName interface) = some why) :
    Attempt fs dir interface l process (.error (.cannotCreate (pathFor dir interface) why), fs)
  | taken {e : FileEntry} (there : fs.entry? l = some e) :
    Attempt fs dir interface l process
      (.error (.alreadyExists (pathFor dir interface) interface), fs)
  | unwritten {e : Errno} {gs : FileSystem} (free : fs.entry? l = none)
      (failing : fs.writeFailures.headD 0 ≠ 0) (changed : Changed fs l none gs) :
    Attempt fs dir interface l process
      (.error (.cannotWrite (pathFor dir interface) (.refused e)), gs)
  | made {gs : FileSystem}
      (named : nameFault? (pathFor dir interface) (fileName interface) = none)
      (free : fs.entry? l = none) (passing : fs.writeFailures.headD 0 = 0)
      (changed : Changed fs l (some (.file (content process))) gs) :
    Attempt fs dir interface l process (.ok ⟨pathFor dir interface⟩, gs)

section
variable {fs : FileSystem} {dir interface : String} {l : Location}
  (place : place? fs (dir, interface) = some l) (single : '/' ∉ interface.toList)
include place

theorem directory_of_place :
    ∃ d, fs.directory? dir = some d ∧ d ++ [fileName interface] = l :=
  Option.map_eq_some_iff.mp place

theorem ne_nil_of_place : l ≠ [] := by
  obtain ⟨d, -, rfl⟩ := directory_of_place place
  exact List.append_ne_nil_of_right_ne_nil d (List.cons_ne_nil _ _)

theorem content?_of_place : content? fs (dir, interface) = stored (fs.entry? l) := by
  rw [content?, place]
  rfl

include single

/-- The path of the file leads to its place. -/
theorem target_pathFor : ∃ d, l = d ++ [fileName interface] ∧
    fs.target (pathFor dir interface) =
      (nameFault? (pathFor dir interface) (fileName interface)).elim
        (.ok (.name d (fileName interface) false)) .error := by
  obtain ⟨d, leads, rfl⟩ := directory_of_place place
  have led := target_join leads (proper_fileName single)
  exact ⟨d, rfl, by rw [pathFor, led]⟩

theorem openWrite_pathFor : fs.openWrite (pathFor dir interface) true =
    match nameFault? (pathFor dir interface) (fileName interface), fs.entry? l with
    | some why, _ => .error why
    | none, some _ => .error (.refused .alreadyThere)
    | none, none => .ok (l, fs.put l (.file [])) := by
  obtain ⟨d, rfl, leads⟩ := target_pathFor place single
  rw [openWrite, leads]
  cases nameFault? (pathFor dir interface) (fileName interface) with
  | some why => rfl
  | none =>
    dsimp only [Option.elim_none]
    cases fs.entry? (d ++ [fileName interface]) with
    | none => rfl
    | some e => cases e <;> rfl

theorem remove_of_there {c : Octets}
    (named : nameFault? (pathFor dir interface) (fileName interface) = none)
    (there : fs.entry? l = some (.file c)) :
    fs.remove (pathFor dir interface) = .ok (fs.erase l) := by
  obtain ⟨d, rfl, leads⟩ := target_pathFor place single
  rw [named] at leads
  rw [remove, leads]
  dsimp only [Option.elim_none]
  rw [there]
  rfl

theorem claim_attempt (process : Nat) :
    Attempt fs dir interface l process (claim dir interface process fs) := by
  have below := ne_nil_of_place place
  have opened := openWrite_pathFor place single
  cases named : nameFault? (pathFor dir interface) (fileName interface) with
  | some why =>
    rw [named] at opened
    have other : why ≠ .refused .alreadyThere := by
      rintro rfl
      exact nameFault?_ne_alreadyThere named
    have refused : claim dir interface process fs =
        (.error (.cannotCreate (pathFor dir interface) why), fs) := by
      unfold claim
      dsimp only
      rw [opened]
      exact if_neg other
    exact refused ▸ .unnamed named
  | none =>
    cases there : fs.entry? l with
    | some e =>
      rw [named, there] at opened
      have refused : claim dir interface process fs =
          (.error (.alreadyExists (pathFor dir interface) interface), fs) := by
        unfold claim
        dsimp only
        rw [opened]
        exact if_pos rfl
      exact refused ▸ .taken there
    | none =>
      rw [named, there] at opened
      have created : Changed fs l _ (fs.put l (.file [])) := .put below (.file [])
      by_cases passing : fs.writeFailures.headD 0 = 0
      · have passing' : (fs.put l (.file [])).writeFailures.headD 0 = 0 := passing
        obtain ⟨gs, written, changed⟩ := Changed.writeContent below (content process) passing'
        have claimed : claim dir interface process fs = (.ok ⟨pathFor dir interface⟩, gs) := by
          unfold claim
          dsimp only
          rw [opened]
          dsimp only
          rw [written]
        exact claimed ▸ .made named there passing (created.trans changed)
      · have failing : (fs.put l (.file [])).writeFailures.headD 0 ≠ 0 := passing
        obtain ⟨e, gs, written, changed⟩ :=
          Changed.writeContent_refused l (content process) failing
        -- the file that was created is the one that is dropped
        rw [created.here] at changed
        have created := created.trans changed
        have place' : place? gs (dir, interface) = some l := by
          rw [place?_congr (created.sameDirectories (by simp [there]))]
          exact place
        have removed := remove_of_there place' single named created.here
        have refused : claim dir interface process fs =
            (.error (.cannotWrite (pathFor dir interface) (.refused e)), gs.erase l) := by
          unfold claim
          dsimp only
          rw [opened]
          dsimp only
          rw [written]
          dsimp only [PidFile.drop]
          rw [removed]
        exact refused ▸ .unwritten there passing (created.trans (.erase below))

theorem claim_of_there {e : FileEntry} (process : Nat)
    (named : nameFault? (pathFor dir interface) (fileName interface) = none)
    (there : fs.entry? l = some e) : claim dir interface process fs =
      (.error (.alreadyExists (pathFor dir interface) interface), fs) := by
  have attempt := claim_attempt place single process
  generalize claim dir interface process fs = result at attempt ⊢
  cases attempt with
  | unnamed fault => cases named.symm.trans fault
  | taken there => rfl
  | unwritten free => cases free.symm.trans there
  | made named free => cases free.symm.trans there

theorem claim_of_free (process : Nat)
    (named : nameFault? (pathFor dir interface) (fileName interface) = none)
    (free : fs.entry? l = none) (passing : fs.writeFailures.headD 0 = 0) :
    (claim dir interface process fs).1 = .ok ⟨pathFor dir interface⟩ := by
  have attempt := claim_attempt place single process
  generalize claim dir interface process fs = result at attempt ⊢
  cases attempt with
  | unnamed fault => cases named.symm.trans fault
  | taken there => cases free.symm.trans there
  | unwritten free failing => exact absurd passing failing
  | made => rfl

/-- A claim that fails leaves everything as it was. -/
theorem entry?_of_refused {process : Nat} {e : PidFileFault} {gs : FileSystem}
    (refused : claim dir interface process fs = (.error e, gs)) (m : Location) :
    gs.entry? m = fs.entry? m := by
  have attempt := claim_attempt place single process
  rw [refused] at attempt
  cases attempt with
  | unnamed fault => rfl
  | taken there => rfl
  | unwritten free failing changed => exact changed.unchanged free m

/-- A claim whose write would fail is refused, and leaves no file behind. -/
theorem refused_of_failing (process : Nat) (failing : fs.writeFailures.headD 0 ≠ 0)
    (unheld : content? fs (dir, interface) = none) :
    ∃ e gs, claim dir interface process fs = (.error e, gs) ∧
      content? gs (dir, interface) = none := by
  have attempt := claim_attempt place single process
  generalize claim dir interface process fs = result at attempt ⊢
  cases attempt with
  | unnamed fault => exact ⟨_, _, rfl, unheld⟩
  | taken there => exact ⟨_, _, rfl, unheld⟩
  | @unwritten e gs free failing changed =>
    have same := changed.sameDirectories (by simp [free])
    refine ⟨_, _, rfl, ?_⟩
    rw [content?_of_place ((place?_congr same _).trans place), changed.here]
    rfl
  | made named free passing => exact absurd passing failing

end

end VirtualRouter.PidFile
