import VirtualRouter.FileSystem
import Mathlib.Tactic.SplitIfs

/-!
# Names in directories

A path that is joined from a directory and a name in it leads to that name in that directory. It
depends on the directories alone: whatever happens to files, it goes on leading there.
-/

set_option autoImplicit false

namespace VirtualRouter

namespace Text

theorem fields_ne_nil (sep : Char) (cs : List Char) : fields sep cs ≠ [] := by
  cases cs with
  | nil => exact List.cons_ne_nil _ _
  | cons c r =>
    rw [fields]
    split
    · exact List.cons_ne_nil _ _
    · split <;> exact List.cons_ne_nil _ _

/-- A text without separators is one field. -/
theorem fields_of_not_mem {sep : Char} {cs : List Char} (whole : sep ∉ cs) :
    fields sep cs = [cs] := by
  induction cs with
  | nil => rfl
  | cons c r ih =>
    obtain ⟨other, rest⟩ := List.ne_and_not_mem_of_not_mem_cons whole
    rw [fields, if_neg other.symm, ih rest]

theorem fields_append (sep : Char) (cs ds : List Char) :
    fields sep (cs ++ sep :: ds) = fields sep cs ++ fields sep ds := by
  induction cs with
  | nil => simp [fields]
  | cons c r ih =>
    by_cases separates : c = sep
    · rw [List.cons_append, fields, if_pos separates, ih, fields, if_pos separates,
        List.cons_append]
    · rw [List.cons_append, fields, if_neg separates, ih, fields, if_neg separates]
      -- the character joins the first field, which is one of the front
      cases front : fields sep r with
      | nil => exact absurd front (fields_ne_nil sep r)
      | cons f fs => rfl

end Text

namespace FileSystem

theorem lookup_cons_eq (m k : Location) (e : FileEntry) (xs : List (Location × FileEntry)) :
    ((k, e) :: xs).lookup m = if m = k then some e else xs.lookup m := by
  rw [List.lookup_cons]
  by_cases here : m = k
  · simp [here]
  · simp [here, beq_false_of_ne here]

theorem lookup_filter_ne (l m : Location) (xs : List (Location × FileEntry)) :
    (xs.filter fun x => x.1 != l).lookup m = if m = l then none else xs.lookup m := by
  induction xs with
  | nil => simp
  | cons x xs ih =>
    obtain ⟨k, e⟩ := x
    by_cases here : k = l
    · rw [List.filter_cons_of_neg (by simp [here]), ih, lookup_cons_eq, here]
      split <;> rfl
    · rw [List.filter_cons_of_pos (by simp [here]), lookup_cons_eq, ih, lookup_cons_eq]
      grind

section
variable {fs gs : FileSystem} {l : Location}

theorem entry?_put (below : l ≠ []) (e : FileEntry) (m : Location) :
    entry? (fs.put l e) m = if m = l then some e else fs.entry? m := by
  by_cases root : m = []
  · simp [root, entry?, below.symm]
  · by_cases here : m = l
    · simp [put, entry?, here, below]
    · simp [put, entry?, here, root, lookup_cons_eq, lookup_filter_ne]

theorem entry?_erase (below : l ≠ []) (m : Location) :
    entry? (fs.erase l) m = if m = l then none else fs.entry? m := by
  by_cases root : m = []
  · simp [root, entry?, below.symm]
  · simp [erase, entry?, root, lookup_filter_ne]

end

/-! ## Directories -/

def directory? (fs : FileSystem) (path : String) : Option Location :=
  (fs.walk (fs.base path) (parts path)).toOption

theorem walk_append (fs : FileSystem) (l : Location) (ps qs : List String) :
    fs.walk l (ps ++ qs) = fs.walk l ps >>= fun m => fs.walk m qs := by
  induction ps generalizing l with
  | nil => rfl
  | cons p r ih =>
    simp only [List.cons_append, walk]
    split_ifs with here up long
    · exact ih l
    · exact ih l.dropLast
    · rfl
    · cases fs.entry? (l ++ [p]) with
      | none => rfl
      | some e =>
        cases e with
        | file content => rfl
        | directory => exact ih (l ++ [p])

structure SameDirectories (fs gs : FileSystem) : Prop where
  workingDirectory : gs.workingDirectory = fs.workingDirectory
  directory_iff : ∀ l, gs.entry? l = some .directory ↔ fs.entry? l = some .directory

namespace SameDirectories
variable {fs gs hs : FileSystem}

theorem refl (fs : FileSystem) : SameDirectories fs fs := ⟨rfl, fun _ => .rfl⟩

theorem trans (first : SameDirectories fs gs) (second : SameDirectories gs hs) :
    SameDirectories fs hs :=
  ⟨second.workingDirectory.trans first.workingDirectory,
    fun l => (second.directory_iff l).trans (first.directory_iff l)⟩

theorem toOption_walk (same : SameDirectories fs gs) (l : Location) (ps : List String) :
    (gs.walk l ps).toOption = (fs.walk l ps).toOption := by
  induction ps generalizing l with
  | nil => rfl
  | cons p r ih =>
    simp only [walk]
    split_ifs with here up long
    · exact ih l
    · exact ih l.dropLast
    · rfl
    · by_cases onward : fs.entry? (l ++ [p]) = some .directory
      · rw [onward, (same.directory_iff _).mpr onward]
        exact ih (l ++ [p])
      · -- the way ends here in both, if not for the same reason
        have ended := mt (same.directory_iff _).mp onward
        split <;> split <;> simp_all [Except.toOption]

theorem directory?_eq (same : SameDirectories fs gs) (path : String) :
    gs.directory? path = fs.directory? path := by
  rw [directory?, directory?, base, base, same.workingDirectory]
  exact same.toOption_walk _ _

end SameDirectories

/-! ## Names in them -/

def nameFault? (path name : String) : Option PathFault :=
  if path.toList.contains (Char.ofNat 0) then some .nulInPath
  else if pathLimit ≤ path.utf8ByteSize then some (.refused .nameTooLong)
  else if maxName < name.utf8ByteSize then some (.refused .nameTooLong)
  else none

theorem nameFault?_ne_alreadyThere {path name : String} :
    nameFault? path name ≠ some (.refused .alreadyThere) := by
  unfold nameFault?
  split_ifs <;> decide

structure Proper (name : String) : Prop where
  single : '/' ∉ name.toList
  nonempty : name ≠ ""
  here : name ≠ "."
  up : name ≠ ".."

theorem Proper.relative {name : String} (proper : Proper name) :
    name.toList.head? ≠ some '/' :=
  fun absolute => proper.single (List.mem_of_mem_head? absolute)

theorem parts_append {name : String} (proper : Proper name) (front : List Char) :
    (Text.fields '/' (front ++ '/' :: name.toList)).map String.ofList =
      (Text.fields '/' front).map String.ofList ++ [name] := by
  rw [Text.fields_append, Text.fields_of_not_mem proper.single]
  simp

/-- The parts of a joined path are those on the way to the directory, and the name. -/
theorem parts_join {name : String} (proper : Proper name) (dir : String) :
    ∃ front, parts (Path.join dir name) = front ++ [name] ∧
      (parts dir = front ∨ parts dir = front ++ [""]) := by
  unfold Path.join
  split_ifs with absolute inside closed
  · exact absurd absolute proper.relative
  · refine ⟨[], ?_, .inr (by rw [String.isEmpty_iff.mp inside]; rfl)⟩
    rw [parts, Text.fields_of_not_mem proper.single]
    simp
  · obtain ⟨front, split⟩ := List.getLast?_eq_some_iff.mp closed
    refine ⟨(Text.fields '/' front).map String.ofList, ?_, .inr ?_⟩
    · rw [parts, String.toList_append, split, List.append_assoc]
      exact parts_append proper front
    · rw [parts, split, Text.fields_append, List.map_append]
      rfl
  · refine ⟨parts dir, ?_, .inl rfl⟩
    rw [parts, String.toList_append, String.toList_append, List.append_assoc]
    exact parts_append proper dir.toList

theorem base_join (fs : FileSystem) {name : String} (proper : Proper name) (dir : String) :
    fs.base (Path.join dir name) = fs.base dir := by
  have head : (Path.join dir name).toList.head? = some '/' ↔ dir.toList.head? = some '/' := by
    unfold Path.join
    split_ifs with absolute inside closed
    · exact absurd absolute proper.relative
    · rw [String.isEmpty_iff.mp inside]
      exact iff_of_false proper.relative nofun
    all_goals
      have outside : dir.toList ≠ [] :=
        mt String.toList_eq_nil_iff.mp (mt String.isEmpty_iff.mpr inside)
      obtain ⟨c, r, starts⟩ := List.exists_cons_of_ne_nil outside
      simp [String.toList_append, starts]
  simp only [base, head]

theorem walk_of_directory? {fs : FileSystem} {dir : String} {l : Location}
    (leads : fs.directory? dir = some l) : fs.walk (fs.base dir) (parts dir) = .ok l := by
  unfold directory? at leads
  cases walked : fs.walk (fs.base dir) (parts dir) with
  | error e => rw [walked] at leads; cases leads
  | ok m => rw [walked] at leads; exact congrArg Except.ok (Option.some.inj leads)

/-- A joined path leads to the name in the directory, unless it is refused for its text. -/
theorem target_join {fs : FileSystem} {dir name : String} {l : Location}
    (leads : fs.directory? dir = some l) (proper : Proper name) :
    fs.target (Path.join dir name) =
      (nameFault? (Path.join dir name) name).elim (.ok (.name l name false)) .error := by
  obtain ⟨front, joined, way⟩ := parts_join proper dir
  have walked : fs.walk (fs.base (Path.join dir name)) front = .ok l := by
    have led := walk_of_directory? leads
    rw [base_join fs proper]
    rcases way with same | closed
    · rwa [same] at led
    · rw [closed, walk_append] at led
      cases reached : fs.walk (fs.base dir) front with
      | error e => rw [reached] at led; cases led
      | ok m => rw [reached] at led; exact led
  have named : (parts (Path.join dir name)).reverse.dropWhile (· == "") =
      name :: front.reverse := by
    rw [joined, List.reverse_append]
    simp [proper.nonempty]
  have unslashed : ((parts (Path.join dir name)).getLast? == some "") = false := by
    rw [joined]
    simp [proper.nonempty]
  have nonempty : (Path.join dir name).isEmpty = false := by
    refine Bool.eq_false_iff.mpr fun empty => ?_
    have last := congrArg List.getLast? joined
    rw [String.isEmpty_iff.mp empty, List.getLast?_concat] at last
    exact proper.nonempty (Option.some.inj last).symm
  unfold target nameFault?
  simp only [named, unslashed, nonempty, List.reverse_reverse, walked, proper.here, proper.up]
  simp only [Bool.false_eq_true, if_false]
  split_ifs <;> rfl

/-! ## Changes at one location -/

structure Changed (fs : FileSystem) (l : Location) (e : Option FileEntry) (gs : FileSystem) :
    Prop where
  workingDirectory : gs.workingDirectory = fs.workingDirectory
  entry : ∀ m, gs.entry? m = if m = l then e else fs.entry? m

namespace Changed
variable {fs gs hs : FileSystem} {l : Location} {e e' : Option FileEntry}

theorem put (below : l ≠ []) (e : FileEntry) : Changed fs l (some e) (fs.put l e) :=
  ⟨rfl, entry?_put below e⟩

theorem erase (below : l ≠ []) : Changed fs l none (fs.erase l) := ⟨rfl, entry?_erase below⟩

/-- Nothing has changed. -/
theorem none_of_entries (l : Location) (directory : gs.workingDirectory = fs.workingDirectory)
    (entries : gs.entries = fs.entries) : Changed fs l (fs.entry? l) gs := by
  refine ⟨directory, fun m => ?_⟩
  rw [FileSystem.entry?, entries, ← FileSystem.entry?]
  split_ifs with here
  · rw [here]
  · rfl

theorem trans (first : Changed fs l e gs) (second : Changed gs l e' hs) : Changed fs l e' hs := by
  refine ⟨second.workingDirectory.trans first.workingDirectory, fun m => ?_⟩
  rw [second.entry, first.entry]
  split_ifs <;> rfl

theorem here (h : Changed fs l e gs) : gs.entry? l = e := (h.entry l).trans (if_pos rfl)

theorem elsewhere (h : Changed fs l e gs) {m : Location} (other : m ≠ l) :
    gs.entry? m = fs.entry? m :=
  (h.entry m).trans (if_neg other)

/-- A write that goes through leaves the content. -/
theorem writeContent (below : l ≠ []) (c : Octets) (passing : fs.writeFailures.headD 0 = 0) :
    ∃ gs, fs.writeContent l c = (.ok (), gs) ∧ Changed fs l (some (.file c)) gs := by
  refine ⟨FileSystem.put { fs with writeFailures := fs.writeFailures.tail } l (.file c), ?_,
    rfl, entry?_put below (.file c)⟩
  rw [FileSystem.writeContent]
  simp only [passing, if_true]

/-- A write that fails changes nothing. -/
theorem writeContent_refused (l : Location) (c : Octets)
    (failing : fs.writeFailures.headD 0 ≠ 0) :
    ∃ e gs, fs.writeContent l c = (.error e, gs) ∧ Changed fs l (fs.entry? l) gs := by
  refine ⟨⟨fs.writeFailures.headD 0⟩, { fs with writeFailures := fs.writeFailures.tail }, ?_,
    none_of_entries l rfl rfl⟩
  rw [FileSystem.writeContent]
  simp only [failing, if_false]

/-- A change that puts back what was there is none. -/
theorem unchanged (h : Changed fs l e gs) (same : fs.entry? l = e) (m : Location) :
    gs.entry? m = fs.entry? m := by
  by_cases here : m = l
  · rw [here, h.here, same]
  · exact h.elsewhere here

theorem sameDirectories (h : Changed fs l e gs)
    (kind : e = some .directory ↔ fs.entry? l = some .directory) : SameDirectories fs gs := by
  refine ⟨h.workingDirectory, fun m => ?_⟩
  by_cases here : m = l
  · rw [here, h.here]
    exact kind
  · rw [h.elsewhere here]

end Changed

end FileSystem
end VirtualRouter
