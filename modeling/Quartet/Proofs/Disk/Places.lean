import Quartet.Disk
import Quartet.Proofs.Result
import Quartet.Proofs.Text.Words

namespace Quartet

/-!
# Places of a disk

A disk is understood by what stands at each place.  Putting an entry changes one place, and as
long as no directory comes or goes, every path leads where it led before.

* `Disk.Puts`, `Disk.puts_put` — one place gets an entry, and the others keep theirs.
* `Disk.SameDirectories`, `Disk.SameDirectories.locate` — disks on which paths lead to the same
  places.
* `Disk.SameElsewhere` — disks that differ at one place at most.
* `Disk.isEntryName`, `Disk.locate_of_isEntryName` — the names of entries of the working directory.
-/

namespace Disk

/-! ### Entries -/

/-- Whether a disk comes from another one by putting an entry at a place.  The other places keep
    what they have. -/
structure Puts (before : Disk) (place : Location) (node : Node) (after : Disk) : Prop where
  home : after.home = before.home
  node? : ∀ other, after.node? other = if other = place then some node else before.node? other

theorem node?_of_ne_nil (disk : Disk) {place : Location} (h : place ≠ []) :
    disk.node? place = disk.entries.lookup place := by
  cases place with
  | nil => exact absurd rfl h
  | cons name directory => rfl

/-- What is replaced under a key is looked up under this key alone. -/
theorem lookup_map_replace (entries : List (Location × Node)) (place : Location) (node : Node)
    (other : Location) :
    (entries.map fun entry => if entry.1 = place then (place, node) else entry).lookup other
      = if other = place then (entries.lookup place).map fun _ => node
        else entries.lookup other := by
  induction entries with
  | nil => split <;> rfl
  | cons entry rest ih =>
    obtain ⟨first, found⟩ := entry
    rw [List.map_cons]
    by_cases hfirst : first = place
    · subst hfirst
      rw [if_pos rfl, List.lookup_cons, List.lookup_cons, List.lookup_cons, ih]
      by_cases hother : other = first
      · simp [hother]
      · simp [hother, beq_eq_false_iff_ne.mpr hother]
    · rw [if_neg hfirst, List.lookup_cons, List.lookup_cons, List.lookup_cons, ih]
      by_cases hother : other = place
      · subst hother
        simp [beq_eq_false_iff_ne.mpr (Ne.symm hfirst)]
      · simp [hother]

/-- What is put anywhere but at the root is found there, and nothing else changes. -/
theorem puts_put (disk : Disk) {place : Location} (h : place ≠ []) (node : Node) :
    disk.Puts place node (disk.put place node) := by
  refine ⟨?_, fun other => ?_⟩
  · unfold put
    split <;> rfl
  by_cases hroot : other = []
  · rw [hroot, if_neg (Ne.symm h)]
    rfl
  rw [node?_of_ne_nil _ hroot, node?_of_ne_nil _ hroot]
  unfold put
  split
  case isTrue hsome =>
    obtain ⟨old, hold⟩ := Option.isSome_iff_exists.mp hsome
    dsimp only
    rw [lookup_map_replace, hold]
    rfl
  case isFalse hnone =>
    -- the entry is new and stands behind all others, none of which has its place
    rw [List.lookup_append]
    by_cases hother : other = place
    · rw [hother, Option.not_isSome_iff_eq_none.mp hnone]
      simp
    · simp [List.lookup_cons, hother, beq_eq_false_iff_ne.mpr hother]

/-- Nothing changes where an entry is put that stands there already. -/
theorem puts_self {disk : Disk} {place : Location} {node : Node}
    (h : disk.node? place = some node) : disk.Puts place node disk := by
  refine ⟨rfl, fun other => ?_⟩
  split
  case isTrue heq => rw [heq, h]
  case isFalse => rfl

namespace Puts

variable {before after : Disk} {place : Location} {node : Node}

theorem node?_self (h : before.Puts place node after) : after.node? place = some node := by
  rw [h.node?, if_pos rfl]

theorem node?_of_ne (h : before.Puts place node after) {other : Location} (hne : other ≠ place) :
    after.node? other = before.node? other := by
  rw [h.node?, if_neg hne]

end Puts

/-! ### Paths -/

/-- Whether two disks have the same working directory, and directories at the same places. -/
structure SameDirectories (first second : Disk) : Prop where
  home : first.home = second.home
  directory_iff : ∀ place,
    first.node? place = some .directory ↔ second.node? place = some .directory

/-- Whether no part of a place has too many bytes. -/
def isShort (place : Location) : Bool := !place.any (partLimit < ·.utf8ByteSize)

theorem look_eq_ok_iff (disk : Disk) (place : Location) (node? : Option Node) :
    disk.look place = .ok node? ↔ isShort place = true ∧ disk.node? place = node? := by
  unfold look isShort
  split
  case isTrue hlong => simp [hlong]
  case isFalse hshort => simp [hshort]

theorem enter_eq_ok_iff (disk : Disk) (directory place : Location) (part : String) :
    disk.enter directory part = .ok place ↔
      place = next directory part ∧ isShort place = true ∧
        disk.node? place = some .directory := by
  unfold enter
  rw [bind_eq_ok_iff]
  constructor
  · rintro ⟨found, hlook, h⟩
    obtain ⟨hshort, hfound⟩ := (look_eq_ok_iff _ _ _).mp hlook
    split at h <;> simp only [Except.ok.injEq, reduceCtorEq] at h
    subst h
    exact ⟨rfl, hshort, hfound⟩
  · rintro ⟨rfl, hshort, hfound⟩
    exact ⟨_, (look_eq_ok_iff _ _ _).mpr ⟨hshort, hfound⟩, rfl⟩

namespace SameDirectories

variable {first second : Disk}

theorem symm (h : first.SameDirectories second) : second.SameDirectories first :=
  ⟨h.home.symm, fun place => (h.directory_iff place).symm⟩

theorem trans {third : Disk} (h : first.SameDirectories second)
    (h' : second.SameDirectories third) : first.SameDirectories third :=
  ⟨h.home.trans h'.home, fun place => (h.directory_iff place).trans (h'.directory_iff place)⟩

/-- A chain of directories is one on the other disk too. -/
theorem foldlM_enter (h : first.SameDirectories second) {parts : List String}
    {start place : Location} (hfirst : parts.foldlM first.enter start = .ok place) :
    parts.foldlM second.enter start = .ok place := by
  induction parts generalizing start with
  | nil => exact hfirst
  | cons part rest ih =>
    rw [List.foldlM_cons, bind_eq_ok_iff] at hfirst ⊢
    obtain ⟨inner, henter, hrest⟩ := hfirst
    obtain ⟨hnext, hshort, hdirectory⟩ := (enter_eq_ok_iff _ _ _ _).mp henter
    have hdirectory' := (h.directory_iff inner).mp hdirectory
    exact ⟨inner, (enter_eq_ok_iff _ _ _ _).mpr ⟨hnext, hshort, hdirectory'⟩, ih hrest⟩

/-- A path leads to the same place on both disks. -/
theorem locate (h : first.SameDirectories second) {path : String} {place : Location}
    (hfirst : first.locate path = .ok place) : second.locate path = .ok place := by
  unfold Disk.locate at hfirst ⊢
  -- only the directories on the way are looked up on the disk
  split at hfirst
  · cases hfirst
  rename_i hnul
  split at hfirst
  · cases hfirst
  rename_i hempty
  split at hfirst
  · cases hfirst
  rename_i hlong
  rw [if_neg hnul, if_neg hempty, if_neg hlong]
  dsimp only at hfirst ⊢
  rw [← h.home]
  split at hfirst
  · exact hfirst
  · obtain ⟨inner, hinner, hlast⟩ := bind_eq_ok_iff.mp hfirst
    exact bind_eq_ok_iff.mpr ⟨inner, h.foldlM_enter hinner, hlast⟩

end SameDirectories

/-! ### Disks that differ at one place -/

/-- Whether two disks have the same entries at all places but one, and the same working
    directory. -/
structure SameElsewhere (first : Disk) (place : Location) (second : Disk) : Prop where
  home : first.home = second.home
  node? : ∀ other, other ≠ place → first.node? other = second.node? other

/-- What is put at a place changes no other place. -/
theorem Puts.sameElsewhere {before after : Disk} {place : Location} {node : Node}
    (h : before.Puts place node after) : before.SameElsewhere place after :=
  ⟨h.home.symm, fun _ hne => (h.node?_of_ne hne).symm⟩

namespace SameElsewhere

variable {place target : Location} {first second : Disk}

theorem trans {third : Disk} (h : first.SameElsewhere place second)
    (h' : second.SameElsewhere place third) : first.SameElsewhere place third :=
  ⟨h.home.trans h'.home, fun other hne => (h.node? other hne).trans (h'.node? other hne)⟩

/-- The same put on both disks leaves them the same elsewhere. -/
theorem puts {first' second' : Disk} {node : Node} (h : first.SameElsewhere place second)
    (hfirst : first.Puts target node first') (hsecond : second.Puts target node second') :
    first'.SameElsewhere place second' := by
  refine ⟨?_, fun other hne => ?_⟩
  · rw [hfirst.home, hsecond.home, h.home]
  · rw [hfirst.node?, hsecond.node?, h.node? other hne]

/-- Disks that differ where neither has a directory have the same directories. -/
theorem sameDirectories (h : first.SameElsewhere place second)
    (hfirst : first.node? place ≠ some .directory)
    (hsecond : second.node? place ≠ some .directory) : first.SameDirectories second := by
  refine ⟨h.home, fun other => ?_⟩
  by_cases heq : other = place
  · simp [heq, hfirst, hsecond]
  · rw [h.node? other heq]

end SameElsewhere

/-- An entry that is no directory, put where there is none, leaves the directories as they
    are. -/
theorem Puts.sameDirectories {before after : Disk} {place : Location} {node : Node}
    (h : before.Puts place node after) (hbefore : before.node? place ≠ some .directory)
    (hnode : node ≠ .directory) : before.SameDirectories after := by
  refine h.sameElsewhere.sameDirectories hbefore ?_
  rw [h.node?_self]
  exact fun heq => hnode (Option.some.inj heq)

/-! ### Names -/

/-- Whether a path is the name that an entry of the working directory may have. -/
def isEntryName (name : String) : Bool :=
  isName name && name.toList.all (fun c => c ≠ '/' && c ≠ '\x00') && name.utf8ByteSize ≤ partLimit

/-- The name of an entry has no slashes. -/
theorem ne_slash_of_isEntryName {name : String} (h : isEntryName name = true) {c : Char}
    (hmem : c ∈ name.toList) : c ≠ '/' := by
  simp only [isEntryName, Bool.and_eq_true, List.all_eq_true, decide_eq_true_eq] at h
  exact (h.1.2 c hmem).1

theorem endsInSlash_of_isEntryName {name : String} (h : isEntryName name = true) :
    endsInSlash name = false := by
  unfold endsInSlash
  rw [decide_eq_false_iff_not]
  exact fun hlast => ne_slash_of_isEntryName h (List.mem_of_getLast? hlast) rfl

theorem isShort_cons_of_isEntryName {name : String} (h : isEntryName name = true)
    {directory : Location} (hdirectory : isShort directory = true) :
    isShort (name :: directory) = true := by
  simp only [isEntryName, Bool.and_eq_true, decide_eq_true_eq] at h
  have hname : decide (partLimit < name.utf8ByteSize) = false := decide_eq_false (by omega)
  rw [isShort, Bool.not_eq_true'] at hdirectory ⊢
  rw [List.any_cons, hname, hdirectory]
  rfl

/-- The name of an entry leads to this entry of the working directory, whether there is one or
    not. -/
theorem locate_of_isEntryName (disk : Disk) {name : String} (h : isEntryName name = true) :
    disk.locate name = .ok (name :: disk.home) := by
  have hentry := h
  simp only [isEntryName, Bool.and_eq_true, List.all_eq_true, decide_eq_true_eq] at hentry
  obtain ⟨⟨hname, hchars⟩, hshort⟩ := hentry
  have hempty : name ≠ "" := by
    rintro rfl
    cases hname
  have hnul : name.toList.contains '\x00' = false := by
    rw [← Bool.not_eq_true, List.contains_iff_mem]
    exact fun hmem => (hchars _ hmem).2 rfl
  have hslash : ∀ c ∈ name.toList, (c == '/') = false := by
    intro c hmem
    simpa using ne_slash_of_isEntryName h hmem
  have hrelative : isRooted name = false := by
    unfold isRooted
    rw [decide_eq_false_iff_not]
    exact fun hhead => ne_slash_of_isEntryName h (List.mem_of_head? hhead) rfl
  have hparts : parts name = [name] := by
    rw [parts, Text.pieces_eq_splitOnP, List.splitOnP_eq_singleton hslash, List.map_singleton,
      String.ofList_toList]
  have hlimit : ¬ pathLimit < name.utf8ByteSize := by
    unfold partLimit at hshort
    unfold pathLimit
    omega
  unfold locate
  rw [hnul, if_neg Bool.false_ne_true, if_neg hempty, if_neg hlimit, hparts, hrelative]
  simp [hempty, next, hname]
  rfl

end Disk

end Quartet
