import Quartet.Proofs.Disk.Places

namespace Quartet

/-!
# Files of a disk

A file is opened for writing by making it empty, is then written from its start, and is read to
its end.  What was written last is what is read, unless a longer content was there before.

* `Node.received` — an entry that bytes have been written to.
* `Disk.Opens` — the paths that can be opened for writing, and the places they lead to.
* `Disk.Fills` — a file comes to hold bytes, and nothing else changes.
* `Disk.create_eq_ok_iff`, `Disk.fills_of_create` — opening a file.
* `Disk.fills_of_write`, `Disk.exists_write` — writing to it.
* `Disk.read_eq_ok_iff`, `Disk.read_of_received` — reading, and reading what was written.
* `Disk.FillsBoth`, `Disk.fillsBoth_of_write` — two files that are opened and then written.
-/

namespace Node

/-- The entry at a place after bytes have been written to it.  A device keeps none of them, and a
    directory takes none. -/
def received : Option Node → ByteArray → Node
  | some .full, _ => .full
  | some .null, _ => .null
  | some .directory, _ => .directory
  | some (.file _), bytes | none, bytes => .file bytes

/-- Whether an entry is one of the devices. -/
def isDevice : Node → Bool
  | full | null => true
  | file _ | directory => false

/-- Where there is neither a device nor a directory, there is a file that holds the bytes. -/
theorem received_of_ordinary {node? : Option Node} (hdevice : node?.all (!·.isDevice) = true)
    (hdirectory : node? ≠ some .directory) (bytes : ByteArray) :
    received node? bytes = .file bytes := by
  cases node? with
  | none => rfl
  | some node =>
    cases node with
    | file old => rfl
    | directory => exact absurd rfl hdirectory
    | full => cases hdevice
    | null => cases hdevice

/-- Nothing becomes a directory by being written to. -/
theorem received_ne_directory {node? : Option Node} (h : node? ≠ some .directory)
    (bytes : ByteArray) : received node? bytes ≠ .directory := by
  unfold received
  split <;> simp_all

/-- A file that has been written to holds what was written. -/
theorem received_eq_file {node? : Option Node} {bytes content : ByteArray}
    (h : received node? bytes = .file content) : content = bytes := by
  unfold received at h
  split at h <;> cases h <;> rfl

/-- What is written later takes the place of what was written before. -/
theorem received_received (node? : Option Node) (first second : ByteArray) :
    received (some (received node? first)) second = received node? second := by
  cases node? with
  | none => rfl
  | some node => cases node <;> rfl

end Node

namespace Disk

/-! ### Opening -/

/-- Whether a path can be opened for writing, and the place that it leads to: it does not end in
    a slash, no part of the place has too many bytes, and there is no directory there. -/
structure Opens (disk : Disk) (path : String) (place : Location) : Prop where
  leads : disk.locate path = .ok place
  isFile : endsInSlash path = false
  isShort : isShort place = true
  ne_directory : disk.node? place ≠ some .directory

namespace Opens

variable {disk : Disk} {path : String} {place : Location}

theorem ne_nil (h : disk.Opens path place) : place ≠ [] := by
  rintro rfl
  exact h.ne_directory rfl

/-- What can be opened depends on the directories alone. -/
theorem of_sameDirectories {other : Disk} (h : disk.Opens path place)
    (hsame : disk.SameDirectories other) : other.Opens path place where
  leads := hsame.locate h.leads
  isFile := h.isFile
  isShort := h.isShort
  ne_directory := fun hdirectory => h.ne_directory ((hsame.directory_iff place).mpr hdirectory)

/-- The name of an entry of the working directory can be opened, unless the entry is a directory. -/
theorem of_isEntryName {name : String} (h : isEntryName name = true)
    (hhome : Disk.isShort disk.home = true)
    (hdirectory : disk.node? (name :: disk.home) ≠ some .directory) :
    disk.Opens name (name :: disk.home) where
  leads := locate_of_isEntryName disk h
  isFile := endsInSlash_of_isEntryName h
  isShort := isShort_cons_of_isEntryName h hhome
  ne_directory := hdirectory

end Opens

/-- Whether no device stands at the place that a path leads to. -/
def NoDevice (disk : Disk) (path : String) : Prop :=
  ∀ place, disk.locate path = .ok place → (disk.node? place).all (!·.isDevice) = true

theorem noDevice_of_isEntryName {disk : Disk} {name : String} (h : isEntryName name = true)
    (hdevice : (disk.node? (name :: disk.home)).all (!·.isDevice) = true) :
    disk.NoDevice name := by
  intro place hleads
  rw [locate_of_isEntryName disk h] at hleads
  cases hleads
  exact hdevice

/-- The disk with the file at a place emptied, whether there was one or not.  Devices stay as
    they are. -/
def emptied (disk : Disk) (place : Location) : Disk :=
  match disk.node? place with
  | some .full | some .null => disk
  | some (.file _) | some .directory | none => disk.put place (.file ByteArray.empty)

theorem create_eq_ok_iff (disk after : Disk) (path : String) (place : Location) :
    disk.create path = .ok (after, place) ↔
      disk.Opens path place ∧ after = disk.emptied place := by
  unfold create
  rw [bind_eq_ok_iff]
  constructor
  · rintro ⟨location, hleads, h⟩
    split at h
    · cases h
    rename_i hfile
    obtain ⟨found, hlook, h⟩ := bind_eq_ok_iff.mp h
    obtain ⟨hshort, hfound⟩ := (look_eq_ok_iff _ _ _).mp hlook
    have hopens : found ≠ some .directory → disk.Opens path location := fun hne =>
      ⟨hleads, Bool.eq_false_iff.mpr hfile, hshort, hfound ▸ hne⟩
    unfold emptied
    split at h <;> simp only [Except.ok.injEq, Prod.mk.injEq, reduceCtorEq] at h <;>
      obtain ⟨rfl, rfl⟩ := h <;> exact ⟨hopens nofun, by rw [hfound]⟩
  · rintro ⟨hopens, rfl⟩
    refine ⟨place, hopens.leads, ?_⟩
    rw [if_neg (Bool.eq_false_iff.mp hopens.isFile), bind_eq_ok_iff]
    refine ⟨_, (look_eq_ok_iff _ _ _).mpr ⟨hopens.isShort, rfl⟩, ?_⟩
    have hdirectory := hopens.ne_directory
    unfold emptied
    cases hnode : disk.node? place with
    | none => rfl
    | some node =>
      cases node with
      | directory => exact absurd hnode hdirectory
      | file old => rfl
      | full => rfl
      | null => rfl

theorem opens_of_create {disk after : Disk} {path : String} {place : Location}
    (h : disk.create path = .ok (after, place)) : disk.Opens path place :=
  ((create_eq_ok_iff _ _ _ _).mp h).1

theorem create_of_opens {disk : Disk} {path : String} {place : Location}
    (h : disk.Opens path place) : disk.create path = .ok (disk.emptied place, place) :=
  (create_eq_ok_iff _ _ _ _).mpr ⟨h, rfl⟩

/-- A path that cannot be opened for writing is refused. -/
theorem create_eq_error_iff (disk : Disk) (path : String) :
    (∃ cause, disk.create path = .error cause) ↔ ∀ place, ¬ disk.Opens path place := by
  constructor
  · rintro ⟨cause, h⟩ place hopens
    rw [create_of_opens hopens] at h
    cases h
  · intro h
    cases hcreate : disk.create path with
    | error cause => exact ⟨cause, rfl⟩
    | ok created => exact absurd (opens_of_create hcreate) (h _)

/-- Whether a file can be created at a path, be it there already or not. -/
def Creatable (disk : Disk) (path : String) : Prop := ∃ created, disk.create path = .ok created

theorem puts_emptied (disk : Disk) {place : Location} (hroot : place ≠ [])
    (hdirectory : disk.node? place ≠ some .directory) :
    disk.Puts place (.received (disk.node? place) ByteArray.empty) (disk.emptied place) := by
  unfold emptied
  cases hnode : disk.node? place with
  | none => exact puts_put disk hroot _
  | some node =>
    cases node with
    | file old => exact puts_put disk hroot _
    | directory => exact absurd hnode hdirectory
    | full => exact puts_self hnode
    | null => exact puts_self hnode

/-- Whether a disk comes from another one in that the file at a place, which may be new, comes to
    hold bytes.  A device keeps none of them. -/
def Fills (before : Disk) (place : Location) (bytes : ByteArray) (after : Disk) : Prop :=
  before.Puts place (.received (before.node? place) bytes) after

/-- Opening a file leaves it empty and changes nothing else. -/
theorem fills_of_create {disk after : Disk} {path : String} {place : Location}
    (h : disk.create path = .ok (after, place)) : disk.Fills place ByteArray.empty after := by
  obtain ⟨hopens, rfl⟩ := (create_eq_ok_iff _ _ _ _).mp h
  exact puts_emptied disk hopens.ne_nil hopens.ne_directory

namespace Fills

variable {before after : Disk} {place : Location} {bytes : ByteArray}

theorem node? (h : before.Fills place bytes after) (other : Location) :
    after.node? other
      = if other = place then some (.received (before.node? place) bytes)
        else before.node? other :=
  Puts.node? h other

/-- Filling a file makes and removes no directories. -/
theorem sameDirectories (h : before.Fills place bytes after)
    (hdirectory : before.node? place ≠ some .directory) : before.SameDirectories after :=
  Puts.sameDirectories h hdirectory (Node.received_ne_directory hdirectory bytes)

/-- A file that is filled once more holds what it was filled with last. -/
theorem again {last : Disk} {more : ByteArray} (h : before.Fills place bytes after)
    (h' : after.Fills place more last) : before.Fills place more last := by
  refine ⟨h'.home.trans h.home, fun other => ?_⟩
  rw [h'.node?, h.node?, h.node?, if_pos rfl, Node.received_received]
  split <;> rfl

end Fills

/-! ### Writing -/

/-- Bytes that reach as far as the file does are all that is left in it. -/
theorem append_extract_of_le {bytes old : ByteArray} (h : old.size ≤ bytes.size) :
    bytes ++ old.extract bytes.size old.size = bytes := by
  have hempty : old.extract bytes.size old.size = ByteArray.empty :=
    ByteArray.extract_eq_empty_iff.mpr (by omega)
  rw [hempty, ByteArray.append_empty]

/-- Writing changes nothing but the file written to, which then holds what was written if that
    reaches as far as the file did. -/
theorem fills_of_write {disk after : Disk} {place : Location} {node : Node} {bytes : ByteArray}
    (hroot : place ≠ []) (hnode : disk.node? place = some node)
    (hsize : ∀ old, node = .file old → old.size ≤ bytes.size)
    (h : disk.write place bytes = .ok after) : disk.Fills place bytes after := by
  unfold Fills
  unfold write at h
  rw [hnode] at h ⊢
  cases node with
  | file old =>
    simp only [Except.ok.injEq] at h
    rw [← h, append_extract_of_le (hsize old rfl)]
    exact puts_put disk hroot _
  | directory =>
    simp only [Except.ok.injEq] at h
    exact h ▸ puts_self hnode
  | null =>
    simp only [Except.ok.injEq] at h
    exact h ▸ puts_self hnode
  | full =>
    simp only at h
    split at h
    · simp only [Except.ok.injEq] at h
      exact h ▸ puts_self hnode
    · cases h

/-- A file that is empty can be filled with anything. -/
theorem fills_of_write_empty {disk after : Disk} {place : Location} {node? : Option Node}
    {bytes : ByteArray} (hroot : place ≠ [])
    (hnode : disk.node? place = some (.received node? ByteArray.empty))
    (h : disk.write place bytes = .ok after) : disk.Fills place bytes after := by
  refine fills_of_write hroot hnode (fun old hold => ?_) h
  exact Node.received_eq_file hold ▸ Nat.zero_le _

/-- A file can be written to. -/
theorem exists_write {disk : Disk} {place : Location} {old : ByteArray} (bytes : ByteArray)
    (h : disk.node? place = some (.file old)) : ∃ after, disk.write place bytes = .ok after := by
  unfold write
  rw [h]
  exact ⟨_, rfl⟩

/-- A file that is opened and then written holds what is written. -/
theorem fills_of_create_write {disk opened last : Disk} {path : String} {place : Location}
    {bytes : ByteArray} (hcreate : disk.create path = .ok (opened, place))
    (hwrite : opened.write place bytes = .ok last) : disk.Fills place bytes last := by
  have hopens := opens_of_create hcreate
  have hempty := fills_of_create hcreate
  exact hempty.again (fills_of_write_empty hopens.ne_nil (Puts.node?_self hempty) hwrite)

/-- A file that is opened can be written, unless it is a device. -/
theorem exists_write_of_create {disk opened : Disk} {path : String} {place : Location}
    (hcreate : disk.create path = .ok (opened, place)) (hdevice : disk.NoDevice path)
    (bytes : ByteArray) : ∃ last, opened.write place bytes = .ok last := by
  have hopens := opens_of_create hcreate
  have hnode := Puts.node?_self (fills_of_create hcreate)
  rw [Node.received_of_ordinary (hdevice _ hopens.leads) hopens.ne_directory] at hnode
  exact exists_write bytes hnode

/-! ### Reading -/

/-- What is read is the content of the entry that a path leads to.  A path that ends in a slash
    leads to a directory. -/
theorem read_eq_ok_iff (disk : Disk) (path : String) (bytes : ByteArray) :
    disk.read path = .ok bytes ↔
      ∃ place node, disk.locate path = .ok place ∧ isShort place = true ∧
        disk.node? place = some node ∧ (endsInSlash path && !node.isDirectory) = false ∧
        node.content = .ok bytes := by
  unfold read
  rw [bind_eq_ok_iff]
  constructor
  · rintro ⟨place, hleads, h⟩
    obtain ⟨found, hlook, h⟩ := bind_eq_ok_iff.mp h
    obtain ⟨hshort, rfl⟩ := (look_eq_ok_iff _ _ _).mp hlook
    split at h
    · cases h
    rename_i node hnode
    split at h
    · cases h
    rename_i hslash
    exact ⟨place, node, hleads, hshort, hnode, Bool.eq_false_iff.mpr hslash, h⟩
  · rintro ⟨place, node, hleads, hshort, hnode, hslash, hcontent⟩
    refine ⟨place, hleads, ?_⟩
    rw [(look_eq_ok_iff _ _ _).mpr ⟨hshort, hnode⟩, ok_bind]
    dsimp only
    rw [if_neg (Bool.eq_false_iff.mp hslash), hcontent]

/-- What stands at the place that a path leads to is what is read, if it is a file. -/
theorem read_of_opens {disk : Disk} {path : String} {place : Location} {bytes : ByteArray}
    (hopens : disk.Opens path place) (h : disk.node? place = some (.file bytes)) :
    disk.read path = .ok bytes := by
  refine (read_eq_ok_iff _ _ _).mpr ⟨place, _, hopens.leads, hopens.isShort, h, ?_, rfl⟩
  rw [hopens.isFile]
  rfl

/-- What was written is what is read, unless it was written to a device. -/
theorem read_of_received {before after : Disk} {path : String} {place : Location}
    {bytes : ByteArray} (hopens : before.Opens path place) (hdevice : before.NoDevice path)
    (hsame : before.SameDirectories after)
    (h : after.node? place = some (.received (before.node? place) bytes)) :
    after.read path = .ok bytes := by
  rw [Node.received_of_ordinary (hdevice place hopens.leads) hopens.ne_directory] at h
  exact read_of_opens (hopens.of_sameDirectories hsame) h

/-- A file whose bytes are those of a text is read as this text. -/
theorem readText_of_read {disk : Disk} {path text : String}
    (h : disk.read path = .ok text.toUTF8) : disk.readText path = .ok text := by
  have htext : String.fromUTF8? text.toUTF8 = some text := dif_pos text.isValidUTF8
  unfold readText
  rw [h, ok_bind, htext]

/-! ### One file alone -/

/-- The disk with one file in the root, which is the working directory. -/
def single (name : String) (bytes : ByteArray) : Disk := ⟨[], [([name], .file bytes)]⟩

theorem node?_single (name : String) (bytes : ByteArray) (other : String) :
    (single name bytes).node? [other] = if other = name then some (.file bytes) else none := by
  show [([name], Node.file bytes)].lookup [other] = _
  by_cases heq : other = name
  · simp [heq]
  · simp [heq, List.lookup_cons, beq_eq_false_iff_ne.mpr heq]

section

variable {name other : String} (bytes : ByteArray)

theorem opens_single (h : isEntryName other = true) : (single name bytes).Opens other [other] := by
  refine .of_isEntryName h rfl ?_
  show (single name bytes).node? [other] ≠ _
  rw [node?_single]
  split <;> nofun

theorem noDevice_single (h : isEntryName other = true) : (single name bytes).NoDevice other := by
  apply noDevice_of_isEntryName h
  show ((single name bytes).node? [other]).all _ = true
  rw [node?_single]
  split <;> rfl

theorem read_single (h : isEntryName name = true) : (single name bytes).read name = .ok bytes := by
  apply read_of_opens (opens_single bytes h)
  rw [node?_single, if_pos rfl]

end

/-! ### Two files -/

/-- Whether a disk comes from another one in that two files, which may be one and the same, come to
    hold bytes.  If they are the same, it holds the bytes for the second. -/
structure FillsBoth (before : Disk) (first : Location) (bytes : ByteArray) (second : Location)
    (bytes' : ByteArray) (after : Disk) : Prop where
  home : after.home = before.home
  atSecond : after.node? second = some (.received (before.node? second) bytes')
  atFirst : first ≠ second → after.node? first = some (.received (before.node? first) bytes)
  elsewhere : ∀ place, place ≠ first → place ≠ second → after.node? place = before.node? place

/-- One file is filled and then the other. -/
theorem Fills.both {before middle after : Disk} {first second : Location}
    {bytes bytes' : ByteArray} (h : before.Fills first bytes middle)
    (h' : middle.Fills second bytes' after) : before.FillsBoth first bytes second bytes' after where
  home := h'.home.trans h.home
  atSecond := by
    rw [h'.node?, if_pos rfl, h.node?]
    split
    case isTrue heq => rw [Node.received_received, heq]
    case isFalse => rfl
  atFirst := by
    intro hne
    rw [h'.node?, if_neg hne, h.node?, if_pos rfl]
  elsewhere := by
    intro place hfirst hsecond
    rw [h'.node?, if_neg hsecond, h.node?, if_neg hfirst]

namespace FillsBoth

variable {before middle after : Disk} {first second : Location}
  {bytes bytes' more more' : ByteArray}

/-- Two files that are filled once more hold what they were filled with last. -/
theorem again (h : before.FillsBoth first bytes second bytes' middle)
    (h' : middle.FillsBoth first more second more' after) :
    before.FillsBoth first more second more' after where
  home := h'.home.trans h.home
  atSecond := by rw [h'.atSecond, h.atSecond, Node.received_received]
  atFirst := by
    intro hne
    rw [h'.atFirst hne, h.atFirst hne, Node.received_received]
  elsewhere := by
    intro place hfirst hsecond
    rw [h'.elsewhere place hfirst hsecond, h.elsewhere place hfirst hsecond]

/-- What the first file holds if both have been filled with the same. -/
theorem node?_first (h : before.FillsBoth first bytes second bytes middle) :
    middle.node? first = some (.received (before.node? first) bytes) := by
  by_cases heq : first = second
  · rw [heq, h.atSecond]
  · exact h.atFirst heq

/-- Filling two files makes and removes no directories. -/
theorem sameDirectories (h : before.FillsBoth first bytes second bytes' after)
    (hfirst : before.node? first ≠ some .directory)
    (hsecond : before.node? second ≠ some .directory) : before.SameDirectories after := by
  refine ⟨h.home.symm, fun place => ?_⟩
  by_cases heq : place = second
  · rw [heq, h.atSecond]
    simp [hsecond, Node.received_ne_directory hsecond]
  by_cases heq' : place = first
  · rw [heq', h.atFirst (heq' ▸ heq)]
    simp [hfirst, Node.received_ne_directory hfirst]
  rw [h.elsewhere place heq' heq]

end FillsBoth

section

variable {disk emptied opened written last : Disk} {path path' : String} {first second : Location}
  {bytes bytes' : ByteArray}

/-- Opening two files leaves both empty. -/
theorem fillsBoth_of_create (hfirst : disk.create path = .ok (emptied, first))
    (hsecond : emptied.create path' = .ok (opened, second)) :
    disk.FillsBoth first ByteArray.empty second ByteArray.empty opened :=
  (fills_of_create hfirst).both (fills_of_create hsecond)

/-- A path that can be opened after another one could be opened before. -/
theorem opens_of_create_second (hfirst : disk.create path = .ok (emptied, first))
    (hsecond : emptied.create path' = .ok (opened, second)) : disk.Opens path' second := by
  have hopens := opens_of_create hfirst
  have hopens' := opens_of_create hsecond
  have hsame := (fills_of_create hfirst).sameDirectories hopens.ne_directory
  exact hopens'.of_sameDirectories hsame.symm

/-- Whether a path can be opened does not depend on what has been opened before. -/
theorem exists_create_eq_error_iff (hfirst : disk.create path = .ok (emptied, first)) :
    (∃ cause, emptied.create path' = .error cause) ↔ ∃ cause, disk.create path' = .error cause := by
  have hopens := opens_of_create hfirst
  have hsame := (fills_of_create hfirst).sameDirectories hopens.ne_directory
  rw [create_eq_error_iff, create_eq_error_iff]
  constructor
  · exact fun h place hopens' => h place (hopens'.of_sameDirectories hsame)
  · exact fun h place hopens' => h place (hopens'.of_sameDirectories hsame.symm)

theorem creatable_iff_of_create (hfirst : disk.create path = .ok (emptied, first)) :
    emptied.Creatable path' ↔ disk.Creatable path' := by
  unfold Creatable
  rw [← not_exists_error_iff, exists_create_eq_error_iff hfirst, not_exists_error_iff]

/-- The first file is written while both are empty. -/
theorem fills_of_write_first (hfirst : disk.create path = .ok (emptied, first))
    (hsecond : emptied.create path' = .ok (opened, second))
    (hwrite : opened.write first bytes = .ok written) : opened.Fills first bytes written := by
  have hopens := opens_of_create hfirst
  have hempty := fillsBoth_of_create hfirst hsecond
  exact fills_of_write_empty hopens.ne_nil hempty.node?_first hwrite

/-- Two files are opened and then written in the same order.  What is written to the first must not
    be longer than what is written to the second: the rest would stay if they are the same. -/
theorem fillsBoth_of_write (hfirst : disk.create path = .ok (emptied, first))
    (hsecond : emptied.create path' = .ok (opened, second)) (hle : bytes.size ≤ bytes'.size)
    (hwrite : opened.write first bytes = .ok written)
    (hwrite' : written.write second bytes' = .ok last) :
    disk.FillsBoth first bytes second bytes' last := by
  have hopens' := opens_of_create hsecond
  have hempty := fillsBoth_of_create hfirst hsecond
  have hfill := fills_of_write_first hfirst hsecond hwrite
  -- the second file is still empty, unless it is the first, which has just been written
  have hwritten : ∃ node, written.node? second = some node ∧
      ∀ old, node = .file old → old.size ≤ bytes'.size := by
    rw [hfill.node?, hempty.atSecond]
    split
    case isTrue => exact ⟨_, rfl, fun old hold => Node.received_eq_file hold ▸ hle⟩
    case isFalse => exact ⟨_, rfl, fun old hold => Node.received_eq_file hold ▸ Nat.zero_le _⟩
  obtain ⟨node, hnode, hsize⟩ := hwritten
  have hfill' := fills_of_write hopens'.ne_nil hnode hsize hwrite'
  exact hempty.again (hfill.both hfill')

/-- Both files can be written, unless one of them is a device. -/
theorem exists_write_both (hfirst : disk.create path = .ok (emptied, first))
    (hsecond : emptied.create path' = .ok (opened, second)) (hdevice : disk.NoDevice path)
    (hdevice' : disk.NoDevice path') (bytes bytes' : ByteArray) :
    ∃ written last, opened.write first bytes = .ok written ∧
      written.write second bytes' = .ok last := by
  have hopens := opens_of_create hfirst
  have hopens' := opens_of_create_second hfirst hsecond
  have hempty := fillsBoth_of_create hfirst hsecond
  have hnode := hempty.node?_first
  have hnode' := hempty.atSecond
  rw [Node.received_of_ordinary (hdevice _ hopens.leads) hopens.ne_directory] at hnode
  rw [Node.received_of_ordinary (hdevice' _ hopens'.leads) hopens'.ne_directory] at hnode'
  obtain ⟨written, hwrite⟩ := exists_write bytes hnode
  have hwritten : ∃ content, written.node? second = some (.file content) := by
    rw [(fills_of_write_first hfirst hsecond hwrite).node?, hnode, hnode']
    split
    case isTrue => exact ⟨bytes, rfl⟩
    case isFalse => exact ⟨ByteArray.empty, rfl⟩
  obtain ⟨content, hcontent⟩ := hwritten
  obtain ⟨last, hwrite'⟩ := exists_write bytes' hcontent
  exact ⟨written, last, hwrite, hwrite'⟩

end

end Disk

end Quartet
