import ReplyActions.Command.FileTree
import ReplyActions.Proofs.SortedMap

/-!
# Files that stay where they are

A path is walked through directories alone, so it leads to the same place for as long as these
directories are kept. Writing a file changes one place, which is no directory, and making
directories changes nothing that is there.
-/

namespace ReplyActions.Command.FileTree

variable {tree later last : FileTree} {path text : String} {place : List String}

theorem bind_eq_ok_iff {ε α β : Type} {x : Except ε α} {f : α → Except ε β} {b : β} :
    (x >>= f) = .ok b ↔ ∃ a, x = .ok a ∧ f a = .ok b := by
  cases x with
  | error fault => exact ⟨nofun, nofun⟩
  | ok a =>
    refine ⟨fun h => ⟨a, rfl, h⟩, ?_⟩
    rintro ⟨_, ha, h⟩
    injection ha with ha
    exact ha ▸ h

/-! ### Trees that keep their directories -/

/-- The later tree has the directories of the earlier one. -/
structure Keeps (tree later : FileTree) : Prop where
  working : later.working = tree.working
  directory : ∀ place, tree.entry? place = some .directory → later.entry? place = some .directory

/-- The later tree has all that is in the earlier one. -/
structure Grows (tree later : FileTree) : Prop where
  working : later.working = tree.working
  entry : ∀ place entry, tree.entry? place = some entry → later.entry? place = some entry

theorem Grows.keeps (h : Grows tree later) : Keeps tree later :=
  ⟨h.working, fun place => h.entry place .directory⟩

theorem Grows.refl (tree : FileTree) : Grows tree tree := ⟨rfl, fun _ _ h => h⟩

theorem Grows.trans (h : Grows tree later) (hlast : Grows later last) : Grows tree last :=
  ⟨hlast.working.trans h.working,
    fun place entry he => hlast.entry place entry (h.entry place entry he)⟩

theorem Keeps.trans (h : Keeps tree later) (hlast : Keeps later last) : Keeps tree last :=
  ⟨hlast.working.trans h.working, fun place hd => hlast.directory place (h.directory place hd)⟩

theorem Keeps.enter (h : Keeps tree later) {name : String} {next : List String}
    (he : tree.enter place name = .ok next) : later.enter place name = .ok next := by
  simp only [FileTree.enter] at he ⊢
  split at he
  · contradiction
  · next hd => rwa [h.directory place hd]
  · contradiction

theorem Keeps.walk (h : Keeps tree later) (hw : tree.walk path = .ok place) :
    later.walk path = .ok place := by
  -- every name is looked up in a directory, and that is still there
  have hnames : ∀ (names : List String) {start : List String},
      names.foldlM tree.enter start = .ok place → names.foldlM later.enter start = .ok place := by
    intro names
    induction names with
    | nil => exact fun hw => hw
    | cons name rest ih =>
      intro start hw
      rw [List.foldlM_cons, bind_eq_ok_iff] at hw ⊢
      obtain ⟨next, hn, hrest⟩ := hw
      exact ⟨next, h.enter hn, ih hrest⟩
  have hstart : later.start path = tree.start path := by
    simp only [FileTree.start, h.working]
  rw [FileTree.walk, bind_eq_ok_iff] at hw ⊢
  obtain ⟨start, hs, hrest⟩ := hw
  exact ⟨start, hstart.trans hs, hnames _ hrest⟩

/-! ### What is found -/

/-- With a slash at its end, a path leads to nothing but a directory. -/
theorem find_eq_ok_iff {entry : Entry} : tree.find path = .ok entry ↔
    ∃ place, tree.walk path = .ok place ∧ tree.entry? place = some entry ∧
      (endsInSlash path = true → entry = .directory) := by
  rw [FileTree.find, bind_eq_ok_iff]
  refine exists_congr fun place => and_congr_right fun _ => ?_
  cases hslash : endsInSlash path with
  | false => cases he : tree.entry? place <;> simp [bind, Except.bind, he]
  | true =>
    cases he : tree.entry? place with
    | none => simp [bind, Except.bind, FileTree.enter, he]
    | some found =>
      cases found <;> simp +contextual [bind, Except.bind, FileTree.enter, he, eq_comm]

theorem isDirectory_iff : tree.isDirectory path = true ↔
    ∃ place, tree.walk path = .ok place ∧ tree.entry? place = some .directory := by
  have hfind : tree.isDirectory path = true ↔ tree.find path = .ok .directory := by
    unfold isDirectory
    split
    · next h => exact iff_of_true rfl h
    · next h => exact iff_of_false Bool.false_ne_true h
  rw [hfind, find_eq_ok_iff]
  simp only [implies_true, and_true]

theorem Keeps.isDirectory (h : Keeps tree later) (hd : tree.isDirectory path = true) :
    later.isDirectory path = true := by
  obtain ⟨place, hwalk, hentry⟩ := isDirectory_iff.mp hd
  exact isDirectory_iff.mpr ⟨place, h.walk hwalk, h.directory place hentry⟩

/-! ### Paths of files -/

/-- The path leads to a place where a file can be. -/
structure LeadsTo (tree : FileTree) (path : String) (place : List String) : Prop where
  plain : endsInSlash path = false
  walk : tree.walk path = .ok place

theorem Keeps.leadsTo (h : Keeps tree later) (hp : LeadsTo tree path place) :
    LeadsTo later path place :=
  ⟨hp.plain, h.walk hp.walk⟩

theorem filePlace_eq_ok_iff : tree.filePlace path = .ok place ↔
    LeadsTo tree path place ∧ tree.entry? place ≠ some .directory := by
  simp only [filePlace]
  split
  · next hslash =>
    simp only [bind_eq_ok_iff, reduceCtorEq, and_false, exists_false, false_iff, not_and]
    intro h
    rw [h.plain] at hslash
    contradiction
  · next hslash =>
    rw [bind_eq_ok_iff]
    constructor
    · rintro ⟨reached, hwalk, h⟩
      split at h
      · contradiction
      · next hfile =>
        injection h with h
        subst h
        exact ⟨⟨Bool.eq_false_iff.mpr hslash, hwalk⟩, hfile⟩
    · rintro ⟨hleads, hfile⟩
      exact ⟨place, hleads.walk, if_neg hfile⟩

/-- The text can be read under the path, from a file or from a device that is empty. -/
structure Shows (tree : FileTree) (path : String) (place : List String) (text : String) : Prop
    extends LeadsTo tree path place where
  entry : tree.entry? place = some (.file text) ∨ tree.entry? place = some .void ∧ text = ""

theorem Shows.ne_directory (h : Shows tree path place text) :
    tree.entry? place ≠ some .directory := by
  rcases h.entry with hfile | ⟨hvoid, -⟩
  · simp [hfile]
  · simp [hvoid]

theorem read?_eq_some_iff : tree.read? path = some text ↔ ∃ place, Shows tree path place text := by
  have hfind : tree.read? path = some text ↔
      tree.find path = .ok (.file text) ∨ tree.find path = .ok .void ∧ text = "" := by
    unfold read?
    split
    · next h => simp [h]
    · next h => simp [h, eq_comm]
    · next hfile hvoid =>
      simp only [reduceCtorEq, false_iff, not_or, not_and]
      exact ⟨hfile text, fun h => absurd h hvoid⟩
  rw [hfind, find_eq_ok_iff, find_eq_ok_iff]
  simp only [reduceCtorEq, imp_false, Bool.not_eq_true]
  constructor
  · rintro (⟨place, hwalk, hentry, hplain⟩ | ⟨⟨place, hwalk, hentry, hplain⟩, htext⟩)
    · exact ⟨place, ⟨hplain, hwalk⟩, .inl hentry⟩
    · exact ⟨place, ⟨hplain, hwalk⟩, .inr ⟨hentry, htext⟩⟩
  · rintro ⟨place, hleads, hentry | ⟨hentry, htext⟩⟩
    · exact .inl ⟨place, hleads.walk, hentry, hleads.plain⟩
    · exact .inr ⟨⟨place, hleads.walk, hentry, hleads.plain⟩, htext⟩

theorem exists?_eq_true_iff : tree.exists? path = true ↔ ∃ entry, tree.find path = .ok entry := by
  rw [exists?]
  cases tree.find path with
  | error fault => simp [Except.isOk, Except.toBool]
  | ok entry => simp [Except.isOk, Except.toBool]

/-- What is missing from a tree has not been there before. -/
theorem Grows.exists?_eq_false (h : Grows tree later) (hp : LeadsTo later path place)
    (hnone : later.entry? place = none) : tree.exists? path = false := by
  rw [Bool.eq_false_iff]
  intro hexists
  obtain ⟨entry, hfind⟩ := exists?_eq_true_iff.mp hexists
  obtain ⟨reached, hwalk, hentry, -⟩ := find_eq_ok_iff.mp hfind
  have hsame : reached = place := Except.ok.inj ((h.keeps.walk hwalk).symm.trans hp.walk)
  rw [h.entry place entry (hsame ▸ hentry)] at hnone
  contradiction

theorem Shows.exists? (h : Shows tree path place text) : tree.exists? path = true := by
  rw [exists?_eq_true_iff]
  rcases h.entry with hfile | ⟨hvoid, -⟩
  · exact ⟨_, find_eq_ok_iff.mpr ⟨place, h.walk, hfile, fun hslash => by simp [h.plain] at hslash⟩⟩
  · exact ⟨_, find_eq_ok_iff.mpr ⟨place, h.walk, hvoid, fun hslash => by simp [h.plain] at hslash⟩⟩

theorem Shows.read? (h : Shows tree path place text) : tree.read? path = some text :=
  read?_eq_some_iff.mpr ⟨place, h⟩

theorem Grows.shows (h : Grows tree later) (hshows : Shows tree path place text) :
    Shows later path place text :=
  ⟨h.keeps.leadsTo hshows.toLeadsTo,
    hshows.entry.imp (h.entry place _) fun hvoid => ⟨h.entry place _ hvoid.1, hvoid.2⟩⟩

/-! ### Writing files -/

theorem entry?_put (hplace : place ≠ []) (entry : Entry) (other : List String) :
    FileTree.entry? (tree.put place entry) other =
      if place = other then some entry else tree.entry? other := by
  by_cases hroot : other = []
  · subst hroot
    rw [if_neg hplace]
    rfl
  · simp only [FileTree.entry?, put, if_neg hroot, SortedMap.get?_insert]

theorem ne_nil_of_entry?_ne (h : tree.entry? place ≠ some .directory) : place ≠ [] := by
  rintro rfl
  exact h rfl

theorem keeps_put (h : tree.entry? place ≠ some .directory) (entry : Entry) :
    Keeps tree (tree.put place entry) := by
  refine ⟨rfl, fun other hother => ?_⟩
  rw [entry?_put (ne_nil_of_entry?_ne h), if_neg]
  · exact hother
  · rintro rfl
    exact h hother

/-- A file can be written at the place: there is one already, or nothing. -/
def HasRoom (tree : FileTree) (place : List String) : Prop :=
  tree.entry? place = none ∨ ∃ old, tree.entry? place = some (.file old)

theorem HasRoom.ne_directory (h : HasRoom tree place) : tree.entry? place ≠ some .directory := by
  rcases h with hnone | ⟨old, hold⟩
  · simp [hnone]
  · simp [hold]

/-- The text has been written to the place, and everything else is as it was. -/
structure Writes (tree : FileTree) (path : String) (place : List String) (text : String)
    (later : FileTree) : Prop where
  written : tree.write path text = .ok later
  keeps : Keeps tree later
  leadsTo : LeadsTo later path place
  entry : later.entry? place = some (.file text)
  others : ∀ other, other ≠ place → later.entry? other = tree.entry? other

theorem exists_writes (h : LeadsTo tree path place) (hroom : HasRoom tree place) (text : String) :
    ∃ later, Writes tree path place text later := by
  have hkeeps := keeps_put hroom.ne_directory (.file text)
  have hput : ∀ other, FileTree.entry? (tree.put place (.file text)) other =
      if place = other then some (.file text) else tree.entry? other :=
    entry?_put (ne_nil_of_entry?_ne hroom.ne_directory) (.file text)
  refine ⟨tree.put place (.file text), ?_, hkeeps, hkeeps.leadsTo h, ?_, ?_⟩
  · rw [write, change, bind_eq_ok_iff]
    refine ⟨place, filePlace_eq_ok_iff.mpr ⟨h, hroom.ne_directory⟩, ?_⟩
    rcases hroom with hnone | ⟨old, hold⟩
    · rw [hnone]
    · rw [hold]
  · rw [hput, if_pos rfl]
  · intro other hne
    rw [hput, if_neg hne.symm]

theorem Writes.shows (h : Writes tree path place text later) : Shows later path place text :=
  ⟨h.leadsTo, .inl h.entry⟩

theorem Writes.shows_other {other : String} {elsewhere : List String} {found : String}
    (h : Writes tree path place text later) (hne : elsewhere ≠ place)
    (hshows : Shows tree other elsewhere found) : Shows later other elsewhere found :=
  ⟨h.keeps.leadsTo hshows.toLeadsTo, (h.others elsewhere hne).symm ▸ hshows.entry⟩

/-! ### Making directories -/

theorem grows_put (h : tree.entry? place = none) (entry : Entry) :
    Grows tree (tree.put place entry) := by
  have hne : tree.entry? place ≠ some .directory := by simp [h]
  refine ⟨rfl, fun other found hother => ?_⟩
  rw [entry?_put (ne_nil_of_entry?_ne hne), if_neg]
  · exact hother
  · rintro rfl
    rw [h] at hother
    contradiction

theorem makeDirectory_eq_ok_iff : tree.makeDirectory path = .ok later ↔
    ∃ place, tree.walk path = .ok place ∧ tree.entry? place = none ∧
      later = tree.put place .directory := by
  rw [makeDirectory, bind_eq_ok_iff]
  refine exists_congr fun place => and_congr_right fun _ => ?_
  cases he : tree.entry? place <;> simp [eq_comm]

theorem grows_ensureDirectory (tree : FileTree) (path : String) :
    Grows tree (tree.ensureDirectory path).2 := by
  unfold ensureDirectory
  split
  · next made h =>
    obtain ⟨place, -, hnone, rfl⟩ := makeDirectory_eq_ok_iff.mp h
    exact grows_put hnone .directory
  · exact .refl tree

theorem isDirectory_of_ensureDirectory (h : tree.ensureDirectory path = (.ok (), later)) :
    later.isDirectory path = true := by
  simp only [ensureDirectory] at h
  split at h
  · next made hmade =>
    obtain ⟨place, hwalk, hnone, rfl⟩ := makeDirectory_eq_ok_iff.mp hmade
    have hgrows := grows_put hnone .directory
    obtain rfl := (Prod.mk.inj h).2
    have hne : tree.entry? place ≠ some .directory := by simp [hnone]
    refine isDirectory_iff.mpr ⟨place, hgrows.keeps.walk hwalk, ?_⟩
    rw [entry?_put (ne_nil_of_entry?_ne hne), if_pos rfl]
  · obtain ⟨hok, rfl⟩ := Prod.mk.inj h
    split at hok
    · assumption
    · contradiction

theorem ensureDirectory_of_isDirectory (h : tree.isDirectory path = true) :
    tree.ensureDirectory path = (.ok (), tree) := by
  obtain ⟨place, hwalk, hentry⟩ := isDirectory_iff.mp h
  have htaken : tree.makeDirectory path = .error .taken := by
    simp [makeDirectory, hwalk, hentry, bind, Except.bind]
  simp only [ensureDirectory, htaken, h, if_true]

variable {absolute : Bool} {names : List String}

theorem grows_makeAll (tree : FileTree) (absolute : Bool) (names : List String) :
    Grows tree (tree.makeAll absolute names).2 := by
  induction names generalizing tree with
  | nil => exact .refl tree
  | cons last outer ih =>
    simp only [makeAll]
    have hfirst := grows_ensureDirectory tree (pathText absolute (last :: outer).reverse)
    split
    · next made hmade =>
      rw [hmade] at hfirst
      have houter := ih made
      split
      · next all hall =>
        rw [hall] at houter
        exact (hfirst.trans houter).trans (grows_ensureDirectory all _)
      · exact hfirst.trans houter
    · exact hfirst

theorem isDirectory_of_makeAll (hne : names ≠ [])
    (h : tree.makeAll absolute names = (.ok (), later)) :
    later.isDirectory (pathText absolute names.reverse) = true := by
  cases names with
  | nil => contradiction
  | cons last outer =>
    simp only [makeAll] at h
    split at h
    · split at h
      · exact isDirectory_of_ensureDirectory h
      · next hfailed => exact (hfailed later h).elim
    · exact isDirectory_of_ensureDirectory h

/-- Directories that have been made for a path need not be made again. -/
theorem makeParents_again {made : FileTree} (h : tree.makeParents path = (.ok (), made))
    (hkeeps : Keeps made later) : later.makeParents path = (.ok (), later) := by
  simp only [makeParents] at h ⊢
  cases hnames : (parentNames path).reverse with
  | nil => rfl
  | cons last outer =>
    rw [hnames] at h
    -- as the innermost directory is there, the outer ones are not even tried
    have hd := hkeeps.isDirectory (isDirectory_of_makeAll (List.cons_ne_nil _ _) h)
    simp only [makeAll, ensureDirectory_of_isDirectory hd]

theorem grows_of_makeParents {made : FileTree} (h : tree.makeParents path = (.ok (), made)) :
    Grows tree made := by
  have hgrows : Grows tree (tree.makeParents path).2 := grows_makeAll tree _ _
  rwa [h] at hgrows

end ReplyActions.Command.FileTree
