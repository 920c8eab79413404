import Mathlib.Data.List.Infix
import BatchLens.Settings.File
import BatchLens.Proofs.Files.Tree
import BatchLens.Proofs.Settings.Json
import BatchLens.Proofs.Text.Utf8

/-!
# The settings file is made once

For a path of plain names, making the settings file never changes or removes what is there
(`ensureAt_plain`). What it can add is decided by the place to which the names lead: the folders on
the way, and the file at their end. Where a file stands on the way nothing is added. A path that
ends in a slash can lead to a folder only: its file cannot be written, but the folders in front of
its last name have been made by then.
-/

namespace BatchLens

open FileTree (ArePlain GrowsAlong)

namespace Path

variable {path : Text}

/-- Whether no name that a path is written with is a single dot or two dots, and none has a null
character, which a system takes in no name. -/
def IsPlain (path : Text) : Prop :=
  ∀ name ∈ Text.split '/' path, name ≠ ['.'] ∧ name ≠ ['.', '.'] ∧ '\x00' ∉ name

instance (path : Text) : Decidable (IsPlain path) :=
  inferInstanceAs (Decidable (∀ name ∈ Text.split '/' path,
    name ≠ ['.'] ∧ name ≠ ['.', '.'] ∧ '\x00' ∉ name))

theorem IsPlain.arePlain (isPlain : IsPlain path) : ArePlain (names path) :=
  fun name isName => (isPlain name (List.mem_of_mem_filter isName)).2.1

theorem IsPlain.endsInDot_eq (isPlain : IsPlain path) : endsInDot path = false := by
  rw [endsInDot, beq_eq_false_iff_ne]
  intro isLast
  exact (isPlain _ (List.mem_of_mem_filter (List.mem_of_mem_getLast? isLast))).1 rfl

theorem split_ne_nil (mark : Char) (text : Text) : Text.split mark text ≠ [] := by
  cases text with
  | nil => simp [Text.split]
  | cons c rest =>
      rw [Text.split]
      split
      next => simp
      next => split <;> simp

/-- The last part of a text is empty only behind a mark. -/
theorem getLast?_of_split {mark : Char} {text : Text}
    (isLast : (Text.split mark text).getLast? = some []) :
    text = [] ∨ text.getLast? = some mark := by
  induction text with
  | nil => exact .inl rfl
  | cons c rest ih =>
      right
      rcases List.exists_cons_of_ne_nil (split_ne_nil mark rest) with ⟨part, parts, cut⟩
      rw [Text.split, cut] at isLast
      rw [cut] at ih
      by_cases isMark : c = mark
      · simp only [isMark, beq_self_eq_true, if_true, List.getLast?_cons_cons] at isLast
        rcases ih isLast with rfl | isEnd
        · simp [isMark]
        · simp [List.getLast?_cons, isEnd]
      · rcases parts with - | ⟨next, more⟩
        · simp [isMark] at isLast
        · simp only [isMark, beq_iff_eq, if_false, List.getLast?_cons_cons] at isLast ih
          rcases ih isLast with rfl | isEnd
          · simp [Text.split] at cut
          · simp [List.getLast?_cons, isEnd]

theorem IsPlain.getLast?_of_endsInFolder (isPlain : IsPlain path)
    (endsInFolder : endsInFolder path = true) : path = [] ∨ path.getLast? = some '/' := by
  apply getLast?_of_split
  rw [Path.endsInFolder] at endsInFolder
  split at endsInFolder
  next last isLast =>
    have notDot := (isPlain last (List.mem_of_mem_getLast? isLast)).1
    rw [isLast]
    simpa [notDot] using endsInFolder
  next => exact absurd endsInFolder (by simp)

theorem endsInFolder_of_names (none : names path = []) : endsInFolder path = true := by
  cases isLast : (Text.split '/' path).getLast? with
  | none => exact absurd (List.getLast?_eq_none_iff.mp isLast) (split_ne_nil '/' path)
  | some last =>
      have isIn := List.mem_of_mem_getLast? isLast
      have notName := List.filter_eq_nil_iff.mp none last isIn
      rw [endsInFolder, isLast]
      simpa [or_iff_not_imp_left] using notName

end Path

namespace FileTree

variable {tree : FileTree} {path : Text} {entries : List (Text × FileTree)} {content : List UInt8}

theorem follow_of_folder (isPlain : Path.IsPlain path) (nonempty : path ≠ [])
    (reached : tree.walk (Path.names path) = .ok (folder entries)) :
    tree.follow path = .ok (folder entries) := by
  rw [follow, if_neg (by simpa using nonempty), find_eq_walk isPlain.arePlain, reached]
  rfl

theorem follow_of_file (isPlain : Path.IsPlain path) (nonempty : path ≠ [])
    (reached : tree.walk (Path.names path) = .ok (file content)) :
    tree.follow path =
      if Path.endsInFolder path then .error .notAFolder else .ok (file content) := by
  rw [follow, if_neg (by simpa using nonempty), find_eq_walk isPlain.arePlain, reached]
  rfl

theorem follow_of_error (isPlain : Path.IsPlain path) (nonempty : path ≠ []) {error : FileError}
    (failed : tree.walk (Path.names path) = .error error) : tree.follow path = .error error := by
  rw [follow, if_neg (by simpa using nonempty), find_eq_walk isPlain.arePlain, failed]
  rfl

theorem has_of_walk (isPlain : Path.IsPlain path) (nonempty : path ≠ [])
    (ends : Path.endsInFolder path = false) {node : FileTree}
    (reached : tree.walk (Path.names path) = .ok node) : tree.has path = true := by
  cases node with
  | file content =>
      rw [FileTree.has, follow_of_file isPlain nonempty reached, ends, if_neg (by simp)]
  | folder entries => rw [FileTree.has, follow_of_folder isPlain nonempty reached]

/-- Writing to a path without names fails. -/
theorem write_of_names_nil (isPlain : Path.IsPlain path) (none : Path.names path = []) :
    ∃ error, tree.write path content = .error error := by
  cases path with
  | nil => exact ⟨.notFound, rfl⟩
  | cons c rest =>
      refine ⟨.isAFolder, ?_⟩
      rw [write, if_neg (by simp), none]
      simp [resolve, resolveFrom, bind, Except.bind, isPlain.endsInDot_eq,
        Path.endsInFolder_of_names none]

section

variable {above : List Text} {name : Text}

theorem ne_nil_of_names (parts : Path.names path = above ++ [name]) : path ≠ [] := by
  rintro rfl
  exact absurd (congrArg List.length parts) (by simp [Path.names, Text.split])

theorem resolve_names (isPlain : Path.IsPlain path) (parts : Path.names path = above ++ [name]) :
    tree.resolve (Path.names path) = tree.walk above >>= inFolder (above ++ [name]) := by
  have arePlain := isPlain.arePlain
  rw [parts] at arePlain ⊢
  exact resolve_concat arePlain

/-- Writing to a path that ends in a slash fails. -/
theorem write_of_endsInFolder (isPlain : Path.IsPlain path)
    (parts : Path.names path = above ++ [name]) (way : tree.walk above = .ok (folder entries))
    (ends : Path.endsInFolder path = true) :
    tree.write path content = .error .isAFolder := by
  have nonempty := ne_nil_of_names parts
  rw [write, if_neg (by simpa using nonempty), resolve_names isPlain parts, way]
  simp [inFolder, bind, Except.bind, isPlain.endsInDot_eq, ends]

/-- A file is written at a free place of a folder. -/
theorem write_of_free (isPlain : Path.IsPlain path) (parts : Path.names path = above ++ [name])
    (way : tree.walk above = .ok (folder entries)) (free : child? entries name = none)
    (ends : Path.endsInFolder path = false) :
    tree.write path content = .ok (put (file content) tree (above ++ [name])) := by
  have nonempty := ne_nil_of_names parts
  have missing : tree.node? (above ++ [name]) = none := by
    rw [node?_eq_walk, walk_concat way, free]
    rfl
  rw [write, if_neg (by simpa using nonempty), resolve_names isPlain parts, way]
  simp [inFolder, bind, Except.bind, isPlain.endsInDot_eq, ends, missing]

/-- Nothing is written below a file. -/
theorem write_of_file (isPlain : Path.IsPlain path) (parts : Path.names path = above ++ [name])
    {inTheWay : List UInt8} (way : tree.walk above = .ok (file inTheWay)) :
    tree.write path content = .error .notAFolder := by
  have nonempty := ne_nil_of_names parts
  rw [write, if_neg (by simpa using nonempty), resolve_names isPlain parts, way]
  rfl

end

/-- Where there is something, all names on the way lead to folders. -/
theorem exists_walk_of_has (isPlain : Path.IsPlain path) (has : tree.has path = true) :
    path ≠ [] ∧ ∃ node, tree.walk (Path.names path) = .ok node := by
  have nonempty : path ≠ [] := by
    rintro rfl
    exact absurd has (by simp [FileTree.has, follow])
  refine ⟨nonempty, ?_⟩
  cases reached : tree.walk (Path.names path) with
  | ok node => exact ⟨node, rfl⟩
  | error error =>
      rw [FileTree.has, follow_of_error isPlain nonempty reached] at has
      exact absurd has (by simp)

end FileTree

namespace Settings

variable {tree : FileTree} {path : Text} {entries : List (Text × FileTree)} {above : List Text}
  {name : Text}

theorem prepareFolder_of_walk (isPlain : Path.IsPlain path) {node : FileTree}
    (reached : tree.walk (Path.names path).dropLast = .ok node) :
    prepareFolder tree path = (.ok (), tree) := by
  have abovePlain : ArePlain (Path.names path).dropLast :=
    fun name isName => isPlain.arePlain name (List.mem_of_mem_dropLast isName)
  simp only [prepareFolder, FileTree.find_eq_walk abovePlain, reached]

/-- Where there is something already, nothing happens. -/
theorem ensureAt_of_has (isPlain : Path.IsPlain path) (has : tree.has path = true) :
    ensureAt tree path = (.ok (), tree) := by
  rcases FileTree.exists_walk_of_has isPlain has with ⟨_, node, reached⟩
  have way : ∃ node, tree.walk (Path.names path).dropLast = .ok node := by
    rcases List.eq_nil_or_concat' (Path.names path) with none | ⟨above, name, parts⟩
    · exact ⟨tree, by rw [none]; exact FileTree.walk_nil⟩
    · rw [parts, FileTree.walk_append] at reached
      rw [parts, List.dropLast_concat]
      cases front : tree.walk above with
      | ok inside => exact ⟨inside, rfl⟩
      | error error => exact absurd reached (by simp [front, bind, Except.bind])
  rcases way with ⟨inside, way⟩
  simp [ensureAt, prepareFolder_of_walk isPlain way, has]

/-- Why there can be no new file at a path: it is empty or ends in a slash, or a file is in the
way. -/
def IsBlocked (tree : FileTree) (path : Text) : Prop :=
  path = [] ∨ path.getLast? = some '/' ∨
    ∃ way content, way <+: Path.names path ∧ way ≠ Path.names path ∧
      tree.node? way = some (.file content)

/-- What making the settings file has to leave, from one tree to another and with its result. -/
structure Ensured (path : Text) (before after : FileTree) (result : Except FileError Unit) :
    Prop where
  /-- Nothing is changed or removed, and what is new stands along the path. -/
  grows : GrowsAlong (Path.names path) before.node? after.node?
  /-- A failure changes nothing, but for the folders in front of the last name if the path ends in a
  slash. -/
  undone : ∀ error, result = .error error → after = before ∨ path.getLast? = some '/' ∧
    GrowsAlong (Path.names path).dropLast before.node? after.node? ∧
    ∃ entries, after.node? (Path.names path).dropLast = some (.folder entries)
  /-- A failure has its reason in what was there before. -/
  reason : ∀ error, result = .error error → IsBlocked before path
  /-- There is something at the path, and doing the same again changes nothing. -/
  done : result = .ok () → after.has path = true ∧ ensureAt after path = (.ok (), after)
  /-- What was not there is now the default settings. -/
  defaults : result = .ok () → before.has path = false → loadFrom after path = .ok {}

theorem Ensured.of_unchanged {error : FileError} (reason : IsBlocked tree path) :
    Ensured path tree tree (.error error) where
  grows := .refl _ _
  undone _ _ := .inl rfl
  reason _ _ := reason
  done isDone := absurd isDone (by simp)
  defaults isDone := absurd isDone (by simp)

/-- Settings are read back from the file that they were written to. -/
theorem loadFrom_of_written {settings : Settings} {text : Text} (isPlain : Path.IsPlain path)
    (nonempty : path ≠ []) (ends : Path.endsInFolder path = false)
    (written : tree.walk (Path.names path) = .ok (.file (Text.toUtf8 text)))
    (reads : parse? text = some settings) :
    tree.has path = true ∧ loadFrom tree path = .ok settings := by
  have isThere := FileTree.follow_of_file isPlain nonempty written
  rw [ends, if_neg (by simp)] at isThere
  have isRead : tree.read path = .ok (Text.toUtf8 text) := by
    rw [FileTree.read, isThere]
    rfl
  constructor
  · rw [FileTree.has, isThere]
  · simp [loadFrom, isRead, Text.ofUtf8?_toUtf8, reads, bind, Except.bind]

/-- Where there is nothing yet, the default settings are written. -/
theorem ensureAt_of_prepared {middle : FileTree}
    (prepared : prepareFolder tree path = (.ok (), middle)) (absent : middle.has path = false) :
    ensureAt tree path = match middle.write path (Text.toUtf8 (pretty {})) with
      | .ok after => (.ok (), after)
      | .error error => (.error error, middle) := by
  cases written : middle.write path (Text.toUtf8 (pretty {})) <;>
    simp [ensureAt, prepared, absent, written]

/-- What happens in the folder that the path leads into, when it was there or has been made. -/
theorem ensured_in_folder {middle : FileTree} (isPlain : Path.IsPlain path)
    (parts : Path.names path = above ++ [name])
    (prepared : prepareFolder tree path = (.ok (), middle))
    (grows : GrowsAlong above tree.node? middle.node?)
    (way : middle.walk above = .ok (.folder entries)) (absent : middle.has path = false)
    (free : Path.endsInFolder path = false → FileTree.child? entries name = none) :
    Ensured path tree (ensureAt tree path).2 (ensureAt tree path).1 := by
  have nonempty := FileTree.ne_nil_of_names parts
  have isFolder : middle.node? above = some (.folder entries) := by
    rw [FileTree.node?_eq_walk, way]
    rfl
  have front : (Path.names path).dropLast = above := by rw [parts, List.dropLast_concat]
  have onTheWay : above <+: Path.names path := parts ▸ List.prefix_append above [name]
  rw [ensureAt_of_prepared prepared absent]
  cases ends : Path.endsInFolder path with
  | true =>
      have isSlash : path.getLast? = some '/' :=
        (isPlain.getLast?_of_endsInFolder ends).resolve_left nonempty
      rw [FileTree.write_of_endsInFolder isPlain parts way ends]
      exact {
        grows := grows.trans isFolder onTheWay (.refl _ _)
        undone := fun _ _ => .inr ⟨isSlash, front.symm ▸ grows, entries, front.symm ▸ isFolder⟩
        reason := fun _ _ => .inr (.inl isSlash)
        done := fun isDone => absurd isDone (by simp)
        defaults := fun isDone => absurd isDone (by simp) }
  | false =>
      have isFree := free ends
      have spelled : parse? (pretty {}) = some {} := parse?_of_spells_toJson (spells_pretty {})
      generalize (pretty {}) = text at spelled ⊢
      rcases FileTree.growsAlong_put way isFree (FileTree.isLeaf_file (Text.toUtf8 text))
        with ⟨growsOn, isThere⟩
      rw [FileTree.write_of_free isPlain parts way isFree ends]
      rw [← parts] at growsOn isThere ⊢
      rcases loadFrom_of_written isPlain nonempty ends isThere spelled with ⟨has, loaded⟩
      exact {
        grows := grows.trans isFolder onTheWay growsOn
        undone := fun _ failed => absurd failed (by simp)
        reason := fun _ failed => absurd failed (by simp)
        done := fun _ => ⟨has, ensureAt_of_has isPlain has⟩
        defaults := fun _ _ => loaded }

/-- What happens when the folder that the path leads into cannot be reached. -/
theorem ensured_of_walk_error (isPlain : Path.IsPlain path)
    (parts : Path.names path = above ++ [name]) {error : FileError}
    (failed : tree.walk above = .error error) :
    Ensured path tree (ensureAt tree path).2 (ensureAt tree path).1 := by
  have abovePlain : ArePlain above := fun other isIn =>
    isPlain.arePlain other (by simp [parts, isIn])
  have made : prepareFolder tree path = tree.makeFolders above.reverse := by
    simp only [prepareFolder, parts, List.dropLast_concat, FileTree.find_eq_walk abovePlain, failed]
  rcases FileTree.walk_error failed with rfl | ⟨rfl, way, content, onTheWay, -, isFile⟩
  · rcases FileTree.makeFolders_of_notFound abovePlain failed
      with ⟨middle, entries, result, grows, reached⟩
    have missing : tree.walk (above ++ [name]) = .error .notFound := by
      rw [FileTree.walk_append, failed]
      rfl
    have isFree := FileTree.free_of_growsAlong missing grows reached
    have absent : middle.has path = false := by
      by_contra has
      rcases FileTree.exists_walk_of_has isPlain (by simpa using has) with ⟨-, node, isThere⟩
      simp [parts, FileTree.walk_concat reached, isFree] at isThere
    exact ensured_in_folder isPlain parts (made.trans result) grows reached absent fun _ => isFree
  · have blocked := made.trans (FileTree.makeFolders_of_notAFolder abovePlain failed)
    have result : ensureAt tree path = (.error .notAFolder, tree) := by
      simp only [ensureAt, blocked]
    rw [result]
    refine .of_unchanged (.inr (.inr ⟨way, content, ?_, ?_, isFile⟩))
    · exact parts ▸ onTheWay.trans (List.prefix_append above [name])
    · rintro rfl
      have shorter := onTheWay.length_le
      rw [parts, List.length_append, List.length_singleton] at shorter
      omega

/-- Making the settings file changes and removes nothing, and what it adds is settled by its result:
after a success the file is there, with the default settings if it was not there before, and after a
failure nothing has changed unless the path ends in a slash. -/
theorem ensureAt_plain (tree : FileTree) (path : Text) (isPlain : Path.IsPlain path) :
    Ensured path tree (ensureAt tree path).2 (ensureAt tree path).1 := by
  cases has : tree.has path with
  | true =>
      rw [ensureAt_of_has isPlain has]
      exact {
        grows := .refl _ _
        undone := fun _ failed => absurd failed (by simp)
        reason := fun _ failed => absurd failed (by simp)
        done := fun _ => ⟨has, ensureAt_of_has isPlain has⟩
        defaults := fun _ absent => absurd has (by simp [absent]) }
  | false =>
      rcases List.eq_nil_or_concat' (Path.names path) with none | ⟨above, name, parts⟩
      · have prepared : prepareFolder tree path = (.ok (), tree) :=
          prepareFolder_of_walk isPlain (by rw [none]; exact FileTree.walk_nil)
        rcases FileTree.write_of_names_nil isPlain none with ⟨error, failed⟩
        rw [ensureAt_of_prepared prepared has, failed]
        have ends := isPlain.getLast?_of_endsInFolder (Path.endsInFolder_of_names none)
        exact .of_unchanged (ends.imp_right .inl)
      · cases way : tree.walk above with
        | error error => exact ensured_of_walk_error isPlain parts way
        | ok node =>
            have prepared : prepareFolder tree path = (.ok (), tree) :=
              prepareFolder_of_walk isPlain (by rw [parts, List.dropLast_concat, way])
            cases node with
            | file content =>
                rw [ensureAt_of_prepared prepared has, FileTree.write_of_file isPlain parts way]
                refine .of_unchanged (.inr (.inr ⟨above, content, ?_, ?_, ?_⟩))
                · exact parts ▸ List.prefix_append above [name]
                · simp [parts]
                · rw [FileTree.node?_eq_walk, way]
                  rfl
            | folder entries =>
                refine ensured_in_folder isPlain parts prepared (.refl _ _) way has fun ends => ?_
                cases isEntry : FileTree.child? entries name with
                | none => rfl
                | some child =>
                    have reached : tree.walk (Path.names path) = .ok child := by
                      rw [parts, FileTree.walk_concat way, isEntry]
                    have isThere := FileTree.has_of_walk isPlain
                      (FileTree.ne_nil_of_names parts) ends reached
                    exact absurd has (by simp [isThere])

/-- In an empty folder the settings file is made together with its folder. -/
theorem ensureAt_plain_in_empty :
    Path.IsPlain "a/b.json".toList ∧
      let made := ensureAt .empty "a/b.json".toList
      made.1 = .ok () ∧ ensureAt made.2 "a/b.json".toList = (.ok (), made.2) ∧
        loadFrom made.2 "a/b.json".toList = .ok {} := by
  have isPlain : Path.IsPlain "a/b.json".toList := by decide
  have ensured := ensureAt_plain .empty "a/b.json".toList isPlain
  have isDone : (ensureAt .empty "a/b.json".toList).1 = .ok () := rfl
  exact ⟨isPlain, isDone, (ensured.done isDone).2, ensured.defaults isDone rfl⟩

/-- A failure can leave a new folder behind. -/
theorem ensureAt_leaves_new_folder :
    ¬ ∀ tree path, Path.IsPlain path → ∀ error, (ensureAt tree path).1 = .error error →
      (ensureAt tree path).2 = tree := by
  intro undone
  have same := undone .empty "new/x/".toList (by decide) .isAFolder rfl
  have isThere : (ensureAt .empty "new/x/".toList).2.has "new".toList = true := rfl
  rw [same] at isThere
  exact absurd isThere (by decide)

end Settings

end BatchLens
