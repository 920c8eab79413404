import Mathlib.Data.List.Basic
import Mathlib.Data.List.Induction
import BatchLens.Files.Tree

/-!
# Trees that grow

Plain names are followed from folder to folder (`walk`), and what a tree does with a path of plain
names is computed from that alone (`resolve_eq`, `find_eq_walk`). A file or folder that is added
where nothing was leaves everything else as it is (`growsAlong_put`), so that the folders that lead
to a place can be made one after the other (`makeFolders_of_notFound`).
-/

namespace BatchLens.FileTree

variable {tree child new : FileTree} {entries : List (Text × FileTree)}
  {names above rest : List Text} {name other : Text} {error : FileError}

/-! ## Following plain names -/

/-- What plain names lead to: every name on the way has to lead to a folder. -/
def walk : FileTree → List Text → Except FileError FileTree
  | tree, [] => .ok tree
  | file _, _ :: _ => .error .notAFolder
  | folder entries, name :: rest =>
      match child? entries name with
      | some child => child.walk rest
      | none => .error .notFound

@[simp]
theorem walk_nil : tree.walk [] = .ok tree := by
  cases tree <;> rfl

theorem walk_folder_cons : (folder entries).walk (name :: rest) =
    match child? entries name with
    | some child => child.walk rest
    | none => .error .notFound := rfl

theorem walk_single : (folder entries).walk [name] =
    match child? entries name with
    | some child => .ok child
    | none => .error .notFound := by
  rw [walk_folder_cons]
  cases child? entries name with
  | none => rfl
  | some child => exact walk_nil

theorem node?_eq_walk (tree : FileTree) (names : List Text) :
    tree.node? names = (tree.walk names).toOption := by
  induction names generalizing tree with
  | nil => cases tree <;> rfl
  | cons name rest ih =>
      cases tree with
      | file content => rfl
      | folder entries =>
          rw [node?, walk_folder_cons]
          cases child? entries name with
          | none => rfl
          | some child => exact ih child

theorem walk_append (tree : FileTree) (front back : List Text) :
    tree.walk (front ++ back) = tree.walk front >>= fun node => node.walk back := by
  induction front generalizing tree with
  | nil => simp [bind, Except.bind]
  | cons name rest ih =>
      cases tree with
      | file content => rfl
      | folder entries =>
          rw [List.cons_append, walk_folder_cons, walk_folder_cons]
          cases child? entries name with
          | none => rfl
          | some child => exact ih child

/-- The failures of following plain names: something on the way is missing, or is a file. -/
theorem walk_error (failed : tree.walk names = .error error) :
    error = .notFound ∨ error = .notAFolder ∧
      ∃ way content, way <+: names ∧ way ≠ names ∧ tree.node? way = some (file content) := by
  induction names generalizing tree with
  | nil => simp at failed
  | cons name rest ih =>
      cases tree with
      | file content =>
          obtain rfl := Except.error.inj failed
          exact .inr ⟨rfl, [], content, List.nil_prefix, by simp, rfl⟩
      | folder entries =>
          rw [walk_folder_cons] at failed
          cases isEntry : child? entries name with
          | none =>
              rw [isEntry] at failed
              exact .inl (Except.error.inj failed).symm
          | some child =>
              rw [isEntry] at failed
              rcases ih failed with missing | ⟨isFile, way, content, onTheWay, notAll, node⟩
              · exact .inl missing
              · refine .inr ⟨isFile, name :: way, content, ?_, ?_, ?_⟩
                · exact List.cons_prefix_cons.mpr ⟨rfl, onTheWay⟩
                · simpa using notAll
                · rw [node?, isEntry]
                  exact node

/-! ## What paths of plain names lead to -/

/-- Whether names lead back to no folder above. -/
def ArePlain (names : List Text) : Prop := ∀ name ∈ names, name ≠ ['.', '.']

/-- The place of an entry, if it would be one of a folder. -/
def inFolder (names : List Text) : FileTree → Except FileError (List Text)
  | folder _ => .ok names
  | file _ => .error .notAFolder

theorem resolveFrom_eq {here : List Text} (arePlain : ArePlain (name :: rest))
    (reached : tree.walk here = .ok child) :
    tree.resolveFrom here (name :: rest) =
      child.walk (name :: rest).dropLast >>= inFolder (here ++ name :: rest) := by
  induction rest generalizing here child name with
  | nil =>
      have notBack : name ≠ ['.', '.'] := arePlain name List.mem_cons_self
      have node : tree.node? here = some child := by rw [node?_eq_walk, reached]; rfl
      rw [resolveFrom, node]
      cases child <;> simp [notBack, resolveFrom, inFolder, bind, Except.bind]
  | cons next more ih =>
      have notBack : name ≠ ['.', '.'] := arePlain name List.mem_cons_self
      have node : tree.node? here = some child := by rw [node?_eq_walk, reached]; rfl
      rw [resolveFrom, node]
      cases child with
      | file content => rfl
      | folder entries =>
          have further : tree.walk (here ++ [name]) = (folder entries).walk [name] := by
            rw [walk_append, reached]
            rfl
          rw [List.dropLast_cons_cons, walk_folder_cons]
          simp only [notBack, if_false]
          rw [walk_folder_cons] at further
          cases isEntry : child? entries name with
          | none =>
              have nothing : tree.node? (here ++ [name]) = none := by
                rw [node?_eq_walk, further, isEntry]
                rfl
              rw [resolveFrom, nothing]
              rfl
          | some grandchild =>
              have reachedNext : tree.walk (here ++ [name]) = .ok grandchild := by
                rw [further, isEntry]
                exact walk_nil
              rw [ih (fun other isIn => arePlain other (List.mem_cons_of_mem _ isIn)) reachedNext,
                List.append_assoc]
              rfl

/-- Names that are not empty lead to a place in the folder to which those in front of the last
lead. -/
theorem resolve_eq (arePlain : ArePlain names) (nonempty : names ≠ []) :
    tree.resolve names = tree.walk names.dropLast >>= inFolder names := by
  rcases List.exists_cons_of_ne_nil nonempty with ⟨name, rest, rfl⟩
  exact resolveFrom_eq arePlain walk_nil

theorem find_eq_walk (arePlain : ArePlain names) : tree.find names = tree.walk names := by
  rcases List.eq_nil_or_concat' names with rfl | ⟨above, name, rfl⟩
  · rw [walk_nil]
    cases tree <;> rfl
  · rw [find, resolve_eq arePlain (by simp), List.dropLast_concat]
    have cut := walk_append tree above [name]
    cases way : tree.walk above with
    | error error =>
        rw [cut, way]
        rfl
    | ok child =>
        rw [way] at cut
        cases child with
        | file content =>
            rw [cut]
            rfl
        | folder entries =>
            have isPlace : (Except.ok (folder entries) >>= inFolder (above ++ [name]) :
                Except FileError (List Text)) = .ok (above ++ [name]) := rfl
            rw [isPlace]
            change (match tree.node? (above ++ [name]) with
              | some found => Except.ok found
              | none => Except.error FileError.notFound) = _
            rw [node?_eq_walk, cut]
            change (match ((folder entries).walk [name]).toOption with
              | some found => Except.ok found
              | none => Except.error FileError.notFound) = (folder entries).walk [name]
            rw [walk_single]
            cases child? entries name <;> rfl

/-! ## What is added -/

/-- Nothing is lost from one state to another, by what stands at every place before and after, and
what is new stands along some names: folders on the way, and anything at their end. -/
structure GrowsAlong (names : List Text) (before after : List Text → Option FileTree) : Prop where
  keepsFile : ∀ place content, before place = some (file content) →
    after place = some (file content)
  keepsFolder : ∀ place entries, before place = some (folder entries) →
    ∃ entries', after place = some (folder entries')
  isNew : ∀ place found, before place = none → after place = some found →
    place <+: names ∧ (place = names ∨ ∃ entries, found = folder entries)

section

variable {before middle after : List Text → Option FileTree}

theorem GrowsAlong.refl (names : List Text) (before : List Text → Option FileTree) :
    GrowsAlong names before before where
  keepsFile _ _ isFile := isFile
  keepsFolder _ entries isFolder := ⟨entries, isFolder⟩
  isNew place found missing isFound := by
    rw [missing] at isFound
    exact absurd isFound (by simp)

/-- What grows as far as a folder, and from there on, grows along all the names. -/
theorem GrowsAlong.trans (first : GrowsAlong above before middle)
    (isFolder : middle above = some (folder entries)) (onTheWay : above <+: names)
    (second : GrowsAlong names middle after) : GrowsAlong names before after where
  keepsFile place content isFile := second.keepsFile _ _ (first.keepsFile _ _ isFile)
  keepsFolder place entries isFolder := by
    rcases first.keepsFolder place entries isFolder with ⟨_, inMiddle⟩
    exact second.keepsFolder _ _ inMiddle
  isNew place found missing isFound := by
    cases inMiddle : middle place with
    | none => exact second.isNew place found inMiddle isFound
    | some old =>
        rcases first.isNew place old missing inMiddle with ⟨nearer, isEnd⟩
        have wasFolder : ∃ entries, middle place = some (folder entries) := by
          rcases isEnd with rfl | ⟨entries, rfl⟩
          · exact ⟨_, isFolder⟩
          · exact ⟨entries, inMiddle⟩
        rcases wasFolder with ⟨entries, wasFolder⟩
        rcases second.keepsFolder place entries wasFolder with ⟨entries', staysFolder⟩
        rw [isFound] at staysFolder
        exact ⟨nearer.trans onTheWay, .inr ⟨entries', Option.some.inj staysFolder⟩⟩

end

@[simp]
theorem node?_nil (tree : FileTree) : tree.node? [] = some tree := by
  cases tree <;> rfl

theorem node?_cons (name : Text) (entries : List (Text × FileTree)) (rest : List Text) :
    (folder entries).node? (name :: rest) = (child? entries name).bind fun child =>
      child.node? rest := by
  rw [node?]
  cases child? entries name <;> rfl

theorem child?_setEntry_self (name : Text) (new : FileTree) (entries : List (Text × FileTree)) :
    child? (setEntry name new entries) name = some new := by
  rw [child?]
  induction entries with
  | nil => simp [setEntry]
  | cons entry others ih =>
      rcases entry with ⟨key, old⟩
      by_cases same : key = name
      · simp [setEntry, same]
      · have different : (name == key) = false := by simpa using Ne.symm same
        simp [setEntry, same, List.lookup_cons, different, ih]

theorem child?_setEntry_of_ne (different : other ≠ name) (new : FileTree)
    (entries : List (Text × FileTree)) :
    child? (setEntry name new entries) other = child? entries other := by
  have isOther : (other == name) = false := by simpa using different
  rw [child?, child?]
  induction entries with
  | nil => simp [setEntry, List.lookup_cons, isOther]
  | cons entry others ih =>
      rcases entry with ⟨key, old⟩
      by_cases same : key = name
      · simp [setEntry, same, List.lookup_cons, isOther]
      · simp [setEntry, same, List.lookup_cons, ih]

/-- A folder grows where one of its entries does, or where there was no such entry. -/
theorem GrowsAlong.setEntry {name : Text} {entries : List (Text × FileTree)}
    (grows : GrowsAlong names (fun rest => (child? entries name).bind fun child => child.node? rest)
      new.node?) :
    GrowsAlong (name :: names) (folder entries).node?
      (folder (setEntry name new entries)).node? where
  keepsFile place content isFile := by
    rcases place with - | ⟨other, rest⟩
    · simp at isFile
    · rw [node?_cons] at isFile ⊢
      by_cases same : other = name
      · rw [same] at isFile
        rw [same, child?_setEntry_self]
        exact grows.keepsFile rest content isFile
      · rwa [child?_setEntry_of_ne same]
  keepsFolder place inside isFolder := by
    rcases place with - | ⟨other, rest⟩
    · exact ⟨_, node?_nil _⟩
    · rw [node?_cons] at isFolder
      rw [node?_cons]
      by_cases same : other = name
      · rw [same] at isFolder
        rw [same, child?_setEntry_self]
        exact grows.keepsFolder rest inside isFolder
      · exact ⟨inside, by rwa [child?_setEntry_of_ne same]⟩
  isNew place found missing isFound := by
    rcases place with - | ⟨other, rest⟩
    · simp at missing
    · rw [node?_cons] at missing isFound
      by_cases same : other = name
      · rw [same] at missing
        rw [same, child?_setEntry_self] at isFound
        rcases grows.isNew rest found missing isFound with ⟨onTheWay, isEnd⟩
        exact ⟨List.cons_prefix_cons.mpr ⟨same, onTheWay⟩, by simpa [same] using isEnd⟩
      · rw [child?_setEntry_of_ne same, missing] at isFound
        exact absurd isFound (by simp)

/-- A file or an empty folder has nothing below it. -/
def IsLeaf (tree : FileTree) : Prop := ∀ place found, tree.node? place = some found → place = []

theorem isLeaf_file (content : List UInt8) : IsLeaf (file content) := by
  intro place found isFound
  cases place with
  | nil => rfl
  | cons name rest => simp [node?] at isFound

theorem isLeaf_empty : IsLeaf (folder []) := by
  intro place found isFound
  cases place with
  | nil => rfl
  | cons name rest => simp [node?, child?] at isFound

theorem IsLeaf.growsAlong (isLeaf : new.IsLeaf) : GrowsAlong [] (fun _ => none) new.node? where
  keepsFile place content isFile := absurd isFile (by simp)
  keepsFolder place entries isFolder := absurd isFolder (by simp)
  isNew place found _ isFound := by
    rw [isLeaf place found isFound]
    exact ⟨List.prefix_rfl, .inl rfl⟩

theorem put_cons (isEntry : child? entries name = some child) (nonempty : rest ≠ []) :
    put new (folder entries) (name :: rest) =
      folder (setEntry name (put new child rest) entries) := by
  rcases List.exists_cons_of_ne_nil nonempty with ⟨next, more, rfl⟩
  rw [put, isEntry]
  simp

/-- What is put at a free place of a folder is found there, and all else is as before. -/
theorem growsAlong_put (way : tree.walk above = .ok (folder entries))
    (free : child? entries name = none) (isLeaf : new.IsLeaf) :
    GrowsAlong (above ++ [name]) tree.node? (put new tree (above ++ [name])).node? ∧
      (put new tree (above ++ [name])).walk (above ++ [name]) = .ok new := by
  induction above generalizing tree with
  | nil =>
      rw [walk_nil] at way
      obtain rfl := Except.ok.inj way
      rw [List.nil_append, put, walk_single, child?_setEntry_self]
      refine ⟨GrowsAlong.setEntry ?_, rfl⟩
      simpa [free] using isLeaf.growsAlong
  | cons first others ih =>
      cases tree with
      | file content => exact absurd way (by simp [walk])
      | folder outer =>
          rw [walk_folder_cons] at way
          cases isEntry : child? outer first with
          | none => simp [isEntry] at way
          | some child =>
              rw [isEntry] at way
              rcases ih way with ⟨grows, reached⟩
              rw [List.cons_append, put_cons isEntry (by simp), walk_folder_cons,
                child?_setEntry_self]
              refine ⟨GrowsAlong.setEntry ?_, reached⟩
              simpa [isEntry] using grows

/-! ## Making folders -/

theorem resolve_concat (arePlain : ArePlain (above ++ [name])) :
    tree.resolve (above ++ [name]) = tree.walk above >>= inFolder (above ++ [name]) := by
  rw [resolve_eq arePlain (by simp), List.dropLast_concat]

theorem walk_concat (way : tree.walk above = .ok (folder entries)) :
    tree.walk (above ++ [name]) =
      match child? entries name with
      | some child => .ok child
      | none => .error .notFound := by
  rw [walk_append, way]
  exact walk_single

theorem makeFolder_of_free (arePlain : ArePlain (above ++ [name]))
    (way : tree.walk above = .ok (folder entries)) (free : child? entries name = none) :
    tree.makeFolder (above ++ [name]) = .ok (put (folder []) tree (above ++ [name])) := by
  have missing : tree.node? (above ++ [name]) = none := by
    rw [node?_eq_walk, walk_concat way, free]
    rfl
  rw [makeFolder, resolve_concat arePlain, way]
  change (match tree.node? (above ++ [name]) with
    | some _ => Except.error FileError.alreadyExists
    | none => .ok (put (folder []) tree (above ++ [name]))) = _
  rw [missing]

theorem makeFolder_of_error (arePlain : ArePlain (above ++ [name]))
    (failed : tree.walk above = .error error) :
    tree.makeFolder (above ++ [name]) = .error error := by
  rw [makeFolder, resolve_concat arePlain, failed]
  rfl

/-- Growing as far as a folder puts nothing into it. -/
theorem free_of_growsAlong {after : FileTree} (missing : tree.walk (above ++ [name]) = .error error)
    (grows : GrowsAlong above tree.node? after.node?)
    (reached : after.walk above = .ok (folder entries)) :
    child? entries name = none := by
  cases isEntry : child? entries name with
  | none => rfl
  | some child =>
      have before : tree.node? (above ++ [name]) = none := by rw [node?_eq_walk, missing]; rfl
      have found : after.node? (above ++ [name]) = some child := by
        rw [node?_eq_walk, walk_concat reached, isEntry]
        rfl
      have further := (grows.isNew _ child before found).1.length_le
      rw [List.length_append, List.length_singleton] at further
      omega

/-- The folders that lead to a place that is missing are made, and nothing else changes. -/
theorem makeFolders_of_notFound (arePlain : ArePlain names)
    (missing : tree.walk names = .error .notFound) :
    ∃ after entries, tree.makeFolders names.reverse = (.ok (), after) ∧
      GrowsAlong names tree.node? after.node? ∧ after.walk names = .ok (folder entries) := by
  induction names using List.reverseRecOn with
  | nil => simp at missing
  | append_singleton above name ih =>
      rw [List.reverse_append, List.reverse_singleton, List.singleton_append, makeFolders,
        List.reverse_cons, List.reverse_reverse]
      have cut := walk_append tree above [name]
      rw [missing] at cut
      cases way : tree.walk above with
      | error error =>
          rw [way] at cut
          obtain rfl := (Except.error.inj cut).symm
          have abovePlain : ArePlain above := fun other isIn => arePlain other (by simp [isIn])
          rcases ih abovePlain way with ⟨middle, inside, made, grows, reached⟩
          have free := free_of_growsAlong missing grows reached
          have isFolder : middle.node? above = some (folder inside) := by
            rw [node?_eq_walk, reached]
            rfl
          rcases growsAlong_put reached free isLeaf_empty with ⟨growsOn, isThere⟩
          refine ⟨_, [], ?_, grows.trans isFolder (List.prefix_append _ _) growsOn, isThere⟩
          rw [makeFolder_of_error arePlain way, made]
          simp only [makeFolder_of_free arePlain reached free, settle]
      | ok node =>
          rw [way] at cut
          cases node with
          | file content => exact absurd cut (by simp [walk, bind, Except.bind])
          | folder inside =>
              have free : child? inside name = none := by
                cases isEntry : child? inside name with
                | none => rfl
                | some child => exact absurd missing (by simp [walk_concat way, isEntry])
              rcases growsAlong_put way free isLeaf_empty with ⟨grows, isThere⟩
              refine ⟨_, [], ?_, grows, isThere⟩
              rw [makeFolder_of_free arePlain way free]
              simp only [settle]

/-- A file on the way to the folder above is in the way of everything below. -/
theorem resolve_of_notAFolder (arePlain : ArePlain (above ++ [name]))
    (blocked : tree.walk (above ++ [name]) = .error .notAFolder) :
    tree.resolve (above ++ [name]) = .error .notAFolder := by
  rw [resolve_concat arePlain]
  cases way : tree.walk above with
  | error error =>
      rw [walk_append, way] at blocked
      obtain rfl := Except.error.inj blocked
      rfl
  | ok node =>
      cases node with
      | file content => rfl
      | folder inside =>
          rw [walk_concat way] at blocked
          cases isEntry : child? inside name <;> simp [isEntry] at blocked

/-- Where a file stands on the way, no folder is made. -/
theorem makeFolders_of_notAFolder (arePlain : ArePlain names)
    (blocked : tree.walk names = .error .notAFolder) :
    tree.makeFolders names.reverse = (.error .notAFolder, tree) := by
  rcases List.eq_nil_or_concat' names with rfl | ⟨above, name, rfl⟩
  · simp at blocked
  · have noFolder : tree.hasFolder (above ++ [name]) = false := by
      rw [hasFolder, find_eq_walk arePlain, blocked]
    have failed : tree.makeFolder (above ++ [name]) = .error .notAFolder := by
      rw [makeFolder, resolve_of_notAFolder arePlain blocked]
      rfl
    rw [List.reverse_append, List.reverse_singleton, List.singleton_append, makeFolders,
      List.reverse_cons, List.reverse_reverse, failed]
    simp [settle, noFolder]

end BatchLens.FileTree
