import Mathlib.Data.List.Induction
import Mathlib.Data.List.Nodup
import BatchLens.Environment.Fixed
import BatchLens.Proofs.Checked.Text
import BatchLens.Proofs.Unicode.Letters

/-!
# Fixed environments by their history

What a fixed environment holds depends only on the insertions by which it was made. A lookup finds
the last one of the name, up to the case of ASCII letters (`find?_ofList`), and the list has one
variable of each name, in the order in which the names were first inserted (`inOrder_ofList`).

Such an environment can be kept as a list with an index beside it, which tells the place of a
variable by its name in capital letters. A name that is inserted again changes its spelling and
keeps its place, so that the index need not be touched, and it never tells a place that the list
does not have (`Represents.insert`).
-/

namespace BatchLens

namespace Text

theorem sameIgnoringAsciiCase_iff {left right : Text} :
    sameIgnoringAsciiCase left right = true ↔ asciiUpper left = asciiUpper right := by
  have lowerOfUpper (text : Text) : asciiLower (asciiUpper text) = asciiLower text := by
    simp only [asciiLower, asciiUpper, List.map_map, Function.comp_def, Unicode.toLower_toUpper]
  have upperOfLower (text : Text) : asciiUpper (asciiLower text) = asciiUpper text := by
    simp only [asciiLower, asciiUpper, List.map_map, Function.comp_def, Unicode.toUpper_toLower]
  rw [sameIgnoringAsciiCase, beq_iff_eq]
  constructor
  · intro same
    rw [← upperOfLower left, same, upperOfLower]
  · intro same
    rw [← lowerOfUpper left, same, lowerOfUpper]

end Text

namespace FixedEnvironment

variable {environment : FixedEnvironment} {entries : List (Text × Text)} {entry : Text × Text}
  {name other value : Text}

/-! ## Histories -/

/-- What is done to an environment: a variable is set, or the environment is made anew of given
variables. -/
inductive Step where
  | insert (name value : Text)
  | ofList (entries : List (Text × Text))

/-- The environment after a step. -/
def afterStep (environment : FixedEnvironment) : Step → FixedEnvironment
  | .insert name value => environment.insert name value
  | .ofList entries => ofList entries

/-- The insertions by which an environment was made, after a step. -/
def insertionsAfter (earlier : List (Text × Text)) : Step → List (Text × Text)
  | .insert name value => earlier ++ [(name, value)]
  | .ofList entries => entries

/-- Whether an insertion is the last one of a name. -/
def IsLastNamed (entries : List (Text × Text)) (name : Text) (entry : Text × Text) : Prop :=
  ∃ earlier later, entries = earlier ++ entry :: later ∧
    Text.sameIgnoringAsciiCase entry.1 name = true ∧
    ∀ other ∈ later, Text.sameIgnoringAsciiCase other.1 name = false

/-- The number of the first insertion of a name. -/
def firstInsertion (entries : List (Text × Text)) (name : Text) : Nat :=
  entries.findIdx fun entry => Text.sameIgnoringAsciiCase entry.1 name

/-- Whether an environment holds what insertions have left of its variables: those of each name, up
to the case of ASCII letters, make one variable with the spelling and the value of the last one, in
the place of the first one. -/
structure Records (environment : FixedEnvironment) (entries : List (Text × Text)) : Prop where
  value?_eq_some_iff : ∀ name value, environment.value? name = some value ↔
    ∃ spelling, IsLastNamed entries name (spelling, value)
  value?_eq_none_iff : ∀ name, environment.value? name = none ↔
    ∀ entry ∈ entries, Text.sameIgnoringAsciiCase entry.1 name = false
  mem_bindings_iff : ∀ entry, entry ∈ environment.bindings ↔ IsLastNamed entries entry.1 entry
  lists : ∀ entry ∈ entries,
    ∃ binding ∈ environment.bindings, Text.sameIgnoringAsciiCase binding.1 entry.1 = true
  once : environment.bindings.Pairwise fun left right =>
    Text.sameIgnoringAsciiCase left.1 right.1 = false
  inOrder : environment.bindings.Pairwise fun left right =>
    firstInsertion entries left.1 < firstInsertion entries right.1
  value?_of_mem : ∀ binding ∈ environment.bindings, ∀ name,
    Text.sameIgnoringAsciiCase binding.1 name = true → environment.value? name = some binding.2

theorem isNamed_eq (name : Text) (entry : Text × Text) :
    isNamed name entry = Text.sameIgnoringAsciiCase entry.1 name := by
  rw [Bool.eq_iff_iff, Text.sameIgnoringAsciiCase_iff, isNamed, beq_iff_eq]

theorem value?_eq (environment : FixedEnvironment) (name : Text) :
    environment.value? name = (environment.bindings.find? (isNamed name)).map (·.2) := by
  rw [List.find?_eq_bind_findIdx?_getElem?, value?, index?, Option.map_eq_bind, Option.bind_assoc]
  rfl

/-- The last insertion of a name is the first one from the end. -/
theorem find?_reverse_iff :
    entries.reverse.find? (isNamed name) = some entry ↔ IsLastNamed entries name entry := by
  simp only [List.find?_eq_some_iff_append, isNamed_eq, IsLastNamed, Bool.not_eq_true']
  constructor
  · rintro ⟨isNamed, later, earlier, split, others⟩
    refine ⟨earlier.reverse, later.reverse, ?_, isNamed, ?_⟩
    · rw [← List.reverse_reverse entries, split]
      simp
    · simpa using others
  · rintro ⟨earlier, later, rfl, isNamed, others⟩
    refine ⟨isNamed, later.reverse, earlier.reverse, ?_, ?_⟩
    · simp
    · simpa using others

/-! ## One insertion -/

/-- The name of a variable in capital letters, by which it is told from the others. -/
def key (entry : Text × Text) : Text := Text.asciiUpper entry.1

theorem isNamed_iff_key : isNamed name entry = true ↔ key entry = Text.asciiUpper name := by
  rw [isNamed, beq_iff_eq, key]

/-- A variable that is replaced keeps its name, but for the case of letters. -/
theorem isNamed_replaced (name value other : Text) :
    (isNamed other ∘ fun entry => if isNamed name entry then (name, value) else entry) =
      isNamed other := by
  funext entry
  rw [Function.comp_apply]
  split
  next isSame =>
    rw [isNamed, beq_iff_eq] at isSame
    simp only [isNamed, isSame]
  next => rfl

theorem find?_insert (environment : FixedEnvironment) (name value other : Text) :
    (environment.insert name value).bindings.find? (isNamed other) =
      if isNamed other (name, value) then some (name, value)
      else environment.bindings.find? (isNamed other) := by
  have same {entry : Text × Text} (isOther : isNamed other (name, value) = true) :
      isNamed name entry = isNamed other entry := by
    rw [isNamed, beq_iff_eq] at isOther
    simp only [isNamed, isOther]
  rw [insert]
  split
  next isThere =>
    rw [List.find?_map, isNamed_replaced]
    split
    next isOther =>
      rcases List.any_eq_true.mp isThere with ⟨entry, isEntry, isNamed⟩
      rw [same isOther] at isNamed
      cases found : environment.bindings.find? (FixedEnvironment.isNamed other) with
      | none => exact absurd isNamed (List.find?_eq_none.mp found entry isEntry)
      | some first => simp [same isOther, List.find?_some found]
    next notOther =>
      cases found : environment.bindings.find? (FixedEnvironment.isNamed other) with
      | none => rfl
      | some first =>
          have isOther := List.find?_some found
          have notNamed : isNamed name first = false := by
            rw [Bool.eq_false_iff]
            intro isNamed
            rw [isNamed_iff_key] at isNamed isOther notOther
            exact notOther (isNamed.symm.trans isOther)
          simp [notNamed]
  next isNew =>
    rw [List.find?_append]
    split
    next isOther =>
      have notFound : environment.bindings.find? (FixedEnvironment.isNamed other) = none := by
        rw [List.find?_eq_none]
        intro entry isEntry isNamed
        rw [← same isOther] at isNamed
        exact isNew (List.any_eq_true.mpr ⟨entry, isEntry, isNamed⟩)
      simp [notFound, isOther]
    next notOther => simp [notOther]

/-- A name that is inserted again keeps its place, and a new one comes last. -/
theorem map_key_insert (environment : FixedEnvironment) (name value : Text) :
    (environment.insert name value).bindings.map key =
      if Text.asciiUpper name ∈ environment.bindings.map key then environment.bindings.map key
      else environment.bindings.map key ++ [Text.asciiUpper name] := by
  have isThere_iff : environment.bindings.any (isNamed name) = true ↔
      Text.asciiUpper name ∈ environment.bindings.map key := by
    simp only [List.any_eq_true, isNamed_iff_key, List.mem_map]
  simp only [insert, isThere_iff]
  split
  next =>
    rw [List.map_map]
    apply List.map_congr_left
    intro entry _
    rw [Function.comp_apply]
    split
    next isSame => exact (isNamed_iff_key.mp isSame).symm
    next => rfl
  next => simp [key]

/-! ## All insertions -/

theorem ofList_concat (entries : List (Text × Text)) (name value : Text) :
    ofList (entries ++ [(name, value)]) = (ofList entries).insert name value := by
  rw [ofList, List.foldl_append]
  rfl

/-- What a name stands for is what was inserted for it last. -/
theorem find?_ofList (entries : List (Text × Text)) (name : Text) :
    (ofList entries).bindings.find? (isNamed name) = entries.reverse.find? (isNamed name) := by
  induction entries using List.reverseRecOn with
  | nil => rfl
  | append_singleton entries entry ih =>
      rw [ofList_concat, find?_insert, List.reverse_append, List.reverse_singleton,
        List.singleton_append, List.find?_cons, ih]
      cases isNamed name entry <;> rfl

theorem mem_map_key_ofList (entries : List (Text × Text)) (name : Text) :
    name ∈ (ofList entries).bindings.map key ↔ name ∈ entries.map key := by
  induction entries using List.reverseRecOn with
  | nil => rfl
  | append_singleton entries entry ih =>
      rw [ofList_concat, map_key_insert, List.map_append, List.mem_append, ← ih]
      split
      next isThere =>
        simp only [List.map_cons, List.map_nil, List.mem_singleton]
        refine ⟨.inl, ?_⟩
        rintro (isIn | rfl)
        · exact isIn
        · exact isThere
      next => simp [key]

/-- The variables come in the order in which their names were first inserted. -/
theorem inOrder_ofList (entries : List (Text × Text)) :
    ((ofList entries).bindings.map key).Pairwise fun left right =>
      (entries.map key).idxOf left < (entries.map key).idxOf right := by
  induction entries using List.reverseRecOn with
  | nil => exact .nil
  | append_singleton entries entry ih =>
      have kept {name : Text} (isIn : name ∈ (ofList entries).bindings.map key) :
          ((entries ++ [entry]).map key).idxOf name = (entries.map key).idxOf name := by
        rw [List.map_append, List.idxOf_append_of_mem]
        exact (mem_map_key_ofList entries name).mp isIn
      have sameOrder : ((ofList entries).bindings.map key).Pairwise fun left right =>
          ((entries ++ [entry]).map key).idxOf left <
            ((entries ++ [entry]).map key).idxOf right := by
        apply ih.imp_of_mem
        intro left right isLeft isRight ordered
        rwa [kept isLeft, kept isRight]
      rw [ofList_concat, map_key_insert]
      split
      next => exact sameOrder
      next isNew =>
        rw [List.pairwise_append]
        refine ⟨sameOrder, List.pairwise_singleton _ _, ?_⟩
        intro left isLeft right isRight
        obtain rfl := List.mem_singleton.mp isRight
        have notEarlier : Text.asciiUpper entry.1 ∉ entries.map key :=
          mt (mem_map_key_ofList entries _).mpr isNew
        rw [kept isLeft, List.map_append, List.idxOf_append_of_notMem notEarlier]
        have isEarlier := (mem_map_key_ofList entries left).mp isLeft
        exact Nat.lt_add_right _ (List.idxOf_lt_length_iff.mpr isEarlier)

theorem nodup_ofList (entries : List (Text × Text)) :
    ((ofList entries).bindings.map key).Nodup := by
  apply (inOrder_ofList entries).imp
  rintro left right ordered rfl
  exact Nat.lt_irrefl _ ordered

/-- Each variable is the one that is found by its name. -/
theorem mem_bindings_ofList_iff :
    entry ∈ (ofList entries).bindings ↔
      (ofList entries).bindings.find? (isNamed entry.1) = some entry := by
  constructor
  · intro isEntry
    rcases List.append_of_mem isEntry with ⟨earlier, later, split⟩
    rw [List.find?_eq_some_iff_append]
    refine ⟨isNamed_iff_key.mpr rfl, earlier, later, split, ?_⟩
    have once := nodup_ofList entries
    rw [split, List.map_append, List.nodup_append] at once
    intro other isEarlier
    rw [Bool.not_eq_true', Bool.eq_false_iff]
    intro isSame
    have isHere : key entry ∈ (entry :: later).map key := List.mem_map_of_mem List.mem_cons_self
    exact once.2.2 _ (List.mem_map_of_mem isEarlier) _ isHere (isNamed_iff_key.mp isSame)
  · exact List.mem_of_find?_eq_some

theorem firstInsertion_eq (entries : List (Text × Text)) (name : Text) :
    firstInsertion entries name = (entries.map key).idxOf (Text.asciiUpper name) := by
  have sameTest : (fun entry : Text × Text => Text.sameIgnoringAsciiCase entry.1 name) =
      (· == Text.asciiUpper name) ∘ key := by
    funext entry
    rw [← isNamed_eq]
    rfl
  rw [firstInsertion, List.idxOf, List.findIdx_map, sameTest]

theorem records_ofList (entries : List (Text × Text)) : (ofList entries).Records entries := by
  constructor
  · intro name value
    simp only [value?_eq, find?_ofList, Option.map_eq_some_iff, find?_reverse_iff, Prod.exists,
      exists_eq_right]
  · intro name
    rw [value?_eq, find?_ofList, Option.map_eq_none_iff, List.find?_eq_none]
    simp only [List.mem_reverse, isNamed_eq, Bool.not_eq_true]
  · intro entry
    rw [mem_bindings_ofList_iff, find?_ofList, find?_reverse_iff]
  · intro entry isEntry
    have isKey := (mem_map_key_ofList entries _).mpr (List.mem_map_of_mem isEntry)
    rcases List.mem_map.mp isKey with ⟨binding, isBinding, same⟩
    exact ⟨binding, isBinding, Text.sameIgnoringAsciiCase_iff.mpr same⟩
  · have once := nodup_ofList entries
    rw [List.Nodup, List.pairwise_map] at once
    apply once.imp
    intro left right different
    rw [Bool.eq_false_iff]
    exact mt Text.sameIgnoringAsciiCase_iff.mp different
  · have inOrder := inOrder_ofList entries
    rw [List.pairwise_map] at inOrder
    apply inOrder.imp
    intro left right ordered
    rw [firstInsertion_eq, firstInsertion_eq]
    exact ordered
  · intro binding isBinding name same
    have sameTest : isNamed name = isNamed binding.1 := by
      funext other
      simp only [isNamed, Text.sameIgnoringAsciiCase_iff.mp same]
    rw [value?_eq, sameTest, mem_bindings_ofList_iff.mp isBinding, Option.map_some]

/-- Whatever is done, an environment is the one that is made of its insertions. -/
theorem foldl_afterStep (steps : List Step) (entries : List (Text × Text)) :
    steps.foldl afterStep (ofList entries) = ofList (steps.foldl insertionsAfter entries) := by
  induction steps generalizing entries with
  | nil => rfl
  | cons step steps ih =>
      rw [List.foldl_cons, List.foldl_cons, ← ih]
      cases step with
      | insert name value => rw [afterStep, insertionsAfter, ofList_concat]
      | ofList others => rfl

end FixedEnvironment

/-! ## An index beside the list -/

/-- A name is hashed as the string that it spells. -/
local instance : Hashable Text := ⟨fun name => hash (String.ofList name)⟩

/-- A fixed environment that is kept as a list of its variables and the place of each, by its name
in capital letters. -/
structure IndexedEnvironment where
  bindings : List (Text × Text)
  index : Std.HashMap Text Nat

namespace IndexedEnvironment

/-- The environment without any variable. -/
def empty : IndexedEnvironment := ⟨[], ∅⟩

/-- Sets a variable, in its place if it has one and behind all others if not. -/
def insert (environment : IndexedEnvironment) (name value : Text) : Checked IndexedEnvironment :=
  let key := Text.asciiUpper name
  match environment.index[key]? with
  | some place =>
      if place < environment.bindings.length then
        .ok ⟨environment.bindings.set place (name, value), environment.index⟩
      else .error .outOfRange
  | none =>
      .ok ⟨environment.bindings ++ [(name, value)],
        environment.index.insert key environment.bindings.length⟩

/-- The environment in which the given variables were set one after the other. -/
def ofList (entries : List (Text × Text)) : Checked IndexedEnvironment :=
  entries.foldlM (fun environment entry => environment.insert entry.1 entry.2) empty

/-- The environment after a step. -/
def afterStep (environment : IndexedEnvironment) :
    FixedEnvironment.Step → Checked IndexedEnvironment
  | .insert name value => environment.insert name value
  | .ofList entries => ofList entries

/-- The value of a variable. -/
def value? (environment : IndexedEnvironment) (name : Text) : Option Text := do
  let place ← environment.index[Text.asciiUpper name]?
  let entry ← environment.bindings[place]?
  some entry.2

/-- Whether the list is that of an environment, and the index tells the places of its variables. -/
structure Represents (indexed : IndexedEnvironment) (environment : FixedEnvironment) : Prop where
  bindings_eq : indexed.bindings = environment.bindings
  index_eq : ∀ name, indexed.index[name]? =
    (environment.bindings.map FixedEnvironment.key).findIdx? (· == name)

variable {indexed : IndexedEnvironment} {environment : FixedEnvironment}

theorem represents_empty : Represents empty (FixedEnvironment.ofList []) :=
  ⟨rfl, fun _ => by simp [empty, FixedEnvironment.ofList, FixedEnvironment.empty]⟩

theorem Represents.index?_eq (represents : indexed.Represents environment) (name : Text) :
    indexed.index[Text.asciiUpper name]? = environment.index? name := by
  rw [represents.index_eq, List.findIdx?_map]
  rfl

theorem Represents.value?_eq (represents : indexed.Represents environment) (name : Text) :
    indexed.value? name = environment.value? name := by
  rw [value?, represents.index?_eq, represents.bindings_eq]
  rfl

section Once

variable (once : (environment.bindings.map FixedEnvironment.key).Nodup)

include once

/-- The index tells a place exactly for the names in capital letters of the variables. -/
theorem Represents.index_iff (represents : indexed.Represents environment) (name : Text)
    (place : Nat) :
    indexed.index[name]? = some place ↔
      ∃ entry, indexed.bindings[place]? = some entry ∧ Text.asciiUpper entry.1 = name := by
  rw [represents.index_eq, represents.bindings_eq, List.findIdx?_eq_some_iff_getElem]
  constructor
  · rintro ⟨isPlace, isName, _⟩
    have inList : place < environment.bindings.length := by simpa using isPlace
    refine ⟨environment.bindings[place], List.getElem?_eq_getElem inList, ?_⟩
    simpa [FixedEnvironment.key] using isName
  · rintro ⟨entry, found, rfl⟩
    rcases List.getElem?_eq_some_iff.mp found with ⟨inList, rfl⟩
    refine ⟨by simpa using inList, by simp [FixedEnvironment.key], ?_⟩
    intro earlier isEarlier same
    have isKeyPlace : place < (environment.bindings.map FixedEnvironment.key).length := by
      simpa using inList
    have isEarlierPlace := Nat.lt_trans isEarlier isKeyPlace
    have sameKey : (environment.bindings.map FixedEnvironment.key)[earlier] =
        (environment.bindings.map FixedEnvironment.key)[place] := by
      simpa [FixedEnvironment.key] using same
    exact absurd (once.getElem_inj_iff.mp sameKey) (Nat.ne_of_lt isEarlier)

/-- With each name once, to replace a variable is to replace what stands in its place. -/
theorem set_eq_map {name : Text} {place : Nat} (found : environment.index? name = some place)
    (value : Text) :
    environment.bindings.set place (name, value) =
      environment.bindings.map fun entry =>
        if FixedEnvironment.isNamed name entry then (name, value) else entry := by
  rcases List.findIdx?_eq_some_iff_getElem.mp found with ⟨isPlace, isHere, _⟩
  apply List.ext_getElem
  · simp
  · intro index inSet inMap
    have inList : index < environment.bindings.length := by simpa using inMap
    rw [List.getElem_set, List.getElem_map]
    split
    next same =>
      subst same
      rw [if_pos isHere]
    next differs =>
      have notHere : ¬FixedEnvironment.isNamed name environment.bindings[index] = true := by
        intro isThere
        have isKeyPlace : place < (environment.bindings.map FixedEnvironment.key).length := by
          simpa using isPlace
        have isKeyIndex : index < (environment.bindings.map FixedEnvironment.key).length := by
          simpa using inList
        have sameKey : (environment.bindings.map FixedEnvironment.key)[place] =
            (environment.bindings.map FixedEnvironment.key)[index] := by
          simpa using (FixedEnvironment.isNamed_iff_key.mp isHere).trans
            (FixedEnvironment.isNamed_iff_key.mp isThere).symm
        exact differs (once.getElem_inj_iff.mp sameKey)
      rw [if_neg notHere]

theorem Represents.insert (represents : indexed.Represents environment) (name value : Text) :
    ∃ next, indexed.insert name value = .ok next ∧
      next.Represents (environment.insert name value) := by
  have inIndex := represents.index?_eq name
  cases found : environment.index? name with
  | some place =>
      rw [found] at inIndex
      rcases List.findIdx?_eq_some_iff_getElem.mp found with ⟨isPlace, isHere, _⟩
      have isEntry := List.getElem_mem isPlace
      have isThere : environment.bindings.any (FixedEnvironment.isNamed name) = true :=
        List.any_eq_true.mpr ⟨_, isEntry, isHere⟩
      have isKey : Text.asciiUpper name ∈ environment.bindings.map FixedEnvironment.key :=
        List.mem_map.mpr ⟨_, isEntry, FixedEnvironment.isNamed_iff_key.mp isHere⟩
      refine ⟨⟨indexed.bindings.set place (name, value), indexed.index⟩, ?_, ?_, ?_⟩
      · simp only [IndexedEnvironment.insert, inIndex, represents.bindings_eq, if_pos isPlace]
      · simp only [represents.bindings_eq, set_eq_map once found, FixedEnvironment.insert,
          if_pos isThere]
      · intro key
        rw [FixedEnvironment.map_key_insert, if_pos isKey]
        exact represents.index_eq key
  | none =>
      rw [found] at inIndex
      have isNew := List.findIdx?_eq_none_iff.mp found
      have notThere : ¬environment.bindings.any (FixedEnvironment.isNamed name) = true := by
        simpa using isNew
      have noKey : Text.asciiUpper name ∉ environment.bindings.map FixedEnvironment.key := by
        intro isKey
        rcases List.mem_map.mp isKey with ⟨entry, isEntry, same⟩
        have notHere := isNew entry isEntry
        rw [FixedEnvironment.isNamed_iff_key.mpr same] at notHere
        exact Bool.noConfusion notHere
      refine ⟨⟨indexed.bindings ++ [(name, value)],
        indexed.index.insert (Text.asciiUpper name) indexed.bindings.length⟩, ?_, ?_, ?_⟩
      · simp only [IndexedEnvironment.insert, inIndex]
      · simp only [represents.bindings_eq, FixedEnvironment.insert, if_neg notThere]
      · intro key
        rw [Std.HashMap.getElem?_insert, represents.index_eq, FixedEnvironment.map_key_insert,
          if_neg noKey, List.findIdx?_append, represents.bindings_eq]
        split
        next isNewKey =>
          rw [beq_iff_eq] at isNewKey
          subst isNewKey
          have notFound : (environment.bindings.map FixedEnvironment.key).findIdx?
              (· == Text.asciiUpper name) = none := by
            rw [List.findIdx?_eq_none_iff]
            intro key isKey
            rw [beq_eq_false_iff_ne]
            rintro rfl
            exact noKey isKey
          simp [notFound]
        next isOther => simp [isOther]

end Once

theorem exists_represents_ofList (entries : List (Text × Text)) :
    ∃ indexed, ofList entries = .ok indexed ∧
      indexed.Represents (FixedEnvironment.ofList entries) := by
  induction entries using List.reverseRecOn with
  | nil => exact ⟨empty, rfl, represents_empty⟩
  | append_singleton entries entry ih =>
      rcases ih with ⟨indexed, made, represents⟩
      rcases represents.insert (FixedEnvironment.nodup_ofList entries) entry.1 entry.2 with
        ⟨next, inserted, nextRepresents⟩
      refine ⟨next, ?_, ?_⟩
      · rw [ofList, List.foldlM_append]
        rw [ofList] at made
        rw [made, Checked.ok_bind, List.foldlM_cons, inserted]
        rfl
      · rw [FixedEnvironment.ofList_concat]
        exact nextRepresents

/-- A step never fails, and keeps the index in step with the list. -/
theorem exists_represents_afterStep {entries : List (Text × Text)}
    (represents : indexed.Represents (FixedEnvironment.ofList entries))
    (step : FixedEnvironment.Step) :
    ∃ next, indexed.afterStep step = .ok next ∧
      next.Represents
        (FixedEnvironment.ofList (FixedEnvironment.insertionsAfter entries step)) := by
  cases step with
  | insert name value =>
      rw [FixedEnvironment.insertionsAfter, FixedEnvironment.ofList_concat]
      exact represents.insert (FixedEnvironment.nodup_ofList entries) name value
  | ofList others => exact exists_represents_ofList others

theorem exists_represents_foldlM {entries : List (Text × Text)}
    (represents : indexed.Represents (FixedEnvironment.ofList entries))
    (steps : List FixedEnvironment.Step) :
    ∃ last, steps.foldlM afterStep indexed = .ok last ∧
      last.Represents (FixedEnvironment.ofList
        (steps.foldl FixedEnvironment.insertionsAfter entries)) := by
  induction steps generalizing indexed entries with
  | nil => exact ⟨indexed, rfl, represents⟩
  | cons step steps ih =>
      rcases exists_represents_afterStep represents step with ⟨next, stepped, nextRepresents⟩
      rw [List.foldlM_cons, stepped, List.foldl_cons]
      exact ih nextRepresents

end IndexedEnvironment

/-- Whatever is done to a fixed environment, it holds what its insertions have left of its
variables. Kept with an index beside the list, it has the same variables and the same values; no
step fails, and the index tells exactly the places of the variables. -/
theorem FixedEnvironment.records_after (steps : List Step) :
    let environment := steps.foldl afterStep empty
    environment.Records (steps.foldl insertionsAfter []) ∧
      ∃ indexed, steps.foldlM IndexedEnvironment.afterStep IndexedEnvironment.empty =
          .ok indexed ∧
        indexed.bindings = environment.bindings ∧
        (∀ name, indexed.value? name = environment.value? name) ∧
        ∀ name place, indexed.index[name]? = some place ↔
          ∃ entry, indexed.bindings[place]? = some entry ∧ Text.asciiUpper entry.1 = name := by
  intro environment
  have made : environment = ofList (steps.foldl insertionsAfter []) := foldl_afterStep steps []
  rcases IndexedEnvironment.exists_represents_foldlM IndexedEnvironment.represents_empty steps with
    ⟨indexed, run, represents⟩
  rw [← made] at represents
  have once := nodup_ofList (steps.foldl insertionsAfter [])
  rw [← made] at once
  refine ⟨?_, indexed, run, represents.bindings_eq, ?_, ?_⟩
  · rw [made]
    exact records_ofList _
  · exact represents.value?_eq
  · exact represents.index_iff once

/-- The name that is set again keeps its place and is spelled anew. -/
example :
    FixedEnvironment.ofList
        [("b".toList, "1".toList), ("ä".toList, "2".toList), ("B".toList, "3".toList)] =
      ⟨[("B".toList, "3".toList), ("ä".toList, "2".toList)]⟩ := by
  decide

end BatchLens
