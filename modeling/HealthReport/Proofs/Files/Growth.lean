import HealthReport.Proofs.Files.Shape

/-!
# What a path looks at, and file systems that grow

Setting logging up makes directories and a file. Whatever was there stays as it was, so a path
leads elsewhere only if something new stands where the path looks and found nothing before.

Results:
1. `find_of_agree`: what a path leads to hangs on the locations that it looks at.
2. `occupied_of_find`: a path that leads to a node finds something wherever it looks.
3. `Grown.isTree`, `Grown.node?_of_some`: a grown file system is one still, and keeps its nodes.
4. `grown_makeAll`, `grown_openAppend`, `grown_install`: what is made lets it grow.
-/
namespace HealthReport.FileTree

/-! ## Definitions -/

/-- `Looks t place pieces other`: whoever follows the pieces from a place looks at the other
place. An ordinary name is looked up in the directory where it is followed, and the place where
the pieces end is looked at as well. -/
inductive Looks (t : FileTree) : Location → List Bytes → Location → Prop
  | last (place : Location) : Looks t place [] place
  | here (place : Location) (piece : Bytes) (rest : List Bytes) :
      Looks t place (piece :: rest) place
  | named {piece : Bytes} (place : Location) (rest : List Bytes)
      (busy : Path.isIdle piece = false) (ordinary : piece ≠ Path.dotDot) :
      Looks t place (piece :: rest) (piece :: place)
  | next {place next other : Location} {piece : Bytes} {rest : List Bytes}
      (step : t.follow place piece = .ok next) (later : Looks t next rest other) :
      Looks t place (piece :: rest) other

/-- The path looks at the place. A path that is refused as such looks nowhere. -/
def LooksAt (t : FileTree) (path : Path) (place : Location) : Prop :=
  refused? path = none ∧ Looks t (t.start path) (Path.pieces path) place

/-- The working directory is a directory, and so is all that holds a node. -/
structure IsTree (t : FileTree) : Prop where
  workingDirectory : t.node? t.workingDirectory = some .directory
  above : ∀ name place, t.node? (name :: place) ≠ none → t.node? place = some .directory

/-- The second comes from the first by new nodes in directories, one after the other. -/
inductive Grown (t : FileTree) : FileTree → Prop
  | refl : Grown t t
  | add {u : FileTree} {place : Location} {name : Bytes} (before : Grown t u)
      (inside : u.node? place = some .directory) (free : u.node? (name :: place) = none)
      (node : Node) : Grown t (u.put (name :: place) node)

variable {t u : FileTree}

/-! ## 1. What a path looks at -/

theorem follow_of_agree {place : Location} {piece : Bytes}
    (here : u.node? place = t.node? place)
    (named : Path.isIdle piece = false → piece ≠ Path.dotDot →
      u.node? (piece :: place) = t.node? (piece :: place)) :
    u.follow place piece = t.follow place piece := by
  rw [follow, follow, here]
  cases t.node? place with
  | none => rfl
  | some node =>
    cases node with
    | file _ => rfl
    | directory =>
      simp only
      cases busy : Path.isIdle piece with
      | true => rfl
      | false =>
        by_cases up : piece = Path.dotDot
        · simp only [up, if_true]
        · rw [named busy up]

theorem walk_of_agree {place : Location} {pieces : List Bytes}
    (agree : ∀ other, t.Looks place pieces other → u.node? other = t.node? other) :
    u.walk place pieces = t.walk place pieces ∧
      ∀ final, t.walk place pieces = .ok final → u.node? final = t.node? final := by
  induction pieces generalizing place with
  | nil =>
    refine ⟨rfl, fun final walked => ?_⟩
    cases walked
    exact agree place (.last place)
  | cons piece rest ih =>
    have step : u.follow place piece = t.follow place piece :=
      follow_of_agree (agree place (.here place piece rest))
        fun busy ordinary => agree _ (.named place rest busy ordinary)
    rw [walk, walk, step]
    cases taken : t.follow place piece with
    | error fault => exact ⟨rfl, fun final walked => by cases walked⟩
    | ok next => exact ih fun other later => agree other (.next taken later)

/-- What a path leads to hangs on the places that it looks at, and on nothing else. -/
theorem find_of_agree {path : Path} (same : u.workingDirectory = t.workingDirectory)
    (agree : ∀ place, t.LooksAt path place → u.node? place = t.node? place) :
    u.find path = t.find path := by
  have start : u.start path = t.start path := by rw [FileTree.start, FileTree.start, same]
  rw [find, find, locate, locate, start]
  cases refused : refused? path with
  | some fault => rfl
  | none =>
    obtain ⟨walked, final⟩ := walk_of_agree fun place looks => agree place ⟨refused, looks⟩
    simp only [walked]
    cases reached : t.walk (t.start path) (Path.pieces path) with
    | error fault => rfl
    | ok place => simp only [final place reached]

theorem occupied_of_follow {place next : Location} {piece : Bytes}
    (step : t.follow place piece = .ok next) :
    t.node? place ≠ none ∧
      (Path.isIdle piece = false → piece ≠ Path.dotDot → t.node? (piece :: place) ≠ none) := by
  unfold follow at step
  split at step
  · cases step
  · cases step
  · rename_i held
    refine ⟨by simp [held], fun busy ordinary absent => ?_⟩
    simp only [busy, ordinary, absent, Bool.false_eq_true, if_false, Option.isSome_none] at step
    split at step
    · cases step
    · cases step

theorem occupied_of_walk {place final : Location} {pieces : List Bytes}
    (walked : t.walk place pieces = .ok final) (ends : t.node? final ≠ none) {other : Location}
    (looks : t.Looks place pieces other) : t.node? other ≠ none := by
  induction looks with
  | last place =>
    cases walked
    exact ends
  | here place piece rest =>
    rw [walk] at walked
    cases step : t.follow place piece with
    | error fault => simp [step] at walked
    | ok next => exact (occupied_of_follow step).1
  | @named piece place rest busy ordinary =>
    rw [walk] at walked
    cases step : t.follow place piece with
    | error fault => simp [step] at walked
    | ok next => exact (occupied_of_follow step).2 busy ordinary
  | next step _ ih =>
    rw [walk, step] at walked
    exact ih walked

/-- A path that leads to a node finds something wherever it looks. -/
theorem occupied_of_find {path : Path} {node : Node} (found : t.find path = .ok node)
    {place : Location} (looks : t.LooksAt path place) : t.node? place ≠ none := by
  obtain ⟨accepted, looks⟩ := looks
  rw [find, locate, accepted] at found
  cases walked : t.walk (t.start path) (Path.pieces path) with
  | error fault => simp [walked] at found
  | ok final =>
    refine occupied_of_walk walked (fun absent => ?_) looks
    simp [walked, absent] at found

/-! ## 2. Growing -/

namespace Grown

theorem trans {v : FileTree} (first : Grown t u) (second : Grown u v) : Grown t v := by
  induction second with
  | refl => exact first
  | add _ inside free node ih => exact ih.add inside free node

theorem workingDirectory (h : Grown t u) : u.workingDirectory = t.workingDirectory := by
  induction h with
  | refl => rfl
  | add _ _ _ _ ih => exact ih

/-- Whatever was there stays as it was. -/
theorem node?_of_some (h : Grown t u) {place : Location} {node : Node}
    (held : t.node? place = some node) : u.node? place = some node := by
  induction h with
  | refl => exact held
  | @add u above name _ _ free new ih =>
    rw [node?_put, if_neg, ih]
    rintro rfl
    rw [free] at ih
    cases ih

theorem isTree (h : Grown t u) (tree : t.IsTree) : u.IsTree := by
  induction h with
  | refl => exact tree
  | @add u place name before inside free new ih =>
    have keeps : ∀ {other node}, u.node? other = some node →
        (u.put (name :: place) new).node? other = some node :=
      node?_of_some (.add .refl inside free new)
    refine ⟨keeps ih.workingDirectory, fun other above held => ?_⟩
    rw [node?_put] at held
    split at held
    · rename_i same
      cases same
      exact keeps inside
    · exact keeps (ih.above other above held)

/-- A path leads to the same node as long as nothing new stands where it looks. -/
theorem find_eq (h : Grown t u) {path : Path}
    (free : ∀ place, t.LooksAt path place → t.node? place = none → u.node? place = none) :
    u.find path = t.find path := by
  refine find_of_agree h.workingDirectory fun place looks => ?_
  cases held : t.node? place with
  | none => exact free place looks held
  | some node => exact h.node?_of_some held

end Grown

/-! ## 3. What is made -/

theorem IsTree.follow (tree : t.IsTree) {place next : Location} {piece : Bytes}
    (step : t.follow place piece = .ok next) : t.node? next ≠ none := by
  unfold FileTree.follow at step
  split at step
  · cases step
  · cases step
  · rename_i held
    split at step
    · cases step
      simp [held]
    split at step
    · cases step
      cases place with
      | nil => simp [node?]
      | cons name above =>
        rw [List.tail_cons, tree.above name above (by simp [held])]
        simp
    split at step
    · cases step
    split at step
    · rename_i found
      cases step
      exact Option.isSome_iff_ne_none.1 found
    · cases step

theorem IsTree.walk (tree : t.IsTree) {place final : Location} {pieces : List Bytes}
    (held : t.node? place ≠ none) (walked : t.walk place pieces = .ok final) :
    t.node? final ≠ none := by
  induction pieces generalizing place with
  | nil =>
    cases walked
    exact held
  | cons piece rest ih =>
    rw [FileTree.walk] at walked
    cases step : t.follow place piece with
    | error fault => simp [step] at walked
    | ok next =>
      rw [step] at walked
      exact ih (tree.follow step) walked

theorem IsTree.start (tree : t.IsTree) (path : Path) : t.node? (t.start path) ≠ none := by
  unfold FileTree.start
  split
  · simp [node?]
  · simp [tree.workingDirectory]

theorem IsTree.holder (tree : t.IsTree) {path : Path} {pieces : List Bytes} {place : Location}
    {name : Bytes} (held : t.holder path pieces = .ok (place, name)) : t.node? place ≠ none := by
  unfold FileTree.holder at held
  split at held
  · cases held
  · split at held
    · cases held
    · rename_i walked
      cases held
      exact tree.walk (tree.start path) walked

/-- A name that is not found in a place that holds a node is free, and the place is a directory. -/
theorem free_of_follow {place : Location} {name : Bytes} (held : t.node? place ≠ none)
    (absent : t.follow place name = .error .notFound) :
    t.node? place = some .directory ∧ t.node? (name :: place) = none := by
  unfold follow at absent
  split at absent
  · contradiction
  · cases absent
  · rename_i inside
    refine ⟨inside, ?_⟩
    split at absent
    · cases absent
    split at absent
    · cases absent
    split at absent
    · cases absent
    split at absent
    · cases absent
    · rename_i free
      simpa using free

theorem grown_makeDirectory (tree : t.IsTree) {path : Path} {made : FileTree}
    (h : t.makeDirectory path = .ok made) : Grown t made := by
  simp only [makeDirectory] at h
  split at h
  · cases h
  · rename_i place name held
    split at h
    · cases h
    · rename_i absent
      cases h
      obtain ⟨inside, free⟩ := free_of_follow (tree.holder held) absent
      exact .add .refl inside free .directory
    · cases h

theorem grown_makeDirectories (tree : t.IsTree) (path : Path) (steps : Nat) :
    Grown t (t.makeDirectories path steps).1 := by
  induction steps generalizing path with
  | zero => exact .refl
  | succ steps ih =>
    rw [makeDirectories]
    split
    · exact .refl
    · rename_i above _
      split
      · rename_i made
        exact grown_makeDirectory tree made
      · split
        · exact .refl
        · exact .refl
      · -- What is above has grown already when the directory itself is tried again.
        have whole := ih above
        split
        · rename_i below
          rw [below] at whole
          exact whole
        · rename_i below
          rw [below] at whole
          split
          · rename_i made
            exact whole.trans (grown_makeDirectory (whole.isTree tree) made)
          · split
            · exact whole
            · exact whole
      · exact .refl

theorem grown_makeAll (tree : t.IsTree) (path : Path) : Grown t (t.makeAll path).1 :=
  grown_makeDirectories tree path _

theorem grown_openAppend (tree : t.IsTree) {path : Path} {final : FileTree} {place : Location}
    (h : t.openAppend path = .ok (final, place)) : Grown t final := by
  unfold openAppend at h
  split at h
  · cases h
  · rename_i held
    split at h
    · rename_i absent
      cases h
      obtain ⟨inside, free⟩ := free_of_follow (tree.holder held) absent
      exact .add .refl inside free (.file [])
    · cases h
    · split at h
      · cases h
        exact .refl
      · cases h

theorem grown_openFile (tree : t.IsTree) (path : Path) : Grown t (Log.openFile t path).1 := by
  unfold Log.openFile
  split
  · exact .refl
  · rename_i directory name _
    have whole := grown_makeAll tree directory
    split
    · rename_i below
      rw [below] at whole
      exact whole
    · rename_i below
      rw [below] at whole
      split
      · exact whole
      · rename_i opened
        exact whole.trans (grown_openAppend (whole.isTree tree) opened)

/-- Setting logging up lets the file system grow. -/
theorem grown_install (tree : t.IsTree) (c : LogConfig) :
    Grown t ((Log.Setup.start t).install c).1.tree := by
  simp only [Log.Setup.install]
  cases Log.Filter.ofText? c.level with
  | none => exact .refl
  | some filter =>
    simp only [Log.Setup.start, Log.Setup.openLog]
    cases c.file with
    | none => exact .refl
    | some path => exact grown_openFile tree path

end HealthReport.FileTree
