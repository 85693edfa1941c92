import HealthReport.Log.Setup

/-!
# File systems of the same shape

Two file systems have the same shape if they differ at most in what their regular files contain.
Following a path and making what is missing look at the shape alone, so they go alike on both.

Results:
1. `SameShape.locate`, `SameShape.exists?`: a path leads to the same location on both.
2. `SameShape.makeAll`, `SameShape.openAppend`: what is made leaves both of the same shape.
3. `SameShape.openFile`, `SameShape.install`: the same for the opening of a log file and for the
   whole set-up of logging.
4. `sameShape_append`, `find_append`: writing at the end of a file changes its content alone.
-/
namespace HealthReport

/-! ## Definitions -/

/-- The node without the content of a file. -/
def Node.blank : Node → Node
  | .directory => .directory
  | .file _ => .file []

/-- Both fail with the same fault, or neither fails and the relation holds. -/
inductive Alike {α : Type} (R : α → α → Prop) : Except FileFault α → Except FileFault α → Prop
  | ok {a b : α} (related : R a b) : Alike R (.ok a) (.ok b)
  | error (fault : FileFault) : Alike R (.error fault) (.error fault)

namespace FileTree

/-- The same locations hold directories, and the same hold regular files. -/
structure SameShape (t u : FileTree) : Prop where
  workingDirectory : t.workingDirectory = u.workingDirectory
  nodes : ∀ place, (t.node? place).map Node.blank = (u.node? place).map Node.blank

/-- What putting a node does to the others. -/
theorem node?_put (t : FileTree) (name : Bytes) (above place : Location) (node : Node) :
    (t.put (name :: above) node).node? place =
      if place = name :: above then some node else t.node? place := by
  cases place with
  | nil => rfl
  | cons first rest =>
    show List.lookup (first :: rest) ((name :: above, node) :: t.nodes.filter _) = _
    rw [List.lookup_cons]
    by_cases same : first :: rest = name :: above
    · rw [if_pos same, same, beq_self_eq_true]
    · rw [if_neg same, beq_eq_false_iff_ne.2 same]
      exact lookup_filter_ne same t.nodes

namespace SameShape

variable {t u : FileTree}

theorem refl (t : FileTree) : SameShape t t := ⟨rfl, fun _ => rfl⟩

/-! ## 1. Following a path -/

/-- What can stand at one location of both. -/
theorem node_cases (h : SameShape t u) (place : Location) :
    (t.node? place = none ∧ u.node? place = none) ∨
      (t.node? place = some .directory ∧ u.node? place = some .directory) ∨
      ∃ content other, t.node? place = some (.file content) ∧
        u.node? place = some (.file other) := by
  have same := h.nodes place
  cases left : t.node? place with
  | none =>
    rw [left, Option.map_none, eq_comm, Option.map_eq_none_iff] at same
    exact .inl ⟨rfl, same⟩
  | some node =>
    rw [left, Option.map_some, eq_comm, Option.map_eq_some_iff] at same
    obtain ⟨other, right, blank⟩ := same
    cases node with
    | directory =>
      cases other with
      | directory => exact .inr (.inl ⟨rfl, right⟩)
      | file _ => cases blank
    | file content =>
      cases other with
      | directory => cases blank
      | file other => exact .inr (.inr ⟨content, other, rfl, right⟩)

theorem isSome_node? (h : SameShape t u) (place : Location) :
    (t.node? place).isSome = (u.node? place).isSome := by
  rw [← Option.isSome_map (f := Node.blank), h.nodes, Option.isSome_map]

theorem follow (h : SameShape t u) (place : Location) (piece : Bytes) :
    t.follow place piece = u.follow place piece := by
  have next := h.isSome_node? (piece :: place)
  obtain ⟨left, right⟩ | ⟨left, right⟩ | ⟨content, other, left, right⟩ := h.node_cases place
  all_goals simp only [FileTree.follow, left, right, next]

theorem walk (h : SameShape t u) (place : Location) (pieces : List Bytes) :
    t.walk place pieces = u.walk place pieces := by
  induction pieces generalizing place with
  | nil => rfl
  | cons piece rest ih =>
    rw [FileTree.walk, FileTree.walk, h.follow]
    cases u.follow place piece with
    | error fault => rfl
    | ok next => exact ih next

theorem start (h : SameShape t u) (path : Path) : t.start path = u.start path := by
  rw [FileTree.start, FileTree.start, h.workingDirectory]

theorem locate (h : SameShape t u) (path : Path) : t.locate path = u.locate path := by
  rw [FileTree.locate, FileTree.locate, h.start, h.walk]

theorem find (h : SameShape t u) (path : Path) :
    Alike (fun node other => node.blank = other.blank) (t.find path) (u.find path) := by
  rw [FileTree.find, FileTree.find, h.locate]
  cases u.locate path with
  | error fault => exact .error fault
  | ok place =>
    obtain ⟨left, right⟩ | ⟨left, right⟩ | ⟨content, other, left, right⟩ := h.node_cases place
    all_goals simp only [left, right]
    · exact .error .notFound
    · exact .ok rfl
    · exact .ok rfl

theorem exists? (h : SameShape t u) (path : Path) : t.exists? path = u.exists? path := by
  have found := h.find path
  rw [FileTree.exists?, FileTree.exists?]
  generalize t.find path = left at found
  generalize u.find path = right at found
  cases found with
  | ok _ => rfl
  | error _ => rfl

theorem isDirectory (h : SameShape t u) (path : Path) :
    t.isDirectory path = u.isDirectory path := by
  have found := h.find path
  rw [FileTree.isDirectory, FileTree.isDirectory]
  generalize t.find path = left at found
  generalize u.find path = right at found
  cases found with
  | error fault => rfl
  | @ok node other same =>
    cases node with
    | directory =>
      cases other with
      | directory => rfl
      | file _ => cases same
    | file _ =>
      cases other with
      | directory => cases same
      | file _ => rfl

/-! ## 2. Making what is missing -/

theorem holder (h : SameShape t u) (path : Path) (pieces : List Bytes) :
    t.holder path pieces = u.holder path pieces := by
  rw [FileTree.holder, FileTree.holder, h.start, h.walk]

theorem put (h : SameShape t u) (name : Bytes) (above : Location) (node : Node) :
    SameShape (t.put (name :: above) node) (u.put (name :: above) node) where
  workingDirectory := h.workingDirectory
  nodes place := by
    rw [node?_put, node?_put]
    by_cases same : place = name :: above
    · rw [if_pos same, if_pos same]
    · rw [if_neg same, if_neg same]
      exact h.nodes place

theorem makeDirectory (h : SameShape t u) (path : Path) :
    Alike SameShape (t.makeDirectory path) (u.makeDirectory path) := by
  simp only [FileTree.makeDirectory, h.holder]
  cases u.holder path _ with
  | error fault => exact .error fault
  | ok held =>
    obtain ⟨place, name⟩ := held
    simp only [h.follow]
    cases u.follow place name with
    | ok _ => exact .error .alreadyExists
    | error fault =>
      cases fault with
      | notFound => exact .ok (h.put name place .directory)
      | _ => exact .error _

theorem makeDirectories (h : SameShape t u) (path : Path) (steps : Nat) :
    SameShape (t.makeDirectories path steps).1 (u.makeDirectories path steps).1 ∧
      (t.makeDirectories path steps).2 = (u.makeDirectories path steps).2 := by
  induction steps generalizing path with
  | zero => exact ⟨h, rfl⟩
  | succ steps ih =>
    rw [FileTree.makeDirectories, FileTree.makeDirectories]
    cases Path.parent? path with
    | none => exact ⟨h, rfl⟩
    | some above =>
      have first := h.makeDirectory path
      simp only
      generalize t.makeDirectory path = left at first
      generalize u.makeDirectory path = right at first
      cases first with
      | ok made => exact ⟨made, rfl⟩
      | error fault =>
        cases fault with
        | alreadyExists =>
          simp only [h.isDirectory]
          cases u.isDirectory path
          · exact ⟨h, rfl⟩
          · exact ⟨h, rfl⟩
        | notFound =>
          -- What is missing above is made first; then the directory itself is tried again.
          have whole := ih above
          simp only
          generalize t.makeDirectories above steps = below at whole
          generalize u.makeDirectories above steps = below' at whole
          obtain ⟨made, failed⟩ := below
          obtain ⟨made', failed'⟩ := below'
          obtain ⟨shape, rfl⟩ := whole
          cases failed with
          | some fault => exact ⟨shape, rfl⟩
          | none =>
            have again := SameShape.makeDirectory shape path
            simp only
            generalize made.makeDirectory path = left at again
            generalize made'.makeDirectory path = right at again
            cases again with
            | ok final => exact ⟨final, rfl⟩
            | error fault =>
              simp only [SameShape.isDirectory shape]
              split
              · exact ⟨shape, rfl⟩
              · exact ⟨shape, rfl⟩
        | _ => exact ⟨h, rfl⟩

theorem makeAll (h : SameShape t u) (path : Path) :
    SameShape (t.makeAll path).1 (u.makeAll path).1 ∧ (t.makeAll path).2 = (u.makeAll path).2 :=
  h.makeDirectories path (path.length + 1)

theorem openAppend (h : SameShape t u) (path : Path) :
    Alike (fun opened other => SameShape opened.1 other.1 ∧ opened.2 = other.2)
      (t.openAppend path) (u.openAppend path) := by
  rw [FileTree.openAppend, FileTree.openAppend, h.holder]
  cases u.holder path _ with
  | error fault => exact .error fault
  | ok held =>
    obtain ⟨place, name⟩ := held
    simp only [h.follow]
    cases u.follow place name with
    | error fault =>
      cases fault with
      | notFound => exact .ok ⟨h.put name place (.file []), rfl⟩
      | _ => exact .error _
    | ok found =>
      obtain ⟨left, right⟩ | ⟨left, right⟩ | ⟨content, other, left, right⟩ := h.node_cases found
      all_goals simp only [left, right]
      · exact .error .isDirectory
      · exact .error .isDirectory
      · exact .ok ⟨h, rfl⟩

/-! ## 3. Setting logging up -/

theorem openFile (h : SameShape t u) (path : Path) :
    SameShape (Log.openFile t path).1 (Log.openFile u path).1 ∧
      (Log.openFile t path).2 = (Log.openFile u path).2 := by
  rw [Log.openFile, Log.openFile]
  cases Log.splitPath? path with
  | none => exact ⟨h, rfl⟩
  | some parts =>
    obtain ⟨directory, name⟩ := parts
    have whole := h.makeAll directory
    simp only
    generalize t.makeAll directory = left at whole
    generalize u.makeAll directory = right at whole
    obtain ⟨made, failed⟩ := left
    obtain ⟨made', failed'⟩ := right
    obtain ⟨shape, rfl⟩ := whole
    cases failed with
    | some fault => exact ⟨shape, rfl⟩
    | none =>
      have opened := SameShape.openAppend shape (Path.join directory name)
      simp only
      generalize made.openAppend (Path.join directory name) = left at opened
      generalize made'.openAppend (Path.join directory name) = right at opened
      cases opened with
      | error fault => exact ⟨shape, rfl⟩
      | @ok opened other same =>
        obtain ⟨final, place⟩ := opened
        obtain ⟨final', place'⟩ := other
        obtain ⟨shape, rfl⟩ := same
        exact ⟨shape, rfl⟩

theorem openLog (h : SameShape t u) (c : LogConfig) :
    SameShape (Log.Setup.openLog t c).1 (Log.Setup.openLog u c).1 ∧
      (Log.Setup.openLog t c).2 = (Log.Setup.openLog u c).2 := by
  rw [Log.Setup.openLog, Log.Setup.openLog]
  cases c.file with
  | none => exact ⟨h, rfl⟩
  | some path =>
    obtain ⟨shape, opened⟩ := h.openFile path
    exact ⟨shape, congrArg some opened⟩

/-- Logging is set up alike: only the contents of the files differ afterwards. -/
theorem install (h : SameShape t u) (c : LogConfig) :
    let left := (Log.Setup.start t).install c
    let right := (Log.Setup.start u).install c
    SameShape left.1.tree right.1.tree ∧ left.1.subscriber = right.1.subscriber ∧
      left.1.emitted = right.1.emitted ∧ left.2 = right.2 := by
  simp only [Log.Setup.install]
  cases Log.Filter.ofText? c.level with
  | none => exact ⟨h, rfl, rfl, rfl⟩
  | some filter =>
    obtain ⟨shape, opened⟩ := h.openLog c
    refine ⟨shape, ?_, ?_, rfl⟩
    · exact congrArg (fun went => some (Log.Subscriber.ofConfig c filter went)) opened
    · exact congrArg Log.Setup.openingRecords opened

/-! ## 4. Writing at the end of a file -/

theorem find_eq (h : SameShape t u) {path : Path}
    (same : ∀ place, t.locate path = .ok place → u.node? place = t.node? place) :
    u.find path = t.find path := by
  rw [FileTree.find, FileTree.find, ← h.locate]
  cases led : t.locate path with
  | error fault => rfl
  | ok place => simp only [same place led]

end SameShape

variable {t : FileTree} {place : Location} {text : Bytes}

theorem node?_append (t : FileTree) (place other : Location) (text : Bytes) :
    (t.append place text).node? other = t.node? other ∨
      other = place ∧ ∃ held, t.node? place = some (.file held) ∧
        (t.append place text).node? place = some (.file (held ++ text)) := by
  cases place with
  | nil => exact .inl rfl
  | cons name above =>
    rw [append]
    cases held : t.node? (name :: above) with
    | none => exact .inl rfl
    | some node =>
      cases node with
      | directory => exact .inl rfl
      | file content =>
        rw [node?_put, node?_put, if_pos rfl]
        by_cases same : other = name :: above
        · exact .inr ⟨same, content, rfl, rfl⟩
        · exact .inl (if_neg same)

theorem sameShape_append (t : FileTree) (place : Location) (text : Bytes) :
    SameShape t (t.append place text) where
  workingDirectory := by
    rw [append]
    split <;> rfl
  nodes other := by
    obtain same | ⟨rfl, held, before, after⟩ := node?_append t place other text
    · rw [same]
    · rw [before, after]
      rfl

/-- A path leads to the same node, unless it leads to the file and there is something to write. -/
theorem find_append {path : Path} (idle : t.locate path = .ok place → text = []) :
    (t.append place text).find path = t.find path := by
  refine (sameShape_append t place text).find_eq fun other led => ?_
  obtain same | ⟨rfl, held, before, after⟩ := node?_append t place other text
  · exact same
  · rw [before, after, idle led, List.append_nil]

end FileTree

end HealthReport
