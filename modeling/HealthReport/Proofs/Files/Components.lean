import HealthReport.Log.File
import HealthReport.Proofs.Text.WellFormed
import Mathlib.Data.List.DropRight

/-!
# The components of a path, and the path of a log file

What a path says is the list of its components: where it starts, if it says so, and after that the
pieces that lead somewhere. Slashes that are repeated or at the end say nothing, and neither do dots
that stand alone, but for one at the very start. A log file is opened under the directory and the
name that its path is split into, so these two have to say what the path says.

Results:
1. `pieces_append_slash`, `pieces_unite`: cutting at slashes, and what undoes it.
2. `components_eq_cut`, `components_ofCut`: the components are those of the start and of the pieces
   after it.
3. `fileName?_eq_some_iff`, `exists_parent_of_fileName`: the last component and those before it.
4. `components_join`: a name in a directory adds one component.
5. `splitPath_keeps`: which paths of log files are split, and that the parts keep what they say.
-/
namespace HealthReport

namespace Path

/-! ## Definitions -/

/-- What one part of a path says. -/
inductive Component where
  /-- Start at the root. -/
  | root
  /-- Start here, as a dot says at the very start. -/
  | here
  | up
  | name (bytes : Bytes)
deriving DecidableEq

/-- What a piece between slashes says, if anything. -/
def Component.ofPiece? (piece : Bytes) : Option Component :=
  if isIdle piece then none else if piece = dotDot then some .up else some (.name piece)

/-- The start of a path, if the path says where it starts. -/
def leading (path : Path) : List Component :=
  if path.head? = some slash then [.root]
  else if (pieces path).head? = some dot then [.here]
  else []

def components (path : Path) : List Component :=
  leading path ++ (pieces path).filterMap Component.ofPiece?

/-- The name of an entry of a directory: no path of several pieces, and no dots that stand for a
directory. -/
structure IsEntryName (name : Bytes) : Prop where
  not_empty : name ≠ []
  single : slash ∉ name
  not_dot : name ≠ dot
  not_dotDot : name ≠ dotDot

/-- What a start says. -/
def Start.components : Start → List Component
  | .root => [.root]
  | .here => [.here]
  | .name => []

/-! ## 1. Pieces -/

theorem pieces_slash (rest : Path) : pieces (slash :: rest) = [] :: pieces rest := by
  rw [pieces, if_pos rfl]

theorem pieces_cons {b : UInt8} {rest : Path} {first : Bytes} {others : List Bytes}
    (inside : b ≠ slash) (cut : pieces rest = first :: others) :
    pieces (b :: rest) = (b :: first) :: others := by
  rw [pieces, if_neg inside, cut]

theorem pieces_append_slash (before rest : Path) :
    pieces (before ++ slash :: rest) = pieces before ++ pieces rest := by
  induction before with
  | nil => exact pieces_slash rest
  | cons b before ih =>
    rw [List.cons_append]
    by_cases same : b = slash
    · rw [same, pieces_slash, pieces_slash, ih, List.cons_append]
    · obtain ⟨first, others, cut⟩ := List.exists_cons_of_ne_nil (pieces_ne_nil before)
      have longer : pieces (before ++ slash :: rest) = first :: (others ++ pieces rest) := by
        rw [ih, cut, List.cons_append]
      rw [pieces_cons same cut, pieces_cons same longer, List.cons_append]

theorem pieces_of_single {name : Bytes} (single : slash ∉ name) : pieces name = [name] := by
  induction name with
  | nil => rfl
  | cons b rest ih =>
    rw [List.mem_cons, not_or] at single
    exact pieces_cons (Ne.symm single.1) (ih single.2)

theorem single_of_mem_pieces {path : Path} {piece : Bytes} (member : piece ∈ pieces path) :
    slash ∉ piece := by
  induction path generalizing piece with
  | nil =>
    obtain rfl := List.mem_singleton.1 member
    exact List.not_mem_nil
  | cons b rest ih =>
    by_cases same : b = slash
    · rw [same, pieces_slash, List.mem_cons] at member
      rcases member with rfl | later
      · exact List.not_mem_nil
      · exact ih later
    · obtain ⟨first, others, cut⟩ := List.exists_cons_of_ne_nil (pieces_ne_nil rest)
      rw [cut] at ih
      rw [pieces_cons same cut, List.mem_cons] at member
      rcases member with rfl | later
      · rw [List.mem_cons, not_or]
        exact ⟨Ne.symm same, ih List.mem_cons_self⟩
      · exact ih (List.mem_cons_of_mem _ later)

/-- Pieces without slashes are what their union is cut into. -/
theorem pieces_unite {body : List Bytes} (some_piece : body ≠ [])
    (single : ∀ piece ∈ body, slash ∉ piece) : pieces (unite body) = body := by
  induction body with
  | nil => exact absurd rfl some_piece
  | cons piece rest ih =>
    obtain ⟨first, others⟩ := List.forall_mem_cons.1 single
    cases rest with
    | nil => exact pieces_of_single first
    | cons next more =>
      rw [unite, pieces_append_slash, pieces_of_single first, ih (List.cons_ne_nil _ _) others,
        List.singleton_append]

/-! ## 2. Start and pieces -/

theorem ofPiece?_eq_none_iff {piece : Bytes} :
    Component.ofPiece? piece = none ↔ isIdle piece = true := by
  rw [Component.ofPiece?]
  split_ifs <;> simp_all

theorem isIdle_eq_false_iff {piece : Bytes} : isIdle piece = false ↔ piece ≠ [] ∧ piece ≠ dot := by
  rw [isIdle, Bool.or_eq_false_iff, beq_eq_false_iff_ne, beq_eq_false_iff_ne]

theorem filterMap_ofPiece?_of_idle {body : List Bytes}
    (idle : ∀ piece ∈ body, isIdle piece = true) :
    body.filterMap Component.ofPiece? = [] :=
  List.filterMap_eq_nil_iff.2 fun piece member => ofPiece?_eq_none_iff.2 (idle piece member)

theorem leading_of_pieces {path : Path} {first : Bytes} {rest : List Bytes} (some_byte : path ≠ [])
    (cut : pieces path = first :: rest) :
    leading path = if first = [] then [.root] else if first = dot then [.here] else [] := by
  have root : path.head? = some slash ↔ first = [] := by
    cases path with
    | nil => exact absurd rfl some_byte
    | cons b tail =>
      rw [List.head?_cons, Option.some.injEq]
      by_cases same : b = slash
      · rw [same, pieces_slash] at cut
        exact iff_of_true same (List.cons.inj cut).1.symm
      · obtain ⟨next, others, later⟩ := List.exists_cons_of_ne_nil (pieces_ne_nil tail)
        rw [pieces_cons same later] at cut
        exact iff_of_false same ((List.cons.inj cut).1 ▸ List.cons_ne_nil _ _)
  simp only [leading, root, cut, List.head?_cons, Option.some.injEq]

theorem components_of_pieces {path : Path} {first : Bytes} {rest : List Bytes}
    (some_byte : path ≠ []) (cut : pieces path = first :: rest) :
    components path = (if first = [] then [.root] else if first = dot then [.here] else []) ++
      (first :: rest).filterMap Component.ofPiece? := by
  rw [components, leading_of_pieces some_byte cut, cut]

/-- Only the empty path says nothing. -/
theorem components_eq_nil_iff {path : Path} : components path = [] ↔ path = [] := by
  refine ⟨fun nothing => ?_, fun empty => empty ▸ rfl⟩
  by_contra some_byte
  obtain ⟨first, rest, cut⟩ := List.exists_cons_of_ne_nil (pieces_ne_nil path)
  rw [components_of_pieces some_byte cut, List.append_eq_nil_iff] at nothing
  obtain ⟨unsaid, nothing⟩ := nothing
  -- Without a start that is said, the first piece is not idle.
  have busy : isIdle first = false := by
    rw [isIdle_eq_false_iff]
    split_ifs at unsaid with root here
    exact ⟨root, here⟩
  have idle := ofPiece?_eq_none_iff.1
    (List.filterMap_eq_nil_iff.1 nothing first List.mem_cons_self)
  rw [busy] at idle
  cases idle

theorem components_eq_cut (path : Path) :
    components path = (cut path).1.components ++ (cut path).2.filterMap Component.ofPiece? := by
  by_cases empty : path = []
  · rw [empty]
    rfl
  · obtain ⟨first, rest, pieces⟩ := List.exists_cons_of_ne_nil (pieces_ne_nil path)
    rw [components_of_pieces empty pieces, cut, pieces]
    by_cases root : first = []
    · subst root
      simp only [if_true, if_neg empty]
      rfl
    · by_cases here : first = dot
      · subst here
        rfl
      · simp only [if_neg root, if_neg here]
        rfl

/-- The first piece after a start that is not said leads somewhere. -/
theorem busy_of_cut_name {path : Path} {first : Bytes} {rest : List Bytes}
    (start : (cut path).1 = .name) (body : (cut path).2 = first :: rest) :
    isIdle first = false := by
  rw [isIdle_eq_false_iff]
  unfold cut at start body
  split at start <;> rename_i pieces <;> rw [pieces] at body
  · cases body
  · split_ifs at start body <;> simp_all

theorem single_of_mem_cut {path : Path} {piece : Bytes} (member : piece ∈ (cut path).2) :
    slash ∉ piece := by
  suffices cut_from : piece ∈ pieces path from single_of_mem_pieces cut_from
  unfold cut at member
  split at member <;> rename_i pieces <;> rw [pieces]
  · exact absurd member List.not_mem_nil
  · split_ifs at member
    · exact absurd member List.not_mem_nil
    · exact List.mem_cons_of_mem _ member
    · exact List.mem_cons_of_mem _ member
    · exact member

/-- The path that is made of a start and pieces says what they say. -/
theorem components_ofCut {start : Start} {body : List Bytes}
    (single : ∀ piece ∈ body, slash ∉ piece)
    (busy : start = .name → ∃ first rest, body = first :: rest ∧ isIdle first = false) :
    components (ofCut start body) =
      start.components ++ body.filterMap Component.ofPiece? := by
  cases start with
  | name =>
    obtain ⟨first, rest, rfl, lead⟩ := busy rfl
    rw [isIdle_eq_false_iff] at lead
    have pieces : pieces (unite (first :: rest)) = first :: rest :=
      pieces_unite (List.cons_ne_nil _ _) single
    have some_byte : unite (first :: rest) ≠ [] := by
      intro empty
      rw [empty] at pieces
      exact lead.1 (List.cons.inj pieces).1.symm
    rw [ofCut, components_of_pieces some_byte pieces, if_neg lead.1, if_neg lead.2]
    rfl
  | root =>
    rw [ofCut, components_of_pieces (List.cons_ne_nil _ _) (pieces_slash _), if_pos rfl]
    cases body with
    | nil => rfl
    | cons piece rest =>
      rw [pieces_unite (List.cons_ne_nil _ _) single]
      rfl
  | here =>
    cases body with
    | nil => rfl
    | cons piece rest =>
      have pieces : pieces (dot ++ slash :: unite (piece :: rest)) = dot :: piece :: rest := by
        rw [pieces_append_slash, pieces_unite (List.cons_ne_nil _ _) single]
        rfl
      rw [ofCut, List.isEmpty_cons, if_neg Bool.false_ne_true,
        components_of_pieces (List.append_ne_nil_of_right_ne_nil _ (List.cons_ne_nil _ _)) pieces,
        if_neg (by decide), if_pos rfl]
      rfl

theorem ofCut_ne_nil {start : Start} {body : List Bytes}
    (busy : start = .name → ∃ first rest, body = first :: rest ∧ isIdle first = false) :
    ofCut start body ≠ [] := by
  cases start with
  | root => exact List.cons_ne_nil _ _
  | here => cases body <;> exact List.cons_ne_nil _ _
  | name =>
    obtain ⟨first, rest, rfl, lead⟩ := busy rfl
    cases first with
    | nil => cases lead
    | cons b others => cases rest <;> exact List.cons_ne_nil _ _

/-! ## 3. The last component -/

/-- All pieces are idle, or the last one that is not stands at the end of those that are kept. -/
theorem trimEnd_cases (body : List Bytes) :
    (trimEnd body = [] ∧ body.filterMap Component.ofPiece? = []) ∨
      ∃ others last, trimEnd body = others ++ [last] ∧ isIdle last = false := by
  have ends : trimEnd body = body.rdropWhile isIdle := rfl
  rcases List.eq_nil_or_concat (trimEnd body) with none | ⟨others, last, kept⟩
  · refine .inl ⟨none, filterMap_ofPiece?_of_idle ?_⟩
    rwa [ends, List.rdropWhile_eq_nil_iff] at none
  · rw [List.concat_eq_append] at kept
    refine .inr ⟨others, last, kept, ?_⟩
    have nonempty : body.rdropWhile isIdle ≠ [] := by
      rw [← ends, kept]
      exact List.append_ne_nil_of_right_ne_nil _ (List.cons_ne_nil _ _)
    have busy := List.rdropWhile_last_not isIdle body nonempty
    simp only [← ends, kept, List.getLast_append_singleton, Bool.not_eq_true] at busy
    exact busy

theorem begins_trimEnd (body : List Bytes) : trimEnd body <+: body :=
  List.rdropWhile_prefix isIdle body

/-- The idle pieces at the end say nothing. -/
theorem filterMap_trimEnd (body : List Bytes) :
    (trimEnd body).filterMap Component.ofPiece? = body.filterMap Component.ofPiece? := by
  have idle := filterMap_ofPiece?_of_idle fun piece member =>
    List.mem_rtakeWhile_imp (p := isIdle) (l := body) member
  have parts : trimEnd body ++ body.rtakeWhile isIdle = body := List.rdropWhile_append_rtakeWhile
  conv_rhs => rw [← parts, List.filterMap_append, idle, List.append_nil]

/-- The components of a path with a piece that leads somewhere, the last of these apart. -/
theorem components_of_trimEnd {path : Path} {others : List Bytes} {last : Bytes}
    (kept : trimEnd (cut path).2 = others ++ [last]) :
    components path = (cut path).1.components ++ others.filterMap Component.ofPiece? ++
      (Component.ofPiece? last).toList := by
  rw [components_eq_cut, ← filterMap_trimEnd, kept, List.filterMap_append, List.append_assoc]
  cases said : Component.ofPiece? last <;> simp [said]

theorem fileName?_eq_some_iff {path : Path} {name : Bytes} :
    fileName? path = some name ↔ (components path).getLast? = some (.name name) := by
  rcases trimEnd_cases (cut path).2 with ⟨none, idle⟩ | ⟨others, last, kept, busy⟩
  · rw [fileName?, none, components_eq_cut, idle, List.append_nil]
    cases (cut path).1 <;> simp [Start.components]
  · rw [components_of_trimEnd kept, fileName?, kept, List.getLast?_append, Component.ofPiece?, busy]
    by_cases up : last = dotDot
    · have apart : dotDot = name → name = dotDot := Eq.symm
      simpa [up] using apart
    · have other : last = name → name ≠ dotDot := fun same => same ▸ up
      simpa [up] using other

/-- The name is the last piece that leads somewhere. -/
theorem kept_of_fileName {path : Path} {name : Bytes} (named : fileName? path = some name) :
    name ≠ dotDot ∧ isIdle name = false ∧ ∃ others, trimEnd (cut path).2 = others ++ [name] := by
  rcases trimEnd_cases (cut path).2 with ⟨none, -⟩ | ⟨others, last, kept, busy⟩
  · rw [fileName?, none] at named
    cases named
  · rw [fileName?, kept, List.getLast?_append] at named
    obtain ⟨rfl, ordinary⟩ : last = name ∧ name ≠ dotDot := by
      simpa [Option.filter_eq_some_iff] using named
    exact ⟨ordinary, busy, others, kept⟩

/-- The last component of a path is a name only if it can name an entry of a directory. -/
theorem isEntryName_of_fileName {path : Path} {name : Bytes} (named : fileName? path = some name) :
    IsEntryName name := by
  obtain ⟨ordinary, busy, others, kept⟩ := kept_of_fileName named
  rw [isIdle_eq_false_iff] at busy
  refine ⟨busy.1, single_of_mem_cut ((begins_trimEnd (cut path).2).subset ?_), busy.2, ordinary⟩
  rw [kept]
  exact List.mem_append_right _ (List.mem_singleton_self _)

/-- What comes before the last name is the parent, unless the name stands alone. -/
theorem exists_parent_of_fileName {path : Path} {name : Bytes}
    (named : fileName? path = some name) :
    ∃ above, parent? path = some above ∧
      (above = [] ∧ components path = [.name name] ∨
        above ≠ [] ∧ components path = components above ++ [.name name]) := by
  obtain ⟨ordinary, busy, others, kept⟩ := kept_of_fileName named
  have said : Component.ofPiece? name = some (.name name) := by
    rw [Component.ofPiece?, busy, if_neg Bool.false_ne_true, if_neg ordinary]
  have whole := components_of_trimEnd kept
  rw [said, Option.toList_some] at whole
  have above : parent? path = some (ofCut (cut path).1 (trimEnd others)) := by
    unfold parent?
    obtain ⟨first, rest, pieces⟩ :=
      List.exists_cons_of_ne_nil
        (List.append_ne_nil_of_right_ne_nil others (List.cons_ne_nil name []))
    rw [pieces] at kept
    simp only [kept]
    rw [← pieces, List.dropLast_concat]
  refine ⟨_, above, ?_⟩
  by_cases alone : (cut path).1 = .name ∧ trimEnd others = []
  · obtain ⟨start, idle⟩ := alone
    have none : others = [] := by
      -- The first piece would lead somewhere, and would be kept.
      by_contra some_piece
      obtain ⟨first, rest, rfl⟩ := List.exists_cons_of_ne_nil some_piece
      obtain ⟨more, body⟩ := begins_trimEnd (cut path).2
      rw [kept, List.cons_append, List.cons_append] at body
      have busy := busy_of_cut_name start body.symm
      have idle := List.rdropWhile_eq_nil_iff.1 idle first List.mem_cons_self
      rw [busy] at idle
      cases idle
    subst none
    refine .inl ⟨by rw [start, idle]; rfl, ?_⟩
    rw [whole, start]
    rfl
  · have begins : (cut path).1 = .name →
        ∃ first rest, trimEnd others = first :: rest ∧ isIdle first = false := by
      intro start
      obtain ⟨first, rest, pieces⟩ := List.exists_cons_of_ne_nil fun idle => alone ⟨start, idle⟩
      have kept_first := (begins_trimEnd others).trans
        ((List.prefix_append others [name]).trans (kept ▸ begins_trimEnd (cut path).2))
      obtain ⟨more, body⟩ := kept_first
      rw [pieces, List.cons_append] at body
      exact ⟨first, rest, pieces, busy_of_cut_name start body.symm⟩
    have single : ∀ piece ∈ trimEnd others, slash ∉ piece := fun piece member =>
      single_of_mem_cut ((begins_trimEnd _).subset
        (kept ▸ List.mem_append_left _ ((begins_trimEnd others).subset member)))
    refine .inr ⟨ofCut_ne_nil begins, ?_⟩
    rw [whole, components_ofCut single begins, filterMap_trimEnd]

/-! ## 4. A name in a directory -/

theorem components_append_slash {before : Path} (some_byte : before ≠ []) (rest : Path) :
    components (before ++ slash :: rest) =
      components before ++ (pieces rest).filterMap Component.ofPiece? := by
  obtain ⟨first, others, cut⟩ := List.exists_cons_of_ne_nil (pieces_ne_nil before)
  have longer : pieces (before ++ slash :: rest) = first :: (others ++ pieces rest) := by
    rw [pieces_append_slash, cut, List.cons_append]
  rw [components_of_pieces (List.append_ne_nil_of_left_ne_nil some_byte _) longer,
    components_of_pieces some_byte cut, ← List.cons_append, List.filterMap_append,
    List.append_assoc]

theorem components_join {directory : Path} {name : Bytes} (some_byte : directory ≠ [])
    (entry : IsEntryName name) :
    components (join directory name) = components directory ++ [.name name] := by
  have busy : isIdle name = false :=
    isIdle_eq_false_iff.2 ⟨entry.not_empty, entry.not_dot⟩
  have said : (pieces name).filterMap Component.ofPiece? = [.name name] := by
    rw [pieces_of_single entry.single, List.filterMap_cons, Component.ofPiece?, busy,
      if_neg Bool.false_ne_true, if_neg entry.not_dotDot]
    rfl
  rw [join, if_neg some_byte]
  split_ifs with ending
  · -- The directory ends with a slash, so the name is written right after it.
    obtain ⟨before, rfl⟩ := List.getLast?_eq_some_iff.1 ending
    rw [List.append_assoc, List.singleton_append]
    by_cases root : before = []
    · subst root
      rw [List.nil_append, components_of_pieces (List.cons_ne_nil _ _) (pieces_slash name)]
      simp only [if_true, List.filterMap_cons, said]
      rfl
    · rw [components_append_slash root, components_append_slash root, said]
      simp [pieces, Component.ofPiece?, isIdle]
  · rw [components_append_slash some_byte, said]

end Path

/-! ## 5. The path of a log file -/

namespace Log

open HealthReport.Path

/-- The directory and the name say what the path says. A path without a directory means the working
directory, and is then told with a dot at its start. -/
structure Splits (path directory : Path) (name : Bytes) : Prop where
  not_empty : directory ≠ []
  entry : IsEntryName name
  last : (components path).getLast? = some (.name name)
  below : components path ≠ [.name name] → components (join directory name) = components path
  alone : components path = [.name name] →
    components (join directory name) = .here :: components path

theorem splits_of_parent {path above : Path} {name : Bytes} (named : fileName? path = some name)
    (parent : parent? path = some above) :
    Splits path (if above = [] then dot else above) name := by
  have entry := isEntryName_of_fileName named
  have last := fileName?_eq_some_iff.1 named
  obtain ⟨other, same, cases⟩ := exists_parent_of_fileName named
  cases parent.symm.trans same
  rcases cases with ⟨rfl, alone⟩ | ⟨some_byte, whole⟩
  · have dotted : components (join dot name) = .here :: components path := by
      rw [components_join (by decide) entry, alone]
      rfl
    rw [if_pos rfl]
    exact ⟨by decide, entry, last, fun several => absurd alone several,
      fun _ => dotted⟩
  · have joined : components (join above name) = components path := by
      rw [components_join some_byte entry, whole]
    have several : components path ≠ [.name name] := by
      have said : components above ≠ [] := fun nothing =>
        some_byte (components_eq_nil_iff.1 nothing)
      rw [whole]
      simpa using said
    rw [if_neg some_byte]
    exact ⟨some_byte, entry, last, fun _ => joined, fun alone => absurd alone several⟩

theorem isSome_splitPath?_iff {path : Path} : (splitPath? path).isSome = true ↔
    ∃ text, fileName? path = some (Utf8.encode text) := by
  rw [splitPath?]
  cases named : fileName? path with
  | none => simp
  | some name =>
    simp only [Option.some.injEq]
    cases decoded : Utf8.decode? name with
    | none =>
      refine iff_of_false (by simp) ?_
      rintro ⟨text, rfl⟩
      rw [Utf8.decode?_eq_some_iff.2 rfl] at decoded
      cases decoded
    | some text =>
      refine iff_of_true ?_ ⟨text, Utf8.decode?_eq_some_iff.1 decoded⟩
      cases parent? path <;> rfl

/-- The path of a log file is split just when its last component is a name that is text. The parts
keep what the path says: the name can name an entry of a directory, and joined to the directory it
has the components of the path, after a dot if it is the only one. -/
theorem splitPath_keeps (path : Path) :
    ((splitPath? path).isSome = true ↔
      ∃ text, (components path).getLast? = some (.name (Utf8.encode text))) ∧
    ∀ directory name, splitPath? path = some (directory, name) → Splits path directory name := by
  refine ⟨?_, fun directory name split => ?_⟩
  · rw [isSome_splitPath?_iff]
    exact exists_congr fun text => fileName?_eq_some_iff
  · rw [splitPath?] at split
    cases named : fileName? path with
    | none => simp [named] at split
    | some last =>
      obtain ⟨above, parent, -⟩ := exists_parent_of_fileName named
      have parts := splits_of_parent named parent
      simp only [named, parent] at split
      split_ifs at split with unreadable root
      · cases split
        rwa [if_pos root] at parts
      · cases split
        rwa [if_neg root] at parts

/-- A path with idle pieces in several places, and a name alone. -/
theorem splitPath_keeps_of_untidy :
    let untidy := Utf8.encode "/var//./log/x.jsonl/./"
    splitPath? untidy = some (Utf8.encode "/var//./log", Utf8.encode "x.jsonl") ∧
      Splits untidy (Utf8.encode "/var//./log") (Utf8.encode "x.jsonl") ∧
      splitPath? (Utf8.encode "x/.") = some (dot, Utf8.encode "x") ∧
      Splits (Utf8.encode "x/.") dot (Utf8.encode "x") := by
  intro untidy
  have first : splitPath? untidy = some (Utf8.encode "/var//./log", Utf8.encode "x.jsonl") := by
    decide +kernel
  have second : splitPath? (Utf8.encode "x/.") = some (dot, Utf8.encode "x") := by decide +kernel
  exact ⟨first, (splitPath_keeps _).2 _ _ first, second, (splitPath_keeps _).2 _ _ second⟩

end Log

end HealthReport
