import HealthReport.CommandLine.Arguments

/-!
# The verbose flag among the arguments

Reading the arguments does not look at the verbose flag, except to refuse a second one. So the
flag can be put before any arguments that are allowed and do not have it, and nothing else about
them changes.

Results:
1. `Given.blind_settle`, `Given.blind_raise`: settling an argument does not look at the flag.
2. `Scan.blind_step`, `Scan.blind_steps`: neither does reading an argument, or reading all of them.
3. `arguments_verbose`: arguments after the flag.
-/
namespace HealthReport.CommandLine

/-! ## Definitions -/

/-- The same arguments, and the verbose flag. -/
def Given.raised (g : Given) : Given := { g with verbose := true }

/-- The same place in the arguments, and the verbose flag has been given. -/
def Scan.raised (s : Scan) : Scan := { s with given := s.given.raised }

/-- Where the step succeeds and there is no verbose flag after it, there was none before, and the
step succeeds in the same way with the flag. -/
def Given.Blind (f : Given → Except Stop Given) : Prop :=
  ∀ ⦃g g'⦄, f g = .ok g' → g'.verbose = false → g.verbose = false ∧ f g.raised = .ok g'.raised

/-- The same for a step through the arguments. -/
def Scan.Blind (f : Scan → Except Stop Scan) : Prop :=
  ∀ ⦃s s'⦄, f s = .ok s' → s'.given.verbose = false →
    s.given.verbose = false ∧ f s.raised = .ok s'.raised

/-! ## 1. One argument -/

namespace Given

variable {slot : Slot} {value : Bytes}

/-- A value that is read by itself is put beside the flag. -/
theorem blind_map {α : Type} {read : Except Stop α} {put : Given → α → Given}
    (kept : ∀ g a, (put g a).verbose = g.verbose)
    (apart : ∀ g a, put g.raised a = (put g a).raised) : Blind fun g => read.map (put g) := by
  intro g g' done quiet
  cases read with
  | error stop => cases done
  | ok a =>
    cases done
    exact ⟨(kept g a).symm.trans quiet, congrArg Except.ok (apart g a)⟩

theorem blind_assign (slot : Slot) (value : Bytes) : Blind fun g => g.assign slot value := by
  cases slot with
  | report | scenario | format | logFile => exact blind_map (fun _ _ => rfl) fun _ _ => rfl
  | list =>
    intro g g' done quiet
    cases done
    exact ⟨quiet, rfl⟩
  | verbose =>
    -- The flag is there after the step.
    intro g g' done quiet
    cases done
    cases quiet
  | help | version =>
    intro g g' done
    cases done

/-- An argument other than the flag is there with the flag if it is there without. -/
theorem has_raised {g : Given} (other : slot ≠ .verbose) : g.raised.has slot = g.has slot := by
  cases slot <;> first | rfl | exact absurd rfl other

theorem blind_assign_once (slot : Slot) (value : Bytes) :
    Blind fun g => if g.has slot then reject (.repeated slot) else g.assign slot value := by
  intro g g' done quiet
  simp only at done ⊢
  split at done
  · cases done
  · rename_i first
    by_cases flag : slot = .verbose
    · subst flag
      cases done
      cases quiet
    · rw [has_raised flag, if_neg first]
      exact blind_assign slot value done quiet

theorem blind_settle (slot : Slot) (found : Option Bytes) : Blind fun g => g.settle slot found := by
  cases found with
  | none =>
    intro g g' done
    cases done
  | some value => exact blind_assign_once slot value

theorem blind_raise (slot : Slot) : Blind fun g => g.raise slot := blind_assign_once slot []

end Given

/-! ## 2. All arguments -/

namespace Scan

/-- What is settled is put into the place. -/
theorem blind_map {f : Given → Except Stop Given} (blind : Given.Blind f)
    {put : Scan → Given → Scan} (held : ∀ s g, (put s g).given = g)
    (apart : ∀ s g, put s.raised g.raised = (put s g).raised) :
    Blind fun s => (f s.given).map (put s) := by
  intro s s' done quiet
  simp only at done ⊢
  cases step : f s.given with
  | error stop =>
    rw [step] at done
    cases done
  | ok g =>
    rw [step] at done
    cases done
    rw [held] at quiet
    obtain ⟨before, raised⟩ := blind step quiet
    refine ⟨before, ?_⟩
    show (f s.given.raised).map _ = _
    rw [raised]
    exact congrArg Except.ok (apart s g)

theorem Blind.bind {f h : Scan → Except Stop Scan} (first : Blind f) (second : Blind h) :
    Blind fun s => (f s).bind h := by
  intro s s' done quiet
  simp only at done ⊢
  cases step : f s with
  | error stop =>
    rw [step] at done
    cases done
  | ok next =>
    rw [step] at done
    obtain ⟨between, raised⟩ := second done quiet
    obtain ⟨before, raised'⟩ := first step between
    exact ⟨before, by rw [raised']; exact raised⟩

theorem blind_ok {put : Scan → Scan} (kept : ∀ s, (put s).given = s.given)
    (apart : ∀ s, put s.raised = (put s).raised) : Blind fun s => .ok (put s) := by
  intro s s' done quiet
  cases done
  rw [kept] at quiet
  exact ⟨quiet, congrArg Except.ok (apart s)⟩

theorem blind_error (stop : Stop) : Blind fun _ => .error stop := by
  intro s s' done
  cases done

/-- What is asked between two steps may not be about the flag. -/
theorem blind_ite {asked : Scan → Bool} {f h : Scan → Except Stop Scan}
    (same : ∀ s, asked s.raised = asked s) (yes : Blind f) (no : Blind h) :
    Blind fun s => if asked s then f s else h s := by
  intro s s' done quiet
  simp only [same] at done ⊢
  by_cases answer : asked s = true
  · rw [if_pos answer] at done ⊢
    exact yes done quiet
  · rw [if_neg answer] at done ⊢
    exact no done quiet

theorem blind_settle : Blind settle := by
  intro s s' done quiet
  obtain ⟨given, pending, awaiting, trailing, positionals⟩ := s
  cases pending with
  | none =>
    cases done
    exact ⟨quiet, rfl⟩
  | some held =>
    let put (s : Scan) (g : Given) : Scan :=
      { s with given := g, pending := none, awaiting := false }
    have blind := @blind_map _ (Given.blind_settle held.1 held.2) put (fun _ _ => rfl)
      fun _ _ => rfl
    exact blind done quiet

/-- A step that goes on after what is pending has been settled. -/
theorem blind_of_settled {f h : Scan → Except Stop Scan} (settles : ∀ s, f s = s.settle.bind h)
    (blind : Blind h) : Blind f := by
  rw [show f = fun s => s.settle.bind h from funext settles]
  exact blind_settle.bind blind

theorem blind_positional (argument : Bytes) : Blind fun s => s.positional argument := by
  intro s s' done quiet
  cases open_slots : s.positionals with
  | nil =>
    simp only [positional, open_slots] at done
    cases done
  | cons slot rest =>
    let put (s : Scan) : Scan :=
      { s with pending := some (slot, some argument), awaiting := false, positionals := rest }
    have settles : ∀ s : Scan, s.settle.map put = s.settle.bind fun s => .ok (put s) := by
      intro s
      cases s.settle <;> rfl
    have blind := blind_of_settled settles (blind_ok (fun _ => rfl) fun _ => rfl)
    simp only [positional, open_slots] at done ⊢
    have slots : s.raised.positionals = slot :: rest := open_slots
    simp only [slots]
    exact blind done quiet

theorem blind_flag (slot : Slot) : Blind fun s => s.flag slot := by
  let put (s : Scan) (g : Given) : Scan := { s with given := g, awaiting := false }
  have blind := @blind_map _ (Given.blind_raise slot) put (fun _ _ => rfl) fun _ _ => rfl
  refine blind_of_settled (fun s => ?_) blind
  rw [flag]
  cases s.settle <;> rfl

theorem blind_long (p : Program) (name : Bytes) (value : Option Bytes) :
    Blind fun s => s.long p name value := by
  unfold long
  split
  · exact blind_error _
  rename_i slot _
  split
  · cases value with
    | none =>
      let put (s : Scan) : Scan := { s with pending := some (slot, none), awaiting := true }
      have blind : Blind fun s => .ok (put s) := blind_ok (fun _ => rfl) fun _ => rfl
      refine blind_of_settled (fun s => ?_) blind
      cases s.settle <;> rfl
    | some value =>
      let put (s : Scan) (g : Given) : Scan := { s with given := g, awaiting := false }
      have blind := @blind_map _ (Given.blind_settle slot (some value)) put (fun _ _ => rfl)
        fun _ _ => rfl
      refine blind_of_settled (fun s => ?_) blind
      cases s.settle <;> rfl
  · cases value with
    | none => exact blind_flag slot
    | some value => exact blind_error _

theorem blind_short (options : List (Option Char)) : Blind fun s => s.short options := by
  induction options with
  | nil => exact blind_ok (fun _ => rfl) fun _ => rfl
  | cons option rest ih =>
    cases option with
    | none => exact blind_error _
    | some c =>
      cases known : Program.short? c with
      | none =>
        simp only [short, known]
        exact blind_error _
      | some slot =>
        have goes : (fun s : Scan => s.short (some c :: rest)) =
            fun s => (s.flag slot).bind fun next => next.short rest := by
          funext s
          simp only [short, known]
          cases s.flag slot <;> rfl
        rw [goes]
        exact (blind_flag slot).bind ih

theorem blind_operand (argument : Bytes) : Blind fun s => s.operand argument := by
  intro s s' done quiet
  obtain ⟨given, pending, awaiting, trailing, positionals⟩ := s
  have positional := blind_positional argument
  cases awaiting with
  | false => exact positional done quiet
  | true =>
    cases pending with
    | none => exact positional done quiet
    | some held =>
      cases done
      exact ⟨quiet, rfl⟩

theorem blind_step (p : Program) (argument : Bytes) : Blind fun s => s.step p argument := by
  unfold step
  refine blind_ite (fun _ => rfl) (blind_positional argument) ?_
  -- Before two dashes alone the form of an argument decides what it is.
  split
  · split
    · exact blind_ok (fun _ => rfl) fun _ => rfl
    · split
      · exact blind_short _
      · exact blind_operand _
  · split
    · exact blind_long p _ _
    · split
      · exact blind_short _
      · exact blind_operand _
  · exact blind_operand _

theorem blind_steps (p : Program) (args : List Bytes) : Blind fun s => s.steps p args := by
  induction args with
  | nil => exact blind_ok (fun _ => rfl) fun _ => rfl
  | cons argument rest ih =>
    have goes : (fun s : Scan => s.steps p (argument :: rest)) =
        fun s => (s.step p argument).bind fun next => next.steps p rest := by
      funext s
      rw [steps]
      cases s.step p argument <;> rfl
    rw [goes]
    exact (blind_step p argument).bind ih

end Scan

/-! ## 3. The flag before other arguments -/

theorem step_verbose (p : Program) :
    (Scan.start p).step p (Utf8.encode "--verbose") = .ok (Scan.start p).raised := by
  have bytes : Utf8.encode "--verbose" =
      [0x2D, 0x2D, 0x76, 0x65, 0x72, 0x62, 0x6F, 0x73, 0x65] := by decide +kernel
  have name : Utf8.decode? [0x76, 0x65, 0x72, 0x62, 0x6F, 0x73, 0x65] = some "verbose" := by
    decide +kernel
  have long : (Scan.start p).step p [0x2D, 0x2D, 0x76, 0x65, 0x72, 0x62, 0x6F, 0x73, 0x65] =
      (Scan.start p).long p [0x76, 0x65, 0x72, 0x62, 0x6F, 0x73, 0x65] none := rfl
  rw [bytes, long, Scan.long, name, Option.bind_some]
  rfl

/-- Arguments that are allowed and do not have the flag may be put after it. -/
theorem arguments_verbose {p : Program} {args : List Bytes} {given : Given}
    (accepted : arguments p args = .ok given) (quiet : given.verbose = false) :
    arguments p (Utf8.encode "--verbose" :: args) = .ok given.raised := by
  unfold arguments at accepted ⊢
  split at accepted
  · cases accepted
  · rename_i s reads
    split at accepted
    · cases accepted
    · rename_i settled settles
      split at accepted
      · cases accepted
      · rename_i complete
        cases accepted
        obtain ⟨before, settles'⟩ := Scan.blind_settle settles quiet
        obtain ⟨-, reads'⟩ := Scan.blind_steps p args reads before
        have complete' : ¬ (p = .verifyReport && settled.raised.given.report.isNone) = true :=
          complete
        simp only [Scan.steps, step_verbose, reads', settles', if_neg complete']
        rfl

end HealthReport.CommandLine
