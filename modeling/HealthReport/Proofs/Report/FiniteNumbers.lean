import HealthReport.Proofs.Binary64.Overflow
import HealthReport.Proofs.Report.Query

/-!
# Which numbers of a report are finite

A number of a document is always finite. A text is not: it may name an infinity or no number at all,
or spell a number past the range of doubles. Nothing else makes the value of an anomaly other than
finite. The percentage of memory in use is finite if both of its fields are, unless one of them is
so far off that the computation leaves the range; with between none and all of the memory available
it never does.

Results:
1. `ofText?_not_finite_iff`: the texts that are read as a double that is not finite.
2. `coerced?_not_finite_iff`: the values that count as such a number.
3. `isFinite_percent_iff`, `isFinite_percent_of_le`: when a percentage is finite.
4. `numbers_not_finite_iff`: when the value of a metric and the memory in use are not.
-/
namespace HealthReport

/-! ## Definitions -/

namespace Binary64

/-- Whether a text begins with a minus, and what comes after its sign if it has one. -/
def splitSign : List Char → Bool × List Char
  | '-' :: body => (true, body)
  | '+' :: body => (false, body)
  | body => (false, body)

/-- A text without a sign names an infinity or no number, in any case of its letters, or is a
numeral past the range of doubles. -/
def SpellsNoFinite (body : List Char) : Prop :=
  String.ofList (body.map Char.toLower) ∈ ["inf", "infinity", "nan"] ∨
    ∃ d, numeral? body = some d ∧ rangeEnd ≤ d.value

/-- The share of a total that is not available, in percent. -/
def percent (total available : Binary64) : Binary64 :=
  ((total.sub available).div total).mul (ofInt 100)

/-- The percentage leaves the range: the difference of the two numbers lies past it, or a hundred
times the rounded quotient does. -/
def PercentOverflows (total available : Finite64) : Prop :=
  let difference := (total.signed - available.signed).natAbs
  overflow ≤ difference ∨
    overflow ≤ 100 * roundUnits (roundUnits difference 1 * one) total.units

end Binary64

/-- The value is a text that spells, between blanks, a double that is not finite. -/
def Json.SpellsNoFinite (value : Json) : Prop :=
  ∃ text, value = .string text ∧
    Binary64.SpellsNoFinite (Binary64.splitSign (trimBlanks text.toList)).2

namespace Report

/-- The anomaly is the first one of its metric. -/
def FirstAnomaly (r : Report) (metric : String) (anomaly : Members) : Prop :=
  ∃ before after, r.root.objectsAt ["summary", "anomalies"] = before ++ anomaly :: after ∧
    anomaly.get? "metric" = some (.string metric) ∧
    ∀ earlier ∈ before, earlier.get? "metric" ≠ some (.string metric)

end Report

/-! ## 1. Texts -/

namespace Binary64

/-- The number that a text without a sign spells. -/
def ofUnsigned? (neg : Bool) (body : List Char) : Option Binary64 :=
  match numeral? body with
  | some d => some (ofDecimal neg d)
  | none =>
    let name := String.ofList (body.map Char.toLower)
    if name = "inf" || name = "infinity" then some (.infinite neg)
    else if name = "nan" then some .nan
    else none

theorem ofText?_eq (chars : List Char) :
    ofText? chars = ofUnsigned? (splitSign chars).1 (splitSign chars).2 := rfl

theorem numeral?_cons_eq_none {c : Char} {rest : List Char} (no_digit : c.isDigit = false)
    (no_point : c ≠ '.') : numeral? (c :: rest) = none := by
  simp [numeral?, no_digit, no_point]

theorem toLower_of_isDigit {c : Char} (digit : c.isDigit = true) : c.toLower = c := by
  rw [Char.isDigit, Bool.and_eq_true, decide_eq_true_eq, decide_eq_true_eq] at digit
  unfold Char.toLower
  refine dif_neg ?_
  rintro ⟨capital, -⟩
  exact absurd (UInt32.le_trans capital digit.2) (by decide)

/-- The name of an infinity or of no number is no numeral. -/
theorem numeral?_eq_none_of_name {body : List Char}
    (name : String.ofList (body.map Char.toLower) ∈ ["inf", "infinity", "nan"]) :
    numeral? body = none := by
  obtain ⟨c, rest, letter, others⟩ : ∃ c rest, (c = 'i' ∨ c = 'n') ∧
      body.map Char.toLower = c :: rest := by
    simp only [List.mem_cons, List.not_mem_nil, or_false] at name
    rcases name with inf | infinity | nan
    · exact ⟨'i', ['n', 'f'], .inl rfl, String.ofList_injective inf⟩
    · exact ⟨'i', "nfinity".toList, .inl rfl, String.ofList_injective infinity⟩
    · exact ⟨'n', ['a', 'n'], .inr rfl, String.ofList_injective nan⟩
  obtain ⟨first, tail, rfl, lower, -⟩ := List.map_eq_cons_iff.1 others
  refine numeral?_cons_eq_none ?_ ?_
  · rw [← Bool.not_eq_true]
    intro digit
    rw [toLower_of_isDigit digit] at lower
    subst lower
    rcases letter with rfl | rfl <;> cases digit
  · rintro rfl
    rcases letter with rfl | rfl <;> cases lower

theorem not_isFinite_ofDecimal_iff {neg : Bool} {d : Decimal} :
    (ofDecimal neg d).isFinite = false ↔ rangeEnd ≤ d.value := by
  rw [← Bool.not_eq_true, isFinite_ofDecimal_iff, not_lt]

theorem ofUnsigned?_not_finite_iff {neg : Bool} {body : List Char} :
    (∃ x, ofUnsigned? neg body = some x ∧ x.isFinite = false) ↔ SpellsNoFinite body := by
  unfold ofUnsigned? SpellsNoFinite
  cases numeral : numeral? body with
  | some d =>
    have no_name : String.ofList (body.map Char.toLower) ∉ ["inf", "infinity", "nan"] := by
      intro name
      rw [numeral?_eq_none_of_name name] at numeral
      cases numeral
    simp [no_name, not_isFinite_ofDecimal_iff]
  | none =>
    simp only [List.mem_cons, List.not_mem_nil, or_false, reduceCtorEq, false_and, exists_false,
      or_false]
    generalize String.ofList (body.map Char.toLower) = name
    by_cases infinite : name = "inf" ∨ name = "infinity"
    · rw [if_pos (by simpa using infinite)]
      exact iff_of_true ⟨_, rfl, rfl⟩ (or_assoc.1 (.inl infinite))
    by_cases nan : name = "nan"
    · rw [if_neg (by simpa using infinite), if_pos nan]
      exact iff_of_true ⟨_, rfl, rfl⟩ (.inr (.inr nan))
    · rw [if_neg (by simpa using infinite), if_neg nan, ← or_assoc]
      simp [infinite, nan]

/-- A text is read as a double that is not finite if and only if it spells none that is. -/
theorem ofText?_not_finite_iff {chars : List Char} :
    (∃ x, ofText? chars = some x ∧ x.isFinite = false) ↔ SpellsNoFinite (splitSign chars).2 := by
  rw [ofText?_eq, ofUnsigned?_not_finite_iff]

end Binary64

/-- A value counts as a double that is not finite if and only if it is a text that spells one. -/
theorem Json.coerced?_not_finite_iff {value : Json} (regular : value.isRegular = true) :
    (∃ x, value.coerced? = some x ∧ x.isFinite = false) ↔ value.SpellsNoFinite := by
  unfold SpellsNoFinite
  cases value with
  | string text => simp [coerced?, Binary64.ofText?_not_finite_iff]
  | number n => simp [coerced?, Number.isFinite_toBinary64 (n := n) regular]
  | null | bool _ | array _ | object _ => simp [coerced?]

/-! ## 2. Percentages -/

theorem Finite64.signed_eq_units {x : Finite64} (natural : 0 ≤ x.signed) : x.signed = x.units := by
  unfold signed at natural ⊢
  split
  case isTrue negative =>
    rw [if_pos negative] at natural
    omega
  case isFalse => rfl

namespace Binary64

theorem isFinite_iff {x : Binary64} : x.isFinite = true ↔ ∃ finite, x = .finite finite := by
  cases x <;> simp [isFinite]

theorem isFinite_of_sub {x y : Binary64} (finite : (x.sub y).isFinite = true) :
    x.isFinite = true ∧ y.isFinite = true := by
  cases x with
  | finite _ => cases y <;> first | exact ⟨rfl, rfl⟩ | cases finite
  | infinite a =>
    cases y with
    | infinite b =>
      rw [sub] at finite
      split at finite <;> cases finite
    | finite _ | nan => cases finite
  | nan => cases y <;> cases finite

theorem isFinite_of_div {x y : Binary64} (finite : (x.div y).isFinite = true) :
    x.isFinite = true := by
  cases x with
  | finite _ => rfl
  | infinite _ | nan => cases y <;> cases finite

theorem isFinite_of_mul {x y : Binary64} (finite : (x.mul y).isFinite = true) :
    x.isFinite = true := by
  cases x with
  | finite _ => rfl
  | infinite a =>
    cases y with
    | finite _ =>
      rw [mul] at finite
      split at finite <;> cases finite
    | infinite _ | nan => cases finite
  | nan => cases y <;> cases finite

/-- A finite percentage is that of finite numbers. -/
theorem isFinite_of_percent {total available : Binary64}
    (finite : (percent total available).isFinite = true) :
    total.isFinite = true ∧ available.isFinite = true :=
  isFinite_of_sub (isFinite_of_div (isFinite_of_mul finite))

/-- A rounded result is infinite past the limit, and else the rounded magnitude. -/
theorem ofUnits_cases (neg : Bool) (num den : Nat) :
    (limit ≤ roundUnits num den ∧ ofUnits neg num den = .infinite neg) ∨
      ∃ x : Finite64, ofUnits neg num den = .finite x ∧ x.units = roundUnits num den := by
  unfold ofUnits
  split
  case isTrue below => exact .inr ⟨_, rfl, rfl⟩
  case isFalse past => exact .inl ⟨Nat.not_lt.1 past, rfl⟩

theorem isFinite_infinite_mul {neg : Bool} {y : Finite64} :
    ((infinite neg).mul (.finite y)).isFinite = false := by
  rw [mul]
  split <;> rfl

/-- The percentage of finite numbers is finite if and only if it does not leave the range. -/
theorem isFinite_percent_iff {total available : Finite64} (positive : 0 < total.signed) :
    (percent (.finite total) (.finite available)).isFinite = true ↔
      ¬ PercentOverflows total available := by
  obtain ⟨hundred, exact_hundred, signed⟩ := ofInt_of_small (n := 100) (by decide)
  have hundred_units : hundred.units = 100 * one := by
    have magnitude := Finite64.signed_eq_units (x := hundred) (by omega)
    omega
  have total_pos : 0 < total.units := by
    have magnitude := Finite64.signed_eq_units positive.le
    omega
  rw [percent, exact_hundred, sub, PercentOverflows]
  generalize (total.signed - available.signed).natAbs = difference
  have range := @roundUnits_lt_limit_iff difference 1 Nat.one_pos
  rw [Nat.mul_one] at range
  rcases ofUnits_cases _ difference 1 with ⟨past, infinite⟩ | ⟨d, finite, units⟩
  · rw [infinite, div]
    refine iff_of_false ?_ (not_not.2 (.inl ?_))
    · rw [isFinite_infinite_mul]
      exact Bool.false_ne_true
    · exact Nat.not_lt.1 fun below => absurd (range.2 below) (Nat.not_lt.2 past)
  have near : difference < overflow := range.1 (units ▸ d.fits.1)
  rw [finite, div, if_neg total_pos.ne', units]
  rcases ofUnits_cases _ (roundUnits difference 1 * one) total.units with
    ⟨past, infinite⟩ | ⟨q, finite, units⟩
  · rw [infinite]
    refine iff_of_false ?_ (not_not.2 (.inr ?_))
    · rw [isFinite_infinite_mul]
      exact Bool.false_ne_true
    · have below := overflow_lt_limit
      omega
  · rw [finite, mul, isFinite_ofUnits_iff one_pos, hundred_units, units, ← Nat.mul_assoc,
      Nat.mul_lt_mul_right one_pos, not_or, Nat.not_le, Nat.not_le, Nat.mul_comm 100]
    exact (and_iff_right near).symm

/-- With between none and all of a total available the percentage is finite. -/
theorem isFinite_percent_of_le {total available : Finite64} (positive : 0 < total.signed)
    (some_left : 0 ≤ available.signed) (at_most : available.signed ≤ total.signed) :
    (percent (.finite total) (.finite available)).isFinite = true := by
  rw [isFinite_percent_iff positive, PercentOverflows]
  have total_units := Finite64.signed_eq_units positive.le
  have part : (total.signed - available.signed).natAbs ≤ total.units := by omega
  generalize (total.signed - available.signed).natAbs = difference at part
  have total_pos : 0 < total.units := by omega
  -- The difference is no more than the total, so the quotient is no more than one.
  have rounded : roundUnits difference 1 ≤ total.units :=
    roundUnits_le Nat.one_pos total.fits.2 (by rwa [Nat.mul_one])
  have quotient : roundUnits (roundUnits difference 1 * one) total.units ≤ one := by
    have whole := @fits_mul_one 1 (by decide)
    rw [Nat.one_mul] at whole
    refine roundUnits_le total_pos whole ?_
    rw [Nat.mul_comm one]
    exact Nat.mul_le_mul_right one rounded
  rintro (past | past)
  · have below := total.units_lt_overflow
    omega
  · have below : 100 * one < overflow := mul_one_lt_overflow (by decide)
    omega

end Binary64

/-! ## 3. Reports -/

namespace Report

/-- The first anomaly of a metric is what the search for the metric finds. -/
theorem firstAnomaly_iff {r : Report} {metric : String} {anomaly : Members} :
    r.FirstAnomaly metric anomaly ↔
      (r.anomalies.find? fun a => a.metric? == some metric) = some ⟨anomaly⟩ := by
  have metric_iff : ∀ members : Members, (members.get? "metric").bind Json.string? = some metric ↔
      members.get? "metric" = some (.string metric) := by
    intro members
    simp only [Option.bind_eq_some_iff, Json.string?_eq_some_iff, exists_eq_right]
  rw [anomalies_eq, List.find?_map]
  simp only [Option.map_eq_some_iff, List.find?_eq_some_iff_append, Function.comp_apply,
    beq_iff_eq, Anomaly.metric?, metric_iff, Anomaly.mk.injEq, exists_eq_right]
  constructor
  · rintro ⟨before, after, split, named, earlier⟩
    refine ⟨named, before, after, split, fun other inside => ?_⟩
    simpa [metric_iff] using earlier other inside
  · rintro ⟨named, before, after, split, earlier⟩
    refine ⟨before, after, split, named, fun other inside same => ?_⟩
    simpa [metric_iff, same] using earlier other inside

theorem anomalyValue?_eq_some_iff {r : Report} {metric : String} {x : Binary64} :
    r.anomalyValue? metric = some x ↔ ∃ anomaly value, r.FirstAnomaly metric anomaly ∧
      anomaly.get? "value" = some value ∧ value.coerced? = some x := by
  simp only [anomalyValue?, Anomaly.number?, Anomaly.value?, Option.bind_eq_some_iff,
    firstAnomaly_iff]
  constructor
  · rintro ⟨⟨anomaly⟩, found, value, held, counts⟩
    exact ⟨anomaly, value, found, held, counts⟩
  · rintro ⟨anomaly, value, found, held, counts⟩
    exact ⟨⟨anomaly⟩, found, value, held, counts⟩

/-- A field of a result is measured as a number that is not finite if and only if it is a text that
spells one. -/
theorem measured_not_finite_iff {result : Members} {name : String}
    (regular : (Json.object result).isRegular = true) :
    (measured result name).isFinite = false ↔
      ∃ value, (Json.object result).at? ["data", name] = some value ∧ value.SpellsNoFinite := by
  unfold measured
  cases held : (Json.object result).at? ["data", name] with
  | none => simp [Binary64.isFinite]
  | some value =>
    simp only [Option.bind_some, Option.some.injEq, exists_eq_left']
    rw [← Json.coerced?_not_finite_iff (Json.isRegular_at? regular held)]
    cases value.coerced? with
    | none => simp [Binary64.isFinite]
    | some x => simp

/-- The memory in use is not finite if one of the two fields is not, or if it leaves the range. -/
theorem usedPercent_not_finite_iff {result : Members} (has : HasMemory result) :
    (usedPercent result).isFinite = false ↔
      (measured result "total_bytes").isFinite = false ∨
      (measured result "available_bytes").isFinite = false ∨
      ∃ total available, measured result "total_bytes" = .finite total ∧
        measured result "available_bytes" = .finite available ∧
        Binary64.PercentOverflows total available := by
  have computed : usedPercent result =
      Binary64.percent (measured result "total_bytes") (measured result "available_bytes") := rfl
  rw [HasMemory, Binary64.ofInt_zero] at has
  rw [computed]
  generalize measured result "total_bytes" = total at has ⊢
  generalize measured result "available_bytes" = available
  by_cases finite : total.isFinite = true ∧ available.isFinite = true
  · obtain ⟨⟨t, rfl⟩, ⟨a, rfl⟩⟩ := finite.imp Binary64.isFinite_iff.1 Binary64.isFinite_iff.1
    have positive : 0 < t.signed := Binary64.less_finite.1 has
    rw [← Bool.not_eq_true, Binary64.isFinite_percent_iff positive, not_not]
    simp [Binary64.isFinite]
  · refine iff_of_true ?_ ?_
    · rw [← Bool.not_eq_true]
      exact fun computed => finite (Binary64.isFinite_of_percent computed)
    · rw [not_and_or, Bool.not_eq_true, Bool.not_eq_true] at finite
      exact finite.imp_right .inl

theorem FirstAnomaly.regular {r : Report} {metric : String} {anomaly : Members}
    (first : r.FirstAnomaly metric anomaly) : (Json.object anomaly).isRegular = true := by
  obtain ⟨before, after, split, -, -⟩ := first
  have listed : anomaly ∈ r.root.objectsAt ["summary", "anomalies"] := by
    rw [split]
    exact List.mem_append_right before List.mem_cons_self
  exact Json.isRegular_of_mem_objectsAt r.regular listed

theorem LastMemory.regular {r : Report} {result : Members} (last : r.LastMemory result) :
    (Json.object result).isRegular = true := by
  obtain ⟨before, after, split, -, -⟩ := last
  have listed : result ∈ r.root.objectsAt ["categories", "memory"] := by
    rw [split]
    exact List.mem_append_right before List.mem_cons_self
  exact Json.isRegular_of_mem_objectsAt r.regular listed

theorem LastMemory.hasMemory {r : Report} {result : Members} (last : r.LastMemory result) :
    HasMemory result := by
  obtain ⟨-, -, -, has, -⟩ := last
  exact has

/-- The memory in use by the last result that counts is not finite if and only if one of its fields
spells no finite double, or the computation leaves the range. -/
theorem LastMemory.not_finite_iff {r : Report} {result : Members} (last : r.LastMemory result) :
    (usedPercent result).isFinite = false ↔
      (∃ name ∈ ["total_bytes", "available_bytes"], ∃ value,
        (Json.object result).at? ["data", name] = some value ∧ value.SpellsNoFinite) ∨
      ∃ total available, measured result "total_bytes" = .finite total ∧
        measured result "available_bytes" = .finite available ∧
        Binary64.PercentOverflows total available := by
  rw [usedPercent_not_finite_iff last.hasMemory, measured_not_finite_iff last.regular,
    measured_not_finite_iff last.regular, ← or_assoc]
  simp

/-- Which numbers are not finite. The value of a metric is not if and only if the value of its first
anomaly is a text that spells no finite double. The memory in use is not if and only if one of the
fields that it is computed from is such a text, or the computation leaves the range. -/
theorem numbers_not_finite_iff (r : Report) :
    (∀ metric, (∃ x, r.anomalyValue? metric = some x ∧ x.isFinite = false) ↔
      ∃ anomaly value, r.FirstAnomaly metric anomaly ∧ anomaly.get? "value" = some value ∧
        value.SpellsNoFinite) ∧
    ((∃ x, r.memoryUsedPercent? = some x ∧ x.isFinite = false) ↔
      ∃ result, r.LastMemory result ∧
        ((∃ name ∈ ["total_bytes", "available_bytes"], ∃ value,
            (Json.object result).at? ["data", name] = some value ∧ value.SpellsNoFinite) ∨
          ∃ total available, measured result "total_bytes" = .finite total ∧
            measured result "available_bytes" = .finite available ∧
            Binary64.PercentOverflows total available)) := by
  refine ⟨fun metric => ?_, ?_⟩
  · simp only [anomalyValue?_eq_some_iff]
    constructor
    · rintro ⟨x, ⟨anomaly, value, first, held, counts⟩, infinite⟩
      have regular := Json.isRegular_of_mem first.regular (Members.mem_of_get? held)
      exact ⟨anomaly, value, first, held,
        (Json.coerced?_not_finite_iff regular).1 ⟨x, counts, infinite⟩⟩
    · rintro ⟨anomaly, value, first, held, spells⟩
      have regular := Json.isRegular_of_mem first.regular (Members.mem_of_get? held)
      obtain ⟨x, counts, infinite⟩ := (Json.coerced?_not_finite_iff regular).2 spells
      exact ⟨x, ⟨anomaly, value, first, held, counts⟩, infinite⟩
  · simp only [memoryUsedPercent?_eq_some_iff]
    constructor
    · rintro ⟨_, ⟨result, last, rfl⟩, infinite⟩
      exact ⟨result, last, last.not_finite_iff.1 infinite⟩
    · rintro ⟨result, last, spells⟩
      exact ⟨_, ⟨result, last, rfl⟩, last.not_finite_iff.2 spells⟩

/-- A report with an anomaly whose value is no number, and with an infinite total of memory. -/
def withoutNumbers : Report :=
  ⟨.object [
    ("categories", .object [("memory", .array [
      .object [("data", .object [("total_bytes", .string " Infinity ")])]])]),
    ("summary", .object [("anomalies", .array [
      .object [("metric", .string "load_average"), ("value", .string "nan")]])])], by decide⟩

/-- Neither of the two is absent: both are no number. -/
theorem withoutNumbers_not_finite :
    (∃ x, withoutNumbers.anomalyValue? "load_average" = some x ∧ x.isFinite = false) ∧
      ∃ x, withoutNumbers.memoryUsedPercent? = some x ∧ x.isFinite = false :=
  ⟨⟨.nan, by decide +kernel, rfl⟩, ⟨.nan, by decide +kernel, rfl⟩⟩

end Report

end HealthReport
