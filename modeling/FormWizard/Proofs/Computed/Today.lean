import FormWizard.Proofs.Calendar.Reading
import FormWizard.Proofs.Computed.Evaluation

/-! Today as expressions see it. The text that a formula gets for the day or for the time is a date
to the formula again, and it is that very day.
-/

namespace FormWizard.Computed

open Calendar (Date Instant secondsPerDay)
open FormWizard.Expr (Scope)

/-- The functions that tell the parts of a date. -/
def dateParts : List (String × (Date → Int)) :=
  [("year", Date.year), ("month", Date.month), ("day", Date.day)]

/-- The functions that tell the time. -/
def timeSources : List String :=
  ["today", "now"]

variable {name source : String} {part : Date → Int}

theorem find?_datePart (member : (name, part) ∈ dateParts) (now : Instant)
    : Expr.Builtin.find? now name
      = some fun args => (Expr.Builtin.date name args).map fun date => .ofInt (part date) := by
  simp only [dateParts, List.mem_cons, Prod.mk.injEq, List.not_mem_nil, or_false] at member
  rcases member with ⟨rfl, rfl⟩ | ⟨rfl, rfl⟩ | ⟨rfl, rfl⟩ <;> rfl

/-- The tokens of a call inside a call, with their places. -/
def nestedCall (name source : String) : List Expr.Lexed :=
  let opening := name.length
  let closing := name.length + source.length + 2
  [⟨.ident name, 0⟩, ⟨.symbol .openParen, opening⟩, ⟨.ident source, opening + 1⟩,
    ⟨.symbol .openParen, closing - 1⟩, ⟨.symbol .closeParen, closing⟩,
    ⟨.symbol .closeParen, closing + 1⟩]

theorem lex_datePart
    : ∀ name ∈ dateParts.map Prod.fst, ∀ source ∈ timeSources,
        (Expr.lex (name ++ "(" ++ source ++ "())")).toOption = some (nestedCall name source) := by
  decide +kernel

theorem parse_datePart (member : (name, part) ∈ dateParts) (tells : source ∈ timeSources)
    : Expr.parse (name ++ "(" ++ source ++ "())") = .ok (.call name [.call source []]) := by
  have tokens := lex_datePart name (List.mem_map_of_mem member) source tells
  rw [Expr.parse]
  cases lexed : Expr.lex (name ++ "(" ++ source ++ "())") with
  | error error =>
      rw [lexed] at tokens
      cases tokens
  | ok found =>
      rw [lexed] at tokens
      obtain rfl : found = nestedCall name source := Option.some.inj tokens
      simp only [dateParts, List.mem_cons, Prod.mk.injEq, List.not_mem_nil, or_false] at member
      simp only [timeSources, List.mem_cons, List.not_mem_nil, or_false] at tells
      rcases member with ⟨rfl, -⟩ | ⟨rfl, -⟩ | ⟨rfl, -⟩ <;> rcases tells with rfl | rfl <;> rfl

/-- None of the functions that tell the time or a part of it is replaced by the host. -/
def TellsTime (functions : Table Expr.HostFunction) : Prop :=
  ∀ name ∈ timeSources ++ dateParts.map Prod.fst, Table.find? name functions = none

/-- A call tells a part of the date of the instant that its argument is read as. -/
theorem call_datePart {scope : Scope} (plain : TellsTime scope.functions)
    (member : (name, part) ∈ dateParts) {value : Json} {read : Instant}
    (isRead : Instant.ofJson? value = some read)
    : scope.call name [value] = .ok (.ofInt (part read.date)) := by
  have free : Table.find? name scope.functions = none :=
    plain name (List.mem_append_right _ (List.mem_map_of_mem member))
  have date : Expr.Builtin.date name [value] = .ok read.date := by
    rw [Expr.Builtin.date, Expr.Builtin.first, List.head?_cons, Option.getD_some, isRead]
  simp only [Scope.call, free, find?_datePart member, date]
  rfl

/-- What the functions that tell the time are read as: the midnight of the day, or what the time is
written as, which can be read if its year has four digits.
-/
theorem call_timeSource {scope : Scope} (plain : TellsTime scope.functions)
    (represented : scope.now.isRepresented = true) (tells : source ∈ timeSources)
    (readable : source = "now" → 0 ≤ scope.now.date.year ∧ scope.now.date.year ≤ 9999)
    : ∃ value read, scope.call source [] = .ok value ∧ Instant.ofJson? value = some read
        ∧ read.date = scope.now.date := by
  have free : Table.find? source scope.functions = none :=
    plain source (List.mem_append_left _ tells)
  simp only [timeSources, List.mem_cons, List.not_mem_nil, or_false] at tells
  rw [Scope.call, free]
  rcases tells with rfl | rfl
  · exact ⟨_, _, rfl, Instant.ofJson?_date_text represented, rfl⟩
  · exact ⟨_, _, rfl, Instant.ofJson?_text represented (readable rfl),
      Instant.date_asWritten scope.now⟩

theorem eval_datePart (scope : Scope) (plain : TellsTime scope.functions)
    (represented : scope.now.isRepresented = true) (member : (name, part) ∈ dateParts)
    (tells : source ∈ timeSources)
    (readable : source = "now" → 0 ≤ scope.now.date.year ∧ scope.now.date.year ≤ 9999)
    : Expr.eval scope (.call name [.call source []]) = .ok (.ofInt (part scope.now.date)) := by
  obtain ⟨value, read, told, isRead, sameDay⟩ := call_timeSource plain represented tells readable
  have inner : Expr.evalAll scope [.call source []] = .ok [value] := by
    simp only [Expr.evalAll, Expr.eval, bind, Except.bind, pure, Except.pure, told]
  rw [Expr.eval, inner, ← sameDay]
  exact call_datePart plain member isRead

theorem compute_datePart {engine : Engine} {field : Field} (clock : Instant) (data : Json)
    (plain : TellsTime engine.functions) (unrounded : field.round = none)
    (represented : (engine.time clock).isRepresented = true) (member : (name, part) ∈ dateParts)
    (tells : source ∈ timeSources)
    (readable : source = "now" →
      0 ≤ (engine.time clock).date.year ∧ (engine.time clock).date.year ≤ 9999)
    (expr : field.expr = name ++ "(" ++ source ++ "())")
    : (engine.compute clock field data).1 = .ok (.ofInt (part (engine.time clock).date)) := by
  have value := eval_datePart
    ⟨Engine.bindings field.sources data, data, engine.user, engine.functions, engine.time clock⟩
    plain represented member tells readable
  simp only [Engine.compute_fst, Setting.compute, expr, parse_datePart member tells,
    Setting.valueOf, Engine.setting, unrounded, value]
  rfl

/-- The days that are printed are read as the same days. The text of the day of any instant is read
as the midnight of that day, and the day is the one that the calendar counts. So while the clock is
pinned at an instant, the functions that tell a part of a date tell that of its day from the text of
today, and from the text of the time too if the year has four digits.
-/
theorem printed_days_read_back {instant : Instant} (represented : instant.isRepresented = true)
    : Date.Counts instant.dayNumber instant.date
      ∧ Instant.ofJson? (.string instant.date.text) = some (.midnight instant.dayNumber)
      ∧ ∀ (engine : Engine) (field : Field) (clock : Instant) (data : Json),
          engine.now = some instant → TellsTime engine.functions → field.round = none →
            ∀ name part, (name, part) ∈ dateParts →
              (field.expr = name ++ "(today())" →
                (engine.compute clock field data).1 = .ok (.ofInt (part instant.date)))
              ∧ (0 ≤ instant.date.year ∧ instant.date.year ≤ 9999 →
                  field.expr = name ++ "(now())" →
                    (engine.compute clock field data).1 = .ok (.ofInt (part instant.date))) := by
  refine ⟨Date.counts_iff.mpr rfl, Instant.ofJson?_date_text represented, ?_⟩
  intro engine field clock data pinned plain unrounded name part member
  have time : engine.time clock = instant := by rw [Engine.time, pinned, Option.getD_some]
  have computed (source : String) (tells : source ∈ timeSources)
      (readable : source = "now" → 0 ≤ instant.date.year ∧ instant.date.year ≤ 9999)
      (expr : field.expr = name ++ ("(" ++ (source ++ "())")))
      : (engine.compute clock field data).1 = .ok (.ofInt (part instant.date)) := by
    rw [← String.append_assoc, ← String.append_assoc] at expr
    subst time
    exact compute_datePart clock data plain unrounded represented member tells readable expr
  constructor
  · exact fun expr => computed "today" (by decide) (fun isNow => absurd isNow (by decide)) expr
  · exact fun fourDigits expr => computed "now" (by decide) (fun _ => fourDigits) expr

/-- Half a second into a leap second after the given second of a day, which need not end a minute.
-/
def leapSecond (dayNumber : Int) (second : Nat) (inDay : second < secondsPerDay := by decide)
    : Instant :=
  ⟨dayNumber, second, 1500000000, inDay, by decide⟩

theorem days_of_leap_seconds
    : (leapSecond (-3594) 30).isRepresented = true
      ∧ (leapSecond (-735540) 86399).isRepresented = true
      ∧ (Engine.compute default { path := "d", expr := "day(now())", dependsOn := [] } .null
          { now := some (leapSecond (-3594) 30) }).1
        = .ok (.ofInt 29)
      ∧ Date.Counts (-735540) ⟨-44, 2, 29⟩
      ∧ Instant.ofJson? (.string "-0044-02-29") = some (.midnight (-735540))
      ∧ (Engine.compute default { path := "y", expr := "year(today())", dependsOn := [] } .null
          { now := some (leapSecond (-735540) 86399) }).1
        = .ok (.ofInt (-44)) := by
  have modern : (leapSecond (-3594) 30).isRepresented = true := by decide
  have ancient : (leapSecond (-735540) 86399).isRepresented = true := by decide
  have plain : TellsTime [] := fun _ _ => rfl
  obtain ⟨-, -, dated⟩ := printed_days_read_back modern
  obtain ⟨counts, read, datedBefore⟩ := printed_days_read_back ancient
  have dayOf := dated { now := some (leapSecond (-3594) 30) }
    { path := "d", expr := "day(now())", dependsOn := [] } default .null rfl plain rfl "day"
    Date.day (by simp [dateParts])
  have yearOf := datedBefore { now := some (leapSecond (-735540) 86399) }
    { path := "y", expr := "year(today())", dependsOn := [] } default .null rfl plain rfl "year"
    Date.year (by simp [dateParts])
  exact ⟨modern, ancient, dayOf.2 (by decide) rfl, counts, read, yearOf.1 rfl⟩

end FormWizard.Computed
