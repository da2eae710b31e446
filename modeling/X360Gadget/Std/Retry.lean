/-!
# Loops that retry some errors

A loop meets one result after another, uses the successes it accepts and ends at
the first error it does not retry. Given which errors are transient,
`untilFatal_eq_iff` says exactly which sequences of results a loop that retries
fewer errors still uses up to the first error that is not transient.
-/

namespace X360Gadget.Std

universe u v w

variable {Error : Type u} {Value : Type v} {Used : Type w}

/-- What a loop uses of its results: the accepted successes up to the first error
it does not retry. -/
def untilFatal (accept : Value → Option Used) (retries : Error → Bool) :
    List (Except Error Value) → List Used
  | [] => []
  | .ok value :: rest => (accept value).toList ++ untilFatal accept retries rest
  | .error error :: rest => if retries error then untilFatal accept retries rest else []

/-- An accepted success has only transient errors before it. -/
def Reached (accept : Value → Option Used) (transient : Error → Bool)
    (results : List (Except Error Value)) : Prop :=
  ∃ earlier value later, results = earlier ++ .ok value :: later ∧ (accept value).isSome ∧
    ∀ error, .error error ∈ earlier → transient error

/-- The first error that is not retried is transient, and an accepted success
follows it before any error that is not. -/
def Lost (accept : Value → Option Used) (retries transient : Error → Bool)
    (results : List (Except Error Value)) : Prop :=
  ∃ earlier error later, results = earlier ++ .error error :: later ∧
    (∀ error, .error error ∈ earlier → retries error) ∧ ¬retries error ∧ transient error ∧
      Reached accept transient later

section Cons

variable {accept : Value → Option Used} {retries transient : Error → Bool} {value : Value}
  {error : Error} {rest : List (Except Error Value)}

/-- Among no results none is reached. -/
theorem not_reached_nil : ¬Reached accept transient ([] : List (Except Error Value)) := by
  rintro ⟨earlier, value, later, shape, -⟩
  simp at shape

/-- A success is reached where it is accepted, or a later one is. -/
theorem reached_ok : Reached accept transient (.ok value :: rest) ↔
    (accept value).isSome ∨ Reached accept transient rest := by
  constructor
  · rintro ⟨earlier, found, later, shape, accepted, passed⟩
    cases earlier with
    | nil =>
        cases shape
        exact .inl accepted
    | cons head earlier =>
        cases shape
        exact .inr ⟨earlier, found, later, rfl, accepted,
          fun error member => passed error (List.mem_cons_of_mem _ member)⟩
  · rintro (accepted | ⟨earlier, found, later, rfl, accepted, passed⟩)
    · exact ⟨[], value, rest, rfl, accepted, fun error member => by cases member⟩
    · refine ⟨.ok value :: earlier, found, later, rfl, accepted, ?_⟩
      intro error member
      cases member with
      | tail _ member => exact passed error member

/-- Only a transient error leaves what comes later in reach. -/
theorem reached_error : Reached accept transient (.error error :: rest) ↔
    transient error ∧ Reached accept transient rest := by
  constructor
  · rintro ⟨earlier, found, later, shape, accepted, passed⟩
    cases earlier with
    | nil => cases shape
    | cons head earlier =>
        cases shape
        exact ⟨passed error List.mem_cons_self, earlier, found, later, rfl, accepted,
          fun error member => passed error (List.mem_cons_of_mem _ member)⟩
  · rintro ⟨isTransient, earlier, found, later, rfl, accepted, passed⟩
    refine ⟨.error error :: earlier, found, later, rfl, accepted, ?_⟩
    intro other member
    cases member with
    | head => exact isTransient
    | tail _ member => exact passed other member

/-- Among no results none is lost. -/
theorem not_lost_nil : ¬Lost accept retries transient ([] : List (Except Error Value)) := by
  rintro ⟨earlier, error, later, shape, -⟩
  simp at shape

/-- A success is not lost; what comes later can be. -/
theorem lost_ok : Lost accept retries transient (.ok value :: rest) ↔
    Lost accept retries transient rest := by
  constructor
  · rintro ⟨earlier, error, later, shape, passed, lost⟩
    cases earlier with
    | nil => cases shape
    | cons head earlier =>
        cases shape
        exact ⟨earlier, error, later, rfl,
          fun other member => passed other (List.mem_cons_of_mem _ member), lost⟩
  · rintro ⟨earlier, error, later, rfl, passed, lost⟩
    refine ⟨.ok value :: earlier, error, later, rfl, ?_, lost⟩
    intro other member
    cases member with
    | tail _ member => exact passed other member

/-- A transient error that is not retried loses what comes later. -/
theorem lost_error : Lost accept retries transient (.error error :: rest) ↔
    if retries error then Lost accept retries transient rest
    else transient error ∧ Reached accept transient rest := by
  constructor
  · rintro ⟨earlier, found, later, shape, passed, fatal, isTransient, reached⟩
    cases earlier with
    | nil =>
        cases shape
        rw [if_neg fatal]
        exact ⟨isTransient, reached⟩
    | cons head earlier =>
        cases shape
        rw [if_pos (passed error List.mem_cons_self)]
        exact ⟨earlier, found, later, rfl,
          fun other member => passed other (List.mem_cons_of_mem _ member), fatal, isTransient,
          reached⟩
  · by_cases retried : retries error
    · rw [if_pos retried]
      rintro ⟨earlier, found, later, rfl, passed, lost⟩
      refine ⟨.error error :: earlier, found, later, rfl, ?_, lost⟩
      intro other member
      cases member with
      | head => exact retried
      | tail _ member => exact passed other member
    · rw [if_neg retried]
      rintro ⟨isTransient, reached⟩
      exact ⟨[], error, rest, rfl, fun _ member => absurd member List.not_mem_nil, retried,
        isTransient, reached⟩

end Cons

section Exact

variable {accept : Value → Option Used} {retries transient : Error → Bool}
  {results : List (Except Error Value)}

/-- A loop that retries every transient error uses nothing exactly when no
success is reached. -/
theorem untilFatal_eq_nil_iff :
    untilFatal accept transient results = [] ↔ ¬Reached accept transient results := by
  induction results with
  | nil => simp [untilFatal, not_reached_nil]
  | cons result rest ih =>
      cases result with
      | ok value => cases parsed : accept value <;> simp [untilFatal, reached_ok, ih, parsed]
      | error error =>
          cases isTransient : transient error <;> simp [untilFatal, reached_error, ih, isTransient]

/-- A loop that retries fewer errors uses the same successes exactly when none is
lost. -/
theorem untilFatal_eq_iff (fewer : ∀ error, retries error → transient error) :
    untilFatal accept retries results = untilFatal accept transient results ↔
      ¬Lost accept retries transient results := by
  induction results with
  | nil => simp [untilFatal, not_lost_nil]
  | cons result rest ih =>
      cases result with
      | ok value => simp only [untilFatal, List.append_cancel_left_eq, lost_ok, ih]
      | error error =>
          by_cases retried : retries error
          · simp only [untilFatal, retried, fewer error retried, lost_error, if_true, ih]
          · by_cases isTransient : transient error
            · simp only [untilFatal, retried, isTransient, lost_error, Bool.false_eq_true, if_true,
                if_false, true_and]
              rw [eq_comm, untilFatal_eq_nil_iff]
            · simp [untilFatal, retried, isTransient, lost_error]

end Exact

end X360Gadget.Std
