import TypeGauge.Fault
import Mathlib.Data.List.Basic
import Mathlib.Data.List.Perm.Basic

/-!
# Outcomes of computations that may fail

Building, scoring and checking all update a state and may fail, and the state is
kept either way.  The outcome of such a computation is its result together with
the state that it leaves.  The lemmas here say what the outcome of each primitive
step is, and take apart an outcome that is not a fault: a sequence of steps ends
well exactly when each step does, in the state that the one before it leaves.
-/

namespace TypeGauge

variable {ε σ τ β γ δ δ' : Type}

/-- The result of a computation that starts in a state, and the state that it leaves. -/
def outcome (computation : ExceptT ε (StateM σ) β) (state : σ) : Except ε β × σ :=
  computation.run state

/-- One step and then the next, as far as the first one comes. -/
theorem outcome_bind
    (first : ExceptT ε (StateM σ) β) (next : β → ExceptT ε (StateM σ) γ) (state : σ) :
    outcome (first >>= next) state =
      match outcome first state with
      | (.ok value, after) => outcome (next value) after
      | (.error fault, after) => (.error fault, after) := by
  have unfolded :
      outcome (first >>= next) state =
        ExceptT.bindCont next (outcome first state).1 (outcome first state).2 :=
    rfl
  rw [unfolded]
  rcases outcome first state with ⟨result, after⟩
  cases result with
  | ok value => rfl
  | error fault => rfl

@[simp]
theorem outcome_pure (value : β) (state : σ) :
    outcome (pure value : ExceptT ε (StateM σ) β) state = (.ok value, state) :=
  rfl

@[simp]
theorem outcome_throw (fault : ε) (state : σ) :
    outcome (throw fault : ExceptT ε (StateM σ) β) state = (.error fault, state) :=
  rfl

@[simp]
theorem outcome_get (state : σ) :
    outcome (get : ExceptT ε (StateM σ) σ) state = (.ok state, state) :=
  rfl

@[simp]
theorem outcome_set (new state : σ) :
    outcome (set new : ExceptT ε (StateM σ) PUnit) state = (.ok ⟨⟩, new) :=
  rfl

@[simp]
theorem outcome_modify (change : σ → σ) (state : σ) :
    outcome (modify change : ExceptT ε (StateM σ) PUnit) state = (.ok ⟨⟩, change state) :=
  rfl

@[simp]
theorem outcome_liftM (result : Except ε β) (state : σ) :
    outcome (liftM result : ExceptT ε (StateM σ) β) state = (result, state) := by
  cases result with
  | ok value => rfl
  | error fault => rfl

theorem outcome_map
    (change : β → γ) (first : ExceptT ε (StateM σ) β) (state : σ) :
    outcome (change <$> first) state =
      ((outcome first state).1.map change, (outcome first state).2) := by
  rw [← bind_pure_comp, outcome_bind]
  rcases outcome first state with ⟨result, after⟩
  cases result with
  | ok value => rfl
  | error fault => rfl

/-- A sequence of two steps ends well exactly when both steps do. -/
theorem outcome_bind_eq_ok_iff
    {first : ExceptT ε (StateM σ) β} {next : β → ExceptT ε (StateM σ) γ}
    {state final : σ} {answer : γ} :
    outcome (first >>= next) state = (.ok answer, final) ↔
      ∃ value after,
        outcome first state = (.ok value, after) ∧
          outcome (next value) after = (.ok answer, final) := by
  rw [outcome_bind]
  constructor
  · intro run
    rcases ran : outcome first state with ⟨result, after⟩
    rw [ran] at run
    cases result with
    | ok value => exact ⟨value, after, rfl, run⟩
    | error fault => simp at run
  · rintro ⟨value, after, ran, run⟩
    rw [ran]
    exact run

/-- A list of steps ends well exactly when the first does and then the others do. -/
theorem outcome_mapM_cons_eq_ok_iff
    {step : β → ExceptT ε (StateM σ) γ} {head : β} {rest : List β}
    {state final : σ} {answers : List γ} :
    outcome ((head :: rest).mapM step) state = (.ok answers, final) ↔
      ∃ first after others,
        outcome (step head) state = (.ok first, after) ∧
          outcome (rest.mapM step) after = (.ok others, final) ∧
            answers = first :: others := by
  rw [List.mapM_cons, outcome_bind_eq_ok_iff]
  constructor
  · rintro ⟨first, after, ran, continued⟩
    rcases outcome_bind_eq_ok_iff.mp continued with ⟨others, last, restRan, ended⟩
    simp only [outcome_pure, Prod.mk.injEq, Except.ok.injEq] at ended
    rcases ended with ⟨rfl, rfl⟩
    exact ⟨first, after, others, ran, restRan, rfl⟩
  · rintro ⟨first, after, others, ran, restRan, rfl⟩
    exact
      ⟨first, after, ran,
        outcome_bind_eq_ok_iff.mpr ⟨others, final, restRan, rfl⟩⟩

/-- Every answer of a list of steps that ends well comes from a step that ends well. -/
theorem exists_step_of_mem_answers
    {step : β → ExceptT ε (StateM σ) γ} {items : List β}
    {state final : σ} {answers : List γ}
    (ran : outcome (items.mapM step) state = (.ok answers, final))
    {answer : γ} (member : answer ∈ answers) :
    ∃ item ∈ items, ∃ before after, outcome (step item) before = (.ok answer, after) := by
  induction items generalizing state answers with
  | nil =>
      simp only [List.mapM_nil, outcome_pure, Prod.mk.injEq, Except.ok.injEq] at ran
      simp [← ran.1] at member
  | cons head rest hypothesis =>
      rcases outcome_mapM_cons_eq_ok_iff.mp ran with
        ⟨first, between, others, headRan, restRan, rfl⟩
      rcases List.mem_cons.mp member with rfl | later
      · exact ⟨head, List.mem_cons_self, state, between, headRan⟩
      · rcases hypothesis restRan later with ⟨item, itemMember, found⟩
        exact ⟨item, List.mem_cons_of_mem _ itemMember, found⟩

/-- A list of steps of which one fails in every state fails. -/
theorem exists_fault_of_mem_items
    {step : β → ExceptT ε (StateM σ) γ} {items : List β} {item : β} (member : item ∈ items)
    (failing : ∀ state, ∃ fault, (outcome (step item) state).1 = .error fault) (state : σ) :
    ∃ fault, (outcome (items.mapM step) state).1 = .error fault := by
  induction items generalizing state with
  | nil => cases member
  | cons head rest hypothesis =>
      rcases ran : outcome ((head :: rest).mapM step) state with ⟨result, final⟩
      cases result with
      | error fault => exact ⟨fault, rfl⟩
      | ok answers =>
          rcases outcome_mapM_cons_eq_ok_iff.mp ran with ⟨_, between, _, headRan, restRan, _⟩
          rcases List.mem_cons.mp member with rfl | later
          · rcases failing state with ⟨fault, failed⟩
            rw [headRan] at failed
            cases failed
          · rcases hypothesis later between with ⟨fault, failed⟩
            rw [restRan] at failed
            cases failed

/-- A list of steps fails exactly when the first does, or it does not and then the others do. -/
theorem outcome_mapM_cons_eq_error_iff
    {step : β → ExceptT ε (StateM σ) γ} {head : β} {rest : List β}
    {state final : σ} {fault : ε} :
    outcome ((head :: rest).mapM step) state = (.error fault, final) ↔
      outcome (step head) state = (.error fault, final) ∨
        ∃ first after,
          outcome (step head) state = (.ok first, after) ∧
            outcome (rest.mapM step) after = (.error fault, final) := by
  rw [List.mapM_cons, outcome_bind]
  rcases ran : outcome (step head) state with ⟨result, after⟩
  cases result with
  | error other => simp
  | ok first =>
      simp only [outcome_bind]
      rcases restRan : outcome (rest.mapM step) after with ⟨others, last⟩
      cases others with
      | error other => simp [restRan]
      | ok answered => simp [restRan]

/-- What two steps keep, whether they fail or not, their sequence keeps. -/
theorem outcome_bind_keeps
    (kept : σ → Prop) {first : ExceptT ε (StateM σ) β} {next : β → ExceptT ε (StateM σ) γ}
    {state : σ} (afterFirst : kept (outcome first state).2)
    (afterNext : ∀ value state, kept state → kept (outcome (next value) state).2) :
    kept (outcome (first >>= next) state).2 := by
  rw [outcome_bind]
  rcases ran : outcome first state with ⟨result, after⟩
  rw [ran] at afterFirst
  cases result with
  | error fault => exact afterFirst
  | ok value => exact afterNext value after afterFirst

/-- What each step keeps, whether it fails or not, a list of steps keeps. -/
theorem outcome_mapM_keeps
    (kept : σ → Prop) {step : β → ExceptT ε (StateM σ) γ} {items : List β}
    (single : ∀ item ∈ items, ∀ state, kept state → kept (outcome (step item) state).2)
    {state : σ} (before : kept state) :
    kept (outcome (items.mapM step) state).2 := by
  induction items generalizing state with
  | nil => exact before
  | cons head rest hypothesis =>
      rw [List.forall_mem_cons] at single
      rw [List.mapM_cons]
      apply outcome_bind_keeps kept (single.1 state before)
      intro _ between keptBetween
      exact outcome_bind_keeps kept (hypothesis single.2 keptBetween)
        fun _ _ keptAfter => keptAfter

/-! ## Without a state -/

theorem bind_eq_ok_iff {value : Except ε β} {next : β → Except ε γ} {answer : γ} :
    value >>= next = .ok answer ↔ ∃ found, value = .ok found ∧ next found = .ok answer := by
  cases value with
  | error fault => simp [bind, Except.bind]
  | ok found => simp [bind, Except.bind]

theorem bind_eq_error_iff {value : Except ε β} {next : β → Except ε γ} {fault : ε} :
    value >>= next = .error fault ↔
      value = .error fault ∨ ∃ found, value = .ok found ∧ next found = .error fault := by
  cases value with
  | error other => simp [bind, Except.bind]
  | ok found => simp [bind, Except.bind]

theorem map_eq_ok_iff {value : Except ε β} {change : β → γ} {answer : γ} :
    value.map change = .ok answer ↔ ∃ found, value = .ok found ∧ change found = answer := by
  cases value with
  | error fault => simp [Except.map]
  | ok found => simp [Except.map]

theorem map_eq_error_iff {value : Except ε β} {change : β → γ} {fault : ε} :
    value.map change = .error fault ↔ value = .error fault := by
  cases value with
  | error other => simp [Except.map]
  | ok found => simp [Except.map]

theorem mapError_eq_ok_iff {value : Except ε β} {change : ε → γ} {answer : β} :
    value.mapError change = .ok answer ↔ value = .ok answer := by
  cases value with
  | error fault => simp [Except.mapError]
  | ok found => simp [Except.mapError]

/-- Steps over two lists end well exactly when the steps over each of them do. -/
theorem mapM_append_eq_ok_iff
    {step : β → Except ε γ} {items others : List β} {answers : List γ} :
    (items ++ others).mapM step = .ok answers ↔
      ∃ first second, items.mapM step = .ok first ∧ others.mapM step = .ok second ∧
        answers = first ++ second := by
  simp only [List.mapM_append, bind_eq_ok_iff, pure, Except.pure, Except.ok.injEq]
  constructor
  · rintro ⟨first, ran, second, othersRan, rfl⟩
    exact ⟨first, second, ran, othersRan, rfl⟩
  · rintro ⟨first, second, ran, othersRan, rfl⟩
    exact ⟨first, ran, second, othersRan, rfl⟩

theorem exists_answer_of_toBool
    {result : Except ε β × σ} (ended : result.1.toBool = true) :
    ∃ answer after, result = (.ok answer, after) := by
  rcases result with ⟨_ | answer, after⟩
  · cases ended
  · exact ⟨answer, after, rfl⟩

theorem exists_ok_of_any {result : Except ε β} {condition : β → Bool}
    (ended : result.toOption.any condition = true) :
    ∃ answer, result = .ok answer ∧ condition answer = true := by
  cases result with
  | error fault => cases ended
  | ok answer => exact ⟨answer, rfl, ended⟩

/-- A list of steps that ends well has an answer for each of its items. -/
theorem forall₂_of_mapM_eq_ok {step : β → Except ε γ} {items : List β} {answers : List γ}
    (ran : items.mapM step = .ok answers) :
    List.Forall₂ (fun item answer => step item = .ok answer) items answers := by
  induction items generalizing answers with
  | nil =>
      cases ran
      exact .nil
  | cons item rest hypothesis =>
      rw [List.mapM_cons, bind_eq_ok_iff] at ran
      rcases ran with ⟨first, stepped, continued⟩
      rw [bind_eq_ok_iff] at continued
      rcases continued with ⟨others, restRan, ended⟩
      cases ended
      exact .cons stepped (hypothesis restRan)

/-- Every member of the second of two related lists is related to some member of the first. -/
theorem exists_related_of_mem {related : β → γ → Prop} {items : List β} {answers : List γ}
    (pairs : List.Forall₂ related items answers) {answer : γ} (member : answer ∈ answers) :
    ∃ item ∈ items, related item answer := by
  induction pairs with
  | nil => cases member
  | cons first _ hypothesis =>
      rcases List.mem_cons.mp member with rfl | later
      · exact ⟨_, List.mem_cons_self, first⟩
      · rcases hypothesis later with ⟨item, itemMember, found⟩
        exact ⟨item, List.mem_cons_of_mem _ itemMember, found⟩

theorem mapM_eq_ok_of_forall₂ {step : β → Except ε γ} {items : List β} {answers : List γ}
    (stepped : List.Forall₂ (fun item answer => step item = .ok answer) items answers) :
    items.mapM step = .ok answers := by
  induction stepped with
  | nil => rfl
  | cons first _ hypothesis =>
      rw [List.mapM_cons, first, hypothesis]
      rfl

/-- Changing the answer of each step changes the answers of the list of steps. -/
theorem mapM_map_answers (step : β → Except ε γ) (change : γ → δ) (items : List β) :
    (items.mapM fun item => (step item).map change) =
      (items.mapM step).map (List.map change) := by
  induction items with
  | nil => rfl
  | cons item rest hypothesis =>
      rw [List.mapM_cons, List.mapM_cons, hypothesis]
      cases step item with
      | error fault => rfl
      | ok first =>
          cases rest.mapM step with
          | error fault => rfl
          | ok others => rfl

section Lawful

variable {m : Type → Type} [Monad m] [LawfulMonad m]

/-- Steps that do not tell items from changed ones do not tell lists of them apart. -/
theorem mapM_map_of_forall
    {step : β → m γ} {change : β → β} {items : List β}
    (same : ∀ item ∈ items, step (change item) = step item) :
    (items.map change).mapM step = items.mapM step := by
  induction items with
  | nil => rfl
  | cons item rest hypothesis =>
      rw [List.forall_mem_cons] at same
      rw [List.map_cons, List.mapM_cons, List.mapM_cons, same.1, hypothesis same.2]

/-- A list of steps whose answers are changed has the changed answers. -/
theorem mapM_map_eq (change : γ → δ) (step : β → m γ) (items : List β) :
    (items.mapM fun item => change <$> step item) = List.map change <$> items.mapM step := by
  induction items with
  | nil => simp
  | cons item rest hypothesis =>
      rw [List.mapM_cons, List.mapM_cons, hypothesis]
      simp

end Lawful

theorem exists_answer_of_mem_items {step : β → Except ε γ} {items : List β} {answers : List γ}
    (ran : items.mapM step = .ok answers) {item : β} (member : item ∈ items) :
    ∃ answer, step item = .ok answer := by
  rcases exists_related_of_mem (forall₂_of_mapM_eq_ok ran).flip member with ⟨answer, _, found⟩
  exact ⟨answer, found⟩

/-- A list of steps that ends well does so in any order, with the same answers in that order. -/
theorem mapM_perm
    {step : β → Except ε γ} {items others : List β} (same : items.Perm others)
    {answers : List γ} (ran : items.mapM step = .ok answers) :
    ∃ otherAnswers, others.mapM step = .ok otherAnswers ∧ answers.Perm otherAnswers := by
  rcases List.perm_comp_forall₂ same.symm (forall₂_of_mapM_eq_ok ran) with
    ⟨otherAnswers, stepped, sameAnswers⟩
  exact ⟨otherAnswers, mapM_eq_ok_of_forall₂ stepped, sameAnswers.symm⟩

/-! ## Which faults can occur -/

/-- A result that is a fault is one of the allowed ones. -/
def FaultsOnly (allowed : ε → Prop) (result : Except ε β) : Prop :=
  ∀ fault, result = .error fault → allowed fault

namespace FaultsOnly

variable {allowed : ε → Prop}

theorem ok (value : β) : FaultsOnly allowed (.ok value : Except ε β) := by
  intro fault failed
  cases failed

theorem error {fault : ε} (isAllowed : allowed fault) :
    FaultsOnly allowed (.error fault : Except ε β) := by
  intro other failed
  cases failed
  exact isAllowed

theorem imp {others : ε → Prop} {result : Except ε β}
    (faults : FaultsOnly allowed result) (larger : ∀ fault, allowed fault → others fault) :
    FaultsOnly others result := by
  intro fault failed
  exact larger fault (faults fault failed)

theorem bind {value : Except ε β} {next : β → Except ε γ}
    (first : FaultsOnly allowed value)
    (continued : ∀ found, value = .ok found → FaultsOnly allowed (next found)) :
    FaultsOnly allowed (value >>= next) := by
  cases value with
  | error fault => exact .error (first fault rfl)
  | ok found => exact continued found rfl

theorem map {value : Except ε β} (change : β → γ) (faults : FaultsOnly allowed value) :
    FaultsOnly allowed (value.map change) := by
  cases value with
  | error fault => exact .error (faults fault rfl)
  | ok found => exact .ok _

/-- A list of steps stops only where one of its steps can stop. -/
theorem mapM {step : β → Except ε γ} {items : List β}
    (single : ∀ item ∈ items, FaultsOnly allowed (step item)) :
    FaultsOnly allowed (items.mapM step) := by
  induction items with
  | nil => exact .ok _
  | cons item rest hypothesis =>
      rw [List.forall_mem_cons] at single
      rw [List.mapM_cons]
      refine single.1.bind ?_
      intro first _
      refine (hypothesis single.2).bind ?_
      intro others _
      exact .ok _

/-- A list of steps on a state stops only where one of its steps can stop. -/
theorem outcome_mapM {step : β → ExceptT ε (StateM σ) γ} {items : List β}
    (single : ∀ item ∈ items, ∀ state, FaultsOnly allowed (outcome (step item) state).1)
    (state : σ) : FaultsOnly allowed (outcome (items.mapM step) state).1 := by
  induction items generalizing state with
  | nil => exact .ok _
  | cons item rest hypothesis =>
      rw [List.forall_mem_cons] at single
      intro fault failed
      rcases ran : outcome ((item :: rest).mapM step) state with ⟨result, final⟩
      rw [ran] at failed
      obtain rfl : result = .error fault := failed
      rcases outcome_mapM_cons_eq_error_iff.mp ran with first | ⟨_, between, _, later⟩
      · exact single.1 state fault (by rw [first])
      · exact hypothesis single.2 between fault (by rw [later])

theorem exists_answer {result : Except ε β} (faultless : FaultsOnly (fun _ => False) result) :
    ∃ answer, result = .ok answer := by
  cases result with
  | error fault => exact (faultless fault rfl).elim
  | ok answer => exact ⟨answer, rfl⟩

end FaultsOnly

/-! ## Two computations side by side -/

/-- Two outcomes have the same result and leave related states. -/
def Alike (related : σ → τ → Prop) (first : Except ε β × σ) (second : Except ε β × τ) : Prop :=
  second.1 = first.1 ∧ related first.2 second.2

/-- Sequences of steps that run alike run alike. -/
theorem outcome_bind_alike
    (related : σ → τ → Prop)
    {first : ExceptT ε (StateM σ) β} {next : β → ExceptT ε (StateM σ) γ}
    {otherFirst : ExceptT ε (StateM τ) β} {otherNext : β → ExceptT ε (StateM τ) γ}
    {state : σ} {other : τ}
    (firstAlike : Alike related (outcome first state) (outcome otherFirst other))
    (nextAlike : ∀ value state other, related state other →
      Alike related (outcome (next value) state) (outcome (otherNext value) other)) :
    Alike related (outcome (first >>= next) state)
      (outcome (otherFirst >>= otherNext) other) := by
  rw [outcome_bind, outcome_bind]
  revert firstAlike
  rcases outcome first state with ⟨result, between⟩
  rcases outcome otherFirst other with ⟨otherResult, otherBetween⟩
  rintro ⟨rfl, after⟩
  cases otherResult with
  | error fault => exact ⟨rfl, after⟩
  | ok value => exact nextAlike value between otherBetween after

/-- Lists of steps that run alike from related states run alike as a whole. -/
theorem outcome_mapM_alike
    (related : σ → τ → Prop)
    {step : β → ExceptT ε (StateM σ) γ} {otherStep : β → ExceptT ε (StateM τ) γ}
    (items : List β)
    (single : ∀ item ∈ items, ∀ state other, related state other →
      Alike related (outcome (step item) state) (outcome (otherStep item) other))
    {state : σ} {other : τ} (before : related state other) :
    Alike related (outcome (items.mapM step) state) (outcome (items.mapM otherStep) other) := by
  induction items generalizing state other with
  | nil => exact ⟨rfl, before⟩
  | cons item rest hypothesis =>
      simp only [List.forall_mem_cons] at single
      simp only [List.mapM_cons]
      refine outcome_bind_alike related (single.1 state other before) ?_
      intro answer between otherBetween related
      refine outcome_bind_alike _ (hypothesis single.2 related) ?_
      intro answers last otherLast ended
      exact ⟨rfl, ended⟩

/-! ## Computations and the values that they realize -/

/--
An outcome realizes a value that is computed without a state: both are the same
fault, or both end well and what is claimed about the value, the answer and the
state that is left holds.
-/
inductive Realizes (claimed : δ → β → σ → Prop) : Except ε δ → Except ε β × σ → Prop
  | fault {fault : ε} {after : σ} : Realizes claimed (.error fault) (.error fault, after)
  | answer {value : δ} {answer : β} {after : σ} (holds : claimed value answer after) :
      Realizes claimed (.ok value) (.ok answer, after)

namespace Realizes

/-- A computation that starts with a lifted value goes on like the value. -/
theorem lift_bind
    {claimed : γ → β → σ → Prop} (value : Except ε δ)
    {next : δ → Except ε γ} {nextStep : δ → ExceptT ε (StateM σ) β} {state : σ}
    (continued : ∀ found, value = .ok found →
      Realizes claimed (next found) (outcome (nextStep found) state)) :
    Realizes claimed (value >>= next) (outcome (liftM value >>= nextStep) state) := by
  rw [outcome_bind, outcome_liftM]
  cases value with
  | error fault => exact .fault
  | ok found => exact continued found rfl

/-- Sequences realize sequences. -/
theorem bind
    {between : δ → β → σ → Prop} {claimed : δ' → γ → σ → Prop}
    {value : Except ε δ} {next : δ → Except ε δ'}
    {step : ExceptT ε (StateM σ) β} {nextStep : β → ExceptT ε (StateM σ) γ} {state : σ}
    (first : Realizes between value (outcome step state))
    (continued : ∀ found answer after, between found answer after →
      Realizes claimed (next found) (outcome (nextStep answer) after)) :
    Realizes claimed (value >>= next) (outcome (step >>= nextStep) state) := by
  rw [outcome_bind]
  revert first
  rcases outcome step state with ⟨result, after⟩
  intro first
  cases first with
  | fault => exact .fault
  | answer holds => exact continued _ _ _ holds

/-- After its last step, a value may still be changed. -/
theorem last
    {between : δ → β → σ → Prop} {claimed : δ' → β → σ → Prop}
    {value : Except ε δ} (change : δ → δ') {result : Except ε β × σ}
    (realizes : Realizes between value result)
    (continued : ∀ found answer after, between found answer after →
      claimed (change found) answer after) :
    Realizes claimed (value >>= fun found => pure (change found)) result := by
  cases realizes with
  | fault => exact .fault
  | answer holds => exact .answer (continued _ _ _ holds)

end Realizes

end TypeGauge
