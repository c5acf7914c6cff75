import TypeGauge.Proofs.Score.Footprint
import TypeGauge.Score.Arithmetic

/-!
# Calls end, and leave a known footprint

A nested call marks one more untouched node of the graph, so a call whose room
exceeds the number of untouched nodes comes to its end on any graph.  At depths
that have a weight, running out of room is the only way to fail: whatever the
room is, a call gives the one answer that it has or is refused as too deep.

The main statement, `scoring_has_exact_footprint`, puts this together with the
footprint of a derivation and adds what follows for later calls: a finished score
is never computed again, on whatever graph and at whatever depth it is asked for.
-/

namespace TypeGauge.Score

open TypeGauge.Setup TypeGauge.Types

variable {α : Type}

/-- Every depth from nought on has a weight. -/
def Arithmetic.Weighs (arithmetic : Arithmetic α) : Prop :=
  ∀ depth : Int, 0 ≤ depth → ∃ factor, arithmetic.weight? depth = some factor

theorem doubles_weighs : doubles.Weighs := by
  intro depth nonnegative
  have positive : 0 < depth + 1 := by omega
  exact ⟨binaryLog (depth + 1).toNat, if_pos positive⟩

/-- The number of nodes of a graph that are untouched. -/
def untouchedCount (graph : TypeGraph) (cache : ScoreCache Nat α) : Nat :=
  graph.nodes.countP fun node => decide (cache.Untouched node.identity)

theorem untouchedCount_le_length (graph : TypeGraph) (cache : ScoreCache Nat α) :
    untouchedCount graph cache ≤ graph.nodes.length :=
  List.countP_le_length

theorem untouchedCount_mono
    (graph : TypeGraph) {cache other : ScoreCache Nat α}
    (fewer : ∀ identity, cache.Untouched identity → other.Untouched identity) :
    untouchedCount graph cache ≤ untouchedCount graph other := by
  apply List.countP_mono_left
  intro node _ untouched
  simpa using fewer _ (by simpa using untouched)

/-- Marking an untouched node of a graph leaves fewer untouched ones. -/
theorem untouchedCount_mark_lt
    (graph : TypeGraph) {cache : ScoreCache Nat α} {node : TypeNode}
    (untouched : cache.Untouched node.identity) (member : node ∈ graph.nodes) :
    untouchedCount graph (cache.mark node.identity) < untouchedCount graph cache := by
  have fewer : ∀ nodes : List TypeNode,
      (nodes.countP fun other => decide ((cache.mark node.identity).Untouched other.identity)) ≤
        nodes.countP fun other => decide (cache.Untouched other.identity) := by
    intro nodes
    apply List.countP_mono_left
    intro other _ left
    simp only [decide_eq_true_eq, ScoreCache.untouched_mark_iff] at left ⊢
    exact left.2
  rcases List.append_of_mem member with ⟨before, rest, split⟩
  have marked : ¬ (cache.mark node.identity).Untouched node.identity := by
    simp [ScoreCache.untouched_mark_iff]
  have beforeFewer := fewer before
  have restFewer := fewer rest
  simp only [untouchedCount, split, List.countP_append, List.countP_cons, marked, untouched,
    decide_true, decide_false, if_true, Bool.false_eq_true, if_false]
  omega

theorem childRequests_eq_nil_of_absent
    {graph : TypeGraph} {identity : Nat} (absent : graph.find? identity = none) (depth : Int) :
    childRequests graph identity depth = [] := by
  simp [childRequests, TypeGraph.nodeAt, absent, scoredChildren]

namespace Scorer

variable {scorer : Scorer α} {graph : TypeGraph}

/-! ## Calls end -/

/-- Requests are answered when each of them is, in every cache with no more untouched nodes. -/
theorem scoreAllWithin_ends
    {room bound : Nat} {requests : List Request} {cache : ScoreCache Nat α}
    (single : ∀ request ∈ requests, ∀ cache : ScoreCache Nat α,
      untouchedCount graph cache ≤ bound →
        ∃ score after,
          outcome (scorer.scoreWithin graph room request.identity request.depth) cache =
            (.ok score, after))
    (few : untouchedCount graph cache ≤ bound) :
    ∃ scores after,
      outcome (scorer.scoreAllWithin graph room requests) cache = (.ok scores, after) := by
  induction requests generalizing cache with
  | nil => exact ⟨[], cache, rfl⟩
  | cons request rest hypothesis =>
      rw [List.forall_mem_cons] at single
      rcases single.1 cache few with ⟨score, between, ran⟩
      rcases visits_of_scoreWithin request ran with ⟨_, visits⟩
      have fewer : untouchedCount graph between ≤ bound :=
        Nat.le_trans (untouchedCount_mono graph fun _ => visits.untouched_of_untouched) few
      rcases hypothesis single.2 fewer with ⟨scores, after, restRan⟩
      exact ⟨_, _, outcome_mapM_cons_eq_ok_iff.mpr ⟨_, _, _, ran, restRan, rfl⟩⟩

/-- A call whose room exceeds the number of untouched nodes ends well. -/
theorem scoreWithin_ends
    (weighs : scorer.arithmetic.Weighs)
    {room : Nat} {request : Request} {cache : ScoreCache Nat α}
    (nonnegative : 0 ≤ request.depth) (roomy : untouchedCount graph cache < room) :
    ∃ score after,
      outcome (scorer.scoreWithin graph room request.identity request.depth) cache =
        (.ok score, after) := by
  induction room generalizing request cache with
  | zero => exact absurd roomy (Nat.not_lt_zero _)
  | succ room hypothesis =>
      rcases request with ⟨identity, depth⟩
      simp only [outcome_scoreWithin_succ]
      cases finished : cache.get? identity with
      | some known => exact ⟨known, cache, rfl⟩
      | none =>
          by_cases active : identity ∈ cache.active
          · exact ⟨scorer.cycleScore, cache, by simp [active]⟩
          · have childrenEnd : ∃ scores inner,
                outcome
                    (scorer.scoreAllWithin graph room (childRequests graph identity depth))
                    (cache.mark identity) = (.ok scores, inner) := by
              cases found : graph.find? identity with
              | none =>
                  rw [childRequests_eq_nil_of_absent found]
                  exact ⟨[], cache.mark identity, rfl⟩
              | some node =>
                  have named : node.identity = identity := by
                    simpa using List.find?_some found
                  subst named
                  have fewer :=
                    untouchedCount_mark_lt graph ⟨finished, active⟩
                      (List.mem_of_find?_eq_some found)
                  have few : untouchedCount graph (cache.mark node.identity) ≤ room - 1 := by
                    omega
                  refine scoreAllWithin_ends ?_ few
                  intro child member inside insideFew
                  have deeper := ((mem_childRequests_iff _ _ _ _).mp member).2
                  simp only at nonnegative
                  exact hypothesis (by omega) (by omega)
            rcases childrenEnd with ⟨scores, inner, childrenRan⟩
            rcases weighs depth nonnegative with ⟨factor, weighed⟩
            simp [active, childrenRan, weighed]

/-! ## Running out of room is the only fault -/

/-- Requests that fail do so because one of them does, in some cache. -/
theorem scoreAllWithin_fault
    {room : Nat} {fault : Fault} {requests : List Request} {cache after : ScoreCache Nat α}
    (ran : outcome (scorer.scoreAllWithin graph room requests) cache = (.error fault, after)) :
    ∃ request ∈ requests, ∃ before after : ScoreCache Nat α,
      outcome (scorer.scoreWithin graph room request.identity request.depth) before =
        (.error fault, after) := by
  induction requests generalizing cache with
  | nil => simp [scoreAllWithin] at ran
  | cons request rest hypothesis =>
      rcases outcome_mapM_cons_eq_error_iff.mp ran with failed | ⟨_, between, _, restFailed⟩
      · exact ⟨request, List.mem_cons_self, cache, after, failed⟩
      · rcases hypothesis restFailed with ⟨other, member, before, left, failed⟩
        exact ⟨other, List.mem_cons_of_mem _ member, before, left, failed⟩

/-- A call that fails has failed for a child, has no weight, or has no room at all. -/
theorem scoreWithin_fault_cases
    {room : Nat} {fault : Fault} {request : Request} {cache after : ScoreCache Nat α}
    (ran : outcome (scorer.scoreWithin graph room request.identity request.depth) cache =
      (.error fault, after)) :
    (room = 0 ∧ fault = .tooDeep) ∨
      (fault = .negativeDepth ∧ scorer.arithmetic.weight? request.depth = none) ∨
      ∃ below, room = below + 1 ∧
        ∃ child ∈ childRequests graph request.identity request.depth,
          ∃ before left : ScoreCache Nat α,
            outcome (scorer.scoreWithin graph below child.identity child.depth) before =
              (.error fault, left) := by
  cases room with
  | zero =>
      simp only [scoreWithin, outcome_throw, Prod.mk.injEq, Except.error.injEq] at ran
      exact Or.inl ⟨rfl, ran.1.symm⟩
  | succ room =>
      right
      rw [outcome_scoreWithin_succ] at ran
      cases finished : cache.get? request.identity with
      | some known => simp [finished] at ran
      | none =>
          by_cases active : request.identity ∈ cache.active
          · simp [finished, active] at ran
          · simp only [finished, active, if_false] at ran
            rcases childrenRan :
              outcome
                (scorer.scoreAllWithin graph room
                  (childRequests graph request.identity request.depth))
                (cache.mark request.identity) with ⟨result, inner⟩
            rw [childrenRan] at ran
            cases result with
            | error inside =>
                right
                simp only [Prod.mk.injEq, Except.error.injEq] at ran
                rcases ran with ⟨rfl, rfl⟩
                exact ⟨room, rfl, scoreAllWithin_fault childrenRan⟩
            | ok scores =>
                left
                cases weighed : scorer.arithmetic.weight? request.depth with
                | none =>
                    simp only [weighed, Prod.mk.injEq, Except.error.injEq] at ran
                    exact ⟨ran.1.symm, rfl⟩
                | some factor => simp [weighed] at ran

/-- At depths from nought on, a call that fails is refused as too deep. -/
theorem eq_tooDeep_of_scoreWithin_fault
    (weighs : scorer.arithmetic.Weighs)
    {room : Nat} {fault : Fault} {request : Request} {cache after : ScoreCache Nat α}
    (nonnegative : 0 ≤ request.depth)
    (ran : outcome (scorer.scoreWithin graph room request.identity request.depth) cache =
      (.error fault, after)) :
    fault = .tooDeep := by
  induction room using Nat.strongRecOn generalizing request cache after with
  | _ room hypothesis =>
      rcases scoreWithin_fault_cases ran with
        ⟨_, tooDeep⟩ | ⟨_, weightless⟩ | ⟨below, rfl, child, member, _, _, failed⟩
      · exact tooDeep
      · rcases weighs _ nonnegative with ⟨factor, weighed⟩
        simp [weighed] at weightless
      · have deeper := ((mem_childRequests_iff _ _ _ _).mp member).2
        exact hypothesis below (by omega) (by omega) failed

/-! ## Finished scores survive every call -/

/-- Whether a call ends well or not, it keeps every finished score. -/
theorem get?_scoreWithin
    (room : Nat) (request : Request) {cache : ScoreCache Nat α} {identity : Nat} {score : α}
    (finished : cache.get? identity = some score) :
    (outcome (scorer.scoreWithin graph room request.identity request.depth) cache).2.get?
      identity = some score := by
  apply scoreWithin_keeps (fun inside => inside.get? identity = some score) (fun _ => True)
    (fun _ _ _ _ _ => trivial) (fun _ _ _ => id) _ room trivial finished
  intro cache inner other value _ untouched before inside
  have different : identity ≠ other := by
    rintro rfl
    simp [untouched.1] at before
  rw [ScoreCache.get?_put_other different, ScoreCache.get?_unmark, inside]

/-! ## The answer to a request -/

/--
A request has an answer: a call gives it whenever its room exceeds the number of
untouched nodes, and with less room it gives it too or is refused as too deep.
-/
structure Answers (scorer : Scorer α) (graph : TypeGraph) (request : Request)
    (cache : ScoreCache Nat α) (score : α) (after : ScoreCache Nat α) : Prop where
  of_room : ∀ room, untouchedCount graph cache < room →
    outcome (scorer.scoreWithin graph room request.identity request.depth) cache =
      (.ok score, after)
  or_tooDeep : ∀ room,
    outcome (scorer.scoreWithin graph room request.identity request.depth) cache =
        (.ok score, after) ∨
      (outcome (scorer.scoreWithin graph room request.identity request.depth) cache).1 =
        .error .tooDeep

/-- Every request at a depth from nought on has an answer, in every cache and on every graph. -/
theorem exists_answer
    (weighs : scorer.arithmetic.Weighs) (graph : TypeGraph) (cache : ScoreCache Nat α)
    (request : Request) (nonnegative : 0 ≤ request.depth) :
    ∃ score after journal,
      Visits scorer graph [request] cache [score] after journal ∧
        scorer.Answers graph request cache score after := by
  rcases scoreWithin_ends weighs nonnegative (Nat.lt_succ_self (untouchedCount graph cache)) with
    ⟨score, after, ran⟩
  rcases visits_of_scoreWithin request ran with ⟨journal, visits⟩
  have same : ∀ room score' after',
      outcome (scorer.scoreWithin graph room request.identity request.depth) cache =
          (.ok score', after') →
        outcome (scorer.scoreWithin graph room request.identity request.depth) cache =
          (.ok score, after) := by
    intro room score' after' other
    rcases visits_of_scoreWithin request other with ⟨_, otherVisits⟩
    rcases visits.unique otherVisits with ⟨sameScore, rfl, _⟩
    cases sameScore
    exact other
  refine ⟨score, after, journal, visits, ?_, ?_⟩
  · intro room roomy
    rcases scoreWithin_ends weighs nonnegative roomy with ⟨_, _, other⟩
    exact same _ _ _ other
  · intro room
    rcases other :
      outcome (scorer.scoreWithin graph room request.identity request.depth) cache with
      ⟨result, left⟩
    cases result with
    | ok otherScore =>
        left
        rw [← other]
        exact same _ _ _ other
    | error fault =>
        right
        rw [eq_tooDeep_of_scoreWithin_fault weighs nonnegative other]

/-- Requests at depths from nought on are answered, with any room that exceeds the graph. -/
theorem exists_answers
    (weighs : scorer.arithmetic.Weighs) (graph : TypeGraph) (cache : ScoreCache Nat α)
    (requests : List Request) (nonnegative : ∀ request ∈ requests, 0 ≤ request.depth) :
    ∃ scores after journal,
      Visits scorer graph requests cache scores after journal ∧
        ∀ room, graph.nodes.length < room →
          outcome (scorer.scoreAllWithin graph room requests) cache = (.ok scores, after) := by
  have ends : ∀ room, graph.nodes.length < room → ∃ scores after journal,
      outcome (scorer.scoreAllWithin graph room requests) cache = (.ok scores, after) ∧
        Visits scorer graph requests cache scores after journal := by
    intro room roomy
    have few := untouchedCount_le_length graph cache
    have single : ∀ request ∈ requests, ∀ cache : ScoreCache Nat α,
        untouchedCount graph cache ≤ graph.nodes.length →
          ∃ score after,
            outcome (scorer.scoreWithin graph room request.identity request.depth) cache =
              (.ok score, after) := by
      intro request member cache few
      exact scoreWithin_ends weighs (nonnegative request member) (by omega)
    rcases scoreAllWithin_ends single few with ⟨scores, after, ran⟩
    rcases visits_of_scoreAllWithin (fun request _ _ _ => visits_of_scoreWithin request) ran with
      ⟨journal, visits⟩
    exact ⟨scores, after, journal, ran, visits⟩
  rcases ends (graph.nodes.length + 1) (Nat.lt_succ_self _) with
    ⟨scores, after, journal, _, visits⟩
  refine ⟨scores, after, journal, visits, ?_⟩
  intro room roomy
  rcases ends room roomy with ⟨otherScores, otherAfter, otherJournal, ran, otherVisits⟩
  rcases visits.unique otherVisits with ⟨rfl, rfl, _⟩
  exact ran

/-- A call, on a graph, with some room. -/
structure Call where
  graph : TypeGraph
  room : Nat
  request : Request

/-- The cache after calls on whatever graphs, some of which may have failed. -/
def afterCalls (scorer : Scorer α) (calls : List Call) (cache : ScoreCache Nat α) :
    ScoreCache Nat α :=
  calls.foldl
    (fun cache call =>
      (outcome
        (scorer.scoreWithin call.graph call.room call.request.identity call.request.depth)
        cache).2)
    cache

theorem get?_afterCalls
    (calls : List Call) {cache : ScoreCache Nat α} {identity : Nat} {score : α}
    (finished : cache.get? identity = some score) :
    (scorer.afterCalls calls cache).get? identity = some score := by
  induction calls generalizing cache with
  | nil => exact finished
  | cons call rest hypothesis =>
      exact hypothesis (get?_scoreWithin call.room call.request finished)

end Scorer

/--
Scoring a node of any graph from any cache has an answer, restores the marks and
keeps the finished scores.  A finished node gives its score and a node that is
being scored gives fifty, and then nothing changes.  The nodes that are finished
are the ones that the node reaches through untouched nodes, each of them once.
From then on every call for a finished node gives the same score, after any
calls, at any depth and on any graph.
-/
theorem scoring_has_exact_footprint
    (scorer : Scorer α) (weighs : scorer.arithmetic.Weighs)
    (graph : TypeGraph) (identity : Nat) (depth : Int) (nonnegative : 0 ≤ depth)
    (cache : ScoreCache Nat α) :
    ∃ score after journal,
      Visits scorer graph [⟨identity, depth⟩] cache [score] after journal ∧
        scorer.Answers graph ⟨identity, depth⟩ cache score after ∧
        after.active = cache.active ∧
        (∀ other old, cache.get? other = some old → after.get? other = some old) ∧
        (∀ known, cache.get? identity = some known → score = known ∧ after = cache) ∧
        (cache.get? identity = none → identity ∈ cache.active →
          score = scorer.arithmetic.ofNat 50 ∧ after = cache) ∧
        (cache.Untouched identity → after.get? identity = some score) ∧
        after.scores = cache.scores ++ journal.map Finish.entry ∧
        (journal.map Finish.identity).Nodup ∧
        (∀ other, other ∈ journal.map Finish.identity ↔ Reaches graph cache identity other) ∧
        ∀ other value, after.get? other = some value →
          ∀ (calls : List Scorer.Call) (laterGraph : TypeGraph) (room : Nat) (laterDepth : Int),
            outcome (scorer.scoreWithin laterGraph (room + 1) other laterDepth)
                (scorer.afterCalls calls after) =
              (.ok value, scorer.afterCalls calls after) := by
  rcases Scorer.exists_answer weighs graph cache ⟨identity, depth⟩ nonnegative with
    ⟨score, after, journal, visits, answers⟩
  refine ⟨score, after, journal, visits, answers, visits.active_eq,
    fun _ _ => visits.get?_of_get?, ?_, ?_, visits.get?_requested, visits.scores_eq,
    visits.nodup_journal, ?_, ?_⟩
  · intro known finished
    rcases Visits.unique (.known finished .done) visits with ⟨sameScore, sameCache, _⟩
    exact ⟨List.head_eq_of_cons_eq sameScore, sameCache⟩
  · intro unfinished active
    rcases Visits.unique (.cycle unfinished active .done) visits with ⟨sameScore, sameCache, _⟩
    exact ⟨List.head_eq_of_cons_eq sameScore, sameCache⟩
  · intro other
    simp [visits.mem_journal_iff_reaches]
  · intro other value finished calls laterGraph room laterDepth
    rw [Scorer.outcome_scoreWithin_succ, Scorer.get?_afterCalls calls finished]

/-- A union that contains itself and an array of itself. -/
def selfContainingUnion : TypeGraph where
  nodes := [⟨0, .union, 0, 0, [0, 1]⟩, ⟨1, .array, 0, 0, [0]⟩]

/-- Scoring the self-containing union ends, finishes both of its nodes and leaves no mark. -/
theorem selfContainingUnion_is_finished :
    ∃ score after,
      outcome
          ((⟨doubles, .standard doubles⟩ : Scorer Float).scoreWithin selfContainingUnion 3 0 1)
          .empty = (.ok score, after) ∧
        after.active = [] ∧ after.get? 0 = some score ∧ after.get? 1 ≠ none := by
  rcases scoring_has_exact_footprint ⟨doubles, .standard doubles⟩ doubles_weighs
    selfContainingUnion 0 1 (by decide) .empty with
    ⟨score, after, journal, visits, answers, active, _, _, _, requested, _, _, members, _⟩
  have untouched : ∀ identity, (ScoreCache.empty : ScoreCache Nat Float).Untouched identity :=
    fun _ => ⟨rfl, List.not_mem_nil⟩
  have edge : ScoredEdge selfContainingUnion 0 1 := by decide
  have reached : 1 ∈ journal.map Finish.identity :=
    (members 1).mpr ⟨untouched 0, .single ⟨edge, untouched 1⟩⟩
  exact ⟨score, after, answers.of_room 3 (by decide), active, requested (untouched 0),
    (visits.mem_journal_iff rfl).mp reached⟩

end TypeGauge.Score
