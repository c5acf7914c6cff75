import TypeGauge.Proofs.Check.ExactCompletion
import TypeGauge.Proofs.Score.CycleSafety

/-!
# What a failed call leaves behind

A call marks a node before it scores what stands below and takes the mark off at its
end.  A call that fails never comes to its end, and neither do the calls around it, so all
nodes on the way from the requested one to the place of the failure stay marked.  They
are the trail of the failed call.  Nothing ever takes these marks off: from then on each
node of the trail counts as one that is being scored, and every request for it is answered
by the fixed amount of a cycle.

With room enough a call fails exactly when it looks into a node at a depth below nought.
So marks are restored exactly when the depth is not below nought or the requested node
need not be looked into.
-/

namespace TypeGauge.Score

open TypeGauge.Setup TypeGauge.Types

variable {α : Type}

/-- The depths from nought on have a weight, and no others. -/
def Arithmetic.WeighsFromNought (arithmetic : Arithmetic α) : Prop :=
  ∀ depth : Int, 0 ≤ depth ↔ ∃ factor, arithmetic.weight? depth = some factor

theorem Arithmetic.WeighsFromNought.weighs {arithmetic : Arithmetic α}
    (weighs : arithmetic.WeighsFromNought) : arithmetic.Weighs :=
  fun depth => (weighs depth).mp

theorem Arithmetic.WeighsFromNought.weight?_eq_none_iff {arithmetic : Arithmetic α}
    (weighs : arithmetic.WeighsFromNought) (depth : Int) :
    arithmetic.weight? depth = none ↔ depth < 0 := by
  rw [← not_le, weighs depth, ← Option.isSome_iff_exists, Option.not_isSome_iff_eq_none]

theorem doubles_weighsFromNought : doubles.WeighsFromNought := by
  intro depth
  have positive : 0 < depth + 1 ↔ 0 ≤ depth := by omega
  simp [doubles, depthWeight?, positive]

/-! ## Trails -/

/-- Nodes that were entered one from the other, each of them untouched before. -/
structure Trail (graph : TypeGraph) (cache : ScoreCache Nat α) (identity : Nat)
    (nodes : List Nat) : Prop where
  starts : nodes.head? = some identity
  edges : nodes.IsChain (ScoredEdge graph)
  untouched : ∀ node ∈ nodes, cache.Untouched node
  distinct : nodes.Nodup

namespace Trail

variable {graph : TypeGraph} {cache inner : ScoreCache Nat α} {identity child : Nat}
  {nodes : List Nat}

theorem single (untouched : cache.Untouched identity) : Trail graph cache identity [identity] :=
  ⟨rfl, .singleton identity, by simpa using untouched, List.nodup_singleton identity⟩

/-- A node is entered before the trail that begins at one of its scored children. -/
theorem cons (untouched : cache.Untouched identity) (edge : ScoredEdge graph identity child)
    (fewer : ∀ node, inner.Untouched node → (cache.mark identity).Untouched node)
    (trail : Trail graph inner child nodes) : Trail graph cache identity (identity :: nodes) := by
  have below : ∀ node ∈ nodes, node ≠ identity ∧ cache.Untouched node := by
    intro node member
    exact (ScoreCache.untouched_mark_iff _ _ _).mp (fewer node (trail.untouched node member))
  constructor
  · rfl
  · rw [List.isChain_cons]
    refine ⟨?_, trail.edges⟩
    intro next isNext
    rw [trail.starts, Option.mem_some_iff] at isNext
    exact isNext ▸ edge
  · rw [List.forall_mem_cons]
    exact ⟨untouched, fun node member => (below node member).2⟩
  · rw [List.nodup_cons]
    exact ⟨fun member => (below identity member).1 rfl, trail.distinct⟩

end Trail

/-! ## Marks that stay -/

/-- The node is marked and has no finished score, so requests for it are taken for a cycle. -/
def ScoreCache.Stuck (cache : ScoreCache Nat α) (identity : Nat) : Prop :=
  identity ∈ cache.active ∧ cache.get? identity = none

theorem Visits.stuck {scorer : Scorer α} {graph : TypeGraph} {requests : List Request}
    {cache after : ScoreCache Nat α} {scores : List α} {journal : List (Finish α)}
    (visits : Visits scorer graph requests cache scores after journal) {identity : Nat}
    (stuck : cache.Stuck identity) : after.Stuck identity :=
  ⟨visits.active_eq ▸ stuck.1, visits.get?_eq_none_of_active stuck.1 stuck.2⟩

namespace Scorer

variable {scorer : Scorer α} {graph : TypeGraph}

theorem outcome_of_stuck {identity : Nat} {cache : ScoreCache Nat α} (stuck : cache.Stuck identity)
    (room : Nat) (depth : Int) :
    outcome (scorer.scoreWithin graph (room + 1) identity depth) cache =
      (.ok scorer.cycleScore, cache) := by
  rw [outcome_scoreWithin_succ]
  simp only [stuck.2, stuck.1, if_true]

/-- No call takes off a mark that it has not set, whether it ends well or not. -/
theorem stuck_scoreWithin
    (room : Nat) (request : Request) {cache : ScoreCache Nat α} {identity : Nat}
    (stuck : cache.Stuck identity) :
    (outcome (scorer.scoreWithin graph room request.identity request.depth) cache).2.Stuck
      identity := by
  apply scoreWithin_keeps (fun inside => inside.Stuck identity) (fun _ => True)
    (fun _ _ _ _ _ => trivial) _ _ room trivial stuck
  · intro inside other _ marked
    exact ⟨(ScoreCache.mem_active_mark _ _ _).mpr (.inr marked.1), marked.2⟩
  · intro cache inner other value _ untouched before inside
    have different : identity ≠ other := by
      rintro rfl
      exact untouched.2 before.1
    constructor
    · simp [ScoreCache.unmark, inside.1, different]
    · rw [ScoreCache.get?_put_other different, ScoreCache.get?_unmark, inside.2]

theorem stuck_afterCalls
    (calls : List Call) {cache : ScoreCache Nat α} {identity : Nat} (stuck : cache.Stuck identity) :
    (scorer.afterCalls calls cache).Stuck identity := by
  induction calls generalizing cache with
  | nil => exact stuck
  | cons call rest hypothesis => exact hypothesis (stuck_scoreWithin call.room call.request stuck)

/-! ## Calls that fail -/

/-- Requests that fail do so at one of them, after the ones before it have been answered. -/
theorem exists_failed_of_scoreAllWithin
    {room : Nat} {fault : Fault} {requests : List Request} {cache after : ScoreCache Nat α}
    (ran : outcome (scorer.scoreAllWithin graph room requests) cache = (.error fault, after)) :
    ∃ child ∈ requests, ∃ answered scores between journal,
      Visits scorer graph answered cache scores between journal ∧
        outcome (scorer.scoreWithin graph room child.identity child.depth) between =
          (.error fault, after) := by
  induction requests generalizing cache with
  | nil => simp [scoreAllWithin] at ran
  | cons request rest hypothesis =>
      rcases outcome_mapM_cons_eq_error_iff.mp ran with failed | ⟨score, between, headRan, failed⟩
      · exact ⟨request, List.mem_cons_self, [], [], cache, [], .done, failed⟩
      · rcases visits_of_scoreWithin request headRan with ⟨first, head⟩
        rcases hypothesis failed with
          ⟨child, member, answered, scores, inner, journal, visits, childFailed⟩
        exact ⟨child, List.mem_cons_of_mem _ member, request :: answered, score :: scores, inner,
          first ++ journal, head.cons visits, childFailed⟩

/--
A call that fails has marked an untouched node.  Either the calls for the children have
ended and the depth has no weight, or the call for one of them has failed in its turn.
-/
theorem cases_of_fault
    {room identity : Nat} {depth : Int} {fault : Fault} {cache after : ScoreCache Nat α}
    (ran : outcome (scorer.scoreWithin graph (room + 1) identity depth) cache =
      (.error fault, after)) :
    cache.Untouched identity ∧
      ∃ answered scores between journal,
        Visits scorer graph answered (cache.mark identity) scores between journal ∧
          ((fault = .negativeDepth ∧ scorer.arithmetic.weight? depth = none ∧ after = between) ∨
            ∃ child, ScoredEdge graph identity child ∧
              outcome (scorer.scoreWithin graph room child (depth + 1)) between =
                (.error fault, after)) := by
  rw [outcome_scoreWithin_succ] at ran
  cases finished : cache.get? identity with
  | some known => simp [finished] at ran
  | none =>
      by_cases active : identity ∈ cache.active
      · simp [finished, active] at ran
      · refine ⟨⟨finished, active⟩, ?_⟩
        simp only [finished, active, if_false] at ran
        rcases childrenRan :
          outcome (scorer.scoreAllWithin graph room (childRequests graph identity depth))
            (cache.mark identity) with ⟨result, inner⟩
        rw [childrenRan] at ran
        cases result with
        | error inside =>
            cases ran
            rcases exists_failed_of_scoreAllWithin childrenRan with
              ⟨child, member, answered, scores, between, journal, visits, failed⟩
            rcases (mem_childRequests_iff _ _ _ _).mp member with ⟨edge, deeper⟩
            rw [deeper] at failed
            exact ⟨answered, scores, between, journal, visits, .inr ⟨child.identity, edge, failed⟩⟩
        | ok scores =>
            cases weighed : scorer.arithmetic.weight? depth with
            | some factor => simp [weighed] at ran
            | none =>
                simp only [weighed, Prod.mk.injEq, Except.error.injEq] at ran
                rcases ran with ⟨rfl, rfl⟩
                rcases visits_of_scoreAllWithin
                  (fun request _ _ _ single => visits_of_scoreWithin request single)
                  childrenRan with ⟨journal, visits⟩
                exact ⟨_, scores, inner, journal, visits, .inl ⟨rfl, rfl, rfl⟩⟩

/-- The node that a failed call was for is stuck. -/
theorem stuck_of_fault
    {room identity : Nat} {depth : Int} {fault : Fault} {cache after : ScoreCache Nat α}
    (ran : outcome (scorer.scoreWithin graph (room + 1) identity depth) cache =
      (.error fault, after)) : after.Stuck identity := by
  rcases cases_of_fault ran with ⟨untouched, _, _, between, _, visits, failed⟩
  have marked : (cache.mark identity).Stuck identity := ⟨by simp, untouched.1⟩
  rcases failed with ⟨_, _, rfl⟩ | ⟨child, _, failed⟩
  · exact visits.stuck marked
  · have kept : (outcome (scorer.scoreWithin graph room child (depth + 1)) between).2.Stuck
        identity :=
      stuck_scoreWithin room ⟨child, depth + 1⟩ (visits.stuck marked)
    rwa [failed] at kept

/--
The marks after a call that fails are the ones from before and those of the trail, which
ends where the call failed.  All nodes of the trail are stuck.
-/
theorem exists_trail_of_fault
    {room identity : Nat} {depth : Int} {fault : Fault} {cache after : ScoreCache Nat α}
    (ran : outcome (scorer.scoreWithin graph (room + 1) identity depth) cache =
      (.error fault, after)) :
    ∃ nodes, Trail graph cache identity nodes ∧
      after.active = nodes.reverse ++ cache.active ∧
      (fault = .negativeDepth → scorer.arithmetic.weight? (depth + nodes.length - 1) = none) ∧
      ∀ node ∈ nodes, after.Stuck node := by
  induction room using Nat.strongRecOn generalizing identity depth cache with
  | _ room hypothesis =>
      have stuck := stuck_of_fault ran
      rcases cases_of_fault ran with ⟨untouched, _, _, between, _, visits, failed⟩
      have active : between.active = identity :: cache.active := by
        simp [visits.active_eq, ScoreCache.mark, untouched.2]
      rcases failed with ⟨_, weightless, rfl⟩ | ⟨child, edge, failed⟩
      · exact ⟨[identity], .single untouched, by simpa using active, by simp [weightless],
          by simpa using stuck⟩
      · cases room with
        | zero =>
            -- There is no room left to enter the child, so the trail ends here.
            cases failed
            exact ⟨[identity], .single untouched, by simpa using active, by simp,
              by simpa using stuck⟩
        | succ below =>
            rcases hypothesis below (Nat.lt_succ_self below) failed with
              ⟨nodes, trail, left, weightless, stuckBelow⟩
            refine ⟨identity :: nodes,
              trail.cons untouched edge fun _ => visits.untouched_of_untouched, ?_, ?_, ?_⟩
            · simp [left, active]
            · intro negative
              have deeper : depth + (identity :: nodes).length - 1 =
                  depth + 1 + nodes.length - 1 := by
                push_cast [List.length_cons]
                omega
              rw [deeper]
              exact weightless negative
            · rw [List.forall_mem_cons]
              exact ⟨stuck, stuckBelow⟩

/-- With more room than there are untouched nodes, a call fails at a depth below nought only. -/
theorem eq_negativeDepth_of_fault
    {room identity : Nat} {depth : Int} {fault : Fault} {cache after : ScoreCache Nat α}
    (roomy : untouchedCount graph cache < room)
    (ran : outcome (scorer.scoreWithin graph room identity depth) cache = (.error fault, after)) :
    fault = .negativeDepth := by
  induction room generalizing identity depth cache with
  | zero => exact absurd roomy (Nat.not_lt_zero _)
  | succ room hypothesis =>
      rcases cases_of_fault ran with
        ⟨untouched, _, _, between, _, visits, ⟨negative, _⟩ | ⟨child, edge, failed⟩⟩
      · exact negative
      · have member : ∃ node ∈ graph.nodes, node.identity = identity := by
          cases found : graph.find? identity with
          | none => simp [ScoredEdge, TypeGraph.nodeAt, found, scoredChildren] at edge
          | some node =>
              exact ⟨node, List.mem_of_find?_eq_some found, by simpa using List.find?_some found⟩
        rcases member with ⟨node, member, rfl⟩
        have fewer := untouchedCount_mark_lt graph untouched member
        have fewerYet := untouchedCount_mono graph fun _ => visits.untouched_of_untouched
        exact hypothesis (by omega) failed

/-- A call that looks into a node at a depth without weight fails, whatever its room is. -/
theorem exists_fault_of_weightless
    {identity : Nat} {depth : Int} {cache : ScoreCache Nat α}
    (untouched : cache.Untouched identity) (weightless : scorer.arithmetic.weight? depth = none)
    (room : Nat) :
    ∃ fault after,
      outcome (scorer.scoreWithin graph room identity depth) cache = (.error fault, after) := by
  cases room with
  | zero => exact ⟨.tooDeep, cache, rfl⟩
  | succ room =>
      rw [outcome_scoreWithin_succ]
      simp only [untouched.1, untouched.2, if_false, weightless]
      rcases outcome (scorer.scoreAllWithin graph room (childRequests graph identity depth))
        (cache.mark identity) with ⟨result, inner⟩
      cases result with
      | error fault => exact ⟨fault, inner, rfl⟩
      | ok scores => exact ⟨.negativeDepth, inner, rfl⟩

/-- With room enough, a call fails exactly when it looks into a node at a depth below nought. -/
theorem exists_fault_iff
    (weighs : scorer.arithmetic.WeighsFromNought) {room identity : Nat} {depth : Int}
    {cache : ScoreCache Nat α} (roomy : untouchedCount graph cache < room) :
    (∃ fault after,
      outcome (scorer.scoreWithin graph room identity depth) cache = (.error fault, after)) ↔
        depth < 0 ∧ cache.Untouched identity := by
  constructor
  · rintro ⟨fault, after, ran⟩
    constructor
    · by_contra notBelow
      let request : Request := ⟨identity, depth⟩
      have nonnegative : 0 ≤ request.depth := not_lt.mp notBelow
      rcases scoreWithin_ends weighs.weighs nonnegative roomy with ⟨score, other, ended⟩
      rw [ran] at ended
      cases ended
    · obtain ⟨below, rfl⟩ : ∃ below, room = below + 1 := ⟨room - 1, by omega⟩
      exact (cases_of_fault ran).1
  · rintro ⟨negative, untouched⟩
    exact exists_fault_of_weightless untouched
      ((weighs.weight?_eq_none_iff depth).mpr negative) room

end Scorer

/--
A call that ends well restores the marks.  A call that fails leaves a trail marked, from the
node that it was for to the one at which it failed, and after any further calls every request
for a node of the trail is still answered by fifty.  With room enough, marks are restored
exactly when the call ends well, which it does exactly when the depth is not below nought or
the node is finished or being scored already; otherwise it fails because of the depth.
-/
theorem marks_are_restored_unless_a_call_fails
    (scorer : Scorer α) (weighs : scorer.arithmetic.WeighsFromNought)
    (graph : TypeGraph) (identity : Nat) (depth : Int) (cache : ScoreCache Nat α) :
    (∀ room score after,
      outcome (scorer.scoreWithin graph room identity depth) cache = (.ok score, after) →
        after.active = cache.active) ∧
      (∀ room fault after,
        outcome (scorer.scoreWithin graph (room + 1) identity depth) cache =
            (.error fault, after) →
          ∃ nodes, Trail graph cache identity nodes ∧
            after.active = nodes.reverse ++ cache.active ∧
            (fault = .negativeDepth → depth + nodes.length ≤ 0) ∧
            ∀ node ∈ nodes, ∀ (calls : List Scorer.Call) (laterGraph : TypeGraph)
              (laterRoom : Nat) (laterDepth : Int),
              outcome (scorer.scoreWithin laterGraph (laterRoom + 1) node laterDepth)
                  (scorer.afterCalls calls after) =
                (.ok (scorer.arithmetic.ofNat 50), scorer.afterCalls calls after)) ∧
      ∀ room, untouchedCount graph cache < room →
        ∃ result after,
          outcome (scorer.scoreWithin graph room identity depth) cache = (result, after) ∧
            ((∀ other, other ∈ after.active ↔ other ∈ cache.active) ↔
              0 ≤ depth ∨ ¬ cache.Untouched identity) ∧
            ((∃ score, result = .ok score) ↔ 0 ≤ depth ∨ ¬ cache.Untouched identity) ∧
            ∀ fault, result = .error fault → fault = .negativeDepth := by
  refine ⟨?_, ?_, ?_⟩
  · intro room score after ran
    rcases Scorer.visits_of_scoreWithin ⟨identity, depth⟩ ran with ⟨journal, visits⟩
    exact visits.active_eq
  · intro room fault after ran
    rcases Scorer.exists_trail_of_fault ran with ⟨nodes, trail, left, weightless, stuck⟩
    refine ⟨nodes, trail, left, ?_, ?_⟩
    · intro negative
      have below := (weighs.weight?_eq_none_iff _).mp (weightless negative)
      omega
    · intro node member calls laterGraph laterRoom laterDepth
      exact Scorer.outcome_of_stuck (Scorer.stuck_afterCalls calls (stuck node member)) _ _
  · intro room roomy
    obtain ⟨below, rfl⟩ : ∃ below, room = below + 1 := ⟨room - 1, by omega⟩
    rcases ran : outcome (scorer.scoreWithin graph (below + 1) identity depth) cache with
      ⟨result, after⟩
    refine ⟨result, after, rfl, ?_⟩
    have fails :
        (∃ fault after, outcome (scorer.scoreWithin graph (below + 1) identity depth) cache =
          (.error fault, after)) ↔ depth < 0 ∧ cache.Untouched identity :=
      Scorer.exists_fault_iff weighs roomy
    cases result with
    | ok score =>
        have safe : 0 ≤ depth ∨ ¬ cache.Untouched identity := by
          rw [← not_lt, ← not_and_or, ← fails, ran]
          simp
        rcases Scorer.visits_of_scoreWithin ⟨identity, depth⟩ ran with ⟨journal, visits⟩
        simp [safe, visits.active_eq]
    | error fault =>
        rcases fails.mp ⟨fault, after, ran⟩ with ⟨negative, untouched⟩
        have entered : ¬ (0 ≤ depth ∨ ¬ cache.Untouched identity) := by
          rw [← not_lt, ← not_and_or, not_not]
          exact ⟨negative, untouched⟩
        have marked : ¬ ∀ other, other ∈ after.active ↔ other ∈ cache.active := by
          intro same
          exact untouched.2 ((same identity).mp (Scorer.stuck_of_fault ran).1)
        simp [entered, marked, Scorer.eq_negativeDepth_of_fault roomy ran]

/-- An array of arrays of texts. -/
def nestedArray : TypeGraph where
  nodes := [⟨0, .array, 0, 0, [1]⟩, ⟨1, .array, 0, 0, [2]⟩, ⟨2, .primitive, 0, 0, []⟩]

/--
Scored two levels above nought, the nested array fails at the array inside, after the text has
been finished.  Both arrays stay marked, and from then on either of them scores fifty.
-/
theorem nestedArray_stays_marked :
    ∃ after,
      outcome ((⟨doubles, .standard doubles⟩ : Scorer Float).score nestedArray 0 (-2)) .empty =
          (.error .negativeDepth, after) ∧
        after.active = [1, 0] ∧ after.size = 1 ∧
        Trail nestedArray (.empty : ScoreCache Nat Float) 0 [0, 1] ∧
        ∀ node ∈ [0, 1], ∀ depth,
          outcome ((⟨doubles, .standard doubles⟩ : Scorer Float).score nestedArray node depth)
            after = (.ok (doubles.ofNat 50), after) := by
  rcases marks_are_restored_unless_a_call_fails ⟨doubles, .standard doubles⟩
    doubles_weighsFromNought nestedArray 0 (-2) .empty with ⟨_, failed, _⟩
  refine ⟨_, rfl, rfl, rfl, ?_⟩
  rcases failed (Nesting.typeRoom - 1) .negativeDepth _ rfl with ⟨nodes, trail, left, _, later⟩
  obtain rfl : nodes = [0, 1] := by
    rw [← List.reverse_inj, ← List.append_nil nodes.reverse]
    exact left.symm
  exact ⟨trail, fun node member depth => later node member [] nestedArray _ depth⟩

/-- A text and nothing else. -/
def loneText : TypeGraph where
  nodes := [⟨0, .primitive, 0, 0, []⟩]

/--
Scoring a text below nought fails and leaves it marked.  One level down it then scores fifty,
where it scores one if the failed call is never made.
-/
theorem loneText_scores_fifty_after_a_failed_call :
    (∃ after,
      outcome ((⟨doubles, .standard doubles⟩ : Scorer Float).score loneText 0 (-1)) .empty =
          (.error .negativeDepth, after) ∧
        after.active = [0]) ∧
      ∃ after,
        outcome ((⟨reals, .standard reals⟩ : Scorer ℝ).score loneText 0 (-1)) .empty =
            (.error .negativeDepth, after) ∧
          (outcome ((⟨reals, .standard reals⟩ : Scorer ℝ).score loneText 0 1) after).1 = .ok 50 ∧
          (outcome ((⟨reals, .standard reals⟩ : Scorer ℝ).score loneText 0 1) .empty).1 =
            .ok 1 := by
  let scorer : Scorer ℝ := ⟨reals, .standard reals⟩
  refine ⟨⟨_, rfl, rfl⟩, ScoreCache.empty.mark 0, rfl, ?_, ?_⟩
  · have fifty : (outcome (scorer.score loneText 0 1) (ScoreCache.empty.mark 0)).1 =
        .ok (reals.ofNat 50) :=
      rfl
    rw [fifty]
    norm_num [reals, Arithmetic.ofNat, Arithmetic.exact]
  · have scored : (outcome (scorer.score loneText 0 1) .empty).1 =
        .ok (scorer.addScore reals.nothing (reals.ofNat 1) * logWeight 1) :=
      rfl
    have weight : logWeight 1 = 1 := by
      rw [logWeight_eq]
      norm_num
    rw [scored, weight]
    norm_num [scorer, Scorer.addScore, Scorer.ceiling, Policy.ceiling, Policy.standard,
      Policy.standardError, reals, Arithmetic.nothing, Arithmetic.ofNat, Arithmetic.exact]

end TypeGauge.Score
