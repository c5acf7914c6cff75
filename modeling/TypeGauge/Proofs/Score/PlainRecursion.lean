import TypeGauge.Proofs.Score.CycleSafety
import Mathlib.Data.List.Forall2

/-!
# Scoring without a cache

`plainWithin` is scoring as a plain recursion: no cache is consulted and nothing is
marked, so a node is scored again at every place where it stands.  A finished score
is given out whatever the depth, so the scorer can only agree with this recursion
where a node is always met at the same depth.  That is so on a graded graph, where
all scored paths from the root to a node have the same length.  The invariant is
that every score in the cache is the plain score at the depth of its node, and that
the nodes being scored stand above the ones that are requested, so that no cycle is
ever met.
-/

namespace TypeGauge.Score

open TypeGauge.Setup TypeGauge.Types

variable {α : Type}

/-- The target is so many scored edges away from the source, on some path. -/
inductive ScoredPath (graph : TypeGraph) (source : Nat) : Nat → Nat → Prop
  | here : ScoredPath graph source source 0
  | step {between target length : Nat}
      (path : ScoredPath graph source between length)
      (edge : ScoredEdge graph between target) :
      ScoredPath graph source target (length + 1)

theorem ScoredPath.head
    {graph : TypeGraph} {source between target length : Nat}
    (edge : ScoredEdge graph source between)
    (path : ScoredPath graph between target length) :
    ScoredPath graph source target (length + 1) := by
  induction path with
  | here => exact .step .here edge
  | step _ last hypothesis => exact .step hypothesis last

/-- A call that is refused as too deep has followed a scored path as long as its room. -/
theorem exists_path_of_tooDeep
    {scorer : Scorer α} {graph : TypeGraph} {room : Nat} (request : Request)
    {cache after : ScoreCache Nat α}
    (ran : outcome (scorer.scoreWithin graph room request.identity request.depth) cache =
      (.error .tooDeep, after)) :
    ∃ target length, ScoredPath graph request.identity target length ∧ room ≤ length := by
  induction room using Nat.strongRecOn generalizing request cache after with
  | _ room hypothesis =>
      rcases Scorer.scoreWithin_fault_cases ran with
        ⟨rfl, _⟩ | ⟨impossible, _⟩ | ⟨below, rfl, child, member, _, _, failed⟩
      · exact ⟨_, 0, .here, Nat.le_refl 0⟩
      · cases impossible
      · rcases hypothesis below (Nat.lt_succ_self below) child failed with
          ⟨target, length, path, long⟩
        have edge := ((mem_childRequests_iff _ _ _ _).mp member).1
        exact ⟨target, length + 1, .head edge path, Nat.succ_le_succ long⟩

/-- All scored paths from the root to a node have the same length. -/
def Graded (graph : TypeGraph) (root : Nat) : Prop :=
  ∀ target first second,
    ScoredPath graph root target first → ScoredPath graph root target second → first = second

namespace Scorer

/-- Score a node by recursion alone, followed at most `room` levels deep. -/
def plainWithin (scorer : Scorer α) (graph : TypeGraph) :
    (room : Nat) → (identity : Nat) → (depth : Int) → Option α
  | 0, _, _ => none
  | room + 1, identity, depth => do
      let node := graph.nodeAt identity
      let scores ← (scoredChildren graph node).mapM
        fun child => scorer.plainWithin graph room child (depth + 1)
      let factor ← scorer.arithmetic.weight? depth
      return scorer.arithmetic.mul (scorer.total node scores) factor

/-- The score that plain recursion gives as soon as there is room enough for it. -/
def Plain (scorer : Scorer α) (graph : TypeGraph) (identity : Nat) (depth : Int) (score : α) :
    Prop :=
  ∃ enough, ∀ room, enough ≤ room → scorer.plainWithin graph room identity depth = some score

variable {scorer : Scorer α} {graph : TypeGraph}

/-- Plain recursion gives one score. -/
theorem Plain.unique
    {identity : Nat} {depth : Int} {first second : α}
    (plain : scorer.Plain graph identity depth first)
    (other : scorer.Plain graph identity depth second) :
    first = second := by
  rcases plain with ⟨enough, gives⟩
  rcases other with ⟨otherEnough, otherGives⟩
  have agreed := gives (max enough otherEnough) (Nat.le_max_left _ _)
  rw [otherGives _ (Nat.le_max_right _ _)] at agreed
  exact (Option.some.inj agreed).symm

/-- Room enough for each of several nodes is room enough for all of them. -/
theorem Plain.mapM
    {depth : Int} {identities : List Nat} {scores : List α}
    (plain : List.Forall₂ (fun identity score => scorer.Plain graph identity depth score)
      identities scores) :
    ∃ enough, ∀ room, enough ≤ room →
      (identities.mapM fun identity => scorer.plainWithin graph room identity depth) =
        some scores := by
  induction plain with
  | nil => exact ⟨0, fun _ _ => rfl⟩
  | cons head _ hypothesis =>
      rcases head with ⟨headEnough, headGives⟩
      rcases hypothesis with ⟨restEnough, restGives⟩
      refine ⟨max headEnough restEnough, ?_⟩
      intro room roomy
      have headScore := headGives room (by omega)
      have restScores := restGives room (by omega)
      simp [List.mapM_cons, headScore, restScores]

/-- The plain score of a node is computed from the plain scores of its scored children. -/
theorem Plain.intro
    {identity : Nat} {depth : Int} {factor : α} {scores : List α}
    (children : List.Forall₂ (fun child score => scorer.Plain graph child (depth + 1) score)
      (scoredChildren graph (graph.nodeAt identity)) scores)
    (weighed : scorer.arithmetic.weight? depth = some factor) :
    scorer.Plain graph identity depth
      (scorer.arithmetic.mul (scorer.total (graph.nodeAt identity) scores) factor) := by
  rcases Plain.mapM children with ⟨enough, gives⟩
  refine ⟨enough + 1, ?_⟩
  intro room roomy
  obtain ⟨below, rfl⟩ : ∃ below, room = below + 1 := ⟨room - 1, by omega⟩
  simp [plainWithin, gives below (by omega), weighed]

/-- Every finished score of a node below the root is its plain score at its depth. -/
def Correct (scorer : Scorer α) (graph : TypeGraph) (root : Nat) (depth : Int)
    (cache : ScoreCache Nat α) : Prop :=
  ∀ target length score,
    ScoredPath graph root target length → cache.get? target = some score →
      scorer.Plain graph target (depth + length) score

/-- A cache stays correct when a node is finished with its plain score. -/
theorem Correct.finish
    {root identity length : Nat} {depth : Int} {score : α} {cache : ScoreCache Nat α}
    (graded : Graded graph root) (correct : scorer.Correct graph root depth cache)
    (path : ScoredPath graph root identity length)
    (plain : scorer.Plain graph identity (depth + length) score) :
    scorer.Correct graph root depth ((cache.unmark identity).put identity score) := by
  intro target below found targetPath present
  by_cases own : target = identity
  · subst own
    rw [ScoreCache.get?_put_same, Option.some.injEq] at present
    subst present
    rw [graded _ _ _ targetPath path]
    exact plain
  · rw [ScoreCache.get?_put_other own, ScoreCache.get?_unmark] at present
    exact correct target below found targetPath present

end Scorer

/-- The request is for a node below the root, at the depth at which it stands there. -/
def Request.PlacedBelow (request : Request) (graph : TypeGraph) (root : Nat) (depth : Int) :
    Prop :=
  ∃ length : Nat,
    ScoredPath graph root request.identity length ∧ request.depth = depth + length

theorem placedBelow_of_mem_childRequests
    {graph : TypeGraph} {root identity length : Nat} {depth : Int}
    (path : ScoredPath graph root identity length) {request : Request}
    (requested : request ∈ childRequests graph identity (depth + length)) :
    request.PlacedBelow graph root depth := by
  rcases (mem_childRequests_iff _ _ _ _).mp requested with ⟨edge, deeper⟩
  refine ⟨length + 1, path.step edge, ?_⟩
  rw [deeper]
  push_cast
  omega

/-- The nodes being scored that stand below the root stand above all requested depths. -/
def ActiveAbove (graph : TypeGraph) (root : Nat) (depth : Int) (active : List Nat)
    (requests : List Request) : Prop :=
  ∀ identity ∈ active, ∀ length : Nat, ScoredPath graph root identity length →
    ∀ request ∈ requests, depth + length < request.depth

theorem ActiveAbove.tail
    {graph : TypeGraph} {root : Nat} {depth : Int} {active : List Nat}
    {request : Request} {rest : List Request}
    (above : ActiveAbove graph root depth active (request :: rest)) :
    ActiveAbove graph root depth active rest := by
  intro identity member length path other requested
  exact above identity member length path other (List.mem_cons_of_mem request requested)

/-- A node that is marked stands one level above its children, and the others still higher. -/
theorem ActiveAbove.children
    {graph : TypeGraph} {root identity length : Nat} {depth : Int}
    {rest : List Request} {cache : ScoreCache Nat α} (graded : Graded graph root)
    (path : ScoredPath graph root identity length)
    (above : ActiveAbove graph root depth cache.active (⟨identity, depth + length⟩ :: rest)) :
    ActiveAbove graph root depth (cache.mark identity).active
      (childRequests graph identity (depth + length)) := by
  intro active member below activePath request requested
  have deeper := ((mem_childRequests_iff _ _ _ _).mp requested).2
  rcases (ScoreCache.mem_active_mark _ _ _).mp member with rfl | outer
  · have level := graded _ _ _ activePath path
    omega
  · have higher := above active outer below activePath _ List.mem_cons_self
    simp only at higher
    omega

/--
On a graded graph, requests for nodes that stand below the ones being scored are
answered by plain scores, and the cache stays correct.
-/
theorem Visits.plain
    {scorer : Scorer α} {graph : TypeGraph} {root : Nat} {depth : Int}
    (graded : Graded graph root)
    {requests : List Request} {cache after : ScoreCache Nat α} {scores : List α}
    {journal : List (Finish α)}
    (visits : Visits scorer graph requests cache scores after journal)
    (placed : ∀ request ∈ requests, request.PlacedBelow graph root depth)
    (above : ActiveAbove graph root depth cache.active requests)
    (correct : scorer.Correct graph root depth cache) :
    List.Forall₂
        (fun request score => scorer.Plain graph request.identity request.depth score)
        requests scores ∧
      scorer.Correct graph root depth after := by
  induction visits with
  | done => exact ⟨.nil, correct⟩
  | known finished _ hypothesis =>
      rw [List.forall_mem_cons] at placed
      rcases placed with ⟨⟨length, path, rfl⟩, placedRest⟩
      rcases hypothesis placedRest above.tail correct with ⟨rest, kept⟩
      exact ⟨.cons (correct _ _ _ path finished) rest, kept⟩
  | cycle _ active _ _ =>
      -- A requested node stands below all that are being scored, so it is none of them.
      rcases placed _ List.mem_cons_self with ⟨length, path, same⟩
      have below := above _ active length path _ List.mem_cons_self
      simp only at same below
      omega
  | @finish identity _ _ cache inner _ _ score _ _ _ _ untouched children weighed scored
      _ inside hypothesis =>
      rw [List.forall_mem_cons] at placed
      rcases placed with ⟨⟨length, path, same⟩, placedRest⟩
      simp only at same
      subst same
      have childrenPlaced : ∀ request ∈ childRequests graph identity (depth + length),
          request.PlacedBelow graph root depth := by
        intro request requested
        exact placedBelow_of_mem_childRequests path requested
      rcases inside childrenPlaced (above.children graded path) correct with
        ⟨childPlain, innerCorrect⟩
      have plain : scorer.Plain graph identity (depth + length) score := by
        rw [scored]
        exact .intro (List.forall₂_map_left_iff.mp childPlain) weighed
      have sameActive : ((inner.unmark identity).put identity score).active = cache.active :=
        ScoreCache.active_unmark_of_active_eq_mark untouched.2 children.active_eq
      rw [sameActive] at hypothesis
      rcases hypothesis placedRest above.tail (innerCorrect.finish graded path plain) with
        ⟨restPlain, kept⟩
      exact ⟨.cons plain restPlain, kept⟩

/-- A node below an untouched root is reached from it when all nodes below are untouched. -/
theorem ScoredPath.reaches
    {graph : TypeGraph} {cache : ScoreCache Nat α} {root target length : Nat}
    (untouched : ∀ target length, ScoredPath graph root target length → cache.Untouched target)
    (path : ScoredPath graph root target length) :
    Reaches graph cache root target := by
  refine ⟨untouched root 0 .here, ?_⟩
  induction path with
  | here => exact .refl
  | step shorter edge hypothesis =>
      exact hypothesis.tail ⟨edge, untouched _ _ (shorter.step edge)⟩

/--
On a graded graph none of whose nodes below the root is touched, the answer to a
request for the root is its plain score, and so is every score that is left.
-/
theorem Visits.plain_of_untouched
    {scorer : Scorer α} {graph : TypeGraph} {root : Nat} {depth : Int}
    (graded : Graded graph root)
    {cache after : ScoreCache Nat α} {score : α} {journal : List (Finish α)}
    (untouched : ∀ target length, ScoredPath graph root target length → cache.Untouched target)
    (visits : Visits scorer graph [⟨root, depth⟩] cache [score] after journal) :
    scorer.Plain graph root depth score ∧
      ∀ (target length : Nat), ScoredPath graph root target length →
        ∃ found, after.get? target = some found ∧
          scorer.Plain graph target (depth + length) found := by
  have placed : ∀ request ∈ [(⟨root, depth⟩ : Request)],
      request.PlacedBelow graph root depth := by
    intro request member
    rw [List.mem_singleton.mp member]
    exact ⟨0, .here, by simp⟩
  have above : ActiveAbove graph root depth cache.active [⟨root, depth⟩] := by
    intro active member length path
    exact absurd member (untouched active length path).2
  have correct : scorer.Correct graph root depth cache := by
    intro target length found path present
    simp [(untouched target length path).1] at present
  rcases visits.plain graded placed above correct with ⟨plain, kept⟩
  refine ⟨(List.forall₂_cons.mp plain).1, ?_⟩
  intro target length path
  have finished : target ∈ journal.map Finish.identity :=
    visits.mem_journal_iff_reaches.mpr
      ⟨_, List.mem_singleton_self _, path.reaches untouched⟩
  rcases Option.ne_none_iff_exists'.mp
    ((visits.mem_journal_iff (untouched target length path).1).mp finished) with
    ⟨found, present⟩
  exact ⟨found, present, kept target length found path present⟩

end TypeGauge.Score
