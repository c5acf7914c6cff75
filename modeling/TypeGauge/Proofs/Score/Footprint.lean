import TypeGauge.Proofs.Score.Visit
import Mathlib.Logic.Relation

/-!
# The footprint of scoring

Scoring a node of any type graph, with any sharing and any cycles, in any cache:
what the call changes is known exactly.  The marks are the ones from before, no
finished score changes, and the nodes that are finished are the untouched nodes
that the requested one reaches along scored edges through untouched nodes, each
of them once.  Calls end because every nested call marks one more untouched node
of the graph.
-/

namespace TypeGauge.Score

open TypeGauge.Setup TypeGauge.Types

variable {α : Type}

/-- Scoring the parent asks for the score of the child. -/
def ScoredEdge (graph : TypeGraph) (parent child : Nat) : Prop :=
  child ∈ scoredChildren graph (graph.nodeAt parent)

instance (graph : TypeGraph) (parent child : Nat) : Decidable (ScoredEdge graph parent child) :=
  inferInstanceAs (Decidable (child ∈ scoredChildren graph (graph.nodeAt parent)))

/--
A node is reached from another along scored edges on which every node is
untouched, both ends included.
-/
def Reaches (graph : TypeGraph) (cache : ScoreCache Nat α) (source target : Nat) : Prop :=
  cache.Untouched source ∧
    Relation.ReflTransGen
      (fun parent child => ScoredEdge graph parent child ∧ cache.Untouched child)
      source target

theorem mem_childRequests_iff
    (graph : TypeGraph) (identity : Nat) (depth : Int) (request : Request) :
    request ∈ childRequests graph identity depth ↔
      ScoredEdge graph identity request.identity ∧ request.depth = depth + 1 := by
  rcases request with ⟨child, childDepth⟩
  simp only [childRequests, List.mem_map, Request.mk.injEq, ScoredEdge]
  constructor
  · rintro ⟨other, member, rfl, rfl⟩
    exact ⟨member, rfl⟩
  · rintro ⟨member, rfl⟩
    exact ⟨child, member, rfl, rfl⟩

theorem ScoredEdge.mem_childRequests
    {graph : TypeGraph} {parent child : Nat} (edge : ScoredEdge graph parent child) (depth : Int) :
    ⟨child, depth + 1⟩ ∈ childRequests graph parent depth :=
  (mem_childRequests_iff graph parent depth _).mpr ⟨edge, rfl⟩

namespace Reaches

variable {graph : TypeGraph} {cache other : ScoreCache Nat α} {source between target : Nat}

theorem mono
    (fewer : ∀ identity, cache.Untouched identity → other.Untouched identity)
    (reaches : Reaches graph cache source target) :
    Reaches graph other source target :=
  ⟨fewer source reaches.1,
    Relation.ReflTransGen.mono (fun _ child step => ⟨step.1, fewer child step.2⟩) _ _ reaches.2⟩

theorem head
    (untouched : cache.Untouched source) (edge : ScoredEdge graph source between)
    (reaches : Reaches graph cache between target) :
    Reaches graph cache source target :=
  ⟨untouched, .head ⟨edge, reaches.1⟩ reaches.2⟩

theorem untouched_target (reaches : Reaches graph cache source target) :
    cache.Untouched target := by
  rcases reaches with ⟨untouched, path⟩
  cases path with
  | refl => exact untouched
  | tail _ step => exact step.2

end Reaches

namespace Visits

variable {scorer : Scorer α} {graph : TypeGraph} {requests : List Request}
  {cache after : ScoreCache Nat α} {scores : List α} {journal : List (Finish α)}

/-! ## What stays -/

/-- Every mark that is set is taken off again. -/
theorem active_eq (visits : Visits scorer graph requests cache scores after journal) :
    after.active = cache.active := by
  induction visits with
  | done => rfl
  | known _ _ hypothesis => exact hypothesis
  | cycle _ _ _ hypothesis => exact hypothesis
  | finish untouched _ _ _ _ inner hypothesis =>
      rw [hypothesis, ScoreCache.put_active]
      exact ScoreCache.active_unmark_of_active_eq_mark untouched.2 inner

/-- A node that is being scored is not finished by the calls inside. -/
theorem get?_eq_none_of_active
    (visits : Visits scorer graph requests cache scores after journal)
    {identity : Nat} (active : identity ∈ cache.active)
    (unfinished : cache.get? identity = none) :
    after.get? identity = none := by
  induction visits with
  | done => exact unfinished
  | known _ _ hypothesis => exact hypothesis active unfinished
  | cycle _ _ _ hypothesis => exact hypothesis active unfinished
  | finish untouched children _ _ _ inside hypothesis =>
      refine hypothesis ?_ ?_
      · rw [ScoreCache.put_active,
          ScoreCache.active_unmark_of_active_eq_mark untouched.2 children.active_eq]
        exact active
      · rw [ScoreCache.get?_put_eq_none_iff]
        constructor
        · rintro rfl
          exact untouched.2 active
        · exact inside (by simp [active]) unfinished

/-- The cache afterwards is the cache before with the journal at its end. -/
theorem scores_eq (visits : Visits scorer graph requests cache scores after journal) :
    after.scores = cache.scores ++ journal.map Finish.entry := by
  induction visits with
  | done => simp
  | known _ _ hypothesis => exact hypothesis
  | cycle _ _ _ hypothesis => exact hypothesis
  | @finish identity _ _ _ inner _ _ _ _ _ _ _ untouched children _ _ _ inside hypothesis =>
      have unfinished : (inner.unmark identity).get? identity = none :=
        children.get?_eq_none_of_active (by simp) untouched.1
      rw [hypothesis, ScoreCache.put_scores unfinished, ScoreCache.unmark_scores, inside]
      simp [Finish.entry]

/-- No finished score is lost or changed. -/
theorem get?_of_get?
    (visits : Visits scorer graph requests cache scores after journal)
    {identity : Nat} {score : α} (finished : cache.get? identity = some score) :
    after.get? identity = some score := by
  have found : ScoreCache.lookup? identity cache.scores = some score := finished
  rw [ScoreCache.get?, visits.scores_eq, ScoreCache.lookup?_append, found]
  rfl

theorem untouched_of_untouched
    (visits : Visits scorer graph requests cache scores after journal)
    {identity : Nat} (untouched : after.Untouched identity) :
    cache.Untouched identity := by
  constructor
  · cases finished : cache.get? identity with
    | none => rfl
    | some score => simpa [visits.get?_of_get? finished] using untouched.1
  · rw [← visits.active_eq]
    exact untouched.2

/-! ## What is finished -/

/-- A node that is not finished before and is afterwards stands in the journal. -/
theorem mem_journal_iff
    (visits : Visits scorer graph requests cache scores after journal) {identity : Nat}
    (unfinished : cache.get? identity = none) :
    identity ∈ journal.map Finish.identity ↔ after.get? identity ≠ none := by
  have absent : ScoreCache.lookup? identity cache.scores = none := unfinished
  have keys :
      (journal.map Finish.entry).map Prod.fst = journal.map Finish.identity := by
    simp [Finish.entry, Function.comp_def]
  rw [ScoreCache.get?, visits.scores_eq, ScoreCache.lookup?_append, absent, Option.none_or, ne_eq,
    ScoreCache.lookup?_eq_none_iff, keys, not_not]

/-- Every requested node is finished afterwards, unless it is being scored outside. -/
theorem get?_of_mem_requests
    (visits : Visits scorer graph requests cache scores after journal)
    {request : Request} (member : request ∈ requests) :
    after.get? request.identity ≠ none ∨ request.identity ∈ cache.active := by
  induction visits with
  | done => simp at member
  | known finished others hypothesis =>
      rcases List.mem_cons.mp member with rfl | later
      · left
        simp [others.get?_of_get? finished]
      · exact hypothesis later
  | cycle _ active _ hypothesis =>
      rcases List.mem_cons.mp member with rfl | later
      · exact Or.inr active
      · exact hypothesis later
  | finish untouched children _ _ others _ hypothesis =>
      rcases List.mem_cons.mp member with rfl | later
      · left
        simp [others.get?_of_get? (ScoreCache.get?_put_same _ _ _)]
      · rw [← ScoreCache.active_unmark_of_active_eq_mark untouched.2 children.active_eq]
        exact hypothesis later

/-- What the calls for a node's children settle is settled when the node itself is finished. -/
theorem settled_of_inner
    {identity other : Nat} {score : α} {inner : ScoreCache Nat α}
    (others : Visits scorer graph requests ((inner.unmark identity).put identity score)
      scores after journal)
    (settled : inner.get? other ≠ none ∨ other ∈ (cache.mark identity).active) :
    after.get? other ≠ none ∨ other ∈ cache.active := by
  have finished : after.get? identity = some score :=
    others.get?_of_get? (ScoreCache.get?_put_same _ _ _)
  by_cases same : other = identity
  · left
    simp [same, finished]
  · rcases settled with finishedInside | active
    · left
      rcases Option.ne_none_iff_exists'.mp finishedInside with ⟨old, present⟩
      have kept : ((inner.unmark identity).put identity score).get? other = some old := by
        rw [ScoreCache.get?_put_other same, ScoreCache.get?_unmark, present]
      simp [others.get?_of_get? kept]
    · right
      simpa [same] using active

/-- The scored children of a node that is finished are finished too or being scored outside. -/
theorem get?_of_scoredEdge
    (visits : Visits scorer graph requests cache scores after journal)
    {parent child : Nat} (member : parent ∈ journal.map Finish.identity)
    (edge : ScoredEdge graph parent child) :
    after.get? child ≠ none ∨ child ∈ cache.active := by
  induction visits with
  | done => simp at member
  | known _ _ hypothesis => exact hypothesis member
  | cycle _ _ _ hypothesis => exact hypothesis member
  | finish untouched children _ _ others inside hypothesis =>
      simp only [List.map_append, List.map_cons, List.mem_append, List.mem_cons] at member
      rcases member with before | rfl | later
      · exact settled_of_inner others (inside before)
      · exact settled_of_inner others
          (children.get?_of_mem_requests (edge.mem_childRequests _))
      · rw [← ScoreCache.active_unmark_of_active_eq_mark untouched.2 children.active_eq]
        exact hypothesis later

/-- Nodes that are untouched after a node is finished were untouched before. -/
theorem untouched_of_untouched_put
    {identity other : Nat} {depth : Int} {score : α} {inner : ScoreCache Nat α}
    {childScores : List α} {inside : List (Finish α)}
    (inactive : identity ∉ cache.active)
    (children : Visits scorer graph (childRequests graph identity depth)
      (cache.mark identity) childScores inner inside)
    (untouched : ((inner.unmark identity).put identity score).Untouched other) :
    other ≠ identity ∧ inner.Untouched other := by
  rcases untouched with ⟨unfinished, otherInactive⟩
  rw [ScoreCache.get?_put_eq_none_iff, ScoreCache.get?_unmark] at unfinished
  refine ⟨unfinished.1, unfinished.2, ?_⟩
  rw [ScoreCache.put_active,
    ScoreCache.active_unmark_of_active_eq_mark inactive children.active_eq] at otherInactive
  rw [children.active_eq, ScoreCache.mem_active_mark, not_or]
  exact ⟨unfinished.1, otherInactive⟩

/-- Only nodes that a requested node reaches are finished. -/
theorem reaches_of_mem_journal
    (visits : Visits scorer graph requests cache scores after journal)
    {identity : Nat} (member : identity ∈ journal.map Finish.identity) :
    ∃ request ∈ requests, Reaches graph cache request.identity identity := by
  induction visits with
  | done => simp at member
  | known _ _ hypothesis =>
      rcases hypothesis member with ⟨request, requested, reaches⟩
      exact ⟨request, List.mem_cons_of_mem _ requested, reaches⟩
  | cycle _ _ _ hypothesis =>
      rcases hypothesis member with ⟨request, requested, reaches⟩
      exact ⟨request, List.mem_cons_of_mem _ requested, reaches⟩
  | finish untouched children _ _ others inside hypothesis =>
      simp only [List.map_append, List.map_cons, List.mem_append, List.mem_cons] at member
      rcases member with before | rfl | later
      · rcases inside before with ⟨request, requested, reaches⟩
        have edge := ((mem_childRequests_iff _ _ _ _).mp requested).1
        have outside :=
          reaches.mono fun other => fun untouchedInside =>
            ((ScoreCache.untouched_mark_iff _ _ other).mp untouchedInside).2
        exact ⟨_, List.mem_cons_self, outside.head untouched edge⟩
      · exact ⟨_, List.mem_cons_self, untouched, .refl⟩
      · rcases hypothesis later with ⟨request, requested, reaches⟩
        refine ⟨request, List.mem_cons_of_mem _ requested, reaches.mono fun other left => ?_⟩
        have inner := (untouched_of_untouched_put untouched.2 children left).2
        exact ((ScoreCache.untouched_mark_iff _ _ other).mp
          (children.untouched_of_untouched inner)).2

/-- The nodes that are finished are exactly the ones that a requested node reaches. -/
theorem mem_journal_iff_reaches
    (visits : Visits scorer graph requests cache scores after journal) {identity : Nat} :
    identity ∈ journal.map Finish.identity ↔
      ∃ request ∈ requests, Reaches graph cache request.identity identity := by
  constructor
  · exact visits.reaches_of_mem_journal
  · rintro ⟨request, requested, untouched, path⟩
    induction path with
    | refl =>
        rw [visits.mem_journal_iff untouched.1]
        exact (visits.get?_of_mem_requests requested).resolve_right untouched.2
    | tail _ step member =>
        rw [visits.mem_journal_iff step.2.1]
        exact (visits.get?_of_scoredEdge member step.1).resolve_right step.2.2

theorem untouched_of_mem_journal
    (visits : Visits scorer graph requests cache scores after journal)
    {identity : Nat} (member : identity ∈ journal.map Finish.identity) :
    cache.Untouched identity := by
  rcases visits.reaches_of_mem_journal member with ⟨_, _, reaches⟩
  exact reaches.untouched_target

/-- No node is finished twice. -/
theorem nodup_journal
    (visits : Visits scorer graph requests cache scores after journal) :
    (journal.map Finish.identity).Nodup := by
  induction visits with
  | done => simp
  | known _ _ hypothesis => exact hypothesis
  | cycle _ _ _ hypothesis => exact hypothesis
  | @finish identity _ _ _ _ _ _ _ _ _ inside journal untouched children _ _ others
      insideNodup journalNodup =>
      have later : ∀ other ∈ journal.map Finish.identity,
          other ≠ identity ∧ other ∉ inside.map Finish.identity := by
        intro other member
        have left := others.untouched_of_mem_journal member
        have inner := untouched_of_untouched_put untouched.2 children left
        refine ⟨inner.1, ?_⟩
        intro before
        have unfinished := (children.untouched_of_mem_journal before).1
        exact (children.mem_journal_iff unfinished).mp before inner.2.1
      have own : identity ∉ inside.map Finish.identity := by
        intro before
        have marked := children.untouched_of_mem_journal before
        exact ((ScoreCache.untouched_mark_iff _ _ _).mp marked).1 rfl
      rw [List.map_append, List.map_cons, List.nodup_append, List.nodup_cons]
      refine ⟨insideNodup, ⟨fun member => (later _ member).1 rfl, journalNodup⟩, ?_⟩
      rintro first before second member rfl
      rcases List.mem_cons.mp member with rfl | after
      · exact own before
      · exact (later _ after).2 before

/-- The answer to a request for an untouched node is the score that the node is finished with. -/
theorem get?_requested
    {request : Request} {score : α}
    (visits : Visits scorer graph [request] cache [score] after journal)
    (untouched : cache.Untouched request.identity) :
    after.get? request.identity = some score := by
  cases visits with
  | known finished _ => simp [untouched.1] at finished
  | cycle _ active _ => exact absurd active untouched.2
  | finish _ _ _ _ others =>
      exact others.get?_of_get? (ScoreCache.get?_put_same _ _ _)

end Visits

end TypeGauge.Score
