/-!
# Score caches

A cache holds the finished scores of one analysis, in the order in which they were
finished, and the identities of the nodes that are being scored.  Both are kept by
identity, so two nodes of the same structure have separate entries.
-/

namespace TypeGauge.Score

/-- Finished scores and the nodes that are being scored. -/
structure ScoreCache (ι α : Type) where
  /-- The finished scores, the first finished first. -/
  scores : List (ι × α)
  /-- The identities of the nodes that are being scored. -/
  active : List ι
deriving Inhabited

namespace ScoreCache

variable {ι α : Type} [DecidableEq ι]

/-- The cache of an analysis that has not begun. -/
def empty : ScoreCache ι α :=
  ⟨[], []⟩

/-- The score under an identity in a list of scores. -/
def lookup? (identity : ι) : List (ι × α) → Option α
  | [] => none
  | (other, score) :: rest => if other = identity then some score else lookup? identity rest

/-- The finished score of a node. -/
def get? (cache : ScoreCache ι α) (identity : ι) : Option α :=
  lookup? identity cache.scores

/-- Whether a node has a finished score. -/
def has (cache : ScoreCache ι α) (identity : ι) : Bool :=
  (cache.get? identity).isSome

/-- Set a score in a list of scores: one that is there keeps its place, another comes last. -/
def assign (identity : ι) (score : α) : List (ι × α) → List (ι × α)
  | [] => [(identity, score)]
  | (other, old) :: rest =>
      if other = identity then (other, score) :: rest else (other, old) :: assign identity score rest

/-- Finish a node with a score. -/
def put (cache : ScoreCache ι α) (identity : ι) (score : α) : ScoreCache ι α :=
  { cache with scores := assign identity score cache.scores }

/-- Record that a node is being scored. -/
def mark (cache : ScoreCache ι α) (identity : ι) : ScoreCache ι α :=
  { cache with
    active := if identity ∈ cache.active then cache.active else identity :: cache.active }

/-- Record that a node is no longer being scored. -/
def unmark (cache : ScoreCache ι α) (identity : ι) : ScoreCache ι α :=
  { cache with active := cache.active.filter fun other => other != identity }

/-- Whether a node is being scored. -/
def isActive (cache : ScoreCache ι α) (identity : ι) : Bool :=
  decide (identity ∈ cache.active)

/-- The number of finished scores. -/
def size (cache : ScoreCache ι α) : Nat :=
  cache.scores.length

/-- The number of nodes that are being scored. -/
def activeCount (cache : ScoreCache ι α) : Nat :=
  cache.active.length

@[simp]
theorem lookup?_assign_same (identity : ι) (score : α) (scores : List (ι × α)) :
    lookup? identity (assign identity score scores) = some score := by
  induction scores with
  | nil => simp [assign, lookup?]
  | cons head rest hypothesis =>
      obtain ⟨other, old⟩ := head
      by_cases same : other = identity <;> simp [assign, lookup?, same, hypothesis]

/-- Setting one score leaves the others. -/
theorem lookup?_assign_other
    {identity other : ι} (different : other ≠ identity)
    (score : α) (scores : List (ι × α)) :
    lookup? other (assign identity score scores) = lookup? other scores := by
  induction scores with
  | nil => simp [assign, lookup?, Ne.symm different]
  | cons head rest hypothesis =>
      obtain ⟨name, old⟩ := head
      by_cases same : name = identity
      · subst same
        simp [assign, lookup?, Ne.symm different]
      · by_cases hit : name = other
        · subst hit
          simp [assign, lookup?, same]
        · simp [assign, lookup?, same, hit, hypothesis]

@[simp]
theorem get?_put_same (cache : ScoreCache ι α) (identity : ι) (score : α) :
    (cache.put identity score).get? identity = some score := by
  simp [put, get?]

end ScoreCache

end TypeGauge.Score
