import TypeGauge.Score.Cache
import Mathlib.Data.List.Basic

/-!
# Laws of score caches

A cache is looked at through two views: the finished score of an identity and
the list of the identities that are being scored.  This module says what marking,
unmarking and finishing do to either view.  Finishing an identity that has no
score appends an entry, and an identity that is marked and then unmarked leaves
the marks as they were.

An identity is untouched when it has no finished score and is not being scored.
Scoring looks into a node only if it is untouched.
-/

namespace TypeGauge.Score.ScoreCache

variable {ι α : Type} [DecidableEq ι]

/-- The identity has no finished score and is not being scored. -/
def Untouched (cache : ScoreCache ι α) (identity : ι) : Prop :=
  cache.get? identity = none ∧ identity ∉ cache.active

instance (cache : ScoreCache ι α) (identity : ι) :
    Decidable (cache.Untouched identity) :=
  match equation : cache.get? identity with
  | some _ => isFalse fun untouched => by simp [untouched.1] at equation
  | none =>
      decidable_of_iff (identity ∉ cache.active)
        ⟨fun inactive => ⟨equation, inactive⟩, fun untouched => untouched.2⟩

/-! ## Looking scores up -/

theorem lookup?_append (identity : ι) (first second : List (ι × α)) :
    lookup? identity (first ++ second) =
      (lookup? identity first).or (lookup? identity second) := by
  induction first with
  | nil => simp [lookup?]
  | cons head rest hypothesis =>
      rcases head with ⟨other, score⟩
      by_cases same : other = identity
      · simp [lookup?, same]
      · simp [lookup?, same, hypothesis]

theorem lookup?_eq_none_iff (identity : ι) (scores : List (ι × α)) :
    lookup? identity scores = none ↔ identity ∉ scores.map Prod.fst := by
  induction scores with
  | nil => simp [lookup?]
  | cons head rest hypothesis =>
      rcases head with ⟨other, score⟩
      by_cases same : other = identity
      · simp [lookup?, same]
      · simp [lookup?, same, Ne.symm same, hypothesis]

/-! ## Finishing a node -/

theorem assign_of_lookup?_eq_none
    {identity : ι} {scores : List (ι × α)}
    (absent : lookup? identity scores = none) (score : α) :
    assign identity score scores = scores ++ [(identity, score)] := by
  induction scores with
  | nil => rfl
  | cons head rest hypothesis =>
      rcases head with ⟨other, old⟩
      by_cases same : other = identity
      · simp [lookup?, same] at absent
      · simp only [lookup?, same, if_false] at absent
        simp [assign, same, hypothesis absent]

/-- A node that has no score yet is finished at the end of the list of scores. -/
theorem put_scores
    {cache : ScoreCache ι α} {identity : ι}
    (absent : cache.get? identity = none) (score : α) :
    (cache.put identity score).scores = cache.scores ++ [(identity, score)] :=
  assign_of_lookup?_eq_none absent score

theorem get?_put_other
    {identity other : ι} (different : other ≠ identity)
    (cache : ScoreCache ι α) (score : α) :
    (cache.put identity score).get? other = cache.get? other :=
  lookup?_assign_other different score cache.scores

@[simp]
theorem put_active (cache : ScoreCache ι α) (identity : ι) (score : α) :
    (cache.put identity score).active = cache.active :=
  rfl

theorem get?_put_eq_none_iff
    (cache : ScoreCache ι α) (identity other : ι) (score : α) :
    (cache.put identity score).get? other = none ↔
      other ≠ identity ∧ cache.get? other = none := by
  by_cases same : other = identity
  · subst same
    simp
  · simp [get?_put_other same, same]

/-! ## Marks -/

@[simp]
theorem get?_mark (cache : ScoreCache ι α) (identity other : ι) :
    (cache.mark identity).get? other = cache.get? other :=
  rfl

@[simp]
theorem get?_unmark (cache : ScoreCache ι α) (identity other : ι) :
    (cache.unmark identity).get? other = cache.get? other :=
  rfl

@[simp]
theorem mark_scores (cache : ScoreCache ι α) (identity : ι) :
    (cache.mark identity).scores = cache.scores :=
  rfl

@[simp]
theorem unmark_scores (cache : ScoreCache ι α) (identity : ι) :
    (cache.unmark identity).scores = cache.scores :=
  rfl

@[simp]
theorem mem_active_mark (cache : ScoreCache ι α) (identity other : ι) :
    other ∈ (cache.mark identity).active ↔
      other = identity ∨ other ∈ cache.active := by
  by_cases active : identity ∈ cache.active
  · simp only [mark, active, if_true]
    constructor
    · exact Or.inr
    · rintro (rfl | member)
      · exact active
      · exact member
  · simp [mark, active]

/-- The marks that a node's own mark was put on are back when it is taken off. -/
theorem active_unmark_of_active_eq_mark
    {cache inner : ScoreCache ι α} {identity : ι}
    (inactive : identity ∉ cache.active)
    (same : inner.active = (cache.mark identity).active) :
    (inner.unmark identity).active = cache.active := by
  have marked : inner.active = identity :: cache.active := by
    simpa [mark, inactive] using same
  have others : ∀ other ∈ cache.active, (other != identity) = true := by
    intro other member
    have different : other ≠ identity := by
      rintro rfl
      exact inactive member
    simpa using different
  simp [unmark, marked, List.filter_eq_self.mpr others]

theorem untouched_mark_iff
    (cache : ScoreCache ι α) (identity other : ι) :
    (cache.mark identity).Untouched other ↔
      other ≠ identity ∧ cache.Untouched other := by
  simp only [Untouched, get?_mark, mem_active_mark, not_or]
  constructor
  · rintro ⟨absent, different, inactive⟩
    exact ⟨different, absent, inactive⟩
  · rintro ⟨different, absent, inactive⟩
    exact ⟨absent, different, inactive⟩

end TypeGauge.Score.ScoreCache
