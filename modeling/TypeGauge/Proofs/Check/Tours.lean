import TypeGauge.Check.Tour
import TypeGauge.Proofs.Data.Inside
import Mathlib.Data.List.Perm.Basic

/-!
# Tours

The tours of several nodes in turn are complete exactly when each of them is, and then
they visit what each visits, one after the other.  So what complete tours visit
depends on the order of the nodes only up to order.

A tour goes from a node to nodes that it holds.  So everything it visits stands in the
node where it starts, and it is complete unless that node is nested deeper than there
is room for.
-/

namespace TypeGauge.Check

open TypeGauge.Data

variable {tourOne : Value → Tour} {nodes : List Value}

theorem tourAll_isComplete_iff :
    (tourAll tourOne nodes).isComplete = true ↔
      ∀ node ∈ nodes, (tourOne node).isComplete = true := by
  induction nodes with
  | nil => simp [tourAll]
  | cons node rest hypothesis =>
      rw [tourAll, Tour.andThen, List.forall_mem_cons]
      by_cases complete : (tourOne node).isComplete = true
      · simp [complete, hypothesis]
      · simp [complete]

theorem visited_tourAll (complete : (tourAll tourOne nodes).isComplete = true) :
    (tourAll tourOne nodes).visited = nodes.flatMap fun node => (tourOne node).visited := by
  induction nodes with
  | nil => rfl
  | cons node rest hypothesis =>
      have each := tourAll_isComplete_iff.mp complete
      rw [List.forall_mem_cons, ← tourAll_isComplete_iff] at each
      rw [tourAll, Tour.andThen, if_pos each.1, List.flatMap_cons, hypothesis each.2]

/-! ## The walk of a visitor -/

namespace Visitor

variable {m : Type → Type} [Monad m] [LawfulMonad m]

theorem visitEach_append (visit : Value → m Unit) (first second : List Value) :
    visitEach visit (first ++ second) =
      (do visitEach visit first; visitEach visit second) := by
  induction first with
  | nil => simp [visitEach]
  | cons node rest hypothesis => simp [visitEach, hypothesis]

/-- What a visitor does with the nodes of a tour, and where the tour ends. -/
def follow (visitor : Visitor m) (read : Value → m Unit) (found : Tour) : m Unit := do
  visitEach (fun node => do visitor.receive node; read node) found.visited
  if found.isComplete then return () else visitor.refuse

/-- One tour after the other is followed as far as the first one comes. -/
theorem follow_andThen
    (visitor : Visitor m) (read : Value → m Unit)
    (refuses : ∀ next : m Unit, (do visitor.refuse; next) = visitor.refuse)
    (first second : Tour) :
    visitor.follow read (first.andThen second) =
      (do visitor.follow read first; visitor.follow read second) := by
  cases complete : first.isComplete with
  | true => simp [Tour.andThen, follow, complete, visitEach_append]
  | false => simp [Tour.andThen, follow, complete, refuses]

/--
A visitor that reads each node and then goes on to the nodes inside it, once, follows
the tour.
-/
theorem visitWithin_eq
    (visitor : Visitor m) (read : Value → m Unit)
    (goesOn : ∀ inside node, visitor.handle inside node = (do read node; inside node))
    (refuses : ∀ next : m Unit, (do visitor.refuse; next) = visitor.refuse)
    (room : Nat) (node : Value) :
    visitor.visitWithin room node = visitor.follow read (tourWithin room node) := by
  induction room generalizing node with
  | zero => simp [visitWithin, follow, tourWithin, visitEach]
  | succ room hypothesis =>
      have inside : visitEach (visitor.visitWithin room) (childNodes node) =
          visitor.follow read (tourAll (tourWithin room) (childNodes node)) := by
        induction childNodes node with
        | nil => simp [visitEach, follow, tourAll]
        | cons child rest others =>
            rw [visitEach, tourAll, follow_andThen visitor read refuses, hypothesis, others]
      simp only [visitWithin, goesOn, inside, follow, tourWithin, visitEach, bind_assoc]
      rfl

end Visitor

/-- The tours of the nodes directly inside a node. -/
def toursInside (node : Value) : Tour :=
  tourAll (tourWithin (Nesting.nodeRoom - 1)) (childNodes node)

theorem tour_eq (node : Value) :
    tour node = ⟨node :: (toursInside node).visited, (toursInside node).isComplete⟩ :=
  rfl

/-- Complete tours of the same nodes in another order visit the same nodes in another order. -/
theorem tourAll_perm
    {others : List Value} (same : nodes.Perm others)
    (complete : (tourAll tourOne nodes).isComplete = true) :
    (tourAll tourOne others).isComplete = true ∧
      (tourAll tourOne nodes).visited.Perm (tourAll tourOne others).visited := by
  have otherComplete : (tourAll tourOne others).isComplete = true := by
    rw [tourAll_isComplete_iff] at complete ⊢
    intro node member
    exact complete node (same.mem_iff.mpr member)
  refine ⟨otherComplete, ?_⟩
  rw [visited_tourAll complete, visited_tourAll otherComplete]
  exact same.flatMap_right _

/-! ## Where a tour goes -/

theorem holds_of_mem_childNodes {node child : Value} (member : child ∈ childNodes node) :
    child.isObject = true ∧ node.Holds child := by
  cases node with
  | object fields =>
      rw [childNodes, List.mem_flatMap] at member
      rcases member with ⟨⟨key, value⟩, entryMember, member⟩
      split at member
      · cases member
      · cases value with
        | list items =>
            rw [nodesInside, List.mem_filter, isTyped, Bool.and_eq_true] at member
            exact ⟨member.2.1, fields, key, _, rfl, entryMember, .item .here member.1⟩
        | object inner =>
            simp only [nodesInside] at member
            split at member
            · rw [List.mem_singleton] at member
              subst member
              exact ⟨rfl, fields, key, _, rfl, entryMember, .here⟩
            · cases member
        | _ => simp [nodesInside, isTyped, Value.isObject] at member
  | _ => cases member

theorem exists_node_of_mem_tourAll {part : Value}
    (member : part ∈ (tourAll tourOne nodes).visited) :
    ∃ node ∈ nodes, part ∈ (tourOne node).visited := by
  induction nodes with
  | nil => cases member
  | cons node rest hypothesis =>
      rw [tourAll, Tour.andThen] at member
      split at member
      · rcases List.mem_append.mp member with here | later
        · exact ⟨node, List.mem_cons_self, here⟩
        · rcases hypothesis later with ⟨other, otherMember, visited⟩
          exact ⟨other, List.mem_cons_of_mem _ otherMember, visited⟩
      · exact ⟨node, List.mem_cons_self, member⟩

/-- A tour visits objects that stand in the node where it starts. -/
theorem contains_of_mem_tourWithin
    {room : Nat} {node part : Value} (isObject : node.isObject = true)
    (member : part ∈ (tourWithin room node).visited) :
    part.isObject = true ∧ node.Contains part := by
  induction room generalizing node with
  | zero => cases member
  | succ room hypothesis =>
      rw [tourWithin, List.mem_cons] at member
      rcases member with rfl | below
      · exact ⟨isObject, .here⟩
      · rcases exists_node_of_mem_tourAll below with ⟨child, childMember, visited⟩
        rcases holds_of_mem_childNodes childMember with ⟨childIsObject, held⟩
        rcases hypothesis childIsObject visited with ⟨partIsObject, inside⟩
        exact ⟨partIsObject, held.contains.trans inside⟩

/-- A tour with room for the nesting of its node comes to its end. -/
theorem isComplete_of_nesting_le
    {room : Nat} {node : Value} (isObject : node.isObject = true)
    (roomy : node.nesting ≤ room) : (tourWithin room node).isComplete = true := by
  induction room generalizing node with
  | zero =>
      have deep := Value.nesting_pos isObject
      omega
  | succ room hypothesis =>
      rw [tourWithin]
      apply tourAll_isComplete_iff.mpr
      intro child member
      rcases holds_of_mem_childNodes member with ⟨childIsObject, held⟩
      have shallower := held.nesting_lt
      exact hypothesis childIsObject (by omega)

end TypeGauge.Check
