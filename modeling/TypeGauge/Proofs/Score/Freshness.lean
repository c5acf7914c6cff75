import TypeGauge.Proofs.Score.Visit
import TypeGauge.Proofs.Types.Numbering

/-!
# Fresh identities

A build that fails midway has numbered nodes already, and their identities are used up.
`numberedWithin` lists the identities that a build hands out, whether it fails or not, and
they are the ones from the supply that it starts with up to the supply that it leaves.  For
a build that ends well they are the identities of the tree in pre-order.

A workshop is where type trees are built and scored in any order, on one supply and with
one scorer.  The invariant is that the identities below the supply are the ones that were
handed out, and that the cache knows about no others.  So no two nodes ever have the same
identity, and a scorer never takes a new node for one that it has met before.
-/

namespace TypeGauge.Types

open TypeGauge.Data TypeGauge.Syntax

/-! ## Consecutive identities -/

/-- The numbers are the ones from the first supply on up to the last one. -/
structure Consecutive (supply next : Nat) (numbers : List Nat) : Prop where
  supply_le : supply ≤ next
  eq_range' : numbers = List.range' supply (next - supply)

namespace Consecutive

variable {supply between next : Nat} {numbers others : List Nat}

theorem nil (supply : Nat) : Consecutive supply supply [] :=
  ⟨Nat.le_refl supply, by simp⟩

theorem single (supply : Nat) : Consecutive supply (supply + 1) [supply] :=
  ⟨Nat.le_succ supply, by simp⟩

theorem append
    (first : Consecutive supply between numbers) (second : Consecutive between next others) :
    Consecutive supply next (numbers ++ others) := by
  refine ⟨Nat.le_trans first.supply_le second.supply_le, ?_⟩
  have start : between = supply + (between - supply) := by
    have below := first.supply_le
    omega
  have count : (between - supply) + (next - between) = next - supply := by
    have below := first.supply_le
    have above := second.supply_le
    omega
  rw [first.eq_range', second.eq_range', ← count]
  nth_rewrite 2 [start]
  exact List.range'_append_1

theorem nodup (consecutive : Consecutive supply next numbers) : numbers.Nodup := by
  rw [consecutive.eq_range']
  exact List.nodup_range'

theorem lt_of_mem (consecutive : Consecutive supply next numbers) {number : Nat}
    (member : number ∈ numbers) : number < next := by
  have below := consecutive.supply_le
  rw [consecutive.eq_range', List.mem_range'_1] at member
  omega

end Consecutive

/-! ## Builds that may fail -/

/-- The identities handed out while parts are built in turn, up to the first that fails. -/
def numberedInTurn (numberedOne : Value → Nat → List Nat) (buildOne : Value → BuildM TypeTree) :
    List Value → (supply : Nat) → List Nat
  | [], _ => []
  | part :: rest, supply =>
      numberedOne part supply ++
        match outcome (buildOne part) supply with
        | (.ok _, next) => numberedInTurn numberedOne buildOne rest next
        | (.error _, _) => []

/-- The identities of the nodes that a build begins, in order, whether it fails or not. -/
def numberedWithin : (room : Nat) → Value → (supply : Nat) → List Nat
  | 0, _, _ => []
  | room + 1, node, supply =>
      match readHead node with
      | .error _ => []
      | .ok (kind, _) =>
          match outline kind node with
          | .error _ => [supply]
          | .ok found =>
              supply ::
                numberedInTurn (numberedWithin room) (buildWithin room) found.parts (supply + 1)

theorem consecutive_numberedInTurn
    {numberedOne : Value → Nat → List Nat} {buildOne : Value → BuildM TypeTree}
    (single : ∀ part supply,
      Consecutive supply (outcome (buildOne part) supply).2 (numberedOne part supply))
    (parts : List Value) (supply : Nat) :
    Consecutive supply (outcome (parts.mapM buildOne) supply).2
      (numberedInTurn numberedOne buildOne parts supply) := by
  induction parts generalizing supply with
  | nil => exact .nil supply
  | cons part rest hypothesis =>
      have head := single part supply
      rw [numberedInTurn, List.mapM_cons, outcome_bind]
      revert head
      rcases outcome (buildOne part) supply with ⟨result, between⟩
      intro head
      cases result with
      | error fault => exact head.append (.nil between)
      | ok tree =>
          have tail := head.append (hypothesis between)
          simp only [outcome_bind]
          rcases ran : outcome (rest.mapM buildOne) between with ⟨others, next⟩
          rw [ran] at tail
          cases others with
          | error fault => exact tail
          | ok trees => exact tail

/-- A build hands out the identities from one supply to the other, whether it fails or not. -/
theorem consecutive_numberedWithin (room : Nat) (node : Value) (supply : Nat) :
    Consecutive supply (outcome (buildWithin room node) supply).2
      (numberedWithin room node supply) := by
  induction room generalizing node supply with
  | zero => exact .nil supply
  | succ room hypothesis =>
      rw [outcome_buildWithin_succ, numberedWithin]
      cases readHead node with
      | error fault => exact .nil supply
      | ok facts =>
          rcases facts with ⟨kind, source⟩
          simp only
          cases outline kind node with
          | error fault => exact .single supply
          | ok found =>
              have parts := (Consecutive.single supply).append
                (consecutive_numberedInTurn hypothesis found.parts (supply + 1))
              simp only
              rcases ran : outcome (found.parts.mapM (buildWithin room)) (supply + 1) with
                ⟨result, next⟩
              rw [ran] at parts
              cases result with
              | error fault => exact parts
              | ok children => exact parts

/-- A build that ends well hands out the identities of its tree in pre-order. -/
theorem numberedWithin_eq_preorder
    {room : Nat} {node : Value} {supply next : Nat} {tree : TypeTree}
    (built : outcome (buildWithin room node) supply = (.ok tree, next)) :
    numberedWithin room node supply = tree.preorder.map TypeHead.identity := by
  have consecutive := consecutive_numberedWithin room node supply
  rcases preorder_of_buildWithin built with ⟨numbers, rfl⟩
  rw [built] at consecutive
  rw [consecutive.eq_range', numbers, Nat.add_sub_cancel_left]

end TypeGauge.Types

namespace TypeGauge.Score

open TypeGauge.Data TypeGauge.Types

variable {α : Type}

/-! ## Scoring leaves new identities alone -/

/-- All children of the nodes of a graph have an identity below the supply. -/
def ChildrenBelow (supply : Nat) (graph : TypeGraph) : Prop :=
  ∀ node ∈ graph.nodes, ∀ child ∈ node.children, child < supply

instance (supply : Nat) (graph : TypeGraph) : Decidable (ChildrenBelow supply graph) :=
  inferInstanceAs (Decidable (∀ node ∈ graph.nodes, ∀ child ∈ node.children, child < supply))

/-- The cache knows about no identity from the supply on. -/
def KnowsBelow (supply : Nat) (cache : ScoreCache Nat α) : Prop :=
  ∀ identity, supply ≤ identity → cache.Untouched identity

theorem ChildrenBelow.lt_of_mem_childRequests
    {supply : Nat} {graph : TypeGraph} (below : ChildrenBelow supply graph)
    {identity : Nat} {depth : Int} {request : Request}
    (requested : request ∈ childRequests graph identity depth) : request.identity < supply := by
  rcases List.mem_map.mp requested with ⟨child, isScored, rfl⟩
  have isChild : child ∈ (graph.nodeAt identity).children := List.mem_of_mem_filter isScored
  rw [TypeGraph.nodeAt] at isChild
  cases found : graph.find? identity with
  | none => simp [found] at isChild
  | some node =>
      rw [found] at isChild
      exact below node (List.mem_of_find?_eq_some found) child isChild

/-- Whether a call ends well or not, it teaches the cache nothing about new identities. -/
theorem KnowsBelow.scoreWithin
    {scorer : Scorer α} {graph : TypeGraph} {supply : Nat} (below : ChildrenBelow supply graph)
    (room : Nat) {request : Request} (existing : request.identity < supply)
    {cache : ScoreCache Nat α} (knows : KnowsBelow supply cache) :
    KnowsBelow supply
      (outcome (scorer.scoreWithin graph room request.identity request.depth) cache).2 := by
  apply Scorer.scoreWithin_keeps (KnowsBelow supply) (· < supply) _ _ _ room existing knows
  · intro identity depth _ child requested
    exact below.lt_of_mem_childRequests requested
  · intro inside identity old known other new
    rw [ScoreCache.untouched_mark_iff]
    exact ⟨by omega, known other new⟩
  · intro _ inner identity score old _ _ known other new
    have different : other ≠ identity := by omega
    have untouched := known other new
    constructor
    · rw [ScoreCache.get?_put_other different, ScoreCache.get?_unmark]
      exact untouched.1
    · rw [ScoreCache.put_active, ScoreCache.unmark]
      exact fun active => untouched.2 (List.mem_of_mem_filter active)

/-! ## Workshops -/

/-- What can be done next: build a node, or score a node of a graph. -/
inductive Act where
  | build (node : Value)
  | score (graph : TypeGraph) (request : Request)

/-- A supply and a cache with what was built so far. -/
structure Workshop (α : Type) where
  supply : Nat
  cache : ScoreCache Nat α
  /-- The trees that builds gave, the first one first. -/
  trees : List TypeTree
  /-- The identities that builds handed out, also the ones that failed. -/
  numbered : List Nat

namespace Workshop

/-- A workshop in which nothing has been done. -/
def opened (supply : Nat) : Workshop α :=
  ⟨supply, .empty, [], []⟩

/-- The workshop after something has been done, whether it failed or not. -/
def after (scorer : Scorer α) (workshop : Workshop α) : Act → Workshop α
  | .build node =>
      let ran := outcome (build node) workshop.supply
      { workshop with
        supply := ran.2
        trees := workshop.trees ++ ran.1.toOption.toList
        numbered := workshop.numbered ++
          numberedWithin Nesting.typeRoom node workshop.supply }
  | .score graph request =>
      let ran := outcome (scorer.score graph request.identity request.depth) workshop.cache
      { workshop with cache := ran.2 }

/-- Anything can be built, but only nodes that exist can be scored. -/
def Admits (workshop : Workshop α) : Act → Prop
  | .build _ => True
  | .score graph request =>
      request.identity < workshop.supply ∧ ChildrenBelow workshop.supply graph

/-- The workshops that come about from a supply on. -/
inductive Reached (scorer : Scorer α) (first : Nat) : Workshop α → Prop
  | opened : Reached scorer first (opened first)
  | after {workshop : Workshop α} {act : Act} (reached : Reached scorer first workshop)
      (admitted : workshop.Admits act) : Reached scorer first (workshop.after scorer act)

/-- The identities of all nodes of all trees, one tree after the other. -/
def identities (workshop : Workshop α) : List Nat :=
  workshop.trees.flatMap fun tree => tree.preorder.map TypeHead.identity

/-- What holds of a workshop at all times. -/
structure Orderly (first : Nat) (workshop : Workshop α) : Prop where
  consecutive : Consecutive first workshop.supply workshop.numbered
  numbered : workshop.identities.Sublist workshop.numbered
  knows : KnowsBelow workshop.supply workshop.cache

namespace Orderly

variable {scorer : Scorer α} {first : Nat} {workshop : Workshop α}

theorem opened (first : Nat) : (Workshop.opened first : Workshop α).Orderly first :=
  ⟨.nil first, .slnil, fun _ _ => ⟨rfl, List.not_mem_nil⟩⟩

/-- Building keeps order, whether it fails or not. -/
theorem build (orderly : workshop.Orderly first) (node : Value) :
    (workshop.after scorer (.build node)).Orderly first := by
  have handedOut := consecutive_numberedWithin Nesting.typeRoom node workshop.supply
  refine ⟨orderly.consecutive.append handedOut, ?_, ?_⟩
  · simp only [after, identities, List.flatMap_append]
    apply orderly.numbered.append
    rcases built : outcome (Types.build node) workshop.supply with ⟨result, next⟩
    cases result with
    | error fault => exact List.nil_sublist _
    | ok tree =>
        rw [numberedWithin_eq_preorder built]
        simp [Except.toOption]
  · intro identity new
    exact orderly.knows identity (Nat.le_trans handedOut.supply_le new)

/-- Scoring nodes that exist keeps order, whether it fails or not. -/
theorem score (orderly : workshop.Orderly first) {graph : TypeGraph} {request : Request}
    (admitted : workshop.Admits (.score graph request)) :
    (workshop.after scorer (.score graph request)).Orderly first :=
  ⟨orderly.consecutive, orderly.numbered,
    orderly.knows.scoreWithin admitted.2 Nesting.typeRoom admitted.1⟩

end Orderly

/-- Every workshop that comes about is in order. -/
theorem Reached.orderly {scorer : Scorer α} {first : Nat} {workshop : Workshop α}
    (reached : Reached scorer first workshop) : workshop.Orderly first := by
  induction reached with
  | opened => exact .opened first
  | @after workshop act _ admitted orderly =>
      cases act with
      | build node => exact orderly.build node
      | score graph request => exact orderly.score admitted

end Workshop

/--
Building a node numbers the tree in pre-order with consecutive identities from the supply on
and leaves the supply right behind them.  In every workshop that comes about from a supply
on, the builds have handed out consecutive identities, each of them once and the failed builds
included, and the nodes of the trees have theirs from among them.  A node of a tree that is
built next has an identity that was never handed out, and the scorer neither has a finished
score under it nor takes it for a node that is being scored.
-/
theorem identities_are_fresh (scorer : Scorer α) :
    (∀ (node : Value) (supply next : Nat) (tree : TypeTree),
        outcome (build node) supply = (.ok tree, next) →
          tree.preorder.map TypeHead.identity = List.range' supply tree.size ∧
            next = supply + tree.size) ∧
      ∀ (first : Nat) (workshop : Workshop α), Workshop.Reached scorer first workshop →
        workshop.numbered = List.range' first (workshop.supply - first) ∧
          workshop.numbered.Nodup ∧
          workshop.identities.Sublist workshop.numbered ∧
          workshop.identities.Nodup ∧
          ∀ (node : Value) (next : Nat) (tree : TypeTree),
            outcome (build node) workshop.supply = (.ok tree, next) →
              ∀ head ∈ tree.preorder,
                head.identity ∉ workshop.numbered ∧
                  workshop.cache.has head.identity = false ∧
                  workshop.cache.isActive head.identity = false := by
  refine ⟨fun _ _ _ _ => preorder_of_buildWithin, ?_⟩
  intro first workshop reached
  have orderly := reached.orderly
  refine ⟨orderly.consecutive.eq_range', orderly.consecutive.nodup, orderly.numbered,
    orderly.numbered.nodup orderly.consecutive.nodup, ?_⟩
  intro node next tree built head member
  have new : workshop.supply ≤ head.identity := by
    have listed := List.mem_map_of_mem (f := TypeHead.identity) member
    rw [(preorder_of_buildWithin built).1, List.mem_range'_1] at listed
    exact listed.1
  have untouched := orderly.knows head.identity new
  refine ⟨?_, ?_, ?_⟩
  · intro old
    have earlier := orderly.consecutive.lt_of_mem old
    omega
  · rw [ScoreCache.has, untouched.1, Option.isSome_none]
  · exact decide_eq_false untouched.2

/-- An array of texts. -/
def textArray : Value :=
  .object
    [("type", .text "TSArrayType"),
      ("elementType", .object [("type", .text "TSStringKeyword")])]

/-- A union of an array of texts and of a union whose branches are no list. -/
def brokenUnion : Value :=
  .object
    [("type", .text "TSUnionType"),
      ("types", .list
        [textArray, .object [("type", .text "TSUnionType"), ("types", .whole 5)], textArray])]

/-- The array of texts as it is built from seven on. -/
def builtArray : TypeGraph where
  nodes := [⟨7, .array, 0, 0, [8]⟩, ⟨8, .primitive, 0, 0, []⟩]

/-- An array is built and scored, and then the broken union is built. -/
def busyWorkshop (scorer : Scorer Float) : Workshop Float :=
  (((Workshop.opened 7).after scorer (.build textArray)).after scorer
    (.score builtArray ⟨7, 1⟩)).after scorer (.build brokenUnion)

/--
The failed build has used up four identities, the scorer has finished both nodes of the array,
and the array that is built next has two identities of its own.
-/
theorem busyWorkshop_builds_fresh_nodes :
    ∃ workshop : Workshop Float,
      Workshop.Reached ⟨doubles, .standard doubles⟩ 7 workshop ∧
        workshop.numbered = [7, 8, 9, 10, 11, 12] ∧ workshop.identities = [7, 8] ∧
        workshop.cache.has 7 = true ∧ workshop.cache.has 8 = true ∧
        ∃ tree, outcome (build textArray) workshop.supply = (.ok tree, 15) ∧
          tree.preorder.map TypeHead.identity = [13, 14] ∧
          ∀ head ∈ tree.preorder,
            head.identity ∉ workshop.numbered ∧ workshop.cache.has head.identity = false ∧
              workshop.cache.isActive head.identity = false := by
  have reached : Workshop.Reached ⟨doubles, .standard doubles⟩ 7
      (busyWorkshop ⟨doubles, .standard doubles⟩) :=
    .after (.after (.after .opened trivial) ⟨by decide, by decide⟩) trivial
  have fresh := (identities_are_fresh ⟨doubles, .standard doubles⟩).2 7 _ reached
  refine ⟨_, reached, rfl, rfl, rfl, rfl, _, rfl, rfl, ?_⟩
  exact fresh.2.2.2.2 textArray 15 _ rfl

end TypeGauge.Score
