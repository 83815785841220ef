import Bpe.Qualification.Model

/-!
# The order of the anchors has no cycle

Nothing is known of the order in which `_validate_acyclic_ordering` goes through the ends
of an anchor's relations. It accepts exactly the relations without a cycle, whatever that
order is.
-/

namespace Bpe.Qualification

variable {anchorIds : List String} {relations : List (String × String)}

theorem indegree_eq : (anchorIds.map fun id => (id, (relations.filter (·.2 = id)).length)) =
    Kahn.table anchorIds (Kahn.degree relations []) := by
  refine List.map_congr_left fun id _ => Prod.ext rfl ?_
  rw [Kahn.degree, ← List.countP_eq_length_filter]
  refine List.countP_congr fun e _ => ?_
  simp

theorem ready_eq : ((Kahn.table anchorIds (Kahn.degree relations [])).filter (·.2 = 0)).map (·.1) =
    anchorIds.filter fun v => Kahn.degree relations [] v = 0 := by
  rw [Kahn.table, List.filter_map, List.map_map]
  exact List.map_id _

theorem validateAcyclicOrderingIn_eq_ok {order : String → List String → List String}
    (hids : anchorIds.Nodup) (hrelations : relations.Nodup)
    (hover : ∀ r ∈ relations, r.1 ∈ anchorIds ∧ r.2 ∈ anchorIds)
    (horder : ∀ v l, (order v l).Perm l) :
    validateAcyclicOrderingIn order anchorIds relations = .ok () ↔
      ¬ ∃ v, Relation.TransGen (fun better worse => (better, worse) ∈ relations) v v := by
  rw [← Kahn.visit_eq_length_iff hids hrelations hover horder
    (show anchorIds.length < anchorIds.length + relations.length + 1 by omega),
    validateAcyclicOrderingIn, refuse_eq_ok, List.forall_mem_singleton, indegree_eq, ready_eq,
    bne_eq_false_iff_eq]

/-- **The relations are accepted exactly where they have no cycle.** -/
theorem validateAcyclicOrdering_exact (hids : anchorIds.Nodup) (hrelations : relations.Nodup)
    (hover : ∀ r ∈ relations, r.1 ∈ anchorIds ∧ r.2 ∈ anchorIds) :
    (validateAcyclicOrdering anchorIds relations = .ok () ↔
      ¬ ∃ v, Relation.TransGen (fun better worse => (better, worse) ∈ relations) v v) ∧
    ∀ order : String → List String → List String, (∀ v l, (order v l).Perm l) →
      (validateAcyclicOrderingIn order anchorIds relations = .ok () ↔
        ¬ ∃ v, Relation.TransGen (fun better worse => (better, worse) ∈ relations) v v) :=
  ⟨validateAcyclicOrderingIn_eq_ok hids hrelations hover fun _ l => List.Perm.refl l,
    fun _ horder => validateAcyclicOrderingIn_eq_ok hids hrelations hover horder⟩

/-- Two anchors, the first better. -/
theorem validateAcyclicOrdering_exact_pair :
    ¬ ∃ v, Relation.TransGen (fun better worse => (better, worse) ∈ [("a", "b")]) v v :=
  (validateAcyclicOrdering_exact (show ["a", "b"].Nodup by decide) (by decide)
    (by decide)).1.1 (by decide)

end Bpe.Qualification
