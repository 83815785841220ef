import Mathlib.Tactic
import Mathlib.Data.List.Count
import Mathlib.Order.WellFoundedSet

/-!
# Removing sources until none is left

The count of the nodes that can be taken away one by one, each after all the nodes with
an edge to it. The table of counts is always that of the edges from nodes still there
(`degree`), whatever the order in which the ends of a node's edges are looked at. The
nodes taken are closed (`Topological`), so that no cycle is among them; where the edges
have no cycle, none is left.
-/

namespace Bpe.Kahn

open List

variable {α : Type} [DecidableEq α]

/-- The set of the ends of a node's edges. -/
def outgoing (edges : List (α × α)) (node : α) : List α :=
  ((edges.filter (·.1 = node)).map (·.2)).dedup

/-- Lower the count of a node that lost an edge; it is ready at zero. -/
def dropEdge (state : List (α × Nat) × List α) (child : α) : List (α × Nat) × List α :=
  let indegree := state.1.map fun entry => if entry.1 = child then (child, entry.2 - 1) else entry
  (indegree, if indegree.lookup child = some 0 then state.2 ++ [child] else state.2)

/-- Takes ready nodes from the end; `order` is the order in which a node's ends are looked
at. Every turn takes a node that became ready, and an edge makes its end ready at most once. -/
def visit (order : α → List α → List α) (edges : List (α × α)) :
    Nat → List (α × Nat) → List α → Nat → Nat
  | 0, _, _, visited => visited
  | fuel + 1, indegree, ready, visited =>
    match ready.getLast? with
    | none => visited
    | some current =>
      let next := (order current (outgoing edges current)).foldl dropEdge
        (indegree, ready.dropLast)
      visit order edges fuel next.1 next.2 (visited + 1)

/-! ## The table -/

variable {nodes : List α} {edges : List (α × α)} {f : α → Nat} {v current : α}
  {taken ready children : List α}

def table (nodes : List α) (f : α → Nat) : List (α × Nat) := nodes.map fun v => (v, f v)

theorem lookup_table (h : v ∈ nodes) : (table nodes f).lookup v = some (f v) := by
  induction nodes with
  | nil => cases h
  | cons u nodes ih =>
    rw [table, map_cons, lookup_cons]
    by_cases huv : v = u
    · subst huv
      rw [beq_self_eq_true]
    · rw [beq_eq_false_iff_ne.2 huv]
      exact ih ((mem_cons.1 h).resolve_left huv)

theorem dropEdge_table (h : v ∈ nodes) :
    dropEdge (table nodes f, ready) v =
      (table nodes (Function.update f v (f v - 1)),
        if f v - 1 = 0 then ready ++ [v] else ready) := by
  have htable : (table nodes f).map
      (fun entry => if entry.1 = v then (v, entry.2 - 1) else entry) =
        table nodes (Function.update f v (f v - 1)) := by
    rw [table, table, map_map]
    refine map_congr_left fun u _ => ?_
    by_cases huv : u = v
    · subst huv
      simp
    · simp [huv]
  rw [dropEdge]
  simp only [htable, lookup_table h, Function.update_self, Option.some.injEq]

theorem foldl_dropEdge (hnodup : children.Nodup) (hchildren : ∀ v ∈ children, v ∈ nodes) :
    children.foldl dropEdge (table nodes f, ready) =
      (table nodes (fun v => if v ∈ children then f v - 1 else f v),
        ready ++ children.filter fun v => f v - 1 = 0) := by
  induction children generalizing f ready with
  | nil => simp
  | cons c children ih =>
    obtain ⟨hc, hnodup⟩ := nodup_cons.1 hnodup
    rw [foldl_cons, dropEdge_table (hchildren c mem_cons_self),
      ih hnodup fun v hv => hchildren v (mem_cons_of_mem c hv)]
    have hrest : children.filter (fun v => Function.update f c (f c - 1) v - 1 = 0) =
        children.filter fun v => f v - 1 = 0 := by
      refine filter_congr fun v hv => ?_
      rw [Function.update_of_ne]
      rintro rfl
      exact hc hv
    rw [hrest]
    refine Prod.ext ?_ ?_
    · refine map_congr_left fun v _ => ?_
      by_cases hvc : v = c
      · subst hvc
        simp [hc]
      · simp [hvc]
    · by_cases hzero : f c - 1 = 0
      · rw [if_pos hzero, filter_cons_of_pos (by simpa using hzero), append_assoc,
          singleton_append]
      · rw [if_neg hzero, filter_cons_of_neg (by simpa using hzero)]

/-! ## Counting edges -/

/-- The edges into a node from nodes that are not taken. -/
def degree (edges : List (α × α)) (taken : List α) (v : α) : Nat :=
  edges.countP fun e => decide (e.2 = v) && !taken.contains e.1

theorem degree_eq_zero : degree edges taken v = 0 ↔ ∀ u, (u, v) ∈ edges → u ∈ taken := by
  simp only [degree, countP_eq_zero, Bool.and_eq_true, decide_eq_true_eq, Bool.not_eq_true',
    not_and, Bool.not_eq_false, contains_iff_mem, Prod.forall]
  exact ⟨fun h u hu => h u v hu rfl, fun h u w hu hw => h u (hw ▸ hu)⟩

theorem mem_outgoing : v ∈ outgoing edges current ↔ (current, v) ∈ edges := by
  simp only [outgoing, mem_dedup, mem_map, mem_filter, decide_eq_true_eq, Prod.exists]
  constructor
  · rintro ⟨u, w, ⟨hmem, rfl⟩, rfl⟩
    exact hmem
  · intro h
    exact ⟨current, v, ⟨h, rfl⟩, rfl⟩

/-- Taking a node away takes its edges away. -/
theorem degree_add_count (hcurrent : current ∉ taken) :
    degree edges taken v = degree edges (current :: taken) v + edges.count (current, v) := by
  induction edges with
  | nil => rfl
  | cons e edges ih =>
    obtain ⟨u, w⟩ := e
    simp only [degree, count, countP_cons] at ih ⊢
    rw [ih]
    by_cases hw : w = v
    · by_cases hu : u = current
      · subst hu hw
        simp [hcurrent]
        omega
      · simp [hw, hu]
        omega
    · simp [hw]

theorem degree_cons (h : edges.Nodup) (hcurrent : current ∉ taken) :
    degree edges taken v =
      degree edges (current :: taken) v + if (current, v) ∈ edges then 1 else 0 := by
  rw [degree_add_count hcurrent]
  split
  next hmem => rw [count_eq_one_of_mem h hmem]
  next hmem => rw [count_eq_zero_of_not_mem hmem]

/-! ## Runs -/

/-- Each node stands after all with an edge to it; the last one taken stands first. -/
def Topological (edges : List (α × α)) : List α → Prop
  | [] => True
  | v :: taken => (∀ u, (u, v) ∈ edges → u ∈ taken) ∧ Topological edges taken

/-- The state between two rounds. -/
structure Run (nodes : List α) (edges : List (α × α)) (taken ready : List α) : Prop where
  topological : Topological edges taken
  nodup : taken.Nodup
  subset : ∀ v ∈ taken, v ∈ nodes
  ready_nodup : ready.Nodup
  ready_iff : ∀ v, v ∈ ready ↔ v ∈ nodes ∧ v ∉ taken ∧ degree edges taken v = 0

theorem Topological.degree (h : Topological edges taken) (hv : v ∈ taken) :
    degree edges taken v = 0 := by
  induction taken with
  | nil => cases hv
  | cons u taken ih =>
    rw [degree_eq_zero]
    intro w hw
    rcases mem_cons.1 hv with rfl | hv
    · exact mem_cons_of_mem _ (h.1 w hw)
    · exact mem_cons_of_mem _ (degree_eq_zero.1 (ih h.2 hv) w hw)

variable {order : α → List α → List α}

/-- One round takes the last ready node and makes ready what only it held back. -/
theorem Run.step (hr : Run nodes edges taken (ready ++ [current])) (hedges : edges.Nodup)
    (hnodes : ∀ e ∈ edges, e.2 ∈ nodes)
    (hchildren : children.Perm (outgoing edges current)) :
    children.foldl dropEdge (table nodes (degree edges taken), ready) =
        (table nodes (degree edges (current :: taken)),
          ready ++ children.filter fun v => degree edges taken v - 1 = 0) ∧
      Run nodes edges (current :: taken)
        (ready ++ children.filter fun v => degree edges taken v - 1 = 0) := by
  have hmem : ∀ v, v ∈ children ↔ (current, v) ∈ edges :=
    fun v => hchildren.mem_iff.trans mem_outgoing
  have hnodup : children.Nodup := hchildren.nodup_iff.2 (nodup_dedup _)
  obtain ⟨hcurrent, hfresh, hzero⟩ :=
    (hr.ready_iff current).1 (mem_append_right _ (mem_singleton.2 rfl))
  have hdegree : ∀ v, degree edges taken v =
      degree edges (current :: taken) v + if v ∈ children then 1 else 0 := by
    intro v
    rw [degree_cons hedges hfresh]
    simp only [hmem]
  constructor
  · rw [foldl_dropEdge hnodup fun v hv => hnodes _ ((hmem v).1 hv)]
    refine Prod.ext (map_congr_left fun v _ => Prod.ext rfl ?_) rfl
    have := hdegree v
    by_cases hv : v ∈ children
    · simp only [if_pos hv] at this ⊢
      omega
    · simp only [if_neg hv] at this ⊢
      omega
  have hready : ∀ v ∈ ready, degree edges taken v = 0 := fun v hv =>
    ((hr.ready_iff v).1 (mem_append_left _ hv)).2.2
  have hchild : ∀ v ∈ children, degree edges taken v ≠ 0 := by
    intro v hv
    have := hdegree v
    rw [if_pos hv] at this
    omega
  obtain ⟨hready_nodup, -, hdisjoint⟩ := nodup_append.1 hr.ready_nodup
  refine ⟨⟨degree_eq_zero.1 hzero, hr.topological⟩, nodup_cons.2 ⟨hfresh, hr.nodup⟩, ?_, ?_, ?_⟩
  · intro v hv
    rcases mem_cons.1 hv with rfl | hv
    · exact hcurrent
    · exact hr.subset v hv
  · refine nodup_append.2 ⟨hready_nodup, hnodup.filter _, ?_⟩
    rintro v hv w hw rfl
    exact hchild v (mem_filter.1 hw).1 (hready v hv)
  · intro v
    rw [mem_append, mem_filter, decide_eq_true_eq, mem_cons, not_or]
    have := hdegree v
    constructor
    · rintro (hv | ⟨hv, hone⟩)
      · obtain ⟨hnode, hnot, hv0⟩ := (hr.ready_iff v).1 (mem_append_left _ hv)
        refine ⟨hnode, ⟨fun heq => ?_, hnot⟩, by omega⟩
        exact hdisjoint v hv current (mem_singleton.2 rfl) heq
      · rw [if_pos hv] at this
        refine ⟨hnodes _ ((hmem v).1 hv), ⟨?_, fun hin => ?_⟩, by omega⟩
        · rintro rfl
          exact hchild v hv hzero
        · exact hchild v hv (hr.topological.degree hin)
    · rintro ⟨hnode, ⟨hne, hnot⟩, hv0⟩
      by_cases hv : v ∈ children
      · rw [if_pos hv] at this
        exact .inr ⟨hv, by omega⟩
      · rw [if_neg hv] at this
        have hin := (hr.ready_iff v).2 ⟨hnode, hnot, by omega⟩
        exact .inl ((mem_append.1 hin).resolve_right fun h => hne (mem_singleton.1 h))

/-- A run ends with a closed set of nodes, and its count. -/
theorem Run.visit (hr : Run nodes edges taken ready) (hedges : edges.Nodup)
    (hnodes : ∀ e ∈ edges, e.2 ∈ nodes) (horder : ∀ v l, (order v l).Perm l) {fuel : Nat}
    (hfuel : nodes.length < taken.length + fuel) :
    ∃ all, Run nodes edges all [] ∧
      visit order edges fuel (table nodes (degree edges taken)) ready taken.length =
        all.length := by
  induction fuel generalizing taken ready with
  | zero =>
    have := (subperm_of_subset hr.nodup hr.subset).length_le
    omega
  | succ fuel ih =>
    rw [Kahn.visit]
    rcases hlast : ready.getLast? with _ | current
    · rw [getLast?_eq_none_iff] at hlast
      subst hlast
      exact ⟨taken, hr, rfl⟩
    · obtain ⟨front, rfl⟩ := getLast?_eq_some_iff.1 hlast
      obtain ⟨hfold, hnext⟩ := hr.step hedges hnodes (horder current _)
      simp only [dropLast_concat, hfold]
      exact ih hnext (by rw [length_cons]; omega)

/-! ## Cycles -/

/-- What leads to a node taken is taken. -/
theorem Topological.closed (h : Topological edges taken) {u : α}
    (hpath : Relation.ReflTransGen (fun u v => (u, v) ∈ edges) u v) (hv : v ∈ taken) :
    u ∈ taken := by
  induction hpath using Relation.ReflTransGen.head_induction_on with
  | refl => exact hv
  | head hedge _ ih => exact degree_eq_zero.1 (h.degree ih) _ hedge

theorem Topological.acyclic (h : Topological edges taken) (hnodup : taken.Nodup)
    (hv : v ∈ taken) : ¬ Relation.TransGen (fun u v => (u, v) ∈ edges) v v := by
  induction taken with
  | nil => cases hv
  | cons w taken ih =>
    obtain ⟨hw, hnodup⟩ := nodup_cons.1 hnodup
    rcases mem_cons.1 hv with rfl | hv
    · intro hcycle
      obtain ⟨u, hpath, hedge⟩ := Relation.TransGen.tail'_iff.1 hcycle
      exact hw (h.2.closed hpath (h.1 u hedge))
    · exact ih h.2 hnodup hv

/-- Without cycles every node is taken. -/
theorem Run.complete (hr : Run nodes edges taken []) (hnodes : ∀ e ∈ edges, e.1 ∈ nodes)
    (hacyclic : ∀ v, ¬ Relation.TransGen (fun u v => (u, v) ∈ edges) v v) :
    ∀ v ∈ nodes, v ∈ taken := by
  have : IsStrictOrder α (Relation.TransGen fun u v => (u, v) ∈ edges) :=
    { irrefl := hacyclic
      trans := fun _ _ _ => Relation.TransGen.trans }
  have hwf := (finite_toSet nodes).wellFoundedOn
    (r := Relation.TransGen fun u v => (u, v) ∈ edges)
  intro v hv
  refine hwf.induction hv fun w hw ih => ?_
  by_contra hnot
  refine not_mem_nil ((hr.ready_iff w).2 ⟨hw, hnot, degree_eq_zero.2 fun u hu => ?_⟩)
  exact ih u (hnodes _ hu) (.single hu)

theorem run_start (nodes_nodup : nodes.Nodup) :
    Run nodes edges [] (nodes.filter fun v => degree edges [] v = 0) where
  topological := trivial
  nodup := nodup_nil
  subset v hv := by cases hv
  ready_nodup := nodes_nodup.filter _
  ready_iff v := by simp

/-- **All nodes are taken exactly where the edges have no cycle.** -/
theorem visit_eq_length_iff (nodes_nodup : nodes.Nodup) (hedges : edges.Nodup)
    (hnodes : ∀ e ∈ edges, e.1 ∈ nodes ∧ e.2 ∈ nodes) (horder : ∀ v l, (order v l).Perm l)
    {fuel : Nat} (hfuel : nodes.length < fuel) :
    visit order edges fuel (table nodes (degree edges []))
        (nodes.filter fun v => degree edges [] v = 0) 0 = nodes.length ↔
      ¬ ∃ v, Relation.TransGen (fun u v => (u, v) ∈ edges) v v := by
  have hstart : Run nodes edges [] _ := run_start nodes_nodup
  have hlength : nodes.length < ([] : List α).length + fuel := by
    rw [length_nil]
    omega
  obtain ⟨all, hr, hvisit⟩ := hstart.visit hedges (fun e he => (hnodes e he).2) horder hlength
  rw [length_nil] at hvisit
  rw [hvisit]
  have hsub := subperm_of_subset hr.nodup hr.subset
  constructor
  · rintro hlength ⟨v, hcycle⟩
    obtain ⟨u, -, hedge⟩ := Relation.TransGen.tail'_iff.1 hcycle
    have hperm := hsub.perm_of_length_le hlength.ge
    exact hr.topological.acyclic hr.nodup (hperm.mem_iff.2 (hnodes _ hedge).2) hcycle
  · intro hacyclic
    refine le_antisymm hsub.length_le ?_
    exact (subperm_of_subset nodes_nodup (hr.complete (fun e he => (hnodes e he).1)
      (not_exists.1 hacyclic))).length_le

end Bpe.Kahn
