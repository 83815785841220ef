import Bpe.Lib.Except

/-!
# The complexity of a JSON document

`_validate_json_complexity` of the replay reader, the worker endpoint and the task loader.
Each pops the nodes of a document off a stack and stops at the first that is too deep, one
too many, or has a text with a surrogate. What it accepts does not depend on the order.
-/

namespace Bpe.Json

open List

/-- A Python string: code points, surrogates among them. -/
abbrev Text := List (Fin 0x110000)

inductive Document (F : Type) where
  | null
  | bool (b : Bool)
  | int (n : Int)
  | float (x : F)
  | str (text : Text)
  | list (items : List (Document F))
  | dict (members : List (Text × Document F))

def hasSurrogate (text : Text) : Bool := text.any fun c => 0xD800 ≤ c.val && c.val ≤ 0xDFFF

/-- The limits of a validator, and what it raises. -/
structure Limits (ε : Type) where
  depth : Nat
  nodes : Nat
  complex : ε
  badKey : ε
  badString : ε

namespace Document

variable {F ε : Type} {v c : Document F}

def children : Document F → List (Document F)
  | .list items => items
  | .dict members => members.map (·.2)
  | _ => []

def checkTexts (C : Limits ε) : Document F → Except ε Unit
  | .dict members => members.forM fun m => if hasSurrogate m.1 then .error C.badKey else .ok ()
  | .str text => if hasSurrogate text then .error C.badString else .ok ()
  | _ => .ok ()

/-- The loop over what is pending; `push` adds the children of a node to it. -/
def visit (C : Limits ε) (push : List (Document F × Nat) → List (Document F × Nat) →
    List (Document F × Nat)) (nodes : Nat) : List (Document F × Nat) → Except ε Unit
  | [] => .ok ()
  | (current, depth) :: stack =>
    if h : depth > C.depth ∨ nodes + 1 > C.nodes then .error C.complex
    else do
      current.checkTexts C
      visit C push (nodes + 1) (push (current.children.map fun child => (child, depth + 1)) stack)
termination_by C.nodes - nodes
decreasing_by omega

/-- The children are pushed in order, and the last is popped first. -/
def validateComplexity (C : Limits ε) (value : Document F) : Except ε Unit :=
  visit C (fun new stack => new.reverse ++ stack) 0 [(value, 0)]

/-! ## The measures -/

theorem sizeOf_children (h : c ∈ v.children) : sizeOf c < sizeOf v := by
  cases v with
  | list items =>
    have := sizeOf_lt_of_mem (show c ∈ items from h)
    simp only [list.sizeOf_spec]
    omega
  | dict members =>
    obtain ⟨⟨key, c⟩, hm, rfl⟩ := mem_map.1 h
    have := sizeOf_lt_of_mem hm
    simp only [Prod.mk.sizeOf_spec, dict.sizeOf_spec] at this ⊢
    omega
  | _ => cases h

/-- What is computed of a node from what is computed of its children. -/
def fold {β : Type} (f : Document F → List β → β) (v : Document F) : β :=
  f v (v.children.attach.map fun c => c.1.fold f)
termination_by v
decreasing_by exact sizeOf_children c.2

theorem fold_eq {β : Type} (f : Document F → List β → β) :
    v.fold f = f v (v.children.map (fold f)) := by
  rw [fold, attach_map_val (f := fold f)]

/-- The node and all below it. -/
def nodeCount : Document F → Nat := fold fun _ counts => 1 + counts.sum

/-- How deep the deepest node lies below this one. -/
def nestingDepth : Document F → Nat :=
  fold fun _ depths => depths.foldr (fun d m => max (d + 1) m) 0

def texts : Document F → List Text
  | .str text => [text]
  | .dict members => members.map (·.1)
  | _ => []

/-- No string or key has a surrogate. -/
def scalar : Document F → Bool :=
  fold fun v below => v.texts.all (!hasSurrogate ·) && below.all id

theorem nodeCount_eq : v.nodeCount = 1 + (v.children.map (·.nodeCount)).sum := fold_eq _

theorem nestingDepth_le {n : Nat} :
    v.nestingDepth ≤ n ↔ ∀ c ∈ v.children, c.nestingDepth + 1 ≤ n := by
  have hfold : ∀ l : List Nat, l.foldr (fun d m => max (d + 1) m) 0 ≤ n ↔ ∀ d ∈ l, d + 1 ≤ n := by
    intro l
    induction l with
    | nil => simp
    | cons d l ih => rw [foldr_cons, max_le_iff, ih, forall_mem_cons]
  rw [nestingDepth, fold_eq, hfold, forall_mem_map]

theorem scalar_iff : v.scalar = true ↔
    (∀ text ∈ v.texts, hasSurrogate text = false) ∧ ∀ c ∈ v.children, c.scalar = true := by
  rw [scalar, fold_eq, Bool.and_eq_true, all_eq_true, all_map, all_eq_true]
  simp only [Bool.not_eq_true', Function.comp, id]

theorem checkTexts_eq_ok {C : Limits ε} :
    v.checkTexts C = .ok () ↔ ∀ text ∈ v.texts, hasSurrogate text = false := by
  cases v with
  | dict members =>
    simp only [checkTexts, texts, forM_eq_ok, ite_error_eq_ok, forall_mem_map, Bool.not_eq_true,
      and_true]
  | str text => simp [checkTexts, texts]
  | _ => simp [checkTexts, texts]

/-- The limits hold of what is pending after `nodes` nodes. -/
def Pending (C : Limits ε) (nodes : Nat) (stack : List (Document F × Nat)) : Prop :=
  nodes + (stack.map (·.1.nodeCount)).sum ≤ C.nodes ∧
    ∀ p ∈ stack, p.2 + p.1.nestingDepth ≤ C.depth ∧ p.1.scalar = true

theorem Pending.perm {C : Limits ε} {nodes : Nat} {stack stack' : List (Document F × Nat)}
    (h : stack.Perm stack') : Pending C nodes stack ↔ Pending C nodes stack' := by
  unfold Pending
  rw [(h.map _).sum_eq]
  simp only [h.mem_iff]

/-- A node is within the limits exactly if it is visited without an error and its children
are within them. -/
theorem pending_cons {C : Limits ε} {nodes depth : Nat} {stack : List (Document F × Nat)} :
    Pending C nodes ((v, depth) :: stack) ↔ (depth ≤ C.depth ∧ nodes + 1 ≤ C.nodes) ∧
      v.checkTexts C = .ok () ∧
      Pending C (nodes + 1) (v.children.map (fun child => (child, depth + 1)) ++ stack) := by
  have hdepth : depth + v.nestingDepth ≤ C.depth ↔ depth ≤ C.depth ∧
      ∀ c ∈ v.children, depth + 1 + c.nestingDepth ≤ C.depth := by
    constructor
    · intro h
      refine ⟨by omega, fun c hc => ?_⟩
      have := nestingDepth_le.1 le_rfl c hc
      omega
    · rintro ⟨h, hc⟩
      have := (nestingDepth_le (v := v) (n := C.depth - depth)).2 fun c hm => by
        have := hc c hm
        omega
      omega
  simp only [Pending, map_cons, sum_cons, map_append, sum_append, map_map, Function.comp_def,
    forall_mem_cons, forall_mem_append, forall_mem_map, hdepth, scalar_iff (v := v),
    checkTexts_eq_ok, nodeCount_eq (v := v)]
  constructor
  · rintro ⟨hn, ⟨⟨hd, hc⟩, ht, hs⟩, hrest⟩
    exact ⟨⟨hd, by omega⟩, ht, by omega, fun c hm => ⟨hc c hm, hs c hm⟩, hrest⟩
  · rintro ⟨⟨hd, -⟩, ht, hn, hc, hrest⟩
    exact ⟨by omega, ⟨⟨hd, fun c hm => (hc c hm).1⟩, ht, fun c hm => (hc c hm).2⟩, hrest⟩

variable {push : List (Document F × Nat) → List (Document F × Nat) → List (Document F × Nat)}

/-- The invariant of the loop: it ends well exactly if the limits hold of what is pending. -/
theorem visit_eq_ok {C : Limits ε} (hpush : ∀ new stack, (push new stack).Perm (new ++ stack))
    {nodes : Nat} {stack : List (Document F × Nat)} (hnodes : nodes ≤ C.nodes) :
    visit C push nodes stack = .ok () ↔ Pending C nodes stack := by
  fun_induction visit C push nodes stack with
  | case1 nodes => simpa [Pending] using hnodes
  | case2 nodes current depth stack h =>
    rw [pending_cons]
    simp only [reduceCtorEq, false_iff, not_and]
    omega
  | case3 nodes current depth stack h ih =>
    rw [pending_cons, seq_eq_ok, ih (by omega), Pending.perm (hpush _ _)]
    have : depth ≤ C.depth ∧ nodes + 1 ≤ C.nodes := by omega
    simp [this]

end Document

/-! ## The validators -/

variable {F : Type}

def Replay.validateJsonComplexity (label : String) : Document F → Except String Unit :=
  Document.validateComplexity {
    depth := 64
    nodes := 65536
    complex := label ++ " JSON exceeds the structural complexity limit"
    badKey := "cannot encode canonical JSON in " ++ label ++
      ": keys must use Unicode scalar values"
    badString := "cannot encode canonical JSON in " ++ label ++
      ": strings must use Unicode scalar values" }

/-- Of `worker_cli.py`. The code of its failures is `INVALID_JSON`. -/
def WorkerCli.validateJsonComplexity : Document F → Except String Unit :=
  Document.validateComplexity {
    depth := 32
    nodes := 4096
    complex := "request JSON exceeds the structural complexity limit"
    badKey := "request JSON strings must contain only Unicode scalar values"
    badString := "request JSON strings must contain only Unicode scalar values" }

def Task.validateJsonComplexity (label : String) : Document F → Except String Unit :=
  Document.validateComplexity {
    depth := 64
    nodes := 65536
    complex := label ++ " exceeds the JSON structural complexity limit"
    badKey := label ++ " keys must use Unicode scalar values"
    badString := label ++ " strings must use Unicode scalar values" }

theorem visit_root {ε : Type} {C : Limits ε} {v : Document F}
    {push : List (Document F × Nat) → List (Document F × Nat) → List (Document F × Nat)}
    (hpush : ∀ new stack, (push new stack).Perm (new ++ stack)) :
    Document.visit C push 0 [(v, 0)] = .ok () ↔
      v.nodeCount ≤ C.nodes ∧ v.nestingDepth ≤ C.depth ∧ v.scalar = true := by
  rw [Document.visit_eq_ok hpush (Nat.zero_le _)]
  simp [Document.Pending]

/-- **Each validator accepts exactly the documents within its limits, and so does the loop
under every order in which it may visit the nodes.** -/
theorem validateJsonComplexity_iff (label : String) (v : Document F) :
    (Replay.validateJsonComplexity label v = .ok () ↔
        v.nodeCount ≤ 65536 ∧ v.nestingDepth ≤ 64 ∧ v.scalar = true) ∧
      (WorkerCli.validateJsonComplexity v = .ok () ↔
        v.nodeCount ≤ 4096 ∧ v.nestingDepth ≤ 32 ∧ v.scalar = true) ∧
      (Task.validateJsonComplexity label v = .ok () ↔
        v.nodeCount ≤ 65536 ∧ v.nestingDepth ≤ 64 ∧ v.scalar = true) ∧
      ∀ {ε : Type} (C : Limits ε) push, (∀ new stack, (push new stack).Perm (new ++ stack)) →
        (Document.visit C push 0 [(v, 0)] = .ok () ↔
          v.nodeCount ≤ C.nodes ∧ v.nestingDepth ≤ C.depth ∧ v.scalar = true) := by
  have hreverse : ∀ new stack : List (Document F × Nat),
      (new.reverse ++ stack).Perm (new ++ stack) := fun new stack =>
    (reverse_perm new).append_right stack
  exact ⟨visit_root hreverse, visit_root hreverse, visit_root hreverse, fun C push => visit_root⟩

end Bpe.Json
