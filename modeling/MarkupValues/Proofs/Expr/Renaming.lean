import Mathlib.Data.List.Basic
import Mathlib.Logic.Function.Iterate
import MarkupValues.Proofs.Expr.Nodes

/-!
# Renaming the types of an expression

`Expr.rename` changes every type name in an expression: those of constructed types, of the owners of
members and methods, and of the targets of fallback calls. Nothing else changes, as its nodes tell
(`Expr.nodes_rename`). Two renamings are one by their composite (`Expr.rename_rename`), so a
renaming that leaves what it has renamed may be repeated at will (`Expr.iterate_rename`).
-/

namespace MarkupValues.Expr

mutual

/-- An expression with every type name changed, and nothing else. -/
def rename (f : TypeName → TypeName) : Expr → Expr
  | construct type args initializers items =>
    construct (f type) (renameAll f args) (renameInitializers f initializers) (renameAll f items)
  | member owner name => member (f owner) name
  | invoke owner method args => invoke (f owner) method (renameAll f args)
  | literal value => literal value
  | null => null
  | fallback target source => fallback (f target) source

/-- Several expressions with every type name changed. -/
def renameAll (f : TypeName → TypeName) : List Expr → List Expr
  | [] => []
  | e :: es => rename f e :: renameAll f es

/-- Several properties with every type name in their values changed. -/
def renameInitializers (f : TypeName → TypeName) : List (String × Expr) → List (String × Expr)
  | [] => []
  | (name, e) :: rest => (name, rename f e) :: renameInitializers f rest

end

section
variable (f g : TypeName → TypeName)

/-- `renameAll`, which is recursive along with `rename`, as a plain map over the list. -/
theorem renameAll_eq (es : List Expr) : renameAll f es = es.map (rename f) := by
  induction es with
  | nil => rfl
  | cons e es ih => rw [renameAll, ih, List.map_cons]

/-- `renameInitializers`, which is recursive along with `rename`, as a plain map over the list. -/
theorem renameInitializers_eq (ps : List (String × Expr)) :
    renameInitializers f ps = ps.map fun p => (p.1, p.2.rename f) := by
  induction ps with
  | nil => rfl
  | cons p ps ih => rw [renameInitializers, ih, List.map_cons]

@[simp] theorem rename_construct (type : TypeName) (args items : List Expr)
    (initializers : List (String × Expr)) :
    (construct type args initializers items).rename f =
      construct (f type) (args.map (rename f)) (initializers.map fun p => (p.1, p.2.rename f))
        (items.map (rename f)) := by
  rw [rename, renameAll_eq, renameInitializers_eq, renameAll_eq]

@[simp] theorem rename_invoke (owner : TypeName) (method : String) (args : List Expr) :
    (invoke owner method args).rename f = invoke (f owner) method (args.map (rename f)) := by
  rw [rename, renameAll_eq]

@[simp] theorem rename_member (owner : TypeName) (name : String) :
    (member owner name).rename f = member (f owner) name := rfl

@[simp] theorem rename_literal (value : Literal) : (literal value).rename f = literal value := rfl

@[simp] theorem rename_null : null.rename f = null := rfl

@[simp] theorem rename_fallback (target : TypeName) (source : String) :
    (fallback target source).rename f = fallback (f target) source := rfl

/-! ## What is renamed -/

/-- The nodes of a renamed expression are the nodes of the expression, renamed: renaming keeps the
shape of the tree. So what is collected from the nodes can be compared node by node. -/
theorem nodes_rename (e : Expr) : (e.rename f).nodes = e.nodes.map (rename f) := by
  have hall {es : List Expr} (ih : ∀ e ∈ es, (e.rename f).nodes = e.nodes.map (rename f)) :
      nodesOfAll (es.map (rename f)) = (nodesOfAll es).map (rename f) := by
    rw [nodesOfAll_eq, nodesOfAll_eq, List.flatMap_map, List.map_flatMap]
    exact List.flatMap_congr ih
  induction e using recNodes with
  | construct type args initializers items ihargs ihinitializers ihitems =>
    have hinitializers : nodesOfInitializers (initializers.map fun p => (p.1, p.2.rename f)) =
        (nodesOfInitializers initializers).map (rename f) := by
      rw [nodesOfInitializers_eq, nodesOfInitializers_eq, List.flatMap_map, List.map_flatMap]
      exact List.flatMap_congr ihinitializers
    rw [rename_construct, nodes, nodes, hall ihargs, hinitializers, hall ihitems]
    simp
  | invoke owner method args ih =>
    rw [rename_invoke, nodes, nodes, hall ih]
    simp
  | member | literal | null | fallback => rfl

variable {f} in
/-- What a function reads off the nodes changes with the names when it does so for each node. -/
theorem collect_rename {α : Type} {own : Expr → List α} {change : α → α}
    (h : ∀ node : Expr, own (node.rename f) = (own node).map change) (e : Expr) :
    (e.rename f).collect own = (e.collect own).map change := by
  rw [collect, collect, nodes_rename, List.flatMap_map, List.map_flatMap]
  exact List.flatMap_congr fun node _ => h node

/-- Every type name is changed, at its place among the others. -/
theorem typeNames_rename (e : Expr) : (e.rename f).typeNames = e.typeNames.map f := by
  refine collect_rename (fun node => ?_) e
  cases node <;> simp

/-- The names of members, methods and properties stay, and so does their order. -/
theorem names_rename (e : Expr) : (e.rename f).names = e.names := by
  have h : (e.rename f).names = e.names.map id := by
    refine collect_rename (fun node => ?_) e
    cases node <;> simp
  rw [h, List.map_id]

/-- The literals stay as they are, the texts among them included. -/
theorem literals_rename (e : Expr) : (e.rename f).literals = e.literals := by
  have h : (e.rename f).literals = e.literals.map id := by
    refine collect_rename (fun node => ?_) e
    cases node <;> simp
  rw [h, List.map_id]

/-! ## Repeated renamings -/

/-- Two renamings one after the other are the renaming by both. -/
theorem rename_rename (e : Expr) : (e.rename f).rename g = e.rename (g ∘ f) := by
  induction e using recNodes with
  | construct type args initializers items ihargs ihinitializers ihitems =>
    simp only [rename_construct, List.map_map, Function.comp_apply, construct.injEq, true_and]
    refine ⟨List.map_congr_left ihargs, List.map_congr_left fun p hp => ?_,
      List.map_congr_left ihitems⟩
    exact congrArg (Prod.mk p.1) (ihinitializers p hp)
  | invoke owner method args ih =>
    simp only [rename_invoke, List.map_map, Function.comp_apply, invoke.injEq, true_and]
    exact List.map_congr_left ih
  | member | literal | null | fallback => rfl

variable {f} in
/-- A renaming that leaves what it has renamed changes nothing when it is repeated. -/
theorem iterate_rename (hf : ∀ name, f (f name) = f name) (times : Nat) (e : Expr) :
    (rename f)^[times + 1] e = e.rename f := by
  have htwice : (e.rename f).rename f = e.rename f := by
    rw [rename_rename]
    exact congrArg (rename · e) (funext hf)
  rw [Function.iterate_succ_apply]
  exact Function.iterate_fixed htwice times

end

end MarkupValues.Expr
