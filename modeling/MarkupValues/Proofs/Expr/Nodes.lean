import MarkupValues.Expr

/-!
# The nodes of an expression

`Expr.recNodes` is the induction principle for expressions, with one hypothesis for each list of
subexpressions. `Expr.nodes` lists the nodes of a tree, and what a node holds of its own is
collected over them: the names of types (`Expr.typeNames`), the names of members, methods and
properties (`Expr.names`) and the literals (`Expr.literals`). `Expr.MadeOf` says what all of these
are.
-/

namespace MarkupValues.Expr

/-- Induction over an expression: what holds of all subexpressions of a node holds of the node. The
generated recursor has a motive for each kind of list, this one speaks of the members. -/
@[elab_as_elim]
theorem recNodes {motive : Expr → Prop}
    (construct : ∀ type args initializers items, (∀ e ∈ args, motive e) →
      (∀ p ∈ initializers, motive p.2) → (∀ e ∈ items, motive e) →
      motive (construct type args initializers items))
    (member : ∀ owner name, motive (member owner name))
    (invoke : ∀ owner method args, (∀ e ∈ args, motive e) → motive (invoke owner method args))
    (literal : ∀ value, motive (literal value))
    (null : motive null)
    (fallback : ∀ target source, motive (fallback target source)) (e : Expr) : motive e := by
  refine Expr.rec (motive_1 := motive) (motive_2 := fun es => ∀ e ∈ es, motive e)
    (motive_3 := fun ps => ∀ p ∈ ps, motive p.2) (motive_4 := fun p => motive p.2)
    construct member invoke literal null fallback ?_ ?_ ?_ ?_ ?_ e
  · exact fun _ h => nomatch h
  · exact fun _ _ hd tl => List.forall_mem_cons.2 ⟨hd, tl⟩
  · exact fun _ h => nomatch h
  · exact fun _ _ hd tl => List.forall_mem_cons.2 ⟨hd, tl⟩
  · exact fun _ _ h => h

mutual

/-- The nodes of an expression, each before the nodes below it: arguments come first, then the
values of properties, then items. -/
def nodes : Expr → List Expr
  | construct type args initializers items =>
    construct type args initializers items ::
      (nodesOfAll args ++ nodesOfInitializers initializers ++ nodesOfAll items)
  | invoke owner method args => invoke owner method args :: nodesOfAll args
  | member owner name => [member owner name]
  | literal value => [literal value]
  | null => [null]
  | fallback target source => [fallback target source]

/-- The nodes of several expressions, those of an earlier one first. -/
def nodesOfAll : List Expr → List Expr
  | [] => []
  | e :: es => nodes e ++ nodesOfAll es

/-- The nodes of the values of several properties, in the order in which they are set. -/
def nodesOfInitializers : List (String × Expr) → List Expr
  | [] => []
  | (_, e) :: rest => nodes e ++ nodesOfInitializers rest

end

/-- `nodesOfAll`, which is recursive along with `nodes`, as a plain map over the list. -/
theorem nodesOfAll_eq (es : List Expr) : nodesOfAll es = es.flatMap nodes := by
  induction es with
  | nil => rfl
  | cons e es ih => rw [nodesOfAll, ih, List.flatMap_cons]

/-- `nodesOfInitializers`, which is recursive along with `nodes`, as a plain map over the list. -/
theorem nodesOfInitializers_eq (ps : List (String × Expr)) :
    nodesOfInitializers ps = ps.flatMap fun p => p.2.nodes := by
  induction ps with
  | nil => rfl
  | cons p ps ih => rw [nodesOfInitializers, ih, List.flatMap_cons]

/-! ## What the nodes hold -/

/-- What a function reads off each node of an expression, in the order of the nodes. Type names,
other names and literals are collected in this way. -/
def collect {α : Type} (own : Expr → List α) (e : Expr) : List α :=
  e.nodes.flatMap own

section
variable {α : Type} {own : Expr → List α} {p : α → Prop}

/-- What a constructor call holds is its own, or held by its arguments, properties or items. -/
theorem forall_mem_collect_construct {type : TypeName} {args items : List Expr}
    {initializers : List (String × Expr)} :
    (∀ x ∈ (construct type args initializers items).collect own, p x) ↔
      (∀ x ∈ own (construct type args initializers items), p x) ∧
      (∀ e ∈ args, ∀ x ∈ e.collect own, p x) ∧
      (∀ q ∈ initializers, ∀ x ∈ q.2.collect own, p x) ∧ ∀ e ∈ items, ∀ x ∈ e.collect own, p x := by
  simp only [collect, nodes, nodesOfAll_eq, nodesOfInitializers_eq, List.flatMap_cons,
    List.flatMap_append, List.flatMap_assoc, List.forall_mem_append, List.forall_mem_flatMap,
    and_assoc]

/-- What a call holds is its own, or held by its arguments. -/
theorem forall_mem_collect_invoke {owner : TypeName} {method : String} {args : List Expr} :
    (∀ x ∈ (invoke owner method args).collect own, p x) ↔
      (∀ x ∈ own (invoke owner method args), p x) ∧ ∀ e ∈ args, ∀ x ∈ e.collect own, p x := by
  simp only [collect, nodes, nodesOfAll_eq, List.flatMap_cons, List.flatMap_assoc,
    List.forall_mem_append, List.forall_mem_flatMap]

@[simp] theorem collect_member (owner : TypeName) (name : String) :
    (member owner name).collect own = own (member owner name) :=
  List.flatMap_singleton own _

@[simp] theorem collect_literal (value : Literal) :
    (literal value).collect own = own (literal value) :=
  List.flatMap_singleton own _

@[simp] theorem collect_null : null.collect own = own null :=
  List.flatMap_singleton own _

@[simp] theorem collect_fallback (target : TypeName) (source : String) :
    (fallback target source).collect own = own (fallback target source) :=
  List.flatMap_singleton own _

end

/-- The nodes of an expression are what each of them is, so that what is shown of collecting holds
of the nodes too. -/
theorem nodes_eq_collect (e : Expr) : e.nodes = e.collect fun node => [node] := by
  rw [collect, List.flatMap_singleton']

/-- The names of types anywhere in an expression, each as often as it stands there. The type that
converts texts at run time is none of them. -/
def typeNames : Expr → List TypeName :=
  collect fun
    | construct type _ _ _ => [type]
    | member owner _ => [owner]
    | invoke owner _ _ => [owner]
    | fallback target _ => [target]
    | literal _ | null => []

/-- The names of members, methods and properties anywhere in an expression, each as often as it
stands there. -/
def names : Expr → List String :=
  collect fun
    | construct _ _ initializers _ => initializers.map Prod.fst
    | member _ name => [name]
    | invoke _ method _ => [method]
    | literal _ | null | fallback .. => []

/-- The literals anywhere in an expression. The text of a fallback call is none. -/
def literals : Expr → List Literal :=
  collect fun
    | literal value => [value]
    | _ => []

/-- Whether a node is a constructor call with properties to set and items to add, of which the code
would have the properties alone. -/
def hasTwoBlocks : Expr → Bool
  | construct _ _ initializers items => !initializers.isEmpty && !items.isEmpty
  | _ => false

/-! ## What an expression is made of -/

/-- An expression whose type names, other names and literals have given properties, and no
constructor call of which both sets properties and adds items. -/
structure MadeOf (type : TypeName → Prop) (name : String → Prop) (literal : Literal → Prop)
    (e : Expr) : Prop where
  typeNames : ∀ t ∈ e.typeNames, type t
  names : ∀ n ∈ e.names, name n
  literals : ∀ v ∈ e.literals, literal v
  blocks : ∀ node ∈ e.nodes, node.hasTwoBlocks = false

section
variable {type type' : TypeName → Prop} {name name' : String → Prop}
  {literal literal' : Literal → Prop}

/-- An expression whose parts have given properties is made of parts that have weaker ones. -/
theorem MadeOf.mono {e : Expr} (h : e.MadeOf type name literal) (htype : ∀ t, type t → type' t)
    (hname : ∀ n, name n → name' n) (hliteral : ∀ v, literal v → literal' v) :
    e.MadeOf type' name' literal' where
  typeNames t ht := htype t (h.typeNames t ht)
  names n hn := hname n (h.names n hn)
  literals v hv := hliteral v (h.literals v hv)
  blocks := h.blocks

/-- What an expression is made of as one conjunction, in which each condition is one on what is
collected. -/
theorem madeOf_iff {e : Expr} :
    e.MadeOf type name literal ↔ (∀ t ∈ e.typeNames, type t) ∧ (∀ n ∈ e.names, name n) ∧
      (∀ v ∈ e.literals, literal v) ∧ ∀ node ∈ e.nodes, node.hasTwoBlocks = false :=
  ⟨fun h => ⟨h.typeNames, h.names, h.literals, h.blocks⟩, fun ⟨ht, hn, hv, hb⟩ => ⟨ht, hn, hv, hb⟩⟩

/-- A constructor call is made of its own names and of what the expressions below it are made of,
and it has one block at most. -/
theorem madeOf_construct {t : TypeName} {args items : List Expr}
    {initializers : List (String × Expr)} :
    (construct t args initializers items).MadeOf type name literal ↔
      type t ∧ (initializers = [] ∨ items = []) ∧ (∀ e ∈ args, e.MadeOf type name literal) ∧
      (∀ p ∈ initializers, name p.1 ∧ p.2.MadeOf type name literal) ∧
      ∀ e ∈ items, e.MadeOf type name literal := by
  simp only [madeOf_iff, Expr.typeNames, Expr.names, Expr.literals, nodes_eq_collect,
    forall_mem_collect_construct, List.forall_mem_singleton, List.forall_mem_map, hasTwoBlocks,
    List.not_mem_nil, false_implies, implies_true, true_and]
  have hblock : (!initializers.isEmpty && !items.isEmpty) = false ↔
      initializers = [] ∨ items = [] := by
    cases initializers <;> cases items <;> simp
  rw [hblock]
  grind

/-- A call is made of its own names and of what its arguments are made of. -/
theorem madeOf_invoke {owner : TypeName} {method : String} {args : List Expr} :
    (invoke owner method args).MadeOf type name literal ↔
      type owner ∧ name method ∧ ∀ e ∈ args, e.MadeOf type name literal := by
  simp only [madeOf_iff, Expr.typeNames, Expr.names, Expr.literals, nodes_eq_collect,
    forall_mem_collect_invoke, List.forall_mem_singleton, hasTwoBlocks]
  grind

/-- A member is made of its two names. -/
theorem madeOf_member {owner : TypeName} {n : String} :
    (member owner n).MadeOf type name literal ↔ type owner ∧ name n := by
  simp [madeOf_iff, Expr.typeNames, Expr.names, Expr.literals, nodes_eq_collect, hasTwoBlocks]

/-- A literal is made of itself. -/
theorem madeOf_literal {value : Literal} :
    (Expr.literal value).MadeOf type name literal ↔ literal value := by
  simp [madeOf_iff, Expr.typeNames, Expr.names, Expr.literals, nodes_eq_collect, hasTwoBlocks]

/-- The null reference is made of nothing, so it has any properties of parts. -/
theorem madeOf_null : null.MadeOf type name literal := by
  simp [madeOf_iff, Expr.typeNames, Expr.names, Expr.literals, nodes_eq_collect, hasTwoBlocks]

/-- A fallback call is made of the name of its type; the text in it is no literal of the
expression. -/
theorem madeOf_fallback {target : TypeName} {source : String} :
    (fallback target source).MadeOf type name literal ↔ type target := by
  simp [madeOf_iff, Expr.typeNames, Expr.names, Expr.literals, nodes_eq_collect, hasTwoBlocks]

end

end MarkupValues.Expr
