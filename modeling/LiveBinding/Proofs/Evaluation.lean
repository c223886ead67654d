import LiveBinding.Evaluation
import LiveBinding.Engine.Subscription

/-!
# What a value depends on

The value of an expression depends on a scope only through what its bindings read there, and on
whether the contexts that they name are seen.
-/

namespace LiveBinding

/-! ### Names that occur -/

namespace Fields

variable {α : Type}

theorem mem_names_insert (name other : String) (entry : α) (fields : Fields α) :
    other ∈ (insert name entry fields).names ↔ other = name ∨ other ∈ fields.names := by
  induction fields with
  | nil => simp [insert, names]
  | cons head rest ih =>
      obtain ⟨headName, old⟩ := head
      unfold insert
      split
      · next same => subst same; simp [names]
      · split
        · simp [names]
        · simp only [names, List.map_cons, List.mem_cons] at ih ⊢
          rw [ih]
          exact or_left_comm

theorem mem_names_ofList (entries : List (String × α)) (name : String) :
    name ∈ (ofList entries).names ↔ name ∈ entries.map Prod.fst := by
  have general : ∀ (entries : List (String × α)) (fields : Fields α),
      name ∈ names (entries.foldl (fun fields entry => insert entry.1 entry.2 fields) fields) ↔
        name ∈ entries.map Prod.fst ∨ name ∈ fields.names := by
    intro entries
    induction entries with
    | nil => simp
    | cons entry rest ih =>
        intro fields
        rw [List.foldl_cons, ih, mem_names_insert, List.map_cons, List.mem_cons]
        exact or_left_comm.trans or_assoc.symm
  rw [ofList, general]
  simp [names]

end Fields

namespace Expr

theorem mem_distinct {names : List String} {name : String} :
    name ∈ distinct names ↔ name ∈ names := by
  rw [distinct, Fields.mem_names_ofList, List.map_map]
  simp

/-- The paths of the bindings of an expression, in order of occurrence. -/
def paths : Expr → List Path
  | .literal _ => []
  | .binding path => [path]
  | .call _ arguments => pathsAll arguments
  | .invalid .. => []
where
  pathsAll : List Expr → List Path
    | [] => []
    | argument :: rest => argument.paths ++ pathsAll rest

mutual

theorem reads_eq : (expr : Expr) →
    expr.reads = expr.paths.flatMap fun path => (rootOfPath path).toList
  | .literal _ => rfl
  | .binding _ => by simp [reads, paths]
  | .call _ arguments => readsAll_eq arguments
  | .invalid .. => rfl

theorem readsAll_eq : (arguments : List Expr) →
    reads.readsAll arguments =
      (paths.pathsAll arguments).flatMap fun path => (rootOfPath path).toList
  | [] => rfl
  | argument :: rest => by
      rw [reads.readsAll, paths.pathsAll, List.flatMap_append, reads_eq argument,
        readsAll_eq rest]

end

end Expr

/-! ### Scopes that agree -/

/-- Two scopes in which some paths read the same, and name contexts that are seen in both or in
neither. -/
def Scope.AgreeOn (left right : Scope) (paths : List Path) : Prop :=
  ∀ id rest, .key id :: rest ∈ paths →
    (left.find? id).isSome = (right.find? id).isSome ∧
      left.read? (.key id :: rest) = right.read? (.key id :: rest)

namespace Scope.AgreeOn

variable {left right : Scope} {paths : List Path}

theorem mono {fewer : List Path} (agree : left.AgreeOn right paths) (subset : fewer ⊆ paths) :
    left.AgreeOn right fewer :=
  fun id rest member => agree id rest (subset member)

theorem of_find? (same : ∀ path ∈ paths, ∀ id, Expr.rootOfPath path = some id →
    left.find? id = right.find? id) : left.AgreeOn right paths := by
  intro id rest member
  have found := same _ member id rfl
  refine ⟨by rw [found], ?_⟩
  rw [read?, read?, value?, value?, found]

theorem of_value? (same : ∀ id, left.value? id = right.value? id) : left.AgreeOn right paths := by
  intro id rest _
  have seen : (left.find? id).isSome = (right.find? id).isSome := by
    have sameSeen := congrArg Option.isSome (same id)
    rwa [value?, value?, Option.isSome_map, Option.isSome_map] at sameSeen
  rw [read?, read?, same id]
  exact ⟨seen, rfl⟩

theorem read?_eq (agree : left.AgreeOn right paths) {path : Path} (member : path ∈ paths) :
    left.read? path = right.read? path := by
  match path, member with
  | [], _ => rfl
  | .index _ :: _, _ => rfl
  | .key id :: rest, member => exact (agree id rest member).2

end Scope.AgreeOn

namespace Expr

variable {left right : Scope} (registry : Registry)

mutual

theorem reduce_congr : (expr : Expr) → left.AgreeOn right expr.paths →
    expr.reduce registry left = expr.reduce registry right
  | .literal _, _ => rfl
  | .binding path, agree => by
      have sameRead : left.read? path = right.read? path := agree.read?_eq (by simp [paths])
      rw [reduce, reduce, sameRead]
  | .call name arguments, agree => by
      rw [reduce, reduce, reduceAll_congr arguments agree]
  | .invalid .., _ => rfl

theorem reduceAll_congr : (arguments : List Expr) →
    left.AgreeOn right (paths.pathsAll arguments) →
      reduce.reduceAll registry left arguments = reduce.reduceAll registry right arguments
  | [], _ => rfl
  | argument :: rest, agree => by
      rw [paths.pathsAll] at agree
      rw [reduce.reduceAll, reduce.reduceAll,
        reduce_congr argument (agree.mono (List.subset_append_left _ _)),
        reduceAll_congr rest (agree.mono (List.subset_append_right _ _))]

end

theorem mem_contextIds {expr : Expr} {id : String} :
    id ∈ expr.contextIds ↔ ∃ path ∈ expr.paths, rootOfPath path = some id := by
  rw [contextIds, mem_distinct, reads_eq]
  simp

/-- Scopes that agree on what an expression reads give it the same value. -/
theorem evaluate_congr {expr : Expr} (agree : left.AgreeOn right expr.paths) :
    expr.evaluate registry left = expr.evaluate registry right := by
  have sameTest : (expr.contextIds.all fun id => (left.find? id).isSome) =
      expr.contextIds.all fun id => (right.find? id).isSome := by
    rw [Bool.eq_iff_iff, List.all_eq_true, List.all_eq_true]
    refine forall_congr' fun id => imp_congr_right fun member => ?_
    obtain ⟨path, pathMember, root⟩ := mem_contextIds.mp member
    match path, root with
    | .key name :: rest, rfl => rw [(agree name rest pathMember).1]
  rw [evaluate, evaluate, sameTest, reduce_congr registry expr agree]

end Expr

namespace Template

variable {left right : Scope} (registry : Registry)

/-- The paths of the bindings of a template, in order of occurrence. -/
def paths (template : Template) : List Path := template.expressions.flatMap Expr.paths

theorem mem_contextIds {template : Template} {id : String} :
    id ∈ template.contextIds ↔ ∃ path ∈ template.paths, Expr.rootOfPath path = some id := by
  rw [contextIds, Expr.mem_distinct, paths]
  simp only [List.mem_flatMap]
  constructor
  · rintro ⟨expr, member, read⟩
    rw [← Expr.mem_distinct, ← Expr.contextIds, Expr.mem_contextIds] at read
    obtain ⟨path, pathMember, root⟩ := read
    exact ⟨path, ⟨expr, member, pathMember⟩, root⟩
  · rintro ⟨path, ⟨expr, member, pathMember⟩, root⟩
    refine ⟨expr, member, ?_⟩
    rw [← Expr.mem_distinct, ← Expr.contextIds, Expr.mem_contextIds]
    exact ⟨path, pathMember, root⟩

/-- Scopes that agree on what a template reads give it the same value. -/
theorem evaluate_congr {template : Template} (agree : left.AgreeOn right template.paths) :
    template.evaluate registry left = template.evaluate registry right := by
  have each : ∀ expr, .expr expr ∈ template.pieces →
      expr.evaluate registry left = expr.evaluate registry right := by
    intro expr member
    refine Expr.evaluate_congr registry (agree.mono fun path pathMember => ?_)
    exact List.mem_flatMap.mpr
      ⟨expr, List.mem_filterMap.mpr ⟨.expr expr, member, rfl⟩, pathMember⟩
  have rendered : template.pieces.map (·.render registry left) =
      template.pieces.map (·.render registry right) := by
    refine List.map_congr_left fun piece member => ?_
    cases piece with
    | text plain => rfl
    | expr found => rw [Piece.render, Piece.render, each found member]
  unfold evaluate
  split
  · next expr single =>
      refine each expr ?_
      unfold single? at single
      split at single
      · next found onlyPiece =>
          split at single
          · contradiction
          · cases single
            simp [onlyPiece]
      · contradiction
  · rw [rendered]

end Template

namespace Watched

/-- What is watched keeps its value as long as the names that it reads are seen alike. -/
theorem evaluate_congr (registry : Registry) {left right : Scope} {watched : Watched}
    (same : ∀ id, watched.references id = true → left.find? id = right.find? id) :
    watched.evaluate registry left = watched.evaluate registry right := by
  cases watched with
  | expr found =>
      refine Expr.evaluate_congr registry (.of_find? fun path member id root => same id ?_)
      exact List.contains_iff_mem.mpr (Expr.mem_contextIds.mpr ⟨path, member, root⟩)
  | template found =>
      refine Template.evaluate_congr registry (.of_find? fun path member id root => same id ?_)
      exact List.contains_iff_mem.mpr (Template.mem_contextIds.mpr ⟨path, member, root⟩)

/-- Scopes with the same values give it the same value, whoever declares what is seen. -/
theorem evaluate_eq_of_value? (registry : Registry) {left right : Scope}
    (same : ∀ id, left.value? id = right.value? id) (watched : Watched) :
    watched.evaluate registry left = watched.evaluate registry right := by
  cases watched with
  | expr found => exact Expr.evaluate_congr registry (.of_value? same)
  | template found => exact Template.evaluate_congr registry (.of_value? same)

end Watched

/-! ### Contexts that are not read -/

namespace Scope

/-- Where the entries under some names are the same, the same is found under each of them. -/
theorem find?_eq_of_filter {left right : List Entry} {reads : String → Bool} {id : String}
    (same : left.filter (reads ·.id) = right.filter (reads ·.id)) (read : reads id = true) :
    left.find? (·.id == id) = right.find? (·.id == id) := by
  have kept : ∀ entries : List Entry,
      (entries.filter (reads ·.id)).find? (·.id == id) = entries.find? (·.id == id) := by
    intro entries
    rw [List.find?_filter]
    congr 1
    funext entry
    by_cases here : entry.id = id <;> simp [here, read]
  rw [← kept left, same, kept right]

end Scope

namespace Watched

variable (registry : Registry) {watched : Watched}

/-- Entries of a scope that are not read have no part in a value, wherever they stand. -/
theorem evaluate_eq_of_entries {left right : Scope}
    (same : left.entries.filter (watched.references ·.id) =
      right.entries.filter (watched.references ·.id)) :
    watched.evaluate registry left = watched.evaluate registry right :=
  evaluate_congr registry fun _ read => Scope.find?_eq_of_filter same read

/-- Contexts that are not read have no part in a value, wherever they stand. -/
theorem evaluate_eq_of_contexts {left right : List Context}
    (same : left.filter (watched.references ·.id) = right.filter (watched.references ·.id)) :
    watched.evaluate registry (.ofContexts left) =
      watched.evaluate registry (.ofContexts right) := by
  have entries : ∀ contexts : List Context,
      (contexts.map fun context => (⟨none, context, false⟩ : Scope.Entry)).filter
          (watched.references ·.id) =
        (contexts.filter (watched.references ·.id)).map fun context => ⟨none, context, false⟩ :=
    fun contexts => List.filter_map
  refine evaluate_congr registry fun id read => ?_
  rw [Scope.ofContexts, Scope.ofContexts, Scope.find?_ofEntries, Scope.find?_ofEntries]
  refine Scope.find?_eq_of_filter ?_ read
  rw [entries, entries, same]

end Watched

/-- A value depends on a scope only through what the bindings read.  Scopes in which the bindings
of an expression or of a template find the same give it the same value.  So contexts under other
names than those that are read may be added, changed, moved and removed. -/
theorem Watched.evaluate_eq_of_agree (registry : Registry) :
    (∀ (expr : Expr) (left right : Scope), left.AgreeOn right expr.paths →
        expr.evaluate registry left = expr.evaluate registry right) ∧
      (∀ (template : Template) (left right : Scope), left.AgreeOn right template.paths →
        template.evaluate registry left = template.evaluate registry right) ∧
      (∀ (watched : Watched) (left right : Scope),
        left.entries.filter (watched.references ·.id) =
            right.entries.filter (watched.references ·.id) →
          watched.evaluate registry left = watched.evaluate registry right) ∧
      ∀ (watched : Watched) (left right : List Context),
        left.filter (watched.references ·.id) = right.filter (watched.references ·.id) →
          watched.evaluate registry (.ofContexts left) =
            watched.evaluate registry (.ofContexts right) := by
  refine ⟨?_, ?_, ?_, ?_⟩
  · intro expr left right agree
    exact Expr.evaluate_congr registry agree
  · intro template left right agree
    exact Template.evaluate_congr registry agree
  · intro watched left right same
    exact evaluate_eq_of_entries registry same
  · intro watched left right same
    exact evaluate_eq_of_contexts registry same

/-- A call reads a field of one context and a position in another.  The other fields of the one are
changed and the two change places; then a context that is not read is put in front. -/
theorem Watched.evaluate_eq_of_agree_call :
    let expr := Expr.ofText "condition(a.x, b[0], 1)"
    let left : List Context := [⟨"a", .object [("x", .bool true), ("y", .null)]⟩, ⟨"b", .null⟩]
    let right : List Context := [⟨"b", .array []⟩, ⟨"a", .object [("x", .bool true)]⟩]
    let longer : List Context := ⟨"y", .bool false⟩ :: right
    ((Scope.ofContexts left).AgreeOn (.ofContexts right) expr.paths ∧
        expr.evaluate .empty (.ofContexts left) = expr.evaluate .empty (.ofContexts right)) ∧
      right.filter ((Watched.expr expr).references ·.id) =
          longer.filter ((Watched.expr expr).references ·.id) ∧
        expr.evaluate .empty (.ofContexts right) = expr.evaluate .empty (.ofContexts longer) := by
  intro expr left right longer
  obtain ⟨ofAgree, -, -, ofContexts⟩ := evaluate_eq_of_agree .empty
  have agree : (Scope.ofContexts left).AgreeOn (.ofContexts right) expr.paths := by
    have paths : expr.paths = [[.key "a", .key "x"], [.key "b", .index 0]] := by decide +kernel
    rw [paths]
    intro id rest member
    simp only [List.mem_cons, List.cons.injEq, Segment.key.injEq, List.not_mem_nil,
      or_false] at member
    obtain ⟨rfl, rfl⟩ | ⟨rfl, rfl⟩ := member
    · decide +kernel
    · decide +kernel
  have unread : right.filter ((Watched.expr expr).references ·.id) =
      longer.filter ((Watched.expr expr).references ·.id) := by decide +kernel
  exact ⟨⟨agree, ofAgree expr _ _ agree⟩, unread, ofContexts (.expr expr) right longer unread⟩

end LiveBinding
