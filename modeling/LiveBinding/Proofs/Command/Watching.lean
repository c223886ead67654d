import LiveBinding.Command.Run
import LiveBinding.Proofs.Context.Resolution
import LiveBinding.Proofs.Engine.Rebinding
import LiveBinding.Proofs.Expr.Grammar
import LiveBinding.Proofs.Json

/-!
# A watch is an evaluation again and again

A watch prints the value of its text over the contexts of a file, as an evaluation does.  Then it
does its assignments to these contexts one after the other.  Behind each that writes a context that
the text reads, it prints the value over the contexts as they are then.  It ends with the first
assignment that cannot be done.  All this is said here without nodes and subscriptions.
-/

namespace LiveBinding

/-! ### Expressions that were read -/

theorem Watched.hasValid_of_read {text : String} {expr : Expr}
    (read : Expr.read text = .ok expr) : (ofText false text).hasValid = true := by
  rw [hasValid_ofText_false, Expr.ofText, read]
  simp only [Expr.isInvalid_of_read read, Bool.not_false]

/-! ### Assignments without an engine -/

namespace Assignment

/-- The assignments that some texts are read as. -/
def AreRead (texts : List String) (assignments : List Assignment) : Prop :=
  List.Forall₂ (fun text assignment => Assignment.read text = .ok assignment) texts assignments

/-- Carry out an assignment on the values of contexts by their names.  Nothing comes of it if its
path cannot be read, if there is no context of its name, or if the write is refused. -/
def carryOut? (policy : WritePolicy) (assignment : Assignment) (contexts : Fields Value) :
    Option (Fields Value) :=
  match Path.read assignment.path, contexts.get? assignment.contextId with
  | .ok path, some value =>
    (Value.write? policy path assignment.value value).map fun written =>
      contexts.insert assignment.contextId written
  | _, _ => none

theorem carryOut?_eq_some_iff {policy : WritePolicy} {assignment : Assignment}
    {contexts after : Fields Value} :
    assignment.carryOut? policy contexts = some after ↔
      ∃ path old new, Path.read assignment.path = .ok path ∧
        contexts.get? assignment.contextId = some old ∧
        Value.write? policy path assignment.value old = some new ∧
        after = contexts.insert assignment.contextId new := by
  unfold carryOut?
  cases Path.read assignment.path with
  | error => simp
  | ok path =>
      cases contexts.get? assignment.contextId with
      | none => simp
      | some old => simp [eq_comm (a := after)]

/-- The write that an assignment asks for, from a node on. -/
def request (assignment : Assignment) (origin : NodeId) : WriteRequest :=
  ⟨origin, assignment.contextId, assignment.path, assignment.value, none⟩

end Assignment

namespace Command

/-- An assignment that was done, and the values of the contexts after it. -/
structure Stage where
  assignment : Assignment
  contexts : Fields Value

/-- The assignments that can be done one after the other, up to the first one that cannot. -/
def stages (policy : WritePolicy) : List Assignment → Fields Value → List Stage
  | [], _ => []
  | assignment :: rest, contexts =>
    match assignment.carryOut? policy contexts with
    | none => []
    | some after => ⟨assignment, after⟩ :: stages policy rest after

/-- The contexts in a file as they are declared. -/
def contextList (contexts : Fields Value) : List Context :=
  contexts.map fun field => ⟨field.1, field.2⟩

/-- The value over contexts, of which each is seen. -/
def valueOver (watched : Watched) (contexts : Fields Value) : Value :=
  watched.evaluate .empty (.ofContexts (contextList contexts))

/-- The line about an assignment that was done. -/
def Stage.line (watched : Watched) (stage : Stage) : String :=
  stage.assignment.contextId ++ ":" ++ stage.assignment.path ++ " -> " ++
    (valueOver watched stage.contexts).toText

theorem value?_contextList (contexts : Fields Value) (name : String) :
    (Scope.ofContexts (contextList contexts)).value? name = contexts.get? name := by
  rw [Scope.value?, Scope.ofContexts, Scope.find?_ofEntries]
  induction contexts with
  | nil => rfl
  | cons head rest ih =>
      obtain ⟨other, value⟩ := head
      rw [Fields.get?_cons, contextList, List.map_cons, List.map_cons]
      by_cases here : other = name
      · simp [Scope.Entry.id, here]
      · rw [if_neg here, List.find?_cons_of_neg (by simpa [Scope.Entry.id] using here)]
        exact ih

/-! ### Machines over the contexts of a file -/

/-- A machine has a root, and this declares some contexts and nothing else. -/
structure Holds (machine : Machine) (root : NodeId) (settings : Settings)
    (contexts : Fields Value) : Prop where
  wellFormed : machine.tree.WellFormed
  present : machine.tree.contains root = true
  topmost : machine.tree.parent? root = none
  declares : ∀ name, machine.tree.context? root name = (contexts.get? name).map (Context.mk name)
  registry : machine.registry = .empty
  settings : machine.settings = settings

namespace Holds

variable {machine : Machine} {root : NodeId} {settings : Settings} {contexts : Fields Value}
  {name : String} {value : Value}

section Reading

variable (holds : Holds machine root settings contexts)

include holds

theorem value?_scope (name : String) :
    (machine.tree.scope root).value? name = contexts.get? name := by
  rw [Scope.value?, Tree.find?_scope,
    holds.wellFormed.ancestors_of_root holds.present holds.topmost, List.findSome?_singleton,
    Tree.declaration?, holds.declares, Option.map_map, Option.map_map]
  exact Option.map_id'

/-- A value on the root is a value over the contexts. -/
theorem evaluateOn (watched : Watched) :
    machine.evaluateOn root watched = valueOver watched contexts := by
  rw [Engine.evaluateOn, holds.registry, valueOver]
  refine watched.evaluate_eq_of_value? .empty fun name => ?_
  rw [holds.value?_scope, value?_contextList]

theorem owner?_of_get? (found : contexts.get? name = some value) :
    machine.tree.owner? root name = some root := by
  apply Tree.owner?_of_declares holds.wellFormed
  rw [holds.declares, found]
  rfl

theorem owner?_of_get?_eq_none (missing : contexts.get? name = none) :
    machine.tree.owner? root name = none := by
  refine Tree.owner?_of_root ?_ holds.topmost
  rw [holds.declares, missing]
  rfl

/-- A context that is put on the root is put among the contexts. -/
theorem withContext (name : String) (value : Value) :
    Holds { machine with tree := machine.tree.withContext root ⟨name, value⟩ } root settings
      (contexts.insert name value) where
  wellFormed := holds.wellFormed.withContext root ⟨name, value⟩
  present := ((Tree.sameShape_withContext _ _ _).contains root).trans holds.present
  topmost := ((Tree.sameShape_withContext _ _ _).parent? root).trans holds.topmost
  declares other := by
    rw [Tree.context?_withContext holds.present]
    by_cases here : name = other
    · subst here
      rw [if_pos ⟨rfl, rfl⟩, Fields.get?_insert_self, Option.map_some]
    · rw [if_neg fun same => here same.2, holds.declares, Fields.get?_insert_of_ne here]
  registry := holds.registry
  settings := holds.settings

/-- An assignment that can be done is done on the root. -/
theorem writeTree_of_carryOut? {assignment : Assignment} {after : Fields Value}
    (carriedOut : assignment.carryOut? settings.defaultPolicy contexts = some after) :
    ∃ tree, machine.writeTree (assignment.request root) = .ok (root, tree) ∧
      Holds { machine with tree } root settings after ∧
      (after.get? assignment.contextId).isSome := by
  obtain ⟨path, old, new, read, found, written, rfl⟩ :=
    Assignment.carryOut?_eq_some_iff.mp carriedOut
  refine ⟨_, ?_, holds.withContext assignment.contextId new, ?_⟩
  · have declared : machine.tree.context? root assignment.contextId =
        some ⟨assignment.contextId, old⟩ := by rw [holds.declares, found, Option.map_some]
    rw [Engine.writeTree_eq_ok_iff, holds.settings]
    exact ⟨path, _, new, read, holds.owner?_of_get? found, declared, written, rfl⟩
  · rw [Fields.get?_insert_self, Option.isSome_some]

/-- An assignment that cannot be done fails. -/
theorem writeTree_of_carryOut?_eq_none {assignment : Assignment}
    (refused : assignment.carryOut? settings.defaultPolicy contexts = none) :
    ∃ error, machine.writeTree (assignment.request root) = .error error := by
  cases outcome : machine.writeTree (assignment.request root) with
  | error error => exact ⟨error, rfl⟩
  | ok result =>
      obtain ⟨path, context, new, read, owned, declared, written, -⟩ :=
        Engine.writeTree_eq_ok_iff.mp outcome
      cases found : contexts.get? assignment.contextId with
      | none =>
          have unseen := holds.owner?_of_get?_eq_none found
          exact absurd (owned.symm.trans unseen) nofun
      | some old =>
          cases owned.symm.trans (holds.owner?_of_get? found)
          rw [Assignment.request, holds.declares, found, Option.map_some] at declared
          cases declared
          rw [Assignment.request, holds.settings] at written
          have carriedOut :=
            Assignment.carryOut?_eq_some_iff.mpr ⟨path, old, new, read, found, written, rfl⟩
          exact absurd (refused.symm.trans carriedOut) nofun

end Reading

end Holds

/-! ### Declaring the contexts -/

theorem toldValues_map_notified (told : List Notification) :
    toldValues (told.map .notified) = told.map Notification.value := by
  rw [toldValues, List.filterMap_map, ← List.filterMap_eq_map]
  rfl

/-- A cascade among the listeners of a command is over with its first round. -/
theorem settle_silent (machine : Machine) (told : List SubscriptionId) :
    machine.settle silent told = (machine, (told.filterMap machine.due?).map .notified) := by
  have nothing : machine.Silent silent := fun _ _ _ _ _ => rfl
  obtain ⟨memory, settled⟩ := Engine.settle_of_silent_listeners nothing told
  exact settled

/-- Contexts are declared one after the other, and nobody listens. -/
theorem declareAll_of_holds {root : NodeId} {settings : Settings} (declared : Fields Value)
    {machine : Machine} {contexts : Fields Value}
    (holds : Holds machine root settings contexts) (unheard : machine.subscriptions = .empty) :
    ∃ after, declareAll root (contextList declared) machine = .ok after ∧
      after.subscriptions = .empty ∧
      Holds after root settings
        (declared.foldl (fun fields entry => fields.insert entry.1 entry.2) contexts) := by
  induction declared generalizing machine contexts with
  | nil => exact ⟨machine, rfl, unheard, holds⟩
  | cons head rest ih =>
      obtain ⟨name, value⟩ := head
      have grown := holds.withContext name value
      obtain ⟨after, done, stillUnheard, holdsAll⟩ := ih grown unheard
      refine ⟨after, ?_, stillUnheard, holdsAll⟩
      have declares : machine.tree.declare root ⟨name, value⟩ = .ok
          ((machine.tree.context? root name).map (·.value),
            machine.tree.withContext root ⟨name, value⟩) :=
        Tree.declare_eq_ok_iff.mpr ⟨holds.present, rfl⟩
      rw [contextList, List.map_cons, declareAll]
      simp only [Engine.declare, declares, settle_silent]
      exact done

/-- The machine of a command holds the contexts that were read from a file. -/
theorem engineOver_of_ascending (settings : Settings) {contexts : Fields Value}
    (ascending : contexts.Ascending) :
    ∃ machine root, engineOver settings (contextList contexts) = .ok (machine, root) ∧
      machine.subscriptions = .empty ∧ Holds machine root settings contexts := by
  have known : ∀ above, none = some above → Tree.empty.contains above = true := nofun
  have attached : Tree.empty.attach none = .ok (Tree.empty.nextHandle, Tree.empty.grown none) :=
    Tree.attach_eq_ok_iff.mpr ⟨known, rfl⟩
  let bare : Machine := { Engine.new settings () with tree := Tree.empty.grown none }
  have holds : Holds bare Tree.empty.nextHandle settings [] := {
    wellFormed := Tree.WellFormed.empty.grown known
    present := rfl
    topmost := rfl
    declares := fun _ => rfl
    registry := rfl
    settings := rfl }
  obtain ⟨machine, done, unheard, holdsAll⟩ := declareAll_of_holds contexts holds rfl
  refine ⟨machine, Tree.empty.nextHandle, ?_, unheard, ?_⟩
  · have newTree : (Engine.new settings () : Machine).tree = .empty := rfl
    rw [engineOver, Engine.attach, newTree, attached]
    change (declareAll _ _ bare).map _ = _
    rw [done]
    rfl
  · rw [← Fields.ofList_eq_self ascending]
    exact holdsAll

/-! ### Doing the assignments -/

/-- On the root there is one subscription to what is watched, or none if that reads nothing. -/
def Listens (machine : Machine) (root : NodeId) (watched : Watched) : Prop :=
  (∃ id, machine.subscriptions.live = [(id, ⟨root, watched, ()⟩)]) ∨
    machine.subscriptions.live = [] ∧ ∀ name, watched.references name = false

section Watch

variable {machine : Machine} {root : NodeId} {settings : Settings} {contexts : Fields Value}
  {watched : Watched} (holds : Holds machine root settings contexts)

include holds

/-- A change of a context is told once if the context is read. -/
theorem Listens.told (listens : Listens machine root watched) {name : String}
    (declared : (contexts.get? name).isSome) :
    ((machine.affected root name).filterMap machine.due?).map Notification.value =
      if watched.references name then [valueOver watched contexts] else [] := by
  obtain ⟨value, found⟩ := Option.isSome_iff_exists.mp declared
  have owned := holds.owner?_of_get? found
  obtain ⟨id, live⟩ | ⟨live, readsNothing⟩ := listens
  · have get? : machine.subscriptions.get? id = some ⟨root, watched, ()⟩ := by
      simp [Subscriptions.get?, live]
    have due : machine.due? id = some ⟨id, root, valueOver watched contexts⟩ := by
      rw [Engine.due?, get?, Option.map_some, holds.evaluateOn]
    rw [Engine.affected, live]
    by_cases reads : watched.references name = true
    · simp [reads, owned, due]
    · simp [reads]
  · simp [Engine.affected, live, readsNothing]

theorem Listens.write_of_carryOut? (listens : Listens machine root watched)
    {assignment : Assignment} {after : Fields Value}
    (carriedOut : assignment.carryOut? settings.defaultPolicy contexts = some after) :
    let step := machine.write silent (assignment.request root)
    (∃ written, step.answer = .ok written) ∧ Holds step.engine root settings after ∧
      Listens step.engine root watched ∧
      toldValues step.journal =
        if watched.references assignment.contextId then [valueOver watched after] else [] := by
  obtain ⟨tree, written, holdsAfter, declared⟩ := holds.writeTree_of_carryOut? carriedOut
  have told := Listens.told holdsAfter listens declared
  simp only [Engine.write, written, settle_silent, toldValues_map_notified]
  exact ⟨⟨_, rfl⟩, holdsAfter, listens, told⟩

/-- What is said while assignments are done: the new value behind each one that is done and writes
a context that is read, until one cannot be done. -/
theorem Listens.follow (listens : Listens machine root watched) (assignments : List Assignment) :
    let done := stages settings.defaultPolicy assignments contexts
    let reports := Command.follow root assignments machine
    reports.said = (done.filter (watched.references ·.assignment.contextId)).map
        (fun stage => .notified stage.assignment.label (valueOver watched stage.contexts)) ∧
      reports.problem.isSome = decide (done.length < assignments.length) := by
  induction assignments generalizing machine contexts with
  | nil => exact ⟨rfl, rfl⟩
  | cons assignment rest ih =>
      dsimp only
      rw [Command.follow, stages]
      cases carriedOut : assignment.carryOut? settings.defaultPolicy contexts with
      | none =>
          obtain ⟨error, failed⟩ := holds.writeTree_of_carryOut?_eq_none carriedOut
          rw [Assignment.request] at failed
          simp [Engine.write, failed, Reports.ended]
      | some after =>
          obtain ⟨⟨written, answer⟩, holdsAfter, listensAfter, told⟩ :=
            listens.write_of_carryOut? holds carriedOut
          obtain ⟨said, problem⟩ := ih holdsAfter listensAfter
          rw [Assignment.request] at answer told said problem
          simp only [answer, told, said, problem]
          by_cases reads : watched.references assignment.contextId = true
          · simp [reads]
          · simp [reads]

/-- A text that can be read is bound to its value, and is listened to from then on. -/
theorem bindOn_of_holds (unheard : machine.subscriptions = .empty) {text : String}
    {template : Bool} (readable : template = true ∨ ∃ expr, Expr.read text = .ok expr) :
    let watched := Watched.ofText template text
    let step := bindOn machine root text template
    (∃ subscription, step.answer = .ok ⟨subscription, valueOver watched contexts⟩) ∧
      Holds step.engine root settings contexts ∧ Listens step.engine root watched := by
  intro watched step
  have same : step = machine.bindAs template root text () := rfl
  by_cases valid : watched.hasValid = true
  · obtain ⟨journal, bound⟩ := Engine.bindAs_of_hasValid () holds.present valid
    rw [same, bound, holds.evaluateOn]
    refine ⟨⟨_, rfl⟩, { holds with }, .inl ⟨machine.subscriptions.nextId, ?_⟩⟩
    rw [unheard]
    rfl
  · have constant : watched.hasValid = false := Bool.eq_false_iff.mpr valid
    have isTemplate : template = true := by
      cases template with
      | true => rfl
      | false =>
          obtain ⟨expr, read⟩ := readable.resolve_left Bool.false_ne_true
          exact absurd (Watched.hasValid_of_read read) valid
    subst isTemplate
    obtain ⟨journal, bound⟩ := Engine.bindAs_of_not_hasValid () holds.present constant
    rw [same, bound, if_pos rfl, holds.registry]
    refine ⟨⟨none, ?_⟩, holds, .inr ⟨?_, watched.references_of_not_hasValid constant⟩⟩
    · rw [Template.evaluate_of_not_hasValid constant .empty .empty
        (.ofContexts (contextList contexts))]
      rfl
    · rw [unheard]
      rfl

end Watch

/-! ### The outcomes of both commands -/

section Outcome

variable {files : Files} {words : List String} {preferences : Preferences}
  {text path source : String} {template : Bool} {texts : List String} {settings : Settings}
  {contexts : Fields Value} {assignments : List Assignment}

theorem loadContexts_of_read? (opened : files path = .ok source)
    (document : (Json.read? source).map Value.ofJson = some (.object contexts)) :
    loadContexts files (some path) = .ok (contextList contexts) := by
  obtain ⟨fields, found, rfl⟩ := Value.exists_fields_of_read? document
  rw [loadContexts, opened]
  simp only [found, contextList, contextsOf, List.map_map]
  rfl

theorem checkText_of_readable (readable : template = true ∨ ∃ expr, Expr.read text = .ok expr) :
    checkText text template = .ok () := by
  obtain rfl | ⟨expr, read⟩ := readable
  · rfl
  · simp [checkText, read]

theorem readAssignments_of_areRead (areRead : Assignment.AreRead texts assignments) :
    readAssignments texts = .ok assignments := by
  induction areRead with
  | nil => rfl
  | cons first _ ih => rw [readAssignments, first, ih]; rfl

theorem run_of_invocation {invocation : Invocation} {reports : Reports}
    (asked : Invocation.read words = .ok invocation)
    (configured : loadSettings files invocation.preferences.config = .ok settings)
    (performed : perform files settings invocation.task = .ok reports) :
    run files words = .ofReports invocation.preferences reports := by
  have invoked : invoke files invocation = reports := by
    rw [invoke, configured]
    simp only [bind, Except.bind, performed]
  rw [run, asked, ← invoked]

variable (settings) (readable : template = true ∨ ∃ expr, Expr.read text = .ok expr)
  (opened : files path = .ok source)
  (document : (Json.read? source).map Value.ofJson = some (.object contexts))

include readable opened document

theorem perform_eval :
    perform files settings (.eval text template (some path)) =
      .ok (.all [.value (valueOver (.ofText template text) contexts)]) := by
  have ascending := Value.ascending_of_read? document
  obtain ⟨machine, root, made, -, holds⟩ := engineOver_of_ascending settings ascending
  have value : valueOn machine root text template =
      valueOver (.ofText template text) contexts := by
    rw [← holds.evaluateOn]
    cases template <;> rfl
  rw [perform, checkText_of_readable readable, loadContexts_of_read? opened document, ← value]
  change (engineOver settings _ >>= fun made => _) = _
  rw [made]
  rfl

theorem perform_watch (areRead : Assignment.AreRead texts assignments) :
    let watched := Watched.ofText template text
    let done := stages settings.defaultPolicy assignments contexts
    ∃ problem : Option Problem,
      problem.isSome = decide (done.length < assignments.length) ∧
      perform files settings (.watch text template path texts) =
        .ok ⟨.initial (valueOver watched contexts) ::
          (done.filter (watched.references ·.assignment.contextId)).map fun stage =>
            .notified stage.assignment.label (valueOver watched stage.contexts), problem⟩ := by
  have ascending := Value.ascending_of_read? document
  obtain ⟨machine, root, made, unheard, holds⟩ := engineOver_of_ascending settings ascending
  obtain ⟨⟨subscription, answer⟩, holdsBound, listens⟩ :=
    bindOn_of_holds holds unheard readable
  obtain ⟨said, ended⟩ := listens.follow holdsBound assignments
  refine ⟨_, ended, ?_⟩
  rw [perform, checkText_of_readable readable, readAssignments_of_areRead areRead,
    loadContexts_of_read? opened document]
  change watch settings _ text template assignments = _
  rw [watch, made]
  simp only [bind, Except.bind, answer, said]

end Outcome

/-- A watch in text prints first what an evaluation of the same text over the same file prints.
Then it prints a line behind each assignment that is done and writes a context that the text reads,
with the value over the contexts after it.  It stops at the first assignment that cannot be done,
and only then its code is 1. -/
theorem run_watch {files : Files} {words : List String} {preferences : Preferences}
    {text path source : String} {template : Bool} {texts : List String} {settings : Settings}
    {contexts : Fields Value} {assignments : List Assignment}
    (asked : Invocation.read words = .ok ⟨preferences, .watch text template path texts⟩)
    (inText : preferences.format = .text)
    (configured : loadSettings files preferences.config = .ok settings)
    (readable : template = true ∨ ∃ expr, Expr.read text = .ok expr)
    (opened : files path = .ok source)
    (document : (Json.read? source).map Value.ofJson = some (.object contexts))
    (areRead : Assignment.AreRead texts assignments) :
    let watched := Watched.ofText template text
    let initial := (valueOver watched contexts).toText
    let done := stages settings.defaultPolicy assignments contexts
    (run files words).output = initial ::
        (done.filter (watched.references ·.assignment.contextId)).map (Stage.line watched) ∧
      (run files words).code = (if done.length < assignments.length then 1 else 0) ∧
      ∀ (evalWords : List String) (evalPreferences : Preferences) (evalSettings : Settings),
        Invocation.read evalWords = .ok ⟨evalPreferences, .eval text template (some path)⟩ →
        evalPreferences.format = .text →
        loadSettings files evalPreferences.config = .ok evalSettings →
          (run files evalWords).output = [initial] := by
  intro watched initial done
  obtain ⟨problem, ended, performed⟩ := perform_watch settings readable opened document areRead
  have outcome := run_of_invocation asked configured performed
  refine ⟨?_, ?_, ?_⟩
  · rw [outcome, Outcome.ofReports, inText]
    simp only [List.map_cons, List.map_map]
    rfl
  · rw [outcome, Outcome.ofReports]
    simp only [ended, decide_eq_true_eq]
    rfl
  · intro evalWords evalPreferences evalSettings evalAsked evalInText evalConfigured
    have evaluated := perform_eval evalSettings readable opened document
    rw [run_of_invocation evalAsked evalConfigured evaluated, Outcome.ofReports, evalInText]
    rfl

/-- An assignment to what is read, one to what is not read, one that the policy refuses, and one
that is not done any more. -/
theorem run_watch_refused :
    let files : Files := fun path =>
      if path = "a.json" then .ok "\x7b\"user\":\x7b\"age\":36\x7d,\"note\":1,\"limit\":18\x7d"
      else if path = "b.toml" then .ok "[engine]\ndefault_policy = \"existing\"\n"
      else .error .missing
    let watchWords := ["watch", "gt(user.age, limit)", "--context", "a.json", "--config", "b.toml",
      "--set", "user:age=10", "--set", "note:=2", "--set", "user:name.first=Ada",
      "--set", "limit:=1"]
    let evalWords := ["eval", "gt(user.age, limit)", "--context=a.json"]
    (run files watchWords).output = ["true", "user:age -> false"] ∧
      (run files watchWords).code = 1 ∧ (run files evalWords).output = ["true"] := by
  intro files watchWords evalWords
  let age : Assignment := ⟨"user", "age", .int 10⟩
  let note : Assignment := ⟨"note", "", .int 2⟩
  let name : Assignment := ⟨"user", "name.first", .string "Ada"⟩
  let limit : Assignment := ⟨"limit", "", .int 1⟩
  have settingsRead : Settings.read? "[engine]\ndefault_policy = \"existing\"\n" =
      some { defaultPolicy := .existing } := by decide +kernel
  have configured : loadSettings files (some "b.toml") = .ok { defaultPolicy := .existing } := by
    simp [loadSettings, files, settingsRead]
  have isExpr : ∃ expr, Expr.read "gt(user.age, limit)" = .ok expr :=
    ⟨Expr.ofText "gt(user.age, limit)", by decide +kernel⟩
  have document : (Json.read?
      "\x7b\"user\":\x7b\"age\":36\x7d,\"note\":1,\"limit\":18\x7d").map Value.ofJson =
        some (.object [("limit", .int 18), ("note", .int 1),
          ("user", .object [("age", .int 36)])]) := by decide +kernel
  have areRead : Assignment.AreRead ["user:age=10", "note:=2", "user:name.first=Ada", "limit:=1"]
      [age, note, name, limit] :=
    .cons (by decide +kernel) (.cons (by decide +kernel)
      (.cons (by decide +kernel) (.cons (by decide +kernel) .nil)))
  have asked : Invocation.read watchWords = .ok ⟨⟨.text, false, some "b.toml"⟩,
      .watch "gt(user.age, limit)" false "a.json"
        ["user:age=10", "note:=2", "user:name.first=Ada", "limit:=1"]⟩ := by decide +kernel
  obtain ⟨output, code, evaluates⟩ :=
    run_watch asked rfl configured (.inr isExpr) rfl document areRead
  exact ⟨output.trans (by decide +kernel), code.trans (by decide +kernel),
    (evaluates evalWords ⟨.text, false, none⟩ {} (by decide +kernel) rfl rfl).trans
      (by decide +kernel)⟩

end Command

end LiveBinding
