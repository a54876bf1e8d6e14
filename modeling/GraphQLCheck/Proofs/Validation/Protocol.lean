import GraphQLCheck.Proofs.Validation.Visits
import Mathlib.Data.List.FinRange
import Mathlib.Data.List.Perm.Basic

/-!
# The protocol between a walk and its rules

In which order a walk asks its rules, and what each can see when it is asked. A `Call` is one
question: the place of the rule in the list, the event, and the enclosing types, and so the current
type and how deep it lies. The calls of a walk are its visits in order, and at each visit all rules
in order (`Visit.calls`).

Rules are functions, so the calls cannot be watched; but what the rules answer can. Answering a list
of calls one after the other gives a list of diagnostics (`answers`), and **no other list of calls
explains what validation reports**: if answering some calls gives the result of validation whatever
the rules are, then they are the calls of the walk. What separates two lists of calls is a rule that
marks the one place where it looks for a call (`probe`).

The visits are properly nested (`Nested`): the children of a node are visited between its enter and
its leave. They enter the nodes of the document in the order of the text, each once, and at each of
them the current type and its depth are what a recursion without a stack gives (`Document.places`);
and they leave the same nodes with the same current type and depth.
-/

namespace GraphQLCheck

/-! ### Calls and answers -/

/-- A question to one of `n` rules. -/
structure Call (n : Nat) where
  /-- The place of the rule that is asked. -/
  index : Fin n
  /-- What happens. -/
  event : Event
  /-- The enclosing types. -/
  tracker : Tracker

/-- The calls at a visit: all rules are asked, in order. -/
def Visit.calls (n : Nat) (visit : Visit) : List (Call n) :=
  (List.finRange n).map fun i ↦ ⟨i, visit.event, visit.tracker⟩

section Answers

variable {n : Nat} (rules : Fin n → Rule) (s : Schema) (fragments : Fragments)

/-- What has been reported after a call. -/
def Call.answer (reported : Array Diagnostic) (call : Call n) : Array Diagnostic :=
  reported ++ (rules call.index).report call.event ⟨s, fragments, call.tracker, reported⟩

/-- What the rules report when they are asked the given questions in order. -/
def answers (calls : List (Call n)) : List Diagnostic :=
  (calls.foldl (Call.answer rules s fragments) #[]).toList

/-- What is reported after a visit is what the calls of the visit report, one after the other. -/
theorem Visit.hear_ofFn (reported : Array Diagnostic) (visit : Visit) :
    visit.hear (List.ofFn rules) s fragments reported =
      (visit.calls n).foldl (Call.answer rules s fragments) reported := by
  rw [Visit.hear, Visit.calls, List.ofFn_eq_map, List.foldl_map, List.foldl_map]
  rfl

/-- Validation answers the calls of its visits. -/
theorem validateWith_eq_answers (document : Document) :
    validateWith (List.ofFn rules) s fragments document =
      answers rules s fragments ((document.visits s fragments).flatMap (Visit.calls n)) := by
  rw [validateWith_eq_foldl, answers, List.foldl_flatMap]
  simp only [← Visit.hear_ofFn]

end Answers

/-! ### Telling lists of calls apart -/

section Probe

variable {n : Nat}

/-- The diagnostic of a probe that finds the call it looks for, or does not. -/
def probeMark (found : Bool) : Diagnostic := ⟨if found then "here" else "elsewhere", []⟩

theorem probeMark_injective : ∀ {b c : Bool}, probeMark b = probeMark c → b = c := by decide

open Classical in
/-- A rule that reports one diagnostic whenever it is asked, and so knows how many calls there have
been. It marks the call it looks for, if that comes after exactly `k` others. -/
noncomputable def probe (k : Nat) (wanted : Call n) (i : Fin n) : Rule where
  name := "Probe"
  report event scene :=
    [probeMark (decide (scene.reported.size = k ∧ wanted = ⟨i, event, scene.tracker⟩))]

open Classical in
/-- The probes report, call by call, whether it is the one they look for and in the right place. -/
theorem toList_foldl_probe (s : Schema) (fragments : Fragments) (k : Nat) (wanted : Call n)
    (calls : List (Call n)) (reported : Array Diagnostic) :
    (calls.foldl (Call.answer (probe k wanted) s fragments) reported).toList =
      reported.toList ++ calls.mapIdx fun j call ↦
        probeMark (decide (reported.size + j = k ∧ wanted = call)) := by
  induction calls generalizing reported with
  | nil => exact (List.append_nil _).symm
  | cons call calls ih =>
    rw [List.foldl_cons, ih, List.mapIdx_cons]
    simp [Call.answer, probe, Nat.add_comm, Nat.add_left_comm]

theorem getElem?_eq_of_answers_eq (s : Schema) (fragments : Fragments)
    {calls calls' : List (Call n)}
    (h : ∀ rules, answers rules s fragments calls = answers rules s fragments calls') {k : Nat}
    {call : Call n} (hcall : calls[k]? = some call) : calls'[k]? = some call := by
  have hk := congrArg (·[k]?) (h (probe k call))
  simp only [answers, toList_foldl_probe, List.nil_append, List.getElem?_mapIdx, hcall,
    Option.map_some] at hk
  obtain ⟨call', hcall', hmark⟩ := Option.map_eq_some_iff.1 hk.symm
  -- the probe marks `call` in the first list, so it marks what stands there in the second
  have hfound := probeMark_injective hmark
  rw [decide_eq_decide] at hfound
  have hsame : call = call' := (hfound.2 ⟨Nat.zero_add k, trivial⟩).2
  rw [hcall', hsame]

/-- Lists of calls that all rules answer alike are the same. -/
theorem eq_of_answers_eq (s : Schema) (fragments : Fragments) {calls calls' : List (Call n)}
    (h : ∀ rules, answers rules s fragments calls = answers rules s fragments calls') :
    calls = calls' := by
  refine List.ext_getElem? fun k ↦ ?_
  rcases hcall : calls[k]? with - | call
  · rcases hcall' : calls'[k]? with - | call'
    · rfl
    · rw [← hcall, getElem?_eq_of_answers_eq s fragments (fun rules ↦ (h rules).symm) hcall']
  · exact (getElem?_eq_of_answers_eq s fragments h hcall).symm

end Probe

/-! ### The nodes of a document in their places -/

/-- A node with the type that is current when it is visited, and the depth of that type. -/
structure Place where
  /-- The node. -/
  node : Node
  /-- The current type. -/
  context : Context
  /-- The number of types around. -/
  depth : Nat

section Places

variable (s : Schema) (fragments : Fragments)

mutual

/-- A selection and all nodes below it, in the order of the text. A field has its place among the
selections it stands in, every other node where its own selections are. -/
def Selection.places (context : Context) (depth : Nat) : Selection → List Place
  | .field head span selections =>
    let below := s.fieldContext context head.name
    ⟨.field head span selections, context, depth⟩ ::
      if selections.isEmpty then []
      else ⟨.selections span selections, below, depth + 1⟩ ::
        placesOfAll below (depth + 1) selections
  | .inline head span selections =>
    let below := s.inlineContext context head.condition?
    ⟨.inline head span selections, below, depth + 1⟩ ::
      ⟨.selections span selections, below, depth + 1⟩ :: placesOfAll below (depth + 1) selections
  | .spread spread => [⟨.spread spread, s.spreadContext fragments spread.name, depth + 1⟩]

/-- Some selections and all nodes below them, in the order of the text. -/
def placesOfAll (context : Context) (depth : Nat) : List Selection → List Place
  | [] => []
  | selection :: selections =>
    selection.places context depth ++ placesOfAll context depth selections

end

/-- A definition and all nodes below it, in the order of the text. -/
def Definition.places : Definition → List Place
  | .operation op =>
    let below := s.operationContext op.kind
    ⟨.operation op, below, 1⟩ :: ⟨.selections op.span op.selections, below, 1⟩ ::
      placesOfAll s fragments below 1 op.selections
  | .fragment f =>
    let below := s.conditionContext f.condition
    ⟨.fragment f, below, 1⟩ :: ⟨.selections f.span f.selections, below, 1⟩ ::
      placesOfAll s fragments below 1 f.selections

/-- A document and all nodes below it, in the order of the text. -/
def Document.places (document : Document) : List Place :=
  ⟨.document document, none, 0⟩ :: document.definitions.flatMap (Definition.places s fragments)

end Places

/-- The place of what is visited. -/
def Visit.place (visit : Visit) : Place :=
  ⟨visit.event.node, visit.tracker.current, visit.tracker.depth⟩

/-- The places that some visits enter or leave, in order. -/
def placesAt (phase : Phase) (visits : List Visit) : List Place :=
  (visits.filter fun visit ↦ visit.event.phase = phase).map Visit.place

/-- The places of some visits and of others come one after the other. -/
theorem placesAt_append (phase : Phase) (visits visits' : List Visit) :
    placesAt phase (visits ++ visits') = placesAt phase visits ++ placesAt phase visits' := by
  rw [placesAt, List.filter_append, List.map_append]
  rfl

/-- A node is entered before what is visited between. -/
theorem placesAt_enter_visitAround (node : Node) (tracker : Tracker) (between : List Visit) :
    placesAt .enter (visitAround node tracker between) =
      ⟨node, tracker.current, tracker.depth⟩ :: placesAt .enter between := by
  show ⟨node, tracker.current, tracker.depth⟩ :: placesAt .enter (between ++ [_]) = _
  rw [placesAt_append]
  exact congrArg (_ :: ·) (List.append_nil _)

/-- A node is left after what is visited between. -/
theorem placesAt_leave_visitAround (node : Node) (tracker : Tracker) (between : List Visit) :
    placesAt .leave (visitAround node tracker between) =
      placesAt .leave between ++ [⟨node, tracker.current, tracker.depth⟩] := by
  show placesAt .leave (between ++ [_]) = _
  rw [placesAt_append]
  rfl

section Entered

variable (s : Schema) (fragments : Fragments)

mutual

/-- The nodes of a selection are entered in the order of the text. -/
theorem placesAt_enter_visits : ∀ (outside : Tracker) (selection : Selection),
    placesAt .enter (selection.visits s fragments outside) =
      selection.places s fragments outside.current outside.depth
  | outside, .field head span selections => by
    rw [Selection.visits, Selection.places, placesAt_enter_visitAround]
    congr 1
    split
    · rfl
    · rw [placesAt_enter_visitAround, placesAt_enter_visitsOfAll]
      rfl
  | outside, .inline head span selections => by
    rw [Selection.visits, Selection.places, placesAt_enter_visitAround, placesAt_enter_visitAround,
      placesAt_enter_visitsOfAll]
    rfl
  | outside, .spread spread => by
    rw [Selection.visits, Selection.places, placesAt_enter_visitAround]
    rfl

/-- So are the nodes of several selections. -/
theorem placesAt_enter_visitsOfAll : ∀ (outside : Tracker) (selections : List Selection),
    placesAt .enter (visitsOfAll s fragments outside selections) =
      placesOfAll s fragments outside.current outside.depth selections
  | outside, [] => by
    rw [visitsOfAll, placesOfAll]
    rfl
  | outside, selection :: selections => by
    rw [visitsOfAll, placesOfAll, placesAt_append, placesAt_enter_visits outside selection,
      placesAt_enter_visitsOfAll outside selections]

end

/-- The nodes of a definition are entered in the order of the text. -/
theorem placesAt_enter_definition (definition : Definition) :
    placesAt .enter (definition.visits s fragments .empty) = definition.places s fragments := by
  cases definition with
  | operation op =>
    rw [Definition.visits, Definition.places, placesAt_enter_visitAround, visitsOfSet,
      placesAt_enter_visitAround, placesAt_enter_visitsOfAll]
    rfl
  | fragment f =>
    rw [Definition.visits, Definition.places, placesAt_enter_visitAround, visitsOfSet,
      placesAt_enter_visitAround, placesAt_enter_visitsOfAll]
    rfl

/-- The visits enter every node of the document once, in the order of the text and in its place. -/
theorem placesAt_enter_document (document : Document) :
    placesAt .enter (document.visits s fragments) = document.places s fragments := by
  rw [Document.visits, Document.places, placesAt_enter_visitAround]
  congr 1
  induction document.definitions with
  | nil => rfl
  | cons definition definitions ih =>
    rw [List.flatMap_cons, List.flatMap_cons, placesAt_append, placesAt_enter_definition, ih]

end Entered

/-! ### Nesting -/

/-- The node that a selection is. -/
def Selection.node : Selection → Node
  | .field head span selections => .field head span selections
  | .inline head span selections => .inline head span selections
  | .spread ref => .spread ref

/-- The node that a definition is. -/
def Definition.node : Definition → Node
  | .operation op => .operation op
  | .fragment f => .fragment f

/-- The nodes right below a node, in the order of the text. -/
def Node.children : Node → List Node
  | .document d => d.definitions.map Definition.node
  | .operation op => [.selections op.span op.selections]
  | .fragment f => [.selections f.span f.selections]
  | .selections _ below => below.map Selection.node
  | .field _ span below => if below.isEmpty then [] else [.selections span below]
  | .inline _ span below => [.selections span below]
  | .spread _ => []

/-- Visits of some nodes, one after the other. Every node is entered and left again with the same
enclosing types, and in between its children are visited. -/
inductive Nested : List Node → List Visit → Prop
  /-- No node is visited. -/
  | nil : Nested [] []
  /-- A node is visited with its children in between, and other nodes come after it. -/
  | around (node : Node) (tracker : Tracker) {nodes : List Node} {between after : List Visit} :
    Nested node.children between → Nested nodes after →
      Nested (node :: nodes) (visitAround node tracker between ++ after)

namespace Nested

variable {nodes nodes' : List Node} {visits visits' : List Visit}

/-- Visits that are nested for some nodes and for others are nested for all of them. -/
theorem append (h : Nested nodes visits) (h' : Nested nodes' visits') :
    Nested (nodes ++ nodes') (visits ++ visits') := by
  induction h with
  | nil => exact h'
  | around node tracker hbetween _ _ ih =>
    rw [List.append_assoc]
    exact .around node tracker hbetween ih

/-- Around the nested visits of its children, the enter and the leave of a node are nested. -/
theorem visitAround (node : Node) (tracker : Tracker) (h : Nested node.children visits) :
    Nested [node] (visitAround node tracker visits) := by
  rw [← List.append_nil (GraphQLCheck.visitAround node tracker visits)]
  exact .around node tracker h .nil

/-- Nested visits leave the nodes that they enter, in the same places. -/
theorem perm (h : Nested nodes visits) :
    (placesAt .leave visits).Perm (placesAt .enter visits) := by
  induction h with
  | nil => exact List.Perm.refl _
  | around node tracker _ _ ihbetween ihafter =>
    rw [placesAt_append, placesAt_append, placesAt_leave_visitAround, placesAt_enter_visitAround]
    exact ((List.perm_append_singleton _ _).trans (ihbetween.cons _)).append ihafter

end Nested

section Nesting

variable (s : Schema) (fragments : Fragments)

mutual

/-- The visits of a selection are nested. -/
theorem nested_visits : ∀ (outside : Tracker) (selection : Selection),
    Nested [selection.node] (selection.visits s fragments outside)
  | outside, .field head span selections => by
    rw [Selection.visits]
    refine Nested.visitAround (.field head span selections) outside ?_
    rw [Node.children]
    -- without selections there is no node below, and none is visited
    split
    · exact .nil
    · exact .visitAround (.selections span selections) _ (nested_visitsOfAll _ selections)
  | outside, .inline head span selections => by
    rw [Selection.visits]
    exact .visitAround (.inline head span selections) _
      (.visitAround (.selections span selections) _ (nested_visitsOfAll _ selections))
  | outside, .spread spread => by
    rw [Selection.visits]
    exact .visitAround (.spread spread) _ .nil

/-- The visits of several selections are nested. -/
theorem nested_visitsOfAll : ∀ (outside : Tracker) (selections : List Selection),
    Nested (selections.map Selection.node) (visitsOfAll s fragments outside selections)
  | outside, [] => by
    rw [visitsOfAll]
    exact .nil
  | outside, selection :: selections => by
    rw [visitsOfAll]
    exact (nested_visits outside selection).append (nested_visitsOfAll outside selections)

end

/-- The visits of a definition are nested. -/
theorem nested_definition (outside : Tracker) (definition : Definition) :
    Nested [definition.node] (definition.visits s fragments outside) := by
  cases definition with
  | operation op =>
    exact .visitAround (.operation op) _
      (.visitAround (.selections op.span op.selections) _ (nested_visitsOfAll s fragments _ _))
  | fragment f =>
    exact .visitAround (.fragment f) _
      (.visitAround (.selections f.span f.selections) _ (nested_visitsOfAll s fragments _ _))

/-- The visits of a document are nested. -/
theorem nested_document (document : Document) :
    Nested [.document document] (document.visits s fragments) := by
  refine Nested.visitAround (.document document) .empty ?_
  show Nested (document.definitions.map Definition.node) _
  induction document.definitions with
  | nil => exact .nil
  | cons definition definitions ih =>
    rw [List.flatMap_cons]
    exact (nested_definition s fragments .empty definition).append ih

end Nesting

/-- **The calls of a walk.** Whatever the schema, the fragments and the document are, the calls that
explain what validation reports with every choice of `n` rules are those of the visits, and no
others. The visits are properly nested: between the enter and the leave of a node stand the visits
of its children in order, and nothing else. They enter every node once, in the order of the text and
with its own current type and depth, and leave every node once with the same ones. -/
theorem calls_of_validateWith (s : Schema) (fragments : Fragments) (document : Document) :
    (∀ (n : Nat) (calls : List (Call n)),
      (∀ rules : Fin n → Rule, validateWith (List.ofFn rules) s fragments document =
        answers rules s fragments calls) ↔
          calls = (document.visits s fragments).flatMap (Visit.calls n)) ∧
    Nested [.document document] (document.visits s fragments) ∧
    placesAt .enter (document.visits s fragments) = document.places s fragments ∧
    (placesAt .leave (document.visits s fragments)).Perm (document.places s fragments) := by
  have hnested := nested_document s fragments document
  have hentered := placesAt_enter_document s fragments document
  refine ⟨fun n calls ↦ ⟨fun h ↦ ?_, ?_⟩, hnested, hentered, hentered ▸ hnested.perm⟩
  · refine eq_of_answers_eq s fragments fun rules ↦ ?_
    rw [← h rules, validateWith_eq_answers]
  · rintro rfl rules
    exact validateWith_eq_answers rules s fragments document

end GraphQLCheck
