import GraphQLCheck.Proofs.Validation.FieldContext
import GraphQLCheck.Proofs.Validation.FieldSites
import Mathlib.Data.List.Infix

/-!
# A tracker after any history of calls

A walk leaves what it has entered, but the calls on a tracker can come in any order: a field outside
of every operation, a spread of fragments from elsewhere, a leave where there is nothing to leave.
Here a history is any list of calls. A leave undoes an enter before it when the calls between the
two are balanced (`TrackerCall.Undone`).

The shape of the stack depends on the order of enters and leaves alone. After a history it has the
contexts that were pushed by the enters that nothing undoes, the last of them innermost, and below
them what was there at first, less one context for each leave that undoes no enter of the history
(`Tracker.contexts_after`). So the depth counts the enters that are still open, and balanced calls
leave every tracker as it was (`Tracker.after_of_balanced`).

What the contexts are depends on the schema. In a built schema all that is known on the stack are
types of the schema (`Tracker.Of`). One call keeps this, whatever the call is (`Of.call`), and so
does a history (`Of.after`). With that a field never leads to an input object, and an operation only
to an object (`Tracker.stack_of_history`).
-/

namespace GraphQLCheck

/-- A call on a tracker: into something, or out of what is innermost. -/
inductive TrackerCall where
  /-- Into an operation. -/
  | operation (op : Operation)
  /-- Into a fragment definition. -/
  | fragment (f : Fragment)
  /-- Below a field. -/
  | field (head : FieldHead)
  /-- Into an inline fragment. -/
  | inline (head : InlineHead)
  /-- Into the spread of one of the given fragments, if it is among them. -/
  | spread (fragments : Fragments) (spread : Spread)
  /-- Out of the innermost context. -/
  | leave

/-! ### Enters and leaves -/

namespace TrackerCall

/-- Whether the call goes into something. -/
def isEnter : TrackerCall → Bool
  | operation _ | fragment _ | field _ | inline _ | spread _ _ => true
  | leave => false

/-- How many of the calls enter. -/
def enters (calls : List TrackerCall) : Nat := calls.countP isEnter

/-- How many of the calls leave. -/
def leaves (calls : List TrackerCall) : Nat := calls.countP fun c ↦ !c.isEnter

/-- The calls leave as often as they enter, and those at the beginning never leave more often. -/
def Balanced (calls : List TrackerCall) : Prop :=
  leaves calls = enters calls ∧ ∀ before ∈ calls.inits, leaves before ≤ enters before

instance (calls : List TrackerCall) : Decidable (Balanced calls) :=
  inferInstanceAs (Decidable (_ ∧ _))

/-- An enter is undone by the calls that follow it: one of them leaves, and those between the two
are balanced. -/
def Undone (calls : List TrackerCall) : Prop :=
  ∃ between rest, calls = between ++ leave :: rest ∧ Balanced between

/-- The number of leaves that undo none of the calls, and so reach what was there before. -/
def surplus : List TrackerCall → Nat
  | [] => 0
  | c :: calls => if c.isEnter then surplus calls - 1 else surplus calls + 1

variable {c : TrackerCall} {calls : List TrackerCall} {k : Nat}

/-- There is one call that does not enter. -/
theorem isEnter_or_eq_leave (c : TrackerCall) : c.isEnter = true ∨ c = leave := by
  cases c with
  | leave => exact Or.inr rfl
  | _ => exact Or.inl rfl

@[simp] theorem enters_nil : enters [] = 0 := rfl

@[simp] theorem leaves_nil : leaves [] = 0 := rfl

@[simp] theorem surplus_nil : surplus [] = 0 := rfl

/-- An enter counts as one. -/
theorem enters_cons_of_isEnter (h : c.isEnter = true) (calls : List TrackerCall) :
    enters (c :: calls) = enters calls + 1 :=
  List.countP_cons_of_pos h

/-- An enter is no leave. -/
theorem leaves_cons_of_isEnter (h : c.isEnter = true) (calls : List TrackerCall) :
    leaves (c :: calls) = leaves calls :=
  List.countP_cons_of_neg (by simp [h])

/-- An enter takes up one of the leaves that follow it, if there is one. -/
theorem surplus_cons_of_isEnter (h : c.isEnter = true) (calls : List TrackerCall) :
    surplus (c :: calls) = surplus calls - 1 :=
  if_pos h

@[simp] theorem enters_cons_leave (calls : List TrackerCall) :
    enters (leave :: calls) = enters calls :=
  List.countP_cons_of_neg nofun

@[simp] theorem leaves_cons_leave (calls : List TrackerCall) :
    leaves (leave :: calls) = leaves calls + 1 :=
  List.countP_cons_of_pos rfl

@[simp] theorem surplus_cons_leave (calls : List TrackerCall) :
    surplus (leave :: calls) = surplus calls + 1 :=
  rfl

/-! ### Which enters are undone -/

/-- The calls leave `k` times more than they enter, and those at the beginning never more than that.
-/
def Descends (k : Nat) (calls : List TrackerCall) : Prop :=
  leaves calls = enters calls + k ∧ ∀ before ∈ calls.inits, leaves before ≤ enters before + k

theorem descends_nil_iff : Descends k [] ↔ k = 0 := by
  simp [Descends, eq_comm]

/-- After an enter there is one more level to descend. -/
theorem descends_cons_of_isEnter (h : c.isEnter = true) :
    Descends k (c :: calls) ↔ Descends (k + 1) calls := by
  rw [Descends, Descends, List.inits_cons, List.forall_mem_cons, List.forall_mem_map]
  simp only [enters_cons_of_isEnter h, leaves_cons_of_isEnter h, Nat.add_assoc, Nat.add_comm 1 k,
    leaves_nil, Nat.zero_le, true_and]

/-- After a leave there is one level less to descend. -/
theorem descends_cons_leave : Descends (k + 1) (leave :: calls) ↔ Descends k calls := by
  rw [Descends, Descends, List.inits_cons, List.forall_mem_cons, List.forall_mem_map]
  simp only [enters_cons_leave, leaves_cons_leave, ← Nat.add_assoc, Nat.add_right_cancel_iff,
    Nat.add_le_add_iff_right, leaves_nil, Nat.zero_le, true_and]

theorem not_descends_zero_cons_leave : ¬ Descends 0 (leave :: calls) := by
  rintro ⟨-, hle⟩
  have hfirst : [leave] ∈ (leave :: calls).inits := (List.mem_inits _ _).2 ⟨calls, rfl⟩
  exact absurd (hle [leave] hfirst) (by decide)

/-- A leave is the first of some calls, or it comes after the first of them. -/
theorem exists_leave_cons_iff {P : List TrackerCall → Prop} :
    (∃ between rest, c :: calls = between ++ leave :: rest ∧ P between) ↔
      c = leave ∧ P [] ∨ ∃ between rest, calls = between ++ leave :: rest ∧ P (c :: between) := by
  constructor
  · rintro ⟨between, rest, hcalls, hP⟩
    rcases List.cons_eq_append_iff.1 hcalls with ⟨rfl, hleave⟩ | ⟨l, rfl, hl⟩
    · exact Or.inl ⟨(List.cons.inj hleave).1.symm, hP⟩
    · exact Or.inr ⟨l, rest, hl, hP⟩
  · rintro (⟨rfl, hP⟩ | ⟨between, rest, rfl, hP⟩)
    · exact ⟨[], calls, rfl, hP⟩
    · exact ⟨c :: between, rest, rfl, hP⟩

/-- The surplus is above `k` exactly when one of the calls leaves and those before it descend by
`k`. -/
theorem lt_surplus_iff : k < surplus calls ↔
    ∃ between rest, calls = between ++ leave :: rest ∧ Descends k between := by
  -- by recursion on the calls: an enter adds a level to descend, a leave takes one away
  induction calls generalizing k with
  | nil => simp
  | cons c calls ih =>
    rw [exists_leave_cons_iff]
    rcases c.isEnter_or_eq_leave with hc | rfl
    · have hne : c ≠ leave := by
        rintro rfl
        exact nomatch hc
      simp only [surplus_cons_of_isEnter hc, Nat.lt_sub_iff_add_lt, ih, hne, false_and, false_or,
        descends_cons_of_isEnter hc]
    · rcases k with - | k
      · exact iff_of_true (Nat.succ_pos _) (Or.inl ⟨rfl, descends_nil_iff.2 rfl⟩)
      · simp only [surplus_cons_leave, Nat.add_lt_add_iff_right, ih, descends_cons_leave,
          descends_nil_iff, Nat.succ_ne_zero, and_false, false_or]

/-- An enter is undone if the calls that follow it have a leave to spare. -/
theorem undone_iff : Undone calls ↔ 0 < surplus calls := (lt_surplus_iff (k := 0)).symm

instance (calls : List TrackerCall) : Decidable (Undone calls) :=
  decidable_of_iff (0 < surplus calls) undone_iff.symm

end TrackerCall

/-! ### Histories -/

namespace Tracker

/-- What a call makes of a tracker. -/
def call (s : Schema) (t : Tracker) : TrackerCall → Tracker
  | .operation op => t.enterOperation s op.kind
  | .fragment f => t.enterFragment s f.condition
  | .field head => t.enterField s head.name
  | .inline head => t.enterInline s head.condition?
  | .spread fragments spread => t.enterSpread s fragments spread.name
  | .leave => t.leave

/-- The tracker after some calls. -/
def after (s : Schema) (t : Tracker) (calls : List TrackerCall) : Tracker := calls.foldl (call s) t

end Tracker

/-- A call in its place in a history. -/
structure TrackerStep where
  /-- The call. -/
  call : TrackerCall
  /-- The tracker that it is made on. -/
  tracker : Tracker
  /-- The calls that follow it. -/
  rest : List TrackerCall

namespace TrackerStep

/-- The context that is innermost after the step; an enter has pushed it. -/
def context (s : Schema) (step : TrackerStep) : Context := (step.tracker.call s step.call).current

/-- The step enters, and no call that follows undoes it. -/
def Open (step : TrackerStep) : Prop :=
  step.call.isEnter = true ∧ ¬ TrackerCall.Undone step.rest

instance : DecidablePred Open := fun step ↦
  inferInstanceAs (Decidable (step.call.isEnter = true ∧ ¬ TrackerCall.Undone step.rest))

end TrackerStep

namespace Tracker

variable {s : Schema} {t : Tracker} {calls : List TrackerCall}

/-- The steps of a history, in order. -/
def steps (s : Schema) (t : Tracker) : List TrackerCall → List TrackerStep
  | [] => []
  | c :: calls => ⟨c, t, calls⟩ :: (t.call s c).steps s calls

/-- The contexts that the enters of a history have pushed and that nothing undoes, in order. -/
def openContexts (s : Schema) (t : Tracker) (calls : List TrackerCall) : List Context :=
  ((t.steps s calls).filter TrackerStep.Open).map (TrackerStep.context s)

/-- An enter pushes one context and changes nothing below it. -/
theorem call_of_isEnter {c : TrackerCall} (h : c.isEnter = true) (s : Schema) (t : Tracker) :
    t.call s c = t.push (t.call s c).current := by
  cases c with
  | leave => exact nomatch h
  | _ => rfl

/-- An enter that nothing undoes adds the context that it has pushed. -/
theorem openContexts_cons_of_open {c : TrackerCall} (h : c.isEnter = true)
    (hopen : ¬ TrackerCall.Undone calls) (s : Schema) (t : Tracker) :
    t.openContexts s (c :: calls) =
      (t.call s c).current :: (t.call s c).openContexts s calls := by
  have hstep : TrackerStep.Open ⟨c, t, calls⟩ := ⟨h, hopen⟩
  rw [openContexts, steps, List.filter_cons_of_pos (by simpa using hstep)]
  rfl

/-- An enter that is undone leaves no context. -/
theorem openContexts_cons_of_undone (hundone : TrackerCall.Undone calls) (s : Schema) (t : Tracker)
    (c : TrackerCall) :
    t.openContexts s (c :: calls) = (t.call s c).openContexts s calls := by
  rw [openContexts, steps, List.filter_cons_of_neg (by simp [TrackerStep.Open, hundone])]
  rfl

/-- A leave adds no context. -/
theorem openContexts_cons_leave (s : Schema) (t : Tracker) (calls : List TrackerCall) :
    t.openContexts s (.leave :: calls) = t.leave.openContexts s calls := by
  rw [openContexts, steps,
    List.filter_cons_of_neg (by simp [TrackerStep.Open, TrackerCall.isEnter])]
  rfl

/-- **The stack after a history.** The contexts that are still open lie above those that were there
before, of which each leave that undoes no enter has taken one. -/
theorem contexts_after (s : Schema) (t : Tracker) (calls : List TrackerCall) :
    (t.after s calls).contexts =
      (t.openContexts s calls).reverse ++ t.contexts.drop (TrackerCall.surplus calls) := by
  induction calls generalizing t with
  | nil => rfl
  | cons c calls ih =>
    show ((t.call s c).after s calls).contexts = _
    rw [ih]
    rcases c.isEnter_or_eq_leave with hc | rfl
    · have hpushed : (t.call s c).contexts = (t.call s c).current :: t.contexts :=
        congrArg contexts (call_of_isEnter hc s t)
      rw [hpushed, TrackerCall.surplus_cons_of_isEnter hc]
      by_cases hundone : TrackerCall.Undone calls
      · -- the first leave that reaches below the calls takes the new context away again
        obtain ⟨k, hk⟩ := Nat.exists_eq_succ_of_ne_zero (TrackerCall.undone_iff.1 hundone).ne'
        rw [openContexts_cons_of_undone hundone, hk]
        rfl
      · have hzero : TrackerCall.surplus calls = 0 :=
          Nat.eq_zero_of_not_pos (mt TrackerCall.undone_iff.2 hundone)
        rw [openContexts_cons_of_open hc hundone, hzero, List.reverse_cons, List.append_assoc]
        rfl
    · rw [openContexts_cons_leave, TrackerCall.surplus_cons_leave, ← List.drop_tail]
      rfl

/-- Calls that descend by `k` take that many contexts away and add none. -/
theorem contexts_after_of_descends {k : Nat} (h : TrackerCall.Descends k calls) (s : Schema)
    (t : Tracker) : (t.after s calls).contexts = t.contexts.drop k := by
  induction calls generalizing t k with
  | nil =>
    rw [TrackerCall.descends_nil_iff.1 h]
    rfl
  | cons c calls ih =>
    show ((t.call s c).after s calls).contexts = _
    rcases c.isEnter_or_eq_leave with hc | rfl
    · rw [ih ((TrackerCall.descends_cons_of_isEnter hc).1 h), call_of_isEnter hc]
      rfl
    · rcases k with - | k
      · exact absurd h TrackerCall.not_descends_zero_cons_leave
      · rw [ih (TrackerCall.descends_cons_leave.1 h), ← List.drop_tail]
        rfl

/-- Balanced calls leave every tracker as it was. -/
theorem after_of_balanced (h : TrackerCall.Balanced calls) (s : Schema) (t : Tracker) :
    t.after s calls = t :=
  congrArg Tracker.mk (contexts_after_of_descends (k := 0) h s t)

end Tracker

/-! ### What the contexts are -/

/-- An operation leads to an object, if to anything. -/
theorem Schema.Built.kind_of_operationContext {s : Schema} (h : s.Built) {kind : OperationKind}
    {u : NamedType} (hu : s.operationContext kind = some u) : u.kind = .object := by
  rw [operationContext_of_built h] at hu
  obtain ⟨ref, -, hobject⟩ := Option.bind_eq_some_iff.1 hu
  exact beq_iff_eq.1 (Option.filter_eq_some_iff.1 hobject).2

namespace Tracker

variable {s : Schema} {t : Tracker}

/-- All that is known on the stack are types of the schema. -/
def Of (s : Schema) (t : Tracker) : Prop := ∀ context ∈ t.contexts, context.Of s

namespace Of

/-- The empty tracker has no context at all. -/
theorem empty (s : Schema) : Tracker.empty.Of s := nofun

/-- A context of the schema may be pushed. -/
theorem push (h : t.Of s) {context : Context} (hcontext : context.Of s) : (t.push context).Of s :=
  List.forall_mem_cons.2 ⟨hcontext, h⟩

/-- Leaving brings in no context. -/
theorem leave (h : t.Of s) : t.leave.Of s := fun context hcontext ↦
  h context (List.mem_of_mem_tail hcontext)

/-- The innermost context is one of those on the stack, or unknown. -/
theorem current (h : t.Of s) : t.current.Of s := by
  intro u hu
  have hhead : t.contexts.head? = some (some u) := Option.join_eq_some_iff.1 hu
  exact h (some u) (List.mem_of_mem_head? hhead) u rfl

/-- One call keeps it: what is entered is looked up in the schema, or it is what is current. -/
theorem call (ht : t.Of s) (h : s.Built) (c : TrackerCall) : (t.call s c).Of s := by
  cases c with
  | operation op => exact ht.push (Schema.Built.contextOf_operationContext s op.kind)
  | fragment f => exact ht.push (Schema.Built.contextOf_type? s f.condition)
  | field head => exact ht.push (h.contextOf_fieldContext ht.current head.name)
  | inline head => exact ht.push (Schema.Built.contextOf_inlineContext ht.current head.condition?)
  | spread fragments spread =>
    exact ht.push (Schema.Built.contextOf_spreadContext s fragments spread.name)
  | leave => exact ht.leave

/-- After any history the contexts are those of the schema. -/
theorem after (ht : t.Of s) (h : s.Built) (calls : List TrackerCall) : (t.after s calls).Of s := by
  induction calls generalizing t with
  | nil => exact ht
  | cons c calls ih => exact ih (ht.call h c)

/-- Every call of a history is made on a tracker that knows only types of the schema. -/
theorem of_mem_steps (ht : t.Of s) (h : s.Built) {calls : List TrackerCall} :
    ∀ step ∈ t.steps s calls, step.tracker.Of s := by
  induction calls generalizing t with
  | nil => exact nofun
  | cons c calls ih =>
    rw [steps, List.forall_mem_cons]
    exact ⟨ht, ih (ht.call h c)⟩

end Of

/-- **The stack over every history of calls.** From an empty tracker, and with leaves where there is
nothing to leave: the depth is the number of enters that are still open, and the contexts are those
that these have pushed, the last of them innermost. What is known on the stack is the type that its
own name leads to. No field has pushed an input object, and no operation anything known but an
object, whether or not that has been undone. Calls that are balanced leave every tracker as it was.
-/
theorem stack_of_history (h : s.Built) (calls : List TrackerCall) :
    let steps := Tracker.empty.steps s calls
    let t := Tracker.empty.after s calls
    t.depth = steps.countP TrackerStep.Open ∧
    t.contexts = ((steps.filter TrackerStep.Open).map (TrackerStep.context s)).reverse ∧
    (∀ u, some u ∈ t.contexts → s.type? u.name = some u) ∧
    (∀ step ∈ steps,
      (∀ head, step.call = .field head → ∀ u ∈ step.context s, u.kind ≠ .inputObject) ∧
      ∀ op, step.call = .operation op → ∀ u ∈ step.context s, u.kind = .object) ∧
    (TrackerCall.Balanced calls → ∀ outside : Tracker, outside.after s calls = outside) := by
  intro steps t
  have hcontexts : t.contexts = (Tracker.empty.openContexts s calls).reverse := by
    rw [contexts_after]
    simp [Tracker.empty]
  have hof : t.Of s := (Of.empty s).after h calls
  refine ⟨?_, hcontexts, fun u hu ↦ h.byName.names.get?_of_mem (hof _ hu u rfl), ?_,
    fun hbalanced outside ↦ after_of_balanced hbalanced s outside⟩
  · rw [depth, hcontexts, List.length_reverse, openContexts, List.length_map,
      List.countP_eq_length_filter]
  · rintro step hstep
    have htracker : step.tracker.Of s := (Of.empty s).of_mem_steps h step hstep
    refine ⟨fun head hcall u hu ↦ ?_, fun op hcall u hu ↦ ?_⟩
    · rw [TrackerStep.context, hcall] at hu
      exact h.kind_of_fieldContext htracker.current hu
    · rw [TrackerStep.context, hcall] at hu
      exact h.kind_of_operationContext hu

end Tracker

/-- A field with nothing but a name. -/
def bareField (name : String) : FieldHead := ⟨⟨1, 1⟩, none, name, [], []⟩

/-- A leave and a field outside of everything, then an operation, a field, an inline fragment, a
field that is left again, and the spread of a fragment that is not there. -/
def petCalls : List TrackerCall :=
  [.leave, .field (bareField "pets"), .operation ⟨none, default, []⟩, .field (bareField "pets"),
    .inline ⟨⟨1, 1⟩, none, []⟩, .field (bareField "name"), .leave,
    .spread .empty ⟨⟨1, 1⟩, "Card", []⟩]

/-- Into an operation and a field and out of both again. -/
def petDetour : List TrackerCall :=
  [.operation ⟨none, default, []⟩, .field (bareField "pets"), .leave, .leave]

theorem stack_petCalls : ∃ s : Schema, s.Built ∧
    (let t := Tracker.empty.after s petCalls
    t.depth = 5 ∧
    t.contexts.map (Option.map NamedType.name) =
      [none, some "Pet", some "Pet", some "Query", none] ∧
    ∀ u, some u ∈ t.contexts → s.type? u.name = some u) ∧
    (∃ step ∈ Tracker.empty.steps s petCalls, step.call = .field (bareField "name") ∧
      ¬ step.Open ∧ ∃ u ∈ step.context s, u.name = "String" ∧ u.kind ≠ .inputObject) ∧
    TrackerCall.Balanced petDetour ∧ ∀ outside : Tracker, outside.after s petDetour = outside := by
  have h : ∃ s : Schema, ∃ d : Draft, Draft.empty.load none petDeclarations = .ok d ∧
      d.build = .ok s ∧
      (Tracker.empty.after s petCalls).contexts.map (Option.map NamedType.name) =
        [none, some "Pet", some "Pet", some "Query", none] ∧
      ∃ step, (Tracker.empty.steps s petCalls)[5]? = some step ∧
        step.call = .field (bareField "name") ∧ ¬ step.Open ∧
        (step.context s).map NamedType.name = some "String" :=
    ⟨_, _, rfl, rfl, by decide +kernel, _, rfl, rfl, by decide +kernel, by decide +kernel⟩
  obtain ⟨s, d, hd, hs, hnames, step, hstep, hcall, hundone, hname⟩ := h
  have hbuilt : s.Built := ⟨d, .load none petDeclarations .empty hd, hs⟩
  have hbalanced : TrackerCall.Balanced petDetour := by decide
  obtain ⟨hdepth, -, hknown, hpushed, -⟩ := Tracker.stack_of_history hbuilt petCalls
  obtain ⟨-, -, -, -, hdetour⟩ := Tracker.stack_of_history hbuilt petDetour
  have hmem := List.mem_of_getElem? hstep
  obtain ⟨u, hu, hstring⟩ := Option.map_eq_some_iff.1 hname
  exact ⟨s, hbuilt, ⟨hdepth, hnames, hknown⟩,
    ⟨step, hmem, hcall, hundone, u, hu, hstring, (hpushed step hmem).1 _ hcall u hu⟩, hbalanced,
    hdetour hbalanced⟩

end GraphQLCheck
