import GraphQLCheck.Fragments
import GraphQLCheck.Proofs.Dict

/-!
# A register of fragments after any history of calls

Fragments come to a register one by one or with the document they stand in. Either way a call
presents some fragments in order (`FragmentCall.presented`), and a history of calls adds all that
they present, one after the other (`Fragments.after_eq_addAll`). How they were split over calls is
forgotten.

A register holds a list of fragments when it has the names in the order of their first occurrence,
and under each name the first fragment of that name (`Fragments.Holds`). One addition keeps this
(`Holds.add`), and it answers whether the name is new (`add_snd_iff`); so after every history the
register holds what has been presented (`holds_after`). All the rest follows from that one fact:
presenting something again changes nothing, and what is registered stays (`register_of_history`).
-/

namespace GraphQLCheck

/-- The fragment that a definition defines, if it is not an operation. -/
def Definition.fragment? : Definition → Option Fragment
  | .fragment f => some f
  | .operation _ => none

/-- The fragments that a document defines, in the order of the text. -/
def Document.fragments (d : Document) : List Fragment :=
  d.definitions.filterMap Definition.fragment?

/-- A call that adds something to a register. -/
inductive FragmentCall where
  /-- One fragment is added. -/
  | fragment (f : Fragment)
  /-- All fragments of a document are added. -/
  | document (d : Document)

/-- The fragments that a call presents to a register, in order. -/
def FragmentCall.presented : FragmentCall → List Fragment
  | fragment f => [f]
  | document d => d.fragments

namespace Fragments

/-- What a call makes of a register, and what it answers; the addition of a document has no answer.
-/
def call (r : Fragments) : FragmentCall → Fragments × Option Bool
  | .fragment f => ((r.add f).1, some (r.add f).2)
  | .document d => (r.addDocument d, none)

/-- The register after some calls. -/
def after (r : Fragments) (calls : List FragmentCall) : Fragments :=
  calls.foldl (fun r c ↦ (r.call c).1) r

/-- The answers to some calls. -/
def answers (r : Fragments) : List FragmentCall → List (Option Bool)
  | [] => []
  | c :: calls => (r.call c).2 :: (r.call c).1.answers calls

/-- The register with some fragments added in order. -/
def addAll (r : Fragments) (fs : List Fragment) : Fragments := fs.foldl (fun r f ↦ (r.add f).1) r

/-! ### One addition -/

variable {r : Fragments} {f : Fragment}

theorem add_of_mem_names (h : f.name ∈ r.names) : r.add f = (r, false) :=
  if_pos (Dict.contains_iff.2 h)

theorem add_of_not_mem_names (h : f.name ∉ r.names) :
    r.add f = (⟨r.byName.insert f.name f⟩, true) :=
  if_neg (mt Dict.contains_iff.1 h)

theorem add_snd_iff : (r.add f).2 = true ↔ f.name ∉ r.names := by
  by_cases h : f.name ∈ r.names
  · simp [add_of_mem_names h, h]
  · simp [add_of_not_mem_names h, h]

/-- A new name comes last. -/
theorem names_add (r : Fragments) (f : Fragment) :
    (r.add f).1.names = if f.name ∈ r.names then r.names else r.names ++ [f.name] := by
  by_cases h : f.name ∈ r.names
  · rw [add_of_mem_names h, if_pos h]
  · rw [add_of_not_mem_names h]
    exact Dict.keys_insert ..

/-- The new fragment is found under its name if nothing was. -/
theorem get?_add (r : Fragments) (f : Fragment) (name : String) :
    (r.add f).1.get? name = (r.get? name).or ([f].find? fun g ↦ g.name == name) := by
  rw [List.find?_singleton]
  by_cases h : f.name ∈ r.names
  · rw [add_of_mem_names h]
    split
    · rename_i hname
      obtain ⟨g, hg⟩ := Dict.mem_keys_iff.1 h
      rw [get?, ← beq_iff_eq.1 hname, hg, Option.some_or]
    · rw [Option.or_none]
  · rw [add_of_not_mem_names h]
    show (r.byName.insert f.name f).get? name = (r.byName.get? name).or _
    rw [Dict.get?_insert]
    by_cases hname : f.name = name
    · rw [if_pos hname.symm, if_pos (beq_iff_eq.2 hname), ← hname, Dict.get?_eq_none_iff.2 h,
        Option.none_or]
    · rw [if_neg (Ne.symm hname), if_neg (mt beq_iff_eq.1 hname), Option.or_none]

/-! ### Calls come down to additions -/

theorem addAll_append (r : Fragments) (fs gs : List Fragment) :
    r.addAll (fs ++ gs) = (r.addAll fs).addAll gs :=
  List.foldl_append

theorem addDocument_eq_addAll (r : Fragments) (d : Document) :
    r.addDocument d = r.addAll d.fragments := by
  obtain ⟨definitions⟩ := d
  rw [addDocument, addAll, Document.fragments]
  induction definitions generalizing r with
  | nil => rfl
  | cons definition definitions ih =>
    cases definition with
    | operation op => exact ih r
    | fragment f => exact ih (r.add f).1

/-- Two documents in turn are one document with the definitions of both. -/
theorem addDocument_append (r : Fragments) (ds es : List Definition) :
    r.addDocument ⟨ds ++ es⟩ = (r.addDocument ⟨ds⟩).addDocument ⟨es⟩ :=
  List.foldl_append

theorem call_fst (r : Fragments) (c : FragmentCall) : (r.call c).1 = r.addAll c.presented := by
  cases c with
  | fragment f => rfl
  | document d => exact r.addDocument_eq_addAll d

/-- A history adds what its calls present, however they split it. -/
theorem after_eq_addAll (r : Fragments) (calls : List FragmentCall) :
    r.after calls = r.addAll (calls.flatMap FragmentCall.presented) := by
  induction calls generalizing r with
  | nil => rfl
  | cons c calls ih =>
    rw [List.flatMap_cons, addAll_append, ← call_fst]
    exact ih (r.call c).1

/-- A call in the middle of a history answers for the register that the calls before it leave. -/
theorem getElem?_answers (r : Fragments) (before : List FragmentCall) (c : FragmentCall)
    (rest : List FragmentCall) :
    (r.answers (before ++ c :: rest))[before.length]? = some ((r.after before).call c).2 := by
  induction before generalizing r with
  | nil => rfl
  | cons b before ih => exact ih (r.call b).1

/-! ### What a register holds -/

/-- A register holds the first of the presented fragments of each name, in the order in which the
names occur first. -/
structure Holds (r : Fragments) (presented : List Fragment) : Prop where
  /-- The names are those presented, each where it occurs first. -/
  names_eq : r.names = (presented.map Fragment.name).eraseDups
  /-- Under a name stands the first fragment of that name. -/
  get?_eq : ∀ name, r.get? name = presented.find? fun g ↦ g.name == name

namespace Holds

variable {presented more : List Fragment}

theorem empty : Fragments.empty.Holds [] := ⟨rfl, fun _ ↦ rfl⟩

theorem mem_names_iff (h : r.Holds presented) {name : String} :
    name ∈ r.names ↔ name ∈ presented.map Fragment.name := by
  rw [h.names_eq, List.mem_eraseDups]

/-- After one more fragment, the register holds one more. -/
theorem add (h : r.Holds presented) (f : Fragment) : (r.add f).1.Holds (presented ++ [f]) := by
  refine ⟨?_, fun name ↦ ?_⟩
  · rw [names_add, List.map_append, List.map_singleton, Dict.eraseDups_concat, ← h.names_eq]
    simp only [h.mem_names_iff]
  · rw [get?_add, h.get?_eq, List.find?_append]

/-- Fragments whose names are there already leave the register as it is. -/
theorem addAll_eq_self (h : r.Holds presented)
    (hmore : ∀ g ∈ more, g.name ∈ presented.map Fragment.name) : r.addAll more = r := by
  induction more with
  | nil => rfl
  | cons g more ih =>
    rw [List.forall_mem_cons] at hmore
    show (r.add g).1.addAll more = r
    rw [add_of_mem_names (h.mem_names_iff.2 hmore.1)]
    exact ih hmore.2

/-- A register is empty only if nothing has been presented to it. -/
theorem isEmpty_iff (h : r.Holds presented) : r.isEmpty = true ↔ presented = [] := by
  have hnames : r.isEmpty = true ↔ r.names = [] := by
    rw [isEmpty, List.isEmpty_iff, names, Dict.keys, List.map_eq_nil_iff]
  rw [hnames, List.eq_nil_iff_forall_not_mem]
  simp only [h.mem_names_iff, ← List.eq_nil_iff_forall_not_mem, List.map_eq_nil_iff]

end Holds

/-- A register that began empty holds all that has been added to it. -/
theorem holds_addAll (fs : List Fragment) : (Fragments.empty.addAll fs).Holds fs := by
  induction fs using List.reverseRecOn with
  | nil => exact .empty
  | append_singleton fs f ih =>
    rw [addAll_append]
    exact ih.add f

theorem holds_after (calls : List FragmentCall) :
    (Fragments.empty.after calls).Holds (calls.flatMap FragmentCall.presented) := by
  rw [after_eq_addAll]
  exact holds_addAll _

/-- **The first definition of a name stays, over every history.** After any calls on an empty
register, it holds the first of the presented fragments of each name, as many as there are names,
and it is empty only if none was presented. A fragment that was added by itself was accepted exactly
when none of its name had been presented before. Calls that present nothing new change nothing, two
documents in turn are one with the definitions of both, and whatever calls follow, the names stay in
their places and what is found under a name stays the same. -/
theorem register_of_history (calls : List FragmentCall) :
    let presented := calls.flatMap FragmentCall.presented
    let r := Fragments.empty.after calls
    r.Holds presented ∧
    r.size = (presented.map Fragment.name).eraseDups.length ∧
    (r.isEmpty = true ↔ presented = []) ∧
    (∀ before f rest, calls = before ++ .fragment f :: rest →
      ∃ accepted, (Fragments.empty.answers calls)[before.length]? = some (some accepted) ∧
        (accepted = true ↔ ∀ g ∈ before.flatMap FragmentCall.presented, g.name ≠ f.name)) ∧
    (∀ c : FragmentCall, (∀ g ∈ c.presented, g ∈ presented) → (r.call c).1 = r) ∧
    (∀ ds es, (r.addDocument ⟨ds⟩).addDocument ⟨es⟩ = r.addDocument ⟨ds ++ es⟩) ∧
    ∀ more, r.names <+: (r.after more).names ∧
      ∀ name f, r.get? name = some f → (r.after more).get? name = some f := by
  intro presented r
  have hr : r.Holds presented := holds_after calls
  refine ⟨hr, ?_, hr.isEmpty_iff, ?_, fun c hc ↦ ?_, fun ds es ↦ (addDocument_append r ds es).symm,
    fun more ↦ ?_⟩
  · rw [← hr.names_eq]
    exact (List.length_map _).symm
  · rintro before f rest rfl
    refine ⟨_, getElem?_answers _ before (.fragment f) rest, ?_⟩
    rw [add_snd_iff, (holds_after before).mem_names_iff, List.mem_map]
    simp only [not_exists, not_and, ne_eq]
  · rw [call_fst]
    exact hr.addAll_eq_self fun g hg ↦ List.mem_map_of_mem (hc g hg)
  · have hmore : (r.after more).Holds (presented ++ more.flatMap FragmentCall.presented) := by
      have hall := holds_after (calls ++ more)
      rwa [List.flatMap_append, after, List.foldl_append] at hall
    refine ⟨?_, fun name f hf ↦ ?_⟩
    · rw [hr.names_eq, hmore.names_eq, List.map_append, List.eraseDups_append]
      exact List.prefix_append _ _
    · rw [hmore.get?_eq, List.find?_append, ← hr.get?_eq, hf, Option.some_or]

/-- A fragment without selections. -/
def bareFragment (line : Nat) (name condition : String) : Fragment :=
  ⟨⟨line, 1⟩, name, condition, [], default, []⟩

/-- A document with an operation between fragments, two of which have one name. -/
def cardDocument : Document :=
  ⟨[.fragment (bareFragment 1 "Card" "User"), .operation ⟨none, default, []⟩,
    .fragment (bareFragment 2 "Card" "Node"), .fragment (bareFragment 3 "Row" "Node")]⟩

/-- The document, a fragment of a name that is in it, and one of another name. -/
def cardCalls : List FragmentCall :=
  [.document cardDocument, .fragment (bareFragment 4 "Row" "User"),
    .fragment (bareFragment 5 "Foot" "User")]

theorem register_cardCalls :
    let r := Fragments.empty.after cardCalls
    r.names = ["Card", "Row", "Foot"] ∧
    (r.get? "Card").map Fragment.position = some ⟨1, 1⟩ ∧
    (Fragments.empty.answers cardCalls)[1]? = some (some false) ∧
    (Fragments.empty.answers cardCalls)[2]? = some (some true) ∧
    (r.call (.document cardDocument)).1 = r ∧
    r.names <+: (r.after [.fragment (bareFragment 6 "Head" "Node")]).names := by
  obtain ⟨hholds, -, -, hanswers, hagain, -, hmore⟩ := register_of_history cardCalls
  obtain ⟨row, hrow, hrowIff⟩ := hanswers [.document cardDocument] _ _ rfl
  obtain ⟨foot, hfoot, hfootIff⟩ :=
    hanswers [.document cardDocument, .fragment (bareFragment 4 "Row" "User")] _ _ rfl
  have hrowFalse : row = false := Bool.eq_false_iff.2 (mt hrowIff.1 (by decide))
  have hfootTrue : foot = true := hfootIff.2 (by decide)
  refine ⟨hholds.names_eq.trans (by decide), ?_, hrow.trans (by rw [hrowFalse]),
    hfoot.trans (by rw [hfootTrue]), hagain _ fun g hg ↦ ?_, (hmore _).1⟩
  · rw [hholds.get?_eq]
    rfl
  · exact List.mem_flatMap.2 ⟨.document cardDocument, List.mem_cons_self, hg⟩

end Fragments

end GraphQLCheck
