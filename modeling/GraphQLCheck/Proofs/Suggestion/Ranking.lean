import GraphQLCheck.Proofs.Suggestion.EditDistance
import GraphQLCheck.Suggestion
import Mathlib.Algebra.Order.Floor.Div
import Mathlib.Data.List.Nodup
import Mathlib.Data.List.Perm.Subperm
import Mathlib.Data.List.Permutation
import Mathlib.Data.Prod.Lex

/-!
# Which names are suggested

The candidates are a list in which a name may come more than once, so what is picked are not names
but **occurrences**, that is positions in the list. Occurrences are ranked by their distance from
the written name and then by their position (`Suggestion.rank`), and no two of them have the same
rank. The suggestions are the first ones in that order: near occurrences only, each of them once, in
the order of their ranks, and none of those that are left out is ranked before one that is picked,
or left out while there is room (`Suggestion.Picks`). This leaves exactly one choice
(`Picks.unique`).

The names are sorted by distance alone; the positions come in because sorting is stable
(`pairwise_ranking`). That the distance is the least number of edits is `isLeast_editDistance`.
-/

namespace GraphQLCheck

namespace Suggestion

/-- The distance of a candidate is the least number of edits to it. -/
theorem isLeast_distance (target candidate : String) :
    IsLeast {n | Edits n target.toList candidate.toList} (distance target candidate) :=
  isLeast_editDistance target.toList candidate.toList

/-- Only the written name itself is at no distance from it. -/
theorem distance_eq_zero_iff {target candidate : String} :
    distance target candidate = 0 ↔ target = candidate := by
  have hleast := isLeast_distance target candidate
  rw [← String.toList_inj, ← Edits.zero_iff]
  constructor
  · intro h
    exact h ▸ hleast.1
  · intro h
    exact Nat.le_zero.1 (hleast.2 h)

/-- The threshold is half the length rounded up, and at least one. -/
theorem threshold_eq (target : String) : threshold target = max 1 (target.length ⌈/⌉ 2) := by
  rw [threshold, String.length_toList, Nat.ceilDiv_eq_add_pred_div]
  rfl

section Occurrences

variable (target : String) (candidates : List String)

/-- The distance of an occurrence. -/
def distanceAt (i : Fin candidates.length) : ℕ := distance target (candidates.get i)

/-- The rank of an occurrence: its distance, and among equal distances its position. -/
def rank (i : Fin candidates.length) : ℕ ×ₗ Fin candidates.length :=
  toLex (distanceAt target candidates i, i)

/-- An occurrence is near if it is at most half the length of the written name away, rounded up, or
one edit. -/
def IsNear (i : Fin candidates.length) : Prop :=
  distanceAt target candidates i ≤ max 1 (target.length ⌈/⌉ 2)

/-- The occurrences that are picked are the first of those that are near, by their ranks. -/
structure Picks (count : ℕ) (picked : List (Fin candidates.length)) : Prop where
  /-- All that are picked are near. -/
  near : ∀ i ∈ picked, IsNear target candidates i
  /-- They come in the order of their ranks: the nearer ones first, equally near ones in the order
  given, and none twice. -/
  ordered : picked.Pairwise fun i j ↦ rank target candidates i < rank target candidates j
  /-- There are no more of them than asked for. -/
  length_le : picked.length ≤ count
  /-- One that is near and left out is ranked after all that are picked, and these are as many as
  asked for. -/
  rest : ∀ i, IsNear target candidates i → i ∉ picked →
    picked.length = count ∧ ∀ j ∈ picked, rank target candidates j < rank target candidates i

/-- The near occurrences, in the order given. -/
def occurrences : List (Fin candidates.length) :=
  (List.finRange candidates.length).filter fun i ↦
    distanceAt target candidates i ≤ threshold target

/-- Whether an occurrence is at least as near as another one. -/
def nearer (i j : Fin candidates.length) : Bool :=
  distanceAt target candidates i ≤ distanceAt target candidates j

/-- The near occurrences, nearest first. -/
def ranking : List (Fin candidates.length) :=
  (occurrences target candidates).mergeSort (nearer target candidates)

end Occurrences

variable {target : String} {candidates : List String} {count : ℕ}

/-! ### The ranking -/

theorem rank_lt_rank_iff {i j : Fin candidates.length} :
    rank target candidates i < rank target candidates j ↔
      distanceAt target candidates i < distanceAt target candidates j ∨
        distanceAt target candidates i = distanceAt target candidates j ∧ i < j :=
  Prod.Lex.toLex_lt_toLex

theorem distanceAt_le_of_rank_lt {i j : Fin candidates.length}
    (h : rank target candidates i < rank target candidates j) :
    distanceAt target candidates i ≤ distanceAt target candidates j := by
  rcases rank_lt_rank_iff.1 h with hlt | ⟨heq, -⟩
  · exact hlt.le
  · exact heq.le

theorem nearer_iff {i j : Fin candidates.length} : nearer target candidates i j = true ↔
    distanceAt target candidates i ≤ distanceAt target candidates j :=
  decide_eq_true_iff

theorem nearer_trans (i j k : Fin candidates.length) (hij : nearer target candidates i j = true)
    (hjk : nearer target candidates j k = true) : nearer target candidates i k = true := by
  rw [nearer_iff] at hij hjk ⊢
  omega

theorem nearer_total (i j : Fin candidates.length) :
    (nearer target candidates i j || nearer target candidates j i) = true := by
  rw [Bool.or_eq_true, nearer_iff, nearer_iff]
  omega

theorem mem_ranking_iff {i : Fin candidates.length} :
    i ∈ ranking target candidates ↔ IsNear target candidates i := by
  rw [ranking, List.mem_mergeSort, occurrences, List.mem_filter, IsNear, ← threshold_eq,
    decide_eq_true_iff]
  exact and_iff_right (List.mem_finRange i)

/-- Sorting leaves occurrences at one distance in the order given. -/
theorem filter_ranking (n : ℕ) :
    (ranking target candidates).filter (fun i ↦ distanceAt target candidates i = n) =
      (occurrences target candidates).filter fun i ↦ distanceAt target candidates i = n := by
  set p : Fin candidates.length → Bool := fun i ↦ distanceAt target candidates i = n with hp
  have hequal : ((occurrences target candidates).filter p).Pairwise fun i j ↦
      nearer target candidates i j = true := by
    refine List.pairwise_of_forall_mem_list fun i hi j hj ↦ ?_
    have hi : distanceAt target candidates i = n := by simpa [hp] using (List.mem_filter.1 hi).2
    have hj : distanceAt target candidates j = n := by simpa [hp] using (List.mem_filter.1 hj).2
    rw [nearer_iff, hi, hj]
  -- they are a sublist of what sorting gives, and there are no others at that distance
  have hsub : ((occurrences target candidates).filter p).Sublist
      ((ranking target candidates).filter p) := by
    have hsorted : ((occurrences target candidates).filter p).Sublist (ranking target candidates) :=
      List.sublist_mergeSort nearer_trans nearer_total hequal List.filter_sublist
    simpa using hsorted.filter p
  have hperm : ((ranking target candidates).filter p).Perm
      ((occurrences target candidates).filter p) := (List.mergeSort_perm _ _).filter p
  exact (hsub.eq_of_length hperm.length_eq.symm).symm

/-- **Stability.** Sorting by distance puts the occurrences in the order of their ranks. -/
theorem pairwise_ranking : (ranking target candidates).Pairwise fun i j ↦
    rank target candidates i < rank target candidates j := by
  have hsorted : (ranking target candidates).Pairwise fun i j ↦
      nearer target candidates i j = true :=
    List.pairwise_mergeSort nearer_trans nearer_total _
  have hgiven : (occurrences target candidates).Pairwise (· < ·) :=
    (List.pairwise_lt_finRange _).filter _
  rw [List.pairwise_iff_forall_sublist] at hsorted hgiven ⊢
  intro i j hij
  rw [rank_lt_rank_iff]
  rcases (nearer_iff.1 (hsorted hij)).lt_or_eq with hlt | heq
  · exact Or.inl hlt
  · -- both are among the occurrences at their distance, which stand in the order given
    have hties := hij.filter fun k ↦ distanceAt target candidates k =
      distanceAt target candidates j
    rw [filter_ranking, List.filter_eq_self.2 (by simp [heq])] at hties
    exact Or.inr ⟨heq, hgiven (hties.trans List.filter_sublist)⟩

/-- The near candidates are the names of the near occurrences, each with its distance. -/
theorem near_eq_map (target : String) (candidates : List String) : near target candidates =
    (occurrences target candidates).map fun i ↦
      (distanceAt target candidates i, candidates.get i) := by
  have hall : candidates = (List.finRange candidates.length).map candidates.get :=
    (List.map_get_finRange candidates).symm
  rw [near]
  conv_lhs => rw [hall]
  rw [List.map_map, List.filter_map]
  rfl

/-- The suggestions are the names of the first occurrences of the ranking. -/
theorem suggest_eq_map_take (target : String) (candidates : List String) (count : ℕ) :
    suggest target candidates count =
      ((ranking target candidates).take count).map candidates.get := by
  rw [suggest, near_eq_map, ← List.map_mergeSort (r := nearer target candidates), ← List.map_take,
    List.map_map]
  · rfl
  · exact fun _ _ _ _ ↦ rfl

/-- Only candidates are suggested. -/
theorem mem_of_mem_suggest {name : String} (h : name ∈ suggest target candidates count) :
    name ∈ candidates := by
  rw [suggest_eq_map_take] at h
  obtain ⟨i, -, rfl⟩ := List.mem_map.1 h
  exact candidates.get_mem i

/-! ### The first of the ranking -/

theorem picks_take (target : String) (candidates : List String) (count : ℕ) :
    Picks target candidates count ((ranking target candidates).take count) where
  near i hi := mem_ranking_iff.1 (List.mem_of_mem_take hi)
  ordered := pairwise_ranking.sublist (List.take_sublist _ _)
  length_le := List.length_take_le _ _
  rest i hnear hi := by
    have hsplit := List.take_append_drop count (ranking target candidates)
    have hdrop : i ∈ (ranking target candidates).drop count := by
      have hmem := mem_ranking_iff.2 hnear
      rw [← hsplit, List.mem_append] at hmem
      exact hmem.resolve_left hi
    have hlength : count < (ranking target candidates).length := by
      have hpos := List.length_pos_of_mem hdrop
      rw [List.length_drop] at hpos
      omega
    refine ⟨by rw [List.length_take]; omega, fun j hj ↦ ?_⟩
    have hordered : (ranking target candidates).Pairwise fun i j ↦
        rank target candidates i < rank target candidates j := pairwise_ranking
    rw [← hsplit, List.pairwise_append] at hordered
    exact hordered.2.2 j hj i hdrop

namespace Picks

variable {picked picked' : List (Fin candidates.length)}

theorem nodup (h : Picks target candidates count picked) : picked.Nodup := by
  refine h.ordered.imp fun {i j} hlt heq ↦ ?_
  rw [heq] at hlt
  exact lt_irrefl _ hlt

/-- What is picked in one way is picked in every way. -/
theorem subset (h : Picks target candidates count picked)
    (h' : Picks target candidates count picked') : picked ⊆ picked' := by
  intro i hi
  by_contra hi'
  obtain ⟨hfull, hafter⟩ := h'.rest i (h.near i hi) hi'
  -- there is no room for `i` beside all of the others
  have hother : ∃ j ∈ picked', j ∉ picked := by
    by_contra hnone
    push Not at hnone
    have hnodup : (i :: picked').Nodup := List.nodup_cons.2 ⟨hi', h'.nodup⟩
    have hsub : i :: picked' ⊆ picked := List.cons_subset.2 ⟨hi, hnone⟩
    have hle := (List.subperm_of_subset hnodup hsub).length_le
    have hroom := h.length_le
    rw [List.length_cons] at hle
    omega
  obtain ⟨j, hj', hj⟩ := hother
  have hij := (h.rest j (h'.near j hj') hj).2 i hi
  exact lt_asymm hij (hafter j hj')

/-- There is only one way to pick. -/
theorem unique (h : Picks target candidates count picked)
    (h' : Picks target candidates count picked') : picked = picked' := by
  have hperm : picked.Perm picked' :=
    (List.perm_ext_iff_of_nodup h.nodup h'.nodup).2 fun i ↦ ⟨fun hi ↦ h.subset h' hi,
      fun hi ↦ h'.subset h hi⟩
  exact hperm.eq_of_pairwise (fun i j _ _ hij hji ↦ absurd hij (lt_asymm hji)) h.ordered h'.ordered

/-- An occurrence of the written name itself comes first, if anything is picked at all. -/
theorem head?_eq_target (h : Picks target candidates count picked) (hmem : target ∈ candidates)
    (hcount : 0 < count) : (picked.map candidates.get).head? = some target := by
  obtain ⟨i, hi⟩ := List.get_of_mem hmem
  have hzero : distanceAt target candidates i = 0 := distance_eq_zero_iff.2 hi.symm
  have hnear : IsNear target candidates i := by
    rw [IsNear, hzero]
    exact Nat.zero_le _
  rcases picked with - | ⟨j, picked⟩
  · obtain ⟨hfull, -⟩ := h.rest i hnear List.not_mem_nil
    rw [List.length_nil] at hfull
    omega
  · -- nothing is ranked before the first, so that one is at no distance either
    have hle : distanceAt target candidates j ≤ distanceAt target candidates i := by
      by_cases hi : i ∈ j :: picked
      · rcases List.mem_cons.1 hi with rfl | hi
        · exact le_rfl
        · exact distanceAt_le_of_rank_lt ((List.pairwise_cons.1 h.ordered).1 i hi)
      · exact distanceAt_le_of_rank_lt ((h.rest i hnear hi).2 j List.mem_cons_self)
    have hj : target = candidates.get j := distance_eq_zero_iff.1 (Nat.le_zero.1 (hzero ▸ hle))
    rw [List.map_cons, List.head?_cons, ← hj]

end Picks

end Suggestion

open Suggestion

/-- **Suggestions.** Distances are least numbers of edits. There is exactly one way to pick the
first `count` of the near occurrences by their distances and positions, and the suggestions are what
is picked. Asking for more of them adds to the end, and the written name itself comes first if it is
a candidate. -/
theorem suggest_eq_map_picks (target : String) (candidates : List String) (count : ℕ) :
    (∀ candidate, IsLeast {n | Edits n target.toList candidate.toList}
      (distance target candidate)) ∧
    (∃! picked, Picks target candidates count picked) ∧
    (∀ picked, Picks target candidates count picked →
      suggest target candidates count = picked.map candidates.get) ∧
    (∀ count', count ≤ count' →
      suggest target candidates count <+: suggest target candidates count') ∧
    (target ∈ candidates → 0 < count →
      (suggest target candidates count).head? = some target) := by
  have hpicks := picks_take target candidates count
  refine ⟨isLeast_distance target, ⟨_, hpicks, fun picked h ↦ h.unique hpicks⟩, ?_, ?_, ?_⟩
  · intro picked h
    rw [suggest_eq_map_take, h.unique hpicks]
  · intro count' hle
    rw [suggest_eq_map_take, suggest_eq_map_take]
    exact (List.take_prefix_take_left hle).map _
  · intro hmem hcount
    rw [suggest_eq_map_take]
    exact hpicks.head?_eq_target hmem hcount

/-- The written name comes first; of two others at one distance the one that is given first follows,
and the second one only when three are asked for. -/
theorem suggest_nmae :
    let candidates := ["mane", "name", "id", "nmae", "names"]
    (∃ picked, Picks "nmae" candidates 2 picked ∧
      suggest "nmae" candidates 2 = picked.map candidates.get) ∧
    suggest "nmae" candidates 2 = ["nmae", "mane"] ∧
    suggest "nmae" candidates 3 = ["nmae", "mane", "name"] ∧
    suggest "nmae" candidates 2 <+: suggest "nmae" candidates 3 ∧
    (suggest "nmae" candidates 2).head? = some "nmae" := by
  intro candidates
  obtain ⟨-, ⟨picked, hpicked, -⟩, hnames, hprefix, hhead⟩ :=
    suggest_eq_map_picks "nmae" candidates 2
  exact ⟨⟨picked, hpicked, hnames picked hpicked⟩, by cbv, by cbv,
    hprefix 3 (by decide), hhead (by decide) (by decide)⟩

end GraphQLCheck
