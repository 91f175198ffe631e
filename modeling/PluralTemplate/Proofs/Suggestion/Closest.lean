import Mathlib.Data.List.Count
import Mathlib.Data.List.Perm.Subperm
import Mathlib.Data.List.Sort
import PluralTemplate.Proofs.Text.ByteOrder
import PluralTemplate.Proofs.Text.Distance
import PluralTemplate.Suggestion

/-!
# The closest names are suggested

The available names within reach are put in the order of distance and, at the same distance, of
their bytes, and the first three of them are suggested (`compute_eq`). That order is a total one,
so in whichever order the names are given, they are ranked in the same way. What is left out of
the names within reach is ranked behind what is suggested.
-/

set_option autoImplicit false

namespace PluralTemplate.Suggestion

/-! ## Ranks -/

theorem precedes_iff {a b : Nat × String} :
    precedes a b = true ↔ a.1 < b.1 ∨ a.1 = b.1 ∧ a.2 ≤ b.2 := by
  simp only [precedes, Bool.or_eq_true, Bool.and_eq_true, decide_eq_true_eq, beq_iff_eq]

theorem precedes_trans (a b c : Nat × String) (first : precedes a b = true)
    (second : precedes b c = true) : precedes a c = true := by
  rw [precedes_iff] at *
  rcases first with less | ⟨same, lower⟩ <;> rcases second with less' | ⟨same', lower'⟩
  · exact .inl (Nat.lt_trans less less')
  · exact .inl (same' ▸ less)
  · exact .inl (same ▸ less')
  · exact .inr ⟨same.trans same', String.le_trans lower lower'⟩

theorem precedes_total (a b : Nat × String) : (precedes a b || precedes b a) = true := by
  rw [Bool.or_eq_true, precedes_iff, precedes_iff]
  rcases Nat.lt_trichotomy a.1 b.1 with less | same | more
  · exact .inl (.inl less)
  · rcases String.le_total a.2 b.2 with lower | upper
    · exact .inl (.inr ⟨same, lower⟩)
    · exact .inr (.inr ⟨same.symm, upper⟩)
  · exact .inr (.inl more)

theorem precedes_antisymm {a b : Nat × String} (first : precedes a b = true)
    (second : precedes b a = true) : a = b := by
  rw [precedes_iff] at *
  rcases first with less | ⟨same, lower⟩ <;> rcases second with less' | ⟨same', lower'⟩
  · omega
  · omega
  · omega
  · exact Prod.ext same (String.le_antisymm lower lower')

/-- A name that is closer to a text than another one, or as close and before it in the order of
their bytes. -/
def Closer (text : List Char) (a b : String) : Prop :=
  Text.distance text a.toList < Text.distance text b.toList ∨
    Text.distance text a.toList = Text.distance text b.toList ∧ Text.utf8 a < Text.utf8 b

variable {text : List Char} {available others : List String} {a b : String}

/-- A name with its distance. -/
def scored (text : List Char) (candidate : String) : Nat × String :=
  (Text.distance text candidate.toList, candidate)

theorem precedes_scored_iff :
    precedes (scored text a) (scored text b) = true ↔ a = b ∨ Closer text a b := by
  rw [precedes_iff, Closer, ← Text.lt_iff_utf8_lt]
  constructor
  · rintro (less | ⟨same, lower⟩)
    · exact .inr (.inl less)
    · by_cases equal : a = b
      · exact .inl equal
      · exact .inr (.inr ⟨same, Std.lt_of_le_of_ne lower equal⟩)
  · rintro (rfl | less | ⟨same, lower⟩)
    · exact .inr ⟨rfl, String.le_refl a⟩
    · exact .inl less
    · exact .inr ⟨same, Std.le_of_lt lower⟩

theorem not_closer_of_precedes (first : precedes (scored text a) (scored text b) = true) :
    ¬ Closer text b a := by
  intro closer
  have second := precedes_scored_iff.2 (.inr closer)
  obtain rfl : a = b := congrArg Prod.snd (precedes_antisymm first second)
  rcases closer with less | ⟨-, lower⟩
  · exact Nat.lt_irrefl _ less
  · exact List.lt_irrefl _ lower

/-! ## The ranking -/

/-- The names within reach of a text. -/
def near (text : List Char) (available : List String) : List String :=
  available.filter fun candidate => Text.distance text candidate.toList ≤ reach

/-- The names within reach in the order of their ranks. -/
def ranking (text : List Char) (available : List String) : List String :=
  (((near text available).map (scored text)).mergeSort precedes).map Prod.snd

theorem compute_eq (name : String) (available : List String) :
    compute name available = (ranking (name.toList.map Char.toLower) available).take limit := by
  rw [compute, ranking, near, List.map_take, List.filter_map]
  rfl

theorem ranking_perm (text : List Char) (available : List String) :
    (ranking text available).Perm (near text available) := by
  have sorted := (List.mergeSort_perm ((near text available).map (scored text)) precedes).map
    Prod.snd
  have plain : (near text available).map (Prod.snd ∘ scored text) = near text available :=
    List.map_id _
  rwa [List.map_map, plain] at sorted

theorem ranking_pairwise (text : List Char) (available : List String) :
    (ranking text available).Pairwise fun a b =>
      precedes (scored text a) (scored text b) = true := by
  have sorted := List.pairwise_mergeSort precedes_trans precedes_total
    ((near text available).map (scored text))
  have tagged : ∀ entry ∈ ((near text available).map (scored text)).mergeSort precedes,
      scored text entry.2 = entry := by
    intro entry member
    obtain ⟨candidate, -, rfl⟩ := List.mem_map.1 (List.mem_mergeSort.1 member)
    rfl
  refine List.pairwise_map.2 (sorted.imp_of_mem fun first second ordered => ?_)
  rwa [tagged _ first, tagged _ second]

/-- There is one ranking of the names within reach. -/
theorem ranking_eq_of_pairwise {ranked : List String} (members : ranked.Perm (near text available))
    (ordered : ranked.Pairwise fun a b => precedes (scored text a) (scored text b) = true) :
    ranking text available = ranked := by
  refine ((ranking_perm text available).trans members.symm).eq_of_pairwise
    (fun a b _ _ first second => ?_) (ranking_pairwise text available) ordered
  exact congrArg Prod.snd (precedes_antisymm first second)

/-- The names are ranked alike in whichever order they are given. -/
theorem ranking_congr (same : others.Perm available) :
    ranking text others = ranking text available :=
  ranking_eq_of_pairwise ((ranking_perm text available).trans (same.symm.filter _))
    (ranking_pairwise text available)

/-- A name within reach that is available more often than it is suggested is left behind. -/
theorem mem_drop_of_mem_diff (within : Text.distance text a.toList ≤ reach)
    (left : a ∈ available.diff ((ranking text available).take limit)) :
    a ∈ (ranking text available).drop limit := by
  have counted : (near text available).count a = available.count a :=
    List.count_filter (decide_eq_true within)
  have ranked := (ranking_perm text available).count_eq a
  rw [← List.take_append_drop limit (ranking text available), List.count_append, counted] at ranked
  have remains := List.count_pos_iff.2 left
  rw [List.count_diff] at remains
  refine List.count_pos_iff.1 ?_
  omega

/-- At most three of the available names are suggested, each at most as often as it is available.
They are within distance two of the name in lower case, the closest first, and names of the same
distance in the order of their bytes. An available name within that distance is left out only if
there are three suggestions, none of which it precedes. The order in which the names are available
does not matter. The distance is the least number of edits. -/
theorem closest_names (name : String) (available : List String) :
    let text := name.toList.map Char.toLower
    let suggested := compute name available
    suggested.length ≤ 3 ∧
    suggested.Subperm available ∧
    (∀ a ∈ suggested, Text.distance text a.toList ≤ 2) ∧
    suggested.Pairwise (fun a b => a = b ∨ Closer text a b) ∧
    (∀ a ∈ available.diff suggested, Text.distance text a.toList ≤ 2 →
      suggested.length = 3 ∧ ∀ b ∈ suggested, ¬ Closer text a b) ∧
    (∀ others : List String, others.Perm available → compute name others = suggested) ∧
    ∀ source target : List Char,
      IsLeast {n | Text.Edits n source target} (Text.distance source target) := by
  intro text suggested
  have first : suggested = (ranking text available).take limit := compute_eq name available
  have ordered := ranking_pairwise text available
  have taken : suggested.Sublist (ranking text available) := first ▸ List.take_sublist _ _
  have ranked : suggested.Subperm (near text available) :=
    taken.subperm.trans (ranking_perm text available).subperm
  refine ⟨?_, ranked.trans List.filter_sublist.subperm, fun a member => ?_, ?_,
    fun a left within => ?_, fun others same => ?_, Text.isLeast_distance⟩
  · rw [first]
    exact List.length_take_le limit _
  · exact of_decide_eq_true (List.mem_filter.1 (ranked.subset member)).2
  · exact (ordered.sublist taken).imp precedes_scored_iff.1
  · rw [first] at left
    have behind := mem_drop_of_mem_diff within left
    constructor
    · have more : limit < (ranking text available).length := by
        have some := List.length_pos_of_mem behind
        rw [List.length_drop] at some
        omega
      rw [first, List.length_take_of_le (Nat.le_of_lt more), limit]
    · intro b member
      rw [first] at member
      rw [← List.take_append_drop limit (ranking text available)] at ordered
      exact not_closer_of_precedes ((List.pairwise_append.1 ordered).2.2 b member a behind)
  · rw [first, compute_eq, ranking_congr same]

/-- Four languages are near enough to a name, and the last of them by name is left out. -/
theorem closest_names_one_left_out :
    let suggested := compute "UR" ["en", "ru", "uk", "ar"]
    suggested = ["ar", "uk", "en"] ∧
    "ru" ∈ ["en", "ru", "uk", "ar"].diff suggested ∧
    Text.distance ['u', 'r'] "ru".toList ≤ 2 ∧
    ∀ b ∈ suggested, ¬ Closer ['u', 'r'] "ru" b := by
  have lower : "UR".toList.map Char.toLower = ['u', 'r'] := by decide +kernel
  have ranked : ranking ['u', 'r'] ["en", "ru", "uk", "ar"] = ["ar", "uk", "en", "ru"] :=
    ranking_eq_of_pairwise (by decide +kernel) (by decide +kernel)
  have list : compute "UR" ["en", "ru", "uk", "ar"] = ["ar", "uk", "en"] := by
    rw [compute_eq, lower, ranked]
    rfl
  intro suggested
  have left : "ru" ∈ ["en", "ru", "uk", "ar"].diff suggested := by
    change "ru" ∈ ["en", "ru", "uk", "ar"].diff (compute _ _)
    rw [list]
    decide +kernel
  have within : Text.distance ['u', 'r'] "ru".toList ≤ 2 := by decide +kernel
  obtain ⟨-, -, -, -, leftOut, -⟩ := closest_names "UR" ["en", "ru", "uk", "ar"]
  rw [lower] at leftOut
  exact ⟨list, left, within, (leftOut "ru" left within).2⟩

end PluralTemplate.Suggestion
