import PluralTemplate.Resolver
import PluralTemplate.Proofs.Dictionary
import PluralTemplate.Proofs.Text.ByteOrder

/-!
# Tokens that several parameters make

Two names, or one name under two filters, can be wrapped to the same token. The names are visited in
the order of their bytes and each under the filters in the order of the chain, so the pairs of a
parameter and a filter are visited in one order (`pairwise_pairs`), and what a token becomes is told
by the last of them that makes it (`substitutions_last_pair`). Parameters in another order give the
same dictionary, and therefore the same message.
-/

set_option autoImplicit false

namespace PluralTemplate

/-- The last element of a class in an ordered list is the one that all others of it are before. -/
theorem getLast?_filter_eq_some_iff {α : Type} {before : α → α → Prop} {list : List α}
    (asymm : ∀ a b, before a b → ¬ before b a) (ordered : list.Pairwise before) (p : α → Bool)
    (a : α) :
    (list.filter p).getLast? = some a ↔
      a ∈ list ∧ p a = true ∧ ∀ b ∈ list, p b = true → b = a ∨ before b a := by
  have last : ∀ c, (list.filter p).getLast? = some c →
      c ∈ list ∧ p c = true ∧ ∀ b ∈ list, p b = true → b = c ∨ before b c := by
    intro c found
    have member := List.mem_filter.1 (List.mem_of_getLast? found)
    refine ⟨member.1, member.2, fun b inside holds => ?_⟩
    obtain ⟨front, split⟩ := List.getLast?_eq_some_iff.1 found
    have sorted := ordered.filter p
    rw [split, List.pairwise_append] at sorted
    have here : b ∈ list.filter p := List.mem_filter.2 ⟨inside, holds⟩
    rw [split] at here
    rcases List.mem_append.1 here with earlier | same
    · exact .inr (sorted.2.2 b earlier c (List.mem_singleton_self c))
    · exact .inl (List.mem_singleton.1 same)
  constructor
  · exact last a
  · rintro ⟨inside, holds, others⟩
    cases found : (list.filter p).getLast? with
    | none =>
      have nothing := List.getLast?_eq_none_iff.1 found
      have here := List.mem_filter.2 ⟨inside, holds⟩
      rw [nothing] at here
      cases here
    | some c =>
      obtain ⟨cInside, cHolds, cOthers⟩ := last c found
      rcases others c cInside cHolds with same | first
      · rw [same]
      · rcases cOthers a inside holds with same | second
        · rw [same]
        · exact absurd second (asymm c a first)

/-- A parameter and a filter with its place in the chain. -/
structure FilteredParameter where
  name : String
  value : Value
  place : Nat
  filter : Filter

namespace FilteredParameter

variable {p q : FilteredParameter}

/-- In the order of the bytes of their names, and for one name in that of the filters. -/
def Before (p q : FilteredParameter) : Prop :=
  Text.utf8 p.name < Text.utf8 q.name ∨ p.name = q.name ∧ p.place < q.place

theorem before_asymm (p q : FilteredParameter) (first : p.Before q) : ¬ q.Before p := by
  rintro (second | ⟨same, second⟩)
  · rcases first with first | ⟨same, -⟩
    · exact List.lt_asymm first second
    · rw [same] at second
      exact List.lt_irrefl _ second
  · rcases first with first | ⟨-, first⟩
    · rw [same] at first
      exact List.lt_irrefl _ first
    · omega

/-- What the filter makes of the value. -/
def text (p : FilteredParameter) : String := p.filter p.value.display

end FilteredParameter

namespace Resolver

variable {r : Resolver} {parameters : Parameters} {token : String}

/-- The pair of a parameter and a filter of the resolver that makes the token. -/
structure Makes (r : Resolver) (parameters : Parameters) (token : String)
    (p : FilteredParameter) : Prop where
  bound : parameters.get? p.name = some p.value
  chained : r.filters[p.place]? = some p.filter
  nonempty : p.filter p.name ≠ ""
  wrapped : r.wrap (p.filter p.name) = token

/-! ## The pairs in order -/

/-- A parameter with each filter. -/
def pairsOf (r : Resolver) (entry : String × Value) : List FilteredParameter :=
  r.filters.zipIdx.map fun filter => ⟨entry.1, entry.2, filter.2, filter.1⟩

def pairs (r : Resolver) (parameters : Parameters) : List FilteredParameter :=
  parameters.entries.flatMap r.pairsOf

theorem mem_pairs_iff {p : FilteredParameter} :
    p ∈ r.pairs parameters ↔
      parameters.get? p.name = some p.value ∧ r.filters[p.place]? = some p.filter := by
  simp only [pairs, pairsOf, List.mem_flatMap, List.mem_map, List.mem_zipIdx_iff_getElem?]
  constructor
  · rintro ⟨entry, among, filter, chained, rfl⟩
    exact ⟨Dictionary.get?_eq_some_iff.2 among, chained⟩
  · rintro ⟨bound, chained⟩
    refine ⟨(p.name, p.value), Dictionary.get?_eq_some_iff.1 bound, ?_⟩
    exact ⟨(p.filter, p.place), chained, rfl⟩

theorem pairwise_pairs (r : Resolver) (parameters : Parameters) :
    (r.pairs parameters).Pairwise FilteredParameter.Before := by
  have places : r.filters.zipIdx.Pairwise fun a b => a.2 < b.2 := by
    rw [← List.pairwise_map, List.zipIdx_map_snd]
    exact List.pairwise_lt_range'
  unfold pairs
  rw [List.pairwise_flatMap]
  constructor
  · intro entry _
    unfold pairsOf
    rw [List.pairwise_map]
    exact places.imp fun earlier => .inr ⟨rfl, earlier⟩
  · refine parameters.increasing.imp fun less p first q second => ?_
    simp only [pairsOf, List.mem_map] at first second
    obtain ⟨_, -, rfl⟩ := first
    obtain ⟨_, -, rfl⟩ := second
    exact .inl (Text.lt_iff_utf8_lt.1 less)

/-! ## The tokens of the pairs -/

/-- The token of a pair with what it becomes, unless the filter leaves no name. -/
def binding? (r : Resolver) (p : FilteredParameter) : Option (String × String) :=
  if (p.filter p.name).isEmpty then none else some (r.wrap (p.filter p.name), p.text)

theorem tokensOf_eq (r : Resolver) (entry : String × Value) :
    r.tokensOf entry.1 entry.2 = (r.pairsOf entry).filterMap r.binding? := by
  have chain : r.filters = r.filters.zipIdx.map Prod.fst := (List.zipIdx_map_fst 0 r.filters).symm
  unfold tokensOf pairsOf
  conv => lhs; rw [chain]
  rw [List.filterMap_map, List.filterMap_map]
  rfl

theorem substitutions_eq_ofList (r : Resolver) (parameters : Parameters) :
    r.substitutions parameters = .ofList ((r.pairs parameters).filterMap r.binding?) := by
  unfold substitutions pairs
  rw [List.filterMap_flatMap]
  simp only [tokensOf_eq]

/-- Whether the filter leaves a name, and it is wrapped to the token. -/
def wrapsTo (r : Resolver) (token : String) (p : FilteredParameter) : Bool :=
  !(p.filter p.name).isEmpty && r.wrap (p.filter p.name) == token

theorem makes_iff {p : FilteredParameter} :
    r.Makes parameters token p ↔ p ∈ r.pairs parameters ∧ r.wrapsTo token p = true := by
  simp only [wrapsTo, mem_pairs_iff, Bool.and_eq_true, Bool.not_eq_true', beq_iff_eq]
  constructor
  · rintro ⟨bound, chained, nonempty, wrapped⟩
    exact ⟨⟨bound, chained⟩, by simpa using nonempty, wrapped⟩
  · rintro ⟨⟨bound, chained⟩, nonempty, wrapped⟩
    exact ⟨bound, chained, by simpa using nonempty, wrapped⟩

theorem filter_bindings (token : String) (list : List FilteredParameter) :
    (list.filterMap r.binding?).filter (fun entry => entry.1 = token) =
      (list.filter (r.wrapsTo token)).map fun p => (token, p.text) := by
  induction list with
  | nil => rfl
  | cons p rest ih =>
    by_cases named : (p.filter p.name).isEmpty = true
    · simp [binding?, wrapsTo, named, ih]
    · by_cases wrapped : r.wrap (p.filter p.name) = token
      · simp [binding?, wrapsTo, named, wrapped, ih]
      · simp [binding?, wrapsTo, named, wrapped, ih]

/-- Under a token stands what the last pair makes of it. -/
theorem get?_substitutions (r : Resolver) (parameters : Parameters) (token : String) :
    (r.substitutions parameters).get? token =
      ((r.pairs parameters).filter (r.wrapsTo token)).getLast?.map FilteredParameter.text := by
  rw [substitutions_eq_ofList, Dictionary.get?_ofList, filter_bindings, List.getLast?_map,
    Option.map_map]
  rfl

theorem get?_substitutions_eq_some_iff {text : String} :
    (r.substitutions parameters).get? token = some text ↔
      ∃ p, r.Makes parameters token p ∧
        (∀ q, r.Makes parameters token q → q = p ∨ q.Before p) ∧ p.text = text := by
  rw [get?_substitutions, Option.map_eq_some_iff]
  apply exists_congr
  intro p
  rw [getLast?_filter_eq_some_iff FilteredParameter.before_asymm (r.pairwise_pairs parameters)]
  simp only [makes_iff, and_imp, and_assoc]

theorem get?_substitutions_eq_none_iff :
    (r.substitutions parameters).get? token = none ↔ ¬ ∃ p, r.Makes parameters token p := by
  rw [get?_substitutions, Option.map_eq_none_iff, List.getLast?_eq_none_iff,
    List.filter_eq_nil_iff]
  simp [makes_iff]

/-! ## Parameters in any order -/

/-- The names may be listed in any order, as they are sorted before they are visited. -/
theorem substitutions_eq_of_names {names : List String}
    (listed : names.Perm (parameters.entries.map Prod.fst)) :
    r.substitutions parameters =
      .ofList ((names.mergeSort fun a b => decide (Text.utf8 a ≤ Text.utf8 b)).flatMap fun name =>
        ((parameters.get? name).map (r.tokensOf name)).getD []) := by
  simp only [← Text.le_iff_utf8_le]
  rw [Dictionary.mergeSort_keys_of_perm listed, List.flatMap_map, substitutions]
  apply congrArg Dictionary.ofList
  apply List.flatMap_congr
  intro entry among
  rw [Dictionary.get?_eq_some_iff.2 among]
  rfl

/-- The dictionary binds a token to what the last pair that makes it makes of its value, and no
token that no pair makes. It does not depend on the order in which the names are listed before they
are sorted, and the message does not depend on that in which the parameters were given. -/
theorem substitutions_last_pair (r : Resolver) :
    (∀ (parameters : Parameters) (token text : String),
      (r.substitutions parameters).get? token = some text ↔
        ∃ p, r.Makes parameters token p ∧
          (∀ q, r.Makes parameters token q → q = p ∨ q.Before p) ∧ p.text = text) ∧
    (∀ (parameters : Parameters) (token : String),
      (r.substitutions parameters).get? token = none ↔ ¬ ∃ p, r.Makes parameters token p) ∧
    (∀ (parameters : Parameters) (names : List String),
      names.Perm (parameters.entries.map Prod.fst) →
      r.substitutions parameters =
        .ofList ((names.mergeSort fun a b => decide (Text.utf8 a ≤ Text.utf8 b)).flatMap fun name =>
          ((parameters.get? name).map (r.tokensOf name)).getD [])) ∧
    (∀ given others : List (String × Value), (given.map Prod.fst).Nodup → given.Perm others →
      ∀ template locale : String, r.resolve template (.ofList given) locale =
        r.resolve template (.ofList others) locale) := by
  refine ⟨fun _ _ _ => get?_substitutions_eq_some_iff, fun _ _ => get?_substitutions_eq_none_iff,
    fun _ _ listed => substitutions_eq_of_names listed, ?_⟩
  intro given others distinct perm template locale
  rw [Dictionary.ofList_perm distinct perm]

/-- Two names make one token: the later one does so under the second filter. -/
theorem substitutions_last_pair_two_names :
    let r : Resolver := ⟨"\x7b", "\x7d", [Filter.stringify, Filter.upper], .empty, none⟩
    let given : List (String × Value) := [("name", .text "b"), ("NAME", .text "a")]
    (∃ p, r.Makes (.ofList given) "\x7bNAME\x7d" p ∧
        (∀ q, r.Makes (.ofList given) "\x7bNAME\x7d" q → q = p ∨ q.Before p) ∧ p.text = "B") ∧
      (¬ ∃ p, r.Makes (.ofList given) "\x7bName\x7d" p) ∧
      (r.substitutions (.ofList given) =
        .ofList ((["name", "NAME"].mergeSort fun a b =>
          decide (Text.utf8 a ≤ Text.utf8 b)).flatMap fun name =>
            (((Dictionary.ofList given).get? name).map (r.tokensOf name)).getD [])) ∧
      r.resolve "Dear \x7bNAME\x7d" (.ofList given) "en" =
        r.resolve "Dear \x7bNAME\x7d" (.ofList given.reverse) "en" := by
  intro r given
  obtain ⟨last, absent, sorted, anyOrder⟩ := substitutions_last_pair r
  exact ⟨(last _ _ _).1 (by decide +kernel), (absent _ _).1 (by decide +kernel),
    sorted _ _ (by decide +kernel),
    anyOrder given given.reverse (by decide) (List.reverse_perm given).symm _ _⟩

end Resolver

end PluralTemplate
