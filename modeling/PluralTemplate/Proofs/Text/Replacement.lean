import PluralTemplate.Text.Replace

/-!
# Tokens are replaced from the left, the longest first

Replacing tokens is stated here without an order in which they are tried. A walk over a text
(`Walk`) goes from the left: where tokens begin it takes the longest of them as one piece, and
where none begins it takes one character. A text is walked in one way (`Walk.unique`), and the
pieces spell it (`Walk.source_eq`).

The tokens that a text begins with are prefixes of one another, so that more bytes mean more
characters, and the first one in the order of bytes is the longest (`longest_of_find?`).
-/

set_option autoImplicit false

namespace PluralTemplate.Text

variable {pairs : Dictionary String}

/-- A key that is not empty, with the text it is bound to. -/
structure IsToken (pairs : Dictionary String) (token replacement : List Char) : Prop where
  nonempty : token ≠ []
  bound : pairs.get? (String.ofList token) = some (String.ofList replacement)

/-- A token that a text begins with, when any other one there is shorter. -/
structure IsLongest (pairs : Dictionary String) (token replacement text : List Char) : Prop where
  isToken : IsToken pairs token replacement
  begins : token <+: text
  longest : ∀ other otherReplacement, IsToken pairs other otherReplacement → other <+: text →
    other ≠ token → other.length < token.length

/-- What one turn of a walk takes off the text. -/
inductive Piece where
  | copied (c : Char)
  | replaced (token replacement : List Char)
  deriving DecidableEq, Repr

namespace Piece

def source : Piece → List Char
  | copied c => [c]
  | replaced token _ => token

def output : Piece → List Char
  | copied c => [c]
  | replaced _ replacement => replacement

end Piece

/-- The walk over a text, piece by piece. Only what stands behind a piece is looked at
afterwards. -/
inductive Walk (pairs : Dictionary String) : List Char → List Piece → Prop
  | done : Walk pairs [] []
  | replace {token replacement rest : List Char} {pieces : List Piece}
      (longest : IsLongest pairs token replacement (token ++ rest)) (walk : Walk pairs rest pieces) :
      Walk pairs (token ++ rest) (.replaced token replacement :: pieces)
  | copy {c : Char} {rest : List Char} {pieces : List Piece}
      (free : ∀ token replacement, IsToken pairs token replacement → ¬ token <+: c :: rest)
      (walk : Walk pairs rest pieces) :
      Walk pairs (c :: rest) (.copied c :: pieces)

/-! ## A text is walked in one way -/

theorem IsToken.replacement_eq {token replacement other : List Char}
    (isToken : IsToken pairs token replacement) (again : IsToken pairs token other) :
    replacement = other := by
  have same := isToken.bound.symm.trans again.bound
  exact String.ofList_injective (Option.some.inj same)

theorem IsLongest.unique {token replacement other otherReplacement text : List Char}
    (longest : IsLongest pairs token replacement text)
    (also : IsLongest pairs other otherReplacement text) :
    token = other ∧ replacement = otherReplacement := by
  by_cases tokens : token = other
  · subst tokens
    exact ⟨rfl, longest.isToken.replacement_eq also.isToken⟩
  · have shorter := also.longest token replacement longest.isToken longest.begins tokens
    have longer := longest.longest other otherReplacement also.isToken also.begins (Ne.symm tokens)
    omega

theorem Walk.unique {text : List Char} {pieces others : List Piece}
    (walk : Walk pairs text pieces) (other : Walk pairs text others) : others = pieces := by
  induction walk generalizing others with
  | done =>
    generalize nothing : ([] : List Char) = text at other
    cases other with
    | done => rfl
    | replace longest _ => exact absurd (List.append_eq_nil_iff.1 nothing.symm).1 longest.isToken.nonempty
    | copy _ _ => cases nothing
  | @replace token replacement rest pieces longest walk ih =>
    generalize same : token ++ rest = text at other
    cases other with
    | done => exact absurd (List.append_eq_nil_iff.1 same).1 longest.isToken.nonempty
    | replace also further =>
      rw [← same] at also
      obtain ⟨rfl, rfl⟩ := longest.unique also
      obtain rfl := List.append_cancel_left same
      rw [ih further]
    | copy free _ =>
      rw [← same] at free
      exact absurd longest.begins (free token replacement longest.isToken)
  | @copy c rest pieces free walk ih =>
    generalize same : c :: rest = text at other
    cases other with
    | done => cases same
    | replace also _ =>
      rw [← same] at also
      exact absurd also.begins (free _ _ also.isToken)
    | copy _ further =>
      obtain ⟨rfl, rfl⟩ := List.cons.inj same
      rw [ih further]

/-- Every character is copied, or belongs to one replaced token. -/
theorem Walk.source_eq {text : List Char} {pieces : List Piece} (walk : Walk pairs text pieces) :
    pieces.flatMap Piece.source = text := by
  induction walk with
  | done => rfl
  | replace _ _ ih => rw [List.flatMap_cons, ih, Piece.source]
  | copy _ _ ih => rw [List.flatMap_cons, ih, Piece.source, List.singleton_append]

/-- No turn of a walk is made in place. -/
theorem Walk.length_le {text : List Char} {pieces : List Piece} (walk : Walk pairs text pieces) :
    pieces.length ≤ text.length := by
  induction walk with
  | done => exact Nat.le_refl _
  | replace longest _ ih =>
    have some := List.length_pos_iff.2 longest.isToken.nonempty
    simp only [List.length_cons, List.length_append]
    omega
  | copy _ _ ih => exact Nat.succ_le_succ ih

/-- A walk looks at the keys that are not empty only. -/
theorem Walk.mono {others : Dictionary String} {text : List Char} {pieces : List Piece}
    (same : ∀ token replacement, IsToken others token replacement ↔ IsToken pairs token replacement)
    (walk : Walk pairs text pieces) : Walk others text pieces := by
  induction walk with
  | done => exact .done
  | replace longest _ ih =>
    refine .replace ⟨(same _ _).2 longest.isToken, longest.begins, ?_⟩ ih
    intro other replacement isToken
    exact longest.longest other replacement ((same _ _).1 isToken)
  | copy free _ ih => exact .copy (fun token replacement isToken =>
      free token replacement ((same _ _).1 isToken)) ih

/-! ## The order of bytes -/

theorem Substitution.mem_ordered_iff {token replacement : List Char} (nonempty : token ≠ []) :
    ⟨token, replacement, nonempty⟩ ∈ Substitution.ordered pairs ↔
      IsToken pairs token replacement := by
  rw [ordered, List.mem_mergeSort, List.mem_filterMap]
  constructor
  · rintro ⟨⟨key, value⟩, member, made⟩
    unfold ofBinding? at made
    split at made
    · cases made
    · obtain ⟨rfl, rfl⟩ := Substitution.mk.inj (Option.some.inj made)
      refine ⟨nonempty, ?_⟩
      rw [String.ofList_toList, String.ofList_toList]
      exact Dictionary.get?_eq_some_iff.2 member
  · rintro ⟨-, bound⟩
    refine ⟨(String.ofList token, String.ofList replacement),
      Dictionary.get?_eq_some_iff.1 bound, ?_⟩
    simp [ofBinding?, nonempty]

theorem Substitution.isToken_of_mem {s : Substitution} (member : s ∈ Substitution.ordered pairs) :
    IsToken pairs s.token s.replacement :=
  (mem_ordered_iff s.token_ne_nil).1 member

theorem Substitution.ordered_pairwise (pairs : Dictionary String) :
    (Substitution.ordered pairs).Pairwise fun a b => byteCount b.token ≤ byteCount a.token := by
  let fewer : Substitution → Substitution → Bool := fun a b =>
    decide (byteCount b.token ≤ byteCount a.token)
  have transitive : ∀ a b c, fewer a b = true → fewer b c = true → fewer a c = true := by
    simp only [fewer, decide_eq_true_eq]
    omega
  have total : ∀ a b, (fewer a b || fewer b a) = true := by
    simp only [fewer, Bool.or_eq_true, decide_eq_true_eq]
    omega
  have sorted := List.pairwise_mergeSort transitive total (pairs.entries.filterMap ofBinding?)
  simpa only [ordered, fewer, decide_eq_true_eq] using sorted

/-- Of two texts that another one begins with, the one of fewer bytes is not the longer one. -/
theorem length_le_of_byteCount_le {a b text : List Char} (aBegins : a <+: text)
    (bBegins : b <+: text) (bytes : byteCount b ≤ byteCount a) : b.length ≤ a.length := by
  refine Nat.le_of_not_lt fun longer => ?_
  obtain ⟨more, rfl⟩ := List.prefix_of_prefix_length_le aBegins bBegins (by omega)
  have some : more ≠ [] := by
    rintro rfl
    simp at longer
  have count := byteCount_pos some
  rw [byteCount_append] at bytes
  omega

/-- The first token in the order of bytes that a text begins with is the longest one. -/
theorem longest_of_find? {text : List Char} {s : Substitution}
    (found : (Substitution.ordered pairs).find? (fun s => s.token.isPrefixOf text) = some s) :
    IsLongest pairs s.token s.replacement text := by
  obtain ⟨begins, earlier, later, split, missed⟩ := List.find?_eq_some_iff_append.1 found
  have member : s ∈ Substitution.ordered pairs := List.mem_of_find?_eq_some found
  refine ⟨Substitution.isToken_of_mem member, List.isPrefixOf_iff_prefix.1 begins, ?_⟩
  intro other replacement isToken otherBegins apart
  have listed := (Substitution.mem_ordered_iff isToken.nonempty).2 isToken
  rw [split, List.mem_append, List.mem_cons] at listed
  have bytes : byteCount other ≤ byteCount s.token := by
    rcases listed with before | here | behind
    · have passed := missed _ before
      rw [List.isPrefixOf_iff_prefix.2 otherBegins] at passed
      cases passed
    · exact absurd (congrArg Substitution.token here) apart
    · have order := Substitution.ordered_pairwise pairs
      rw [split, List.pairwise_append] at order
      exact (List.pairwise_cons.1 order.2.1).1 _ behind
  have begins := List.isPrefixOf_iff_prefix.1 begins
  have atMost := length_le_of_byteCount_le begins otherBegins bytes
  refine Nat.lt_of_le_of_ne atMost fun same => apart ?_
  exact (List.prefix_of_prefix_length_le otherBegins begins atMost).eq_of_length same

theorem free_of_find?_none {text : List Char}
    (missed : (Substitution.ordered pairs).find? (fun s => s.token.isPrefixOf text) = none)
    {token replacement : List Char} (isToken : IsToken pairs token replacement) :
    ¬ token <+: text := by
  intro begins
  have listed := (Substitution.mem_ordered_iff isToken.nonempty).2 isToken
  exact List.find?_eq_none.1 missed _ listed (List.isPrefixOf_iff_prefix.2 begins)

/-! ## The replaced text -/

theorem exists_walk_replaceAll (pairs : Dictionary String) (text : List Char) :
    ∃ pieces, Walk pairs text pieces ∧
      replaceAll (Substitution.ordered pairs) text = pieces.flatMap Piece.output := by
  fun_induction replaceAll (Substitution.ordered pairs) text with
  | case1 => exact ⟨[], .done, rfl⟩
  | case2 c rest s found ih =>
    obtain ⟨pieces, walk, output⟩ := ih
    have longest := longest_of_find? found
    obtain ⟨behind, split⟩ := longest.begins
    rw [← split, dropBytes_append] at walk output
    rw [← split] at longest
    refine ⟨.replaced s.token s.replacement :: pieces, ?_, ?_⟩
    · rw [← split]
      exact .replace longest walk
    · rw [← split, dropBytes_append, output, List.flatMap_cons, Piece.output]
  | case3 c rest missed ih =>
    obtain ⟨pieces, walk, output⟩ := ih
    refine ⟨.copied c :: pieces, .copy (fun _ _ => free_of_find?_none missed) walk, ?_⟩
    rw [output, List.flatMap_cons, Piece.output, List.singleton_append]

theorem replaceAll_nil (text : List Char) : replaceAll [] text = text := by
  induction text with
  | nil => simp [replaceAll]
  | cons c rest ih => simp [replaceAll, ih]

theorem toList_replaceTokens (text : String) (pairs : Dictionary String) :
    (replaceTokens text pairs).toList = replaceAll (Substitution.ordered pairs) text.toList := by
  unfold replaceTokens
  split
  · rename_i none
    rw [none, replaceAll_nil]
  · rename_i first more some
    rw [some, String.toList_ofList]

/-- Whatever walk there is over a text gives the text with its tokens replaced. -/
theorem Walk.toList_replaceTokens {text : String} {pieces : List Piece}
    (walk : Walk pairs text.toList pieces) :
    (replaceTokens text pairs).toList = pieces.flatMap Piece.output := by
  obtain ⟨made, again, output⟩ := exists_walk_replaceAll pairs text.toList
  rw [Text.toList_replaceTokens, output, walk.unique again]

/-- The text with its tokens replaced is what the walk over it puts out, and there is just one
walk. It takes no more turns than the text has characters, and its pieces, each a character that
is copied or a token that is replaced, spell the text. What the empty key is bound to makes no
difference. -/
theorem replaceTokens_eq_walk (text : String) (pairs : Dictionary String) :
    (∃ pieces, Walk pairs text.toList pieces ∧
      (∀ others, Walk pairs text.toList others → others = pieces) ∧
      (replaceTokens text pairs).toList = pieces.flatMap Piece.output ∧
      pieces.flatMap Piece.source = text.toList ∧
      pieces.length ≤ text.toList.length) ∧
    ∀ others : Dictionary String, (∀ key, key ≠ "" → others.get? key = pairs.get? key) →
      replaceTokens text others = replaceTokens text pairs := by
  obtain ⟨pieces, walk, -⟩ := exists_walk_replaceAll pairs text.toList
  refine ⟨⟨pieces, walk, fun _ other => walk.unique other, walk.toList_replaceTokens,
    walk.source_eq, walk.length_le⟩, fun others agree => ?_⟩
  have same : ∀ token replacement,
      IsToken others token replacement ↔ IsToken pairs token replacement := by
    intro token replacement
    have key : token ≠ [] → others.get? (String.ofList token) = pairs.get? (String.ofList token) :=
      fun nonempty => agree _ (by simpa using nonempty)
    constructor
    · intro isToken
      exact ⟨isToken.nonempty, (key isToken.nonempty) ▸ isToken.bound⟩
    · intro isToken
      exact ⟨isToken.nonempty, (key isToken.nonempty).symm ▸ isToken.bound⟩
  apply String.toList_injective
  rw [(walk.mono same).toList_replaceTokens, walk.toList_replaceTokens]

/-- Beside two tokens of which one begins with the other, an empty key is not seen. -/
theorem replaceTokens_beside_empty_key :
    let tokens : Dictionary String := .ofList [("a", "b"), ("ab", "a")]
    let more : Dictionary String := .ofList [("a", "b"), ("ab", "a"), ("", "!")]
    (∀ key, key ≠ "" → more.get? key = tokens.get? key) ∧
      replaceTokens "aab" more = replaceTokens "aab" tokens := by
  intro tokens more
  have agree : ∀ key, key ≠ "" → more.get? key = tokens.get? key := by
    intro key nonempty
    simp [more, tokens, Dictionary.ofList, Dictionary.get?_insert, nonempty]
  exact ⟨agree, (replaceTokens_eq_walk "aab" tokens).2 more agree⟩

end PluralTemplate.Text
