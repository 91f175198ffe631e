import Mathlib.Data.List.Basic
import PluralTemplate.Resolver
import PluralTemplate.Proofs.Handler.Transparency
import PluralTemplate.Proofs.Text.Reader
import PluralTemplate.Proofs.Text.Replacement

/-!
# Placeholders are filled in

A text in braces and plain pieces is a sequence of segments: literals, and placeholders, which
are names between braces. A resolver with braces for affixes turns it into the same sequence
with each bound placeholder filled in by the text of its parameter (`resolve_eq_render`). The
walk that replaces tokens takes a bound placeholder as one piece and everything else character
by character, so it comes to the boundary of every segment (`walk_segments`), and what was
filled in is not looked at.

The text is the template, or the variant of it that the trigger selects. A handler whose cache
is switched off parses every template anew, so the trigger's value alone decides.
-/

set_option autoImplicit false

namespace PluralTemplate

/-! ## Handlers without a cache -/

namespace Handler

/-- Made with its cache switched off, and asked anything since. -/
def SwitchedOff (h : Handler) : Prop :=
  ∃ (trigger delimiter : String) (registry : Registry) (requests : List Request),
    h = ((fresh trigger delimiter registry (.items 0)).run requests).2

/-- Whether a handler is asked depends on the trigger's parameter alone. -/
theorem needs_congr {h : Handler} {parameters others : Parameters}
    (same : others.get? h.trigger = parameters.get? h.trigger) :
    h.needs others = h.needs parameters := by
  unfold needs Dictionary.contains
  rw [same]

/-- Switched off, and so without an entry that another template could be served. -/
structure Uncached (h : Handler) : Prop where
  limit_eq : h.cache.limit = .items 0
  faithful : Faithful (fun _ => True) h

theorem Uncached.run {h : Handler} (uncached : h.Uncached) (requests : List Request) :
    (h.run requests).2.Uncached := by
  induction requests generalizing h with
  | nil => exact uncached
  | cons request rest ih =>
    have stepped : Faithful (fun _ => True) (h.step request).2 ∧
        SameSettings (h.step request).2 h :=
      (step_faithful (.inl uncached.limit_eq) uncached.faithful fun _ _ => trivial).2
    exact ih ⟨stepped.2.limit_eq.trans uncached.limit_eq, stepped.1⟩

theorem SwitchedOff.uncached {h : Handler} (off : h.SwitchedOff) : h.Uncached := by
  obtain ⟨trigger, delimiter, registry, requests, rfl⟩ := off
  have start : (fresh trigger delimiter registry (.items 0)).Uncached :=
    ⟨rfl, Cache.Holds.empty (.items 0)⟩
  exact start.run requests

theorem SwitchedOff.variants {h : Handler} (off : h.SwitchedOff) (template : String) :
    (h.variants template).1 = .ofTemplate template h.delimiter :=
  (variants_faithful (.inl off.uncached.limit_eq) off.uncached.faithful trivial).1

end Handler

namespace Resolver

/-- What a message is made from: the variant of the raw template for the trigger's value, the
default one if the value is not a number, and the template itself where nothing is selected. -/
def chosen (handler : Option Handler) (template : String) (parameters : Parameters)
    (locale : String) : String :=
  match handler with
  | none => template
  | some h =>
    match parameters.get? h.trigger with
    | none => template
    | some value =>
      match value.quantity? with
      | some q => (VariantSet.ofTemplate template h.delimiter).select q locale h.registry
      | none => (VariantSet.ofTemplate template h.delimiter).default

/-- A handler that is not asked may hold anything. -/
theorem variant_eq_chosen {handler : Option Handler} {parameters : Parameters}
    (off : ∀ h ∈ handler, h.needs parameters = true → h.SwitchedOff)
    (opening closing template locale : String) :
    ((ofAffixes opening closing handler).variant template parameters locale).1 =
      chosen handler template parameters locale := by
  cases handler with
  | none => rfl
  | some h =>
    cases bound : parameters.get? h.trigger with
    | none =>
      have idle : h.needs parameters = false := by
        simp [Handler.needs, Dictionary.contains, bound]
      simp [variant, ofAffixes, chosen, idle, bound]
    | some value =>
      have needed : h.needs parameters = true := by
        simp [Handler.needs, Dictionary.contains, bound]
      have parsed := (off h rfl needed).variants template
      simp only [variant, ofAffixes, chosen, needed, if_true, Handler.getTemplate, bound]
      cases value.quantity? with
      | none => exact congrArg VariantSet.default parsed
      | some q => exact congrArg (fun set => set.select q locale h.registry) parsed

/-- Of a resolver, the handler alone counts. -/
theorem variant_congr {r s : Resolver} (same : r.handler = s.handler) (template : String)
    (parameters : Parameters) (locale : String) :
    (r.variant template parameters locale).1 = (s.variant template parameters locale).1 := by
  unfold variant
  rw [same]
  split
  · rfl
  · split <;> rfl

/-- The trigger alone counts. -/
theorem chosen_congr {handler : Option Handler} {parameters others : Parameters}
    (same : ∀ h ∈ handler, others.get? h.trigger = parameters.get? h.trigger)
    (template locale : String) :
    chosen handler template others locale = chosen handler template parameters locale := by
  cases handler with
  | none => rfl
  | some h => simp only [chosen, same h rfl]

/-! ## Segments -/

/-- A text without a brace. -/
def BraceFree (text : List Char) : Prop := ∀ c ∈ text, c ≠ '{' ∧ c ≠ '}'

instance (text : List Char) : Decidable (BraceFree text) :=
  List.decidableBAll (fun c => c ≠ '{' ∧ c ≠ '}') text

/-- A literal may hold closing braces, and a name none at all. -/
inductive Segment where
  | literal (text : List Char) (unopened : '{' ∉ text)
  | placeholder (name : List Char) (nonempty : name ≠ []) (free : BraceFree name)

/-- A name between the affixes. -/
def braced (name : List Char) : List Char := '{' :: (name ++ ['}'])

namespace Segment

/-- The segment as it is written. -/
def source : Segment → List Char
  | literal text _ => text
  | placeholder name _ _ => braced name

/-- The segment with the text of a parameter in place of its name. A placeholder that no
parameter has the name of stays as it is written. -/
def render (parameters : Parameters) : Segment → List Char
  | literal text _ => text
  | placeholder name _ _ =>
    match parameters.get? (String.ofList name) with
    | some value => value.display.toList
    | none => braced name

/-- How the segment is walked over. -/
def pieces (parameters : Parameters) : Segment → List Text.Piece
  | literal text _ => text.map .copied
  | placeholder name _ _ =>
    match parameters.get? (String.ofList name) with
    | some value => [.replaced (braced name) value.display.toList]
    | none => (braced name).map .copied

end Segment

/-- A template of segments. -/
def written (segments : List Segment) : String := String.ofList (segments.flatMap Segment.source)

/-- The message of segments. -/
def rendered (parameters : Parameters) (segments : List Segment) : String :=
  String.ofList (segments.flatMap (Segment.render parameters))

/-! ## Tokens between braces -/

section Tokens

variable {handler : Option Handler} {parameters : Parameters}

/-- Names that can stand in a placeholder. -/
def Placeable (parameters : Parameters) : Prop :=
  ∀ entry ∈ parameters.entries, entry.1.toList ≠ [] ∧ BraceFree entry.1.toList

instance (parameters : Parameters) : Decidable (Placeable parameters) :=
  inferInstanceAs (Decidable (∀ entry ∈ parameters.entries,
    entry.1.toList ≠ [] ∧ BraceFree entry.1.toList))

theorem braced_injective {a b : List Char} (same : braced a = braced b) : a = b := by
  simpa [braced] using same

/-- A placeholder is known by what stands before its closing brace. -/
theorem braced_determines {a b rest : List Char} (aFree : BraceFree a) (bFree : BraceFree b)
    (begins : braced a <+: braced b ++ rest) : a = b := by
  obtain ⟨more, whole⟩ := begins
  have behind : a ++ '}' :: more = b ++ '}' :: rest := by simpa [braced] using whole
  have inside : ∀ {name : List Char}, BraceFree name → ∀ c ∈ name, (c != '}') = true := by
    intro name free c member
    simpa using (free c member).2
  have outside : ∀ rest, StartsOutside (fun c => c != '}') ('}' :: rest) :=
    fun rest => startsOutside_cons rfl rest
  exact (run_unique (inside aFree) (outside more) (inside bFree) (outside rest) behind).1

theorem toList_wrap {name : String} (nonempty : name.toList ≠ []) (free : BraceFree name.toList) :
    ((ofAffixes defaultOpening defaultClosing handler).wrap name).toList =
      braced name.toList := by
  have opened : defaultOpening.toList.isPrefixOf name.toList = false := by
    obtain ⟨c, rest, cons⟩ := List.exists_cons_of_ne_nil nonempty
    have noBrace := (free c (cons ▸ List.mem_cons_self)).1
    rw [cons]
    simp [defaultOpening, List.isPrefixOf, noBrace.symm]
  have closed : defaultClosing.toList.isSuffixOf name.toList = false := by
    rw [Bool.eq_false_iff]
    intro ends
    have member : '}' ∈ name.toList :=
      (List.isSuffixOf_iff_suffix.1 ends).subset (by simp [defaultClosing])
    exact (free '}' member).2 rfl
  have affixed : (ofAffixes defaultOpening defaultClosing handler).wrap name =
      defaultOpening ++ name ++ defaultClosing := by
    simp only [wrap, ofAffixes, opened, closed, Bool.false_eq_true, if_false]
  rw [affixed]
  simp [braced, defaultOpening, defaultClosing]

theorem substitutions_eq (placeable : Placeable parameters) :
    (ofAffixes defaultOpening defaultClosing handler).substitutions parameters =
      .ofList (parameters.entries.map fun entry =>
        ((ofAffixes defaultOpening defaultClosing handler).wrap entry.1, entry.2.display)) := by
  unfold substitutions
  congr 1
  rw [List.map_eq_flatMap]
  refine List.flatMap_congr fun entry member => ?_
  have nonempty : entry.1.isEmpty = false := by
    simpa using (placeable entry member).1
  have one : (ofAffixes defaultOpening defaultClosing handler).tokensOf entry.1 entry.2 =
      if entry.1.isEmpty then []
      else [((ofAffixes defaultOpening defaultClosing handler).wrap entry.1,
        entry.2.display)] := by
    simp only [tokensOf, ofAffixes, List.filterMap_cons, List.filterMap_nil, Filter.stringify, id]
    split <;> simp_all
  rw [one, nonempty]
  rfl

/-- The tokens of parameters are their names between braces. -/
theorem isToken_iff (placeable : Placeable parameters) {token replacement : List Char} :
    Text.IsToken ((ofAffixes defaultOpening defaultClosing handler).substitutions parameters)
        token replacement ↔
      ∃ name value, parameters.get? name = some value ∧ token = braced name.toList ∧
        replacement = value.display.toList := by
  have wraps : ∀ entry ∈ parameters.entries,
      ((ofAffixes defaultOpening defaultClosing handler).wrap entry.1).toList =
        braced entry.1.toList :=
    fun entry member => toList_wrap (placeable entry member).1 (placeable entry member).2
  have distinct : ((parameters.entries.map fun entry =>
      ((ofAffixes defaultOpening defaultClosing handler).wrap entry.1,
        entry.2.display)).map Prod.fst).Nodup := by
    rw [List.map_map]
    have keys := parameters.increasing
    rw [List.Nodup, List.pairwise_map]
    refine keys.imp_of_mem fun {a b} aMember bMember less same => ?_
    have names : a.1.toList = b.1.toList := by
      apply braced_injective
      rw [← wraps a aMember, ← wraps b bMember]
      exact congrArg String.toList same
    exact String.lt_irrefl b.1 (String.toList_injective names ▸ less)
  rw [substitutions_eq placeable]
  constructor
  · rintro ⟨-, bound⟩
    obtain ⟨entry, member, same⟩ := List.mem_map.1
      ((Dictionary.get?_ofList_eq_some_iff distinct).1 bound)
    obtain ⟨key, value⟩ := Prod.mk.inj same
    refine ⟨entry.1, entry.2, Dictionary.get?_eq_some_iff.2 member, ?_, ?_⟩
    · rw [← wraps entry member, key, String.toList_ofList]
    · rw [value, String.toList_ofList]
  · rintro ⟨name, value, bound, rfl, rfl⟩
    have member := Dictionary.get?_eq_some_iff.1 bound
    refine ⟨by simp [braced], (Dictionary.get?_ofList_eq_some_iff distinct).2 ?_⟩
    refine List.mem_map.2 ⟨(name, value), member, ?_⟩
    rw [← wraps _ member, String.ofList_toList, String.ofList_toList]

end Tokens

/-! ## The walk over segments -/

section Walks

variable {handler : Option Handler} {parameters : Parameters}

theorem not_prefix_of_ne_brace (placeable : Placeable parameters) {token replacement : List Char}
    (isToken : Text.IsToken ((ofAffixes defaultOpening defaultClosing handler).substitutions
      parameters) token replacement) {c : Char} (noBrace : c ≠ '{') (rest : List Char) :
    ¬ token <+: c :: rest := by
  obtain ⟨name, _, -, rfl, -⟩ := (isToken_iff placeable).1 isToken
  rintro ⟨more, whole⟩
  exact noBrace (List.cons.inj whole).1.symm

/-- Where no token begins inside a text, the walk copies it. -/
theorem walk_copied {pairs : Dictionary String} {text rest : List Char} {others : List Text.Piece}
    (free : ∀ before c behind, text = before ++ c :: behind → ∀ token replacement,
      Text.IsToken pairs token replacement → ¬ token <+: c :: (behind ++ rest))
    (walk : Text.Walk pairs rest others) :
    Text.Walk pairs (text ++ rest) (text.map .copied ++ others) := by
  induction text with
  | nil => exact walk
  | cons c behind ih =>
    refine .copy (free [] c behind rfl) (ih ?_)
    intro before d after split
    exact free (c :: before) d after (by rw [split, List.cons_append])

theorem longest_braced (placeable : Placeable parameters) {name : List Char}
    (free : BraceFree name) {value : Value}
    (bound : parameters.get? (String.ofList name) = some value) (rest : List Char) :
    Text.IsLongest ((ofAffixes defaultOpening defaultClosing handler).substitutions parameters)
      (braced name) value.display.toList (braced name ++ rest) := by
  refine ⟨(isToken_iff placeable).2 ⟨_, value, bound, ?_, rfl⟩, List.prefix_append _ _, ?_⟩
  · rw [String.toList_ofList]
  · intro token replacement isToken begins apart
    obtain ⟨other, _, otherBound, rfl, -⟩ := (isToken_iff placeable).1 isToken
    have otherFree := (placeable _ (Dictionary.get?_eq_some_iff.1 otherBound)).2
    rw [braced_determines otherFree free begins] at apart
    exact absurd rfl apart

/-- No token begins inside a placeholder that no parameter has the name of. -/
theorem free_of_unbound (placeable : Placeable parameters) {name : List Char}
    (free : BraceFree name) (unbound : parameters.get? (String.ofList name) = none)
    {rest before behind : List Char} {c : Char} (split : braced name = before ++ c :: behind)
    {token replacement : List Char}
    (isToken : Text.IsToken ((ofAffixes defaultOpening defaultClosing handler).substitutions
      parameters) token replacement) :
    ¬ token <+: c :: (behind ++ rest) := by
  cases before with
  | nil =>
    obtain ⟨other, _, bound, rfl, -⟩ := (isToken_iff placeable).1 isToken
    have otherFree := (placeable _ (Dictionary.get?_eq_some_iff.1 bound)).2
    intro begins
    rw [← List.cons_append, ← List.nil_append (c :: behind), ← split] at begins
    rw [← braced_determines otherFree free begins, String.ofList_toList, bound] at unbound
    cases unbound
  | cons d before =>
    have inside : c ∈ name ++ ['}'] := by
      rw [(List.cons.inj split).2]
      exact List.mem_append_right before List.mem_cons_self
    refine not_prefix_of_ne_brace placeable isToken ?_ _
    rcases List.mem_append.1 inside with named | closing
    · exact (free c named).1
    · rw [List.mem_singleton.1 closing]
      decide

/-- The walk comes to the end of a segment. -/
theorem walk_segment (placeable : Placeable parameters) (segment : Segment) {rest : List Char}
    {others : List Text.Piece}
    (walk : Text.Walk ((ofAffixes defaultOpening defaultClosing handler).substitutions parameters)
      rest others) :
    Text.Walk ((ofAffixes defaultOpening defaultClosing handler).substitutions parameters)
      (segment.source ++ rest) (segment.pieces parameters ++ others) := by
  cases segment with
  | literal text unopened =>
    refine walk_copied (fun before c behind split token replacement isToken => ?_) walk
    have member : c ∈ text := by
      rw [show text = before ++ c :: behind from split]
      exact List.mem_append_right before List.mem_cons_self
    have noBrace : c ≠ '{' := by
      rintro rfl
      exact unopened member
    exact not_prefix_of_ne_brace placeable isToken noBrace _
  | placeholder name nonempty free =>
    simp only [Segment.source, Segment.pieces]
    cases bound : parameters.get? (String.ofList name) with
    | some value => exact .replace (longest_braced placeable free bound rest) walk
    | none =>
      refine walk_copied (fun before c behind split token replacement isToken => ?_) walk
      exact free_of_unbound placeable free bound split isToken

theorem walk_segments (placeable : Placeable parameters) (segments : List Segment) :
    Text.Walk ((ofAffixes defaultOpening defaultClosing handler).substitutions parameters)
      (segments.flatMap Segment.source) (segments.flatMap (Segment.pieces parameters)) := by
  induction segments with
  | nil => exact .done
  | cons segment rest ih =>
    rw [List.flatMap_cons, List.flatMap_cons]
    exact walk_segment placeable segment ih

theorem flatMap_output_copied (text : List Char) :
    (text.map Text.Piece.copied).flatMap Text.Piece.output = text := by
  induction text with
  | nil => rfl
  | cons c rest ih => rw [List.map_cons, List.flatMap_cons, ih, Text.Piece.output,
      List.singleton_append]

theorem Segment.output_pieces (parameters : Parameters) (segment : Segment) :
    (segment.pieces parameters).flatMap Text.Piece.output = segment.render parameters := by
  cases segment with
  | literal text unopened => exact flatMap_output_copied text
  | placeholder name nonempty free =>
    simp only [pieces, render]
    cases parameters.get? (String.ofList name) with
    | some value => simp [Text.Piece.output]
    | none => exact flatMap_output_copied _

theorem replaceTokens_written (placeable : Placeable parameters) (segments : List Segment) :
    Text.replaceTokens (written segments)
        ((ofAffixes defaultOpening defaultClosing handler).substitutions parameters) =
      rendered parameters segments := by
  have walk : Text.Walk ((ofAffixes defaultOpening defaultClosing handler).substitutions parameters)
      (segments.flatMap Segment.source) (segments.flatMap (Segment.pieces parameters)) :=
    walk_segments placeable segments
  apply String.toList_injective
  rw [← String.toList_ofList (l := segments.flatMap Segment.source)] at walk
  rw [written, walk.toList_replaceTokens, rendered, String.toList_ofList, List.flatMap_assoc]
  simp only [Segment.output_pieces]

theorem replaceTokens_empty (text : String) : Text.replaceTokens text .empty = text := by
  apply String.toList_injective
  have none : Text.Substitution.ordered .empty = [] := by
    simp [Text.Substitution.ordered, Dictionary.empty]
  rw [Text.toList_replaceTokens, none, Text.replaceAll_nil]

end Walks

/-- The text that is filled in is the chosen one, for which the trigger's parameter alone counts;
a handler that is asked for it has its cache switched off. Where the text is a sequence of segments,
the message is that sequence with each placeholder that has a parameter's name filled in, whatever
the values are. -/
theorem resolve_eq_render (handler : Option Handler) (parameters : Parameters)
    (off : ∀ h ∈ handler, h.needs parameters = true → h.SwitchedOff)
    (placeable : Placeable parameters) (template locale : String) :
    let r := ofAffixes defaultOpening defaultClosing handler
    (∀ others : Parameters,
      (∀ h ∈ handler, others.get? h.trigger = parameters.get? h.trigger) →
        (r.variant template others locale).1 = chosen handler template parameters locale) ∧
    ∀ segments : List Segment, chosen handler template parameters locale = written segments →
      (r.resolve template parameters locale).1 = rendered parameters segments := by
  intro r
  have variant : ∀ others : Parameters,
      (∀ h ∈ handler, others.get? h.trigger = parameters.get? h.trigger) →
        (r.variant template others locale).1 = chosen handler template parameters locale := by
    intro others same
    have off : ∀ h ∈ handler, h.needs others = true → h.SwitchedOff := by
      intro h made asked
      rw [Handler.needs_congr (same h made)] at asked
      exact off h made asked
    rw [variant_eq_chosen off, chosen_congr same]
  refine ⟨variant, fun segments source => ?_⟩
  have text := variant parameters fun _ _ => rfl
  have filled : (r.resolve template parameters locale).1 =
      Text.replaceTokens (Text.replaceTokens (r.variant template parameters locale).1
        (r.substitutions parameters)) .empty := rfl
  rw [filled, text, source, replaceTokens_written placeable, replaceTokens_empty]

/-- A value that looks like a placeholder, a rule and two variants stands in the message as it
is, and so does a closing brace of the template. -/
theorem resolve_value_like_template :
    ((ofAffixes defaultOpening defaultClosing
        (some (Handler.fresh "count" "|" .standard (.items 0)))).resolve
      "\x7bname\x7d|\x7bcount\x7d of\x7d \x7bname\x7d\x7bother\x7d"
      (.ofList [("count", .number 2), ("name", .text "\x7bcount\x7d|\x7b2\x7d")]) "en").1 =
    "2 of\x7d \x7bcount\x7d|\x7b2\x7d\x7bother\x7d" := by
  let parameters : Parameters :=
    .ofList [("count", .number 2), ("name", .text "\x7bcount\x7d|\x7b2\x7d")]
  have off : ∀ h ∈ some (Handler.fresh "count" "|" .standard (.items 0)),
      h.needs parameters = true → h.SwitchedOff := by
    rintro _ ⟨⟩ _
    exact ⟨"count", "|", .standard, [], rfl⟩
  let segments : List Segment :=
    [.placeholder "count".toList (by decide) (by decide), .literal " of\x7d ".toList (by decide),
      .placeholder "name".toList (by decide) (by decide),
      .placeholder "other".toList (by decide) (by decide)]
  have message := resolve_eq_render _ parameters off (by decide)
    "\x7bname\x7d|\x7bcount\x7d of\x7d \x7bname\x7d\x7bother\x7d" "en"
  exact (message.2 segments (by decide +kernel)).trans (by decide +kernel)

end Resolver

end PluralTemplate
