import PluralTemplate.Proofs.Handler.Provenance
import PluralTemplate.Proofs.Text.ByteOrder

/-!
# How template keys collide

A byte is mixed into a digest by exclusive or and a multiplication, and both can be undone: the
prime is odd, so it has an inverse among the words. Hence a step keeps different digests apart if
they absorb the same byte (`absorb_left_inj`), and different bytes apart if the same digest absorbs
them (`absorb_right_inj`).

By induction over the bytes that follow, a collision goes on under every common suffix and none
comes up under it, and a single byte that is changed changes the key. So what is cached for a
template is never served for an edit of one byte, while the entry of one template of a colliding
pair is served for the other with any suffix behind both (`collisions_follow_suffixes`).
-/

set_option autoImplicit false

namespace PluralTemplate

namespace TemplateKey

/-! ## One byte -/

/-- The word that undoes a multiplication by the prime. -/
def primeInverse : UInt64 := 0xCE965057AFF6957B

theorem prime_mul_primeInverse : prime * primeInverse = 1 := by decide

theorem mul_prime_inj {a b : UInt64} : a * prime = b * prime ↔ a = b := by
  constructor
  · intro same
    have undone := congrArg (· * primeInverse) same
    simpa [UInt64.mul_assoc, prime_mul_primeInverse] using undone
  · intro same
    rw [same]

theorem absorb_left_inj {d e : UInt64} (byte : UInt8) :
    absorb d byte = absorb e byte ↔ d = e := by
  unfold absorb
  rw [mul_prime_inj, UInt64.xor_left_inj]

theorem absorb_right_inj {x y : UInt8} (digest : UInt64) :
    absorb digest x = absorb digest y ↔ x = y := by
  unfold absorb
  rw [mul_prime_inj, UInt64.xor_right_inj, UInt8.toUInt64_inj]

/-! ## Many bytes -/

/-- Absorbing the same bytes keeps digests apart, however many there are. -/
theorem foldl_absorb_inj (bytes : List UInt8) {d e : UInt64} :
    bytes.foldl absorb d = bytes.foldl absorb e ↔ d = e := by
  induction bytes generalizing d e with
  | nil => simp
  | cons byte rest ih =>
    rw [List.foldl_cons, List.foldl_cons, ih]
    exact absorb_left_inj byte

theorem digestBytes_append (front behind : List UInt8) :
    digestBytes (front ++ behind) = behind.foldl absorb (digestBytes front) := by
  unfold digestBytes
  rw [List.foldl_append]

/-- Bytes in common behind two texts neither make a collision nor end one. -/
theorem digestBytes_append_inj {a b : List UInt8} (behind : List UInt8) :
    digestBytes (a ++ behind) = digestBytes (b ++ behind) ↔ digestBytes a = digestBytes b := by
  rw [digestBytes_append, digestBytes_append, foldl_absorb_inj]

/-- With the same bytes around it, a byte is determined by the digest. -/
theorem digestBytes_around_inj {x y : UInt8} (front behind : List UInt8) :
    digestBytes (front ++ x :: behind) = digestBytes (front ++ y :: behind) ↔ x = y := by
  rw [digestBytes_append, digestBytes_append, List.foldl_cons, List.foldl_cons, foldl_absorb_inj]
  exact absorb_right_inj (digestBytes front)

/-! ## Templates -/

theorem ofTemplate_eq_iff {a b : String} :
    ofTemplate a = ofTemplate b ↔ digestBytes (Text.utf8 a) = digestBytes (Text.utf8 b) := by
  unfold ofTemplate
  rw [TemplateKey.mk.injEq, Text.toList_toUTF8, Text.toList_toUTF8]

theorem ofTemplate_append_eq_iff (a b suffix : String) :
    ofTemplate (a ++ suffix) = ofTemplate (b ++ suffix) ↔ ofTemplate a = ofTemplate b := by
  rw [ofTemplate_eq_iff, ofTemplate_eq_iff, Text.utf8_append, Text.utf8_append,
    digestBytes_append_inj]

/-- Two texts of as many bytes as each other that differ in exactly one byte. -/
structure OneByteApart (a b : String) : Prop where
  size_eq : a.utf8ByteSize = b.utf8ByteSize
  place : ∃! i : Nat, (Text.utf8 a)[i]? ≠ (Text.utf8 b)[i]?

/-- Around the only place where two lists of one length differ, they are the same. -/
theorem exists_around {a b : List UInt8} (length_eq : a.length = b.length)
    (place : ∃! i : Nat, a[i]? ≠ b[i]?) :
    ∃ front x y behind, a = front ++ x :: behind ∧ b = front ++ y :: behind ∧ x ≠ y := by
  obtain ⟨i, differ, only⟩ := place
  have same : ∀ j, j ≠ i → a[j]? = b[j]? := by
    intro j other
    apply Decidable.byContradiction
    intro apart
    exact other (only j apart)
  have inside : i < a.length := by
    apply Decidable.byContradiction
    intro outside
    apply differ
    rw [List.getElem?_eq_none (by omega), List.getElem?_eq_none (by omega)]
  have insideOther : i < b.length := length_eq ▸ inside
  have fronts : a.take i = b.take i := by
    apply List.ext_getElem?
    intro j
    rw [List.getElem?_take, List.getElem?_take]
    split
    · exact same j (by omega)
    · rfl
  have behinds : a.drop (i + 1) = b.drop (i + 1) := by
    apply List.ext_getElem?
    intro j
    rw [List.getElem?_drop, List.getElem?_drop]
    exact same (i + 1 + j) (by omega)
  refine ⟨a.take i, a[i], b[i], a.drop (i + 1), ?_, ?_, ?_⟩
  · rw [← List.drop_eq_getElem_cons inside, List.take_append_drop]
  · rw [fronts, behinds, ← List.drop_eq_getElem_cons insideOther, List.take_append_drop]
  · intro equal
    apply differ
    rw [List.getElem?_eq_getElem inside, List.getElem?_eq_getElem insideOther, equal]

/-- Lists that are the same but for one entry differ nowhere else. -/
theorem existsUnique_place {x y : UInt8} (front behind : List UInt8) (differ : x ≠ y) :
    ∃! i : Nat, (front ++ x :: behind)[i]? ≠ (front ++ y :: behind)[i]? := by
  refine ⟨front.length, by simp [differ], ?_⟩
  intro i apart
  apply Decidable.byContradiction
  intro other
  apply apart
  simp only [List.getElem?_append, List.getElem?_cons]
  split
  · rfl
  · rw [if_neg (by omega), if_neg (by omega)]

theorem oneByteApart_iff {a b : String} :
    OneByteApart a b ↔ ∃ front x y behind,
      Text.utf8 a = front ++ x :: behind ∧ Text.utf8 b = front ++ y :: behind ∧ x ≠ y := by
  constructor
  · intro apart
    have length_eq : (Text.utf8 a).length = (Text.utf8 b).length := apart.size_eq
    exact exists_around length_eq apart.place
  · intro ⟨front, x, y, behind, first, second, differ⟩
    have length_eq : (Text.utf8 a).length = (Text.utf8 b).length := by
      simp [first, second]
    refine ⟨length_eq, ?_⟩
    rw [first, second]
    exact existsUnique_place front behind differ

/-- An edit of one byte changes the key. -/
theorem OneByteApart.ofTemplate_ne {a b : String} (apart : OneByteApart a b) :
    ofTemplate a ≠ ofTemplate b := by
  obtain ⟨front, x, y, behind, first, second, differ⟩ := oneByteApart_iff.1 apart
  rw [Ne, ofTemplate_eq_iff, first, second, digestBytes_around_inj]
  exact differ

end TemplateKey

namespace Handler

open TemplateKey (OneByteApart)

/-- Two templates have one key just when they have one with any suffix behind both, and an edit of
one byte never keeps the key. So after every history of a handler, the entry that a request finds
was put there for no such edit of its template, and the request is answered as without a cache for
the template of that entry, or for its own if it finds none. But of a colliding pair, the template
that is looked up first is served for both, whatever suffix stands behind them. -/
theorem collisions_follow_suffixes (trigger delimiter : String) (registry : Registry)
    (limit : CacheLimit) :
    let start := fresh trigger delimiter registry limit
    (∀ a b suffix, TemplateKey.ofTemplate (a ++ suffix) = TemplateKey.ofTemplate (b ++ suffix) ↔
      TemplateKey.ofTemplate a = TemplateKey.ofTemplate b) ∧
    (∀ a b, OneByteApart a b → TemplateKey.ofTemplate a ≠ TemplateKey.ofTemplate b) ∧
    (∀ history template edit, OneByteApart template edit →
      ¬ HeldFrom start history (.ofTemplate template) edit) ∧
    (∀ history request template, request.lookedUp? trigger = some template →
      ∃ source, ¬ OneByteApart template source ∧
        ((start.after history).step request).1 = start.answerAnew (request.on source) ∧
        (HeldFrom start history (.ofTemplate template) source ∨ source = template ∧
          (start.after history).cache.entries[TemplateKey.ofTemplate template]? = none)) ∧
    ∀ (h : Handler) (a b suffix : String), h.cache.limit ≠ .items 0 →
      TemplateKey.ofTemplate a = TemplateKey.ofTemplate b →
        ((h.variants (a ++ suffix)).2.variants (b ++ suffix)).1 =
          (h.variants (a ++ suffix)).1 := by
  intro start
  refine ⟨TemplateKey.ofTemplate_append_eq_iff, fun a b apart => apart.ofTemplate_ne, ?_, ?_, ?_⟩
  · intro history template edit apart held
    exact apart.ofTemplate_ne held.digest_eq.symm
  · intro history request template looked
    have unused : start.cache.entries = ∅ := rfl
    obtain ⟨source, digest, answer, origin⟩ := exists_served unused history looked
    exact ⟨source, fun apart => apart.ofTemplate_ne digest.symm, answer, origin⟩
  · intro h a b suffix enabled shared
    apply variants_of_shared_key h enabled
    exact (TemplateKey.ofTemplate_append_eq_iff a b suffix).2 shared

/-- A letter is changed in one template, and two others of ten letters have one key and so have it
with a second part behind them. -/
theorem collisions_follow_suffixes_second_part :
    let start := fresh defaultTrigger defaultDelimiter .standard Cache.defaultLimit
    let history : List Call := [.ask (.variants "one ample")]
    OneByteApart "one apple" "one ample" ∧
    TemplateKey.ofTemplate "one apple" ≠ TemplateKey.ofTemplate "one ample" ∧
    ¬ HeldFrom start history (.ofTemplate "one apple") "one ample" ∧
    (∃ source, ¬ OneByteApart "one apple" source ∧
      ((start.after history).step (.variants "one apple")).1 = .set (start.parse source) ∧
      (HeldFrom start history (.ofTemplate "one apple") source ∨ source = "one apple" ∧
        (start.after history).cache.entries[TemplateKey.ofTemplate "one apple"]? = none)) ∧
    start.cache.limit ≠ .items 0 ∧
    TemplateKey.ofTemplate "7mohtcOFVz" = TemplateKey.ofTemplate "c1E51sSEyx" ∧
    TemplateKey.ofTemplate "7mohtcOFVz|more" = TemplateKey.ofTemplate "c1E51sSEyx|more" ∧
    ((start.variants "7mohtcOFVz|more").2.variants "c1E51sSEyx|more").1 =
      (start.variants "7mohtcOFVz|more").1 := by
  intro start history
  obtain ⟨suffixes, edits, unheld, served, pairs⟩ :=
    collisions_follow_suffixes defaultTrigger defaultDelimiter .standard Cache.defaultLimit
  have apart : OneByteApart "one apple" "one ample" := by
    apply TemplateKey.oneByteApart_iff.2
    exact ⟨"one a".toUTF8.data.toList, 'p'.toUInt8, 'm'.toUInt8, "ple".toUTF8.data.toList,
      by decide +kernel, by decide +kernel, by decide⟩
  have enabled : start.cache.limit ≠ .items 0 := by decide
  have shared : TemplateKey.ofTemplate "7mohtcOFVz" = TemplateKey.ofTemplate "c1E51sSEyx" := by
    decide +kernel
  exact ⟨apart, edits _ _ apart, unheld history _ _ apart,
    served history (.variants "one apple") "one apple" rfl, enabled, shared,
    (suffixes "7mohtcOFVz" "c1E51sSEyx" "|more").2 shared,
    pairs start "7mohtcOFVz" "c1E51sSEyx" "|more" enabled shared⟩

end Handler

end PluralTemplate
