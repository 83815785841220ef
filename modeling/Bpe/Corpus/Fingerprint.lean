import Bpe.Corpus.Audit
import Bpe.Lib.Frame

/-!
# Fingerprints before hashing

What `_sequence_digest` and `_ngram_digest` feed to SHA-256 is a stream of framed tokens,
the second with a closing byte after each n-gram. Different tokens give different streams.
-/

namespace Bpe.Corpus

open Text

def utf8 (token : Source) : List UInt8 := (String.ofList token).toUTF8.data.toList

theorem utf8_injective : Function.Injective utf8 := by
  intro a b h
  have hbytes : (String.ofList a).toUTF8 = (String.ofList b).toUTF8 :=
    ByteArray.ext (Array.toList_inj.1 h)
  exact String.ofList_injective (toUTF8_injective hbytes)

theorem sequenceBytes_eq (tokens : List Source) :
    sequenceBytes tokens = frames (tokens.map utf8) := by
  rw [frames, List.flatMap_map]
  rfl

theorem ngramBytes_eq (grams : Finset (List Source)) :
    ngramBytes grams = closedFrames ((grams.sort (· ≤ ·)).map (List.map utf8)) := by
  rw [closedFrames, List.flatMap_map, ngramBytes]
  simp only [sequenceBytes_eq]

/-- **Streams of framed tokens are the same only for the same tokens.** -/
theorem fingerprints_injective :
    (∀ a b : List Source, (∀ t ∈ a, (utf8 t).length < 2 ^ 56) →
      (∀ t ∈ b, (utf8 t).length < 2 ^ 56) → sequenceBytes a = sequenceBytes b → a = b) ∧
    ∀ a b : Finset (List Source), (∀ g ∈ a, g ≠ [] ∧ ∀ t ∈ g, (utf8 t).length < 2 ^ 56) →
      (∀ g ∈ b, g ≠ [] ∧ ∀ t ∈ g, (utf8 t).length < 2 ^ 56) →
      ngramBytes a = ngramBytes b → a = b := by
  constructor
  · intro a b ha hb h
    have hlarge : (2 : Nat) ^ 56 < 2 ^ 64 := by omega
    rw [sequenceBytes_eq, sequenceBytes_eq] at h
    refine utf8_injective.list_map (frames_inj ?_ ?_ h)
    · exact List.forall_mem_map.2 fun t ht => (ha t ht).trans hlarge
    · exact List.forall_mem_map.2 fun t ht => (hb t ht).trans hlarge
  · intro a b ha hb h
    rw [ngramBytes_eq, ngramBytes_eq] at h
    have hshort : ∀ {c : Finset (List Source)},
        (∀ g ∈ c, g ≠ [] ∧ ∀ t ∈ g, (utf8 t).length < 2 ^ 56) →
        ∀ s ∈ (c.sort (· ≤ ·)).map (List.map utf8), ∀ x ∈ s, x.length < 2 ^ 56 := by
      intro c hc
      refine List.forall_mem_map.2 fun g hg => List.forall_mem_map.2 ?_
      exact (hc g ((Finset.mem_sort _).1 hg)).2
    have hsorted := utf8_injective.list_map.list_map (closedFrames_inj (hshort ha) (hshort hb) h)
    rw [← Finset.sort_toFinset a (· ≤ ·), hsorted, Finset.sort_toFinset]

/-- `a` and `b` as two tokens, as one, and as one or two n-grams. -/
theorem fingerprints_injective_pair :
    sequenceBytes [['a'], ['b']] ≠ sequenceBytes [['a', 'b']] ∧
      ngramBytes {[['a'], ['b']]} ≠ ngramBytes {[['a']], [['b']]} := by
  constructor
  · intro h
    have := fingerprints_injective.1 _ _ (by decide) (by decide) h
    cases this
  · intro h
    have := fingerprints_injective.2 _ _ (by decide) (by decide) h
    exact absurd this (by decide)

end Bpe.Corpus
