import Triage.Digest
import Triage.Proofs.Digest.Fuzzy

/-! The digests of a stream in pieces are those of all its bytes. -/

namespace Triage.Hasher
open Digest

theorem absorb_append (h : Hasher) (one other : List UInt8) :
    (h.absorb one).absorb other =
      { h.absorb (one ++ other) with fuzzy := (h.fuzzy.absorb one).absorb other } := by
  have blake3 : other.foldl Blake3.State.push (one.foldl Blake3.State.push h.blake3) =
      (one ++ other).foldl Blake3.State.push h.blake3 := List.foldl_append.symm
  have histogram : other.foldl Histogram.push (one.foldl Histogram.push h.histogram) =
      (one ++ other).foldl Histogram.push h.histogram := List.foldl_append.symm
  simp only [absorb, List.length_append, Nat.add_assoc, Md5.absorb, Sha1.absorb, Sha256.absorb,
    Blocks.absorb_append]
  congr 1

/-- Of all that is kept of a stream only the similarity digest may tell how it was cut. -/
theorem foldl_absorb (h : Hasher) (pieces : List (List UInt8)) :
    pieces.foldl absorb h = { h.absorb pieces.flatten with fuzzy := pieces.foldl Fuzzy.State.absorb h.fuzzy } := by
  induction pieces generalizing h with
  | nil => rfl
  | cons piece pieces ih =>
    rw [List.foldl_cons, ih, absorb_append]
    rfl

theorem taken_pieces (pieces : List (List UInt8)) :
    (pieces.foldl absorb {}).taken = pieces.flatten.length := by
  rw [foldl_absorb]
  exact Nat.zero_add _

theorem finish_pieces (pieces : List (List UInt8)) :
    (pieces.foldl absorb {}).finish = FileHashes.ofBytes pieces.flatten := by
  rw [foldl_absorb, FileHashes.ofBytes, finish, Fuzzy.render_pieces]
  rfl

end Triage.Hasher
