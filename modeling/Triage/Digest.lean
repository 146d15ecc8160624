import Triage.Digest.Blake3
import Triage.Digest.Entropy
import Triage.Digest.Fuzzy
import Triage.Digest.Md5
import Triage.Digest.Sha1
import Triage.Digest.Sha256
import Triage.Rule

/-!
All digests of a stream, taken in one pass.
-/

namespace Triage

/-- Digests in lower case hexadecimal, and the entropy in bits per byte. -/
structure FileHashes where
  md5 : String := ""
  sha1 : String := ""
  sha256 : String := ""
  blake3 : String := ""
  fuzzy : String := ""
  entropy : Float := 0
deriving Repr, Inhabited

def FileHashes.get (h : FileHashes) : HashAlgorithm → String
  | .md5 => h.md5
  | .sha1 => h.sha1
  | .sha256 => h.sha256
  | .blake3 => h.blake3

structure Hasher where
  md5 : Digest.Md5.State := Digest.Md5.start
  sha1 : Digest.Sha1.State := Digest.Sha1.start
  sha256 : Digest.Sha256.State := Digest.Sha256.start
  blake3 : Digest.Blake3.State := {}
  fuzzy : Digest.Fuzzy.State := {}
  histogram : Digest.Histogram := Digest.Histogram.empty
  taken : Nat := 0

namespace Hasher

def absorb (h : Hasher) (bytes : List UInt8) : Hasher where
  md5 := Digest.Md5.absorb h.md5 bytes
  sha1 := Digest.Sha1.absorb h.sha1 bytes
  sha256 := Digest.Sha256.absorb h.sha256 bytes
  blake3 := h.blake3.absorb bytes
  fuzzy := h.fuzzy.absorb bytes
  histogram := h.histogram.absorb bytes
  taken := h.taken + bytes.length

def finish (h : Hasher) : FileHashes where
  md5 := Digest.Md5.finish h.md5
  sha1 := Digest.Sha1.finish h.sha1
  sha256 := Digest.Sha256.finish h.sha256
  blake3 := h.blake3.finish
  fuzzy := h.fuzzy.render
  entropy := h.histogram.entropy

end Hasher

/-- The digests of a whole content. -/
def FileHashes.ofBytes (bytes : List UInt8) : FileHashes := (Hasher.absorb {} bytes).finish

/-- Whether a file's digests are all those of the record, up to case. -/
def HashRecord.fits (r : HashRecord) (h : FileHashes) : Bool :=
  HashAlgorithm.every.all fun a =>
    match r.get? a with
    | none => true
    | some digest => (h.get a).map Char.toLower == digest.map Char.toLower

def HashSection.fits (s : HashSection) (h : FileHashes) : Bool := s.records.any (·.fits h)

/-- What identifies a rule: the digest of its tokens' texts, each closed by a null byte. -/
def ruleId (texts : List String) : String :=
  Digest.Blake3.digest (texts.flatMap fun t => t.toUTF8.toList ++ [0])

end Triage
