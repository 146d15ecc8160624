import Triage.Proofs.Regex.Coding

/-! Ways through coded text beside ways through the text itself. What is put together of parts that find the
same places finds the same places. -/

namespace Triage.Regex.Ways
open scoped Computability

/-- Of a coded text the same is found first as of the text, at the place of the same character. -/
structure Follows (code : Coding) (counts : Char → Prop) (bytes : Ways UInt8) (chars : Ways Char) : Prop where
  inside {text : List Char} {n : Nat} : n ∈ chars text → n ≤ text.length
  first {text : List Char} : (∀ c ∈ text, counts c) → ∀ look : Nat → Option Nat,
    (bytes (text.flatMap code)).findSome? look =
      (chars text).findSome? fun n => look (codedLength code text n)

theorem findSome?_congr_mem {l : List Nat} {f g : Nat → Option Nat} (same : ∀ n ∈ l, f n = g n) :
    l.findSome? f = l.findSome? g := by
  induction l with
  | nil => rfl
  | cons n l ih =>
    obtain ⟨here, others⟩ := List.forall_mem_cons.mp same
    rw [List.findSome?_cons, List.findSome?_cons, here, ih others]

section follows
variable {code : Coding} {counts : Char → Prop} {bytes other : Ways UInt8} {chars more : Ways Char}

theorem Follows.of_alike (follows : other.Follows code counts chars) (alike : bytes.Alike other) :
    bytes.Follows code counts chars where
  inside := follows.inside
  first count look := (alike _ look).trans (follows.first count look)

theorem follows_one : (1 : Ways UInt8).Follows code counts 1 where
  inside member := List.mem_singleton.mp member ▸ Nat.zero_le _
  first _ _ := rfl

theorem follows_zero : (0 : Ways UInt8).Follows code counts 0 where
  inside member := absurd member List.not_mem_nil
  first _ _ := rfl

theorem Follows.add (left : bytes.Follows code counts chars) (right : other.Follows code counts more) :
    (bytes + other).Follows code counts (chars + more) where
  inside member := (List.mem_append.mp member).elim left.inside right.inside
  first count look := by
    rw [add_apply, add_apply, List.findSome?_append, List.findSome?_append, left.first count, right.first count]

theorem Follows.mul (left : bytes.Follows code counts chars) (right : other.Follows code counts more) :
    (bytes * other).Follows code counts (chars * more) where
  inside {text n} member := by
    obtain ⟨m, here, k, there, rfl⟩ := mem_mul.mp member
    have fits := left.inside here
    have fits' := right.inside there
    rw [List.length_drop] at fits'
    omega
  first {text} count look := by
    have later (n : Nat) : ((other ((text.flatMap code).drop (codedLength code text n))).findSome? fun m =>
        look (codedLength code text n + m)) =
        (more (text.drop n)).findSome? fun m => look (codedLength code text (n + m)) := by
      rw [drop_coded, right.first fun c member => count c (List.mem_of_mem_drop member)]
      simp only [codedLength_add]
    rw [findSome?_mul, findSome?_mul, left.first count]
    simp only [later]

theorem Follows.pow (follows : bytes.Follows code counts chars) (n : Nat) :
    (bytes ^ n).Follows code counts (chars ^ n) := by
  induction n with
  | zero => exact follows_one
  | succ n ih =>
    rw [pow_succ, pow_succ]
    exact ih.mul follows

theorem Follows.orStop (follows : bytes.Follows code counts chars) (greedy : Bool) :
    (bytes.orStop greedy).Follows code counts (chars.orStop greedy) := by
  cases greedy
  · exact follows_one.add follows
  · exact follows.add follows_one

theorem Follows.upTo (follows : bytes.Follows code counts chars) (greedy : Bool) (most : Nat) :
    (Ways.upTo greedy bytes most).Follows code counts (Ways.upTo greedy chars most) := by
  induction most with
  | zero => exact follows_one
  | succ most ih => exact (follows.mul ih).orStop greedy

variable (written : ∀ c, code c ≠ [])
include written

theorem Follows.reading (follows : bytes.Follows code counts chars) :
    bytes.reading.Follows code counts chars.reading where
  inside member := (mem_reading member).2.2
  first {text} count look := by
    rw [findSome?_reading, findSome?_reading, follows.first count]
    refine findSome?_congr_mem fun n member => ?_
    have fits := follows.inside member
    have some : 0 < codedLength code text n ↔ 0 < n := codedLength_pos written fits
    simp only [some, fits, codedLength_le, and_true]

/-- Coded text is no shorter than the text, so it has room for all rounds. -/
theorem Follows.star (follows : bytes.Follows code counts chars) (greedy : Bool) :
    (Ways.star greedy bytes).Follows code counts (Ways.star greedy chars) where
  inside {text _} member := ((follows.reading written).upTo greedy text.length).inside member
  first {text} count look := by
    rw [← upTo_eq_star greedy chars (le_length_coded written text)]
    exact ((follows.reading written).upTo greedy _).first count look

theorem Follows.repeated (follows : bytes.Follows code counts chars) (greedy : Bool) (least : Nat)
    (most : Option Nat) :
    (Ways.repeated greedy bytes least most).Follows code counts (Ways.repeated greedy chars least most) := by
  cases most with
  | none => exact (follows.pow least).mul (follows.star written greedy)
  | some most => exact (follows.pow least).mul (follows.upTo greedy _)

omit written

/-- Coded words that leave no choice. -/
theorem follows_of_single (separating : Separating code counts) {texts words : Language Char}
    (single : bytes.Single) (agree : AgreeOn counts texts words)
    (members : ∀ text n, n ∈ bytes text ↔ n ≤ text.length ∧ text.take n ∈ codedBy code texts) :
    bytes.Follows code counts (ofLanguage words) where
  inside member := (mem_ofLanguage.mp member).1
  first {text} count look := by
    have agreed (k : Nat) : text.take k ∈ texts ↔ text.take k ∈ words :=
      agree _ fun c member => count c (List.mem_of_mem_take member)
    have found (n : Nat) : n ∈ bytes (text.flatMap code) ↔
        ∃ k ∈ ofLanguage words text, codedLength code text k = n := by
      rw [members, take_mem_codedBy separating count]
      constructor
      · intro found
        obtain ⟨k, fits, rfl, member⟩ := found
        exact ⟨k, mem_ofLanguage.mpr ⟨fits, (agreed k).mp member⟩, rfl⟩
      · intro found
        obtain ⟨k, member, rfl⟩ := found
        obtain ⟨fits, word⟩ := mem_ofLanguage.mp member
        exact ⟨k, fits, rfl, (agreed k).mpr word⟩
    have places : ((ofLanguage words text).map (codedLength code text)).findSome? look =
        (ofLanguage words text).findSome? fun k => look (codedLength code text k) := List.findSome?_map
    rw [← places]
    by_cases none : bytes (text.flatMap code) = []
    · have none' : (ofLanguage words text).map (codedLength code text) = [] := by
        refine List.map_eq_nil_iff.mpr (List.eq_nil_iff_forall_not_mem.mpr fun k member => ?_)
        simpa [none] using (found _).mpr ⟨k, member, rfl⟩
      rw [none, none']
    · obtain ⟨n, member⟩ := List.exists_mem_of_ne_nil _ none
      have only : ∀ m ∈ bytes (text.flatMap code), m = n := fun m here => single _ m here n member
      have only' : ∀ m ∈ (ofLanguage words text).map (codedLength code text), m = n := by
        intro m here
        exact only m ((found m).mpr (List.mem_map.mp here))
      have some : (ofLanguage words text).map (codedLength code text) ≠ [] :=
        List.ne_nil_of_mem (List.mem_map.mpr ((found n).mp member))
      rw [findSome?_of_forall_eq only, findSome?_of_forall_eq only', if_neg (by simpa using none),
        if_neg (by simpa using some)]

end follows

end Triage.Regex.Ways
