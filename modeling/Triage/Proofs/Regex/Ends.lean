import Triage.Proofs.Regex.Widths

/-! Where the preferred match ends that starts at a place of a text. What a buffer tells of it, the
text tells: bytes dropped more than four before the place do not count, and bytes that are still to
come count only for conditions that they change and for matches that reach them. -/

namespace Triage.Regex

/-- How many bytes each match takes that starts at a place of a text, the preferred one first. -/
def Expr.widthsAt (e : Expr) (text : List UInt8) (pos : Nat) : List Nat :=
  Thread.widths [.expr e] (text.take pos).reverse (text.drop pos)

/-- Where the preferred match ends that starts at a place of a text. -/
def Expr.endAt? (e : Expr) (text : List UInt8) (pos : Nat) : Option Nat :=
  if pos ≤ text.length then (e.widthsAt text pos).head?.map (pos + ·) else none

theorem matchEnd?_eq_endAt? (e : Expr) {text : List UInt8} {pos : Nat} (inside : pos ≤ text.length) :
    e.matchEnd? pos (text.take pos).reverse (text.drop pos) = e.endAt? text pos := by
  rw [Expr.endAt?, if_pos inside, Expr.matchEnd?, stop?_eq_head?_widths]
  rfl

/-- The first match is the first place at which a match ends somewhere. -/
theorem firstMatch?_eq (e : Expr) (starts : Nat) {text : List UInt8} {pos : Nat}
    (inside : pos ≤ text.length) :
    match e.firstMatch? starts pos (text.take pos).reverse (text.drop pos) with
    | some (start, stop) => pos ≤ start ∧ start < pos + starts ∧
        (∀ q, pos ≤ q → q < start → e.endAt? text q = none) ∧ e.endAt? text start = some stop
    | none => ∀ q, pos ≤ q → q < pos + starts → e.endAt? text q = none := by
  induction starts generalizing pos with
  | zero =>
    rw [Expr.firstMatch?]
    intro q low high
    omega
  | succ starts ih =>
    have here := matchEnd?_eq_endAt? e inside
    unfold Expr.firstMatch?
    cases found : e.matchEnd? pos (text.take pos).reverse (text.drop pos) with
    | some stop =>
      refine ⟨Nat.le_refl _, by omega, fun q low high => by omega, ?_⟩
      rw [← here, found]
    | none =>
      have miss : e.endAt? text pos = none := by rw [← here, found]
      have from_here {bound : Nat}
          (later : ∀ q, pos + 1 ≤ q → q < bound → e.endAt? text q = none) :
          ∀ q, pos ≤ q → q < bound → e.endAt? text q = none := by
        intro q low high
        by_cases same : q = pos
        · exact same ▸ miss
        · exact later q (by omega) high
      by_cases last : pos = text.length
      · have past : text.drop pos = [] := by simp [last]
        rw [past]
        apply from_here
        intro q low _
        rw [Expr.endAt?, if_neg (by omega)]
      · have more : pos < text.length := by omega
        rw [List.drop_eq_getElem_cons more]
        have behind : text[pos] :: (text.take pos).reverse = (text.take (pos + 1)).reverse := by
          rw [List.take_succ_eq_append_getElem more, List.reverse_append]
          rfl
        simp only [behind]
        have next : pos + 1 ≤ text.length := more
        have step := ih next
        split
        · rename_i start stop later
          rw [later] at step
          obtain ⟨low, high, none, ends⟩ := step
          exact ⟨by omega, by omega, from_here none, ends⟩
        · rename_i later
          rw [later] at step
          apply from_here
          intro q low high
          exact step q low (by omega)

/-- A match reads a word of the expression. -/
theorem endAt?_spec {e : Expr} {text : List UInt8} {pos stop : Nat}
    (found : e.endAt? text pos = some stop) :
    pos ≤ stop ∧ stop ≤ text.length ∧ (text.drop pos).take (stop - pos) ∈ e.language := by
  unfold Expr.endAt? at found
  split at found
  · rename_i inside
    obtain ⟨width, first, rfl⟩ := Option.map_eq_some_iff.mp found
    obtain ⟨fits, word⟩ := take_mem_language (List.mem_of_head? first)
    rw [List.length_drop] at fits
    refine ⟨Nat.le_add_right _ _, by omega, ?_⟩
    rw [Thread.language_singleton] at word
    rw [Nat.add_sub_cancel_left]
    exact word
  · simp at found

/-! ## Buffers -/

theorem last?_eq_of_take {behind other : List UInt8} (same : behind.take 4 = other.take 4) :
    Utf8.last? behind = Utf8.last? other := by
  have near {n : Nat} (le : n ≤ 4) : behind.take n = other.take n := by
    rw [← Nat.min_eq_left le, ← List.take_take, same, List.take_take]
  have few (bytes : List UInt8) : ((bytes.take 3).takeWhile Utf8.isContinuation).length + 1 ≤ 4 := by
    have short := (List.takeWhile_sublist Utf8.isContinuation (l := bytes.take 3)).length_le
    have := List.length_take_le 3 bytes
    omega
  unfold Utf8.last?
  rw [near (show 3 ≤ 4 by omega)]
  simp only [near (few other)]

/-- Conditions look back at most four bytes. -/
theorem holds_eq_of_take {behind other : List UInt8} (same : behind.take 4 = other.take 4)
    (ahead : List UInt8) (l : Look) : l.holds behind ahead = l.holds other ahead := by
  have last := last?_eq_of_take same
  have head : behind.head? = other.head? := by
    cases behind <;> cases other <;> simp_all
  have empty : behind.isEmpty = other.isEmpty := by
    cases behind <;> cases other <;> simp_all
  cases l with
  | textStart => exact empty
  | textEnd => rfl
  | lineStart crlf => cases crlf <;> simp only [Look.holds, head]
  | lineEnd crlf => cases crlf <;> simp only [Look.holds, head]
  | word unicode edge => cases unicode <;> simp only [Look.holds, head, empty, last]

/-- The condition comes out the same with what is still to come behind the bytes ahead. -/
def Look.Settled (ahead rest : List UInt8) (l : Look) : Prop :=
  ∀ behind, l.holds behind ahead = l.holds behind (ahead ++ rest)

theorem settled_nil (ahead : List UInt8) (l : Look) : l.Settled ahead [] := by
  intro behind
  rw [List.append_nil]

private theorem take_append_congr {behind other : List UInt8} (same : behind.take 4 = other.take 4)
    (front : List UInt8) : (front ++ behind).take 4 = (front ++ other).take 4 := by
  have near : behind.take (4 - front.length) = other.take (4 - front.length) := by
    rw [← Nat.min_eq_left (Nat.sub_le 4 front.length), ← List.take_take, same, List.take_take]
  rw [List.take_append, List.take_append, near]

/-- The matches in a buffer and those in the stream, as far as they are shorter than `n`. The buffer
holds the stream from `kept` on, `rest` is still to come. -/
theorem widthsAt_buffer {e : Expr} {seen rest : List UInt8} {kept pos n : Nat} (low : kept ≤ pos)
    (context : kept = 0 ∨ kept + 4 ≤ pos) (inside : pos ≤ seen.length)
    (fits : n ≤ seen.length - pos + 1)
    (settled : ∀ l ∈ e.looks, ∀ x y, seen.drop pos = x ++ y → x.length < n → l.Settled y rest) :
    (e.widthsAt (seen.drop kept) (pos - kept)).filter (· < n) =
      (e.widthsAt (seen ++ rest) pos).filter (· < n) := by
  have ahead : (seen.drop kept).drop (pos - kept) = seen.drop pos := by
    rw [List.drop_drop, Nat.add_sub_cancel' low]
  have behind : ((seen.drop kept).take (pos - kept)).reverse.take 4 =
      ((seen ++ rest).take pos).reverse.take 4 := by
    rw [List.take_append_of_le_length inside, ← List.drop_take, List.reverse_drop,
      List.length_take_of_le inside, List.take_take]
    rcases context with rfl | far
    · rw [Nat.sub_zero, ← List.take_take, List.take_of_length_le (i := pos) (by simp)]
    · rw [Nat.min_eq_left (by omega)]
  unfold Expr.widthsAt
  rw [ahead, List.drop_append_of_le_length inside]
  refine widths_local rest (fun l member x y split short => ?_) (by rw [List.length_drop]; exact fits)
  have own : l ∈ e.looks := by simpa [Thread.looks, Item.looks] using member
  rw [settled l own x y split short]
  exact holds_eq_of_take (take_append_congr behind _) _ l

end Triage.Regex
