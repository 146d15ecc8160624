import Triage.Regex.Run

/-!
A run finds what trying each start in turn finds: its answer is the match of the first thread that
leads to a finish, or else the first match from the position on.
-/

namespace Triage.Regex

/-- The match that a thread leads to, with its start. -/
def matchOf? (pos : Nat) (behind ahead : List UInt8) (t : Nat × Thread) : Option (Nat × Nat) :=
  (t.2.stop? pos behind ahead).map ((t.1, ·))

/-- The steps of threads lead where the first thread leads that leads anywhere. -/
theorem findSome?_nextsOf (holds : Look → Bool) (leads : Next → Option Nat)
    (threads : List (Nat × Thread)) :
    (nextsOf holds threads).findSome? (fun next => (leads next.2).map ((next.1, ·))) =
      threads.findSome? fun t => ((t.2.nexts holds).findSome? leads).map ((t.1, ·)) := by
  have tagged : ∀ (start : Nat) (nexts : List Next),
      (nexts.map ((start, ·))).findSome? (fun next => (leads next.2).map ((next.1, ·))) =
        (nexts.findSome? leads).map ((start, ·)) := by
    intro start nexts
    induction nexts with
    | nil => rfl
    | cons next nexts ih => cases h : leads next <;> simp [h, ih]
  induction threads with
  | nil => rfl
  | cons t threads ih =>
    rw [nextsOf, List.flatMap_cons, List.findSome?_append, tagged, List.findSome?_cons]
    cases (t.2.nexts holds).findSome? leads with
    | some x => rfl
    | none => exact ih

/-- The threads after a byte lead where the steps lead that they come from. -/
theorem findSome?_movedFrom (b : UInt8) (stop? : Thread → Option Nat) (nexts : List (Nat × Next))
    (seen : Std.HashSet Thread) (known : ∀ t, seen.contains t → stop? t = none) :
    (movedFrom b seen nexts).findSome? (fun t => (stop? t.2).map ((t.1, ·))) =
      nexts.findSome? fun next => ((next.2.advance? b).bind stop?).map ((next.1, ·)) := by
  induction nexts generalizing seen with
  | nil => rfl
  | cons next nexts ih =>
    rw [movedFrom, List.findSome?_cons]
    split
    · rename_i t ht
      rw [ht]
      split
      · rename_i old
        simpa [known t old] using ih seen known
      · simp only [List.findSome?_cons, Option.bind_some]
        cases hs : stop? t with
        | some x => rfl
        | none =>
          apply ih
          intro u hu
          rw [Std.HashSet.contains_insert, Bool.or_eq_true] at hu
          rcases hu with hu | hu
          · obtain rfl := eq_of_beq hu
            exact hs
          · exact known u hu
    · rename_i ht
      rw [ht]
      exact ih seen known

/-! ## Runs -/

/-- What a run comes to when its threads lead nowhere. -/
def otherwise? (e : Expr) (starts : Nat) (best : Option (Nat × Nat)) (pos : Nat)
    (behind ahead : List UInt8) : Option (Nat × Nat) :=
  best.or (if best.isNone then e.firstMatch? starts pos behind ahead else none)

/-- At the end of a text a thread leads to a match if it can finish. -/
theorem stop?_nil (t : Thread) (pos : Nat) (behind : List UInt8) :
    t.stop? pos behind [] =
      (t.nexts (Look.holds behind [])).findSome? fun next =>
        if next.isFinished then some pos else none := by
  rw [Thread.stop?]
  induction t.nexts (Look.holds behind []) with
  | nil => rfl
  | cons next nexts ih => cases h : next.isFinished <;> simp_all

theorem stop?_cons (t : Thread) (pos : Nat) (behind : List UInt8) (b : UInt8)
    (ahead : List UInt8) :
    t.stop? pos behind (b :: ahead) =
      (t.nexts (Look.holds behind (b :: ahead))).findSome? fun next =>
        if next.isFinished then some pos
        else (next.advance? b).bind fun moved => moved.stop? (pos + 1) (b :: behind) ahead := by
  rw [Thread.stop?]
  congr 1
  funext next
  cases next.advance? b <;> rfl

/-- The threads that start at the position lead to the first match if it starts there. -/
theorem otherwise?_eq (e : Expr) (starts : Nat) (best : Option (Nat × Nat)) (pos : Nat)
    (behind ahead : List UInt8) :
    otherwise? e starts best pos behind ahead =
      ((Expr.run.fresh e starts best pos).findSome? (matchOf? pos behind ahead)).or
        (match ahead with
          | [] => best
          | b :: ahead => otherwise? e (starts - 1) best (pos + 1) (b :: behind) ahead) := by
  cases best with
  | some m => cases ahead <;> simp [otherwise?, Expr.run.fresh]
  | none =>
    cases starts with
    | zero => cases ahead <;> simp [otherwise?, Expr.run.fresh, Expr.firstMatch?]
    | succ starts =>
      cases ahead with
      | nil =>
        cases hs : Thread.stop? [.expr e] pos behind [] <;>
          simp [otherwise?, Expr.run.fresh, Expr.firstMatch?, Expr.matchEnd?, matchOf?, hs]
      | cons b ahead =>
        cases hs : Thread.stop? [.expr e] pos behind (b :: ahead) <;>
          simp [otherwise?, Expr.run.fresh, Expr.firstMatch?, Expr.matchEnd?, matchOf?, hs]

theorem otherwise?_of_idle {e : Expr} {starts : Nat} {best : Option (Nat × Nat)} {pos : Nat}
    {behind ahead : List UInt8} (idle : best.isSome || starts ≤ 1) :
    otherwise? e (starts - 1) best pos behind ahead = best := by
  cases best with
  | some m => rfl
  | none =>
    obtain rfl | rfl : starts = 0 ∨ starts = 1 := by
      have : starts ≤ 1 := by simpa using idle
      omega
    all_goals rfl

/-- Steps lead to what those before the first that finishes lead to, or else to its match. -/
theorem findSome?_takeWhile (b : UInt8) (pos : Nat) (stop? : Thread → Option Nat)
    (nexts : List (Nat × Next)) :
    (nexts.findSome? fun next =>
        (if next.2.isFinished then some pos else (next.2.advance? b).bind stop?).map
          ((next.1, ·))) =
      ((nexts.takeWhile (!·.2.isFinished)).findSome? fun next =>
          ((next.2.advance? b).bind stop?).map ((next.1, ·))).or
        ((nexts.drop (nexts.takeWhile (!·.2.isFinished)).length).head?.map fun next =>
          (next.1, pos)) := by
  induction nexts with
  | nil => rfl
  | cons next nexts ih =>
    cases h : next.2.isFinished with
    | true => simp [h]
    | false =>
      rw [List.takeWhile_cons_of_pos (by simp [h]), List.findSome?_cons, List.findSome?_cons]
      cases (next.2.advance? b).bind stop? with
      | some x => simp [h]
      | none => simpa [h] using ih

theorem run_eq (e : Expr) (starts : Nat) (threads : List (Nat × Thread))
    (best : Option (Nat × Nat)) (pos : Nat) (behind ahead : List UInt8) :
    e.run starts threads best pos behind ahead =
      (threads.findSome? (matchOf? pos behind ahead)).or
        (otherwise? e starts best pos behind ahead) := by
  induction ahead generalizing starts threads best pos behind with
  | nil =>
    have found := findSome?_nextsOf (Look.holds behind [])
      (fun next => if next.isFinished then some pos else none)
      (threads ++ Expr.run.fresh e starts best pos)
    simp only [← stop?_nil] at found
    rw [otherwise?_eq, ← Option.or_assoc, ← List.findSome?_append, Expr.run]
    change _ = Option.or (List.findSome? (fun t => _) _) best
    simp only [matchOf?]
    rw [← found]
    induction nextsOf (Look.holds behind []) (threads ++ Expr.run.fresh e starts best pos) with
    | nil => rfl
    | cons next nexts ih => cases h : next.2.isFinished <;> simp_all
  | cons b ahead ih =>
    have found := findSome?_nextsOf (Look.holds behind (b :: ahead))
      (fun next =>
        if next.isFinished then some pos
        else (next.advance? b).bind fun moved => moved.stop? (pos + 1) (b :: behind) ahead)
      (threads ++ Expr.run.fresh e starts best pos)
    simp only [← stop?_cons] at found
    rw [otherwise?_eq, ← Option.or_assoc, ← List.findSome?_append]
    change _ = Option.or (List.findSome? (fun t => Option.map _ _) _) _
    rw [← found, Expr.run]
    generalize nextsOf (Look.holds behind (b :: ahead))
      (threads ++ Expr.run.fresh e starts best pos) = nexts
    have moves := findSome?_movedFrom b (fun t => t.stop? (pos + 1) (b :: behind) ahead)
      (nexts.takeWhile (!·.2.isFinished)) {} (by simp)
    rw [findSome?_takeWhile, ← moves]
    generalize movedFrom b {} (nexts.takeWhile (!·.2.isFinished)) = moved
    cases nexts.drop (nexts.takeWhile (!·.2.isFinished)).length with
    | nil =>
      simp only [List.head?_nil, Option.map_none, Option.or_none]
      split
      · rename_i idle
        rw [Bool.and_eq_true, List.isEmpty_iff] at idle
        rw [idle.1, List.findSome?_nil, Option.none_or]
        exact (otherwise?_of_idle idle.2).symm
      · exact ih ..
    | cons next later =>
      simp only [List.head?_cons, Option.map_some, Option.or_assoc, Option.some_or]
      split
      · rename_i idle
        rw [Bool.and_eq_true, List.isEmpty_iff] at idle
        rw [idle.1, List.findSome?_nil, Option.none_or]
      · rw [ih]
        rfl

/-- A search tries the starts up to its limit. -/
theorem findBetween?_eq (e : Expr) (text : List UInt8) (pos limit : Nat) :
    e.findBetween? text pos limit =
      e.firstMatch? (limit - pos) pos (text.take pos).reverse (text.drop pos) := by
  rw [Expr.findBetween?, run_eq]
  rfl

end Triage.Regex
