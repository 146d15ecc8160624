import Triage.Proofs.Regex.Following
import Triage.Proofs.Regex.Preference
import Triage.Regex.Parser

/-! Widening keeps what is matched. An expression that is read in Unicode mode matches somewhere in a text of
characters of the basic plane if its widened form does in the code units. It ends at the same character if
none of the alternations that are built again has factors of more than one length to take out. -/

namespace Triage.Regex
open scoped Computability

/-! ## Texts in UTF-8 -/

variable {e h : Expr} {order : Utf16.Order} {parts : List Expr}

/-- Text is read by its characters. -/
theorem follows_utf8 (textual : e.Textual) (tame : e.Tame) :
    e.byteWays.Follows utf8 (fun _ => True) (e.ways (Expr.texts fun _ => True)) := by
  have separating := separating_utf8
  -- a literal or a class leaves no choice, and its words are its texts
  have leaf {e : Expr} (textual : e.Textual) (tame : e.Tame) (single : e.byteWays.Single) :
      e.byteWays.Follows utf8 (fun _ => True) (.ofLanguage (e.texts fun _ => True)) :=
    Ways.follows_of_single separating single (fun _ _ => Iff.rfl)
      (fun text n => language_eq_codedBy textual ▸ mem_byteWays tame)
  induction e with
  | empty => exact Ways.follows_one
  | look l => exact tame.1.elim
  | literal bytes => exact leaf textual tame (single_of_length tame fun w same => congrArg List.length same)
  | byteClass set =>
    refine leaf textual tame (single_of_length (n := 1) tame fun w found => ?_)
    obtain ⟨b, rfl, _⟩ := found
    rfl
  | charClass set => exact leaf textual tame (Ways.single_ofLanguage (prefixFree_charWords set))
  | repetition least most greedy body ih =>
    exact (ih textual.2 tame.2).repeated separating.written greedy least most
  | group index body ih => exact ih textual tame
  | seq a b iha ihb => exact (iha textual.1 tame.1).mul (ihb textual.2 tame.2)
  | alt a b iha ihb => exact (iha textual.1 tame.1).add (ihb textual.2 tame.2)

/-! ## Texts in UTF-16 -/

/-- Text whose loops read something in each round is widened to such an expression. -/
theorem tame_widens (order : Utf16.Order) :
    WidensTo order (fun e => (e.WellMade (fun _ => False) ∧ e.Consumes) ∧ e.IsText)
      fun e => e.WellMade (fun _ => False) ∧ e.Consumes where
  closed := closed_tame
  literal _ := ⟨trivial, trivial⟩
  widenSet set := by
    have rows (row : Nat × Nat) : (rowExpr order row).Tame := by
      have low : (Expr.ofByteSet (RangeSet.ofList [(row.1 % 256, row.2 % 256)])).Tame :=
        (formed_ofByteSet _).and (consumes_ofByteSet _)
      have high : (Expr.literal [(row.1 / 256).toUInt8]).Tame := ⟨trivial, trivial⟩
      cases order with
      | little => exact each_concat closed_tame (allEach_cons.mpr ⟨low, allEach_single.mpr high⟩)
      | big => exact each_concat closed_tame (allEach_cons.mpr ⟨high, allEach_single.mpr low⟩)
    refine each_alternation closed_tame fun e member => ?_
    obtain ⟨row, _, rfl⟩ := List.mem_map.mp member
    exact rows row
  look allowed := allowed.1
  counts {least most greedy body parts} atom each widened := by
    refine ⟨atom.1.1, ?_⟩
    cases most with
    | some most => trivial
    | none =>
      have textual : body.Textual := each.imp fun _ both => both.2
      have formed : body.Formed fun _ => False := each.imp fun _ both => both.1.1
      have once : [] ∉ body.language := atom.1.2
      rw [language_eq_codedBy textual, nil_mem_codedBy separating_utf8.written,
        ← agreeOn_texts Basic body [] (by simp)] at once
      rwa [Expr.Consumes, language_gather formed textual widened,
        nil_mem_codedBy (separating_utf16 order).written]

theorem tame_widenParts (textual : e.Textual) (tame : e.Tame) (widened : e.widenParts order = .ok parts) :
    ∀ part ∈ parts, part.Tame := each_widenParts (tame_widens order) (tame.and textual) widened

/-- How the parts of an expression read together. -/
noncomputable def Expr.joined (e : Expr) (parts : List Expr) : Ways UInt8 :=
  match e with
  | .alt _ _ => (parts.map Expr.byteWays).sum
  | _ => (parts.map Expr.byteWays).prod

/-- The alternations in an expression. The last branch of one that is `chained` carries on with it. -/
def Expr.choices (chained : Bool) : Expr → List Expr
  | .alt a b => (if chained then [] else [.alt a b]) ++ (a.choices false ++ b.choices true)
  | .seq a b => a.choices false ++ b.choices false
  | .repetition _ _ _ body => body.choices false
  | .group _ body => body.choices false
  | _ => []

/-- The factors that all widened branches of an alternation begin with, which are taken out, have one length
each. -/
def Expr.SharesOneLength (order : Utf16.Order) (e : Expr) : Prop :=
  ∀ parts, e.widenParts order = .ok parts →
    ∀ f ∈ Expr.sharedFactors (parts.flatMap Expr.branches), f.OneLength

/-- Widened parts, put together, read as they do one by one. -/
theorem alike_gather (tame : ∀ part ∈ parts, part.Tame) (widened : e.widenParts order = .ok parts)
    (fixed : ∀ c ∈ e.choices false, c.SharesOneLength order) :
    (Expr.widenParts.gather e parts).byteWays.Alike (e.joined parts) := by
  cases e with
  | alt a b => exact alike_alternation tame (fixed _ List.mem_cons_self parts widened)
  | _ => exact alike_concat parts

theorem joined_single {part : Expr} (plain : ∀ a b, e ≠ .alt a b) : e.joined [part] = part.byteWays := by
  cases e with
  | alt a b => exact absurd rfl (plain a b)
  | _ => exact List.prod_singleton

theorem joined_seq_pair (a b first second : Expr) :
    (Expr.seq a b).joined [first, second] = first.byteWays * second.byteWays :=
  congrArg (first.byteWays * ·) (mul_one second.byteWays)

theorem joined_alt_pair (a b first second : Expr) :
    (Expr.alt a b).joined [first, second] = first.byteWays + second.byteWays :=
  congrArg (first.byteWays + ·) (add_zero second.byteWays)

/-- A class of code units leaves no choice. -/
theorem follows_widenSet (order : Utf16.Order) (set : RangeSet) (tame : (widenSet order set).Tame) :
    (widenSet order set).byteWays.Follows (utf16 order) Basic (.ofLanguage (charTexts (fun _ => True) set)) := by
  have agree := agreeOn_texts Basic (.charClass set)
  refine Ways.follows_of_single (separating_utf16 order) (single_of_length (n := 2) tame fun w found => ?_) agree
    fun text n => language_widenSet order set ▸ mem_byteWays tame
  rw [language_widenSet] at found
  obtain ⟨_, ⟨c, rfl, basic, _⟩, rfl⟩ := found
  have single : ∀ d ∈ [c], Basic d := fun d member => List.mem_singleton.mp member ▸ basic
  exact length_utf16 single

theorem follows_gather (textual : e.Textual) (tame : e.Tame) (fixed : ∀ c ∈ e.choices false, c.SharesOneLength order)
    (widened : e.widenParts order = .ok parts)
    (joined : (e.joined parts).Follows (utf16 order) Basic (e.ways (Expr.texts fun _ => True))) :
    (Expr.widenParts.gather e parts).byteWays.Follows (utf16 order) Basic
      (e.ways (Expr.texts fun _ => True)) :=
  joined.of_alike (alike_gather (tame_widenParts textual tame widened) widened fixed)

theorem choices_of_ne_alt {chained : Bool} (plain : ∀ a b, e ≠ .alt a b) : e.choices chained = e.choices false := by
  cases e with
  | alt a b => exact absurd rfl (plain a b)
  | _ => rfl

/-- Widened text is read by its characters, and in the order in which the text is. -/
theorem follows_joined {chained : Bool} (textual : e.Textual) (tame : e.Tame)
    (fixed : ∀ c ∈ e.choices chained, c.SharesOneLength order) (widened : e.widenParts order = .ok parts) :
    (e.joined parts).Follows (utf16 order) Basic (e.ways (Expr.texts fun _ => True)) := by
  have separating := separating_utf16 order
  induction e generalizing chained parts with
  | empty =>
    obtain rfl := Except.ok.inj widened
    exact Ways.follows_one
  | look l => exact tame.1.elim
  | literal bytes =>
    have small := tame_widenParts textual tame widened
    have spelled := language_gather (formed_of_tame tame) textual widened
    have agree := agreeOn_texts Basic (.literal bytes)
    obtain ⟨text, rfl⟩ := textual
    rw [Expr.widenParts, Utf8.decode?_encode] at widened
    obtain rfl := Except.ok.inj widened
    obtain ⟨literal, _⟩ := List.forall_mem_cons.mp small
    rw [joined_single (by simp)]
    refine Ways.follows_of_single separating (single_of_length literal fun w same => congrArg List.length same) agree
      fun text n => ?_
    exact spelled.symm.trans (language_concat_single _) ▸ mem_byteWays literal
  | byteClass set | charClass set =>
    have small := tame_widenParts textual tame widened
    obtain rfl := Except.ok.inj widened
    rw [joined_single (by simp)]
    exact follows_widenSet order set (small _ List.mem_cons_self)
  | repetition least most greedy body ih =>
    obtain ⟨inner, narrow, widened⟩ := bind_eq_ok.mp widened
    obtain rfl := Except.ok.inj widened
    have round := follows_gather textual.2 tame.2 fixed narrow (ih textual.2 tame.2 fixed narrow)
    have counts := (tame_widens order).counts ⟨tame.1, textual.1⟩ (tame.2.and textual.2) narrow
    have built := each_gather closed_tame body (tame_widenParts textual.2 tame.2 narrow)
    rw [joined_single (by simp)]
    exact (round.repeated separating.written greedy least most).of_alike (alike_repeated ⟨counts, built⟩)
  | group index body ih =>
    obtain ⟨inner, narrow, widened⟩ := bind_eq_ok.mp widened
    obtain rfl := Except.ok.inj widened
    rw [joined_single (by simp)]
    exact follows_gather (e := body) textual tame fixed narrow (ih textual tame fixed narrow)
  | seq a b iha ihb =>
    obtain ⟨fixedA, fixedB⟩ := List.forall_mem_append.mp fixed
    obtain ⟨first, narrow, widened⟩ := bind_eq_ok.mp widened
    have start := follows_gather textual.1 tame.1 fixedA narrow (iha textual.1 tame.1 fixedA narrow)
    split at widened
    all_goals
      obtain ⟨rest, behind, widened⟩ := bind_eq_ok.mp widened
      obtain rfl := Except.ok.inj widened
      have later := ihb textual.2 tame.2 fixedB behind
    · exact start.mul later
    · rw [joined_seq_pair]
      exact start.mul (follows_gather textual.2 tame.2 fixedB behind later)
  | alt a b iha ihb =>
    obtain ⟨_, branches⟩ := List.forall_mem_append.mp fixed
    obtain ⟨fixedA, fixedB⟩ := List.forall_mem_append.mp branches
    obtain ⟨first, narrow, widened⟩ := bind_eq_ok.mp widened
    have start := follows_gather textual.1 tame.1 fixedA narrow (iha textual.1 tame.1 fixedA narrow)
    split at widened
    case h_1 =>
      obtain ⟨rest, behind, widened⟩ := bind_eq_ok.mp widened
      obtain rfl := Except.ok.inj widened
      exact start.add (ihb textual.2 tame.2 fixedB behind)
    case h_2 last =>
      obtain ⟨rest, behind, widened⟩ := bind_eq_ok.mp widened
      obtain rfl := Except.ok.inj widened
      rw [choices_of_ne_alt last] at fixedB
      have later := follows_gather textual.2 tame.2 fixedB behind (ihb textual.2 tame.2 fixedB behind)
      rw [joined_alt_pair]
      exact start.add later

/-! ## Where matches end -/

section ends
variable {code : Coding} {counts : Char → Prop} {text : List Char} {i : Nat}

theorem endAt?_eq_head? (tame : e.Tame) {text : List UInt8} {pos : Nat} (inside : pos ≤ text.length) :
    e.endAt? text pos = (e.byteWays (text.drop pos)).head?.map (pos + ·) := by
  have steady := steady_of_tame tame
  have plain : Thread.looks [.expr e] = [] := (looks_singleton _).trans steady.2
  rw [Expr.endAt?, if_pos inside, Expr.widthsAt, widths_behind plain _ [], ← (alike_reads steady).head?]
  rfl

/-- Coded text is matched up to the character up to which the text itself is read first. -/
theorem endAt?_of_follows (tame : e.Tame) {chars : Ways Char} (follows : e.byteWays.Follows code counts chars)
    (count : ∀ c ∈ text, counts c) :
    e.endAt? (text.flatMap code) (codedLength code text i) =
      (chars (text.drop i)).head?.map fun n => codedLength code text (i + n) := by
  have first (l : List Nat) : l.head? = l.findSome? some := by cases l <;> rfl
  have later : ∀ c ∈ text.drop i, counts c := fun c member => count c (List.mem_of_mem_drop member)
  have coded := follows.first later some
  have places (l : List Nat) (f : Nat → Nat) : (l.findSome? fun n => some (f n)) = l.head?.map f := by
    cases l <;> rfl
  rw [endAt?_eq_head? tame (codedLength_le i), drop_coded, first, coded, places, Option.map_map]
  simp only [Function.comp_def, codedLength_add]

/-- Coded text is matched somewhere if the text goes on with one that is spelled. -/
theorem isSome_endAt?_coded (separating : Separating code counts) (plain : e.looks = []) {texts : Language Char}
    (spelled : e.language = codedBy code texts) (count : ∀ c ∈ text, counts c) :
    (e.endAt? (text.flatMap code) (codedLength code text i)).isSome ↔
      ∃ n ≤ (text.drop i).length, (text.drop i).take n ∈ texts := by
  rw [isSome_endAt?_iff plain (codedLength_le i), ← List.length_drop, drop_coded, spelled]
  have later : ∀ c ∈ text.drop i, counts c := fun c member => count c (List.mem_of_mem_drop member)
  simp only [take_mem_codedBy separating later]
  constructor
  · intro found
    obtain ⟨_, k, fits, _, member⟩ := found
    exact ⟨k, fits, member⟩
  · intro found
    obtain ⟨k, fits, member⟩ := found
    exact ⟨_, k, fits, rfl, member⟩

theorem codedLength_utf16 (order : Utf16.Order) (basic : ∀ c ∈ text, Basic c) (inside : i ≤ text.length) :
    codedLength (utf16 order) text i = 2 * i := by
  rw [codedLength, length_utf16 fun c member => basic c (List.mem_of_mem_take member),
    List.length_take_of_le inside]

end ends

/-! ## Widened matches -/

section widened
variable {wide : Expr} {text : List Char} {i : Nat}

/-- The words of a widened expression are its texts in code units. -/
theorem language_widen (formed : h.Formed fun _ => False) (textual : h.Textual) (widened : h.widen order = .ok wide) :
    wide.language = codedBy (utf16 order) (h.texts Basic) := by
  obtain ⟨parts, narrow, widened⟩ := bind_eq_ok.mp widened
  obtain rfl := Except.ok.inj widened
  exact language_gather formed textual narrow

theorem looks_widen (formed : h.Formed fun _ => False) (widened : h.widen order = .ok wide) : wide.looks = [] :=
  List.eq_nil_iff_forall_not_mem.mpr fun l member =>
    ((formed_iff_looks wide).mp (each_widen (wellMade_widens order) formed widened)).2 l member

/-- The widened expression matches somewhere if the expression does. -/
theorem isSome_endAt?_widen (formed : h.Formed fun _ => False) (textual : h.Textual)
    (widened : h.widen order = .ok wide) (basic : ∀ c ∈ text, Basic c) (inside : i ≤ text.length) :
    (wide.endAt? (Utf16.encode order text) (2 * i)).isSome ↔
      (h.endAt? (Utf8.encode text) (codedLength utf8 text i)).isSome := by
  have plain : h.looks = [] := List.eq_nil_iff_forall_not_mem.mpr ((formed_iff_looks h).mp formed).2
  rw [encode_utf16, encode_utf8, ← codedLength_utf16 order basic inside,
    isSome_endAt?_coded separating_utf8 plain (language_eq_codedBy textual) fun _ _ => trivial,
    isSome_endAt?_coded (separating_utf16 order) (looks_widen formed widened) (language_widen formed textual widened)
      basic]
  refine exists_congr fun n => and_congr_right fun _ => agreeOn_texts Basic h _ fun c member => ?_
  exact basic c (List.mem_of_mem_drop (List.mem_of_mem_take member))

/-- It ends behind a character, and what it has matched is a word of the expression. -/
theorem endAt?_widen_spec (formed : h.Formed fun _ => False) (textual : h.Textual)
    (widened : h.widen order = .ok wide) (basic : ∀ c ∈ text, Basic c) (inside : i ≤ text.length) {stop : Nat}
    (found : wide.endAt? (Utf16.encode order text) (2 * i) = some stop) :
    ∃ j, i ≤ j ∧ j ≤ text.length ∧ stop = 2 * j ∧ Utf8.encode ((text.drop i).take (j - i)) ∈ h.language := by
  have later : ∀ c ∈ text.drop i, Basic c := fun c member => basic c (List.mem_of_mem_drop member)
  rw [encode_utf16] at found
  obtain ⟨low, high, word⟩ := endAt?_spec found
  rw [← codedLength_utf16 order basic inside, drop_coded, language_widen formed textual widened,
    codedLength_utf16 order basic inside] at word
  have fits : stop - 2 * i ≤ ((text.drop i).flatMap (utf16 order)).length := by
    rw [length_utf16 basic] at high
    rw [length_utf16 later, List.length_drop]
    omega
  obtain ⟨k, room, length, member⟩ := (take_mem_codedBy (separating_utf16 order) later).mp ⟨fits, word⟩
  rw [codedLength_utf16 order later room] at length
  rw [List.length_drop] at room
  refine ⟨i + k, by omega, by omega, by omega, ?_⟩
  rw [language_eq_codedBy textual, Nat.add_sub_cancel_left]
  have same := agreeOn_texts Basic h ((text.drop i).take k) fun c member => later c (List.mem_of_mem_take member)
  exact ⟨_, same.mp member, rfl⟩

/-- It ends where the expression does. -/
theorem endAt?_widen_iff (textual : h.Textual) (tame : h.Tame)
    (fixed : ∀ c ∈ h.choices false, c.SharesOneLength order) (widened : h.widen order = .ok wide)
    (basic : ∀ c ∈ text, Basic c) (inside : i ≤ text.length) {j : Nat} (inside' : j ≤ text.length) :
    h.endAt? (Utf8.encode text) (codedLength utf8 text i) = some (codedLength utf8 text j) ↔
      wide.endAt? (Utf16.encode order text) (2 * i) = some (2 * j) := by
  obtain ⟨parts, narrow, widened⟩ := bind_eq_ok.mp widened
  obtain rfl := Except.ok.inj widened
  have built := each_gather closed_tame h (tame_widenParts textual tame narrow)
  have chars := follows_utf8 textual tame
  have units := follows_gather textual tame fixed narrow (follows_joined textual tame fixed narrow)
  rw [encode_utf16, encode_utf8, endAt?_of_follows tame chars fun _ _ => trivial,
    ← codedLength_utf16 order basic inside, ← codedLength_utf16 order basic inside',
    endAt?_of_follows built units basic, Option.map_eq_some_iff, Option.map_eq_some_iff]
  -- both take the way that comes first through the characters
  refine exists_congr fun n => and_congr_right fun first => ?_
  have room := chars.inside (List.mem_of_mem_head? first)
  rw [List.length_drop] at room
  have inside'' : i + n ≤ text.length := by omega
  exact ⟨fun same => congrArg _ (codedLength_inj separating_utf8.written inside'' inside' same),
    fun same => congrArg _ (codedLength_inj (separating_utf16 order).written inside'' inside' same)⟩

end widened

/-- What is read in Unicode mode, without conditions, can be widened. Its classes are covered once, and in a
text of the basic plane it matches from a character on in code units if it does in UTF-8. Where it has no
empty rounds without bound, and where what its alternations share has one length, it ends at the same
character too. -/
theorem widen_keeps_matches {flags after : Flags} {tree : Syntax} (order : Utf16.Order)
    (unicode : flags.unicode = true) (keeps : ∀ change ∈ tree.changes, change.KeepsUnicode)
    (read : tree.elaborate? flags = some (h, after)) (plain : h.looks = []) :
    ∃ wide, h.widen order = .ok wide ∧ (∀ set, CoversOnce order set (basicRows set)) ∧
      ∀ text, (∀ c ∈ text, Basic c) → ∀ i ≤ text.length,
        ((wide.endAt? (Utf16.encode order text) (2 * i)).isSome ↔
          (h.endAt? (Utf8.encode text) (codedLength utf8 text i)).isSome) ∧
        (∀ stop, wide.endAt? (Utf16.encode order text) (2 * i) = some stop →
          ∃ j, i ≤ j ∧ j ≤ text.length ∧ stop = 2 * j ∧ Utf8.encode ((text.drop i).take (j - i)) ∈ h.language) ∧
        (h.Each Expr.Consumes → (∀ c ∈ h.choices false, c.SharesOneLength order) → ∀ j ≤ text.length,
          h.endAt? (Utf8.encode text) (codedLength utf8 text i) = some (codedLength utf8 text j) ↔
            wide.endAt? (Utf16.encode order text) (2 * i) = some (2 * j)) := by
  have textual := textual_elaborate? unicode keeps read
  have formed : h.Formed fun _ => False :=
    (formed_iff_looks h).mpr ⟨formed_elaborate? read, fun l member => by simp [plain] at member⟩
  obtain ⟨parts, narrow⟩ := widenParts_of_textual order textual
  have widened : h.widen order = .ok (Expr.widenParts.gather h parts) := by
    rw [Expr.widen, narrow]
    rfl
  refine ⟨_, widened, coversOnce_basicRows order, fun text basic i inside => ⟨?_, fun stop found => ?_, ?_⟩⟩
  · exact isSome_endAt?_widen formed textual widened basic inside
  · exact endAt?_widen_spec formed textual widened basic inside found
  · intro consumes fixed j inside'
    exact endAt?_widen_iff textual (formed.and consumes) fixed widened basic inside inside'

/-- What `(xa+?)|(xb?)` shares is one character. -/
theorem widen_keeps_matches_shared :
    ∃ tree h after wide, parse? "(xa+?)|(xb?)".toList = some tree ∧
      (∀ change ∈ tree.changes, change.KeepsUnicode) ∧ tree.elaborate? {} = some (h, after) ∧ h.looks = [] ∧
      h.widen .big = .ok wide ∧ h.endAt? (Utf8.encode "éxaa".toList) 2 = some 4 ∧
      wide.endAt? (Utf16.encode .big "éxaa".toList) 2 = some 6 := by
  let tree : Syntax := (parse? "(xa+?)|(xb?)".toList).getD .empty
  let x : Expr := .literal [120]
  let wideX : Expr := .literal [0, 120]
  let first : Expr := .group 1 (.seq x (.repetition 1 none false (.literal [97])))
  let second : Expr := .group 2 (.seq x (.repetition 0 (some 1) true (.literal [98])))
  have parsed : parse? "(xa+?)|(xb?)".toList = some tree := rfl
  have read : tree.elaborate? {} = some (.alt first second, {}) := by decide +kernel
  have keeps : ∀ change ∈ tree.changes, change.KeepsUnicode := by decide +kernel
  obtain ⟨wide, widened, _, matched⟩ := widen_keeps_matches .big rfl keeps read rfl
  have here : (Expr.alt first second).endAt? (Utf8.encode "éxaa".toList) 2 = some 4 := by decide +kernel
  have consumes : (Expr.alt first second).Each Expr.Consumes :=
    ⟨⟨trivial, fun empty => List.cons_ne_nil 97 [] empty.symm, trivial⟩, trivial, trivial, trivial⟩
  have fixed : ∀ c ∈ (Expr.alt first second).choices false, c.SharesOneLength .big := by
    intro c member parts narrow f shared
    obtain rfl : c = .alt first second := List.mem_singleton.mp member
    have parts' : (Expr.alt first second).widenParts .big = .ok
        [.seq wideX (.repetition 1 none false (.literal [0, 97])),
          .seq wideX (.repetition 0 (some 1) true (.literal [0, 98]))] := by decide +kernel
    obtain rfl := Except.ok.inj (parts'.symm.trans narrow)
    obtain rfl : f = wideX := List.mem_singleton.mp shared
    exact ⟨2, fun w same => congrArg List.length same⟩
  have basic : ∀ c ∈ "éxaa".toList, Basic c := by simp [Basic]
  have there := ((matched "éxaa".toList basic 1 (by decide)).2.2 consumes fixed 3 (by decide)).mp here
  exact ⟨tree, _, _, wide, parsed, keeps, read, rfl, widened, here, there⟩

/-- In `(a|ab)c|(a|ab)bcd` both branches begin with the same choice once it is no group any more, so it is made
before that of a branch: all four characters are matched and not three. -/
theorem widen_moves_match :
    ∃ tree h after wide, parse? "(a|ab)c|(a|ab)bcd".toList = some tree ∧
      (∀ change ∈ tree.changes, change.KeepsUnicode) ∧ tree.elaborate? {} = some (h, after) ∧ h.looks = [] ∧
      h.widen .little = .ok wide ∧ h.endAt? (Utf8.encode "abcd".toList) 0 = some 3 ∧
      wide.endAt? (Utf16.encode .little "abcd".toList) 0 = some 8 := by
  let choice : Expr := .alt (.literal [97]) (.literal [97, 98])
  let first : Expr := .seq (.group 1 choice) (.literal [99])
  let second : Expr := .seq (.group 2 choice) (.literal [98, 99, 100])
  let wideChoice : Expr := .alt (.literal [97, 0]) (.literal [97, 0, 98, 0])
  let wide : Expr := .seq wideChoice (.alt (.literal [99, 0]) (.literal [98, 0, 99, 0, 100, 0]))
  exact ⟨(parse? "(a|ab)c|(a|ab)bcd".toList).getD .empty, .alt first second, {}, wide, rfl, by decide +kernel,
    by decide +kernel, rfl, by decide +kernel, by decide +kernel, by decide +kernel⟩

end Triage.Regex
