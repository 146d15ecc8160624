import Triage.Proofs.Regex.Nullable

/-! Every word of an expression is read where it stands, as long as no condition speaks against it. A way
that is cut because it comes to an open item is not lost: it is one of the ways of that item. -/

namespace Triage.Regex
open scoped Computability

/-- A step leads to the word. -/
def Leads (nexts : List Next) (w : List UInt8) : Prop := ∃ next ∈ nexts, w ∈ next.language

section leads
variable {nexts more : List Next} {w x y : List UInt8}

theorem Leads.left (leads : Leads nexts w) : Leads (nexts ++ more) w := by
  obtain ⟨next, member, word⟩ := leads
  exact ⟨next, List.mem_append_left _ member, word⟩

theorem Leads.right (leads : Leads more w) : Leads (nexts ++ more) w := by
  obtain ⟨next, member, word⟩ := leads
  exact ⟨next, List.mem_append_right _ member, word⟩

theorem Leads.orStop (leads : Leads nexts w) (greedy : Bool) : Leads (Next.orStop greedy nexts) w := by
  cases greedy
  · have later : Leads ([.finished] ++ nexts) w := leads.right
    exact later
  · exact leads.left

theorem leads_single {next : Next} (word : w ∈ next.language) : Leads [next] w :=
  ⟨next, List.mem_cons_self, word⟩

/-- The empty word is read by finishing. -/
theorem leads_nil : Leads nexts [] ↔ .finished ∈ nexts := by
  constructor
  · intro leads
    obtain ⟨next, member, word⟩ := leads
    cases next with
    | finished => exact member
    | take demand rest =>
      obtain ⟨u, ⟨b, own, v, rfl, _⟩, z, _, split⟩ := word
      nomatch split
  · exact fun member => ⟨.finished, member, Language.nil_mem_one⟩

theorem Leads.reads {behind : Unit → List Next} {rest : Thread} (leads : Leads nexts x) (some : x ≠ [])
    (later : y ∈ Thread.language rest) : Leads (Next.andThen nexts behind rest) (x ++ y) := by
  obtain ⟨next, member, word⟩ := leads
  cases next with
  | finished => exact absurd word some
  | take demand own =>
    refine ⟨.take demand (own ++ rest), List.mem_flatMap.mpr ⟨_, member, List.mem_cons_self⟩, ?_⟩
    rw [Next.language, Thread.language_append, ← mul_assoc]
    exact Language.append_mem_mul word later

theorem Leads.passes {behind : Unit → List Next} {rest : Thread} (finished : .finished ∈ nexts)
    (leads : Leads (behind ()) w) : Leads (Next.andThen nexts behind rest) w := by
  obtain ⟨next, member, word⟩ := leads
  exact ⟨next, List.mem_flatMap.mpr ⟨_, finished, member⟩, word⟩

end leads

/-! ## Open items -/

/-- The words that are read from one of the open items on to the last of them. -/
def openWords : Thread → Language UInt8
  | [] => 0
  | item :: opened => (item.language - 1) + openWords opened * item.language

/-- A word that the steps lead to, or that an open item reads in its turn. -/
def Reaches (opened : Thread) (nexts : List Next) (w : List UInt8) : Prop :=
  Leads nexts w ∨ w ∈ openWords opened

section opened
variable {opened : Thread} {item : Item} {x y w : List UInt8}

theorem mem_openWords_of_isOpen (isOpen : item.isOpen opened) (member : w ∈ item.language) (some : w ≠ []) :
    w ∈ openWords opened := by
  obtain ⟨rest, rfl⟩ := List.head?_eq_some_iff.mp (of_decide_eq_true isOpen)
  exact .inl ⟨member, some⟩

theorem mem_openWords_of_openIn (member : x ∈ openWords (item.openIn opened)) (later : y ∈ item.language) :
    x ++ y ∈ openWords opened := by
  unfold Item.openIn at member
  split at member
  · rename_i isOpen
    obtain ⟨rest, rfl⟩ := List.head?_eq_some_iff.mp (of_decide_eq_true isOpen)
    exact .inr (Language.append_mem_mul member later)
  · exact absurd member (Language.notMem_zero x)

/-- The first part of what is read by a part and an item behind it is not empty. -/
theorem reaches_reads (body : Thread → List Next) (behind : Unit → List Next)
    (reaches : Reaches (item.openIn opened) (body (item.openIn opened)) x) (some : x ≠ [])
    (later : y ∈ item.language) :
    Reaches opened (Next.andThen (body (item.openIn opened)) behind [item]) (x ++ y) := by
  rcases reaches with leads | reads
  · exact .inl (leads.reads some (by rwa [Thread.language_singleton]))
  · exact .inr (mem_openWords_of_openIn reads later)

/-- The first part is empty. -/
theorem reaches_passes (body : Thread → List Next) (behind : Unit → List Next)
    (finishes : .finished ∈ body []) (member : w ∈ item.language) (some : w ≠ [])
    (later : ¬item.isOpen opened → Reaches opened (behind ()) w) :
    Reaches opened (Next.andThen (body (item.openIn opened)) behind [item]) w := by
  by_cases isOpen : item.isOpen opened
  · exact .inr (mem_openWords_of_isOpen isOpen member some)
  · rw [Item.openIn, if_neg isOpen]
    exact (later isOpen).imp_left (Leads.passes finishes)

end opened

/-! ## Repetitions -/

section words
variable {words : Language UInt8} {w : List UInt8}

/-- What is read in rounds has a first round that is not empty. -/
theorem exists_round_of_kstar (member : w ∈ words∗) (some : w ≠ []) :
    ∃ x ∈ words, x ≠ [] ∧ ∃ y ∈ words∗, w = x ++ y := by
  obtain ⟨rounds, rfl, each⟩ := Language.mem_kstar_iff_exists_nonempty.mp member
  cases rounds with
  | nil => exact absurd rfl some
  | cons x rounds =>
    obtain ⟨first, others⟩ := List.forall_mem_cons.mp each
    exact ⟨x, first.1, first.2, rounds.flatten, Language.join_mem_kstar fun y inside => (others y inside).1, rfl⟩

theorem exists_round_of_pow {most : Nat} (member : w ∈ (1 + words) ^ most) (some : w ≠ []) :
    ∃ m, most = m + 1 ∧ ∃ x ∈ words, x ≠ [] ∧ ∃ y ∈ (1 + words) ^ m, w = x ++ y := by
  induction most generalizing w with
  | zero => exact absurd member some
  | succ m ih =>
    rw [pow_succ'] at member
    obtain ⟨x, inside, y, later, rfl⟩ := member
    by_cases empty : x = []
    · subst empty
      obtain ⟨m, rfl, u, first, large, v, after, rfl⟩ := ih later some
      have le : (1 + words) ^ m ≤ (1 + words) ^ (m + 1) := by
        rw [pow_succ']
        exact le_mul_of_one_le_left' le_self_add
      exact ⟨m + 1, rfl, u, first, large, v, le after, rfl⟩
    · exact ⟨m, rfl, x, inside.resolve_left empty, empty, y, later, rfl⟩

end words

/-- The rounds of a repetition lead to all words of its body, each followed by what the item behind the
round reads. -/
structure Rounds.Complete (opened : Thread) (r : Rounds) : Prop where
  reads : ∀ (item : Item) (behind : Unit → List Next) (x y : List UInt8), x ∈ r.body.language → x ≠ [] →
    y ∈ item.language → Reaches opened (r.round item behind) (x ++ y)
  passes : ∀ (item : Item) (behind : Unit → List Next) (w : List UInt8), [] ∈ r.body.language →
    w ∈ item.language → w ≠ [] → Reaches opened (behind ()) w → Reaches opened (r.round item behind) w

section rounds
variable {opened : Thread} {r : Rounds} {w : List UInt8}

theorem Rounds.Complete.oneOrMore (complete : r.Complete opened) (member : w ∈ r.body.language∗)
    (some : w ≠ []) : Reaches opened r.oneOrMore w := by
  obtain ⟨x, inside, large, y, later, rfl⟩ := exists_round_of_kstar member some
  exact complete.reads _ _ x y inside large later

theorem Rounds.Complete.atLeast (complete : r.Complete opened) (least : Nat)
    (member : w ∈ r.body.language ^ least * r.body.language∗) (some : w ≠ []) :
    Reaches opened (r.atLeast least) w := by
  induction least generalizing w with
  | zero =>
    rw [pow_zero, one_mul] at member
    exact (complete.oneOrMore member some).imp_left fun leads => leads.orStop r.greedy
  | succ n ih =>
    cases n with
    | zero =>
      rw [pow_one] at member
      have rounds : w ∈ r.body.language∗ := (mul_kstar_le_kstar : r.body.language * _ ≤ _) member
      exact complete.oneOrMore rounds some
    | succ n =>
      rw [pow_succ', mul_assoc] at member
      obtain ⟨x, inside, y, later, rfl⟩ := member
      by_cases empty : x = []
      · subst empty
        exact complete.passes _ _ y inside later some (ih later some)
      · exact complete.reads _ _ x y inside empty later

theorem Rounds.Complete.atMost (complete : r.Complete opened) (most : Nat)
    (member : w ∈ (1 + r.body.language) ^ most) (some : w ≠ []) : Reaches opened (r.atMost most) w := by
  obtain ⟨m, rfl, x, inside, large, y, later, rfl⟩ := exists_round_of_pow member some
  have rest : y ∈ (Item.expr (.repetition 0 (.some m) r.greedy r.body)).language := by
    simpa [Item.language, Expr.language, repeatWords] using later
  exact (complete.reads _ _ x y inside large rest).imp_left fun leads => leads.orStop r.greedy

theorem Rounds.Complete.between (complete : r.Complete opened) (most least : Nat)
    (member : w ∈ r.body.language ^ least * (1 + r.body.language) ^ (most - least)) (some : w ≠ []) :
    Reaches opened (r.between most least) w := by
  induction least generalizing w most with
  | zero =>
    rw [pow_zero, one_mul, Nat.sub_zero] at member
    exact complete.atMost most member some
  | succ n ih =>
    rw [pow_succ', mul_assoc, show most - (n + 1) = most - 1 - n by omega] at member
    obtain ⟨x, inside, y, later, rfl⟩ := member
    by_cases empty : x = []
    · subst empty
      exact complete.passes _ _ y inside later some (ih (most - 1) later some)
    · exact complete.reads _ _ x y inside empty later

end rounds

/-! ## Expressions -/

/-- Where nothing is open an expression that spells the empty word can finish. -/
theorem finished_mem_nexts {holds : Look → Bool} {e : Expr} (met : ∀ l ∈ e.looks, holds l)
    (empty : [] ∈ e.language) : .finished ∈ e.nexts holds [] := by
  obtain ⟨way, member⟩ := List.exists_mem_of_ne_nil _ (emptyWays_ne_nil empty)
  exact finished_of_emptyWay member fun l inside => met l (looks_of_emptyWays member inside)

theorem reaches_unless {opened : Thread} {e : Expr} {nexts : List Next} {w : List UInt8}
    (member : w ∈ e.language) (some : w ≠ []) (reaches : Reaches opened nexts w) :
    Reaches opened (if (Item.ofExpr e).isOpen opened then [] else nexts) w := by
  split
  · rename_i isOpen
    exact .inr (mem_openWords_of_isOpen isOpen (by rwa [ofExpr_language]) some)
  · exact reaches

theorem reaches_literal (holds : Look → Bool) (opened : Thread) {bytes : List UInt8} (some : bytes ≠ []) :
    Reaches opened ((Expr.literal bytes).nexts holds opened) bytes := by
  have byte (b : UInt8) : [b] ∈ (Demand.byte (RangeSet.singleton b.toNat)).language := by
    rw [demand_byte]
    exact ⟨b, rfl, RangeSet.contains_singleton.mpr rfl⟩
  match bytes with
  | [b] =>
    rw [Expr.nexts]
    refine reaches_unless rfl some (.inl (leads_single ?_))
    rw [Next.language, Thread.language_nil, mul_one]
    exact byte b
  | b :: c :: bytes =>
    rw [Expr.nexts]
    · refine reaches_unless rfl some (.inl (leads_single ?_))
      rw [Next.language, Thread.language_singleton]
      exact Language.append_mem_mul (byte b) rfl
    · simp

theorem complete_rounds {holds : Look → Bool} (body : Expr) (opened : Thread) (greedy : Bool)
    (met : ∀ l ∈ body.looks, holds l)
    (reaches : ∀ opened, ∀ w ∈ body.language, w ≠ [] → Reaches opened (body.nexts holds opened) w) :
    Rounds.Complete opened ⟨Next.round (body.nexts holds) opened, body, greedy⟩ where
  reads item behind x y inside large later := by
    dsimp only [Next.round]
    exact reaches_reads (body.nexts holds) _ (reaches _ x inside large) large later
  passes item behind w empty member some later := by
    dsimp only [Next.round]
    refine reaches_passes (body.nexts holds) _ (finished_mem_nexts met empty) member some fun closed => ?_
    rwa [if_neg closed]

/-- All words are read, by the expression's own steps or by those of an open item. -/
theorem reaches_nexts {holds : Look → Bool} (opened : Thread) {e : Expr} (met : ∀ l ∈ e.looks, holds l)
    {w : List UInt8} (member : w ∈ e.language) (some : w ≠ []) : Reaches opened (e.nexts holds opened) w := by
  induction e generalizing opened w with
  | empty | look l => exact absurd member some
  | literal bytes =>
    obtain rfl : w = bytes := member
    exact reaches_literal holds opened some
  | byteClass set | charClass set =>
    rw [Expr.nexts]
    refine reaches_unless member some (.inl (leads_single ?_))
    rw [Next.language, Thread.language_nil, mul_one]
    first
    | rwa [demand_byte]
    | rwa [demand_char]
  | repetition least most greedy body ih =>
    have complete := complete_rounds body opened greedy met fun opened w inside => ih opened met inside
    rw [Expr.nexts]
    refine reaches_unless member some ?_
    cases most with
    | none => exact complete.atLeast least member some
    | some most => exact complete.between most least member some
  | group index body ih =>
    rw [Expr.nexts]
    exact reaches_unless member some (ih opened met member some)
  | seq a b iha ihb =>
    obtain ⟨first, second⟩ := List.forall_mem_append.mp met
    rw [Expr.nexts]
    refine reaches_unless member some ?_
    obtain ⟨x, inside, y, later, rfl⟩ := member
    by_cases empty : x = []
    · subst empty
      exact reaches_passes (a.nexts holds) (fun _ => b.nexts holds opened) (finished_mem_nexts first inside)
        (by rwa [ofExpr_language]) some fun _ => ihb opened second later some
    · exact reaches_reads (a.nexts holds) _ (iha _ first inside empty) empty (by rwa [ofExpr_language])
  | alt a b iha ihb =>
    obtain ⟨first, second⟩ := List.forall_mem_append.mp met
    rw [Expr.nexts]
    refine reaches_unless member some ?_
    rcases member with left | right
    · exact (iha opened first left some).imp_left Leads.left
    · exact (ihb opened second right some).imp_left Leads.right

/-! ## Threads -/

theorem finished_mem_nexts_item {holds : Look → Bool} (opened : Thread) {item : Item}
    (met : ∀ l ∈ item.looks, holds l) (empty : [] ∈ item.language) : .finished ∈ item.nexts holds opened := by
  cases item with
  | expr e => exact finished_mem_nexts met empty
  | again body greedy => exact finished_mem_orStop _ _
  | charRest seen set =>
    obtain ⟨code, read, _⟩ := empty
    nomatch read

theorem reaches_nexts_item {holds : Look → Bool} (opened : Thread) {item : Item}
    (met : ∀ l ∈ item.looks, holds l) {w : List UInt8} (member : w ∈ item.language) (some : w ≠ []) :
    Leads (item.nexts holds opened) w ∨ w ∈ openWords opened * item.language := by
  cases item with
  | expr e =>
    refine .inl ((reaches_nexts [] met member some).resolve_right ?_)
    exact Language.notMem_zero w
  | again body greedy =>
    obtain ⟨x, inside, large, y, later, rfl⟩ := exists_round_of_kstar member some
    rcases reaches_nexts opened met inside large with leads | reads
    · refine .inl (Leads.orStop (leads.reads large ?_) greedy)
      rwa [Thread.language_singleton]
    · exact .inr (Language.append_mem_mul reads later)
  | charRest seen set =>
    refine .inl (leads_single ?_)
    rwa [Next.language, Thread.language_nil, mul_one, demand_charRest]

theorem reaches_nextsFrom {holds : Look → Bool} (opened : Thread) {t : Thread}
    (met : ∀ l ∈ Thread.looks t, holds l) {w : List UInt8} (member : w ∈ Thread.language t) :
    Leads (Thread.nextsFrom holds opened t) w ∨ w ∈ openWords opened * Thread.language t := by
  induction t generalizing opened w with
  | nil => exact .inl (leads_single member)
  | cons item items ih =>
    obtain ⟨first, others⟩ := List.forall_mem_append.mp met
    rw [Thread.language_cons] at member ⊢
    have reads {x y : List UInt8} (inside : x ∈ item.language) (some : x ≠ [])
        (later : y ∈ Thread.language items) :
        Leads (Thread.nextsFrom holds opened (item :: items)) (x ++ y) ∨
          x ++ y ∈ openWords opened * (item.language * Thread.language items) := by
      rcases reaches_nexts_item opened first inside some with leads | within
      · exact .inl (leads.reads some later)
      · rw [← mul_assoc]
        exact .inr (Language.append_mem_mul within later)
    obtain ⟨x, inside, y, later, rfl⟩ := member
    by_cases empty : x = []
    · subst empty
      rcases ih (item :: opened) others later with leads | within
      · exact .inl (Leads.passes (finished_mem_nexts_item opened first inside) leads)
      · rw [openWords, add_mul] at within
        rcases within with ⟨u, ⟨here, some⟩, v, after, split⟩ | before
        · obtain rfl : u ++ v = y := split
          have read := reads here some after
          exact read
        · rw [← mul_assoc]
          exact .inr before
    · exact reads inside empty later

theorem leads_nexts {holds : Look → Bool} {t : Thread} (met : ∀ l ∈ Thread.looks t, holds l)
    {w : List UInt8} (member : w ∈ Thread.language t) : Leads (t.nexts holds) w := by
  refine (reaches_nextsFrom [] met member).resolve_right fun within => ?_
  obtain ⟨x, none, _⟩ := within
  exact Language.notMem_zero x none

/-- A thread without conditions has a way for each of its words that the text begins with. -/
theorem mem_widths {t : Thread} (plain : Thread.looks t = []) (behind : List UInt8) {w : List UInt8}
    (rest : List UInt8) (member : w ∈ Thread.language t) : w.length ∈ t.widths behind (w ++ rest) := by
  have met (holds : Look → Bool) : ∀ l ∈ Thread.looks t, holds l := by simp [plain]
  have leads (holds : Look → Bool) := leads_nexts (met holds) member
  induction w generalizing t behind with
  | nil =>
    have finished (holds : Look → Bool) : .finished ∈ t.nexts holds := leads_nil.mp (leads holds)
    cases rest <;>
      · rw [List.nil_append, Thread.widths]
        exact List.mem_flatMap.mpr ⟨_, finished _, List.mem_cons_self⟩
  | cons b w ih =>
    rw [List.cons_append, Thread.widths]
    obtain ⟨next, present, word⟩ := leads (Look.holds behind (b :: (w ++ rest)))
    cases next with
    | finished => cases word
    | take demand after =>
      obtain ⟨u, ⟨c, own, v, rfl, met', inside⟩, z, later, split⟩ := word
      obtain ⟨rfl, rfl⟩ := List.cons.inj split
      have moved : Next.advance? c (.take demand after) = some (own ++ after) := by
        rw [Next.advance?, met', Option.map_some]
      have plain' : Thread.looks (own ++ after) = [] :=
        List.subset_nil.mp (plain ▸ looks_advance present moved)
      have member' : v ++ z ∈ Thread.language (own ++ after) := by
        rw [Thread.language_append]
        exact Language.append_mem_mul inside later
      have met (holds : Look → Bool) : ∀ l ∈ Thread.looks (own ++ after), holds l := by simp [plain']
      refine List.mem_flatMap.mpr ⟨_, present, ?_⟩
      rw [moved]
      exact List.mem_map_of_mem (ih plain' (c :: behind) member' met fun holds => leads_nexts (met holds) member')

/-- Without conditions the ways are the words that the text begins with. -/
theorem mem_widths_iff {t : Thread} (plain : Thread.looks t = []) (behind text : List UInt8) (n : Nat) :
    n ∈ t.widths behind text ↔ n ≤ text.length ∧ text.take n ∈ Thread.language t := by
  refine ⟨take_mem_language, fun word => ?_⟩
  have way := mem_widths plain behind (text.drop n) word.2
  rwa [List.take_append_drop, List.length_take_of_le word.1] at way

/-- Somewhere a match ends that starts at a place, if the text there begins with a word. -/
theorem isSome_endAt?_iff {e : Expr} (plain : e.looks = []) {text : List UInt8} {pos : Nat}
    (inside : pos ≤ text.length) :
    (e.endAt? text pos).isSome ↔ ∃ n, n ≤ text.length - pos ∧ (text.drop pos).take n ∈ e.language := by
  rw [Expr.endAt?, if_pos inside, Option.isSome_map, ← List.length_drop]
  have plain : Thread.looks [.expr e] = [] := (looks_singleton _).trans plain
  have ways := mem_widths_iff plain (text.take pos).reverse (text.drop pos)
  rw [Thread.language_singleton] at ways
  constructor
  · intro found
    obtain ⟨n, first⟩ := Option.isSome_iff_exists.mp found
    exact ⟨n, (ways n).mp (List.mem_of_mem_head? first)⟩
  · intro found
    obtain ⟨n, word⟩ := found
    exact List.isSome_head?.mpr (List.ne_nil_of_mem ((ways n).mpr word))

end Triage.Regex
