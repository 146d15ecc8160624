import Triage.Proofs.Regex.Complete
import Triage.Proofs.Regex.Each
import Triage.Proofs.Regex.Ways

/-! How an expression reads, put together from how its parts read. A thread whose loops read something in
each round never comes back to an item that is open, so nothing is cut, and its ways are those of a
backtracking reader. -/

namespace Triage.Regex
open scoped Computability

/-- How an expression reads whose literals and classes read given words. -/
noncomputable def Expr.ways {α : Type} (words : Expr → Language α) : Expr → Ways α
  | .empty | .look _ => 1
  | .literal bytes => .ofLanguage (words (.literal bytes))
  | .byteClass set => .ofLanguage (words (.byteClass set))
  | .charClass set => .ofLanguage (words (.charClass set))
  | .repetition least most greedy body => .repeated greedy (body.ways words) least most
  | .group _ body => body.ways words
  | .seq a b => a.ways words * b.ways words
  | .alt a b => a.ways words + b.ways words

/-- A repetition without bound reads something in each round. -/
def Expr.Consumes : Expr → Prop
  | .repetition _ none _ body => [] ∉ body.language
  | _ => True

def Item.Consuming : Item → Prop
  | .expr e => e.Each Expr.Consumes
  | .again body _ => [] ∉ body.language ∧ body.Each Expr.Consumes
  | .charRest _ _ => True

theorem consuming_ofExpr {e : Expr} (each : e.Each Expr.Consumes) : (Item.ofExpr e).Consuming := by
  unfold Item.ofExpr
  split
  · split
    · exact each
    · exact each
  · exact each

theorem consuming_of_leaves {e : Expr} (each : e.Each Expr.Consumes) {left : Item} (leaves : e.Leaves left) :
    left.Consuming := by
  induction e with
  | empty | byteClass set | charClass set | look l => exact leaves.elim
  | literal bytes =>
    obtain ⟨bytes, rfl⟩ := leaves
    trivial
  | repetition least most greedy body ih =>
    cases most with
    | none =>
      rcases leaves with rfl | ⟨n, rfl⟩ | leaves
      · exact each
      · exact each
      · exact ih each.2 leaves
    | some most =>
      rcases leaves with ⟨n, m, rfl⟩ | leaves
      · exact ⟨trivial, each.2⟩
      · exact ih each.2 leaves
  | group index body ih => exact ih each leaves
  | seq a b iha ihb =>
    rcases leaves with leaves | rfl | leaves
    · exact iha each.1 leaves
    · exact consuming_ofExpr each.2
    · exact ihb each.2 leaves
  | alt a b iha ihb =>
    rcases leaves with leaves | leaves
    · exact iha each.1 leaves
    · exact ihb each.2 leaves

/-! ## Open items -/

section opened
variable {holds : Look → Bool} {opened : Thread}

theorem isOpen_of_nil_notMem {item : Item} (some : [] ∉ item.language) (nullable : ∀ i ∈ opened, [] ∈ i.language) :
    item.isOpen opened = false := by
  cases opened with
  | nil => rfl
  | cons head opened =>
    have other : head ≠ item := fun same => some (same ▸ nullable head List.mem_cons_self)
    simp [Item.isOpen, other]

theorem openIn_nullable (item : Item) (nullable : ∀ i ∈ opened, [] ∈ i.language) :
    ∀ i ∈ item.openIn opened, [] ∈ i.language := by
  intro i member
  unfold Item.openIn at member
  split at member
  · exact nullable i (List.mem_of_mem_drop member)
  · simp at member

theorem nil_mem_of_finished {e : Expr} (finished : .finished ∈ e.nexts holds opened) : [] ∈ e.language :=
  within_nexts holds opened e _ finished Language.nil_mem_one

theorem andThen_congr {nexts : List Next} {more other : Unit → List Next} (rest : Thread)
    (same : .finished ∈ nexts → more () = other ()) : Next.andThen nexts more rest = Next.andThen nexts other rest := by
  refine List.flatMap_congr fun next member => ?_
  cases next with
  | finished => exact same member
  | take demand own => rfl

theorem unless_closed {e : Expr} {nexts : List Next} (some : [] ∉ e.language)
    (nullable : ∀ i ∈ opened, [] ∈ i.language) : (if (Item.ofExpr e).isOpen opened then [] else nexts) = nexts := by
  rw [isOpen_of_nil_notMem (by rwa [ofExpr_language]) nullable]
  rfl

theorem nil_mem_repeatWords {words : Language UInt8} (empty : [] ∈ words) (least : Nat) (most : Option Nat) :
    [] ∈ repeatWords words least most := by
  cases most with
  | none => exact nil_mem_mul.mpr ⟨nil_mem_pow empty least, Language.nil_mem_kstar _⟩
  | some most => exact nil_mem_mul.mpr ⟨nil_mem_pow empty least, nil_mem_pow (.inl rfl) _⟩

/-- What has to read something is not open, and nothing of it is cut. -/
theorem nexts_opened {e : Expr} (some : [] ∉ e.language) (nullable : ∀ i ∈ opened, [] ∈ i.language) :
    e.nexts holds opened = e.nexts holds [] := by
  have none : ∀ i ∈ ([] : Thread), [] ∈ i.language := by simp
  induction e generalizing opened with
  | empty | look l => exact absurd Language.nil_mem_one some
  | literal bytes =>
    match bytes with
    | [] => exact absurd rfl some
    | [b] => rw [Expr.nexts, Expr.nexts, unless_closed some nullable, unless_closed some none]
    | b :: c :: bytes =>
      rw [Expr.nexts, Expr.nexts, unless_closed some nullable, unless_closed some none]
      all_goals simp
  | byteClass set | charClass set =>
    rw [Expr.nexts, Expr.nexts, unless_closed some nullable, unless_closed some none]
  | repetition least most greedy body ih =>
    have once : [] ∉ body.language := fun empty => some (nil_mem_repeatWords empty least most)
    have round : Next.round (body.nexts holds) opened = Next.round (body.nexts holds) [] := by
      funext item behind
      rw [Next.round, Next.round, ih once (openIn_nullable item nullable), ih once (openIn_nullable item none)]
      exact andThen_congr _ fun finished => absurd (nil_mem_of_finished finished) once
    rw [Expr.nexts, Expr.nexts, unless_closed some nullable, unless_closed some none, round]
  | group index body ih =>
    rw [Expr.nexts, Expr.nexts, unless_closed some nullable, unless_closed some none, ih some nullable]
  | seq a b iha ihb =>
    rw [Expr.nexts, Expr.nexts, unless_closed some nullable, unless_closed some none]
    dsimp only
    by_cases first : [] ∈ a.language
    · have second : [] ∉ b.language := fun empty => some (nil_mem_mul.mpr ⟨first, empty⟩)
      have closed : (Item.ofExpr b).isOpen opened = false :=
        isOpen_of_nil_notMem (by rwa [ofExpr_language]) nullable
      simp only [Item.openIn, closed, ihb second nullable]
      rfl
    · rw [iha first (openIn_nullable _ nullable), iha first (openIn_nullable _ none)]
      exact andThen_congr _ fun finished => absurd (nil_mem_of_finished finished) first
  | alt a b iha ihb =>
    rw [Expr.nexts, Expr.nexts, unless_closed some nullable, unless_closed some none,
      iha (fun empty => some (.inl empty)) nullable, ihb (fun empty => some (.inr empty)) nullable]

end opened

/-! ## Threads -/

section threads
variable {holds : Look → Bool} {opened t u : Thread}

theorem andThen_nil (nexts : List Next) : Next.andThen nexts (fun _ => [.finished]) [] = nexts := by
  have same : Next.andThen nexts (fun _ => [.finished]) [] = nexts.flatMap fun next => [next] :=
    List.flatMap_congr fun next _ => by cases next <;> simp
  rw [same, List.flatMap_singleton']

theorem andThen_assoc (nexts : List Next) (more last : Unit → List Next) (t u : Thread) :
    Next.andThen (Next.andThen nexts more t) last u =
      Next.andThen nexts (fun _ => Next.andThen (more ()) last u) (t ++ u) := by
  rw [Next.andThen, Next.andThen, Next.andThen, List.flatMap_assoc]
  refine List.flatMap_congr fun next _ => ?_
  cases next <;> simp [Next.andThen]

theorem nil_mem_of_finished_item {item : Item} (finished : .finished ∈ item.nexts holds opened) :
    [] ∈ item.language :=
  within_nexts_item holds opened item _ finished Language.nil_mem_one

theorem nexts_item_opened {item : Item} (consuming : item.Consuming) (nullable : ∀ i ∈ opened, [] ∈ i.language) :
    item.nexts holds opened = item.nexts holds [] := by
  cases item with
  | expr e => rfl
  | again body greedy => rw [Item.nexts, Item.nexts, nexts_opened consuming.1 nullable]
  | charRest seen set => rfl

theorem nextsFrom_opened (consuming : ∀ item ∈ t, item.Consuming) (nullable : ∀ i ∈ opened, [] ∈ i.language) :
    Thread.nextsFrom holds opened t = t.nexts holds := by
  unfold Thread.nexts
  induction t generalizing opened with
  | nil => rfl
  | cons item items ih =>
    obtain ⟨first, others⟩ := List.forall_mem_cons.mp consuming
    rw [Thread.nextsFrom, Thread.nextsFrom, nexts_item_opened first nullable]
    refine andThen_congr _ fun finished => ?_
    have empty := nil_mem_of_finished_item finished
    rw [ih others (List.forall_mem_cons.mpr ⟨empty, nullable⟩), ih others (List.forall_mem_singleton.mpr empty)]

/-- What a thread can do is what its first item can do, then what the others can. -/
theorem nexts_cons {item : Item} (consuming : ∀ i ∈ t, i.Consuming) :
    Thread.nexts holds (item :: t) = Next.andThen (item.nexts holds []) (fun _ => t.nexts holds) t := by
  rw [Thread.nexts, Thread.nextsFrom]
  exact andThen_congr _ fun finished =>
    nextsFrom_opened consuming (List.forall_mem_singleton.mpr (nil_mem_of_finished_item finished))

theorem nexts_append (first : ∀ item ∈ t, item.Consuming) (second : ∀ item ∈ u, item.Consuming) :
    Thread.nexts holds (t ++ u) = Next.andThen (t.nexts holds) (fun _ => u.nexts holds) u := by
  induction t with
  | nil =>
    have done : Thread.nexts holds [] = [.finished] := rfl
    rw [done, Next.andThen, List.flatMap_singleton]
    rfl
  | cons item items ih =>
    obtain ⟨_, others⟩ := List.forall_mem_cons.mp first
    rw [List.cons_append, nexts_cons (List.forall_mem_append.mpr ⟨others, second⟩), nexts_cons others, ih others,
      andThen_assoc]

end threads

/-! ## Texts -/

def Thread.reads (t : Thread) : Ways UInt8 := t.widths []

/-- How a step reads, the first byte and the rest of the thread behind it. -/
def Next.reads : Next → Ways UInt8
  | .finished => 1
  | .take demand rest => fun
    | [] => []
    | b :: ahead =>
      match demand.meet? b with
      | some own => (Thread.reads (own ++ rest) ahead).map (· + 1)
      | none => []

theorem Next.reads_take (demand : Demand) (rest : Thread) (b : UInt8) (ahead : List UInt8) :
    (Next.take demand rest).reads (b :: ahead) =
      match demand.meet? b with
      | some own => (Thread.reads (own ++ rest) ahead).map (· + 1)
      | none => [] := rfl

section reads
variable {t u : Thread}

theorem widths_behind (plain : Thread.looks t = []) (behind other text : List UInt8) :
    t.widths behind text = t.widths other text := by
  have near (behind : List UInt8) : (t.widths behind text).filter (· < text.length + 1) = t.widths behind text := by
    refine List.filter_eq_self.mpr fun n member => ?_
    simpa [Nat.lt_succ_iff] using (take_mem_language member).1
  have same : (t.widths behind text).filter (· < text.length + 1) =
      (t.widths other (text ++ [])).filter (· < text.length + 1) :=
    widths_local [] (fun l member => by simp [plain] at member) (Nat.le_refl _)
  rwa [List.append_nil, near, near] at same

/-- A thread reads as its steps do, in their order. -/
theorem reads_eq (plain : Thread.looks t = []) (holds : Look → Bool) (text : List UInt8) :
    t.reads text = (t.nexts holds).flatMap fun next => next.reads text := by
  have any (other : Look → Bool) : t.nexts other = t.nexts holds :=
    nextsFrom_congr [] t fun l member => by simp [plain] at member
  cases text with
  | nil =>
    rw [Thread.reads, Thread.widths, any]
    refine List.flatMap_congr fun next _ => ?_
    cases next <;> rfl
  | cons b ahead =>
    rw [Thread.reads, Thread.widths, any]
    refine List.flatMap_congr fun next member => ?_
    cases next with
    | finished => rfl
    | take demand rest =>
      simp only [Next.isFinished, Bool.false_eq_true, if_false, Next.advance?, Next.reads_take]
      cases met : demand.meet? b with
      | none => rfl
      | some own =>
        have moved : Next.advance? b (.take demand rest) = some (own ++ rest) := by
          rw [Next.advance?, met, Option.map_some]
        have later : Thread.looks (own ++ rest) = [] := List.subset_nil.mp (plain ▸ looks_advance member moved)
        simp only [Option.map_some]
        rw [widths_behind later [b] []]
        rfl

/-- Without conditions, and with loops that read something in each round. -/
def Item.Steady (item : Item) : Prop := item.Consuming ∧ item.looks = []

theorem looks_of_steady (steady : ∀ item ∈ t, item.Steady) : Thread.looks t = [] :=
  List.flatMap_eq_nil_iff.mpr fun item member => (steady item member).2

theorem steady_of_leaves {item left : Item} (steady : item.Steady) (leaves : item.Leaves left) : left.Steady := by
  cases item with
  | expr e => exact ⟨consuming_of_leaves steady.1 leaves, List.subset_nil.mp (steady.2 ▸ looks_of_leaves leaves)⟩
  | again body greedy =>
    rcases leaves with rfl | leaves
    · exact steady
    · exact ⟨consuming_of_leaves steady.1.2 leaves, List.subset_nil.mp (steady.2 ▸ looks_of_leaves leaves)⟩
  | charRest seen set => exact leaves.elim

theorem steady_of_advance {holds : Look → Bool} {moved : Thread} {next : Next} {b : UInt8}
    (steady : ∀ item ∈ t, item.Steady) (member : next ∈ t.nexts holds) (advanced : next.advance? b = some moved) :
    ∀ left ∈ moved, left.Steady := by
  intro left here
  rcases advance?_spec member advanced left here with ⟨seen, set, rfl⟩ | ⟨item, present, rfl | leaves⟩
  · exact ⟨trivial, rfl⟩
  · exact steady _ present
  · exact steady_of_leaves (steady item present) leaves

/-- Behind its first byte a step reads as what is left does. -/
theorem reads_take_cons {demand : Demand} {own : Thread} {b : UInt8} {ahead : List UInt8}
    (behind : ∀ rest, demand.meet? b = some rest →
      Thread.reads (rest ++ own ++ u) ahead = (Thread.reads (rest ++ own) * u.reads) ahead) :
    (Next.take demand (own ++ u)).reads (b :: ahead) = ((Next.take demand own).reads * u.reads) (b :: ahead) := by
  rw [Ways.mul_apply, Next.reads_take, Next.reads_take]
  cases met : demand.meet? b with
  | none => rfl
  | some rest =>
    simp only [← List.append_assoc, behind rest met, Ways.mul_apply, List.map_flatMap, List.flatMap_map]
    refine List.flatMap_congr fun n _ => ?_
    rw [List.map_map, List.drop_succ_cons]
    refine List.map_congr_left fun m _ => ?_
    simp only [Function.comp_apply]
    omega

/-- Threads one behind the other read one after the other. -/
theorem reads_append (first : ∀ item ∈ t, item.Steady) (second : ∀ item ∈ u, item.Steady) :
    Thread.reads (t ++ u) = t.reads * u.reads := by
  have plain' := looks_of_steady second
  let holds : Look → Bool := fun _ => true
  -- the steps of the first thread, each followed by the second
  have split {t : Thread} (first : ∀ item ∈ t, item.Steady) (text : List UInt8)
      (each : ∀ demand own, .take demand own ∈ t.nexts holds →
        (Next.take demand (own ++ u)).reads text = ((Next.take demand own).reads * u.reads) text) :
      Thread.reads (t ++ u) text = (t.reads * u.reads) text := by
    have both := looks_of_steady (List.forall_mem_append.mpr ⟨first, second⟩)
    rw [Ways.mul_apply, reads_eq (looks_of_steady first) holds, reads_eq both holds,
      nexts_append (fun item member => (first item member).1) (fun item member => (second item member).1),
      Next.andThen, List.flatMap_assoc, List.flatMap_assoc]
    refine List.flatMap_congr fun next member => ?_
    cases next with
    | finished =>
      rw [Next.reads, Ways.one_apply]
      simp [← reads_eq plain' holds]
    | take demand own =>
      rw [List.flatMap_singleton, each demand own member, Ways.mul_apply]
  funext text
  induction text generalizing t with
  | nil => exact split first [] fun demand own _ => rfl
  | cons b ahead ih =>
    refine split first (b :: ahead) fun demand own member => reads_take_cons fun rest met => ?_
    have moved : Next.advance? b (.take demand own) = some (rest ++ own) := by
      rw [Next.advance?, met, Option.map_some]
    exact ih (steady_of_advance first member moved)

end reads

/-! ## Steps -/

/-- How steps read, the preferred ones first. -/
def readsOf (nexts : List Next) : Ways UInt8 := fun text => nexts.flatMap fun next => next.reads text

section steps
variable {holds : Look → Bool} {nexts : List Next} {u : Thread} {item : Item} {e : Expr}

theorem readsOf_append (nexts more : List Next) : readsOf (nexts ++ more) = readsOf nexts + readsOf more :=
  funext fun _ => List.flatMap_append

theorem readsOf_orStop (greedy : Bool) (nexts : List Next) :
    readsOf (Next.orStop greedy nexts) = (readsOf nexts).orStop greedy := by
  cases greedy
  · exact readsOf_append [.finished] nexts
  · exact readsOf_append nexts [.finished]

theorem readsOf_andThen {more : Unit → List Next} (first : Confined Item.Steady nexts)
    (second : ∀ item ∈ u, item.Steady) (behind : .finished ∈ nexts → readsOf (more ()) = u.reads) :
    readsOf (Next.andThen nexts more u) = readsOf nexts * u.reads := by
  have each (text : List UInt8) (next : Next) : next ∈ nexts →
      readsOf (match next with
        | .finished => more ()
        | .take demand own => [.take demand (own ++ u)]) text = (next.reads * u.reads) text := by
    intro member
    cases next with
    | finished => rw [behind member, Next.reads, one_mul]
    | take demand own =>
      cases text with
      | nil => rfl
      | cons b ahead =>
        refine (List.flatMap_singleton ..).trans (reads_take_cons fun rest met => ?_)
        have opening : ∀ item ∈ rest, item.Steady := by
          intro item inside
          obtain ⟨seen, set, rfl⟩ := meet?_spec met item inside
          exact ⟨trivial, rfl⟩
        exact congrFun (reads_append (List.forall_mem_append.mpr ⟨opening, first demand own member⟩) second) ahead
  funext text
  rw [readsOf, Next.andThen, List.flatMap_assoc, Ways.mul_apply, readsOf, List.flatMap_assoc]
  exact List.flatMap_congr fun next member => each text next member

theorem confined_steady (steady : item.Steady) : Confined Item.Steady (item.nexts holds []) :=
  (confined_nexts_item holds [] item).mono fun _ leaves => steady_of_leaves steady leaves

theorem reads_single (holds : Look → Bool) (steady : item.Steady) : Thread.reads [item] = readsOf (item.nexts holds []) := by
  have plain : Thread.looks [item] = [] := looks_of_steady (List.forall_mem_singleton.mpr steady)
  funext text
  rw [reads_eq plain holds, Thread.nexts, Thread.nextsFrom]
  exact congrArg (List.flatMap _) (andThen_nil _)

theorem round_nil (body : Expr) (item : Item) (behind : Unit → List Next) :
    Next.round (body.nexts holds) [] item behind = Next.andThen (body.nexts holds []) behind [item] := by
  have start : item.isOpen [] = false := by simp [Item.isOpen]
  simp only [Next.round, Item.openIn, start, Bool.false_eq_true, if_false]

/-- A loop that reads something in each round begins where it begins again. -/
theorem nexts_ofExpr (each : e.Each Expr.Consumes) : (Item.ofExpr e).nexts holds [] = e.nexts holds [] := by
  unfold Item.ofExpr
  split
  · rename_i greedy body
    split
    · rw [Item.nexts, Expr.nexts, if_neg (by simp [Item.isOpen])]
      dsimp only
      rw [Rounds.atLeast, Rounds.oneOrMore]
      dsimp only
      rw [round_nil]
      exact congrArg _ (andThen_congr _ fun finished => absurd (nil_mem_of_finished finished) each.1)
    · rfl
  · rfl

end steps

/-! ## Expressions -/

/-- How an expression reads from the start of a text on. -/
def Expr.reads (e : Expr) : Ways UInt8 := Thread.reads [.expr e]

section expressions
variable {e a b body : Expr}

theorem reads_ofExpr (steady : (Item.expr e).Steady) : Thread.reads [.ofExpr e] = e.reads := by
  let holds : Look → Bool := fun _ => true
  have begun : (Item.ofExpr e).Steady := ⟨consuming_ofExpr steady.1, (looks_ofExpr e).trans steady.2⟩
  rw [Expr.reads, reads_single holds begun, reads_single holds steady, nexts_ofExpr steady.1]
  rfl

theorem reads_nexts (steady : (Item.expr e).Steady) (holds : Look → Bool) :
    e.reads = readsOf (e.nexts holds []) := reads_single holds steady

theorem reads_group {index : Nat} (steady : (Item.expr (.group index body)).Steady) :
    (Expr.group index body).reads = body.reads := by
  let holds : Look → Bool := fun _ => true
  have inner : (Item.expr body).Steady := steady
  rw [reads_nexts steady holds, reads_nexts inner holds, Expr.nexts, if_neg (by simp [Item.isOpen])]

theorem steady_seq (steady : (Item.expr (.seq a b)).Steady) : (Item.expr a).Steady ∧ (Item.expr b).Steady :=
  have plain := List.append_eq_nil_iff.mp steady.2
  ⟨⟨steady.1.1, plain.1⟩, steady.1.2, plain.2⟩

theorem reads_seq (steady : (Item.expr (.seq a b)).Steady) : (Expr.seq a b).reads = a.reads * b.reads := by
  let holds : Look → Bool := fun _ => true
  obtain ⟨first, second⟩ := steady_seq steady
  have begun : (Item.ofExpr b).Steady := ⟨consuming_ofExpr second.1, (looks_ofExpr b).trans second.2⟩
  have start : (Item.ofExpr b).isOpen [] = false := by simp [Item.isOpen]
  rw [reads_nexts steady holds, reads_nexts first holds, Expr.nexts, if_neg (by simp [Item.isOpen])]
  simp only [Item.openIn, start, Bool.false_eq_true, if_false]
  rw [← reads_ofExpr second]
  exact readsOf_andThen (confined_steady first) (List.forall_mem_singleton.mpr begun) fun _ =>
    (reads_nexts second holds).symm.trans (reads_ofExpr second).symm

theorem reads_alt (steady : (Item.expr (.alt a b)).Steady) : (Expr.alt a b).reads = a.reads + b.reads := by
  let holds : Look → Bool := fun _ => true
  obtain ⟨first, second⟩ := steady_seq (a := a) (b := b) steady
  rw [reads_nexts steady holds, reads_nexts first holds, reads_nexts second holds, Expr.nexts,
    if_neg (by simp [Item.isOpen]), readsOf_append]

end expressions

/-! ## Repetitions -/

section repetitions
variable {holds : Look → Bool} {greedy : Bool} {body : Expr}

/-- The rounds of a repetition, with nothing open before them. -/
abbrev freshRounds (holds : Look → Bool) (greedy : Bool) (body : Expr) : Rounds :=
  ⟨Next.round (body.nexts holds) [], body, greedy⟩

theorem readsOf_round (steady : (Item.expr body).Steady) {item : Item} (after : item.Steady)
    {behind : Unit → List Next} (same : [] ∈ body.language → readsOf (behind ()) = Thread.reads [item]) :
    readsOf ((freshRounds holds greedy body).round item behind) = body.reads * Thread.reads [item] := by
  dsimp only [freshRounds]
  rw [round_nil, reads_nexts steady holds]
  exact readsOf_andThen (confined_steady steady) (List.forall_mem_singleton.mpr after) fun finished =>
    same (nil_mem_of_finished finished)

theorem reading_reads (some : [] ∉ body.language) :
    body.reads.reading = body.reads := by
  funext text
  refine List.filter_eq_self.mpr fun n member => ?_
  obtain ⟨fits, word⟩ := take_mem_language member
  rw [Thread.language_singleton] at word
  have large : n ≠ 0 := by
    intro zero
    subst zero
    exact some word
  simp only [Bool.and_eq_true, decide_eq_true_eq]
  omega

theorem reads_again (steady : (Item.again body greedy).Steady) :
    Thread.reads [.again body greedy] = Ways.star greedy body.reads := by
  let holds : Look → Bool := fun _ => true
  have inner : (Item.expr body).Steady := ⟨steady.1.2, steady.2⟩
  have round : Thread.reads [.again body greedy] =
      (body.reads * Thread.reads [.again body greedy]).orStop greedy := by
    conv_lhs => rw [reads_single holds steady, Item.nexts, readsOf_orStop]
    rw [reads_nexts inner holds]
    exact congrArg _ (readsOf_andThen (confined_steady inner) (List.forall_mem_singleton.mpr steady) fun finished =>
      absurd (nil_mem_of_finished finished) steady.1.1)
  rw [← reading_reads steady.1.1] at round
  exact Ways.eq_star round

theorem reads_eq_atLeast {least : Nat} (steady : (Item.expr (.repetition least none greedy body)).Steady)
    (holds : Look → Bool) :
    (Expr.repetition least none greedy body).reads = readsOf ((freshRounds holds greedy body).atLeast least) := by
  rw [reads_nexts steady holds, Expr.nexts, if_neg (by simp [Item.isOpen])]

theorem reads_eq_between {least most : Nat} (steady : (Item.expr (.repetition least (some most) greedy body)).Steady)
    (holds : Look → Bool) :
    (Expr.repetition least (some most) greedy body).reads =
      readsOf ((freshRounds holds greedy body).between most least) := by
  rw [reads_nexts steady holds, Expr.nexts, if_neg (by simp [Item.isOpen])]

theorem reads_atLeast (least : Nat) (steady : (Item.expr (.repetition least none greedy body)).Steady) :
    (Expr.repetition least none greedy body).reads = body.reads ^ least * Ways.star greedy body.reads := by
  let holds : Look → Bool := fun _ => true
  have inner : (Item.expr body).Steady := ⟨steady.1.2, steady.2⟩
  have again : (Item.again body greedy).Steady := steady
  have once : readsOf (freshRounds holds greedy body).oneOrMore = body.reads * Ways.star greedy body.reads := by
    rw [← reads_again again, Rounds.oneOrMore]
    exact readsOf_round inner again fun empty => absurd empty steady.1.1
  induction least with
  | zero =>
    rw [reads_eq_atLeast steady holds, pow_zero, one_mul]
    conv_rhs => rw [Ways.star_eq, reading_reads again.1.1]
    exact (readsOf_orStop greedy _).trans (congrArg _ once)
  | succ n ih =>
    have fewer : (Item.expr (.repetition n none greedy body)).Steady := steady
    rw [reads_eq_atLeast steady holds]
    cases n with
    | zero =>
      rw [pow_one]
      exact once
    | succ n =>
      rw [pow_succ', mul_assoc, ← ih fewer, Rounds.atLeast]
      exact readsOf_round inner fewer fun _ => (reads_eq_atLeast fewer holds).symm

theorem reads_between (most least : Nat) (steady : (Item.expr body).Steady) :
    (Expr.repetition least (some most) greedy body).reads =
      body.reads ^ least * Ways.upTo greedy body.reads (most - least) := by
  let holds : Look → Bool := fun _ => true
  have counted (n m : Nat) : (Item.expr (.repetition n (some m) greedy body)).Steady := ⟨⟨trivial, steady.1⟩, steady.2⟩
  induction least generalizing most with
  | zero =>
    rw [pow_zero, one_mul, Nat.sub_zero]
    induction most with
    | zero => exact reads_eq_between (counted 0 0) holds
    | succ m ih =>
      rw [reads_eq_between (counted 0 (m + 1)) holds, Ways.upTo, ← ih, Rounds.between, Rounds.atMost, readsOf_orStop]
      exact congrArg _ (readsOf_round steady (counted 0 m) fun _ => (reads_eq_between (counted 0 m) holds).symm)
  | succ n ih =>
    rw [reads_eq_between (counted (n + 1) most) holds, pow_succ', mul_assoc,
      show most - (n + 1) = most - 1 - n by omega, ← ih (most - 1), Rounds.between]
    exact readsOf_round steady (counted n (most - 1)) fun _ => (reads_eq_between (counted n (most - 1)) holds).symm

end repetitions

/-! ## Backtracking -/

section backtracking
variable {e : Expr}

/-- The ways of an expression are the words that the text begins with. -/
theorem mem_reads (plain : e.looks = []) {text : List UInt8} {n : Nat} :
    n ∈ e.reads text ↔ n ≤ text.length ∧ text.take n ∈ e.language := by
  have ways := mem_widths_iff (t := [.expr e]) ((looks_singleton _).trans plain) [] text n
  rwa [Thread.language_singleton] at ways

theorem prefixFree_charWords (set : CharSet) : Ways.PrefixFree (charWords set) := by
  intro x here y there start
  obtain ⟨code, read, _⟩ := here
  obtain ⟨other, read', _⟩ := there
  obtain ⟨rest, rfl⟩ := start
  rw [Utf8.first?_append read] at read'
  obtain ⟨_, none⟩ := Prod.mk.inj (Option.some.inj read')
  rw [List.nil_append] at none
  rw [none, List.append_nil]

theorem alike_of_prefixFree (plain : e.looks = []) (free : Ways.PrefixFree e.language) :
    e.reads.Alike (.ofLanguage e.language) :=
  ((Ways.single_ofLanguage free).alike fun _ _ => Ways.mem_ofLanguage.trans (mem_reads plain).symm).symm

/-- Without conditions, and where no loop has empty rounds, an expression reads as a backtracking reader
does. -/
theorem alike_reads (steady : (Item.expr e).Steady) : e.reads.Alike (e.ways Expr.language) := by
  have free (n : Nat) (words : Language UInt8) (length : ∀ w ∈ words, w.length = n) : Ways.PrefixFree words :=
    Ways.prefixFree_of_length length
  induction e with
  | empty =>
    have finish : Expr.empty.reads = 1 := reads_nexts steady fun _ => true
    exact Ways.Alike.of_eq finish
  | look l => nomatch steady.2
  | literal bytes =>
    exact alike_of_prefixFree steady.2 (free bytes.length _ fun w same => congrArg _ same)
  | byteClass set =>
    refine alike_of_prefixFree steady.2 (free 1 _ fun w found => ?_)
    obtain ⟨b, rfl, _⟩ := found
    rfl
  | charClass set => exact alike_of_prefixFree steady.2 (prefixFree_charWords set)
  | repetition least most greedy body ih =>
    have inner : (Item.expr body).Steady := ⟨steady.1.2, steady.2⟩
    cases most with
    | none => exact (Ways.Alike.of_eq (reads_atLeast least steady)).trans ((ih inner).repeated greedy least none)
    | some most => exact (Ways.Alike.of_eq (reads_between most least inner)).trans ((ih inner).repeated greedy least (some most))
  | group index body ih => exact (Ways.Alike.of_eq (reads_group steady)).trans (ih steady)
  | seq a b iha ihb =>
    obtain ⟨first, second⟩ := steady_seq steady
    exact (Ways.Alike.of_eq (reads_seq steady)).trans ((iha first).mul (ihb second))
  | alt a b iha ihb =>
    obtain ⟨first, second⟩ := steady_seq (a := a) (b := b) steady
    exact (Ways.Alike.of_eq (reads_alt steady)).trans ((iha first).add (ihb second))

end backtracking

end Triage.Regex
