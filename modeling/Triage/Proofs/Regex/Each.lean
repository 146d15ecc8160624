import Triage.Proofs.RangeSet
import Triage.Regex.Elaborate
import Triage.Regex.Widen

/-! Properties that all parts of an expression have. What the builders keep of the literals, the classes
and the counts they are given holds of whatever is made with them: of expressions that are read, and of
those that are widened. -/

namespace Triage.Regex

/-- A property of all parts that are not put together of parts. -/
def Expr.Each (atom : Expr → Prop) : Expr → Prop
  | .seq a b | .alt a b => a.Each atom ∧ b.Each atom
  | .group _ body => body.Each atom
  | .repetition least most greedy body => atom (.repetition least most greedy body) ∧ body.Each atom
  | .empty => atom .empty
  | .literal bytes => atom (.literal bytes)
  | .byteClass set => atom (.byteClass set)
  | .charClass set => atom (.charClass set)
  | .look l => atom (.look l)

def AllEach (atom : Expr → Prop) (es : List Expr) : Prop := ∀ e ∈ es, e.Each atom

/-- The builders keep the property. -/
structure Closed (atom : Expr → Prop) : Prop where
  empty : atom .empty
  fail : atom .fail
  blank : atom (.literal [])
  join {x y : List UInt8} : atom (.literal x) → atom (.literal y) → atom (.literal (x ++ y))
  merge {es : List Expr} {e : Expr} : AllEach atom es → Expr.classOfBranches? es = some e → e.Each atom
  once {least : Nat} {most : Option Nat} {greedy : Bool} {body : Expr} :
    atom (.repetition least most greedy body) →
      atom (.repetition (min least 1) (some ((most.map (min · 1)).getD 1)) greedy body)

section each
variable {atom : Expr → Prop} {e : Expr} {es fs : List Expr}

theorem Expr.Each.imp {other : Expr → Prop} (each : e.Each atom) (implies : ∀ e, atom e → other e) :
    e.Each other := by
  induction e with
  | seq a b iha ihb | alt a b iha ihb => exact ⟨iha each.1, ihb each.2⟩
  | group index body ih => exact ih each
  | repetition least most greedy body ih => exact ⟨implies _ each.1, ih each.2⟩
  | _ => exact implies _ each

theorem Expr.Each.and {other : Expr → Prop} (each : e.Each atom) (others : e.Each other) :
    e.Each fun e => atom e ∧ other e := by
  induction e with
  | seq a b iha ihb | alt a b iha ihb => exact ⟨iha each.1 others.1, ihb each.2 others.2⟩
  | group index body ih => exact ih each others
  | repetition least most greedy body ih => exact ⟨⟨each.1, others.1⟩, ih each.2 others.2⟩
  | _ => exact ⟨each, others⟩

/-! ## Lists of expressions -/

theorem allEach_cons : AllEach atom (e :: es) ↔ e.Each atom ∧ AllEach atom es := List.forall_mem_cons

theorem allEach_append : AllEach atom (es ++ fs) ↔ AllEach atom es ∧ AllEach atom fs :=
  List.forall_mem_append

theorem allEach_nil : AllEach atom [] := by simp [AllEach]

theorem allEach_single : AllEach atom [e] ↔ e.Each atom := by simp [AllEach]

theorem AllEach.subset (all : AllEach atom fs) (subset : es ⊆ fs) : AllEach atom es :=
  fun e member => all e (subset member)

theorem allEach_flatMap {parts : Expr → List Expr} (each : ∀ e, e.Each atom → AllEach atom (parts e))
    (all : AllEach atom es) : AllEach atom (es.flatMap parts) := by
  intro f member
  obtain ⟨e, inside, part⟩ := List.mem_flatMap.mp member
  exact each e (all e inside) f part

theorem each_factors (each : e.Each atom) : AllEach atom e.factors := by
  induction e with
  | empty => exact allEach_nil
  | seq a b _ ih => exact allEach_cons.mpr ⟨each.1, ih each.2⟩
  | _ => exact allEach_single.mpr each

theorem each_branches (each : e.Each atom) : AllEach atom e.branches := by
  induction e with
  | alt a b _ ih => exact allEach_cons.mpr ⟨each.1, ih each.2⟩
  | _ => exact allEach_single.mpr each

end each

/-! ## Builders -/

theorem sharedStart_prefix (as bs : List Expr) :
    Expr.sharedStart as bs <+: as ∧ Expr.sharedStart as bs <+: bs := by
  induction as generalizing bs with
  | nil => exact ⟨List.nil_prefix, List.nil_prefix⟩
  | cons a as ih =>
    cases bs with
    | nil => exact ⟨List.nil_prefix, List.nil_prefix⟩
    | cons b bs =>
      rw [Expr.sharedStart]
      split
      · rename_i same
        subst same
        exact ⟨(List.prefix_cons_inj a).mpr (ih bs).1, (List.prefix_cons_inj a).mpr (ih bs).2⟩
      · exact ⟨List.nil_prefix, List.nil_prefix⟩

theorem foldl_sharedStart_prefix (first : List Expr) (others : List (List Expr)) :
    others.foldl Expr.sharedStart first <+: first ∧
      ∀ other ∈ others, others.foldl Expr.sharedStart first <+: other := by
  induction others generalizing first with
  | nil => exact ⟨List.prefix_refl _, by simp⟩
  | cons next others ih =>
    obtain ⟨start, each⟩ := ih (Expr.sharedStart first next)
    obtain ⟨left, right⟩ := sharedStart_prefix first next
    exact ⟨start.trans left, List.forall_mem_cons.mpr ⟨start.trans right, each⟩⟩

theorem sharedFactors_prefix {es : List Expr} {e : Expr} (member : e ∈ es) :
    Expr.sharedFactors es <+: e.factors := by
  unfold Expr.sharedFactors
  split
  · exact List.nil_prefix
  · cases es with
    | nil => simp at member
    | cons first es =>
      obtain ⟨start, each⟩ := foldl_sharedStart_prefix first.factors (es.map Expr.factors)
      rcases List.mem_cons.mp member with rfl | member
      · exact start
      · exact each _ (List.mem_map_of_mem member)

theorem classOfBranches?_cases {es : List Expr} {e : Expr}
    (found : Expr.classOfBranches? es = some e) :
    (∃ codes, es.mapM Expr.charOfLiteral? = some codes ∧ e = Expr.ofCharSet (Expr.points codes)) ∨
    (∃ codes, es.mapM Expr.byteOfLiteral? = some codes ∧ e = Expr.ofByteSet (Expr.points codes)) ∨
    (∃ sets, es.mapM Expr.asCharSet? = some sets ∧ e = Expr.ofCharSet (Expr.unionAll sets)) ∨
    (∃ sets, es.mapM Expr.asByteSet? = some sets ∧ e = Expr.ofByteSet (Expr.unionAll sets)) := by
  unfold Expr.classOfBranches? at found
  simp only [Option.orElse_eq_orElse, Option.orElse_eq_or, Option.or_eq_some_iff,
    Option.map_eq_some_iff] at found
  grind

section builders
variable {atom : Expr → Prop} (closed : Closed atom) {e : Expr} {es : List Expr}
include closed

theorem each_ofFactors (all : AllEach atom es) : (Expr.ofFactors es).Each atom := by
  induction es with
  | nil => exact closed.empty
  | cons e es ih =>
    obtain ⟨first, others⟩ := allEach_cons.mp all
    cases es with
    | nil => exact first
    | cons f es => exact ⟨first, ih others⟩

theorem each_ofBranches (all : AllEach atom es) : (Expr.ofBranches es).Each atom := by
  induction es with
  | nil => exact closed.fail
  | cons e es ih =>
    obtain ⟨first, others⟩ := allEach_cons.mp all
    cases es with
    | nil => exact first
    | cons f es => exact ⟨first, ih others⟩

theorem each_joinLiterals {held : List UInt8} (literal : atom (.literal held)) (all : AllEach atom es) :
    AllEach atom (Expr.joinLiterals held es) := by
  have single {held : List UInt8} (literal : atom (.literal held)) : (Expr.literal held).Each atom := literal
  induction es generalizing held with
  | nil =>
    rw [Expr.joinLiterals]
    split
    · exact allEach_nil
    · exact allEach_single.mpr (single literal)
  | cons e es ih =>
    obtain ⟨first, others⟩ := allEach_cons.mp all
    cases e with
    | literal bytes => exact ih (closed.join literal first) others
    | _ =>
      have rest := ih closed.blank others
      rw [Expr.joinLiterals]
      · split
        · exact allEach_cons.mpr ⟨first, rest⟩
        · exact allEach_cons.mpr ⟨single literal, allEach_cons.mpr ⟨first, rest⟩⟩
      · simp

theorem each_concat (all : AllEach atom es) : (Expr.concat es).Each atom :=
  each_ofFactors closed (each_joinLiterals closed closed.blank (allEach_flatMap (fun _ => each_factors) all))

theorem each_choose (all : AllEach atom es) : (Expr.choose es).Each atom := by
  have parts := allEach_flatMap (fun _ => each_branches) all
  unfold Expr.choose
  split
  · rename_i e single
    rw [single] at parts
    exact allEach_single.mp parts
  · cases found : Expr.classOfBranches? (es.flatMap Expr.branches) with
    | some e => exact closed.merge parts found
    | none => exact each_ofBranches closed parts

theorem each_alternation (all : AllEach atom es) : (Expr.alternation es).Each atom := by
  have parts := allEach_flatMap (fun _ => each_branches) all
  unfold Expr.alternation
  generalize es.flatMap Expr.branches = branches at parts
  match branches with
  | [] => exact closed.fail
  | [e] => exact allEach_single.mp parts
  | e :: f :: rest =>
    simp only
    split
    · rename_i found
      exact closed.merge parts found
    · split
      · exact each_ofBranches closed parts
      · have start : Expr.sharedFactors (e :: f :: rest) <+: e.factors :=
          sharedFactors_prefix List.mem_cons_self
        refine each_concat closed (allEach_append.mpr ⟨?_, allEach_single.mpr (each_choose closed ?_)⟩)
        · exact (each_factors (parts e List.mem_cons_self)).subset start.subset
        · intro g member
          obtain ⟨branch, inside, rfl⟩ := List.mem_map.mp member
          exact each_concat closed ((each_factors (parts branch inside)).subset (List.drop_subset _ _))

theorem each_repeated {least : Nat} {most : Option Nat} {greedy : Bool}
    (counts : atom (.repetition least most greedy e)) (each : e.Each atom) :
    (Expr.repeated least most greedy e).Each atom := by
  have plain {least : Nat} {most : Option Nat} (counts : atom (.repetition least most greedy e)) :
      (if least = 0 ∧ most = some 0 then Expr.empty
        else if least = 1 ∧ most = some 1 then e
        else .repetition least most greedy e).Each atom := by
    split
    · exact closed.empty
    · split
      · exact each
      · exact ⟨counts, each⟩
  unfold Expr.repeated
  by_cases short : e.longest? = some 0
  · simp only [short, if_true]
    exact plain (closed.once counts)
  · simp only [short, if_false]
    exact plain counts

end builders

/-! ## Reading -/

mutual

/-- All changes of flags in a written expression. -/
def Syntax.changes : Syntax → List FlagChange
  | .flags change => [change]
  | .repetition _ _ body | .group (.capture _) body => body.changes
  | .group (.plain change) body => change :: body.changes
  | .concat parts | .alternation parts => Syntax.changesOfList parts
  | _ => []

def Syntax.changesOfList : List Syntax → List FlagChange
  | [] => []
  | part :: parts => part.changes ++ Syntax.changesOfList parts

end

/-- Reading under flags of a kind makes parts with the property. -/
structure ReadsAs (atom : Expr → Prop) (mode : Flags → Prop) : Prop where
  closed : Closed atom
  literal {flags : Flags} (l : Literal) : mode flags → (flags.literal l).Each atom
  ofClass {flags : Flags} (set : RangeSet) : mode flags → (flags.ofClass set).Each atom
  look (l : Look) : atom (.look l)
  counts (counts : Counts) (greedy : Bool) (body : Expr) : atom (.repetition counts.least counts.most greedy body)

section reading
variable {atom : Expr → Prop} {mode : Flags → Prop}

mutual

/-- As long as no change of flags leaves their kind. -/
theorem each_elaborate? (reads : ReadsAs atom mode) {flags after : Flags} {s : Syntax} {e : Expr}
    (start : mode flags)
    (keeps : ∀ change ∈ s.changes, ∀ flags, mode flags → mode (flags.update change))
    (read : s.elaborate? flags = some (e, after)) : e.Each atom ∧ mode after := by
  cases s with
  | empty =>
    obtain ⟨rfl, rfl⟩ := Prod.mk.inj (Option.some.inj read)
    exact ⟨reads.closed.empty, start⟩
  | flags change =>
    obtain ⟨rfl, rfl⟩ := Prod.mk.inj (Option.some.inj read)
    exact ⟨reads.closed.empty, keeps change List.mem_cons_self flags start⟩
  | assertion a =>
    obtain ⟨rfl, rfl⟩ := Prod.mk.inj (Option.some.inj read)
    exact ⟨reads.look _, start⟩
  | literal l =>
    obtain ⟨rfl, rfl⟩ := Prod.mk.inj (Option.some.inj read)
    exact ⟨reads.literal l start, start⟩
  | dot | shorthand negated s =>
    obtain ⟨rfl, rfl⟩ := Prod.mk.inj (Option.some.inj read)
    exact ⟨reads.ofClass _ start, start⟩
  | property negated p | bracket negated set =>
    simp only [Syntax.elaborate?, Option.map_eq_some_iff, Prod.mk.injEq] at read
    obtain ⟨set, _, rfl, rfl⟩ := read
    exact ⟨reads.ofClass _ start, start⟩
  | repetition counts greedy body =>
    rw [Syntax.elaborate?] at read
    rw [Syntax.changes] at keeps
    obtain ⟨⟨body, between⟩, inner, same⟩ := Option.bind_eq_some_iff.mp read
    obtain ⟨rfl, rfl⟩ := Prod.mk.inj (Option.some.inj same)
    obtain ⟨each, kept⟩ := each_elaborate? reads start keeps inner
    exact ⟨each_repeated reads.closed (reads.counts counts _ body) each, kept⟩
  | group kind body =>
    cases kind with
    | capture index =>
      rw [Syntax.elaborate?] at read
      rw [Syntax.changes] at keeps
      obtain ⟨⟨body, between⟩, inner, same⟩ := Option.bind_eq_some_iff.mp read
      obtain ⟨rfl, rfl⟩ := Prod.mk.inj (Option.some.inj same)
      exact ⟨(each_elaborate? reads start keeps inner).1, start⟩
    | plain change =>
      rw [Syntax.elaborate?] at read
      obtain ⟨⟨body, between⟩, inner, same⟩ := Option.bind_eq_some_iff.mp read
      obtain ⟨rfl, rfl⟩ := Prod.mk.inj (Option.some.inj same)
      obtain ⟨here, inside⟩ := List.forall_mem_cons.mp keeps
      exact ⟨(each_elaborate? reads (here flags start) inside inner).1, start⟩
  | concat parts =>
    rw [Syntax.elaborate?] at read
    obtain ⟨⟨parts, between⟩, inner, same⟩ := Option.bind_eq_some_iff.mp read
    obtain ⟨rfl, rfl⟩ := Prod.mk.inj (Option.some.inj same)
    obtain ⟨all, kept⟩ := each_elaborateList? reads start keeps inner
    exact ⟨each_concat reads.closed all, kept⟩
  | alternation branches =>
    rw [Syntax.elaborate?] at read
    obtain ⟨⟨branches, between⟩, inner, same⟩ := Option.bind_eq_some_iff.mp read
    obtain ⟨rfl, rfl⟩ := Prod.mk.inj (Option.some.inj same)
    obtain ⟨all, kept⟩ := each_elaborateList? reads start keeps inner
    exact ⟨each_alternation reads.closed all, kept⟩

theorem each_elaborateList? (reads : ReadsAs atom mode) {flags after : Flags} {parts : List Syntax}
    {es : List Expr} (start : mode flags)
    (keeps : ∀ change ∈ Syntax.changesOfList parts, ∀ flags, mode flags → mode (flags.update change))
    (read : Syntax.elaborateList? flags parts = some (es, after)) : AllEach atom es ∧ mode after := by
  cases parts with
  | nil =>
    obtain ⟨rfl, rfl⟩ := Prod.mk.inj (Option.some.inj read)
    exact ⟨allEach_nil, start⟩
  | cons part parts =>
    simp only [Syntax.elaborateList?, Option.bind_eq_bind, Option.bind_eq_some_iff, Prod.exists,
      Option.pure_def, Option.some.injEq, Prod.mk.injEq] at read
    obtain ⟨first, between, inner, others, last, rest, rfl, rfl⟩ := read
    obtain ⟨here, behind⟩ := List.forall_mem_append.mp keeps
    obtain ⟨each, kept⟩ := each_elaborate? reads start here inner
    obtain ⟨all, kept⟩ := each_elaborateList? reads kept behind rest
    exact ⟨allEach_cons.mpr ⟨each, all⟩, kept⟩

end

end reading

/-! ## Widening -/

theorem bind_eq_ok {ε α β : Type} {x : Except ε α} {f : α → Except ε β} {b : β} :
    x >>= f = .ok b ↔ ∃ a, x = .ok a ∧ f a = .ok b := by
  cases x <;> simp [bind, Except.bind]

/-- Widening makes parts with the property out of parts with one. -/
structure WidensTo (order : Utf16.Order) (atom wide : Expr → Prop) : Prop where
  closed : Closed wide
  literal (text : List Char) : wide (.literal (Utf16.encode order text))
  widenSet (set : RangeSet) : (widenSet order set).Each wide
  look {l : Look} : atom (.look l) → wide (.look l)
  counts {least : Nat} {most : Option Nat} {greedy : Bool} {body : Expr} {parts : List Expr} :
    atom (.repetition least most greedy body) → body.Each atom → body.widenParts order = .ok parts →
      wide (.repetition least most greedy (Expr.widenParts.gather body parts))

section widening
variable {order : Utf16.Order} {atom wide : Expr → Prop}

theorem each_gather (closed : Closed wide) (e : Expr) {parts : List Expr} (all : AllEach wide parts) :
    (Expr.widenParts.gather e parts).Each wide := by
  cases e with
  | alt a b => exact each_alternation closed all
  | _ => exact each_concat closed all

theorem each_widenParts (widens : WidensTo order atom wide) {e : Expr} {parts : List Expr}
    (each : e.Each atom) (widened : e.widenParts order = .ok parts) : AllEach wide parts := by
  induction e generalizing parts with
  | empty =>
    obtain rfl := Except.ok.inj widened
    exact allEach_single.mpr widens.closed.empty
  | literal bytes =>
    rw [Expr.widenParts] at widened
    split at widened
    · obtain rfl := Except.ok.inj widened
      exact allEach_single.mpr (widens.literal _)
    · simp at widened
  | byteClass set | charClass set =>
    obtain rfl := Except.ok.inj widened
    exact allEach_single.mpr (widens.widenSet set)
  | look l =>
    obtain rfl := Except.ok.inj widened
    exact allEach_single.mpr (widens.look each)
  | repetition least most greedy body ih =>
    obtain ⟨inner, narrow, widened⟩ := bind_eq_ok.mp widened
    obtain rfl := Except.ok.inj widened
    exact allEach_single.mpr (each_repeated widens.closed (widens.counts each.1 each.2 narrow)
      (each_gather widens.closed body (ih each.2 narrow)))
  | group index body ih =>
    obtain ⟨inner, narrow, widened⟩ := bind_eq_ok.mp widened
    obtain rfl := Except.ok.inj widened
    exact allEach_single.mpr (each_gather widens.closed body (ih each narrow))
  | seq a b iha ihb | alt a b iha ihb =>
    obtain ⟨first, narrow, widened⟩ := bind_eq_ok.mp widened
    have start := each_gather widens.closed a (iha each.1 narrow)
    split at widened
    all_goals
      obtain ⟨rest, behind, widened⟩ := bind_eq_ok.mp widened
      obtain rfl := Except.ok.inj widened
      have later := ihb each.2 behind
    · exact allEach_cons.mpr ⟨start, later⟩
    · exact allEach_cons.mpr ⟨start, allEach_single.mpr (each_gather widens.closed _ later)⟩

theorem each_widen (widens : WidensTo order atom wide) {e found : Expr} (each : e.Each atom)
    (widened : e.widen order = .ok found) : found.Each wide := by
  obtain ⟨parts, inner, widened⟩ := bind_eq_ok.mp widened
  obtain rfl := Except.ok.inj widened
  exact each_gather widens.closed e (each_widenParts widens each inner)

end widening

end Triage.Regex
