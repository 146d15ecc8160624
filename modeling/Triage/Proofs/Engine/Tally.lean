import Mathlib.Data.List.Sort
import Triage.Engine

/-! Tallies of hits. A tally keeps the first hits by where they start and stop, as if all hits were
sorted and then cut off, so it does not depend on the order in which the hits come. -/

namespace Triage
open Search

def Search.Hit.span (h : Hit) : Nat × Nat := (h.start, h.stop)

namespace HitTally

/-- Spans by where they start, then by where they stop. -/
def SpanLe (a b : Nat × Nat) : Prop := a.1 < b.1 ∨ a.1 = b.1 ∧ a.2 ≤ b.2

theorem notAfter_iff (a b : Hit) : notAfter a b ↔ SpanLe a.span b.span := by
  simp [notAfter, SpanLe, Hit.span]

theorem SpanLe.trans {a b c : Nat × Nat} (first : SpanLe a b) (second : SpanLe b c) : SpanLe a c := by
  unfold SpanLe at *
  omega

theorem SpanLe.of_not {a b : Nat × Nat} (not : ¬ SpanLe a b) : SpanLe b a := by
  unfold SpanLe at *
  omega

instance : Std.Antisymm SpanLe := ⟨fun a b first second => by
  unfold SpanLe at first second
  exact Prod.ext (by omega) (by omega)⟩

/-! ## Putting hits in their places -/

theorem place_perm (h : Hit) (hits : List Hit) : (place h hits).Perm (h :: hits) := by
  induction hits with
  | nil => exact List.Perm.refl _
  | cons k rest ih =>
    rw [place]
    split
    · exact (ih.cons k).trans (List.Perm.swap h k rest)
    · exact List.Perm.refl _

theorem notAfter_trans {a b c : Hit} (first : notAfter a b) (second : notAfter b c) :
    notAfter a c := by
  rw [notAfter_iff] at *
  exact first.trans second

theorem notAfter_total (a b : Hit) : (notAfter a b || notAfter b a) = true := by
  rw [Bool.or_eq_true, notAfter_iff, notAfter_iff, or_iff_not_imp_left]
  exact SpanLe.of_not

/-- A hit that came before all others stands in front of those that lie where it lies. -/
theorem place_orderedInsert (h a : Hit) (hits : List Hit) :
    place h (hits.orderedInsert (notAfter · ·) a) =
      (place h hits).orderedInsert (notAfter · ·) a := by
  have before {a b c : Hit} (first : notAfter a b) (second : ¬ notAfter a c) : ¬ notAfter b c :=
    fun third => second (notAfter_trans first third)
  have after {a b : Hit} (not : ¬ notAfter a b) : notAfter b a := by
    simpa [not] using notAfter_total a b
  induction hits with
  | nil => grind [place]
  | cons k rest ih => grind [place]

theorem mergeSort_cons (a : Hit) (hits : List Hit) :
    (a :: hits).mergeSort notAfter = (hits.mergeSort notAfter).orderedInsert (notAfter · ·) a := by
  obtain ⟨front, back, whole, rest, early⟩ := @List.mergeSort_cons _ notAfter
    (fun _ _ _ => notAfter_trans) notAfter_total a hits
  have sorted := @List.pairwise_mergeSort _ notAfter (fun _ _ _ => notAfter_trans) notAfter_total
    (a :: hits)
  rw [whole] at sorted
  have late : ∀ b ∈ back, notAfter a b :=
    (List.pairwise_cons.mp (List.pairwise_append.mp sorted).2.1).1
  rw [whole, rest]
  clear whole rest sorted
  induction front with
  | nil =>
    cases back with
    | nil => rfl
    | cons b back => simp [late b]
  | cons b front ih =>
    obtain ⟨first, others⟩ := List.forall_mem_cons.mp early
    rw [Bool.not_eq_true'] at first
    rw [List.cons_append, List.cons_append, List.orderedInsert_cons, if_neg (by simp [first]),
      ← ih others]

def Ordered (hits : List Hit) : Prop := (hits.map Hit.span).Pairwise SpanLe

theorem ordered_place (h : Hit) {hits : List Hit} (ordered : Ordered hits) :
    Ordered (place h hits) := by
  induction hits with
  | nil => exact List.pairwise_singleton _ _
  | cons k rest ih =>
    obtain ⟨least, rest_ordered⟩ := List.pairwise_cons.mp ordered
    rw [place]
    split
    · rename_i before
      refine List.pairwise_cons.mpr ⟨fun span member => ?_, ih rest_ordered⟩
      have members := ((place_perm h rest).map Hit.span).mem_iff.mp member
      rw [List.map_cons] at members
      rcases List.mem_cons.mp members with rfl | member
      · exact (notAfter_iff k h).mp before
      · exact least span member
    · rename_i after
      have first : SpanLe h.span k.span := SpanLe.of_not fun le => after ((notAfter_iff k h).mpr le)
      refine List.pairwise_cons.mpr ⟨fun span member => ?_, ordered⟩
      rcases List.mem_cons.mp member with rfl | member
      · exact first
      · exact first.trans (least span member)

/-- What is cut off before a hit is put in its place would be cut off after it too. -/
theorem take_place (h : Hit) (hits : List Hit) (keep : Nat) :
    (place h (hits.take keep)).take keep = (place h hits).take keep := by
  induction hits generalizing keep with
  | nil => rw [List.take_nil]
  | cons k rest ih =>
    cases keep with
    | zero => rfl
    | succ keep =>
      rw [List.take_succ_cons, place, place]
      split
      · rw [List.take_succ_cons, List.take_succ_cons, ih keep]
      · cases keep with
        | zero => rfl
        | succ keep => simp [List.take_take]

/-! ## All hits -/

def placeAll (hits sorted : List Hit) : List Hit := hits.foldl (fun sorted h => place h sorted) sorted

theorem placeAll_perm (hits sorted : List Hit) : (placeAll hits sorted).Perm (hits ++ sorted) := by
  induction hits generalizing sorted with
  | nil => exact List.Perm.refl _
  | cons h hits ih =>
    exact (ih (place h sorted)).trans
      (((place_perm h sorted).append_left hits).trans List.perm_middle)

theorem ordered_placeAll (hits : List Hit) {sorted : List Hit} (ordered : Ordered sorted) :
    Ordered (placeAll hits sorted) := by
  induction hits generalizing sorted with
  | nil => exact ordered
  | cons h hits ih => exact ih (ordered_place h ordered)

/-- Hits put in their places one by one are sorted, those that lie in one place as they came. -/
theorem placeAll_eq_mergeSort (hits : List Hit) : placeAll hits [] = hits.mergeSort notAfter := by
  have move (a : Hit) (hits sorted : List Hit) :
      placeAll hits (sorted.orderedInsert (notAfter · ·) a) =
        (placeAll hits sorted).orderedInsert (notAfter · ·) a := by
    induction hits generalizing sorted with
    | nil => rfl
    | cons h hits ih =>
      simp only [placeAll, List.foldl_cons] at ih ⊢
      rw [place_orderedInsert, ih]
  induction hits with
  | nil => simp [placeAll]
  | cons a hits ih =>
    rw [mergeSort_cons, ← ih, ← move]
    rfl

def ofHits (keep : Nat) (hits : List Hit) : HitTally := hits.foldl (fun t h => t.add keep h) {}

theorem foldl_add (keep : Nat) (hits sorted : List Hit) (count : Nat) :
    hits.foldl (fun t h => add keep h t) ⟨count, sorted.take keep⟩ =
      ⟨count + hits.length, (placeAll hits sorted).take keep⟩ := by
  induction hits generalizing sorted count with
  | nil => rfl
  | cons h hits ih =>
    rw [List.foldl_cons, add, take_place, ih, List.length_cons, Nat.add_right_comm]
    rfl

theorem ofHits_eq (keep : Nat) (hits : List Hit) :
    ofHits keep hits = ⟨hits.length, (placeAll hits []).take keep⟩ := by
  have all := foldl_add keep hits [] 0
  rwa [List.take_nil, Nat.zero_add] at all

/-- Where hits lie is all that a tally tells of them. -/
theorem ofHits_eq_of_perm (keep : Nat) {hits others : List Hit}
    (perm : (hits.map Hit.span).Perm (others.map Hit.span)) :
    (ofHits keep hits).count = (ofHits keep others).count ∧
      (ofHits keep hits).kept.map Hit.span = (ofHits keep others).kept.map Hit.span := by
  rw [ofHits_eq, ofHits_eq]
  have sorted (hits : List Hit) : (placeAll hits []).map Hit.span |>.Perm (hits.map Hit.span) := by
    have placed := (placeAll_perm hits []).map Hit.span
    rwa [List.append_nil] at placed
  have ordered (hits : List Hit) : Ordered (placeAll hits []) := ordered_placeAll hits List.Pairwise.nil
  have same : (placeAll hits []).map Hit.span = (placeAll others []).map Hit.span :=
    ((sorted hits).trans (perm.trans (sorted others).symm)).eq_of_pairwise' (ordered hits) (ordered others)
  refine ⟨by simpa using perm.length_eq, ?_⟩
  rw [List.map_take, List.map_take, same]

end HitTally

/-! ## Summaries -/

theorem HitSummary.getElem?_record (e : Engine) (s : HitSummary) (h : Hit) {index : Nat}
    {g : HitGroup} {t : HitTally} (group : e.groups[index]? = some g)
    (tally : s.tallies[index]? = some t) :
    (s.record e h).tallies[index]? =
      some (if e.owners[h.pattern]? = some index then t.add g.keep h else t) := by
  unfold record
  cases owner : e.owners[h.pattern]? with
  | none => simpa using tally
  | some i =>
    by_cases same : i = index
    · subst same
      simp only [group, if_true]
      rw [List.getElem?_modify_eq, tally]
      rfl
    · rw [if_neg fun wrong => same (Option.some.inj wrong)]
      cases other : e.groups[i]? with
      | none => simpa only [other] using tally
      | some k =>
        simp only [other]
        rw [List.getElem?_modify_ne _ _ same, tally]

/-- Each group has the tally of the hits that lead to it. -/
theorem HitSummary.getElem?_ofHits (e : Engine) (hits : List Hit) {index : Nat} {g : HitGroup}
    (group : e.groups[index]? = some g) :
    (ofHits e hits).tallies[index]? =
      some (HitTally.ofHits g.keep (hits.filter fun h => e.owners[h.pattern]? = some index)) := by
  have fold (s : HitSummary) (t : HitTally) (tally : s.tallies[index]? = some t) :
      (hits.foldl (record e) s).tallies[index]? =
        some ((hits.filter fun h => e.owners[h.pattern]? = some index).foldl
          (fun t h => t.add g.keep h) t) := by
    induction hits generalizing s t with
    | nil => exact tally
    | cons h hits ih =>
      have step := getElem?_record e s h group tally
      rw [List.foldl_cons, ih _ _ step, List.filter_cons]
      by_cases own : e.owners[h.pattern]? = some index
      · simp [own]
      · simp [own]
  refine fold (empty e) {} ?_
  rw [empty, List.getElem?_map, group, Option.map_some]

end Triage
