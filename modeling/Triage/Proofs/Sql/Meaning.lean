import Triage.Engine
import Triage.Proofs.Sql.Reading
import Triage.Proofs.TextBytes

/-! What conditions select. On the columns of a file's row the condition that a predicate is written as is
true where the predicate holds of the file, and only there: a column that is NULL makes its comparison
unknown, and a property that is missing makes it fail. -/

namespace Triage

/-- Whether two values compare so. -/
def CompareOp.admits : CompareOp → Ordering → Bool
  | eq => Ordering.isEq
  | ne => Ordering.isNe
  | lt => Ordering.isLT
  | le => Ordering.isLE
  | gt => Ordering.isGT
  | ge => Ordering.isGE

theorem CompareOp.admits_eq_holds (op : CompareOp) (o : Ordering) : op.admits o = op.holds o := by
  cases op <;> cases o <;> rfl

namespace Sql

/-- The value of each column, or nothing where it is NULL. -/
abbrev Columns := String → Option Value

/-- A comparison with NULL is unknown, and one of values that are not of one kind too. -/
def comparisonTruth (op : CompareOp) : Option Value → Value → Option Bool
  | some (.number a), .number b => some (op.admits (compare a b))
  | some (.text a), .text b => some (op.admits (compareBytes a b))
  | _, _ => none

def andTruth : Option Bool → Option Bool → Option Bool
  | some false, _ => some false
  | _, some false => some false
  | some true, some true => some true
  | _, _ => none

def orTruth : Option Bool → Option Bool → Option Bool
  | some true, _ => some true
  | _, some true => some true
  | some false, some false => some false
  | _, _ => none

/-- Whether a condition is true, false or unknown. -/
def Condition.truth (columns : Columns) : Condition → Option Bool
  | .compare column op v => comparisonTruth op (columns column) v
  | .and l r => andTruth (l.truth columns) (r.truth columns)
  | .or l r => orTruth (l.truth columns) (r.truth columns)

theorem andTruth_eq_true {a b : Option Bool} : andTruth a b = some true ↔ a = some true ∧ b = some true := by
  rcases a with _ | _ | _ <;> rcases b with _ | _ | _ <;> simp [andTruth]

theorem orTruth_eq_true {a b : Option Bool} : orTruth a b = some true ↔ a = some true ∨ b = some true := by
  rcases a with _ | _ | _ <;> rcases b with _ | _ | _ <;> simp [orTruth]

/-- The row of a file. What is not known of the file is NULL. -/
def columns (d : Dirent) (n : Inode) : Columns
  | "Filesize" => some (.number n.size)
  | "Name" => some (.text d.name)
  | "Path" => some (.text d.path)
  | "Created" => n.created.map fun t => .text t.text
  | "Modified" => n.modified.map fun t => .text t.text
  | "signature.Name" => n.signature.map fun s => .text s.name
  | "signature.Id" => n.signature.map fun s => .text s.id
  | _ => none

section files
variable (d : Dirent) (n : Inode)

theorem columns_filesize : columns d n Property.filesize.column = some (.number n.size) := rfl

theorem columns_text {p : Property} (texts : p.valueKind = .text) :
    columns d n p.column = (FileFacts.text? d n p).map .text := by
  cases p with
  | filesize => nomatch texts
  | filename | filepath => rfl
  | created | modified | signatureName | signatureId => exact (Option.map_map ..).symm

/-- A comparison is true in the row where it holds of the file. -/
theorem comparisonTruth_eq_true {c : Comparison} (typed : c.value.kind = c.property.valueKind) :
    comparisonTruth c.op (columns d n c.property.column) c.value = some true ↔
      FileFacts.comparisonHolds d n c := by
  obtain ⟨p, op, v⟩ := c
  cases v with
  | number expected =>
    obtain rfl : p = .filesize := by cases p <;> first | rfl | nomatch typed
    rw [columns_filesize, comparisonTruth, CompareOp.admits_eq_holds, Option.some.injEq]
    rfl
  | text expected =>
    have holds : FileFacts.comparisonHolds d n ⟨p, op, .text expected⟩ =
        (FileFacts.text? d n p).any fun actual => op.compare actual expected := by
      cases p with
      | filesize => nomatch typed
      | _ => rfl
    rw [holds, columns_text d n typed.symm]
    cases FileFacts.text? d n p with
    | none => exact ⟨nofun, nofun⟩
    | some actual =>
      rw [Option.map_some, comparisonTruth, CompareOp.admits_eq_holds, ← compare_eq_compareBytes,
        Option.some.injEq]
      rfl

/-- True three-valued is true two-valued, since nothing is negated. -/
theorem truth_eq_true {p : Predicate} {c : Condition} (is : p.condition? = some c)
    (typed : ∀ x, .property x ∈ p.leaves → x.value.kind = x.property.valueKind) :
    c.truth (columns d n) = some true ↔ FileFacts.propertiesHold d n p := by
  induction p generalizing c with
  | leaf l =>
    cases l with
    | call x => nomatch is
    | property x =>
      obtain rfl := Option.some.inj is
      exact comparisonTruth_eq_true d n (typed x (List.mem_singleton.mpr rfl))
  | and l r left right =>
    obtain ⟨a, isA, is⟩ := Option.bind_eq_some_iff.mp is
    obtain ⟨b, isB, is⟩ := Option.bind_eq_some_iff.mp is
    obtain rfl := Option.some.inj is
    have first := left isA fun x member => typed x (List.mem_append_left _ member)
    have second := right isB fun x member => typed x (List.mem_append_right _ member)
    rw [Condition.truth, andTruth_eq_true, first, second]
    exact (Bool.and_eq_true_iff ..).symm
  | or l r left right =>
    obtain ⟨a, isA, is⟩ := Option.bind_eq_some_iff.mp is
    obtain ⟨b, isB, is⟩ := Option.bind_eq_some_iff.mp is
    obtain rfl := Option.some.inj is
    have first := left isA fun x member => typed x (List.mem_append_left _ member)
    have second := right isB fun x member => typed x (List.mem_append_right _ member)
    rw [Condition.truth, orTruth_eq_true, first, second]
    exact (Bool.or_eq_true_iff ..).symm

end files

/-- Only functions of hits are not written. What is written is read back as the predicate, so no other
predicate is written the same, and it selects the files of which the predicate holds. -/
theorem clause?_selects (p : Predicate) :
    (clause? p = none ↔ ∃ c, .call c ∈ p.leaves) ∧
    ∀ text, clause? p = some text →
      (∀ q, clause? q = some text → q = p) ∧
      ∃ c, read? text = some c ∧ c.predicate? = some p ∧
        ((∀ x, .property x ∈ p.leaves → x.value.kind = x.property.valueKind) →
          ∀ d n, c.truth (columns d n) = some true ↔ FileFacts.propertiesHold d n p) := by
  refine ⟨clause?_eq_none, fun text written => ?_⟩
  obtain ⟨c, condition, reads⟩ := read?_clause written
  have back : c.predicate? = some p := Predicate.predicate?_condition? condition
  refine ⟨fun q same => ?_, c, reads, back, fun typed d n => truth_eq_true d n condition typed⟩
  obtain ⟨c', condition', reads'⟩ := read?_clause same
  obtain rfl : c' = c := Option.some.inj (reads'.symm.trans reads)
  exact Option.some.inj ((Predicate.predicate?_condition? condition').symm.trans back)

/-- A file without a signature, and a predicate whose texts hold a quote and a keyword. -/
theorem clause?_selects_quoted :
    clause? (.or (.and (.leaf (.property ⟨.filename, .eq, .text "it's"⟩))
        (.leaf (.property ⟨.filesize, .ge, .number 10⟩)))
      (.leaf (.property ⟨.signatureName, .ne, .text "' OR ("⟩))) =
        some "((Name == 'it''s' AND Filesize >= 10) OR signature.Name != ''' OR (')" ∧
      ∃ c, read? "((Name == 'it''s' AND Filesize >= 10) OR signature.Name != ''' OR (')" = some c ∧
        c.truth (columns ⟨"/it's", "it's", 1, .file⟩ ⟨1, 10, none, none, none⟩) = some true ∧
        ¬c.truth (columns ⟨"/it's", "it's", 1, .file⟩ ⟨1, 9, none, none, none⟩) = some true := by
  have written : clause? (.or (.and (.leaf (.property ⟨.filename, .eq, .text "it's"⟩))
      (.leaf (.property ⟨.filesize, .ge, .number 10⟩)))
      (.leaf (.property ⟨.signatureName, .ne, .text "' OR ("⟩))) =
        some "((Name == 'it''s' AND Filesize >= 10) OR signature.Name != ''' OR (')" := by rfl
  obtain ⟨-, c, reads, -, selects⟩ := (clause?_selects _).2 _ written
  have same := selects (by simp [Predicate.leaves, Value.kind, Property.valueKind])
  refine ⟨written, c, reads, (same _ _).mpr (by decide), fun holds => ?_⟩
  exact absurd ((same _ _).mp holds) (by decide)

end Sql
end Triage
