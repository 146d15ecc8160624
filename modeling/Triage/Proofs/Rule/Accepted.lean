import Triage.Proofs.Rule.Patterns
import Triage.Proofs.Rule.Recovery

/-! Rules that reading accepts. Each section is checked while it is read, and a condition knows the
names that the patterns before it declared, so nothing about a rule is left to be checked later. -/

namespace Triage

/-! ## Well-formed rules -/

/-- A comparison that rules may make in a section. -/
def Leaf.ComparesIn (s : PropertySection) : Leaf → Prop
  | .property c => c.allowedIn s ∧ ∀ n, c.value = .number n → n < numberBound
  | .call _ => False

/-- A call as its function wants it, of patterns among those named. -/
structure HitCall.Allowed (names : List String) (c : HitCall) : Prop where
  arity : c.function.takes (c.patterns.length + c.hitIndex.toList.length)
  compared : c.comparison.isSome = c.function.isCompared
  indexed : c.hitIndex.isSome → c.function.takesHitIndex
  single : c.function.takesHitIndex → c.patterns.length = 1
  declared : ∀ name ∈ c.patterns, name ∈ names
  index : ∀ n, c.hitIndex = some n → n < numberBound
  number : ∀ op n, c.comparison = some (op, n) → n < numberBound

def Leaf.CallsOn (names : List String) : Leaf → Prop
  | .call c => c.Allowed names
  | .property _ => False

structure HashRecord.WellFormed (r : HashRecord) : Prop where
  some : r.algorithms ≠ []
  lower : ∀ a digest, r.get? a = .some digest → ∀ c ∈ digest.toList, c.isUpper = false

structure HashSection.WellFormed (h : HashSection) : Prop where
  some : h.records ≠ []
  records : ∀ r ∈ h.records, r.WellFormed
  algorithms : ∀ a, a ∈ h.algorithms ↔ ∃ r ∈ h.records, a ∈ r.algorithms

structure GrepSection.WellFormed (g : GrepSection) : Prop where
  some : g.patterns.keys ≠ []
  defined : ∀ defs ∈ g.patterns.values, defs ≠ [] ∧ ∀ d ∈ defs, ∃ c, d.compile = .ok c
  condition : ∀ l ∈ g.condition.leaves, l.CallsOn g.patterns.keys

structure Rule.WellFormed (r : Rule) : Prop where
  hash : ∀ h, r.hash = some h → h.WellFormed
  fileMetadata : ∀ p, r.fileMetadata = some p → ∀ l ∈ p.leaves, l.ComparesIn .fileMetadata
  signature : ∀ p, r.signature = some p → ∀ l ∈ p.leaves, l.ComparesIn .signature
  grep : ∀ g, r.grep = some g → g.WellFormed

theorem SortedMap.mem_keys_insert {α : Type} {m : SortedMap String α} {key other : String} {value : α} :
    other ∈ (m.insert key value).keys ↔ other = key ∨ other ∈ m.keys := by
  obtain ⟨entries⟩ := m
  simp only [keys, insert]
  induction entries with
  | nil => simp [insertEntry]
  | cons first rest ih =>
    rw [insertEntry]
    split
    · simp
    · split
      · rw [List.map_cons, List.mem_cons, ih, List.map_cons, List.mem_cons]
        exact or_left_comm
      · rename_i low high
        obtain rfl : key = first.1 := String.le_antisymm high low
        simp

namespace Reader
variable {α β σ : Type} {names : List String}

/-! ## What readers give where names are declared -/

/-- Where `names` are declared the reader gives what `post` says, and of the names then declared. -/
def Finds (names : List String) (r : Reader α) (post : α → List String → Prop) : Prop :=
  ∀ s : ReaderState, s.declared = names → r.Runs s (fun a t => post a t.declared) fun _ _ => True

/-- The reader declares nothing. -/
def Keeps (names : List String) (r : Reader α) (P : α → Prop) : Prop :=
  r.Finds names fun a found => found = names ∧ P a

section Keeps
variable {r : Reader α} {f : α → Reader β} {P : α → Prop} {Q : β → Prop}
  {post : β → List String → Prop}

theorem finds_pure {post : α → List String → Prop} {a : α} (holds : post a names) :
    (pure a : Reader α).Finds names post := by
  intro s same
  change post a s.declared
  rwa [same]

theorem finds_fail {post : α → List String → Prop} (fault : ParseFault) (position : Position) :
    (fail fault position : Reader α).Finds names post := fun _ _ => trivial

theorem Finds.bind {m : α → List String → Prop} (first : r.Finds names m)
    (next : ∀ a found, m a found → (f a).Finds found post) : (r >>= f).Finds names post := by
  intro s same
  refine runs_bind.mpr ((first s same).mono ?_ fun _ _ _ => trivial)
  intro a t holds
  exact next a t.declared holds t rfl

theorem keeps_pure {a : α} (holds : P a) : (pure a : Reader α).Keeps names P :=
  finds_pure ⟨rfl, holds⟩

theorem keeps_fail (fault : ParseFault) (position : Position) :
    (fail fault position : Reader α).Keeps names P := finds_fail fault position

theorem Keeps.finds (first : r.Keeps names P) (next : ∀ a, P a → (f a).Finds names post) :
    (r >>= f).Finds names post := by
  refine Finds.bind first ?_
  rintro a _ ⟨rfl, holds⟩
  exact next a holds

theorem Keeps.bind (first : r.Keeps names P) (next : ∀ a, P a → (f a).Keeps names Q) :
    (r >>= f).Keeps names Q := first.finds next

theorem Keeps.mono {weaker : α → Prop} (keeps : r.Keeps names P) (weaken : ∀ a, P a → weaker a) :
    r.Keeps names weaker := by
  intro s same
  refine (keeps s same).mono ?_ fun _ _ _ => trivial
  exact fun a t holds => ⟨holds.1, weaken a holds.2⟩

theorem Keeps.discard (keeps : r.Keeps names P) : (discard r).Keeps names fun _ => True := by
  change (r >>= fun _ => pure ⟨⟩ : Reader PUnit).Keeps names _
  exact keeps.bind fun _ _ => keeps_pure trivial

theorem Keeps.map {g : α → β} (keeps : r.Keeps names fun a => Q (g a)) : (g <$> r).Keeps names Q := by
  rw [map_eq_pure_bind]
  exact keeps.bind fun a holds => keeps_pure holds

theorem keeps_get_bind {f : ReaderState → Reader β}
    (next : ∀ s, s.declared = names → (f s).Keeps names Q) : (get >>= f).Keeps names Q :=
  fun s same => runs_bind.mpr (next s same s same)

theorem keeps_unless {fault : ParseFault} {position : Position} {bad : Prop} [Decidable bad]
    {f : PUnit → Reader β} (next : ¬bad → (f ⟨⟩).Keeps names Q) :
    (if bad then fail fault position >>= f else f ⟨⟩).Keeps names Q := by
  split
  · exact fun _ _ => trivial
  · rename_i good
    exact next good

theorem keeps_peek : peek.Keeps names fun _ => True := fun _ same => ⟨same, trivial⟩

theorem keeps_advance : advance.Keeps names fun _ => True := by
  intro s same
  refine ⟨?_, trivial⟩
  unfold ReaderState.skip
  split <;> exact same

theorem keeps_isNext (kind : TokenKind) : (isNext kind).Keeps names fun _ => True :=
  keeps_peek.bind fun _ _ => keeps_pure trivial

theorem keeps_accept? (kind : TokenKind) : (accept? kind).Keeps names fun _ => True := by
  refine (keeps_isNext kind).bind fun next _ => ?_
  split
  · exact keeps_advance.map
  · exact keeps_pure trivial

theorem keeps_accept (kind : TokenKind) : (accept kind).Keeps names fun _ => True :=
  (keeps_accept? kind).bind fun _ _ => keeps_pure trivial

theorem keeps_expectAny (kinds : List TokenKind) (what : String) :
    (expectAny kinds what).Keeps names fun _ => True := by
  refine keeps_peek.bind fun t _ => ?_
  split
  · exact keeps_advance
  · exact keeps_fail _ _

theorem keeps_expect (kind : TokenKind) (what : String) :
    (expect kind what).Keeps names fun _ => True := keeps_expectAny _ _

theorem keeps_heading (k : Keyword) : (heading k).Keeps names fun _ => True :=
  (keeps_expect _ _).discard.bind fun _ _ => (keeps_expect _ _).discard

theorem finds_iterate {step : σ → Reader (Option σ)} {holds : σ → List String → Prop}
    (keeps : ∀ a found, holds a found → (step a).Finds found fun next later =>
      match next with
      | some b => holds b later
      | none => holds a later)
    (fuel : Nat) {a : σ} (start : holds a names) : (iterate step fuel a).Finds names holds := by
  induction fuel generalizing a names with
  | zero => exact finds_pure start
  | succ fuel ih =>
    refine (keeps a names start).bind fun next found kept => ?_
    cases next with
    | none => exact finds_pure kept
    | some b => exact ih kept

theorem finds_repeatStep {step : σ → Reader (Option σ)} (holds : σ → List String → Prop)
    (keeps : ∀ a found, holds a found → (step a).Finds found fun next later =>
      match next with
      | some b => holds b later
      | none => holds a later)
    {a : σ} (start : holds a names) : (repeatStep step a).Finds names holds :=
  fun s same => runs_bind.mpr (finds_iterate keeps _ start s same)

theorem keeps_repeatStep {step : σ → Reader (Option σ)} {P : σ → Prop}
    (keeps : ∀ a, P a → (step a).Keeps names fun next => ∀ b, next = some b → P b) {a : σ}
    (start : P a) : (repeatStep step a).Keeps names P := by
  refine finds_repeatStep _ ?_ ⟨rfl, start⟩
  rintro a _ ⟨rfl, holds⟩ s same
  refine (keeps a holds s same).mono ?_ fun _ _ _ => trivial
  rintro next t ⟨later, kept⟩
  cases next with
  | none => exact ⟨later, holds⟩
  | some b => exact ⟨later, kept b rfl⟩

theorem keeps_commaSeparated {item : σ → Reader σ} {P Q : σ → Prop}
    (each : ∀ a, P a → (item a).Keeps names Q) (again : ∀ a, Q a → P a) {a : σ} (start : P a) :
    (commaSeparated item a).Keeps names Q := by
  refine (each a start).bind fun b done => keeps_repeatStep (fun c holds => ?_) done
  refine (keeps_accept _).bind fun comma _ => ?_
  split
  · exact (each c (again c holds)).mono (fun d more e same => Option.some.inj same ▸ more) |>.map
  · exact keeps_pure (by simp)

theorem Keeps.nested (keeps : r.Keeps names P) : (nested r).Keeps names P :=
  fun s same => runs_nested.mpr (keeps { s with nesting := s.nesting + 1 } same)

end Keeps

/-! ## Sections without names -/

theorem keeps_quotedText : quotedText.Keeps names fun _ => True :=
  (keeps_expect _ _).bind fun _ _ => keeps_pure trivial

theorem keeps_metaSection : metaSection.Keeps names fun _ => True := by
  refine (keeps_heading _).bind fun _ _ => keeps_repeatStep (fun fields _ => ?_) trivial
  refine (keeps_accept? _).bind fun key _ => ?_
  cases key with
  | none => exact keeps_pure (by simp)
  | some t =>
    refine (keeps_expect _ _).discard.bind fun _ _ => ?_
    exact keeps_quotedText.bind fun text _ => keeps_pure (by simp)

theorem isUpper_toLower (c : Char) : c.toLower.isUpper = false := by
  unfold Char.toLower Char.isUpper
  split
  · rename_i upper
    simp only [ge_iff_le, UInt32.le_iff_toNat_le, decide_eq_false_iff_not] at upper ⊢
    have sum : (c.val + ('a'.val - 'A'.val)).toNat = c.val.toNat + 32 := by
      rw [UInt32.toNat_add]
      have low : 'Z'.val.toNat = 90 := rfl
      have gap : ('a'.val - 'A'.val).toNat = 32 := rfl
      omega
    have low : 'A'.val.toNat = 65 := rfl
    have high : 'Z'.val.toNat = 90 := rfl
    omega
  · rename_i other
    simpa using other

def HashLower (r : HashRecord) : Prop :=
  ∀ a digest, r.get? a = some digest → ∀ c ∈ digest.toList, c.isUpper = false

theorem hashLower_set {r : HashRecord} (lower : HashLower r) (a : HashAlgorithm) (digest : String) :
    HashLower (r.set (digest.map Char.toLower) a) := by
  intro b text found c member
  by_cases same : b = a
  · subst same
    have text : digest.map Char.toLower = text := by
      cases b <;> simpa [HashRecord.set, HashRecord.get?] using found
    rw [← text, String.toList_map] at member
    obtain ⟨d, _, rfl⟩ := List.mem_map.mp member
    exact isUpper_toLower d
  · refine lower b text ?_ c member
    rw [← found]
    cases a <;> cases b <;> first | rfl | exact absurd rfl same

theorem keeps_hashRecord : hashRecord.Keeps names HashRecord.WellFormed := by
  refine keeps_commaSeparated (P := HashLower) (fun r lower => ?_) (fun r formed => formed.lower) ?_
  · refine keeps_peek.bind fun t _ => ?_
    cases HashAlgorithm.ofToken? t.kind with
    | none => exact keeps_fail _ _
    | some a =>
      refine keeps_advance.discard.bind fun _ _ => (keeps_expect _ _).discard.bind fun _ _ => ?_
      refine keeps_quotedText.bind fun digest _ => keeps_unless fun _ => keeps_pure ⟨?_, ?_⟩
      · refine List.ne_nil_of_mem (a := a) (List.mem_filter.mpr ⟨?_, ?_⟩) <;>
          cases a <;> simp [HashAlgorithm.every, HashRecord.set, HashRecord.get?]
      · exact hashLower_set lower a digest
  · intro a digest found
    cases a <;> nomatch found

theorem mem_algorithms {h : HashSection} {a : HashAlgorithm} :
    a ∈ h.algorithms ↔ ∃ r ∈ h.records, a ∈ r.algorithms := by
  have every : a ∈ HashAlgorithm.every := by cases a <;> decide
  simp [HashSection.algorithms, HashRecord.algorithms, every]

theorem keeps_hashSection : hashSection.Keeps names HashSection.WellFormed := by
  refine (keeps_heading _).bind fun _ _ => ?_
  refine (keeps_repeatStep (P := fun records => ∀ r ∈ records, r.WellFormed) (fun records formed => ?_)
    (by simp)).bind fun records formed => ?_
  · refine keeps_peek.bind fun t _ => ?_
    split
    · refine keeps_hashRecord.bind fun r more => keeps_pure ?_
      rintro _ ⟨⟩
      exact List.forall_mem_append.mpr ⟨formed, by simpa using more⟩
    · exact keeps_pure (by simp)
  · dsimp only
    split
    · exact keeps_peek.bind fun t _ => fun _ _ => trivial
    · rename_i some
      exact keeps_pure ⟨by simpa using some, formed, fun a => mem_algorithms⟩

theorem keeps_numberOf (t : Token) : (numberOf t).Keeps names (· < numberBound) := by
  unfold numberOf
  cases found : number? t.text with
  | none => exact keeps_fail _ _
  | some n =>
    unfold number? at found
    obtain ⟨bound, same⟩ := Option.ite_none_right_eq_some.mp found
    exact keeps_pure (Option.some.inj same ▸ bound)

theorem keeps_operator : operator.Keeps names fun _ => True := by
  refine keeps_peek.bind fun t _ => ?_
  cases CompareOp.ofToken? t.kind with
  | none => exact keeps_fail _ _
  | some op => exact keeps_advance.discard.bind fun _ _ => keeps_pure trivial

theorem keeps_number : number.Keeps names (· < numberBound) :=
  (keeps_expect _ _).bind fun t _ => keeps_numberOf t

theorem home_named? {s : PropertySection} {name : String} {property : Property}
    (found : s.named? name = some property) : property.home = s := by
  have member := mem_properties found
  cases s <;> simp [PropertySection.properties] at member
  · rcases member with ⟨_, rfl⟩ | ⟨_, rfl⟩ | ⟨_, rfl⟩ | ⟨_, rfl⟩ | ⟨_, rfl⟩ <;> rfl
  · rcases member with ⟨_, rfl⟩ | ⟨_, rfl⟩ <;> rfl

theorem keeps_comparison (s : PropertySection) :
    (comparison s).Keeps names (Leaf.ComparesIn s) := by
  refine keeps_peek.bind fun t _ => ?_
  dsimp only
  cases found : if decide (t.kind = .identifier) || t.kind.isKeyword then s.named? t.text else none with
  | none => exact keeps_fail _ _
  | some property =>
    have named := (Option.ite_none_right_eq_some.mp found).2
    refine keeps_advance.discard.bind fun _ _ => keeps_peek.bind fun sign _ => ?_
    refine keeps_operator.bind fun op _ => keeps_unless fun allowed => ?_
    have done {v : Value} (kind : v.kind = property.valueKind)
        (bound : ∀ n, v = .number n → n < numberBound) :
        (Leaf.property ⟨property, op, v⟩).ComparesIn s := by
      have allows : property.allows op := by simpa using allowed
      exact ⟨by simp [Comparison.allowedIn, allows, kind, home_named? named], bound⟩
    cases kind : property.valueKind with
    | text => exact (keeps_expect _ _).bind fun t _ => keeps_pure (done kind.symm (by simp))
    | number =>
      exact keeps_number.bind fun n bound => keeps_pure (done kind.symm (by simpa using bound))

/-! ## Predicates -/

theorem keeps_predicate {leaf : Reader Leaf} {P : Leaf → Prop} (leaves : leaf.Keeps names P) :
    (predicate leaf).Keeps names fun p => ∀ l ∈ p.leaves, P l := by
  have joins {k : Keyword} {join : Predicate → Predicate → Predicate} {item : Reader Predicate}
      (split : ∀ l r, (join l r).leaves = l.leaves ++ r.leaves)
      (items : item.Keeps names fun p => ∀ l ∈ p.leaves, P l) :
      (joined k join item).Keeps names fun p => ∀ l ∈ p.leaves, P l := by
    refine items.bind fun first holds => keeps_repeatStep (fun left holds => ?_) holds
    refine (keeps_accept _).bind fun more _ => ?_
    split
    · refine items.bind fun right also => keeps_pure ?_
      rintro _ ⟨⟩
      rw [split]
      exact List.forall_mem_append.mpr ⟨holds, also⟩
    · exact keeps_pure (by simp)
  have factors {inner : Reader Predicate} (inners : inner.Keeps names fun p => ∀ l ∈ p.leaves, P l) :
      (factor leaf inner).Keeps names fun p => ∀ l ∈ p.leaves, P l := by
    refine (keeps_accept? _).bind fun paren _ => ?_
    cases paren with
    | none =>
      refine Keeps.map (leaves.mono fun l holds => ?_)
      simpa [Predicate.leaves] using holds
    | some t =>
      refine keeps_get_bind fun s _ => keeps_unless fun _ => inners.nested.bind fun p holds => ?_
      exact (keeps_expect _ _).discard.bind fun _ _ => keeps_pure holds
  have within (levels : Nat) :
      (predicateWithin leaf levels).Keeps names fun p => ∀ l ∈ p.leaves, P l := by
    induction levels with
    | zero => exact keeps_peek.bind fun t _ => keeps_fail _ _
    | succ levels ih =>
      exact joins (fun _ _ => rfl) (joins (fun _ _ => rfl) (factors ih))
  exact within _

theorem keeps_fileMetadataSection : fileMetadataSection.Keeps names fun p =>
    ∀ l ∈ p.leaves, l.ComparesIn .fileMetadata :=
  (keeps_heading _).bind fun _ _ => keeps_predicate (keeps_comparison _)

theorem keeps_signatureSection : signatureSection.Keeps names fun p =>
    ∀ l ∈ p.leaves, l.ComparesIn .signature :=
  (keeps_heading _).bind fun _ _ => keeps_predicate (keeps_comparison _)

/-! ## Calls -/

theorem keeps_arguments : arguments.Keeps names fun _ => True := by
  refine (keeps_isNext _).bind fun none _ => ?_
  split
  · exact keeps_pure trivial
  · refine keeps_commaSeparated (P := fun _ => True) (fun ts _ => ?_) (fun _ _ => trivial) trivial
    exact (keeps_expectAny _ _).bind fun t _ => keeps_pure trivial

/-- What the arguments of a function give when the first of them is its argument number `i`. -/
structure Argued (f : HitFunction) (declared : List String) (i count : Nat)
    (read : List String × Option Nat) : Prop where
  declared : ∀ name ∈ read.1, name ∈ declared
  bound : ∀ n, read.2 = some n → n < numberBound
  indexed : read.2.isSome = (f.takesHitIndex && decide (i ≤ 1 ∧ 1 < i + count))
  count : read.1.length + read.2.toList.length = count

theorem keeps_readArguments (f : HitFunction) (declared : List String) (i : Nat) (ts : List Token) :
    (readArguments f declared i ts).Keeps names (Argued f declared i ts.length) := by
  induction ts generalizing i with
  | nil => exact keeps_pure ⟨by simp, by simp, by simp, rfl⟩
  | cons t rest ih =>
    rw [readArguments]
    split
    · rename_i index
      refine keeps_unless fun _ => (keeps_numberOf t).bind fun n bound => ?_
      refine (ih (i + 1)).bind fun read argued => keeps_pure ?_
      obtain ⟨takes, rfl⟩ : f.takesHitIndex ∧ i = 1 := by simpa using index
      -- Behind a hit index no other one comes.
      have none : read.2 = none := by simpa using argued.indexed
      have count := argued.count
      simp only [none, Option.toList_none, List.length_nil, Nat.add_zero] at count
      exact ⟨argued.declared, by simpa using bound, by simp [takes], by simp [count]⟩
    · rename_i name
      refine keeps_unless fun _ => keeps_unless fun known => ?_
      refine (ih (i + 1)).bind fun read argued => keeps_pure ⟨?_, argued.bound, ?_, ?_⟩
      · exact List.forall_mem_cons.mpr ⟨by simpa using known, argued.declared⟩
      · have other : f.takesHitIndex = true → i ≠ 1 := by simpa using name
        rw [List.length_cons, argued.indexed]
        cases takes : f.takesHitIndex with
        | false => rfl
        | true =>
          have later : (i + 1 ≤ 1 ∧ 1 < i + 1 + rest.length) ↔ i ≤ 1 ∧ 1 < i + (rest.length + 1) := by
            have := other takes
            omega
          simp only [later]
      · dsimp only
        rw [List.length_cons, List.length_cons, ← argued.count]
        omega

theorem bounds_of_takes {f : HitFunction} {n : Nat} (index : f.takesHitIndex) (takes : f.takes n) :
    1 ≤ n ∧ n ≤ 2 := by
  cases f <;> simp [HitFunction.takesHitIndex] at index <;>
    simp [HitFunction.takes, HitFunction.leastArguments, HitFunction.mostArguments?] at takes <;>
    exact ⟨of_decide_eq_true takes.1, takes.2⟩

theorem Argued.allowed {f : HitFunction} {declared : List String} {count : Nat}
    {read : List String × Option Nat} (argued : Argued f declared 0 count read)
    {compared : Option (CompareOp × Nat)} (takes : f.takes count)
    (compares : compared.isSome = f.isCompared) (known : ∀ name ∈ read.1, name ∈ names)
    (number : ∀ op n, compared = some (op, n) → n < numberBound) :
    HitCall.Allowed names ⟨f, read.1, read.2, compared⟩ where
  arity := by
    dsimp only
    rwa [argued.count]
  compared := compares
  indexed := by
    intro some
    have indexed := argued.indexed
    dsimp only at some ⊢
    rw [some] at indexed
    exact (Bool.and_eq_true_iff.mp indexed.symm).1
  single := by
    intro index
    have indexed := argued.indexed
    have counted := argued.count
    dsimp only at index ⊢
    have bounds := bounds_of_takes index takes
    rcases found : read.2 with _ | n <;> simp [found, index] at indexed counted <;> omega
  declared := known
  index := argued.bound
  number := number

theorem keeps_call : call.Keeps names (Leaf.CallsOn names) := by
  refine keeps_peek.bind fun t _ => ?_
  dsimp only
  cases HitFunction.ofToken? t.kind with
  | none => exact keeps_fail _ _
  | some f =>
    refine keeps_advance.discard.bind fun _ _ => (keeps_expect _ _).discard.bind fun _ _ => ?_
    refine keeps_arguments.bind fun ts _ => (keeps_expect _ _).discard.bind fun _ _ => ?_
    refine keeps_peek.bind fun sign _ => ?_
    have rest (compared : Option (CompareOp × Nat))
        (number : ∀ op n, compared = some (op, n) → n < numberBound) :
        (shapedCall f t ts compared).Keeps names (Leaf.CallsOn names) := by
      unfold shapedCall
      refine keeps_unless fun takes => ?_
      have read (compares : compared.isSome = f.isCompared) :
          (namedCall f ts compared).Keeps names (Leaf.CallsOn names) := by
        refine keeps_get_bind fun s same => (keeps_readArguments f _ 0 ts).bind fun read argued => ?_
        refine keeps_pure (argued.allowed (by simpa using takes) compares ?_ number)
        rw [← same]
        exact argued.declared
      dsimp only
      split
      · exact keeps_peek.bind fun _ _ _ _ => trivial
      · rename_i missing
        refine keeps_unless fun unexpected => read ?_
        revert missing unexpected
        cases f.isCompared <;> cases compared <;> simp
    split
    · exact keeps_operator.bind fun op _ => keeps_number.bind fun n bound =>
        rest (some (op, n)) (by simpa using bound)
    · exact rest none (by simp)

/-! ## Patterns -/

theorem keeps_checkCompiles (position : Position) (d : PatternDef) :
    (checkCompiles position d).Keeps names fun _ => ∃ c, d.compile = .ok c := by
  unfold checkCompiles
  cases found : d.compile with
  | ok c => exact keeps_pure ⟨c, rfl⟩
  | error e => exact keeps_fail _ _

theorem keeps_forM {f : σ → Reader PUnit} {P : σ → Prop} (as : List σ)
    (each : ∀ a, (f a).Keeps names fun _ => P a) : (as.forM f).Keeps names fun _ => ∀ a ∈ as, P a := by
  induction as with
  | nil => exact keeps_pure (by simp)
  | cons a as ih =>
    refine (each a).bind fun _ first => ih.mono fun _ others => ?_
    exact List.forall_mem_cons.mpr ⟨first, others⟩

theorem keeps_encodings : encodings.Keeps names (· ≠ []) := by
  refine (keeps_expect _ _).discard.bind fun _ _ => ?_
  refine keeps_commaSeparated (P := fun _ => True) (fun found _ => ?_) (fun _ _ => trivial) trivial
  exact (keeps_expect _ _).bind fun t _ => keeps_unless fun _ => keeps_pure (by simp)

theorem keeps_modifiers : modifiers.Keeps names fun m => m.encodings ≠ [] := by
  refine keeps_repeatStep (fun m holds => ?_) (by simp)
  refine (keeps_accept _).bind fun nocase _ => ?_
  split
  · exact keeps_pure (by simpa using holds)
  refine (keeps_accept _).bind fun fixed _ => ?_
  split
  · exact keeps_pure (by simpa using holds)
  refine (keeps_accept _).bind fun list _ => ?_
  split
  · exact keeps_encodings.bind fun found some => keeps_pure (by simpa using some)
  · exact keeps_pure (by simp)

def Compiled (defs : List PatternDef) : Prop := defs ≠ [] ∧ ∀ d ∈ defs, ∃ c, d.compile = .ok c

theorem keeps_textPattern (t : Token) : (textPattern t).Keeps names Compiled := by
  refine keeps_modifiers.bind fun m some => ?_
  refine (keeps_forM _ fun d => keeps_checkCompiles _ d).bind fun _ compile => keeps_pure ⟨?_, compile⟩
  simpa using some

theorem keeps_hexString : hexString.Keeps names fun _ => True := by
  refine (keeps_repeatStep (P := fun _ => True) (fun digits _ => ?_) trivial).bind fun digits _ => ?_
  · refine keeps_peek.bind fun t _ => ?_
    split
    · exact keeps_pure (by simp)
    · exact (keeps_expectAny _ _).discard.bind fun _ _ => keeps_unless fun _ => keeps_pure (by simp)
  · refine keeps_peek.bind fun stop _ => keeps_unless fun _ => keeps_unless fun _ => keeps_unless fun _ => ?_
    exact (keeps_expect _ _).discard.bind fun _ _ => keeps_pure trivial

theorem keeps_hexPattern (t : Token) : (hexPattern t).Keeps names Compiled := by
  refine keeps_hexString.bind fun text _ => (keeps_checkCompiles _ _).bind fun _ compile => ?_
  exact keeps_pure ⟨by simp, by simpa using compile⟩

theorem keeps_patternDefinition : patternDefinition.Keeps names Compiled := by
  refine (keeps_expect _ _).discard.bind fun _ _ => (keeps_accept? _).bind fun text _ => ?_
  cases text with
  | some t => exact keeps_textPattern t
  | none =>
    refine (keeps_accept? _).bind fun brace _ => ?_
    cases brace with
    | some t => exact keeps_hexPattern t
    | none => exact keeps_peek.bind fun t _ => keeps_fail _ _

/-- The names that are declared have patterns, which compile. -/
def Declares (m : SortedMap String (List PatternDef)) (declared : List String) : Prop :=
  (∀ name ∈ declared, name ∈ m.keys) ∧ ∀ defs ∈ m.values, Compiled defs

theorem declares_insert {m : SortedMap String (List PatternDef)} {declared : List String}
    (holds : Declares m declared) (name : String) {defs : List PatternDef} (compiled : Compiled defs) :
    Declares (m.insert name defs) (if declared.contains name then declared else name :: declared) := by
  refine ⟨fun other member => SortedMap.mem_keys_insert.mpr ?_, fun found member => ?_⟩
  · split at member
    · exact .inr (holds.1 other member)
    · exact (List.mem_cons.mp member).imp_right (holds.1 other)
  · obtain ⟨entry, inside, rfl⟩ := List.mem_map.mp member
    rcases SortedMap.mem_insertEntry inside with rfl | before
    · exact compiled
    · exact holds.2 _ (List.mem_map_of_mem before)

theorem finds_patternsSection : patternsSection.Finds [] fun m declared =>
    Declares m declared ∧ m.keys ≠ [] := by
  refine (keeps_heading _).finds fun _ _ => ?_
  refine (finds_repeatStep Declares (fun m declared holds => ?_) ?_).bind fun m declared holds => ?_
  · refine (keeps_accept? _).finds fun name _ => ?_
    cases name with
    | none => exact finds_pure holds
    | some t =>
      refine keeps_patternDefinition.finds fun defs compiled => ?_
      have done : (declare t.text >>= fun _ => pure (some (m.insert t.text defs)) :
          Reader (Option (SortedMap String (List PatternDef)))).Finds declared fun next later =>
            match next with
            | some m => Declares m later
            | none => Declares m later := by
        rintro s rfl
        exact declares_insert holds t.text compiled
      dsimp only
      split
      · exact fun _ _ => trivial
      · exact done
  · exact ⟨by simp, by simp [SortedMap.empty, SortedMap.values]⟩
  · dsimp only
    split
    · exact keeps_peek.finds fun t _ => fun _ _ => trivial
    · rename_i some
      exact finds_pure ⟨holds, by simpa [SortedMap.isEmpty, SortedMap.keys] using some⟩

theorem callsOn_mono {more : List String} (among : ∀ name ∈ names, name ∈ more) {l : Leaf}
    (calls : l.CallsOn names) : l.CallsOn more := by
  cases l with
  | property c => exact calls
  | call c => exact { calls with declared := fun name member => among name (calls.declared name member) }

theorem finds_grepSection : grepSection.Finds [] fun g _ => g.WellFormed := by
  refine (keeps_heading _).finds fun _ _ => finds_patternsSection.bind fun m declared holds => ?_
  refine (keeps_heading _).finds fun _ _ => (keeps_predicate keeps_call).finds fun p leaves => ?_
  refine finds_pure ⟨holds.2, holds.1.2, fun l member => ?_⟩
  exact callsOn_mono holds.1.1 (leaves l member)

theorem keeps_section? {r : Reader α} {P : α → Prop} (k : Keyword) (keeps : r.Keeps names P) :
    (section? k r).Keeps names fun found => ∀ a, found = some a → P a := by
  refine (keeps_isNext _).bind fun next _ => ?_
  split
  · exact (keeps.mono fun a holds b same => Option.some.inj same ▸ holds).map
  · exact keeps_pure (by simp)

theorem finds_section? {r : Reader α} {P : α → Prop} (k : Keyword)
    (finds : r.Finds names fun a _ => P a) :
    (section? k r).Finds names fun found _ => ∀ a, found = some a → P a := by
  refine (keeps_isNext _).finds fun next _ => ?_
  split
  · rw [map_eq_pure_bind]
    exact finds.bind fun a _ holds => finds_pure fun b same => Option.some.inj same ▸ holds
  · exact finds_pure (by simp)

theorem finds_declaration (start : ReaderState) :
    (declaration start).Finds [] fun r _ => r.WellFormed := by
  refine (keeps_expect _ _).finds fun _ _ => (keeps_expect _ _).discard.finds fun _ _ => ?_
  refine (keeps_section? _ keeps_metaSection).finds fun _ _ => ?_
  refine (keeps_section? _ keeps_hashSection).finds fun _ hash => ?_
  refine (keeps_section? _ keeps_fileMetadataSection).finds fun _ fileMetadata => ?_
  refine (keeps_section? _ keeps_signatureSection).finds fun _ signature => ?_
  refine (finds_section? _ finds_grepSection).bind fun _ declared grep => ?_
  refine (keeps_expect _ _).discard.finds fun _ _ => fun s _ => ?_
  exact ⟨hash, fileMetadata, signature, grep⟩

end Reader

theorem parsed_wellFormed {text : String} {list : RuleList} (read : parseRules text = .ok list) {r : Rule}
    (member : r ∈ list.rules) : r.WellFormed := by
  obtain ⟨_, _, s, t, _, _, _, _, fresh, _, ran⟩ := exists_declaration read member
  have behind : s.skip.declared = [] := by
    unfold ReaderState.skip
    split <;> exact fresh
  exact (Reader.finds_declaration s s.skip behind).of_ok ran

end Triage
