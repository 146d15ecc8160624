import Triage.Proofs.Rule.Entries

/-! Predicates are read back as the trees that they were printed from, unless their parentheses are nested
too deeply. -/

namespace Triage

/-- How a predicate is printed in a slot: as operands of the slot within, with a keyword between any two. -/
structure Predicate.Chain (slot inner : Slot) (k : Keyword) (join : Predicate → Predicate → Predicate)
    (p first : Predicate) (others : List Predicate) : Prop where
  whole : others.foldl join first = p
  words : p.words slot = first.words inner ++ others.flatMap (.key k :: ·.words inner)
  nesting : ∀ d n, d + p.nesting slot ≤ n ↔ ∀ o ∈ first :: others, d + o.nesting inner ≤ n
  leaves : ∀ o ∈ first :: others, ∀ l ∈ o.leaves, l ∈ p.leaves

namespace Predicate
variable {slot inner : Slot} {k : Keyword} {join : Predicate → Predicate → Predicate}

theorem chain_single {p : Predicate} (words : p.words slot = p.words inner)
    (nesting : p.nesting slot = p.nesting inner) : Chain slot inner k join p p [] :=
  ⟨rfl, by simp [words], by simp [nesting], by simp⟩

theorem Chain.concat {l r first : Predicate} {others : List Predicate}
    (chain : Chain slot inner k join l first others)
    (words : (join l r).words slot = l.words slot ++ .key k :: r.words inner)
    (nesting : (join l r).nesting slot = max (l.nesting slot) (r.nesting inner))
    (leaves : (join l r).leaves = l.leaves ++ r.leaves) :
    Chain slot inner k join (join l r) first (others ++ [r]) where
  whole := by rw [List.foldl_append, chain.whole, List.foldl_cons, List.foldl_nil]
  words := by simp [words, chain.words]
  nesting d n := by
    rw [nesting, ← Nat.add_max_add_left, Nat.max_le, chain.nesting, ← List.cons_append,
      List.forall_mem_append, List.forall_mem_singleton]
  leaves := by
    rw [leaves, ← List.cons_append, List.forall_mem_append, List.forall_mem_singleton]
    exact ⟨fun o member l inside => List.mem_append_left _ (chain.leaves o member l inside),
      fun l inside => List.mem_append_right _ inside⟩

theorem exists_terms (p : Predicate) : ∃ first others, Chain .expression .term .or .or p first others := by
  induction p with
  | or l r left _ =>
    obtain ⟨first, others, chain⟩ := left
    exact ⟨first, others ++ [r], chain.concat rfl rfl rfl⟩
  | and l r => exact ⟨_, [], chain_single rfl rfl⟩
  | leaf l => exact ⟨_, [], chain_single rfl rfl⟩

theorem exists_factors (p : Predicate) : ∃ first others, Chain .term .factor .and .and p first others := by
  induction p with
  | and l r left _ =>
    obtain ⟨first, others, chain⟩ := left
    exact ⟨first, others ++ [r], chain.concat rfl rfl rfl⟩
  | or l r => exact ⟨_, [], chain_single rfl rfl⟩
  | leaf l => exact ⟨_, [], chain_single rfl rfl⟩

/-- Where a factor stands, all but leaves are in parentheses. -/
theorem words_factor {p : Predicate} (compound : ∀ l, p ≠ .leaf l) :
    p.words .factor = .sign .openParen :: p.words .expression ++ [.sign .closeParen] ∧
      p.nesting .factor = p.nesting .expression + 1 := by
  cases p with
  | leaf l => exact absurd rfl (compound l)
  | and l r => exact ⟨rfl, rfl⟩
  | or l r => exact ⟨rfl, rfl⟩

end Predicate

namespace Reader
variable {α : Type} {names : List String} {depth : Nat} {ws : List Word}

section readers
variable {ok : Prop} {r : Reader α} {v w : View} {P : α → Prop}

theorem reads_nested {ws' : List Word}
    (reads : Reads ok r ⟨names, depth + 1, ws⟩ ⟨names, depth + 1, ws'⟩ P) :
    Reads ok (nested r) ⟨names, depth, ws⟩ ⟨names, depth, ws'⟩ P := by
  intro s sees
  obtain ⟨gives, fails⟩ := reads { s with nesting := s.nesting + 1 }
    ⟨sees.declared, congrArg (· + 1) sees.nesting, sees.words, sees.ends⟩
  rw [run_nested]
  constructor
  · intro shallow
    obtain ⟨a, t, ran, sees, holds⟩ := gives shallow
    rw [ran]
    exact ⟨a, _, rfl, ⟨sees.declared, congrArg (· - 1) sees.nesting, sees.words, sees.ends⟩, holds⟩
  · intro deep
    obtain ⟨e, t, ran, fault⟩ := fails deep
    rw [ran]
    exact ⟨e, _, rfl, fault⟩

theorem reads_tooDeep {β : Type} {Q : β → Prop} {f : α → Reader β} {position : Position} (deep : ¬ok) :
    Reads ok (fail .nestedTooDeeply position >>= f) v w Q :=
  fun s _ => ⟨fun shallow => absurd shallow deep, fun _ => ⟨_, s, rfl, rfl⟩⟩

end readers

/-- The reader takes the leaf as it is printed, where no comparison follows. -/
structure ReadsLeaf (leaf : Reader Leaf) (names : List String) (l : Leaf) : Prop where
  noParen : ∀ ws, nextKind (l.words ++ ws) ≠ .openParen
  reads : ∀ depth ws, (nextKind ws).isComparison = false →
    Reads True leaf ⟨names, depth, l.words ++ ws⟩ ⟨names, depth, ws⟩ (· = l)

theorem joined_eq (k : Keyword) (join : Predicate → Predicate → Predicate) (item : Reader Predicate) :
    joined k join item = item >>= repeatStep fun left => do
      if ← accept (.keyword k) then some <$> (join left <$> item) else return none := by
  simp only [joined, map_eq_pure_bind, bind_assoc, pure_bind]

theorem reads_joined {slot inner : Slot} {k : Keyword} {join : Predicate → Predicate → Predicate}
    {p first : Predicate} {others : List Predicate} (chain : p.Chain slot inner k join first others)
    {item : Reader Predicate} (noKey : nextKind ws ≠ .keyword k)
    (each : ∀ o ∈ first :: others, ∀ rest, nextKind rest = .keyword k ∨ nextKind rest = nextKind ws →
      Reads (depth + o.nesting inner ≤ nestingLimit) item ⟨names, depth, o.words inner ++ rest⟩
        ⟨names, depth, rest⟩ (· = o)) :
    Reads (depth + p.nesting slot ≤ nestingLimit) (joined k join item)
      ⟨names, depth, p.words slot ++ ws⟩ ⟨names, depth, ws⟩ (· = p) := by
  have follows (is : List Predicate) : nextKind (behind (.key k) (·.words inner) ws is) = .keyword k ∨
      nextKind (behind (.key k) (·.words inner) ws is) = nextKind ws := nextKind_behind _ _ _ _
  have words : p.words slot ++ ws = first.words inner ++ behind (.key k) (·.words inner) ws others := by
    rw [chain.words, List.append_assoc]
    rfl
  have loop : Reads (∀ o ∈ others, depth + o.nesting inner ≤ nestingLimit)
      (repeatStep (fun left => do
        if ← accept (.keyword k) then some <$> (join left <$> item) else return none) first)
      ⟨names, depth, behind (.key k) (·.words inner) ws others⟩ ⟨names, depth, ws⟩ (· = p) := by
    refine (reads_separated (.key k) (W := (·.words inner))
      (fun is a => is.foldl join a = p ∧ ∀ o ∈ is, o ∈ others) noKey ?_ ⟨chain.whole, fun o => id⟩).mono
      Iff.rfl fun a done => done.1
    rintro o is a ⟨whole, among⟩
    obtain ⟨member, among⟩ := List.forall_mem_cons.mp among
    refine (each o (List.mem_cons_of_mem _ member) _ (follows is)).map fun b same => ?_
    exact ⟨same ▸ whole, among⟩
  rw [joined_eq, words]
  refine ((each first List.mem_cons_self _ (follows others)).bind fun a same => ?_).mono
    ((chain.nesting depth nestingLimit).trans List.forall_mem_cons) fun a given => given
  rw [same]
  exact loop

/-- What comes behind an operand does not go on with it. -/
structure Stops (kind : TokenKind) : Prop where
  noAnd : kind ≠ .keyword .and
  noOr : kind ≠ .keyword .or
  noComparison : kind.isComparison = false

section predicates
variable {leaf : Reader Leaf} {inner : Reader Predicate} {p : Predicate}

theorem reads_factor (leaves : ∀ l ∈ p.leaves, ReadsLeaf leaf names l)
    (inners : depth < nestingLimit → Reads (depth + 1 + p.nesting .expression ≤ nestingLimit) inner
      ⟨names, depth + 1, p.words .expression ++ .sign .closeParen :: ws⟩
      ⟨names, depth + 1, .sign .closeParen :: ws⟩ (· = p))
    (next : (nextKind ws).isComparison = false) (within : depth ≤ nestingLimit) :
    Reads (depth + p.nesting .factor ≤ nestingLimit) (factor leaf inner)
      ⟨names, depth, p.words .factor ++ ws⟩ ⟨names, depth, ws⟩ (· = p) := by
  by_cases single : ∃ l, p = .leaf l
  · obtain ⟨l, rfl⟩ := single
    have reads := leaves l List.mem_cons_self
    have shallow : depth + (Predicate.leaf l).nesting .factor ≤ nestingLimit ↔ True := iff_true_intro within
    refine Reads.mono ?_ shallow fun q given => given
    refine reads_accept?_no (reads.noParen ws) ?_
    exact (reads.reads depth ws next).map fun l' same => congrArg _ same
  · obtain ⟨words, nesting⟩ := Predicate.words_factor fun l same => single ⟨l, same⟩
    rw [words, nesting, List.append_assoc, List.cons_append]
    refine reads_accept?_yes rfl fun t _ => reads_get_bind fun s sees => ?_
    rw [sees.nesting]
    dsimp only
    split
    · exact reads_tooDeep (by omega)
    · rename_i room
      refine Reads.last ((reads_nested (inners (Nat.lt_of_not_le room))).mono (by omega) fun q same => same)
        fun q same => ?_
      exact reads_past rfl (reads_pure same)

/-- One level of parentheses, where the next one is read. -/
theorem reads_level (leaves : ∀ l ∈ p.leaves, ReadsLeaf leaf names l) (next : Stops (nextKind ws))
    (inners : depth < nestingLimit → ∀ q ws, (∀ l ∈ q.leaves, ReadsLeaf leaf names l) →
      Stops (nextKind ws) → Reads (depth + 1 + q.nesting .expression ≤ nestingLimit) inner
        ⟨names, depth + 1, q.words .expression ++ ws⟩ ⟨names, depth + 1, ws⟩ (· = q))
    (within : depth ≤ nestingLimit) :
    Reads (depth + p.nesting .expression ≤ nestingLimit)
      (joined .or .or (joined .and .and (factor leaf inner)))
      ⟨names, depth, p.words .expression ++ ws⟩ ⟨names, depth, ws⟩ (· = p) := by
  obtain ⟨first, others, terms⟩ := p.exists_terms
  refine reads_joined terms next.noOr fun o member rest follows => ?_
  obtain ⟨first, others, factors⟩ := o.exists_factors
  have noAnd : nextKind rest ≠ .keyword .and ∧ (nextKind rest).isComparison = false := by
    rcases follows with same | same <;> rw [same]
    · exact ⟨by simp, rfl⟩
    · exact ⟨next.noAnd, next.noComparison⟩
  refine reads_joined factors noAnd.1 fun q inside rest follows => ?_
  have leaves : ∀ l ∈ q.leaves, ReadsLeaf leaf names l := fun l among =>
    leaves l (terms.leaves o member l (factors.leaves q inside l among))
  refine reads_factor leaves (fun room => ?_) ?_ within
  · exact inners room q _ leaves ⟨by simp [nextKind, Word.sign], by simp [nextKind, Word.sign], rfl⟩
  · rcases follows with same | same <;> rw [same]
    · rfl
    · exact noAnd.2

theorem reads_predicateWithin {levels : Nat} (left : depth + levels = nestingLimit)
    (leaves : ∀ l ∈ p.leaves, ReadsLeaf leaf names l) (next : Stops (nextKind ws)) :
    Reads (depth + p.nesting .expression ≤ nestingLimit) (predicateWithin leaf (levels + 1))
      ⟨names, depth, p.words .expression ++ ws⟩ ⟨names, depth, ws⟩ (· = p) := by
  induction levels generalizing depth p ws with
  | zero => exact reads_level leaves next (fun room => absurd room (by omega)) (by omega)
  | succ levels ih =>
    exact reads_level leaves next (fun _ q ws leaves next => ih (by omega) leaves next) (by omega)

theorem reads_predicate (leaves : ∀ l ∈ p.leaves, ReadsLeaf leaf names l) (next : Stops (nextKind ws)) :
    Reads (p.nesting .expression ≤ nestingLimit) (predicate leaf)
      ⟨names, 0, p.words .expression ++ ws⟩ ⟨names, 0, ws⟩ (· = p) :=
  (reads_predicateWithin (Nat.zero_add _) leaves next).mono (by rw [Nat.zero_add]) fun _ same => same

end predicates

theorem readsLeaf_comparison {s : PropertySection} {l : Leaf} (compares : l.ComparesIn s) :
    ReadsLeaf (comparison s) names l := by
  cases l with
  | call c => exact compares.elim
  | property c =>
    refine ⟨fun ws => ?_, fun depth ws _ => reads_comparison compares⟩
    rcases c with ⟨property, _, _⟩
    cases property <;> simp [Leaf.words, Comparison.words, nextKind, Property.word, Word.key, Word.name, Word.sign]

theorem readsLeaf_call {l : Leaf} (calls : l.CallsOn names) : ReadsLeaf call names l := by
  cases l with
  | property c => exact calls.elim
  | call c =>
    exact ⟨fun ws => by simp [Leaf.words, HitCall.words, nextKind, Word.key, Word.sign],
      fun depth ws next => reads_call calls next⟩

end Reader
end Triage
