import Triage.Proofs.Rule.Identity
import Triage.Proofs.Rule.Printing
import Triage.Proofs.Rule.Views

/-! Notes, digests, comparisons and calls are read back. Each reader takes the words that its value is
printed as, up to a word that it cannot go on with, and gives the value. -/

namespace Triage

namespace SortedMap
variable {α : Type}

theorem entries_insert_last {m : SortedMap String α} {key : String} {value : α}
    (last : ∀ k ∈ m.keys, k < key) : (m.insert key value).entries = m.entries ++ [(key, value)] := by
  obtain ⟨entries⟩ := m
  simp only [keys, insert] at last ⊢
  induction entries with
  | nil => rfl
  | cons first rest ih =>
    obtain ⟨less, others⟩ := List.forall_mem_cons.mp last
    rw [insertEntry, if_neg (String.lt_asymm less), if_pos less, ih others, List.cons_append]

/-- The entries of a sorted map can be inserted one after another. -/
theorem insert_next {m whole : SortedMap String α} (sorted : whole.Sorted) {e : String × α}
    {rest : List (String × α)} (split : m.entries ++ e :: rest = whole.entries) :
    m.contains e.1 = false ∧ (m.insert e.1 e.2).entries ++ rest = whole.entries := by
  have last : ∀ k ∈ m.keys, k < e.1 := by
    rw [Sorted, keys, ← split, List.map_append, List.pairwise_append] at sorted
    exact fun k member => sorted.2.2 k member e.1 List.mem_cons_self
  refine ⟨?_, ?_⟩
  · rw [contains, find?, Option.isSome_eq_false_iff, Option.isNone_iff_eq_none, List.lookup_eq_none_iff]
    intro other member
    rw [bne_iff_ne]
    exact fun same => String.lt_irrefl _ (same ▸ last other.1 (List.mem_map_of_mem member))
  · rw [entries_insert_last last, List.append_assoc, List.singleton_append, split]

theorem eq_of_entries {m whole : SortedMap String α} (same : m.entries ++ [] = whole.entries) : m = whole := by
  rw [List.append_nil] at same
  exact congrArg mk same

end SortedMap

namespace Reader
variable {names : List String} {depth : Nat} {ws : List Word}

theorem behind_listed {ι : Type} (W : ι → List Word) (i : ι) (is : List ι) (rest : List Word) :
    listed ((i :: is).map W) ++ rest = W i ++ behind ⟨.comma, ","⟩ W rest is := by
  simp [listed, behind, List.flatMap_map, Word.sign, TokenKind.literal]

theorem reads_heading {β : Type} {ok : Prop} {v : View} {P : β → Prop} {k : Keyword} {f : PUnit → Reader β}
    (next : Reads ok (f ⟨⟩) ⟨names, depth, ws⟩ v P) :
    Reads ok (heading k >>= f) ⟨names, depth, headed k ws⟩ v P := by
  rw [heading, bind_assoc]
  exact reads_past rfl (reads_past rfl next)

theorem reads_quotedText {text : String} :
    Reads True quotedText ⟨names, depth, .quoted text :: ws⟩ ⟨names, depth, ws⟩ (· = text) :=
  reads_expect rfl fun _ word => reads_pure (congrArg Word.text word)

/-! ## Notes and digests -/

theorem reads_metaSection {info : SortedMap String String} (sorted : info.Sorted)
    (next : nextKind ws ≠ .identifier) : Reads True metaSection
      ⟨names, depth, headed .metaSection (infoWords info ++ ws)⟩ ⟨names, depth, ws⟩ (· = info) := by
  refine reads_heading ?_
  refine Reads.mono (reads_loop (V := fun is : List (String × String) => ⟨names, depth,
      is.flatMap (fun e => [.name e.1, .sign .equal, .quoted e.2]) ++ ws⟩)
    (fun is fields => fields.entries ++ is = info.entries) ?_ ?_ ?_ rfl) Iff.rfl ?_
  · intro e is fields split
    refine reads_accept?_yes rfl fun t word => reads_past rfl ?_
    refine reads_quotedText.then fun text same => reads_pure ?_
    subst same
    have key : t.text = e.1 := congrArg Word.text word
    rw [key]
    exact ⟨_, rfl, (SortedMap.insert_next sorted split).2⟩
  · intro e is _ _
    simp only [List.flatMap_cons, List.length_append, List.length_cons]
    omega
  · exact fun fields _ => reads_accept?_no next (reads_pure rfl)
  · exact fun fields same => SortedMap.eq_of_entries same

theorem ofToken?_keyword (a : HashAlgorithm) : HashAlgorithm.ofToken? (.keyword a.keyword) = some a := by
  cases a <;> rfl

theorem toLower_of_lower {text : String} (lower : ∀ c ∈ text.toList, c.isUpper = false) :
    text.map Char.toLower = text := by
  refine String.toList_inj.mp ?_
  rw [String.toList_map]
  refine (List.map_congr_left fun c member => ?_).trans (List.map_id _)
  have low := lower c member
  unfold Char.isUpper at low
  unfold Char.toLower
  rw [dif_neg (by simpa using low)]
  rfl

/-- The digests set one after another make the record. -/
def Setting (r : HashRecord) (digests : List (HashAlgorithm × String)) (set : HashRecord) : Prop :=
  digests.foldl (fun r e => r.set e.2 e.1) set = r ∧ digests.Pairwise (·.1 ≠ ·.1) ∧
    ∀ e ∈ digests, set.get? e.1 = none ∧ ∀ c ∈ e.2.toList, c.isUpper = false

theorem setting_digests {r : HashRecord} (formed : r.WellFormed) : Setting r r.digests {} := by
  refine ⟨?_, ?_, fun e member => ⟨?_, ?_⟩⟩
  · rcases r with ⟨_ | _, _ | _, _ | _, _ | _⟩ <;> rfl
  · rcases r with ⟨_ | _, _ | _, _ | _, _ | _⟩ <;>
      simp [HashRecord.digests, HashAlgorithm.every, HashRecord.get?]
  · cases e.1 <;> rfl
  · obtain ⟨a, _, found⟩ := List.mem_filterMap.mp member
    obtain ⟨digest, has, rfl⟩ := Option.map_eq_some_iff.mp found
    exact formed.lower a digest has

theorem Setting.next {r set : HashRecord} {e : HashAlgorithm × String} {rest : List (HashAlgorithm × String)}
    (setting : Setting r (e :: rest) set) : set.get? e.1 = none ∧ e.2.map Char.toLower = e.2 ∧
      Setting r rest (set.set e.2 e.1) := by
  obtain ⟨whole, distinct, each⟩ := setting
  obtain ⟨first, others⟩ := List.forall_mem_cons.mp each
  obtain ⟨unlike, distinct⟩ := List.pairwise_cons.mp distinct
  refine ⟨first.1, toLower_of_lower first.2, whole, distinct, fun f member => ⟨?_, (others f member).2⟩⟩
  rw [← (others f member).1]
  have other := unlike f member
  rcases e with ⟨a, digest⟩
  rcases f with ⟨b, _⟩
  cases a <;> cases b <;> first | rfl | exact absurd rfl other

theorem reads_hashRecord {r : HashRecord} (formed : r.WellFormed) (next : nextKind ws ≠ .comma) :
    Reads True hashRecord ⟨names, depth, r.words ++ ws⟩ ⟨names, depth, ws⟩ (· = r) := by
  have start := setting_digests formed
  rw [HashRecord.words]
  obtain ⟨e, is, split⟩ := List.exists_cons_of_ne_nil (digests_ne_nil formed)
  rw [split] at start ⊢
  rw [behind_listed]
  unfold hashRecord
  refine Reads.mono (P := Setting r []) (reads_commaSeparated
    (W := fun e : HashAlgorithm × String => [.key e.1.keyword, .sign .equalEqual, .quoted e.2])
    (Setting r) next ?_ start) Iff.rfl fun set done => done.1
  intro e is set setting
  obtain ⟨absent, lower, later⟩ := setting.next
  refine reads_word_bind fun t word => ?_
  have kind : t.kind = .keyword e.1.keyword := congrArg Word.kind word
  dsimp only
  rw [kind, ofToken?_keyword]
  refine reads_advance (reads_past rfl ?_)
  refine reads_quotedText.then fun digest same => ?_
  subst same
  rw [lower]
  have known : (set.get? e.1).isSome = false := by rw [absent]; rfl
  rw [known]
  exact reads_pure later

theorem nextKind_record {r : HashRecord} (formed : r.WellFormed) (ws : List Word) :
    ∃ a : HashAlgorithm, nextKind (r.words ++ ws) = .keyword a.keyword := by
  obtain ⟨e, is, split⟩ := List.exists_cons_of_ne_nil (digests_ne_nil formed)
  refine ⟨e.1, ?_⟩
  rw [HashRecord.words, split]
  rfl

theorem reads_hashSection {h : HashSection} (formed : h.WellFormed) (noComma : nextKind ws ≠ .comma)
    (noRecord : HashAlgorithm.ofToken? (nextKind ws) = none) : Reads True hashSection
      ⟨names, depth, headed .hash (h.words ++ ws)⟩ ⟨names, depth, ws⟩ (· = h) := by
  refine reads_heading ?_
  refine Reads.then (P := fun records => records = h.records) (Reads.mono (reads_loop
    (V := fun is : List HashRecord => ⟨names, depth, is.flatMap (·.words) ++ ws⟩)
    (fun is records => records ++ is = h.records ∧ ∀ r ∈ is, r.WellFormed) ?_ ?_ ?_ ⟨rfl, formed.records⟩)
    Iff.rfl ?_) fun records same => ?_
  · rintro r is records ⟨split, each⟩
    obtain ⟨first, others⟩ := List.forall_mem_cons.mp each
    obtain ⟨a, starts⟩ := nextKind_record first (is.flatMap (·.words) ++ ws)
    have follows : nextKind (is.flatMap (·.words) ++ ws) ≠ .comma := by
      cases is with
      | nil => exact noComma
      | cons r' is =>
        obtain ⟨b, starts⟩ := nextKind_record (others r' List.mem_cons_self) (is.flatMap (·.words) ++ ws)
        rw [List.flatMap_cons, List.append_assoc, starts]
        simp
    rw [List.flatMap_cons, List.append_assoc]
    refine reads_peek_bind fun t kind => ?_
    rw [kind, starts, ofToken?_keyword]
    refine (reads_hashRecord first follows).then fun r' same => reads_pure ?_
    subst same
    exact ⟨_, rfl, by rw [List.append_assoc, List.singleton_append, split], others⟩
  · rintro r is _ ⟨_, each⟩
    obtain ⟨a, starts⟩ := nextKind_record (each r List.mem_cons_self) []
    cases words : r.words with
    | nil => rw [words] at starts; nomatch starts
    | cons w more =>
      simp only [List.flatMap_cons, List.length_append, words, List.length_cons]
      omega
  · intro records _
    refine reads_peek_bind fun t kind => ?_
    rw [kind]
    change Reads True (if (HashAlgorithm.ofToken? (nextKind ws)).isSome then _ else _) _ _ _
    rw [noRecord]
    exact reads_pure rfl
  · rintro records ⟨same, _⟩
    rwa [List.append_nil] at same
  · subst same
    have some : h.records.isEmpty = false := by simpa using formed.some
    dsimp only
    rw [some]
    exact reads_pure rfl

/-! ## Comparisons -/

theorem reads_operator {op : CompareOp} :
    Reads True operator ⟨names, depth, .sign op.sign :: ws⟩ ⟨names, depth, ws⟩ (· = op) := by
  refine reads_word_bind fun t word => ?_
  have kind : t.kind = op.sign := congrArg Word.kind word
  have found : CompareOp.ofToken? t.kind = some op := by
    rw [kind]
    cases op <;> rfl
  rw [found]
  exact reads_advance (reads_pure rfl)

theorem number?_repr {n : Nat} (bound : n < numberBound) : number? n.repr = some n := by
  have read : n.repr.toList.foldl (fun n c => 10 * n + (c.toNat - 48)) 0 = n := by
    rw [toList_repr]
    exact Nat.ofDigitChars_toDigits (by decide) (by decide)
  unfold number?
  rw [read, if_pos bound]

theorem reads_numberOf {t : Token} {n : Nat} (word : t.word = .number n) (bound : n < numberBound) (v : View) :
    Reads True (numberOf t) v v (· = n) := by
  have text : t.text = n.repr := congrArg Word.text word
  unfold numberOf
  rw [text, number?_repr bound]
  exact reads_pure rfl

theorem reads_number {n : Nat} (bound : n < numberBound) :
    Reads True number ⟨names, depth, .number n :: ws⟩ ⟨names, depth, ws⟩ (· = n) :=
  reads_expect rfl fun _ word => reads_numberOf word bound _

theorem reads_comparison {s : PropertySection} {c : Comparison} (compares : (Leaf.property c).ComparesIn s) :
    Reads True (comparison s) ⟨names, depth, c.words ++ ws⟩ ⟨names, depth, ws⟩ (· = .property c) := by
  obtain ⟨property, op, value⟩ := c
  obtain ⟨allowed, bound⟩ := compares
  simp only [Comparison.allowedIn, Bool.and_eq_true, decide_eq_true_eq] at allowed
  obtain ⟨⟨home, allows⟩, kind⟩ := allowed
  refine reads_word_bind fun t word => ?_
  have named : (if decide (t.kind = .identifier) || t.kind.isKeyword then s.named? t.text else none) =
      some property := by
    have isKind : t.kind = property.word.kind := congrArg Word.kind word
    have text : t.text = property.word.text := congrArg Word.text word
    rw [isKind, text, ← home]
    cases property <;> rfl
  dsimp only
  rw [named]
  refine reads_advance (reads_peek_bind fun sign _ => ?_)
  refine reads_operator.then fun op' same => ?_
  subst same
  rw [allows]
  cases found : property.valueKind with
  | text =>
    obtain ⟨s, rfl⟩ : ∃ s, value = .text s := by
      cases value with
      | text s => exact ⟨s, rfl⟩
      | number n => exact absurd (kind.trans found) (by simp [Value.kind])
    refine reads_expect rfl fun t word => reads_pure ?_
    rw [show t.text = s from congrArg Word.text word]
  | number =>
    obtain ⟨n, rfl⟩ : ∃ n, value = .number n := by
      cases value with
      | text s => exact absurd (kind.trans found) (by simp [Value.kind])
      | number n => exact ⟨n, rfl⟩
    refine (reads_number (bound n rfl)).then fun m same => reads_pure ?_
    rw [same]

/-! ## Calls -/

theorem reads_arguments {args : List Word} (each : ∀ w ∈ args, w.kind ∈ [.identifier, .number]) :
    Reads True arguments ⟨names, depth, listed (args.map ([·])) ++ .sign .closeParen :: ws⟩
      ⟨names, depth, .sign .closeParen :: ws⟩ (fun ts => ts.map Token.word = args) := by
  refine reads_isNext.then fun none same => ?_
  cases args with
  | nil =>
    obtain rfl : none = true := same
    exact reads_pure rfl
  | cons w args =>
    have other : w.kind ≠ .closeParen := by
      have member := each w List.mem_cons_self
      intro closes
      simp [closes] at member
    obtain rfl : none = false := by simpa [listed, nextKind, other] using same
    rw [behind_listed]
    refine Reads.mono (reads_commaSeparated (W := fun w : Word => [w])
      (fun is ts => ts.map Token.word ++ is = w :: args) (by simp [nextKind, Word.sign]) ?_ rfl) Iff.rfl ?_
    · intro v is ts split
      have fits : v.kind ∈ [.identifier, .number] := each v (split ▸ by simp)
      refine reads_expectAny fits fun t word => reads_pure ?_
      simp [word, split]
    · intro ts same
      simpa using same

/-- Arguments that are names only. -/
theorem reads_names {f : HitFunction} {declared patterns : List String} {i : Nat} {ts : List Token}
    (words : ts.map Token.word = patterns.map Word.name) (known : ∀ name ∈ patterns, name ∈ declared)
    (noIndex : f.takesHitIndex → i + patterns.length ≤ 1 ∨ 1 < i) (v : View) :
    Reads True (readArguments f declared i ts) v v (· = (patterns, none)) := by
  induction patterns generalizing i ts with
  | nil =>
    obtain rfl := List.map_eq_nil_iff.mp words
    exact reads_pure rfl
  | cons name patterns ih =>
    obtain ⟨t, rest, rfl, word, words⟩ := List.map_eq_cons_iff.mp words
    obtain ⟨first, others⟩ := List.forall_mem_cons.mp known
    have kind : t.kind = .identifier := congrArg Word.kind word
    have text : t.text = name := congrArg Word.text word
    have index : (f.takesHitIndex && i == 1) = false := by
      cases takes : f.takesHitIndex with
      | false => rfl
      | true =>
        have := noIndex takes
        rw [List.length_cons] at this
        simp
        omega
    have isKnown : declared.contains name = true := List.contains_iff_mem.mpr first
    rw [readArguments, index, kind, text, isKnown]
    refine (ih words others (fun takes => ?_)).then fun read same => reads_pure ?_
    · have := noIndex takes
      rw [List.length_cons] at this
      omega
    · rw [same]

theorem reads_readArguments {c : HitCall} {declared : List String} (allowed : c.Allowed declared)
    {ts : List Token} (words : ts.map Token.word = c.arguments) (v : View) :
    Reads True (readArguments c.function declared 0 ts) v v (· = (c.patterns, c.hitIndex)) := by
  obtain ⟨f, patterns, hitIndex, comparison⟩ := c
  have single := allowed.single
  have known := allowed.declared
  dsimp only at single known ⊢
  cases hitIndex with
  | none =>
    refine reads_names (by simpa [HitCall.arguments] using words) known (fun takes => ?_) v
    rw [single takes]
    exact .inl (Nat.le_refl 1)
  | some n =>
    have takes : f.takesHitIndex = true := allowed.indexed rfl
    obtain ⟨name, rfl⟩ := List.length_eq_one_iff.mp (single takes)
    obtain ⟨t, ts, rfl, word, words⟩ := List.map_eq_cons_iff.mp words
    obtain ⟨t', ts, rfl, word', words⟩ := List.map_eq_cons_iff.mp words
    obtain rfl := List.map_eq_nil_iff.mp words
    have kind : t.kind = .identifier := congrArg Word.kind word
    have text : t.text = name := congrArg Word.text word
    have kind' : t'.kind = .number := congrArg Word.kind word'
    have isKnown : declared.contains name = true := List.contains_iff_mem.mpr (known name List.mem_cons_self)
    have first : (f.takesHitIndex && (0 : Nat) == 1) = false := by simp
    have second : (f.takesHitIndex && (0 + 1 : Nat) == 1) = true := by simp [takes]
    rw [readArguments, first, kind, text, isKnown, readArguments, second, kind']
    refine Reads.then (P := (· = ([], some n))) ?_ fun read same => reads_pure (by rw [same])
    refine (reads_numberOf word' (allowed.index n rfl) v).then fun index same => ?_
    subst same
    rw [readArguments]
    exact reads_pure rfl


theorem reads_call {c : HitCall} (allowed : c.Allowed names) (next : (nextKind ws).isComparison = false) :
    Reads True call ⟨names, depth, c.words ++ ws⟩ ⟨names, depth, ws⟩ (· = .call c) := by
  have found (t : Token) (word : t.word = .key c.function.keyword) :
      HitFunction.ofToken? t.kind = some c.function := by
    have kind : t.kind = .keyword c.function.keyword := congrArg Word.kind word
    rw [kind]
    cases c.function <;> rfl
  have fits : ∀ w ∈ c.arguments, w.kind ∈ [TokenKind.identifier, .number] := by
    refine List.forall_mem_append.mpr ⟨fun w member => ?_, fun w member => ?_⟩
    · obtain ⟨name, _, rfl⟩ := List.mem_map.mp member
      exact List.mem_cons_self
    · obtain ⟨n, _, rfl⟩ := List.mem_map.mp member
      exact List.mem_cons_of_mem _ List.mem_cons_self
  have count : c.arguments.length = c.patterns.length + c.hitIndex.toList.length := by
    simp [HitCall.arguments]
  have rest (t : Token) (ts : List Token) (words : ts.map Token.word = c.arguments) : Reads True
      (shapedCall c.function t ts c.comparison) ⟨names, depth, ws⟩ ⟨names, depth, ws⟩ (· = .call c) := by
    have takes : c.function.takes ts.length = true := by
      rw [← List.length_map, words, count]
      exact allowed.arity
    have missing : (c.function.isCompared && c.comparison.isNone) = false := by
      rw [← allowed.compared]
      cases c.comparison <;> rfl
    have unexpected : (!c.function.isCompared && c.comparison.isSome) = false := by
      rw [allowed.compared]
      exact Bool.not_and_self _
    unfold shapedCall
    rw [takes, missing, unexpected]
    refine reads_get_bind fun s sees => ?_
    rw [sees.declared]
    exact (reads_readArguments allowed words _).then fun read same => reads_pure (by rw [same])
  rw [HitCall.words, List.append_assoc, List.cons_append, List.cons_append, List.cons_append]
  refine reads_word_bind fun t word => ?_
  dsimp only
  rw [found t word]
  refine reads_advance (reads_past rfl ?_)
  refine (reads_arguments fits).then fun ts words => ?_
  refine reads_past rfl (reads_peek_bind fun sign kind => ?_)
  rw [kind]
  cases compared : c.comparison with
  | none =>
    rw [Option.toList_none, List.flatMap_nil, List.nil_append, next]
    have rest := rest t ts words
    rw [compared] at rest
    exact rest
  | some e =>
    obtain ⟨op, n⟩ := e
    have isSign : (nextKind (.sign op.sign :: .number n :: ws)).isComparison = true := by
      cases op <;> rfl
    simp only [Option.toList_some, List.flatMap_cons, List.flatMap_nil, List.cons_append, List.nil_append]
    rw [isSign]
    refine reads_operator.then fun op' same => ?_
    subst same
    refine (reads_number (allowed.number op' n compared)).then fun n' same => ?_
    subst same
    have rest := rest t ts words
    rw [compared] at rest
    exact rest

end Reader
end Triage
