import Mathlib.Data.List.TakeWhile
import Triage.Proofs.Rule.Operands

/-! Reading undoes printing. The text of a rule is read as the rule, whatever its patterns are written as,
and it is refused when its parentheses are nested too deeply. -/

namespace Triage

theorem HitCall.Allowed.reverse {c : HitCall} {names : List String} (allowed : c.Allowed names) :
    c.Allowed names.reverse :=
  { allowed with declared := fun name among => List.mem_reverse.mpr (allowed.declared name among) }

/-- A token in which digits of a hexadecimal pattern stand. -/
structure Word.HoldsDigits (w : Word) : Prop where
  kind : w.kind = .identifier ∨ w.kind = .number
  digits : w.text.toList.all Hex.isDigit

theorem holdsDigits_digitWord {c : Char} (digit : Hex.isDigit c) : (Form.digitWord c).HoldsDigits := by
  refine ⟨?_, by simpa [Form.digitWord] using digit⟩
  unfold Form.digitWord
  dsimp only
  split
  · exact .inr rfl
  · exact .inl rfl

namespace Reader
variable {names : List String} {depth : Nat} {ws : List Word}

/-! ## Patterns -/

theorem reads_encodings {list : List String} (some : list ≠ [])
    (known : ∀ e ∈ list, (Encoding.labelled? e).isSome) (noComma : nextKind ws ≠ .comma) :
    Reads True encodings ⟨names, depth, .sign .equal :: (listed (list.map ([.name ·])) ++ ws)⟩
      ⟨names, depth, ws⟩ (· = list) := by
  obtain ⟨e, is, rfl⟩ := List.exists_cons_of_ne_nil some
  refine reads_past rfl ?_
  rw [behind_listed]
  refine (reads_commaSeparated (W := fun e : String => [Word.name e])
    (fun later found => found ++ later = e :: is) noComma ?_ rfl).mono Iff.rfl fun found same => ?_
  · intro name later found split
    have isKnown : (Encoding.labelled? name).isNone = false := by
      simpa using known name (split ▸ by simp)
    refine reads_expect rfl fun t word => ?_
    have text : t.text = name := congrArg Word.text word
    rw [text, isKnown]
    exact reads_pure (by simp [split])
  · rwa [List.append_nil] at same

/-- What can come behind a pattern. -/
structure Ends (kind : TokenKind) : Prop where
  noNocase : kind ≠ .keyword .nocase
  noFixed : kind ≠ .keyword .fixed
  noEncodings : kind ≠ .keyword .encodings
  noComma : kind ≠ .comma

theorem reads_modifiers {mods : List Modifier}
    (proper : ∀ list, .encodings list ∈ mods → list ≠ [] ∧ ∀ e ∈ list, (Encoding.labelled? e).isSome)
    (ends : Ends (nextKind ws)) : Reads True modifiers
      ⟨names, depth, mods.flatMap Modifier.words ++ ws⟩ ⟨names, depth, ws⟩
      (· = mods.foldl Modifiers.apply {}) := by
  refine (reads_loop (V := fun is => ⟨names, depth, is.flatMap Modifier.words ++ ws⟩)
    (fun is m => is.foldl Modifiers.apply m = mods.foldl Modifiers.apply {} ∧ ∀ i ∈ is, i ∈ mods)
    ?_ ?_ ?_ ⟨rfl, fun i => id⟩).mono Iff.rfl fun m done => done.1
  · rintro i is m ⟨whole, each⟩
    obtain ⟨member, among⟩ := List.forall_mem_cons.mp each
    rw [List.flatMap_cons, List.append_assoc]
    cases i with
    | nocase =>
      refine reads_accept_yes rfl ?_
      exact reads_pure ⟨_, rfl, whole, among⟩
    | fixed =>
      refine reads_accept_no (by simp [nextKind, Modifier.words, Word.key, Word.sign]) ?_
      refine reads_accept_yes rfl ?_
      exact reads_pure ⟨_, rfl, whole, among⟩
    | encodings list =>
      obtain ⟨some, known⟩ := proper list member
      have noComma : nextKind (is.flatMap Modifier.words ++ ws) ≠ .comma := by
        cases is with
        | nil => exact ends.noComma
        | cons i is => cases i <;> simp [nextKind, Modifier.words, Word.key, Word.sign]
      refine reads_accept_no (by simp [nextKind, Modifier.words, Word.key, Word.sign]) ?_
      refine reads_accept_no (by simp [nextKind, Modifier.words, Word.key, Word.sign]) ?_
      refine reads_accept_yes rfl ?_
      refine (reads_encodings some known noComma).then fun found same => ?_
      subst same
      exact reads_pure ⟨_, rfl, whole, among⟩
  · intro i is _ _
    cases i <;> simp [Modifier.words]
    omega
  · intro m _
    refine reads_accept_no ends.noNocase ?_
    refine reads_accept_no ends.noFixed ?_
    refine reads_accept_no ends.noEncodings ?_
    exact reads_pure rfl

theorem reads_checkCompiles {d : PatternDef} {position : Position} (compiles : ∃ c, d.compile = .ok c)
    (v : View) : Reads True (checkCompiles position d) v v fun _ => True := by
  obtain ⟨c, found⟩ := compiles
  unfold checkCompiles
  rw [found]
  exact reads_pure trivial

theorem reads_checkAll {defs : List PatternDef} {position : Position}
    (compile : ∀ d ∈ defs, ∃ c, d.compile = .ok c) (v : View) :
    Reads True (defs.forM (checkCompiles position)) v v fun _ => True := by
  induction defs with
  | nil => exact reads_pure trivial
  | cons d defs ih =>
    obtain ⟨first, others⟩ := List.forall_mem_cons.mp compile
    exact (reads_checkCompiles first v).then fun _ _ => ih others

/-- Digits are read however they are cut into tokens. -/
theorem reads_hexWords {ds : List Word} (each : ∀ w ∈ ds, w.HoldsDigits) {digits : List Char}
    (whole : ds.flatMap (·.text.toList) = digits) (some : digits ≠ []) (even : digits.length % 2 = 0) :
    Reads True hexString ⟨names, depth, ds ++ .sign .closeBrace :: ws⟩ ⟨names, depth, ws⟩
      (· = String.ofList (rawBytes digits)) := by
  refine Reads.then (P := (· = digits)) ((reads_loop (V := fun is : List Word =>
    ⟨names, depth, is ++ .sign .closeBrace :: ws⟩)
    (fun is found => found ++ is.flatMap (·.text.toList) = digits ∧ ∀ w ∈ is, w.HoldsDigits)
    ?_ ?_ ?_ ⟨whole, each⟩).mono Iff.rfl ?_) fun found same => ?_
  · rintro w is found ⟨split, each⟩
    obtain ⟨⟨kind, digit⟩, later⟩ := List.forall_mem_cons.mp each
    refine reads_word_bind fun t word => ?_
    have same : t.kind = w.kind := congrArg Word.kind word
    have text : t.text = w.text := congrArg Word.text word
    have goesOn : (decide (t.kind = .closeBrace) || decide (t.kind = .endOfFile)) = false := by
      rcases kind with kind | kind <;> rw [same, kind] <;> rfl
    rw [goesOn]
    refine reads_pastAny (by simpa using kind) ?_
    rw [text, digit]
    exact reads_pure ⟨_, rfl, by simp [← split], later⟩
  · intro w is _ _
    simp
  · rintro found -
    refine reads_word_bind fun t word => ?_
    have kind : t.kind = .closeBrace := congrArg Word.kind word
    rw [kind]
    exact reads_pure rfl
  · rintro found ⟨same, -⟩
    rwa [List.flatMap_nil, List.append_nil] at same
  · subst same
    refine reads_word_bind fun t word => ?_
    have kind : t.kind = .closeBrace := congrArg Word.kind word
    have isSome : found.isEmpty = false := by simpa using some
    dsimp only
    rw [kind, even, isSome]
    exact reads_past rfl (reads_pure rfl)

/-- A definition in braces is one of its digits. -/
theorem reads_braces {ds : List Word} (each : ∀ w ∈ ds, w.HoldsDigits) {digits : List Char}
    (whole : ds.flatMap (·.text.toList) = digits) (some : digits ≠ []) (even : digits.length % 2 = 0)
    (compile : ∃ c, (PatternDef.mk (String.ofList (rawBytes digits)) false false "ASCII").compile = .ok c) :
    Reads True patternDefinition
      ⟨names, depth, .sign .equal :: .sign .openBrace :: (ds ++ .sign .closeBrace :: ws)⟩ ⟨names, depth, ws⟩
      (· = [⟨String.ofList (rawBytes digits), false, false, "ASCII"⟩]) := by
  refine reads_past rfl ?_
  refine reads_accept?_no (by simp [nextKind, Word.sign]) (reads_accept?_yes rfl fun t _ => ?_)
  refine (reads_hexWords each whole some even).then fun text same => ?_
  subst same
  exact (reads_checkCompiles compile _).then fun _ _ => reads_pure rfl

theorem reads_patternDefinition {form : Form} (proper : form.Proper)
    (compile : ∀ d ∈ form.defs, ∃ c, d.compile = .ok c) (ends : Ends (nextKind ws)) :
    Reads True patternDefinition ⟨names, depth, .sign .equal :: (form.words ++ ws)⟩ ⟨names, depth, ws⟩
      (· = form.defs) := by
  cases form with
  | quoted text mods =>
    refine reads_past rfl ?_
    refine reads_accept?_yes rfl fun t word => ?_
    have text : t.text = text := congrArg Word.text word
    have known (list : List String) (member : .encodings list ∈ mods) :
        list ≠ [] ∧ ∀ e ∈ list, (Encoding.labelled? e).isSome :=
      ⟨(proper.2 list member).1, fun e inside => ((proper.2 list member).2 e inside).2⟩
    refine (reads_modifiers known ends).then fun m same => ?_
    subst same
    rw [text]
    exact (reads_checkAll compile _).then fun _ _ => reads_pure rfl
  | bytes digits =>
    obtain ⟨some, even, hex⟩ := proper
    have each : ∀ w ∈ digits.map Form.digitWord, w.HoldsDigits := by
      intro w member
      obtain ⟨c, inside, rfl⟩ := List.mem_map.mp member
      exact holdsDigits_digitWord (List.all_eq_true.mp hex c inside)
    have whole : (digits.map Form.digitWord).flatMap (·.text.toList) = digits := by
      simp [List.flatMap_map, Form.digitWord]
    rw [Form.words, List.append_assoc]
    exact reads_braces each whole some even (compile _ List.mem_cons_self)

theorem reads_declare {name : String} (fresh : name ∉ names) :
    Reads True (declare name) ⟨names, depth, ws⟩ ⟨name :: names, depth, ws⟩ fun _ => True := by
  refine fun s sees => ⟨fun _ => ⟨⟨⟩, _, rfl, ⟨?_, sees.nesting, sees.words, sees.ends⟩, trivial⟩,
    fun no => absurd trivial no⟩
  dsimp only
  rw [sees.declared, if_neg (by simpa using fresh)]

/-- The names of the entries that come before the given ones, the last name first. -/
def namesBefore (whole later : List (String × List PatternDef)) : List String :=
  ((whole.take (whole.length - later.length)).map (·.1)).reverse

theorem namesBefore_eq {done later whole : List (String × List PatternDef)} (split : done ++ later = whole) :
    namesBefore whole later = (done.map (·.1)).reverse := by
  subst split
  simp [namesBefore]

theorem reads_patternsSection {m : SortedMap String (List PatternDef)} {forms : String → Form}
    (sorted : m.Sorted) (some : m.keys ≠ [])
    (formed : ∀ e ∈ m.entries, (forms e.1).Proper ∧ (forms e.1).defs = e.2)
    (compile : ∀ e ∈ m.entries, ∀ d ∈ e.2, ∃ c, d.compile = .ok c)
    (next : nextKind ws = .keyword .condition) : Reads True patternsSection
      ⟨[], depth, headed .patterns (m.entries.flatMap (patternWords forms) ++ ws)⟩
      ⟨m.keys.reverse, depth, ws⟩ (· = m) := by
  have first : namesBefore m.entries m.entries = [] := by simp [namesBefore]
  have last : namesBefore m.entries [] = m.keys.reverse := by simp [namesBefore, SortedMap.keys]
  refine reads_heading ?_
  rw [← first, ← last]
  refine Reads.then (P := (· = m)) ((reads_loop
    (V := fun is => ⟨namesBefore m.entries is, depth, is.flatMap (patternWords forms) ++ ws⟩)
    (fun is found => found.entries ++ is = m.entries) ?_ ?_ ?_ rfl).mono Iff.rfl
    fun found => SortedMap.eq_of_entries) fun found same => ?_
  · intro e is found split
    have member : e ∈ m.entries := split ▸ by simp
    obtain ⟨absent, later⟩ := SortedMap.insert_next sorted split
    have fresh : e.1 ∉ (found.entries.map (·.1)).reverse := by
      have nodup := sorted.nodup
      rw [SortedMap.keys, ← split, List.map_append, List.nodup_append] at nodup
      rw [List.mem_reverse]
      exact fun known => nodup.2.2 _ known _ List.mem_cons_self rfl
    have after : namesBefore m.entries is = e.1 :: (found.entries.map (·.1)).reverse := by
      have split' : (found.entries ++ [e]) ++ is = m.entries := by simp [split]
      rw [namesBefore_eq split']
      simp
    have ends : Ends (nextKind (is.flatMap (patternWords forms) ++ ws)) := by
      cases is with
      | nil =>
        change Ends (nextKind ws)
        rw [next]
        constructor <;> simp
      | cons e is => constructor <;> simp [nextKind, patternWords, Word.name]
    rw [namesBefore_eq split, after, List.flatMap_cons, List.append_assoc]
    refine reads_accept?_yes rfl fun t word => ?_
    have key : t.text = e.1 := congrArg Word.text word
    have defs := (formed e member).2
    refine (reads_patternDefinition (formed e member).1 (defs ▸ compile e member) ends).then fun read same => ?_
    subst same
    rw [key, absent, defs]
    exact (reads_declare fresh).then fun _ _ => reads_pure ⟨_, rfl, later⟩
  · intro e is _ _
    simp only [List.flatMap_cons, List.length_append, patternWords, List.length_cons]
    omega
  · exact fun found _ => reads_accept?_no (by simp [next]) (reads_pure rfl)
  · subst same
    have isSome : found.isEmpty = false := by simpa [SortedMap.isEmpty, SortedMap.keys] using some
    dsimp only
    rw [isSome]
    exact reads_pure rfl

theorem reads_grepSection {g : GrepSection} {forms : String → Form} (formed : g.WellFormed)
    (sorted : g.patterns.Sorted)
    (written : ∀ e ∈ g.patterns.entries, (forms e.1).Proper ∧ (forms e.1).defs = e.2)
    (next : Stops (nextKind ws)) : Reads (g.condition.nesting .expression ≤ nestingLimit) grepSection
      ⟨[], 0, headed .grep (g.words forms) ++ ws⟩ ⟨g.patterns.keys.reverse, 0, ws⟩ (· = g) := by
  have compile : ∀ e ∈ g.patterns.entries, ∀ d ∈ e.2, ∃ c, d.compile = .ok c := fun e member =>
    (formed.defined e.2 (List.mem_map_of_mem member)).2
  have calls : ∀ l ∈ g.condition.leaves, ReadsLeaf call g.patterns.keys.reverse l := fun l inside => by
    have calls := formed.condition l inside
    cases l with
    | property c => exact calls.elim
    | call c => exact readsLeaf_call (l := .call c) (HitCall.Allowed.reverse calls)
  have words : headed .grep (g.words forms) ++ ws = headed .grep (headed .patterns
      (g.patterns.entries.flatMap (patternWords forms) ++
        headed .condition (g.condition.words .expression ++ ws))) := by
    simp [headed, GrepSection.words]
  rw [words]
  refine reads_heading ?_
  refine (reads_patternsSection sorted formed.some written compile rfl).then fun patterns same => ?_
  subst same
  refine reads_heading ?_
  exact (reads_predicate calls next).last fun condition same => reads_pure (by rw [same])

/-! ## Rules -/

section sections
variable {α : Type} {k : Keyword} {f : α → List Word} {found : Option α}

theorem nextKind_section (k : Keyword) (f : α → List Word) (found : Option α) {kinds : List TokenKind}
    (later : nextKind ws ∈ kinds) :
    nextKind ((found.map fun a => headed k (f a)).getD [] ++ ws) ∈ .keyword k :: kinds := by
  cases found with
  | none => exact List.mem_cons_of_mem _ later
  | some a => exact List.mem_cons_self

/-- A section that is printed where there is one. -/
theorem reads_section? {r : Reader α} (ok : Option α → Prop) (after : Option α → List String)
    (other : nextKind ws ≠ .keyword k) (absent : ok none ∧ after none = names)
    (each : ∀ a, found = some a → Reads (ok (some a)) r ⟨names, depth, headed k (f a) ++ ws⟩
      ⟨after (some a), depth, ws⟩ (· = a)) :
    Reads (ok found) (section? k r) ⟨names, depth, (found.map fun a => headed k (f a)).getD [] ++ ws⟩
      ⟨after found, depth, ws⟩ (· = found) := by
  refine reads_isNext.then fun next same => ?_
  cases found with
  | none =>
    obtain rfl : next = false := same.trans (decide_eq_false other)
    have none : Reads True (pure none : Reader (Option α)) ⟨names, depth, ws⟩ ⟨names, depth, ws⟩
      (· = .none) := reads_pure rfl
    rw [absent.2]
    exact none.mono (iff_true_intro absent.1) fun _ given => given
  | some a =>
    obtain rfl : next = true := same.trans (decide_eq_true rfl)
    exact (each a rfl).map fun b same => congrArg some same

end sections

theorem stops_of_section (next : nextKind ws ∈ [.keyword .signature, .keyword .grep, .closeBrace]) :
    Stops (nextKind ws) := by
  have stops : ∀ kind ∈ [.keyword .signature, .keyword .grep, .closeBrace],
      kind ≠ .keyword .and ∧ kind ≠ .keyword .or ∧ TokenKind.isComparison kind = false := by decide
  obtain ⟨noAnd, noOr, noComparison⟩ := stops _ next
  exact ⟨noAnd, noOr, noComparison⟩

section rules
variable {r : Rule} {forms : String → Form}

theorem reads_notes (printable : r.Printable) (next : nextKind ws ∈ [.keyword .hash, .keyword .fileMetadata,
      .keyword .signature, .keyword .grep, .closeBrace]) : Reads True (section? .metaSection metaSection)
    ⟨names, 0, (r.notes.map fun info => headed .metaSection (infoWords info)).getD [] ++ ws⟩
    ⟨names, 0, ws⟩ (· = r.notes) := by
  have later : ∀ kind ∈ [.keyword .hash, .keyword .fileMetadata, .keyword .signature, .keyword .grep, .closeBrace],
      kind ≠ .keyword .metaSection ∧ kind ≠ TokenKind.identifier := by decide
  obtain ⟨other, noIdentifier⟩ := later _ next
  refine reads_section? (fun _ => True) (fun _ => names) other ⟨trivial, rfl⟩ fun info found => ?_
  obtain rfl : r.info = info := by
    unfold Rule.notes at found
    split at found
    · nomatch found
    · exact Option.some.inj found
  exact reads_metaSection printable.info.1 noIdentifier

theorem reads_hash (printable : r.Printable) (next : nextKind ws ∈ [.keyword .fileMetadata,
      .keyword .signature, .keyword .grep, .closeBrace]) : Reads True (section? .hash hashSection)
    ⟨names, 0, (r.hash.map fun h => headed .hash h.words).getD [] ++ ws⟩ ⟨names, 0, ws⟩ (· = r.hash) := by
  have later : ∀ kind ∈ [.keyword .fileMetadata, .keyword .signature, .keyword .grep, .closeBrace],
      kind ≠ .keyword .hash ∧ kind ≠ .comma ∧ HashAlgorithm.ofToken? kind = none := by decide
  obtain ⟨other, noComma, noRecord⟩ := later _ next
  exact reads_section? (fun _ => True) (fun _ => names) other ⟨trivial, rfl⟩ fun h found =>
    reads_hashSection (printable.formed.hash h found) noComma noRecord

theorem reads_properties {k : Keyword} {s : PropertySection} {found : Option Predicate}
    (compares : ∀ p, found = some p → ∀ l ∈ p.leaves, l.ComparesIn s) (other : nextKind ws ≠ .keyword k)
    (next : Stops (nextKind ws)) : Reads ((found.map (·.nesting .expression)).getD 0 ≤ nestingLimit)
    (section? k do heading k; predicate (comparison s))
    ⟨names, 0, (found.map fun p => headed k (p.words .expression)).getD [] ++ ws⟩ ⟨names, 0, ws⟩
    (· = found) := by
  refine reads_section?
    (fun found : Option Predicate => (found.map (·.nesting .expression)).getD 0 ≤ nestingLimit)
    (fun _ => names) other ⟨Nat.zero_le _, rfl⟩ fun p found => reads_heading ?_
  exact reads_predicate (fun l inside => readsLeaf_comparison (compares p found l inside)) next

theorem reads_grep (printable : r.Printable) (formedBy : r.FormedBy forms)
    (next : nextKind ws ∈ [TokenKind.closeBrace]) :
    Reads ((r.grep.map (·.condition.nesting .expression)).getD 0 ≤ nestingLimit)
      (section? .grep grepSection)
      ⟨[], 0, (r.grep.map fun g => headed .grep (g.words forms)).getD [] ++ ws⟩
      ⟨(r.grep.map (·.patterns.keys.reverse)).getD [], 0, ws⟩ (· = r.grep) := by
  have other : nextKind ws ≠ .keyword .grep := by simp [List.mem_singleton.mp next]
  have stops : Stops (nextKind ws) := stops_of_section (by simp [List.mem_singleton.mp next])
  refine reads_section?
    (fun grep : Option GrepSection => (grep.map (·.condition.nesting .expression)).getD 0 ≤ nestingLimit)
    (fun grep : Option GrepSection => (grep.map (·.patterns.keys.reverse)).getD []) other
    ⟨Nat.zero_le _, rfl⟩ fun g found => ?_
  exact reads_grepSection (printable.formed.grep g found) (printable.patterns g found).1 (formedBy g found) stops

theorem reads_sections (printable : r.Printable) (formedBy : r.FormedBy forms) :
    Reads (r.nesting ≤ nestingLimit) sections ⟨[], 0, (r.words forms).drop 1⟩
      ⟨(r.grep.map (·.patterns.keys.reverse)).getD [], 0, [.sign .closeBrace]⟩ (· = r.sections) := by
  have nesting : r.nesting ≤ nestingLimit ↔
      (r.fileMetadata.map (·.nesting .expression)).getD 0 ≤ nestingLimit ∧
      (r.signature.map (·.nesting .expression)).getD 0 ≤ nestingLimit ∧
      (r.grep.map (·.condition.nesting .expression)).getD 0 ≤ nestingLimit := by
    rw [Rule.nesting, Nat.max_le, Nat.max_le]
  have info : r.notes.getD SortedMap.empty = r.info := by
    unfold Rule.notes
    split
    · rename_i empty
      exact congrArg SortedMap.mk (List.isEmpty_iff.mp empty).symm
    · rfl
  have words : (r.words forms).drop 1 = .name r.name :: .sign .openBrace ::
      ((r.notes.map fun info => headed .metaSection (infoWords info)).getD [] ++
      ((r.hash.map fun h => headed .hash h.words).getD [] ++
      ((r.fileMetadata.map fun p => headed .fileMetadata (p.words .expression)).getD [] ++
      ((r.signature.map fun p => headed .signature (p.words .expression)).getD [] ++
      ((r.grep.map fun g => headed .grep (g.words forms)).getD [] ++ [.sign .closeBrace]))))) := by
    simp [Rule.words, Rule.body]
  have closing : nextKind [.sign .closeBrace] ∈ [TokenKind.closeBrace] := List.mem_singleton_self _
  have grep := nextKind_section .grep (·.words forms) r.grep closing
  have signature := nextKind_section .signature (·.words .expression) r.signature grep
  have fileMetadata := nextKind_section .fileMetadata (·.words .expression) r.fileMetadata signature
  have hash := nextKind_section .hash (·.words) r.hash fileMetadata
  have noSignature : ∀ kind ∈ [.keyword .grep, TokenKind.closeBrace], kind ≠ .keyword .signature := by decide
  have noFile : ∀ kind ∈ [.keyword .signature, .keyword .grep, TokenKind.closeBrace],
    kind ≠ .keyword .fileMetadata := by decide
  rw [words]
  refine Reads.mono (reads_expect rfl fun t word => reads_past rfl ?_) nesting fun _ given => given
  refine (reads_notes printable hash).then fun _ sameInfo => ?_
  refine (reads_hash printable fileMetadata).then fun _ sameHash => ?_
  refine (reads_properties printable.formed.fileMetadata (noFile _ signature)
    (stops_of_section signature)).bind fun _ sameFile => ?_
  refine (reads_properties printable.formed.signature (noSignature _ grep)
    (stops_of_section (List.mem_cons_of_mem _ grep))).bind fun _ sameSignature => ?_
  refine (reads_grep printable formedBy closing).last fun _ sameGrep => reads_pure ?_
  have name : t.text = r.name := congrArg Word.text word
  rw [name, sameInfo, sameHash, sameFile, sameSignature, sameGrep, info]
  rfl

theorem reads_declaration (printable : r.Printable) (formedBy : r.FormedBy forms) (start : ReaderState) :
    Reads (r.nesting ≤ nestingLimit) (declaration start) ⟨[], 0, (r.words forms).drop 1⟩
      ⟨(r.grep.map (·.patterns.keys.reverse)).getD [], 0, []⟩ (·.sections = r.sections) := by
  rw [declaration_eq]
  refine (reads_sections printable formedBy).last fun x same => ?_
  exact reads_past rfl (reads_get_bind fun stop _ => reads_pure (by rw [same]; rfl))

end rules

end Reader

namespace ReaderState
variable {s : ReaderState}

theorem readRules_nil (none : s.unread = []) (fuel : Nat) : s.readRules fuel = ({}, s) := by
  cases fuel with
  | zero => rfl
  | succ fuel => rw [readRules, none, List.isEmpty_nil, if_pos rfl]

section single
variable {t : Token} {rest : List Token}

theorem rules_of_ok {next : ReaderState} {r : Rule} (unread : s.unread = t :: rest)
    (starts : t.kind = .keyword .rule) (ran : Reader.rule.run s = (.ok r, next)) (none : next.unread = []) :
    s.rules.1 = ⟨[r], []⟩ := by
  rw [rules, unread, List.length_cons, readRules, peek_of_cons unread, starts, ran]
  simp only [unread, List.isEmpty_cons, readRules_nil none]
  rfl

/-- A declaration that fails and holds no other one gives its error only. -/
theorem rules_of_error {failed : ReaderState} {e : ParseError} (unread : s.unread = t :: rest)
    (starts : t.kind = .keyword .rule) (others : ∀ x ∈ rest, x.kind ≠ .keyword .rule)
    (ran : Reader.rule.run s = (.error e, failed)) : s.rules.1 = ⟨[], [e]⟩ := by
  have none : (s.recover failed).unread = [] := by
    change s.skip.toRule.unread = []
    rw [toRule_unread, skip_of_cons unread]
    exact List.dropWhile_eq_nil_iff.mpr fun x member => decide_eq_true (others x member)
  rw [rules, unread, List.length_cons, readRules, peek_of_cons unread, starts, ran]
  simp only [unread, List.isEmpty_cons, readRules_nil none]
  rfl

end single
end ReaderState

/-- From the words of a rule, however they are laid out, the rule is read, unless its parentheses are nested
too deeply. -/
theorem parseRules_of_words {r : Rule} (printable : r.Printable) {forms : String → Form}
    (formedBy : r.FormedBy forms) {text : String} {body : List Token} {finish : Token}
    (lexed : tokens text = .ok (body ++ [finish])) (ends : finish.kind = .endOfFile)
    (words : body.map Token.word = r.words forms) :
    (r.nesting ≤ nestingLimit → ∃ r', parseRules text = .ok ⟨[r'], []⟩ ∧ r'.sections = r.sections) ∧
      (nestingLimit < r.nesting → ∃ e, parseRules text = .ok ⟨[], [e]⟩ ∧ e.fault = .nestedTooDeeply) := by
  obtain ⟨t, rest, rfl, word, words⟩ := List.map_eq_cons_iff.mp words
  change rest.map Token.word = (r.words forms).drop 1 at words
  have starts : t.kind = .keyword .rule := congrArg Word.kind word
  have others : ∀ x ∈ rest, x.kind ≠ .keyword .rule := fun x member =>
    (printable.block_words formedBy).noRule x.word (words ▸ List.mem_map_of_mem member)
  let s : ReaderState := { unread := t :: rest, finish }
  have read : parseRules text = .ok s.rules.1 := by
    unfold parseRules
    rw [lexed]
    exact congrArg (fun s => Except.ok (ReaderState.rules s).1) (ReaderState.start_eq _ ends)
  have sees : s.skip.Sees ⟨[], 0, (r.words forms).drop 1⟩ := ⟨rfl, rfl, words, ends⟩
  obtain ⟨gives, fails⟩ := Reader.reads_declaration printable formedBy s s.skip sees
  have run := Reader.run_rule (s := s) starts
  rw [read]
  constructor
  · intro shallow
    obtain ⟨r', next, ran, sees, same⟩ := gives shallow
    have none : next.unread = [] := List.map_eq_nil_iff.mp sees.words
    exact ⟨r', congrArg _ (ReaderState.rules_of_ok rfl starts (run.trans ran) none), same⟩
  · intro deep
    obtain ⟨e, failed, ran, fault⟩ := fails (Nat.not_le_of_lt deep)
    exact ⟨e, congrArg _ (ReaderState.rules_of_error rfl starts others (run.trans ran)), fault⟩

/-- A rule that has a text can be written, whatever its patterns are written as, and is read again from each of
its texts, unless its parentheses are nested too deeply: then no rule is read. -/
theorem parseRules_print {r : Rule} (printable : r.Printable) : (∃ forms, r.FormedBy forms) ∧
    ∀ forms, r.FormedBy forms →
      (r.nesting ≤ nestingLimit → ∃ r', parseRules (r.print forms) = .ok ⟨[r'], []⟩ ∧
        r'.sections = r.sections) ∧
      (nestingLimit < r.nesting → ∃ e, parseRules (r.print forms) = .ok ⟨[], [e]⟩ ∧
        e.fault = .nestedTooDeeply) := by
  refine ⟨printable.formedBy, fun forms formedBy => ?_⟩
  obtain ⟨body, finish, lexed, ends, words⟩ := printable.tokens_print formedBy
  exact parseRules_of_words printable formedBy lexed ends words

/-- Parentheses within parentheses. -/
def tower : Nat → Predicate
  | 0 => .leaf (.property ⟨.filesize, .gt, .number 1⟩)
  | n + 1 => .and (.leaf (.property ⟨.filename, .ne, .text "a\\\"b"⟩)) (.or (tower n) (tower 0))

theorem nesting_tower (n : Nat) : (tower n).nesting .expression = n ∧ (tower n).nesting .term = n := by
  induction n with
  | zero => simp [tower, Predicate.nesting]
  | succ n ih => simp [tower, Predicate.nesting, ih]

theorem leaves_tower (n : Nat) : ∀ l ∈ (tower n).leaves, l = .property ⟨.filesize, .gt, .number 1⟩ ∨
    l = .property ⟨.filename, .ne, .text "a\\\"b"⟩ := by
  induction n with
  | zero => simp [tower, Predicate.leaves]
  | succ n ih =>
    simp only [tower, Predicate.leaves, List.cons_append, List.nil_append, List.forall_mem_cons,
      List.forall_mem_append]
    exact ⟨.inr trivial, ih, by simp⟩

/-- A rule with every section. -/
def towerRule (n : Nat) : Rule where
  name := "Tower"
  id := ""
  info := ⟨[("author", "me"), ("date", "")]⟩
  hash := some ⟨[{ md5 := some "0a", blake3 := some "ff" }]⟩
  fileMetadata := some (tower n)
  signature := some (.leaf (.property ⟨.signatureId, .eq, .text "x"⟩))
  grep := some ⟨⟨[("p", [⟨"q", true, true, "ASCII"⟩, ⟨"q", true, true, "UTF-8"⟩]),
      ("z", [⟨"\\z0a", false, false, "ASCII"⟩])]⟩,
    .or (.leaf (.call ⟨.offset, ["p"], some 2, some (.le, 7)⟩)) (.leaf (.call ⟨.any, [], none, none⟩))⟩
  firstToken := 0
  lastToken := 0

theorem wellFormed_towerRule (n : Nat) : (towerRule n).WellFormed where
  hash := by
    rintro h ⟨⟩
    refine ⟨by decide, fun r member => ?_, fun a => Reader.mem_algorithms⟩
    obtain rfl := List.mem_singleton.mp member
    have lower : ∀ digest ∈ ["0a", "ff"], digest.toList.all fun c => !c.isUpper := by decide
    refine ⟨by decide, fun a digest found c inside => ?_⟩
    have among : digest ∈ ["0a", "ff"] := by cases a <;> cases found <;> simp
    simpa using List.all_eq_true.mp (lower digest among) c inside
  fileMetadata := by
    rintro p ⟨⟩ l inside
    rcases leaves_tower n l inside with rfl | rfl
    · exact ⟨by decide, by simp [numberBound]⟩
    · exact ⟨by decide, by simp⟩
  signature := by
    rintro p ⟨⟩ l inside
    obtain rfl := List.mem_singleton.mp inside
    exact ⟨by decide, by simp⟩
  grep := by
    rintro g ⟨⟩
    refine ⟨by decide, ?_, ?_⟩
    · have compile : ((∃ c, PatternDef.compile ⟨"q", true, true, "ASCII"⟩ = .ok c) ∧
          ∃ c, PatternDef.compile ⟨"q", true, true, "UTF-8"⟩ = .ok c) ∧
          ∃ c, PatternDef.compile ⟨"\\z0a", false, false, "ASCII"⟩ = .ok c :=
        ⟨⟨⟨_, by rfl⟩, ⟨_, by rfl⟩⟩, ⟨_, by rfl⟩⟩
      simpa [SortedMap.values] using compile
    · have offset : HitCall.Allowed ["p", "z"] ⟨.offset, ["p"], some 2, some (.le, 7)⟩ :=
        ⟨by decide, rfl, by decide, by decide, by decide, by simp [numberBound], by simp [numberBound]⟩
      have any : HitCall.Allowed ["p", "z"] ⟨.any, [], none, none⟩ :=
        ⟨by decide, rfl, by decide, by decide, by decide, by simp, by simp⟩
      exact List.forall_mem_cons.mpr ⟨offset, List.forall_mem_singleton.mpr any⟩

theorem printable_towerRule (n : Nat) : (towerRule n).Printable where
  formed := wellFormed_towerRule n
  name := (by decide : Lexer.Identifier "Tower".toList)
  info := ⟨(by decide : ["author", "date"].Pairwise (· < ·)), (by decide :
    ∀ e ∈ [("author", "me"), ("date", "")], Lexer.Identifier e.1.toList ∧ Quotable e.2.toList)⟩
  hash := by
    rintro h ⟨⟩
    decide
  fileMetadata := by
    rintro p ⟨⟩ l inside
    rcases leaves_tower n l inside with rfl | rfl <;> simp [Leaf.Quotes, Quotable]
  signature := by
    rintro p ⟨⟩ l inside
    obtain rfl := List.mem_singleton.mp inside
    simp [Leaf.Quotes, Quotable]
  patterns := by
    rintro g ⟨⟩
    have names : Lexer.Identifier "p".toList ∧ Lexer.Identifier "z".toList := by decide
    have encodings : Lexer.EncodingName "ASCII".toList ∧ Lexer.EncodingName "UTF-8".toList := by decide
    refine ⟨(by decide : ["p", "z"].Pairwise (· < ·)), ?_⟩
    simpa [Alike, Quotable] using And.intro (And.intro names.1 encodings) (And.intro names.2 encodings.1)

/-- Fifty parentheses within each other are read, and one more is not. -/
theorem towerRule_fifty : (towerRule 50).Printable ∧ (towerRule 51).Printable ∧
    (∃ forms r', (towerRule 50).FormedBy forms ∧
      parseRules ((towerRule 50).print forms) = .ok ⟨[r'], []⟩ ∧ r'.sections = (towerRule 50).sections) ∧
    ∃ forms e, (towerRule 51).FormedBy forms ∧
      parseRules ((towerRule 51).print forms) = .ok ⟨[], [e]⟩ ∧ e.fault = .nestedTooDeeply := by
  have nesting (n : Nat) : (towerRule n).nesting = n := by
    simp [Rule.nesting, towerRule, Predicate.nesting, nesting_tower n]
  obtain ⟨⟨forms, formedBy⟩, each⟩ := parseRules_print (printable_towerRule 50)
  obtain ⟨⟨forms', formedBy'⟩, each'⟩ := parseRules_print (printable_towerRule 51)
  obtain ⟨r', read, same⟩ := (each forms formedBy).1 (by rw [nesting]; decide)
  obtain ⟨e, refused, fault⟩ := (each' forms' formedBy').2 (by rw [nesting]; decide)
  exact ⟨printable_towerRule 50, printable_towerRule 51, ⟨forms, r', formedBy, read, same⟩,
    forms', e, formedBy', refused, fault⟩

end Triage
