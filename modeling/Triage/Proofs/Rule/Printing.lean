import Triage.Proofs.Rule.Accepted
import Triage.Proofs.Token.Written

/-! Rules as texts. A rule is printed as the words of the grammar, with parentheses around an operand only
where it would be read otherwise without them. -/

namespace Triage
open Lexer

namespace Word

def sign (kind : TokenKind) : Word := ⟨kind, kind.literal⟩

def key (k : Keyword) : Word := sign (.keyword k)

def name (text : String) : Word := ⟨.identifier, text⟩

def quoted (text : String) : Word := ⟨.string, text⟩

def number (n : Nat) : Word := ⟨.number, n.repr⟩

end Word

/-- Items with a comma between any two. -/
def listed : List (List Word) → List Word
  | [] => []
  | first :: rest => first ++ rest.flatMap (.sign .comma :: ·)

def headed (k : Keyword) (ws : List Word) : List Word := .key k :: .sign .colon :: ws

/-! ## Sections without patterns -/

def infoWords (info : SortedMap String String) : List Word :=
  info.entries.flatMap fun e => [.name e.1, .sign .equal, .quoted e.2]

def HashAlgorithm.keyword : HashAlgorithm → Keyword
  | .md5 => .md5
  | .sha1 => .sha1
  | .sha256 => .sha256
  | .blake3 => .blake3

def HashRecord.digests (r : HashRecord) : List (HashAlgorithm × String) :=
  HashAlgorithm.every.filterMap fun a => (r.get? a).map (a, ·)

def HashRecord.words (r : HashRecord) : List Word :=
  listed (r.digests.map fun e => [.key e.1.keyword, .sign .equalEqual, .quoted e.2])

def HashSection.words (h : HashSection) : List Word := h.records.flatMap (·.words)

/-! ## Predicates -/

def CompareOp.sign : CompareOp → TokenKind
  | .eq => .equalEqual
  | .ne => .notEqual
  | .lt => .less
  | .le => .lessEqual
  | .gt => .greater
  | .ge => .greaterEqual

def Property.word : Property → Word
  | .created => .key .created
  | .modified => .key .modified
  | .filesize => .key .filesize
  | .filename => .key .filename
  | .filepath => .key .filepath
  | .signatureName => .name "name"
  | .signatureId => .name "id"

def Value.word : Value → Word
  | .text s => .quoted s
  | .number n => .number n

def Comparison.words (c : Comparison) : List Word := [c.property.word, .sign c.op.sign, c.value.word]

def HitFunction.keyword : HitFunction → Keyword
  | .all => .all
  | .any => .any
  | .offset => .offset
  | .count => .count
  | .countHasHits => .countHasHits
  | .length => .length

/-- The arguments of a call, the hit index behind the patterns. -/
def HitCall.arguments (c : HitCall) : List Word :=
  c.patterns.map Word.name ++ c.hitIndex.toList.map Word.number

def HitCall.words (c : HitCall) : List Word :=
  .key c.function.keyword :: .sign .openParen :: listed (c.arguments.map ([·])) ++
    .sign .closeParen :: c.comparison.toList.flatMap fun e => [.sign e.1.sign, .number e.2]

def Leaf.words : Leaf → List Word
  | .call c => c.words
  | .property c => c.words

/-- Where a predicate stands: as a whole, between two `or`, or between two `and`. -/
inductive Slot
  | expression | term | factor
deriving DecidableEq, Repr

namespace Predicate

def enclosed (parentheses : Bool) (ws : List Word) : List Word :=
  if parentheses then .sign .openParen :: ws ++ [.sign .closeParen] else ws

def words : Slot → Predicate → List Word
  | slot, .or l r =>
    enclosed (slot ≠ .expression) (l.words .expression ++ .key .or :: r.words .term)
  | slot, .and l r => enclosed (slot = .factor) (l.words .term ++ .key .and :: r.words .factor)
  | _, .leaf l => l.words

/-- How deep the parentheses are nested that the predicate is printed with. -/
def nesting : Slot → Predicate → Nat
  | slot, .or l r =>
    max (l.nesting .expression) (r.nesting .term) + if slot ≠ .expression then 1 else 0
  | slot, .and l r => max (l.nesting .term) (r.nesting .factor) + if slot = .factor then 1 else 0
  | _, .leaf _ => 0

end Predicate

/-! ## Patterns -/

inductive Modifier
  | nocase
  | fixed
  | encodings (names : List String)
deriving DecidableEq, Repr

def Modifier.words : Modifier → List Word
  | .nocase => [.key .nocase]
  | .fixed => [.key .fixed]
  | .encodings names => .key .encodings :: .sign .equal :: listed (names.map ([.name ·]))

def Reader.Modifiers.apply (m : Reader.Modifiers) : Modifier → Reader.Modifiers
  | .nocase => { m with nocase := true }
  | .fixed => { m with fixed := true }
  | .encodings names => { m with encodings := names }

/-- What a pattern is written as: a text with modifiers in any order, or the digits of its bytes. -/
inductive Form
  | quoted (text : String) (modifiers : List Modifier)
  | bytes (digits : List Char)
deriving DecidableEq, Repr

namespace Form

def digitWord (c : Char) : Word := ⟨if Lexer.isDigit c then .number else .identifier, String.ofList [c]⟩

def words : Form → List Word
  | quoted text modifiers => .quoted text :: modifiers.flatMap Modifier.words
  | bytes digits => .sign .openBrace :: digits.map digitWord ++ [.sign .closeBrace]

/-- The definitions that the form stands for. -/
def defs : Form → List PatternDef
  | quoted text modifiers =>
    let m := modifiers.foldl Reader.Modifiers.apply {}
    m.encodings.map fun e => ⟨text, m.nocase, m.fixed, e⟩
  | bytes digits => [{ text := String.ofList (Reader.rawBytes digits) }]

/-- Whether the form can be written. -/
def Proper : Form → Prop
  | quoted text modifiers => Quotable text.toList ∧ ∀ names, .encodings names ∈ modifiers →
      names ≠ [] ∧ ∀ e ∈ names, EncodingName e.toList ∧ (Encoding.labelled? e).isSome
  | bytes digits => digits ≠ [] ∧ digits.length % 2 = 0 ∧ digits.all Hex.isDigit

/-- The form with every modifier that the definitions have. -/
def ofDefs (defs : List PatternDef) : Form :=
  match defs with
  | [] => quoted "" []
  | d :: _ => quoted d.text <| (if d.nocase then [.nocase] else []) ++ (if d.fixed then [.fixed] else []) ++
      [.encodings (defs.map (·.encoding))]

end Form

def patternWords (forms : String → Form) (e : String × List PatternDef) : List Word :=
  .name e.1 :: .sign .equal :: (forms e.1).words

def GrepSection.words (forms : String → Form) (g : GrepSection) : List Word :=
  headed .patterns (g.patterns.entries.flatMap (patternWords forms)) ++
    headed .condition (g.condition.words .expression)

/-! ## Rules -/

namespace Rule
variable (forms : String → Form)

/-- The section of notes, which is left out where there are none. -/
def notes (r : Rule) : Option (SortedMap String String) := if r.info.isEmpty then none else some r.info

def body (r : Rule) : List Word :=
  (r.notes.map fun info => headed .metaSection (infoWords info)).getD [] ++
  (r.hash.map fun h => headed .hash h.words).getD [] ++
  (r.fileMetadata.map fun p => headed .fileMetadata (p.words .expression)).getD [] ++
  (r.signature.map fun p => headed .signature (p.words .expression)).getD [] ++
  (r.grep.map fun g => headed .grep (g.words forms)).getD []

def words (r : Rule) : List Word :=
  .key .rule :: .name r.name :: .sign .openBrace :: r.body forms ++ [.sign .closeBrace]

def print (r : Rule) : String := String.ofList (written (r.words forms))

def nesting (r : Rule) : Nat :=
  max ((r.fileMetadata.map (·.nesting .expression)).getD 0)
    (max ((r.signature.map (·.nesting .expression)).getD 0)
      ((r.grep.map (·.condition.nesting .expression)).getD 0))

end Rule

def Leaf.Quotes : Leaf → Prop
  | .property c => ∀ s, c.value = .text s → Quotable s.toList
  | .call _ => True

/-- A rule that has a text. -/
structure Rule.Printable (r : Rule) : Prop where
  formed : r.WellFormed
  name : Identifier r.name.toList
  info : r.info.Sorted ∧ ∀ e ∈ r.info.entries, Identifier e.1.toList ∧ Quotable e.2.toList
  hash : ∀ h, r.hash = some h → ∀ record ∈ h.records, ∀ e ∈ record.digests, Quotable e.2.toList
  fileMetadata : ∀ p, r.fileMetadata = some p → ∀ l ∈ p.leaves, l.Quotes
  signature : ∀ p, r.signature = some p → ∀ l ∈ p.leaves, l.Quotes
  patterns : ∀ g, r.grep = some g → g.patterns.Sorted ∧
    ∀ e ∈ g.patterns.entries, Identifier e.1.toList ∧ Alike e.2 ∧
      ∀ d ∈ e.2, Quotable d.text.toList ∧ EncodingName d.encoding.toList

/-- The forms stand for the patterns of the rule. -/
def Rule.FormedBy (r : Rule) (forms : String → Form) : Prop :=
  ∀ g, r.grep = some g → ∀ e ∈ g.patterns.entries, (forms e.1).Proper ∧ (forms e.1).defs = e.2

theorem Form.defs_ofDefs {defs : List PatternDef} (some : defs ≠ []) (alike : Alike defs) :
    (ofDefs defs).defs = defs := by
  obtain ⟨d, others, rfl⟩ := List.exists_cons_of_ne_nil some
  have each (e : PatternDef) (member : e ∈ d :: others) : ⟨d.text, d.nocase, d.fixed, e.encoding⟩ = e := by
    obtain ⟨text, nocase, fixed⟩ := alike e member d List.mem_cons_self
    rw [← text, ← nocase, ← fixed]
  have read : (ofDefs (d :: others)).defs =
      (d :: others).map fun e => ⟨d.text, d.nocase, d.fixed, e.encoding⟩ := by
    rcases d with ⟨text, nocase, fixed, encoding⟩
    cases nocase <;> cases fixed <;> simp [ofDefs, Form.defs, Reader.Modifiers.apply]
  rw [read, List.map_congr_left each, List.map_id']

theorem labelled?_of_compile {d : PatternDef} {c : CompiledPattern} (compiles : d.compile = .ok c) :
    (Encoding.labelled? d.encoding).isSome := by
  unfold PatternDef.compile at compiles
  split at compiles
  · nomatch compiles
  · rename_i found
    rw [found]
    rfl

theorem SortedMap.find?_of_mem {α : Type} {m : SortedMap String α} (sorted : m.Sorted) {e : String × α}
    (member : e ∈ m.entries) : m.find? e.1 = some e.2 := by
  obtain ⟨before, after, split⟩ := List.append_of_mem member
  refine List.lookup_eq_some_iff.mpr ⟨before, after, split, fun other earlier => ?_⟩
  rw [Sorted, keys, split, List.map_append, List.pairwise_append] at sorted
  have less := sorted.2.2 other.1 (List.mem_map_of_mem earlier) e.1 List.mem_cons_self
  rw [bne_iff_ne]
  exact fun same => String.lt_irrefl _ (same ▸ less)

/-- Every printable rule has forms to be printed with. -/
theorem Rule.Printable.formedBy {r : Rule} (printable : r.Printable) : ∃ forms, r.FormedBy forms := by
  cases grep : r.grep with
  | none => exact ⟨fun _ => .bytes [], fun g found => nomatch grep ▸ found⟩
  | some g =>
    obtain ⟨sorted, patterns⟩ := printable.patterns g grep
    refine ⟨fun name => .ofDefs ((g.patterns.find? name).getD []), fun g' found e member => ?_⟩
    obtain rfl : g = g' := Option.some.inj (grep.symm.trans found)
    obtain ⟨-, alike, written⟩ := patterns e member
    obtain ⟨some, compile⟩ := (printable.formed.grep g grep).defined e.2 (List.mem_map_of_mem member)
    dsimp only
    rw [SortedMap.find?_of_mem sorted member, Option.getD_some]
    refine ⟨?_, Form.defs_ofDefs some alike⟩
    obtain ⟨d, others, split⟩ := List.exists_cons_of_ne_nil some
    rw [split, Form.ofDefs]
    refine ⟨(written d (split ▸ List.mem_cons_self)).1, fun names listed => ?_⟩
    obtain rfl : names = (d :: others).map (·.encoding) := by
      rcases d with ⟨text, nocase, fixed, encoding⟩
      cases nocase <;> cases fixed <;> simpa using listed
    refine ⟨by simp, fun name member => ?_⟩
    obtain ⟨def', inside, rfl⟩ := List.mem_map.mp member
    obtain ⟨c, compiles⟩ := compile def' (split ▸ inside)
    exact ⟨(written def' (split ▸ inside)).2, labelled?_of_compile compiles⟩

/-! ## The words of a rule can be written -/

/-- A word that can stand anywhere but in a list of encodings, and starts neither a rule nor such a list. -/
structure Word.Ordinary (w : Word) : Prop where
  spelled : w.Spelled .plain
  quotable : w.kind = .string → Quotable w.text.toList
  noRule : w.kind ≠ .keyword .rule
  noList : w.kind ≠ .keyword .encodings

theorem Word.ordinary_sign {kind : TokenKind} (plain : kind.literal ≠ "" ∧ kind ≠ .keyword .rule ∧
    kind ≠ .keyword .encodings) : (sign kind).Ordinary := by
  refine ⟨?_, ?_, plain.2.1, plain.2.2⟩ <;> cases kind <;> simp_all [sign, Spelled, TokenKind.literal]

theorem Word.ordinary_name {text : String} (identifier : Identifier text.toList) : (name text).Ordinary :=
  ⟨by simpa [name, Spelled] using identifier, by simp [name], by simp [name], by simp [name]⟩

theorem Word.ordinary_quoted {text : String} (quotable : Quotable text.toList) : (quoted text).Ordinary :=
  ⟨by simp [quoted, Spelled], fun _ => quotable, by simp [quoted], by simp [quoted]⟩

theorem isDigit_eq (c : Char) : isDigit c = c.isDigit := by
  simp [isDigit, Char.isDigit, Char.le_def]

theorem toList_repr (n : Nat) : n.repr.toList = Nat.toDigits 10 n := by
  rw [Nat.repr_eq_ofList_toDigits, String.toList_ofList]

theorem Word.ordinary_number (n : Nat) : (number n).Ordinary := by
  refine ⟨⟨?_, ?_⟩, by simp [number], by simp [number], by simp [number]⟩
  · rw [number, toList_repr]
    exact Nat.toDigits_ne_nil
  · rw [number, toList_repr, List.all_eq_true]
    intro c member
    rw [isDigit_eq]
    exact Nat.isDigit_of_mem_toDigits (by decide) (by decide) member

theorem spelled?_singleton (c : Char) : Keyword.spelled? (String.ofList [c]) = none := by
  refine List.find?_eq_none.mpr fun k _ same => ?_
  have long : 1 < k.spelling.length := by cases k <;> decide
  rw [beq_iff_eq.mp same, String.length_ofList] at long
  exact Nat.lt_irrefl 1 long

theorem Word.ordinary_digit {c : Char} (digit : Hex.isDigit c) : (Form.digitWord c).Ordinary := by
  cases decimal : Lexer.isDigit c with
  | true =>
    have same : Form.digitWord c = ⟨.number, String.ofList [c]⟩ := by rw [Form.digitWord, decimal]; rfl
    rw [same]
    exact ⟨by simp [Spelled, decimal], by simp, by simp, by simp⟩
  | false =>
    have same : Form.digitWord c = ⟨.identifier, String.ofList [c]⟩ := by rw [Form.digitWord, decimal]; rfl
    have starts : startsIdentifier c := by
      rw [startsIdentifier_iff]
      have noDecimal : ¬(48 ≤ c.toNat ∧ c.toNat ≤ 57) := by rw [← isDigit_iff, decimal]; simp
      simp only [Hex.isDigit, Hex.value?, Char.le_def, UInt32.le_iff_toNat_le] at digit
      change (if 48 ≤ c.toNat ∧ c.toNat ≤ 57 then some (c.toNat - 48)
        else if 97 ≤ c.toNat ∧ c.toNat ≤ 102 then some (c.toNat - 87)
        else if 65 ≤ c.toNat ∧ c.toNat ≤ 70 then some (c.toNat - 55) else none).isSome = true at digit
      split at digit
      · contradiction
      · split at digit
        · omega
        · split at digit
          · omega
          · cases digit
    have identifier : Identifier [c] :=
      ⟨⟨c, [], rfl, starts⟩, by simp [continuesIdentifier, starts], spelled?_singleton c⟩
    rw [same]
    exact ordinary_name (by simpa using identifier)

/-- Words that can stand behind any words of a rule, and any other words of a rule behind them. -/
structure Block (ws : List Word) : Prop where
  noRule : ∀ w ∈ ws, w.kind ≠ .keyword .rule
  writable : ∀ m, m = .plain ∨ m = .named → Writable m ws ∧ (m.afterAll ws = .plain ∨ m.afterAll ws = .named)

theorem block_nil : Block [] := ⟨by simp, fun m calm => ⟨trivial, calm⟩⟩

theorem Block.append {a b : List Word} (first : Block a) (second : Block b) : Block (a ++ b) where
  noRule := List.forall_mem_append.mpr ⟨first.noRule, second.noRule⟩
  writable m calm := by
    obtain ⟨writable, calm⟩ := first.writable m calm
    obtain ⟨writable', calm'⟩ := second.writable _ calm
    refine ⟨writable_append.mpr ⟨writable, writable'⟩, ?_⟩
    rwa [Stretch.afterAll, List.foldl_append]

theorem block_flatMap {ι : Type} {items : List ι} {f : ι → List Word} (each : ∀ i ∈ items, Block (f i)) :
    Block (items.flatMap f) := by
  induction items with
  | nil => exact block_nil
  | cons i items ih =>
    obtain ⟨first, others⟩ := List.forall_mem_cons.mp each
    exact first.append (ih others)

theorem writable_ordinary {ws : List Word} (ordinary : ∀ w ∈ ws, w.Ordinary) :
    Writable .plain ws ∧ Stretch.plain.afterAll ws = .plain := by
  induction ws with
  | nil => exact ⟨trivial, rfl⟩
  | cons w ws ih =>
    obtain ⟨first, others⟩ := List.forall_mem_cons.mp ordinary
    obtain ⟨writable, after⟩ := ih others
    have plain : Stretch.plain.after w.kind = .plain := by rw [after_plain, if_neg first.noList]
    refine ⟨⟨first.spelled, first.quotable, by simp, by simp, ?_⟩, ?_⟩
    · rwa [plain]
    · exact (congrArg (Stretch.afterAll · ws) plain).trans after

/-- Ordinary words, of which the first is no comma. -/
theorem block_ordinary {w : Word} {ws : List Word} (first : w.Ordinary) (noComma : w.kind ≠ .comma)
    (others : ∀ v ∈ ws, v.Ordinary) : Block (w :: ws) where
  noRule := List.forall_mem_cons.mpr ⟨first.noRule, fun v member => (others v member).noRule⟩
  writable m calm := by
    have plain : m.after w.kind = .plain := by
      rcases calm with rfl | rfl
      · rw [after_plain, if_neg first.noList]
      · rw [after_named noComma, after_plain, if_neg first.noList]
    have spelled : w.Spelled m := by
      rcases calm with rfl | rfl
      · exact first.spelled
      · exact first.spelled
    obtain ⟨writable, after⟩ := writable_ordinary others
    refine ⟨⟨spelled, first.quotable, ?_, ?_, ?_⟩, .inl ?_⟩
    · rcases calm with rfl | rfl <;> simp
    · rcases calm with rfl | rfl <;> simp
    · rwa [plain]
    · exact (congrArg (Stretch.afterAll · ws) plain).trans after

theorem block_cons {w : Word} {ws : List Word} (first : w.Ordinary) (noComma : w.kind ≠ .comma)
    (block : Block ws) : Block (w :: ws) :=
  (block_ordinary first noComma (List.forall_mem_nil _)).append block

theorem ordinary_key {k : Keyword} (noRule : k ≠ .rule) (noList : k ≠ .encodings) : (Word.key k).Ordinary :=
  Word.ordinary_sign ⟨by cases k <;> decide, by simpa using noRule, by simpa using noList⟩

theorem ordinary_parens : (Word.sign .openParen).Ordinary ∧ (Word.sign .closeParen).Ordinary :=
  ⟨Word.ordinary_sign (by decide), Word.ordinary_sign (by decide)⟩

theorem ordinary_braces : (Word.sign .openBrace).Ordinary ∧ (Word.sign .closeBrace).Ordinary :=
  ⟨Word.ordinary_sign (by decide), Word.ordinary_sign (by decide)⟩

theorem block_headed {k : Keyword} {ws : List Word} (noRule : k ≠ .rule) (noList : k ≠ .encodings)
    (block : Block ws) : Block (headed k ws) := by
  have colon : (Word.sign .colon).Ordinary := Word.ordinary_sign (by decide)
  exact block_cons (ordinary_key noRule noList) (by simp [Word.key, Word.sign]) (block_cons colon (by decide) block)

theorem ordinary_listed {items : List (List Word)} (ordinary : ∀ ws ∈ items, ∀ w ∈ ws, w.Ordinary) :
    ∀ w ∈ listed items, w.Ordinary := by
  have comma : (Word.sign .comma).Ordinary := Word.ordinary_sign (by decide)
  cases items with
  | nil => simp [listed]
  | cons first rest =>
    obtain ⟨first, others⟩ := List.forall_mem_cons.mp ordinary
    refine List.forall_mem_append.mpr ⟨first, fun w member => ?_⟩
    obtain ⟨ws, inside, here⟩ := List.mem_flatMap.mp member
    exact List.forall_mem_cons.mpr ⟨comma, others ws inside⟩ w here

theorem block_infoWords {info : SortedMap String String}
    (entries : ∀ e ∈ info.entries, Identifier e.1.toList ∧ Quotable e.2.toList) : Block (infoWords info) := by
  refine block_flatMap fun e member => ?_
  obtain ⟨identifier, quotable⟩ := entries e member
  have equal : (Word.sign .equal).Ordinary := Word.ordinary_sign (by decide)
  refine block_ordinary (Word.ordinary_name identifier) (by simp [Word.name]) ?_
  simpa using ⟨equal, Word.ordinary_quoted quotable⟩

theorem digests_ne_nil {r : HashRecord} (formed : r.WellFormed) : r.digests ≠ [] := by
  obtain ⟨a, member⟩ := List.exists_mem_of_ne_nil _ formed.some
  obtain ⟨every, has⟩ := List.mem_filter.mp member
  obtain ⟨digest, found⟩ := Option.isSome_iff_exists.mp has
  exact List.ne_nil_of_mem (List.mem_filterMap.mpr ⟨a, every, by rw [found]; rfl⟩)

theorem block_hashWords {h : HashSection} (some : ∀ r ∈ h.records, r.digests ≠ [])
    (digests : ∀ r ∈ h.records, ∀ e ∈ r.digests, Quotable e.2.toList) : Block h.words := by
  have equal : (Word.sign .equalEqual).Ordinary := Word.ordinary_sign (by decide)
  have algorithm (a : HashAlgorithm) : (Word.key a.keyword).Ordinary := by
    cases a <;> exact Word.ordinary_sign (by decide)
  refine block_flatMap fun r member => ?_
  have ordinary : ∀ w ∈ r.words, w.Ordinary := by
    refine ordinary_listed fun ws listed => ?_
    obtain ⟨e, inside, rfl⟩ := List.mem_map.mp listed
    simpa using ⟨algorithm e.1, equal, Word.ordinary_quoted (digests r member e inside)⟩
  obtain ⟨e, others, split⟩ := List.exists_cons_of_ne_nil (some r member)
  have words : r.words = .key e.1.keyword :: (r.words.drop 1) := by
    rw [HashRecord.words, split]
    rfl
  rw [words] at ordinary ⊢
  obtain ⟨first, others⟩ := List.forall_mem_cons.mp ordinary
  exact block_ordinary first (by simp [Word.key, Word.sign]) others

theorem ordinary_op (op : CompareOp) : (Word.sign op.sign).Ordinary := by
  cases op <;> exact Word.ordinary_sign (by decide)

theorem block_comparison {c : Comparison} (quotes : ∀ s, c.value = .text s → Quotable s.toList) :
    Block c.words := by
  have value : c.value.word.Ordinary := by
    cases found : c.value with
    | text s => exact Word.ordinary_quoted (quotes s found)
    | number n => exact Word.ordinary_number n
  have property : c.property.word.Ordinary ∧ c.property.word.kind ≠ .comma := by
    have name {text : String} (identifier : Identifier text.toList) :
        (Word.name text).Ordinary ∧ (Word.name text).kind ≠ .comma :=
      ⟨Word.ordinary_name identifier, by simp [Word.name]⟩
    have key {k : Keyword} (other : k ≠ .rule ∧ k ≠ .encodings) :
        (Word.key k).Ordinary ∧ (Word.key k).kind ≠ .comma :=
      ⟨ordinary_key other.1 other.2, by simp [Word.key, Word.sign]⟩
    cases c.property with
    | signatureName => exact name (by decide)
    | signatureId => exact name (by decide)
    | _ => exact key (by decide)
  exact block_ordinary property.1 property.2 (by simpa using ⟨ordinary_op c.op, value⟩)

theorem block_call {c : HitCall} (identifiers : ∀ name ∈ c.patterns, Identifier name.toList) :
    Block c.words := by
  have function : (Word.key c.function.keyword).Ordinary := by
    cases c.function <;> exact ordinary_key (by decide) (by decide)
  have arguments : ∀ w ∈ listed (c.arguments.map ([·])), w.Ordinary := by
    refine ordinary_listed fun ws member => ?_
    obtain ⟨w, argument, rfl⟩ := List.mem_map.mp member
    simp only [List.forall_mem_singleton]
    rcases List.mem_append.mp argument with among | index
    · obtain ⟨name, inside, rfl⟩ := List.mem_map.mp among
      exact Word.ordinary_name (identifiers name inside)
    · obtain ⟨n, _, rfl⟩ := List.mem_map.mp index
      exact Word.ordinary_number n
  refine block_ordinary function (by simp [Word.key, Word.sign]) ?_
  refine List.forall_mem_cons.mpr ⟨ordinary_parens.1, List.forall_mem_append.mpr ⟨arguments, ?_⟩⟩
  refine List.forall_mem_cons.mpr ⟨ordinary_parens.2, fun w member => ?_⟩
  obtain ⟨⟨op, n⟩, _, compared⟩ := List.mem_flatMap.mp member
  simp only [List.mem_cons, List.not_mem_nil, or_false] at compared
  rcases compared with rfl | rfl
  · exact ordinary_op op
  · exact Word.ordinary_number n

theorem block_enclosed {ws : List Word} (parentheses : Bool) (block : Block ws) :
    Block (Predicate.enclosed parentheses ws) := by
  unfold Predicate.enclosed
  split
  · exact (block_cons ordinary_parens.1 (by decide) block).append
      (block_ordinary ordinary_parens.2 (by decide) (by simp))
  · exact block

theorem block_predicate {p : Predicate} (leaves : ∀ l ∈ p.leaves, Block l.words) (slot : Slot) :
    Block (p.words slot) := by
  induction p generalizing slot with
  | leaf l => exact leaves l List.mem_cons_self
  | or l r ihl ihr =>
    obtain ⟨left, right⟩ := List.forall_mem_append.mp leaves
    have key : (Word.key .or).Ordinary := ordinary_key (by decide) (by decide)
    exact block_enclosed _ ((ihl left _).append (block_cons key (by decide) (ihr right _)))
  | and l r ihl ihr =>
    obtain ⟨left, right⟩ := List.forall_mem_append.mp leaves
    have key : (Word.key .and).Ordinary := ordinary_key (by decide) (by decide)
    exact block_enclosed _ ((ihl left _).append (block_cons key (by decide) (ihr right _)))

/-! ### Patterns -/

theorem writable_name {e : String} {ws : List Word} (encoding : EncodingName e.toList)
    (more : Writable .named ws) : Writable .name (.name e :: ws) := by
  have spelled : (Word.name e).Spelled .name := by simpa [Word.name, Word.Spelled] using encoding
  exact ⟨spelled, (by rintro ⟨⟩), (by rintro ⟨⟩), fun _ => rfl, more⟩

theorem writable_names {names : List String} (encodings : ∀ e ∈ names, EncodingName e.toList) :
    Writable .named (names.flatMap fun e => [.sign .comma, .name e]) ∧
      Stretch.named.afterAll (names.flatMap fun e => [.sign .comma, .name e]) = .named := by
  induction names with
  | nil => exact ⟨trivial, rfl⟩
  | cons e names ih =>
    obtain ⟨first, others⟩ := List.forall_mem_cons.mp encodings
    obtain ⟨writable, after⟩ := ih others
    exact ⟨⟨rfl, by decide, by simp, by simp, writable_name first writable⟩, after⟩

theorem block_modifier {modifier : Modifier} (proper : ∀ names, modifier = .encodings names →
    names ≠ [] ∧ ∀ e ∈ names, EncodingName e.toList) : Block modifier.words := by
  cases modifier with
  | nocase => exact block_ordinary (ordinary_key (by decide) (by decide)) (by decide) (by simp)
  | fixed => exact block_ordinary (ordinary_key (by decide) (by decide)) (by decide) (by simp)
  | encodings names =>
    obtain ⟨some, encodings⟩ := proper names rfl
    obtain ⟨e, names, rfl⟩ := List.exists_cons_of_ne_nil some
    obtain ⟨first, others⟩ := List.forall_mem_cons.mp encodings
    obtain ⟨writable, after⟩ := writable_names others
    have words : (Modifier.encodings (e :: names)).words = .key .encodings :: .sign .equal :: .name e ::
        names.flatMap fun e => [.sign .comma, .name e] := by
      simp [Modifier.words, listed, List.flatMap_map]
    rw [words]
    constructor
    · simp only [List.mem_cons, List.mem_flatMap, List.not_mem_nil, or_false]
      rintro w (rfl | rfl | rfl | ⟨e, _, rfl | rfl⟩) <;> simp [Word.key, Word.sign, Word.name]
    · intro m calm
      have list : m.after (.keyword .encodings) = .equal := after_encodings m
      refine ⟨⟨rfl, by decide, ?_, ?_, ?_⟩, ?_⟩
      · rcases calm with rfl | rfl <;> simp
      · rcases calm with rfl | rfl <;> simp
      · change Writable (m.after (.keyword .encodings)) _
        rw [list]
        exact ⟨rfl, by decide, by decide, by simp, writable_name first writable⟩
      · refine .inr ?_
        change (m.after (.keyword .encodings)).afterAll _ = _
        rw [list]
        exact after

theorem block_form {form : Form} (proper : form.Proper) : Block form.words := by
  cases form with
  | quoted text modifiers =>
    obtain ⟨quotable, encodings⟩ := proper
    refine block_cons (Word.ordinary_quoted quotable) (by simp [Word.quoted]) (block_flatMap fun m member => ?_)
    refine block_modifier fun names same => ?_
    obtain ⟨some, each⟩ := encodings names (same ▸ member)
    exact ⟨some, fun e inside => (each e inside).1⟩
  | bytes digits =>
    refine block_ordinary ordinary_braces.1 (by decide) ?_
    refine List.forall_mem_append.mpr ⟨fun w member => ?_, List.forall_mem_singleton.mpr ordinary_braces.2⟩
    obtain ⟨c, inside, rfl⟩ := List.mem_map.mp member
    exact Word.ordinary_digit (List.all_eq_true.mp proper.2.2 c inside)

/-! ### Rules -/

theorem Rule.Printable.block {r : Rule} (printable : r.Printable) {forms : String → Form}
    (formedBy : r.FormedBy forms) : Block (r.body forms) := by
  have optional {α : Type} {found : Option α} {f : α → List Word} (each : ∀ a, found = some a → Block (f a)) :
      Block ((found.map f).getD []) := by
    cases found with
    | none => exact block_nil
    | some a => exact each a rfl
  have comparisons {s : PropertySection} {l : Leaf} (compares : l.ComparesIn s) (quotes : l.Quotes) :
      Block l.words := by
    cases l with
    | property c => exact block_comparison quotes
    | call c => exact compares.elim
  refine ((((optional ?_).append (optional ?_)).append (optional ?_)).append (optional ?_)).append (optional ?_)
  · intro info found
    obtain rfl : r.info = info := by
      unfold Rule.notes at found
      split at found
      · nomatch found
      · exact Option.some.inj found
    exact block_headed (by decide) (by decide) (block_infoWords printable.info.2)
  · intro h found
    refine block_headed (by decide) (by decide) (block_hashWords ?_ (printable.hash h found))
    exact fun record member => digests_ne_nil ((printable.formed.hash h found).records record member)
  · intro p found
    exact block_headed (by decide) (by decide) (block_predicate (fun l member => comparisons
      (printable.formed.fileMetadata p found l member) (printable.fileMetadata p found l member)) _)
  · intro p found
    exact block_headed (by decide) (by decide) (block_predicate (fun l member => comparisons
      (printable.formed.signature p found l member) (printable.signature p found l member)) _)
  · intro g found
    have patterns := (printable.patterns g found).2
    refine block_headed (by decide) (by decide) (Block.append (block_headed (by decide) (by decide) ?_)
      (block_headed (by decide) (by decide) (block_predicate (fun l member => ?_) _)))
    · refine block_flatMap fun e member => ?_
      refine block_cons (Word.ordinary_name (patterns e member).1) (by simp [Word.name]) ?_
      exact block_cons (Word.ordinary_sign (by decide)) (by decide)
        (block_form (formedBy g found e member).1)
    · have calls := (printable.formed.grep g found).condition l member
      cases l with
      | property c => exact calls.elim
      | call c =>
        refine block_call fun name inside => ?_
        obtain ⟨e, member, rfl⟩ := List.mem_map.mp (calls.declared name inside)
        exact (patterns e member).1

/-- Behind its keyword a rule starts no other. -/
theorem Rule.Printable.block_words {r : Rule} (printable : r.Printable) {forms : String → Form}
    (formedBy : r.FormedBy forms) : Block ((r.words forms).drop 1) := by
  refine block_cons (Word.ordinary_name printable.name) (by simp [Word.name]) ?_
  refine block_cons ordinary_braces.1 (by decide) ((printable.block formedBy).append ?_)
  exact block_ordinary ordinary_braces.2 (by decide) (by simp)

theorem Rule.Printable.tokens_print {r : Rule} (printable : r.Printable) {forms : String → Form}
    (formedBy : r.FormedBy forms) : ∃ body finish, tokens (r.print forms) = .ok (body ++ [finish]) ∧
      finish.kind = .endOfFile ∧ body.map Token.word = r.words forms := by
  obtain ⟨writable, calm⟩ := (printable.block_words formedBy).writable .plain (.inl rfl)
  have whole : Writable .plain (r.words forms) := ⟨rfl, by decide, by simp, by simp, writable⟩
  have after : Stretch.plain.afterAll (r.words forms) =
      Stretch.plain.afterAll ((r.words forms).drop 1) := rfl
  refine tokens_written whole ?_ ?_ <;> rw [after] <;> rcases calm with same | same <;> rw [same] <;> simp

end Triage
