import Triage.Engine
import Triage.Proofs.Rule.Layout
import Triage.Proofs.Rule.RoundTrip

/-! Names of files in rules. A text between quotes is compared as it stands, with its backslashes: rules can
tell a file by its name only if the name can stand between quotes. -/

namespace Triage
open Lexer

/-- The text of a rule that asks for the name of a file, with the given text between the quotes. -/
def naming (body : String) : String :=
  "rule R \x7b file_metadata: filename == \"" ++ body ++ "\" \x7d"

/-- The text is read as one rule, whose file metadata are those of the files of a name. -/
def Names (text name : String) : Prop :=
  ∃ r p, parseRules text = .ok ⟨[r], []⟩ ∧ r.fileMetadata = some p ∧
    ∀ d n, FileFacts.propertiesHold d n p = true ↔ d.name = name

/-! ## Names that can be quoted -/

section quotable
variable {name : String}

def namingRule (name : String) : Rule where
  name := "R"
  id := ""
  info := SortedMap.empty
  hash := none
  fileMetadata := some (.leaf (.property ⟨.filename, .eq, .text name⟩))
  signature := none
  grep := none
  firstToken := 0
  lastToken := 0

theorem printable_namingRule (quotable : Quotable name.toList) : (namingRule name).Printable where
  formed := by
    refine ⟨by simp [namingRule], ?_, by simp [namingRule], by simp [namingRule]⟩
    rintro p ⟨⟩ l inside
    obtain rfl := List.mem_singleton.mp inside
    exact ⟨by simp [Comparison.allowedIn, Property.home, Property.allows, Property.operators, Value.kind,
      Property.valueKind], by simp⟩
  name := (by decide : Identifier "R".toList)
  info := ⟨List.Pairwise.nil, by simp [namingRule, SortedMap.empty]⟩
  hash := by simp [namingRule]
  fileMetadata := by
    rintro p ⟨⟩ l inside
    obtain rfl := List.mem_singleton.mp inside
    rintro _ ⟨⟩
    exact quotable
  signature := by simp [namingRule]
  patterns := by simp [namingRule]

/-- The words in front of the name, with the gaps before them. -/
def asking : List Tile :=
  [⟨[], .key .rule⟩, ⟨[' '], .name "R"⟩, ⟨[' '], .sign .openBrace⟩, ⟨[' '], .key .fileMetadata⟩,
    ⟨[], .sign .colon⟩, ⟨[' '], .key .filename⟩, ⟨[' '], .sign .equalEqual⟩]

def namingTiles (name : String) : List Tile :=
  asking ++ [⟨[' '], .quoted name⟩, ⟨[' '], .sign .closeBrace⟩]

theorem paved_namingTiles (name : String) : paved (namingTiles name) [] = (naming name).toList := by
  have before : asking.flatMap Tile.source ++ [' ', '"'] =
      "rule R \x7b file_metadata: filename == \"".toList := by decide
  have behind : ['"', ' ', '\x7d'] = "\" \x7d".toList := by decide
  have around (first last : String) : (first ++ name ++ last).toList =
      first.toList ++ (name.toList ++ last.toList) := by
    rw [String.toList_append, String.toList_append, List.append_assoc]
  calc paved (namingTiles name) []
      _ = asking.flatMap Tile.source ++ [' ', '"'] ++ (name.toList ++ ['"', ' ', '\x7d']) := by
        simp [namingTiles, paved, Tile.source, Word.piece, Piece.source, Word.sign, Word.quoted,
          TokenKind.literal]
      _ = "rule R \x7b file_metadata: filename == \"".toList ++ (name.toList ++ "\" \x7d".toList) := by
        rw [before, behind]
      _ = (naming name).toList := (around _ _).symm

theorem laid_namingTiles (quotable : Quotable name.toList) : Laid .plain (namingTiles name) [] := by
  have fits {gap : List Char} {w : Word} {after : List Char} (blank : gap.all isBlank)
      (spelled : w.Spelled .plain) (closes : w.kind = .string → Quotable w.text.toList)
      (clear : Clear w.extendedBy after) : Tile.Fits ⟨gap, w⟩ .plain after :=
    ⟨.of_all blank, spelled, closes, by simp, by simp, clear⟩
  have sign {gap : List Char} {kind : TokenKind} {after : List Char} (blank : gap.all isBlank)
      (spelled : (Word.sign kind).Spelled .plain) (other : kind ≠ .string)
      (clear : Clear (Word.sign kind).extendedBy after) : Tile.Fits ⟨gap, .sign kind⟩ .plain after :=
    fits blank spelled (fun same => absurd same other) clear
  have identifier : Identifier "R".toList := by decide
  refine ⟨sign rfl rfl (by decide) (clear_cons.mpr rfl), fits rfl identifier (by decide)
    (clear_cons.mpr rfl), sign rfl rfl (by decide) (clear_cons.mpr rfl), sign rfl rfl (by decide)
    (clear_cons.mpr rfl), sign rfl rfl (by decide) (clear_cons.mpr rfl), sign rfl rfl (by decide)
    (clear_cons.mpr rfl), sign rfl rfl (by decide) (clear_cons.mpr rfl), fits rfl trivial
    (fun _ => quotable) (clear_cons.mpr rfl), sign rfl rfl (by decide) clear_nil, trivial⟩

theorem names_naming (quotable : Quotable name.toList) : Names (naming name) name := by
  have printable := printable_namingRule quotable
  have formedBy : (namingRule name).FormedBy fun _ => .bytes [] := nofun
  have past : Stretch.plain.past (namingTiles name) = .plain := rfl
  obtain ⟨body, finish, lexed, ends, words⟩ := tokens_paved (laid_namingTiles quotable) (.inl .nil)
    (by simp [past]) (by simp [past])
  rw [paved_namingTiles, String.ofList_toList] at lexed
  obtain ⟨r, read, same⟩ := (parseRules_of_words printable formedBy lexed (congrArg Word.kind ends)
    words).1 (Nat.zero_le _)
  refine ⟨r, _, read, congrArg (·.fileMetadata) same, fun d n => ?_⟩
  simp [FileFacts.propertiesHold, Predicate.eval, FileFacts.comparisonHolds, FileFacts.text?,
    CompareOp.compare, CompareOp.holds]

end quotable

/-! ## Names that cannot -/

theorem Lexer.Laid.quotable {m : Stretch} {tiles : List Tile} {after : List Char} (laid : Laid m tiles after) :
    ∀ t ∈ tiles, t.word.kind = .string → Quotable t.word.text.toList := by
  induction tiles generalizing m with
  | nil => simp
  | cons t ts ih => exact List.forall_mem_cons.mpr ⟨laid.1.quotable, ih laid.2⟩

theorem quotable_of_tokens {text : String} {ts : List Token} (lexed : tokens text = .ok ts) :
    ∀ x ∈ ts, x.kind = .string → Quotable x.text.toList := by
  obtain ⟨tiles, last, -, rfl, laid, -⟩ := tokens_tiling lexed
  intro x member kind
  rcases List.mem_append.mp member with inBody | ended
  · have word : x.word ∈ tiles.map Tile.word := by
      rw [← map_word_standing []]
      exact List.mem_map_of_mem inBody
    obtain ⟨t, inside, same⟩ := List.mem_map.mp word
    have quotable := laid.quotable t inside
    rw [same] at quotable
    exact quotable kind
  · rw [List.mem_singleton.mp ended] at kind
    nomatch kind

/-- What a rule compares the properties of a file to can stand between quotes. -/
theorem quotes_of_parsed {text : String} {list : RuleList} (read : parseRules text = .ok list) {r : Rule}
    (member : r ∈ list.rules) {p : Predicate} (found : r.fileMetadata = some p) :
    ∀ l ∈ p.leaves, l.Quotes := by
  obtain ⟨body, finish, s, t, lexed, ends, spelled, inside, -, -, ran⟩ := exists_declaration read member
  have within := inside.skip.within ends
  have known := inside.skip.keywordsSpelled ends (keywordsSpelled_of_spelled spelled)
  obtain ⟨-, -, quoting, -⟩ := (Reader.takes_declaration known s s.skip within).of_ok ran
  intro l inLeaves
  have quoted := quoting p (.inl found) l inLeaves
  cases l with
  | call c => trivial
  | property c =>
    intro value same
    obtain ⟨x, ahead, kind, rfl⟩ := quoted value same
    exact quotable_of_tokens lexed x (inside.skip.mem_of_ahead ahead) kind

theorem Predicate.eval_congr {f g : Leaf → Bool} {p : Predicate} (same : ∀ l ∈ p.leaves, f l = g l) :
    p.eval f = p.eval g := by
  induction p with
  | leaf l => exact same l List.mem_cons_self
  | and l r left right | or l r left right =>
    obtain ⟨inLeft, inRight⟩ := List.forall_mem_append.mp same
    rw [Predicate.eval, Predicate.eval, left inLeft, right inRight]

/-- A comparison does not tell apart two names neither of which it can quote. -/
theorem comparisonHolds_unquotable {c : Comparison} (compares : Leaf.ComparesIn .fileMetadata (.property c))
    (quotes : Leaf.Quotes (.property c)) {name name' : String} (unquotable : ¬Quotable name.toList)
    (unquotable' : ¬Quotable name'.toList) (d : Dirent) (n : Inode) :
    FileFacts.comparisonHolds { d with name := name } n c =
      FileFacts.comparisonHolds { d with name := name' } n c := by
  obtain ⟨property, op, value⟩ := c
  by_cases named : property = .filename
  · subst named
    cases value with
    | number _ => rfl
    | text value =>
      have quotable : Quotable value.toList := quotes value rfl
      have differs {actual : String} (unquotable : ¬Quotable actual.toList) :
          compare actual value ≠ .eq := by
        intro same
        exact unquotable (Std.LawfulEqOrd.eq_of_compare same ▸ quotable)
      have sign : op = .eq ∨ op = .ne := by
        simpa [Leaf.ComparesIn, Comparison.allowedIn, Property.allows, Property.operators, Property.home,
          Value.kind, Property.valueKind] using compares
      rcases sign with rfl | rfl <;>
        simp [FileFacts.comparisonHolds, FileFacts.text?, CompareOp.compare, CompareOp.holds,
          bne, beq_eq_false_iff_ne.mpr (differs unquotable), beq_eq_false_iff_ne.mpr (differs unquotable')]
  · cases property <;> cases value <;> first | rfl | exact absurd rfl named

theorem quotable_of_names {text name : String} (names : Names text name) : Quotable name.toList := by
  obtain ⟨r, p, read, found, holds⟩ := names
  have member : r ∈ [r] := List.mem_singleton_self r
  have compares := (parsed_wellFormed read member).fileMetadata p found
  have quotes := quotes_of_parsed read member found
  by_contra unquotable
  -- Some other name cannot be quoted either.
  obtain ⟨name', other, unquotable'⟩ : ∃ name', name' ≠ name ∧ ¬Quotable name'.toList := by
    by_cases same : name = "\""
    · exact ⟨"\\", by simp [same], by decide⟩
    · exact ⟨"\"", Ne.symm same, by decide⟩
  let d : Dirent := ⟨"", "", 0, .file⟩
  let n : Inode := { address := 0, size := 0 }
  have alike : FileFacts.propertiesHold { d with name := name } n p =
      FileFacts.propertiesHold { d with name := name' } n p := by
    refine Predicate.eval_congr fun l inside => ?_
    cases l with
    | call c => rfl
    | property c =>
      exact comparisonHolds_unquotable (compares _ inside) (quotes _ inside) unquotable unquotable' d n
  have matched := (holds { d with name := name } n).mpr rfl
  exact other ((holds { d with name := name' } n).mp (alike ▸ matched))

/-- The files of a name can be told by a rule, and by one that asks for the name only, if and only if the
name can stand between quotes as it is. -/
theorem nameable_iff (name : String) : ((∃ text, Names text name) ↔ Quotable name.toList) ∧
    ((∃ body, Names (naming body) name) ↔ Quotable name.toList) :=
  ⟨⟨fun ⟨_, names⟩ => quotable_of_names names, fun quotable => ⟨_, names_naming quotable⟩⟩,
    ⟨fun ⟨_, names⟩ => quotable_of_names names, fun quotable => ⟨_, names_naming quotable⟩⟩⟩

/-- No rule names a file with a quote in its name. -/
theorem quotedName_unnamed : ¬∃ body, Names (naming body) "a\"b" := by
  rintro ⟨body, names⟩
  exact absurd (quotable_of_names names) (by decide)

end Triage
