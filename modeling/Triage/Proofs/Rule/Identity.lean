import Triage.Proofs.Rule.Kinds
import Triage.Proofs.Rule.Likeness
import Triage.Proofs.TextBytes

/-! What the identity of a rule tells. It is a digest of the texts of the rule's tokens, each closed by
a null byte. Where no text holds a null character the bytes tell the texts, the texts tell the words, and
the words tell all sections. -/

namespace Triage

/-- What a rule says, without where it stands. -/
structure Sections where
  name : String
  info : SortedMap String String
  hash : Option HashSection
  fileMetadata : Option Predicate
  signature : Option Predicate
  grep : Option GrepSection
deriving DecidableEq

def Rule.sections (r : Rule) : Sections := ⟨r.name, r.info, r.hash, r.fileMetadata, r.signature, r.grep⟩

/-- The texts of the tokens that a rule was read from. -/
def Rule.lexemes (r : Rule) (ts : List Token) : List String :=
  ((ts.drop r.firstToken).take (r.lastToken - r.firstToken)).map (·.text)

/-- The bytes that the identity of a rule is the digest of. -/
def idBytes (texts : List String) : List UInt8 := texts.flatMap fun t => t.toUTF8.toList ++ [0]

theorem ruleId_eq (texts : List String) : ruleId texts = Digest.Blake3.digest (idBytes texts) := rfl

/-! ## Bytes -/

theorem not_mem_toUTF8 {text : String} (free : '\x00' ∉ text.toList) : 0 ∉ text.toUTF8.toList := by
  rw [toList_toUTF8]
  exact not_mem_flatMap_utf8EncodeChar (show '\x00'.toNat ≤ 127 by decide) free

theorem append_separator_inj {α : Type} {x : α} {a b rest rest' : List α} (free : x ∉ a) (free' : x ∉ b)
    (same : a ++ x :: rest = b ++ x :: rest') : a = b ∧ rest = rest' := by
  induction a generalizing b with
  | nil =>
    cases b with
    | nil => exact ⟨rfl, (List.cons.inj same).2⟩
    | cons y b => exact absurd ((List.cons.inj same).1 ▸ List.mem_cons_self) free'
  | cons y a ih =>
    cases b with
    | nil => exact absurd ((List.cons.inj same).1 ▸ List.mem_cons_self) free
    | cons z b =>
      obtain ⟨rfl, tails⟩ := List.cons.inj same
      obtain ⟨rfl, rests⟩ := ih (fun member => free (List.mem_cons_of_mem y member))
        (fun member => free' (List.mem_cons_of_mem y member)) tails
      exact ⟨rfl, rests⟩

/-- Where no text holds a null character, the null bytes are those between the texts. -/
theorem idBytes_inj {texts texts' : List String} (free : ∀ t ∈ texts, '\x00' ∉ t.toList)
    (free' : ∀ t ∈ texts', '\x00' ∉ t.toList) (same : idBytes texts = idBytes texts') :
    texts = texts' := by
  have cons (t : String) (ts : List String) : idBytes (t :: ts) = t.toUTF8.toList ++ 0 :: idBytes ts := by
    simp [idBytes]
  induction texts generalizing texts' with
  | nil =>
    cases texts' with
    | nil => rfl
    | cons t' texts' => exact absurd same.symm (by simp [idBytes])
  | cons t texts ih =>
    cases texts' with
    | nil => exact absurd same (by simp [idBytes])
    | cons t' texts' =>
      obtain ⟨first, others⟩ := List.forall_mem_cons.mp free
      obtain ⟨first', others'⟩ := List.forall_mem_cons.mp free'
      rw [cons, cons] at same
      obtain ⟨bytes, rest⟩ := append_separator_inj (not_mem_toUTF8 first) (not_mem_toUTF8 first') same
      rw [toUTF8_inj bytes, ih others others' rest]

namespace Reader

/-- What comes before the brace that closes a rule. -/
def sections : Reader Sections := do
  let name ← expect .identifier "rule name"
  discard <| expect .openBrace "open curly brace"
  let info ← section? .metaSection metaSection
  let hash ← section? .hash hashSection
  let fileMetadata ← section? .fileMetadata fileMetadataSection
  let signature ← section? .signature signatureSection
  let grep ← section? .grep grepSection
  return ⟨name.text, info.getD SortedMap.empty, hash, fileMetadata, signature, grep⟩

theorem declaration_eq (start : ReaderState) : declaration start = (do
    let x ← sections
    discard <| expect .closeBrace "close curly brace"
    let stop ← get
    return {
      name := x.name, id := ruleId ((start.unread.take (stop.index - start.index)).map (·.text)),
      info := x.info, hash := x.hash, fileMetadata := x.fileMetadata, signature := x.signature,
      grep := x.grep, firstToken := start.index, lastToken := stop.index }) := by
  simp only [declaration, sections, bind_assoc, pure_bind]

theorem sections_of_declaration {start s t : ReaderState} {r : Rule}
    (ran : (declaration start).run s = (.ok r, t)) :
    ∃ u, sections.run s = (.ok r.sections, u) ∧ u.peek.kind = .closeBrace ∧ t = u.skip := by
  rw [declaration_eq, run_bind] at ran
  rcases one : sections.run s with ⟨e | x, u⟩ <;> rw [one] at ran
  · cases ran
  · dsimp only at ran
    by_cases closes : u.peek.kind = .closeBrace
    · rw [run_bind, run_discard (run_expect closes)] at ran
      cases ran
      exact ⟨u, rfl, closes, rfl⟩
    · have fails : (discard (expect .closeBrace "close curly brace")).run u =
          (.error ⟨.expected "close curly brace", u.peek.position⟩, u) := by
        change Reader.run (expect .closeBrace _ >>= fun _ => pure ⟨⟩ : Reader PUnit) u = _
        rw [run_bind, expect, run_expectAny, if_neg (by simpa using closes)]
      rw [run_bind, fails] at ran
      cases ran

theorem sections_blind (sight : Sight) : sections.Blind sight idle := by
  refine (agree_expect (by simp)).then fun t t' same => ?_
  rw [Token.text_of_word same]
  refine (agree_expect (by simp)).discard.then fun _ => ?_
  refine (blind_section? blind_metaSection _).then fun _ => ?_
  refine (blind_section? blind_hashSection _).then fun _ => ?_
  refine (blind_section? blind_fileMetadataSection _).then fun _ => ?_
  refine (blind_section? blind_signatureSection _).then fun _ => ?_
  exact (blind_section? blind_grepSection _).then fun _ => agree_pure rfl False.elim

theorem blind_sections {rest rest' : List Token} : sections.Blind (.upTo rest rest') idle := sections_blind _

end Reader

/-! ## Declarations -/

theorem Lexer.Stretch.after_rule (m : Stretch) : m.after (.keyword .rule) = .plain := by
  cases m <;> rfl

/-- A rule was read from tokens whose words are those of a declaration. -/
theorem exists_reading {text : String} {ts : List Token} {list : RuleList} {r : Rule}
    (lexed : tokens text = .ok ts) (read : parseRules text = .ok list) (member : r ∈ list.rules) :
    ∃ s t taken q, Reader.sections.run s = (.ok r.sections, t) ∧ s.unread = taken ++ t.skip.unread ∧
      t.skip.unread.length < t.unread.length ∧ s.finish.kind = .endOfFile ∧ s.nesting = 0 ∧
      s.declared = [] ∧ (Place.free false).walk (taken.map Token.word) = some q ∧ q.Free ∧
      Spelled .plain (taken.map Token.word) ∧
      r.lexemes ts = Keyword.rule.spelling :: taken.map (·.text) ∧ r.id = ruleId (r.lexemes ts) := by
  obtain ⟨body, finish, s, t, lexed', ends, spelled, inside, fresh, starts, ran⟩ :=
    exists_declaration read member
  obtain rfl : ts = body ++ [finish] := Except.ok.inj (lexed.symm.trans lexed')
  obtain ⟨u, sections, closes, rfl⟩ := Reader.sections_of_declaration ran
  have within := inside.skip.within ends
  have known := inside.skip.keywordsSpelled ends (keywordsSpelled_of_spelled spelled)
  obtain ⟨q, ⟨taken, unread, index, finish', -, walk⟩, -, ended⟩ :=
    (Reader.takes_declaration known s s.skip within).of_ok ran
  obtain ⟨first, last, id⟩ := (Reader.runs_declaration s s.skip).of_ok ran
  obtain ⟨x, all, start⟩ : ∃ x, s.unread = x :: (taken ++ u.skip.unread) ∧ s.skip.index = s.index + 1 := by
    cases found : s.unread with
    | nil =>
      rw [ReaderState.peek, found, List.headD_nil, inside.finish, ends] at starts
      cases starts
    | cons x rest =>
      rw [ReaderState.skip_of_cons found] at unread ⊢
      exact ⟨x, congrArg (x :: ·) unread, rfl⟩
  have kind : x.kind = .keyword .rule := by rwa [ReaderState.peek_of_cons all] at starts
  have count : u.skip.index - s.index = taken.length + 1 := by omega
  have whole : body = body.take s.index ++ x :: taken ++ u.skip.unread := by
    rw [List.append_assoc, List.cons_append, ← all, inside.unread, List.take_append_drop]
  have part : Spelled .plain (taken.map Token.word) := by
    rw [whole, List.map_append, List.map_append, Lexer.spelled_append, Lexer.spelled_append,
      List.map_cons] at spelled
    have behind := spelled.1.2.2
    rwa [Token.word_kind, kind, Lexer.Stretch.after_rule] at behind
  have text : x.text = Keyword.rule.spelling :=
    keywordsSpelled_of_spelled spelled x (whole ▸ by simp) .rule kind
  have lexemes : r.lexemes (body ++ [finish]) = x.text :: taken.map (·.text) := by
    rw [Rule.lexemes, first, last, count, List.drop_append_of_le_length inside.bound, ← inside.unread, all]
    simp
  have finished : u.finish = finish := by
    rw [← u.skip_finish, finish', inside.skip.finish]
  refine ⟨s.skip, u, taken, q, sections, unread, ?_, within.ends, inside.skip.nesting, ?_, walk, ended, part,
    ?_, ?_⟩
  · exact (Reader.eats_skip (finished ▸ ends)).2.2 (by simp [closes])
  · rw [← fresh, ReaderState.skip]
    split <;> rfl
  · rw [lexemes, text]
  · rw [id, lexemes, count, all]
    simp

theorem id_eq_of_read {text : String} {ts : List Token} {list : RuleList} {r : Rule}
    (lexed : tokens text = .ok ts) (read : parseRules text = .ok list) (member : r ∈ list.rules) :
    r.id = ruleId (r.lexemes ts) := by
  obtain ⟨_, _, _, _, _, _, _, _, _, _, _, _, _, _, id⟩ := exists_reading lexed read member
  exact id

/-- Rules of one identity are the same, unless a string of one holds a null character, or the digest
gives the same for other bytes. -/
theorem sections_eq_of_id {text text' : String} {ts ts' : List Token} {list list' : RuleList}
    {r r' : Rule} (lexed : tokens text = .ok ts) (lexed' : tokens text' = .ok ts')
    (read : parseRules text = .ok list) (read' : parseRules text' = .ok list')
    (member : r ∈ list.rules) (member' : r' ∈ list'.rules)
    (free : ∀ t ∈ r.lexemes ts, '\x00' ∉ t.toList) (free' : ∀ t ∈ r'.lexemes ts', '\x00' ∉ t.toList)
    (same : r.id = r'.id) : r.sections = r'.sections ∨
      idBytes (r.lexemes ts) ≠ idBytes (r'.lexemes ts') ∧
        Digest.Blake3.digest (idBytes (r.lexemes ts)) = Digest.Blake3.digest (idBytes (r'.lexemes ts')) := by
  obtain ⟨s, t, taken, q, ran, unread, more, ends, nesting, declared, walk, ended, spelled, texts, id⟩ :=
    exists_reading lexed read member
  obtain ⟨s', t', taken', q', ran', unread', more', ends', nesting', declared', walk', ended', spelled',
    texts', id'⟩ := exists_reading lexed' read' member'
  by_cases bytes : idBytes (r.lexemes ts) = idBytes (r'.lexemes ts')
  · have lexemes := idBytes_inj free free' bytes
    rw [texts, texts'] at lexemes
    have words : taken.map Token.word = taken'.map Token.word :=
      Place.words_eq walk walk' ended ended' spelled spelled'
        (by rw [List.map_map, List.map_map]; exact (List.cons.inj lexemes).2)
    have alike : s.Alike t.skip.unread t'.skip.unread s' :=
      ⟨⟨taken, taken', unread, unread', words⟩, nesting'.trans nesting.symm,
        declared'.trans declared.symm, ends⟩
    obtain ⟨x, u, again, same, -⟩ := Reader.blind_sections.agrees s s' _ _ alike ran more
    rw [ran'] at again
    cases again
    exact .inl same.symm
  · exact .inr ⟨bytes, by rw [← ruleId_eq, ← ruleId_eq, ← id, ← id', same]⟩

/-- The blanks of a text are not part of what its rules say. -/
theorem respacedRule_same : ∃ ts ts' list list' r r', tokens "rule A \x7b\x7d" = .ok ts ∧
    tokens "\n rule  A \x7b \x7d" = .ok ts' ∧ parseRules "rule A \x7b\x7d" = .ok list ∧
    parseRules "\n rule  A \x7b \x7d" = .ok list' ∧ r ∈ list.rules ∧ r' ∈ list'.rules ∧
    (∀ t ∈ r.lexemes ts, '\x00' ∉ t.toList) ∧ (∀ t ∈ r'.lexemes ts', '\x00' ∉ t.toList) ∧
    r.id = r'.id ∧ r.sections = r'.sections := by
  obtain ⟨ts, list, r, lexed, read, only, lexemes⟩ : ∃ ts list r, tokens "rule A \x7b\x7d" = .ok ts ∧
      parseRules "rule A \x7b\x7d" = .ok list ∧ list.rules = [r] ∧
      r.lexemes ts = ["rule", "A", "\x7b", "\x7d"] := ⟨_, _, _, by rfl, by rfl, by rfl, by rfl⟩
  obtain ⟨ts', list', r', lexed', read', only', lexemes'⟩ : ∃ ts list r,
      tokens "\n rule  A \x7b \x7d" = .ok ts ∧ parseRules "\n rule  A \x7b \x7d" = .ok list ∧ list.rules = [r] ∧
      r.lexemes ts = ["rule", "A", "\x7b", "\x7d"] := ⟨_, _, _, by rfl, by rfl, by rfl, by rfl⟩
  have member : r ∈ list.rules := only ▸ List.mem_singleton_self r
  have member' : r' ∈ list'.rules := only' ▸ List.mem_singleton_self r'
  have free : ∀ t ∈ r.lexemes ts, '\x00' ∉ t.toList := lexemes ▸ by decide
  have free' : ∀ t ∈ r'.lexemes ts', '\x00' ∉ t.toList := lexemes' ▸ by decide
  have same : r.id = r'.id := by
    rw [id_eq_of_read lexed read member, id_eq_of_read lexed' read' member', lexemes, lexemes']
  refine ⟨ts, ts', list, list', r, r', lexed, lexed', read, read', member, member', free, free', same, ?_⟩
  refine (sections_eq_of_id lexed lexed' read read' member member' free free' same).resolve_right ?_
  rw [lexemes, lexemes']
  exact fun collision => collision.1 rfl

/-- Null characters within a string are not told from those between the texts. -/
theorem nullString_collides : ∃ list r r',
    parseRules "rule R \x7bmeta: a = \"x\" b = \"y\"\x7d rule R \x7bmeta: a = \"x\x00b\x00=\x00y\"\x7d" = .ok list ∧
      list.rules = [r, r'] ∧ r.id = r'.id ∧ r.info ≠ r'.info := by
  refine ⟨_, _, _, by rfl, by rfl, ?_, by decide⟩
  dsimp only
  rw [ruleId_eq, ruleId_eq]
  refine congrArg Digest.Blake3.digest ?_
  simp only [idBytes, toList_toUTF8]
  decide +kernel

end Triage
