import Triage.Proofs.Text.JsonReading
import Triage.Proofs.TextBytes
import Triage.Proofs.Utf8
import Triage.Row.Reader
import Triage.Sink.JsonLines

/-! Rows that are written as lines are read back from them. The buffer keeps the order of what is put into it, lines
end nowhere but at their ends, and each line is the object of one row, which tells its table. Rows with times or
with an entropy are left aside. -/

namespace Triage
open JsonText JsonValue

/-! ## Records -/

/-- What one line holds. -/
inductive Record
  | dirent (row : Dirent)
  | searchHit (row : HitRow)
  | ruleMatch (row : MatchRow)
  | rule (row : RuleRow)
  | ruleSql (statements : RuleStatements)
deriving DecidableEq, Repr

namespace Record

def table : Record → String
  | dirent _ => "dirent"
  | searchHit _ => "search_hits"
  | ruleMatch _ => "rule_matches"
  | rule _ => "rules"
  | ruleSql _ => "rule_sql"

def json : Record → JsonValue
  | dirent row => row.json
  | searchHit row => row.json
  | ruleMatch row => row.json
  | rule row => row.json
  | ruleSql statements => statements.json

def line (r : Record) : JsonValue := .object [("table", .text r.table), ("row", r.json)]

/-- A row that is read as its table has it. -/
def ofRow? (table : String) (row : JsonValue) : Option Record :=
  match table with
  | "dirent" => dirent <$> Dirent.ofJson? row
  | "search_hits" => searchHit <$> HitRow.ofJson? row
  | "rule_matches" => ruleMatch <$> MatchRow.ofJson? row
  | "rules" => rule <$> RuleRow.ofJson? row
  | "rule_sql" => ruleSql <$> RuleStatements.ofJson? row
  | _ => none

def ofJson? (v : JsonValue) : Option Record := do ofRow? (← (v.field "table").text?) (v.field "row")

/-- The record that a line of UTF-8 holds, without its newline. -/
def ofLine? (bytes : List UInt8) : Option Record := do ofJson? (← read? (← Utf8.decode? bytes))

theorem whole_optional (s : Option String) : (optional .text s).Whole := by
  cases s
  · exact .null
  · exact .text _

theorem whole_json (r : Record) : r.json.Whole := by
  cases r with
  | dirent row | searchHit row | ruleMatch row | rule row =>
    refine .object ?_
    simp [Whole.text, Whole.number]
  | ruleSql statements =>
    refine .object ?_
    simp [whole_optional, Whole.text, Whole.list]

theorem whole_line (r : Record) : r.line.Whole := by
  refine .object ?_
  simp [whole_json, Whole.text]

theorem named?_name (kind : EntryKind) : EntryKind.named? kind.name = some kind := by
  cases kind <;> rfl

theorem optional?_optional (s : Option String) : (optional .text s).optional? (·.text?) = some s := by
  cases s <;> rfl

theorem mapM_text? (texts : List String) : (texts.map JsonValue.text).mapM (·.text?) = some texts := by
  induction texts with
  | nil => rfl
  | cons s texts ih =>
    rw [List.map_cons, List.mapM_cons, ih]
    rfl

/-- Every row is read back from its object. -/
theorem ofJson?_line (r : Record) : ofJson? r.line = some r := by
  cases r with
  | dirent row =>
    change dirent <$> Option.bind (EntryKind.named? row.kind.name) _ = _
    rw [named?_name]
    rfl
  | searchHit row => rfl
  | ruleMatch row => rfl
  | rule row => rfl
  | ruleSql statements =>
    change ruleSql <$> Option.bind ((statements.createTables.map JsonValue.text).mapM (·.text?)) (fun created =>
      Option.bind ((optional .text statements.insertRules).optional? (·.text?)) fun rules =>
        Option.bind ((optional .text statements.insertRuleMatches).optional? (·.text?)) fun found =>
          some ⟨created, rules, found⟩) = _
    rw [mapM_text?, optional?_optional, optional?_optional]
    rfl

/-- What is written for a record has no newline. -/
theorem newline_not_mem (r : Record) : '\n' ∉ r.line.chars := fun member =>
  absurd (le_of_mem_chars r.whole_line _ member) (by decide)

theorem ofLine?_encode (r : Record) : ofLine? (Utf8.encode r.line.chars) = some r := by
  simp only [ofLine?, Utf8.decode?_encode, read?_chars r.whole_line, Option.bind_eq_bind, Option.bind_some, ofJson?_line]

end Record

/-- A call that writes rows whose fields are texts and whole numbers. -/
inductive RowCall
  | dirents (rows : List Dirent)
  | searchHits (rows : List HitRow)
  | ruleMatches (rows : List MatchRow)
  | rules (rows : List RuleRow) (statements : RuleStatements)
deriving Repr

namespace RowCall

def rows : RowCall → Rows
  | dirents rows => .dirents rows
  | searchHits rows => .searchHits rows
  | ruleMatches rows => .ruleMatches rows
  | rules rows statements => .rules rows statements

/-- The statements follow the rules that they are for. -/
def records : RowCall → List Record
  | dirents rows => rows.map .dirent
  | searchHits rows => rows.map .searchHit
  | ruleMatches rows => rows.map .ruleMatch
  | rules rows statements => rows.map .rule ++ [.ruleSql statements]

theorem lines_rows (call : RowCall) : call.rows.lines = call.records.map Record.line := by
  cases call with
  | dirents rows | searchHits rows | ruleMatches rows =>
    rw [Rows.lines, RowCall.rows, Rows.tagged, records, List.map_map, List.map_map]
    rfl
  | rules rows statements =>
    rw [Rows.lines, RowCall.rows, Rows.tagged, records, List.map_append, List.map_append, List.map_map, List.map_map]
    rfl

end RowCall

/-! ## The buffer -/

namespace JsonLines

/-- All that has been put, be it written or still held. -/
def taken (s : JsonLines) : String := s.writer.received ++ s.held

/-- A call that has succeeded has taken the text, and the writer has no limit. -/
def Takes {ε : Type} (s : JsonLines) (text : String) (after : Except ε Unit × JsonLines) : Prop :=
  ∃ t, after = (.ok (), t) ∧ t.writer.limit = none ∧ t.taken = s.taken ++ text

theorem write_unlimited {w : TextWriter} (unlimited : w.limit = none) (text : String) :
    w.write text = (.ok (), { w with received := w.received ++ text }) := by
  rw [TextWriter.write, unlimited]
  rfl

/-- Releasing writes what is held. -/
theorem release_unlimited {s : JsonLines} (unlimited : s.writer.limit = none) :
    ∃ t, s.release = (.ok (), t) ∧ t.writer.limit = none ∧ t.taken = s.taken ∧ t.held = "" := by
  rw [release]
  split
  · rename_i none
    exact ⟨s, rfl, unlimited, rfl, String.isEmpty_iff.mp none⟩
  · rw [write_unlimited unlimited]
    exact ⟨_, rfl, unlimited, String.append_empty, rfl⟩

section unlimited
variable {s : JsonLines} (unlimited : s.writer.limit = none)
include unlimited

/-- A fragment is written past the buffer only where nothing is held. -/
theorem takes_hold {fragment : String} (order : fragment.utf8ByteSize ≥ capacity → s.held = "") :
    Takes s fragment (s.hold fragment) := by
  rw [hold]
  split
  · rename_i large
    rw [write_unlimited unlimited]
    refine ⟨_, rfl, unlimited, ?_⟩
    rw [taken, taken, order large, String.append_empty, String.append_empty]
  · exact ⟨_, rfl, unlimited, String.append_assoc.symm⟩

theorem takes_put (fragment : String) : Takes s fragment (s.put fragment) := by
  rw [put]
  split
  · obtain ⟨t, released, unlimited, same, empty⟩ := release_unlimited unlimited
    rw [released, Takes, ← same]
    exact takes_hold unlimited fun _ => empty
  · rename_i fits
    refine takes_hold unlimited fun large => String.utf8ByteSize_eq_zero_iff.mp ?_
    omega

theorem takes_putAll (fragments : List String) : Takes s (String.join fragments) (s.putAll fragments) := by
  induction fragments generalizing s with
  | nil => exact ⟨s, rfl, unlimited, String.append_empty.symm⟩
  | cons fragment fragments ih =>
    obtain ⟨t, here, unlimited, taken⟩ := takes_put unlimited fragment
    obtain ⟨u, behind, unlimited, taken'⟩ := ih unlimited
    refine ⟨u, ?_, unlimited, ?_⟩
    · rw [putAll, here]
      exact behind
    · rw [taken', taken, String.join_cons, String.append_assoc]

def lined (v : JsonValue) : String := v.render ++ "\n"

theorem takes_putLines (lines : List JsonValue) : Takes s (String.join (lines.map lined)) (s.putLines lines) := by
  induction lines generalizing s with
  | nil => exact ⟨s, rfl, unlimited, String.append_empty.symm⟩
  | cons line lines ih =>
    obtain ⟨t, object, unlimited, taken⟩ := takes_putAll unlimited line.fragments
    obtain ⟨u, newline, unlimited, taken'⟩ := takes_put unlimited "\n"
    obtain ⟨v, behind, unlimited, taken''⟩ := ih unlimited
    refine ⟨v, ?_, unlimited, ?_⟩
    · rw [putLines, object]
      dsimp only
      rw [newline]
      exact behind
    · rw [taken'', taken', taken, List.map_cons, String.join_cons, lined, render, String.append_assoc, String.append_assoc,
        String.append_assoc]

end unlimited

end JsonLines

/-! ## Calls -/

/-- The state behind a call that succeeds. -/
def Sink.done {σ : Type} : Except SinkError Unit × σ → Except SinkError σ
  | (.ok (), s) => .ok s
  | (.error e, _) => .error e

/-- Writes call by call and flushes at the end. All of it has to succeed. -/
def Sink.deliver {σ : Type} [Sink σ] (s : σ) : List Rows → Except SinkError σ
  | [] => Sink.done (Sink.flush s)
  | rows :: calls => do Sink.deliver (← Sink.done (Sink.write rows s)) calls

namespace JsonLines

theorem deliver_unlimited (calls : List RowCall) {s : JsonLines} (unlimited : s.writer.limit = none) :
    ∃ t, Sink.deliver s (calls.map RowCall.rows) = .ok t ∧
      t.writer.received = s.taken ++ String.join ((calls.flatMap RowCall.records).map fun r => lined r.line) := by
  induction calls generalizing s with
  | nil =>
    obtain ⟨t, released, unlimited, taken, empty⟩ := release_unlimited unlimited
    refine ⟨t, ?_, ?_⟩
    · change Sink.done (Sink.flush s) = _
      simp only [Sink.flush, released]
      rfl
    · rw [← taken, JsonLines.taken, empty, String.append_empty]
      exact String.append_empty.symm
  | cons call calls ih =>
    obtain ⟨t, written, unlimited, taken⟩ := takes_putLines unlimited call.rows.lines
    obtain ⟨u, behind, received⟩ := ih unlimited
    refine ⟨u, ?_, ?_⟩
    · change (do Sink.deliver (← Sink.done (s.putLines call.rows.lines)) (calls.map RowCall.rows)) = _
      rw [written]
      exact behind
    · rw [received, taken, call.lines_rows, List.map_map, List.flatMap_cons, List.map_append, String.append_assoc,
        String.join_append]
      rfl

theorem toList_lined (v : JsonValue) : (lined v).toUTF8.toList = Utf8.encode v.chars ++ [10] := by
  have chars : (lined v).toList = v.chars ++ ['\n'] := by
    rw [lined, String.toList_append, render, String.toList_join]
    rfl
  rw [toList_toUTF8, chars, List.flatMap_append]
  rfl

/-- The bytes of lines are split where the lines end. -/
theorem splitOn_lined (records : List Record) :
    (String.join (records.map fun r => lined r.line)).toUTF8.toList.splitOn 10 =
      records.map (fun r => Utf8.encode r.line.chars) ++ [[]] := by
  induction records with
  | nil =>
    rw [toList_toUTF8]
    rfl
  | cons r records ih =>
    have free : 10 ∉ Utf8.encode r.line.chars :=
      not_mem_flatMap_utf8EncodeChar (show '\n'.toNat ≤ 127 by decide) r.newline_not_mem
    have split : (String.join ((r :: records).map fun r => lined r.line)).toUTF8.toList =
        Utf8.encode r.line.chars ++ 10 :: (String.join (records.map fun r => lined r.line)).toUTF8.toList := by
      rw [List.map_cons, String.join_cons, toList_toUTF8, String.toList_append, List.flatMap_append, ← toList_toUTF8,
        ← toList_toUTF8, toList_lined, List.append_assoc]
      rfl
    rw [split, List.splitOn_eq_splitOnP, List.splitOnP_append_cons_of_forall_mem, ← List.splitOn_eq_splitOnP, ih]
    · rfl
    · exact fun b member => beq_eq_false_iff_ne.mpr fun same => free (same ▸ member)
    · rfl

/-- Whatever the rows hold, what has been written when they are all written and flushed is one line for each of them
in the order of the calls, the statements behind their rules, and each line is read as its record. -/
theorem lines_read_back (calls : List RowCall) :
    ∃ s lines, Sink.deliver ({} : JsonLines) (calls.map RowCall.rows) = .ok s ∧
      s.writer.received.toUTF8.toList.splitOn 10 = lines ++ [[]] ∧
      lines.map Record.ofLine? = (calls.flatMap RowCall.records).map some := by
  obtain ⟨s, delivered, received⟩ := @deliver_unlimited calls {} rfl
  refine ⟨s, (calls.flatMap RowCall.records).map fun r => Utf8.encode r.line.chars, delivered, ?_, ?_⟩
  · have none : ({} : JsonLines).taken = "" := rfl
    rw [received, none, String.empty_append, splitOn_lined]
  · rw [List.map_map]
    exact List.map_congr_left fun r _ => r.ofLine?_encode

end JsonLines

end Triage
