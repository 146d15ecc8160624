import Triage.Proofs.Token.Tiles

/-! Words that are written out with blanks between them are read back. -/

namespace Triage
open Lexer

/-- The words with a blank before each of them. -/
def spaced (ws : List Word) : List Char := ws.flatMap fun w => ' ' :: w.piece.source

def written : List Word → List Char
  | [] => []
  | w :: ws => w.piece.source ++ spaced ws

/-- Whether words can be written out where a stretch goes on. -/
def Writable : Lexer.Stretch → List Word → Prop
  | _, [] => True
  | m, w :: ws => w.Spelled m ∧ (w.kind = .string → Quotable w.text.toList) ∧
      (m = .equal → w.kind = .equal) ∧ (m = .name → w.kind = .identifier) ∧ Writable (m.after w.kind) ws

theorem writable_append {m : Stretch} {a b : List Word} :
    Writable m (a ++ b) ↔ Writable m a ∧ Writable (m.afterAll a) b := by
  induction a generalizing m with
  | nil => simp [Writable, Stretch.afterAll]
  | cons w a ih => simp [Writable, Stretch.afterAll, ih, and_assoc]

namespace Lexer

/-- Words that may be written out may be laid out with blanks between them. -/
theorem laid_writable {m : Stretch} {tiles : List Tile} (writable : Writable m (tiles.map Tile.word))
    (blank : ∀ t ∈ tiles, t.gap.all isBlank) (apart : ∀ t ∈ tiles.tail, t.gap ≠ []) :
    Laid m tiles [] ∧ m.past tiles = m.afterAll (tiles.map Tile.word) := by
  induction tiles generalizing m with
  | nil => exact ⟨trivial, rfl⟩
  | cons t ts ih =>
    obtain ⟨spelled, quotable, equal, name, more⟩ := writable
    rw [List.tail_cons] at apart
    have here := blank t List.mem_cons_self
    have behind : m.behind t.gap = m := behind_white (all_whiteSpace here) m
    have next : t.next m = m.after t.word.kind := by rw [Tile.next, behind]
    have clear : Clear (t.word.extendedIn m) (paved ts []) := by
      cases ts with
      | nil => exact clear_nil
      | cons t' ts =>
        obtain ⟨c, gap, split⟩ := List.exists_cons_of_ne_nil (apart t' List.mem_cons_self)
        have blanks := blank t' (by simp)
        rw [split, List.all_cons, Bool.and_eq_true] at blanks
        rw [paved_cons, split]
        exact clear_cons.mpr (extendedIn_blank blanks.1 _ _)
    obtain ⟨laid, past⟩ := ih more (fun t member => blank t (List.mem_cons_of_mem _ member))
      (fun t member => apart t (List.mem_of_mem_tail member))
    refine ⟨⟨⟨?_, behind.symm ▸ spelled, quotable, equal, name, behind.symm ▸ clear⟩, next.symm ▸ laid⟩, ?_⟩
    · split
      · exact all_whiteSpace here
      · exact .of_all here
    · exact (congrArg (fun m => Stretch.past m ts) next).trans past

end Lexer

/-- A text of written words has these words and no other tokens. -/
theorem tokens_written {ws : List Word} (writable : Writable .plain ws)
    (notEqual : Stretch.plain.afterAll ws ≠ .equal) (notName : Stretch.plain.afterAll ws ≠ .name) :
    ∃ body finish, tokens (String.ofList (written ws)) = .ok (body ++ [finish]) ∧
      finish.kind = .endOfFile ∧ body.map Token.word = ws := by
  let tiles : List Tile := match ws with
    | [] => []
    | w :: ws => ⟨[], w⟩ :: ws.map (⟨[' '], ·⟩)
  have words : tiles.map Tile.word = ws := by
    cases ws <;> simp [tiles, Function.comp_def]
  have source : paved tiles [] = written ws := by
    cases ws <;> simp [tiles, paved, written, spaced, Tile.source, List.flatMap_map]
  have blank : ∀ t ∈ tiles, t.gap.all isBlank := by
    cases ws <;> simp [tiles, isBlank]
  have apart : ∀ t ∈ tiles.tail, t.gap ≠ [] := by
    cases ws <;> simp [tiles]
  rw [← words] at writable notEqual notName
  obtain ⟨laid, past⟩ := laid_writable writable blank apart
  rw [← past] at notEqual notName
  obtain ⟨body, finish, lexed, ends, same⟩ := tokens_paved laid (.inl .nil) notEqual notName
  exact ⟨body, finish, source ▸ lexed, congrArg Word.kind ends, same.trans words⟩

end Triage
