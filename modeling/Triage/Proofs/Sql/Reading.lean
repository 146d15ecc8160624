import Triage.Sql

/-! Conditions of SQL, and how a text is read as one. The condition that a predicate is written as is read
back as that predicate and no other. -/

namespace Triage.Sql

/-- A condition on the columns of a row. -/
inductive Condition
  | compare (column : String) (op : CompareOp) (value : Value)
  | and (left right : Condition)
  | or (left right : Condition)
deriving DecidableEq, Repr

/-! ## Symbols -/

inductive Symbol
  | opening | closing
  | word (name : String)
  | op (op : CompareOp)
  | value (v : Value)
deriving DecidableEq, Repr

/-- A symbol that is not complete yet. Behind a quote that may end a text only the next character tells
whether it does. -/
inductive Pending
  | nothing
  | word (name : List Char)
  | number (digits : List Char)
  | text (inside : List Char)
  | quote (inside : List Char)
  | sign (c : Char)
deriving DecidableEq, Repr

def startsName (c : Char) : Bool := c.isAlpha || c = '_'

def continuesName (c : Char) : Bool := c.isAlphanum || c = '_' || c = '.'

def isSign (c : Char) : Bool := c = '<' || c = '>' || c = '=' || c = '!'

/-- The symbol of a sign that no equal sign follows. -/
def sign? (c : Char) : Option Symbol :=
  if c = '<' then some (.op .lt) else if c = '>' then some (.op .gt) else none

/-- The symbol of a sign and an equal sign. -/
def signEqual? (c : Char) : Option Symbol :=
  if c = '<' then some (.op .le) else if c = '>' then some (.op .ge)
  else if c = '=' then some (.op .eq) else if c = '!' then some (.op .ne) else none

/-- The symbol that is complete when no more of it comes. -/
def Pending.finish? : Pending → Option (List Symbol)
  | .nothing => some []
  | .word name => some [.word (String.ofList name)]
  | .number digits => some [.value (.number (Nat.ofDigitChars 10 digits 0))]
  | .text _ => none
  | .quote inside => some [.value (.text (String.ofList inside))]
  | .sign c => (sign? c).map ([·])

/-- What a character begins. -/
def begin? (c : Char) : Option (List Symbol × Pending) :=
  if c = ' ' then some ([], .nothing)
  else if c = '(' then some ([.opening], .nothing)
  else if c = ')' then some ([.closing], .nothing)
  else if c = '\'' then some ([], .text [])
  else if c.isDigit then some ([], .number [c])
  else if startsName c then some ([], .word [c])
  else if isSign c then some ([], .sign c)
  else none

/-- What a character behind a complete symbol begins. -/
def Pending.follow? (p : Pending) (c : Char) : Option (List Symbol × Pending) := do
  let symbols ← p.finish?
  let (more, next) ← begin? c
  return (symbols ++ more, next)

def Pending.step? : Pending → Char → Option (List Symbol × Pending)
  | .nothing, c => begin? c
  | .word name, c => if continuesName c then some ([], .word (name ++ [c])) else (word name).follow? c
  | .number digits, c => if c.isDigit then some ([], .number (digits ++ [c])) else (number digits).follow? c
  | .text inside, c => if c = '\'' then some ([], .quote inside) else some ([], .text (inside ++ [c]))
  | .quote inside, c => if c = '\'' then some ([], .text (inside ++ ['\''])) else (quote inside).follow? c
  | .sign s, c => if c = '=' then (signEqual? s).map (([·], .nothing)) else (sign s).follow? c

def symbols? : Pending → List Char → Option (List Symbol)
  | p, [] => p.finish?
  | p, c :: rest => do
    let (symbols, next) ← p.step? c
    return symbols ++ (← symbols? next rest)

/-! ## Grammar -/

/-- More operands, each behind the keyword. -/
def joined? (keyword : String) (join : Condition → Condition → Condition)
    (operand? : List Symbol → Option (Condition × List Symbol)) :
    Nat → Condition → List Symbol → Option (Condition × List Symbol)
  | 0, _, _ => none
  | fuel + 1, left, symbols =>
    match symbols with
    | .word name :: rest =>
      if name = keyword then do
        let (right, rest) ← operand? rest
        joined? keyword join operand? fuel (join left right) rest
      else some (left, symbols)
    | _ => some (left, symbols)

/-- A comparison, or a condition in parentheses. -/
def operand? (inner? : List Symbol → Option (Condition × List Symbol)) :
    List Symbol → Option (Condition × List Symbol)
  | .opening :: rest => do
    let (c, rest) ← inner? rest
    match rest with
    | .closing :: rest => some (c, rest)
    | _ => none
  | .word column :: .op op :: .value v :: rest => some (.compare column op v, rest)
  | _ => none

/-- Operands with the keyword between them. -/
def chain? (keyword : String) (join : Condition → Condition → Condition)
    (operand? : List Symbol → Option (Condition × List Symbol)) (symbols : List Symbol) :
    Option (Condition × List Symbol) := do
  let (first, rest) ← operand? symbols
  joined? keyword join operand? (rest.length + 1) first rest

/-- A condition, in which `AND` binds closer than `OR`. The levels bound how deep parentheses nest. -/
def condition? : Nat → List Symbol → Option (Condition × List Symbol)
  | 0, _ => none
  | levels + 1, symbols => chain? "OR" .or (chain? "AND" .and (operand? (condition? levels))) symbols

/-- The condition that a text is. -/
def read? (text : String) : Option Condition := do
  let symbols ← symbols? .nothing text.toList
  let (c, rest) ← condition? (symbols.length + 1) symbols
  if rest.isEmpty then some c else none

/-! ## Reading symbols -/

section symbols
variable {p next : Pending} {c : Char} {done : List Symbol}

theorem symbols?_step (step : p.step? c = some (done, next)) (rest : List Char) :
    symbols? p (c :: rest) = (symbols? next rest).map (done ++ ·) := by
  rw [symbols?, step]
  cases later : symbols? next rest <;> simp [later]

theorem symbols?_shift (step : p.step? c = some ([], next)) (rest : List Char) :
    symbols? p (c :: rest) = symbols? next rest := by
  rw [symbols?_step step]
  simp

/-- What may follow the value of a comparison. -/
def Ended (rest : List Char) : Prop := ∀ c ∈ rest.head?, c = ' ' ∨ c = ')'

theorem symbols?_follow {rest : List Char} (finish : p.finish? = some done)
    (follows : ∀ c ∈ rest.head?, p.step? c = p.follow? c) :
    symbols? p rest = (symbols? .nothing rest).map (done ++ ·) := by
  cases rest with
  | nil =>
    have nothing : symbols? .nothing [] = some [] := rfl
    rw [nothing, symbols?, finish]
    simp
  | cons c rest =>
    have step : p.step? c = p.follow? c := follows c rfl
    rw [symbols?, step, Pending.follow?, finish, symbols?, Pending.step?]
    rcases begin? c with _ | ⟨symbols, next⟩
    · rfl
    · rcases later : symbols? next rest <;> simp [later]

theorem symbols?_blank (rest : List Char) : symbols? .nothing (' ' :: rest) = symbols? .nothing rest :=
  symbols?_shift rfl rest

/-- A symbol that only what follows completes. -/
theorem symbols?_complete {rest : List Char} (finish : p.finish? = some done)
    (blank : p.step? ' ' = p.follow? ' ') :
    symbols? p (' ' :: rest) = (symbols? .nothing rest).map (done ++ ·) := by
  rw [symbols?_follow finish (by rintro c ⟨⟩; exact blank), symbols?_blank]

theorem symbols?_word (acc : List Char) {name : List Char} (continues : name.all continuesName)
    (rest : List Char) : symbols? (.word acc) (name ++ rest) = symbols? (.word (acc ++ name)) rest := by
  induction name generalizing acc with
  | nil => simp
  | cons c name ih =>
    rw [List.all_cons, Bool.and_eq_true] at continues
    have here : (Pending.word acc).step? c = some ([], .word (acc ++ [c])) := if_pos continues.1
    rw [List.cons_append, symbols?_shift here, ih _ continues.2]
    simp

theorem symbols?_number (acc : List Char) {digits : List Char} (each : digits.all Char.isDigit)
    (rest : List Char) : symbols? (.number acc) (digits ++ rest) = symbols? (.number (acc ++ digits)) rest := by
  induction digits generalizing acc with
  | nil => simp
  | cons c digits ih =>
    rw [List.all_cons, Bool.and_eq_true] at each
    have here : (Pending.number acc).step? c = some ([], .number (acc ++ [c])) := if_pos each.1
    rw [List.cons_append, symbols?_shift here, ih _ each.2]
    simp

/-- Quotes that are written twice are read once. -/
theorem symbols?_text (acc text rest : List Char) :
    symbols? (.text acc) (doubleQuotes text ++ '\'' :: rest) = symbols? (.quote (acc ++ text)) rest := by
  induction text generalizing acc with
  | nil =>
    rw [doubleQuotes, List.nil_append, symbols?_shift rfl, List.append_nil]
  | cons c text ih =>
    rw [doubleQuotes]
    split
    · rename_i quote
      rw [List.cons_append, List.cons_append, symbols?_shift rfl, symbols?_shift rfl, ih, quote]
      simp
    · rename_i other
      have here : (Pending.text acc).step? c = some ([], .text (acc ++ [c])) := if_neg other
      rw [List.cons_append, symbols?_shift here, ih]
      simp

/-- Whether a text is read as one name. -/
def IsName (name : String) : Prop := ∃ c more, name.toList = c :: more ∧
  Pending.nothing.step? c = some ([], .word [c]) ∧ more.all continuesName

theorem symbols?_name {name : String} (named : IsName name) (rest : List Char) :
    symbols? .nothing (name.toList ++ ' ' :: rest) = (symbols? .nothing rest).map (.word name :: ·) := by
  obtain ⟨c, more, split, begins, continues⟩ := named
  have finish : (Pending.word (c :: more)).finish? = some [.word name] := by
    rw [← split, Pending.finish?, String.ofList_toList]
  rw [split, List.cons_append, symbols?_shift begins, symbols?_word [c] continues, List.singleton_append,
    symbols?_complete finish rfl]
  rfl

theorem isName_column (p : Property) : IsName p.column := by
  cases p <;> exact ⟨_, _, rfl, rfl, by decide⟩

theorem symbols?_op (op : CompareOp) (rest : List Char) :
    symbols? .nothing (op.spelling.toList ++ ' ' :: rest) =
      (symbols? .nothing rest).map (.op op :: ·) := by
  have alone {c : Char} (begins : Pending.nothing.step? c = some ([], .sign c)) (sign : sign? c = some (.op op)) :
      symbols? .nothing (c :: ' ' :: rest) = (symbols? .nothing rest).map (.op op :: ·) := by
    have finish : (Pending.sign c).finish? = some [.op op] := congrArg (Option.map ([·])) sign
    rw [symbols?_shift begins, symbols?_complete finish rfl]
    rfl
  have equal {c : Char} (begins : Pending.nothing.step? c = some ([], .sign c)) (sign : signEqual? c = some (.op op)) :
      symbols? .nothing (c :: '=' :: ' ' :: rest) = (symbols? .nothing rest).map (.op op :: ·) := by
    have step : (Pending.sign c).step? '=' = some ([.op op], .nothing) := by
      rw [Pending.step?, if_pos rfl, sign]
      rfl
    rw [symbols?_shift begins, symbols?_step step, symbols?_blank]
    rfl
  cases op with
  | lt | gt => exact alone rfl rfl
  | eq | ne | le | ge => exact equal rfl rfl

theorem step?_digit (digit : c.isDigit) : Pending.nothing.step? c = some ([], .number [c]) := by
  have other {d : Char} (sign : d.isDigit = false) : c ≠ d := fun same => by simp [same, sign] at digit
  rw [Pending.step?, begin?, if_neg (other rfl), if_neg (other rfl), if_neg (other rfl), if_neg (other rfl), if_pos digit]

theorem symbols?_literal (v : Value) {rest : List Char} (ended : Ended rest) :
    symbols? .nothing ((literal v).toList ++ rest) = (symbols? .nothing rest).map (.value v :: ·) := by
  cases v with
  | text text =>
    have split : (literal (.text text)).toList ++ rest =
        '\'' :: (doubleQuotes text.toList ++ '\'' :: rest) := by
      simp [literal]
    have finish : (Pending.quote text.toList).finish? = some [.value (.text text)] := by
      rw [Pending.finish?, String.ofList_toList]
    rw [split, symbols?_shift rfl, symbols?_text, List.nil_append, symbols?_follow finish]
    · rfl
    · intro c first
      rcases ended c first with rfl | rfl <;> rfl
  | number n =>
    have digits : (literal (.number n)).toList = Nat.toDigits 10 n := by
      rw [literal, Nat.toString_eq_repr, Nat.repr_eq_ofList_toDigits, String.toList_ofList]
    have each : (Nat.toDigits 10 n).all Char.isDigit :=
      List.all_eq_true.mpr fun c member => Nat.isDigit_of_mem_toDigits (by decide) (by decide) member
    have value : Nat.ofDigitChars 10 (Nat.toDigits 10 n) 0 = n :=
      Nat.ofDigitChars_toDigits (by decide) (by decide)
    obtain ⟨c, more, split⟩ := List.exists_cons_of_ne_nil (Nat.toDigits_ne_nil (n := n) (b := 10))
    rw [digits]
    rw [split] at each value ⊢
    rw [List.all_cons, Bool.and_eq_true] at each
    have finish : (Pending.number (c :: more)).finish? = some [.value (.number n)] := by
      rw [Pending.finish?, value]
    rw [List.cons_append, symbols?_shift (step?_digit each.1), symbols?_number [c] each.2,
      List.singleton_append, symbols?_follow finish]
    · rfl
    · intro d first
      rcases ended d first with rfl | rfl <;> rfl

end symbols

/-! ## Reading conditions -/

/-- The symbols that a condition is written with. -/
def Condition.symbols : Condition → List Symbol
  | .compare column op v => [.word column, .op op, .value v]
  | .and l r => .opening :: (l.symbols ++ .word "AND" :: (r.symbols ++ [.closing]))
  | .or l r => .opening :: (l.symbols ++ .word "OR" :: (r.symbols ++ [.closing]))

/-- How deep the parentheses of a condition nest. -/
def Condition.depth : Condition → Nat
  | .compare _ _ _ => 0
  | .and l r | .or l r => max l.depth r.depth + 1

theorem depth_lt_length (c : Condition) : c.depth < c.symbols.length := by
  induction c with
  | compare => exact Nat.succ_pos _
  | and l r left right | or l r left right =>
    simp only [Condition.depth, Condition.symbols, List.length_cons, List.length_append]
    omega

/-- The symbols ahead do not go on with the keyword. -/
def Stops (keyword : String) (rest : List Symbol) : Prop := ∀ s ∈ rest.head?, s ≠ .word keyword

section grammar
variable {keyword : String} {join : Condition → Condition → Condition}
  {operand : List Symbol → Option (Condition × List Symbol)} {left right : Condition}
  {symbols more rest : List Symbol}

theorem joined?_stops (stops : Stops keyword rest) (fuel : Nat) :
    joined? keyword join operand (fuel + 1) left rest = some (left, rest) := by
  unfold joined?
  split
  · rename_i name more
    have other : name ≠ keyword := fun same => stops (.word name) rfl (congrArg Symbol.word same)
    exact if_neg other
  · rfl

/-- An operand on its own. -/
theorem chain?_alone (reads : operand symbols = some (left, rest)) (stops : Stops keyword rest) :
    chain? keyword join operand symbols = some (left, rest) := by
  rw [chain?, reads]
  exact joined?_stops stops _

/-- Two operands with the keyword between them. -/
theorem chain?_two (first : operand symbols = some (left, .word keyword :: more))
    (second : operand more = some (right, rest)) (stops : Stops keyword rest) :
    chain? keyword join operand symbols = some (join left right, rest) := by
  rw [chain?, first]
  simp only [Option.bind_eq_bind, Option.bind_some]
  rw [joined?, if_pos rfl, second]
  exact joined?_stops stops _

end grammar

theorem stops_closing (keyword : String) (rest : List Symbol) : Stops keyword (.closing :: rest) := by
  rintro s ⟨⟩
  simp

theorem operand?_within {levels : Nat} {symbols rest : List Symbol} {c : Condition}
    (reads : condition? levels symbols = some (c, .closing :: rest)) :
    operand? (condition? levels) (.opening :: symbols) = some (c, rest) := by
  rw [operand?, reads]
  rfl

/-- A condition is read back as an operand, whatever follows. -/
theorem operand?_symbols (c : Condition) {levels : Nat} (enough : c.depth ≤ levels) (rest : List Symbol) :
    operand? (condition? levels) (c.symbols ++ rest) = some (c, rest) := by
  induction c generalizing levels rest with
  | compare => rfl
  | and l r left right =>
    simp only [Condition.depth] at enough
    obtain ⟨levels, rfl⟩ : ∃ n, levels = n + 1 := ⟨levels - 1, by omega⟩
    have first := left (show l.depth ≤ levels by omega) (.word "AND" :: (r.symbols ++ .closing :: rest))
    have second := right (show r.depth ≤ levels by omega) (.closing :: rest)
    have both : condition? (levels + 1) _ = some (Condition.and l r, .closing :: rest) :=
      chain?_alone (chain?_two first second (stops_closing _ _)) (stops_closing _ _)
    simpa [Condition.symbols] using operand?_within both
  | or l r left right =>
    simp only [Condition.depth] at enough
    obtain ⟨levels, rfl⟩ : ∃ n, levels = n + 1 := ⟨levels - 1, by omega⟩
    have first := left (show l.depth ≤ levels by omega) (.word "OR" :: (r.symbols ++ .closing :: rest))
    have second := right (show r.depth ≤ levels by omega) (.closing :: rest)
    have other : Stops "AND" (.word "OR" :: (r.symbols ++ .closing :: rest)) := by
      rintro s ⟨⟩
      simp
    have both : condition? (levels + 1) _ = some (Condition.or l r, .closing :: rest) :=
      chain?_two (chain?_alone first other) (chain?_alone second (stops_closing _ _)) (stops_closing _ _)
    simpa [Condition.symbols] using operand?_within both

theorem condition?_symbols (c : Condition) {levels : Nat} (enough : c.depth ≤ levels) :
    condition? (levels + 1) c.symbols = some (c, []) := by
  have reads := operand?_symbols c enough []
  rw [List.append_nil] at reads
  have stops (keyword : String) : Stops keyword [] := by simp [Stops]
  exact chain?_alone (chain?_alone reads (stops _)) (stops _)

/-- A text that has the symbols of a condition is read as that condition. -/
theorem read?_of_symbols? {text : String} {c : Condition} (symbols : symbols? .nothing text.toList = some c.symbols) :
    read? text = some c := by
  rw [read?, symbols]
  simp only [Option.bind_eq_bind, Option.bind_some]
  rw [condition?_symbols c (Nat.le_of_lt (depth_lt_length c))]
  rfl

example : read? "a.b == 'it''s' OR (Size >= 10 AND b < 'AND')" =
    some (.or (.compare "a.b" .eq (.text "it's"))
      (.and (.compare "Size" .ge (.number 10)) (.compare "b" .lt (.text "AND")))) := by rfl

end Triage.Sql

namespace Triage
open Sql

def Property.ofColumn? (name : String) : Option Property :=
  [.created, .modified, .filesize, .filename, .filepath, .signatureName, .signatureId].find? (·.column = name)

/-- The predicate that compares the properties in the columns. -/
def Sql.Condition.predicate? : Condition → Option Predicate
  | .and l r => return .and (← l.predicate?) (← r.predicate?)
  | .or l r => return .or (← l.predicate?) (← r.predicate?)
  | .compare column op v => return .leaf (.property ⟨← Property.ofColumn? column, op, v⟩)

/-- The condition on columns that a predicate on properties is. Functions of hits have no columns. -/
def Predicate.condition? : Predicate → Option Condition
  | .and l r => return .and (← l.condition?) (← r.condition?)
  | .or l r => return .or (← l.condition?) (← r.condition?)
  | .leaf (.property c) => some (.compare c.property.column c.op c.value)
  | .leaf (.call _) => none

theorem Property.ofColumn?_column (p : Property) : ofColumn? p.column = some p := by
  cases p <;> rfl

theorem Predicate.predicate?_condition? {p : Predicate} {c : Condition} (is : p.condition? = some c) :
    c.predicate? = some p := by
  induction p generalizing c with
  | leaf l =>
    cases l with
    | call x => nomatch is
    | property x =>
      obtain rfl := Option.some.inj is
      rw [Condition.predicate?, Property.ofColumn?_column]
      rfl
  | and l r left right | or l r left right =>
    obtain ⟨a, isA, is⟩ := Option.bind_eq_some_iff.mp is
    obtain ⟨b, isB, is⟩ := Option.bind_eq_some_iff.mp is
    obtain rfl := Option.some.inj is
    rw [Condition.predicate?, left isA, right isB]
    rfl

namespace Sql

/-- Wherever a text may end it has these symbols. -/
def Spells (text : String) (symbols : List Symbol) : Prop := ∀ rest, Ended rest →
  symbols? .nothing (text.toList ++ rest) = (symbols? .nothing rest).map (symbols ++ ·)

theorem spells_comparison (c : Comparison) :
    Spells (comparison c) (Condition.compare c.property.column c.op c.value).symbols := by
  intro rest ended
  have split : (comparison c).toList ++ rest = c.property.column.toList ++ ' ' ::
      (c.op.spelling.toList ++ ' ' :: ((literal c.value).toList ++ rest)) := by
    simp [comparison]
  rw [split, symbols?_name (isName_column _), symbols?_op, symbols?_literal _ ended]
  simp [Condition.symbols, Function.comp_def]

theorem spells_joined {text left right keyword : String} {a b : List Symbol} (first : Spells left a)
    (second : Spells right b) (named : IsName keyword) (split : text.toList = '(' ::
      (left.toList ++ ' ' :: (keyword.toList ++ ' ' :: (right.toList ++ [')'])))) :
    Spells text (.opening :: (a ++ .word keyword :: (b ++ [.closing]))) := by
  intro rest _
  have whole : text.toList ++ rest = '(' ::
      (left.toList ++ ' ' :: (keyword.toList ++ ' ' :: (right.toList ++ ')' :: rest))) := by
    rw [split]
    simp
  have opening : Pending.nothing.step? '(' = some ([.opening], .nothing) := rfl
  have closing : Pending.nothing.step? ')' = some ([.closing], .nothing) := rfl
  rw [whole, symbols?_step opening, first _ (by rintro c ⟨⟩; exact .inl rfl), symbols?_blank,
    symbols?_name named, second _ (by rintro c ⟨⟩; exact .inr rfl), symbols?_step closing]
  simp [Function.comp_def]

/-- What is written for a predicate has the symbols of its condition. -/
theorem spells_clause {p : Predicate} {text : String} (written : clause? p = some text) :
    ∃ c, p.condition? = some c ∧ Spells text c.symbols := by
  induction p generalizing text with
  | leaf l =>
    cases l with
    | call c => nomatch written
    | property c =>
      obtain rfl := Option.some.inj written
      exact ⟨_, rfl, spells_comparison c⟩
  | and l r left right =>
    obtain ⟨tl, first, written⟩ := Option.bind_eq_some_iff.mp written
    obtain ⟨tr, second, written⟩ := Option.bind_eq_some_iff.mp written
    obtain rfl := Option.some.inj written
    obtain ⟨a, isA, spellsA⟩ := left first
    obtain ⟨b, isB, spellsB⟩ := right second
    refine ⟨.and a b, by rw [Predicate.condition?, isA, isB]; rfl, ?_⟩
    exact spells_joined spellsA spellsB ⟨_, _, rfl, rfl, by decide⟩ (by simp)
  | or l r left right =>
    obtain ⟨tl, first, written⟩ := Option.bind_eq_some_iff.mp written
    obtain ⟨tr, second, written⟩ := Option.bind_eq_some_iff.mp written
    obtain rfl := Option.some.inj written
    obtain ⟨a, isA, spellsA⟩ := left first
    obtain ⟨b, isB, spellsB⟩ := right second
    refine ⟨.or a b, by rw [Predicate.condition?, isA, isB]; rfl, ?_⟩
    exact spells_joined spellsA spellsB ⟨_, _, rfl, rfl, by decide⟩ (by simp)

/-- A predicate that is written as a condition is read back as that condition. -/
theorem read?_clause {p : Predicate} {text : String} (written : clause? p = some text) :
    ∃ c, p.condition? = some c ∧ read? text = some c := by
  obtain ⟨c, condition, spells⟩ := spells_clause written
  refine ⟨c, condition, read?_of_symbols? ?_⟩
  have symbols := spells [] (by simp [Ended])
  have nothing : symbols? .nothing [] = some [] := rfl
  rwa [List.append_nil, nothing, Option.map_some, List.append_nil] at symbols

/-- Only functions of hits cannot be written. -/
theorem clause?_eq_none {p : Predicate} : clause? p = none ↔ ∃ c, .call c ∈ p.leaves := by
  induction p with
  | leaf l => cases l <;> simp [clause?, Predicate.leaves]
  | and l r left right | or l r left right =>
    simp only [Predicate.leaves, List.mem_append, exists_or, ← left, ← right, clause?]
    cases clause? l <;> cases clause? r <;> simp


end Sql
end Triage
