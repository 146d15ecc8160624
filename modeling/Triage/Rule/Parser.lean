import Triage.Digest
import Triage.Pattern.Compile
import Triage.Rule.Expression
import Triage.Text.Hex
import Triage.Token.Scan

/-!
Reading rules. A declaration that fails gives one error, and reading goes on at the next keyword
that starts a rule, so that one broken rule does not hide the others.
-/

namespace Triage

def HashAlgorithm.ofToken? : TokenKind → Option HashAlgorithm
  | .keyword .md5 => some .md5
  | .keyword .sha1 => some .sha1
  | .keyword .sha256 => some .sha256
  | .keyword .blake3 => some .blake3
  | _ => none

namespace Reader

def quotedText : Reader String := return (← expect .string "double quoted string").text

/-- Notes under names. A name that comes again replaces its note. -/
def metaSection : Reader (SortedMap String String) := do
  heading .metaSection
  repeatStep
    (fun fields => do
      match ← accept? .identifier with
      | some key => do
        discard <| expect .equal "equal sign"
        return some (fields.insert key.text (← quotedText))
      | none => return none)
    SortedMap.empty

def hashRecord : Reader HashRecord :=
  commaSeparated
    (fun r => do
      let t ← peek
      let some a := HashAlgorithm.ofToken? t.kind
        | fail (.expected "hash type") t.position
      discard advance
      discard <| expect .equalEqual "equal sign"
      let digest ← quotedText
      if (r.get? a).isSome then fail .duplicateHash t.position
      return r.set (digest.map Char.toLower) a)
    {}

def hashSection : Reader HashSection := do
  heading .hash
  let records ← repeatStep
    (fun records => do
      if (HashAlgorithm.ofToken? (← peek).kind).isSome then return some (records ++ [← hashRecord])
      else return none)
    []
  if records.isEmpty then fail .noHashType (← peek).position
  return ⟨records⟩

def fileMetadataSection : Reader Predicate := do
  heading .fileMetadata
  predicate (comparison .fileMetadata)

def signatureSection : Reader Predicate := do
  heading .signature
  predicate (comparison .signature)

def checkCompiles (position : Position) (d : PatternDef) : Reader Unit :=
  match d.compile with
  | .ok _ => return ()
  | .error e => fail (.pattern e) position

def encodings : Reader (List String) := do
  discard <| expect .equal "equal sign after encodings keyword"
  commaSeparated
    (fun names => do
      let t ← expect .identifier "encoding"
      if (Encoding.labelled? t.text).isNone then fail (.unknownEncoding t.text) t.position
      return names ++ [t.text])
    []

/-- What the words behind a pattern's text say, in any order. Of several lists of encodings the last
one counts. -/
structure Modifiers where
  nocase : Bool := false
  fixed : Bool := false
  encodings : List String := ["ASCII"]
deriving DecidableEq, Repr

def modifiers : Reader Modifiers :=
  repeatStep
    (fun m => do
      if ← accept (.keyword .nocase) then return some { m with nocase := true }
      else if ← accept (.keyword .fixed) then return some { m with fixed := true }
      else if ← accept (.keyword .encodings) then return some { m with encodings := ← encodings }
      else return none)
    {}

def textPattern (text : Token) : Reader (List PatternDef) := do
  let m ← modifiers
  let defs := m.encodings.map fun e => ⟨text.text, m.nocase, m.fixed, e⟩
  defs.forM (checkCompiles text.position)
  return defs

def rawBytes : List Char → List Char
  | high :: low :: rest => '\\' :: 'z' :: high :: low :: rawBytes rest
  | _ => []

/-- Hexadecimal digits up to the closing brace as the text of a pattern. Digits may be spread over
tokens in any way. -/
def hexString : Reader String := do
  let digits ← repeatStep
    (fun digits => do
      let t ← peek
      if t.kind = .closeBrace || t.kind = .endOfFile then return none
      else
        discard <| expectAny [.identifier, .number] "hex digit"
        if !t.text.toList.all Hex.isDigit then fail .hexDigit t.position
        return some (digits ++ t.text.toList))
    []
  let stop ← peek
  if stop.kind = .endOfFile then fail .unterminatedHex stop.position
  if digits.length % 2 = 1 then fail .oddHexDigits stop.position
  if digits.isEmpty then fail .emptyHex stop.position
  discard <| expect .closeBrace "close brace"
  return String.ofList (rawBytes digits)

def hexPattern (brace : Token) : Reader (List PatternDef) := do
  let d : PatternDef := { text := ← hexString }
  checkCompiles brace.position d
  return [d]

def patternDefinition : Reader (List PatternDef) := do
  discard <| expect .equal "equal sign"
  match ← accept? .string with
  | some text => textPattern text
  | none =>
    match ← accept? .openBrace with
    | some brace => hexPattern brace
    | none => do fail (.expected "double quoted string or hex string") (← peek).position

def declare (name : String) : Reader Unit :=
  modify fun s => { s with declared := if s.declared.contains name then s.declared
    else name :: s.declared }

def patternsSection : Reader (SortedMap String (List PatternDef)) := do
  heading .patterns
  let patterns ← repeatStep
    (fun patterns => do
      match ← accept? .identifier with
      | some name => do
        let defs ← patternDefinition
        if patterns.contains name.text then fail (.duplicatePattern name.text) name.position
        declare name.text
        return some (patterns.insert name.text defs)
      | none => return none)
    SortedMap.empty
  if patterns.isEmpty then fail (.expected "pattern definition") (← peek).position
  return patterns

def grepSection : Reader GrepSection := do
  heading .grep
  let patterns ← patternsSection
  heading .condition
  return ⟨patterns, ← predicate call⟩

/-- A section that may be left out. -/
def section? {α : Type} (k : Keyword) (r : Reader α) : Reader (Option α) := do
  if ← isNext (.keyword k) then some <$> r else return none

def rule : Reader Rule := do
  let start ← get
  set { start with declared := [] }
  discard <| expectKeyword .rule
  let name ← expect .identifier "rule name"
  discard <| expect .openBrace "open curly brace"
  let info ← section? .metaSection metaSection
  let hash ← section? .hash hashSection
  let fileMetadata ← section? .fileMetadata fileMetadataSection
  let signature ← section? .signature signatureSection
  let grep ← section? .grep grepSection
  discard <| expect .closeBrace "close curly brace"
  let stop ← get
  let taken := start.unread.take (stop.index - start.index)
  return {
    name := name.text, id := ruleId (taken.map (·.text)), info := info.getD SortedMap.empty,
    hash, fileMetadata, signature, grep, firstToken := start.index, lastToken := stop.index }

end Reader

/-- The rules of a text and the errors of what is no rule, each in the order of the text. -/
structure RuleList where
  rules : List Rule := []
  errors : List ParseError := []
deriving DecidableEq, Repr

namespace RuleList

def addRule (r : Rule) (l : RuleList) : RuleList := { l with rules := r :: l.rules }

def addError (e : ParseError) (l : RuleList) : RuleList := { l with errors := e :: l.errors }

end RuleList

namespace ReaderState

/-- The state to go on from when reading from `start` failed at `failed`. -/
def recover (start failed : ReaderState) : ReaderState :=
  let next := start.skip.toRule
  { failed with index := next.index, unread := next.unread }

/-- Reads rules to the end. Each round takes a token. -/
def readRules : Nat → ReaderState → RuleList × ReaderState
  | 0, s => ({}, s)
  | fuel + 1, s =>
    if s.unread.isEmpty then ({}, s)
    else if s.peek.kind ≠ .keyword .rule then
      let (list, last) := readRules fuel (s.recover s)
      (list.addError ⟨.expected "rule keyword", s.peek.position⟩, last)
    else
      match Reader.rule.run s with
      | (.ok rule, next) =>
        let (list, last) := readRules fuel next
        (list.addRule rule, last)
      | (.error e, failed) =>
        let (list, last) := readRules fuel (s.recover failed)
        (list.addError e, last)

def rules (s : ReaderState) : RuleList × ReaderState := s.readRules s.unread.length

end ReaderState

/-- The rules of a text. A text that has no tokens has no rules either. -/
def parseRules (text : String) : Except LexError RuleList := do
  let tokens ← tokens text
  return (ReaderState.start text.utf8ByteSize tokens).rules.1

end Triage
