import Triage.Unicode.AgeTable
import Triage.Unicode.TextBreak

/-!
Sets of characters by name, as regular expressions use them. Names are compared without regard to
case, spaces, hyphens, underscores and a leading `is`.
-/

namespace Triage.Unicode

/-- The general categories under their long name and their short one, with the codes they group. -/
def categoryNames : List (String × String × List String) :=
  [("Other", "C", ["Cc", "Cf", "Cn", "Co"]), ("Control", "Cc", ["Cc"]), ("cntrl", "Cc", ["Cc"]),
   ("Format", "Cf", ["Cf"]), ("Unassigned", "Cn", ["Cn"]), ("Private_Use", "Co", ["Co"]),
   ("Letter", "L", ["Lu", "Ll", "Lt", "Lm", "Lo"]), ("Cased_Letter", "LC", ["Lu", "Ll", "Lt"]),
   ("Lowercase_Letter", "Ll", ["Ll"]), ("Modifier_Letter", "Lm", ["Lm"]),
   ("Other_Letter", "Lo", ["Lo"]), ("Titlecase_Letter", "Lt", ["Lt"]),
   ("Uppercase_Letter", "Lu", ["Lu"]), ("Mark", "M", ["Mn", "Mc", "Me"]),
   ("Combining_Mark", "M", ["Mn", "Mc", "Me"]), ("Spacing_Mark", "Mc", ["Mc"]),
   ("Enclosing_Mark", "Me", ["Me"]), ("Nonspacing_Mark", "Mn", ["Mn"]),
   ("Number", "N", ["Nd", "Nl", "No"]), ("Decimal_Number", "Nd", ["Nd"]), ("digit", "Nd", ["Nd"]),
   ("Letter_Number", "Nl", ["Nl"]), ("Other_Number", "No", ["No"]),
   ("Punctuation", "P", ["Pc", "Pd", "Ps", "Pe", "Pi", "Pf", "Po"]),
   ("punct", "P", ["Pc", "Pd", "Ps", "Pe", "Pi", "Pf", "Po"]),
   ("Connector_Punctuation", "Pc", ["Pc"]), ("Dash_Punctuation", "Pd", ["Pd"]),
   ("Close_Punctuation", "Pe", ["Pe"]), ("Final_Punctuation", "Pf", ["Pf"]),
   ("Initial_Punctuation", "Pi", ["Pi"]), ("Other_Punctuation", "Po", ["Po"]),
   ("Open_Punctuation", "Ps", ["Ps"]), ("Symbol", "S", ["Sm", "Sc", "Sk", "So"]),
   ("Currency_Symbol", "Sc", ["Sc"]), ("Modifier_Symbol", "Sk", ["Sk"]),
   ("Math_Symbol", "Sm", ["Sm"]), ("Other_Symbol", "So", ["So"]),
   ("Separator", "Z", ["Zs", "Zl", "Zp"]), ("Line_Separator", "Zl", ["Zl"]),
   ("Paragraph_Separator", "Zp", ["Zp"]), ("Space_Separator", "Zs", ["Zs"])]

def lowerAscii (c : Char) : Char := if 'A' ≤ c ∧ c ≤ 'Z' then c.toLower else c

/-- The form in which names are compared. -/
def looseName (name : List Char) : String :=
  let drop := fun (cs : List Char) =>
    (cs.filter fun c => c.toNat < 128 && c != ' ' && c != '_' && c != '-').map lowerAscii
  match name with
  | i :: s :: rest =>
    if lowerAscii i == 'i' && lowerAscii s == 's' then
      let kept := drop rest
      if kept == ['c'] then "isc" else String.ofList kept
    else String.ofList (drop name)
  | _ => String.ofList (drop name)

def looselyEqual (loose name : String) : Bool := looseName name.toList == loose

def categoryNamed? (loose : String) : Option CharSet :=
  if loose == "any" then some CharSet.all
  else if loose == "assigned" then some (CharSet.complement (categories ["Cn"]))
  else if loose == "ascii" then some (CharSet.span 0 127)
  else
    (categoryNames.find? fun (long, short, _) => looselyEqual loose long || looselyEqual loose short).map
      fun (_, _, codes) => categories codes

/-- Two codes that scripts had before. -/
def formerScriptCodes : List (String × String) := [("Qaac", "Copt"), ("Qaai", "Zinh")]

def scriptCode? (loose : String) : Option String :=
  ((scriptNames.find? fun (code, long) => looselyEqual loose long || looselyEqual loose code).map
    (·.1)) <|>
  ((formerScriptCodes.find? fun (former, _) => looselyEqual loose former).map (·.2))

/-- The characters that are used in a script, as far as their use is listed; the others are used in
the script they belong to. -/
def usedInScript (code : String) : CharSet :=
  let listed := RangeSet.ofList (scriptUses.map fun (first, last, _) => (first, last))
  let used := scriptUses.filter fun (_, _, codes) => (codes.splitOn " ").contains code
  (CharSet.diff (script code) listed).union
    (RangeSet.ofList (used.map fun (first, last, _) => (first, last)))

/-- The characters that have had a meaning since a version such as `3.1`, also written `V3_1`. -/
def agedAtLeast? (loose : String) : Option CharSet :=
  let older := ages.takeWhile fun (version, _) => !isNamed version
  if older.length < ages.length then
    some (chars (labelledRanges ((ages.take (older.length + 1)).map (·.2)).contains ageRuns))
  else none
where
  isNamed (version : String) : Bool :=
    loose == version || loose == "v" ++ String.ofList (version.toList.filter (· != '.'))

/-- The characters that a lone name describes: a property, a general category or a script. Three
short names that also abbreviate properties stand for the categories. -/
def named? (name : List Char) : Option CharSet :=
  let loose := looseName name
  let property := if ["cf", "sc", "lc"].contains loose then none else property? loose
  property <|> categoryNamed? loose <|> (scriptCode? loose).map script

/-- The characters for which a property has a value. -/
def withValue? (property value : List Char) : Option CharSet :=
  let value := looseName value
  match looseName property with
  | "gc" | "generalcategory" => categoryNamed? value
  | "sc" | "script" => (scriptCode? value).map script
  | "scx" | "scriptextensions" => (scriptCode? value).map usedInScript
  | "age" => agedAtLeast? value
  | "gcb" | "graphemeclusterbreak" => GraphemeBreak.part? value
  | "wb" | "wordbreak" => WordBreak.part? value
  | "sb" | "sentencebreak" => SentenceBreak.part? value
  | _ => none

end Triage.Unicode
