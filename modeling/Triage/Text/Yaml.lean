import Triage.Text.Yaml.Node

/-!
What the scalars of settings stand for. A number or a truth value is plain, whatever its tag, or a
literal block with the tag of its kind.
-/

namespace Triage.Yaml

def numberTag : List Char := "tag:yaml.org,2002:int".toList

def truthTag : List Char := "tag:yaml.org,2002:bool".toList

def nullTag : List Char := "tag:yaml.org,2002:null".toList

def text? : Yaml → Option String
  | scalar _ _ text => some text
  | _ => none

/-- The text of a scalar that may be of the kind with the tag. -/
def valueText? (tag : List Char) : Yaml → Option String
  | scalar p style text =>
    if style = .plain || (style = .literal && p.tag = some tag) then some text else none
  | _ => none

def bool? (y : Yaml) : Option Bool := do
  let text ← y.valueText? truthTag
  if ["true", "True", "TRUE"].contains text then some true
  else if ["false", "False", "FALSE"].contains text then some false
  else none

/-- The number that digits spell in a base, which has to fit in 64 bits. -/
def digitsIn? (base : Nat) (digits : List Char) : Option Nat := do
  if digits.isEmpty then failure
  let values ← digits.mapM Hex.value?
  if values.any (base ≤ ·) then failure
  let n := values.foldl (fun n d => base * n + d) 0
  if n < 0x10000000000000000 then some n else none

/-- An unsigned number: after an optional plus sign decimal, or in base 16, 8 or 2. Further zeros in
front of a decimal make it a text. -/
def naturalOf? (text : List Char) : Option Nat :=
  let digits := if text.head? = some '+' then text.drop 1 else text
  match digits with
  | '0' :: 'x' :: rest => digitsIn? 16 rest
  | '0' :: 'o' :: rest => digitsIn? 8 rest
  | '0' :: 'b' :: rest => digitsIn? 2 rest
  | '0' :: _ :: _ => none
  | _ => digitsIn? 10 digits

def natural? (y : Yaml) : Option Nat := do naturalOf? (← y.valueText? numberTag).toList

def spellsNull (text : String) : Bool := ["~", "null", "Null", "NULL"].contains text

/-- A number that may be left out: a plain scalar without a tag is left out if it is empty or says so.
One with the tag of null has to say so. -/
def optionalNatural? (y : Yaml) : Option (Option Nat) :=
  match y with
  | scalar ⟨_, none⟩ .plain text =>
    if text.isEmpty || spellsNull text then some none else y.natural?.map some
  | scalar ⟨_, some tag⟩ .plain text =>
    if tag = nullTag then (if spellsNull text then some none else none) else y.natural?.map some
  | _ => y.natural?.map some

end Triage.Yaml
