import InventoryProbe.Text.Ascii
import InventoryProbe.Text.CaseData

/-!
# Small letters

The full Unicode lower-case mapping of a text. Three things set it apart from a mapping of single
characters: `İ` becomes two characters, and `Σ` becomes `ς` at the end of a word and `σ` elsewhere,
which is decided by its neighbours.
-/

namespace InventoryProbe.Text

/-- Whether a run of capitals has the code point `n`. -/
def CaseRun.contains (r : CaseRun) (n : Nat) : Bool :=
  r.first ≤ n && n ≤ r.last && (n - r.first) % r.step == 0

/-- Whether a range has the code point `n`. -/
def CodeRange.contains (r : CodeRange) (n : Nat) : Bool := r.first ≤ n && n ≤ r.last

/-- The simple small letter of a character, the character itself if it has none. -/
def smallLetter (c : Char) : Char :=
  if c.toNat < 0x80 then asciiLower c
  else match capitalRuns.find? (·.contains c.toNat) with
    | some r => Char.ofNat (Int.toNat (c.toNat + r.distance))
    | none => c

/-- Whether a character has the property `Cased`. -/
def isCased (c : Char) : Bool := casedRanges.any (·.contains c.toNat)

/-- Whether a character has the property `Case_Ignorable`. -/
def isCaseIgnorable (c : Char) : Bool := caseIgnorableRanges.any (·.contains c.toNat)

/-- Whether the first character that counts for case is cased. -/
def startsCased (cs : List Char) : Bool :=
  match cs.dropWhile isCaseIgnorable with
  | c :: _ => isCased c
  | [] => false

/-- The small letters of one character, between the characters before it (nearest first) and the
characters after it. -/
def smallLetters (before : List Char) (c : Char) (after : List Char) : List Char :=
  if c = 'Σ' then
    [if startsCased before && !startsCased after then 'ς' else 'σ']
  else if c = 'İ' then ['i', '\u0307']
  else [smallLetter c]

/-- The small letters of `after`, which follows the characters `before` (nearest first). -/
def lowercaseFrom (before : List Char) : List Char → List Char
  | [] => []
  | c :: after => smallLetters before c after ++ lowercaseFrom (c :: before) after

/-- The text in small letters. -/
def lowercase (cs : List Char) : List Char := lowercaseFrom [] cs

/-- Whether `pattern` stands somewhere in the text. -/
def contains (pattern : List Char) : List Char → Bool
  | [] => pattern.isEmpty
  | c :: cs => pattern.isPrefixOf (c :: cs) || contains pattern cs

end InventoryProbe.Text
