import MarkupActions.Text.Basic
import MarkupActions.Text.CaseData

/-!
# MarkupActions.Text.Lowercase

**Lower-casing of a text.** Letters are replaced one by one, with two exceptions of the Unicode
standard: the capital I with a dot above becomes `i` followed by a combining dot, and a capital
sigma at the end of a word becomes the final form. Element names are compared after this mapping,
so an element may be written in capitals.
-/

namespace MarkupActions.Text

/-- Whether the code point is one of the run's capitals. -/
def CaseRun.holds (run : CaseRun) (n : Nat) : Bool :=
  run.first ≤ n && n ≤ run.last && (n - run.first) % run.step == 0

/-- The lower-case counterpart of one character, the character itself where it has none. -/
def lowerChar (c : Char) : Char :=
  let n := c.toNat
  if n < 0x80 then
    if 0x41 ≤ n && n ≤ 0x5A then Char.ofNat (n + 0x20) else c
  else
    match lowercaseRuns.find? (·.holds n) with
    | some run => Char.ofNat (run.target + (n - run.first))
    | none => c

/-- Whether the first character that is not case-ignorable is cased. -/
def meetsCased (cs : List Char) : Bool :=
  match cs.dropWhile fun c => inRanges caseIgnorableRanges c.toNat with
  | [] => false
  | c :: _ => inRanges casedRanges c.toNat

/-- The sigma at a place: final when a cased letter comes before it and none after it.
`before` is the text in front of it, nearest character first. -/
def lowerSigma (before after : List Char) : Char :=
  if meetsCased before && !meetsCased after then 'ς' else 'σ'

/-- Lower-case a text of which the characters in `before`, nearest first, have been passed. -/
def lowerFrom (before : List Char) : List Char → List Char
  | [] => []
  | c :: rest =>
      if c = 'Σ' then lowerSigma before rest :: lowerFrom (c :: before) rest
      else if c = 'İ' then 'i' :: '\u0307' :: lowerFrom (c :: before) rest
      else lowerChar c :: lowerFrom (c :: before) rest

/-- The text in lower case. -/
def lowercase (s : String) : String := String.ofList (lowerFrom [] s.toList)

@[simp] theorem toList_lowercase (s : String) : (lowercase s).toList = lowerFrom [] s.toList :=
  String.toList_ofList

/-- Equality up to the case of ASCII letters. -/
def eqIgnoringAsciiCase (s t : String) : Bool :=
  s.toList.map Char.toLower == t.toList.map Char.toLower

end MarkupActions.Text
