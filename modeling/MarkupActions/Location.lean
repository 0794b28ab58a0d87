import MarkupActions.Text.Basic

/-!
# MarkupActions.Location

**Names that are checked before they are used.** A location names a place in the data model:
identifiers joined by dots. An alias prefix is a name without a colon. A namespace URI is any text
that is not empty and holds no blank.

`isLocation` reads its text once, from the left, and knows only whether it stands at the start of
an identifier or inside one. `segments` cuts a text at every dot.
-/

namespace MarkupActions

open Text

namespace Location

/-- Characters that begin an identifier. -/
def isStart (c : Char) : Bool := isAsciiLetter c || c = '_' || c = '$'

/-- Characters that continue an identifier. -/
def isPart (c : Char) : Bool := isStart c || isAsciiDigit c

/-- Read a location from inside an identifier, or from the start of one. -/
def accepts : (inside : Bool) → List Char → Bool
  | inside, [] => inside
  | false, c :: rest => isStart c && accepts true rest
  | true, c :: rest =>
      if c = '.' then accepts false rest else isPart c && accepts true rest

end Location

/-- Whether a text can be a location: names with dots between them. -/
def isLocation (s : String) : Bool := Location.accepts false s.toList

/-- The parts of a location between its dots; never none. -/
def Location.segments (s : String) : List String :=
  (s.toList.splitOn '.').map String.ofList

/-- Whether a text is an identifier that may also hold dots, dashes and digits behind its first
letter. -/
def isAliasPrefix (s : String) : Bool :=
  match s.toList with
  | [] => false
  | c :: rest =>
      (isAsciiLetter c || c = '_')
        && rest.all fun d => isAsciiLetter d || isAsciiDigit d || d = '.' || d = '_' || d = '-'

/-- Whether a text can name a namespace: not empty, and without blanks. -/
def isNamespaceUri (s : String) : Bool := !s.toList.isEmpty && s.toList.all fun c => !Text.isBlank c

/-- A qualified name without its prefix: what follows the first colon, if there is one. -/
def localPart (qualified : String) : String :=
  match Text.afterFirst? ':' qualified.toList with
  | some rest => String.ofList rest
  | none => qualified

end MarkupActions
