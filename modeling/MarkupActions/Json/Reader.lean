import MarkupActions.Json.Token

/-!
# MarkupActions.Json.Reader

**Values out of JSON text.** A machine reads one token after another: it knows what it expects
next, and on a stack the arrays and objects that are begun and wait for the value being read. Of
two members with one key the later counts. At most `maxDepth` arrays and objects may be open at a
time.
-/

namespace MarkupActions.Json

/-- How many arrays and objects may be open inside each other. -/
def maxDepth : Nat := 127

/-- An array or object that waits for a value. -/
inductive Frame where
  /-- An array with the items read so far, last one first. -/
  | items (done : List Value)
  /-- An object with the members read so far and the key of the value to come. -/
  | members (done : Entries Value) (key : String)

/-- What is expected next. -/
inductive Expect where
  | value
  /-- A value, or the end of an array without items. -/
  | firstItem
  /-- A key, or the end of an object without members. -/
  | firstKey
  /-- A key behind a comma. -/
  | key (done : Entries Value)
  /-- The colon behind a key. -/
  | colon (done : Entries Value) (key : String)
  /-- A value has been read: what follows it in the innermost open array or object, or the end. -/
  | after (v : Value)

/-- Where the machine stands. -/
structure Machine where
  expect : Expect
  /-- What is open, innermost first. -/
  stack : List Frame

/-- Begin a value with a token. -/
def Machine.beginValue (stack : List Frame) : Token → Option Machine
  | .scalar v => some ⟨.after v, stack⟩
  | .text s => some ⟨.after (.string s), stack⟩
  | .openArray =>
      if stack.length < maxDepth then some ⟨.firstItem, .items [] :: stack⟩ else none
  | .openObject => if stack.length < maxDepth then some ⟨.firstKey, stack⟩ else none
  | _ => none

/-- Go on behind a value. -/
def Machine.continueAfter (v : Value) : List Frame → Token → Option Machine
  | .items done :: stack, .comma => some ⟨.value, .items (v :: done) :: stack⟩
  | .items done :: stack, .closeArray => some ⟨.after (.array (v :: done).reverse), stack⟩
  | .members done key :: stack, .comma => some ⟨.key (done.insert key v), stack⟩
  | .members done key :: stack, .closeObject =>
      some ⟨.after (.object (done.insert key v)), stack⟩
  | _, _ => none

/-- Take one token; none when it cannot come next. -/
def Machine.step (m : Machine) (t : Token) : Option Machine :=
  match m.expect, m.stack, t with
  | .firstItem, .items _ :: stack, .closeArray => some ⟨.after (.array []), stack⟩
  | .firstItem, stack, t => beginValue stack t
  | .value, stack, t => beginValue stack t
  | .firstKey, stack, .closeObject => some ⟨.after (.object []), stack⟩
  | .firstKey, stack, .text key => some ⟨.colon [] key, stack⟩
  | .key done, stack, .text key => some ⟨.colon done key, stack⟩
  | .colon done key, stack, .colon => some ⟨.value, .members done key :: stack⟩
  | .after v, stack, t => continueAfter v stack t
  | _, _, _ => none

/-- Read tokens to their end; the value read, if exactly one was. -/
def Machine.run? (m : Machine) : List Token → Option Value
  | [] =>
      match m with
      | ⟨.after v, []⟩ => some v
      | _ => none
  | t :: rest =>
      match m.step t with
      | some next => next.run? rest
      | none => none

/-- The value that tokens stand for. -/
def ofTokens? (tokens : List Token) : Option Value := Machine.run? ⟨.value, []⟩ tokens

/-- The value that the characters stand for. -/
def ofChars? (cs : List Char) : Option Value := do ofTokens? (← Token.scan? cs)

/-- The value of a JSON text; none when the text is not well formed. -/
def read? (s : String) : Option Value := ofChars? s.toList

end MarkupActions.Json
