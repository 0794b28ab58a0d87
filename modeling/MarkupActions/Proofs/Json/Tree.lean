import MarkupActions.Json.Token

/-!
# MarkupActions.Proofs.Json.Tree

**What a JSON text holds at a path.** A JSON text is cut into lexemes, from which a stack machine
builds a tree. The tree keeps the structure and the texts. Numbers and the words `true`, `false` and
`null` it keeps as they are written, so that nothing here depends on how numbers are read. It may be as
deep as it likes, and its numbers as great, where `Json.Reader` has limits.

The machine gives a tree back from its lexemes (`Tree.ofLexemes?_lexemes`). Whether a text holds
`null` at a path is then a question about its tree (`HoldsNull`).
-/

namespace MarkupActions.Json

/-! ### Lexemes -/

/-- A piece of a JSON text that is not white space. -/
inductive Lexeme where
  /-- A bracket, a brace, a comma or a colon. -/
  | mark (c : Char)
  | text (s : String)
  /-- A number, or one of the words `true`, `false` and `null`. -/
  | word (cs : List Char)

/-- Whether the character is a token of its own. -/
def isMark (c : Char) : Bool := (Token.ofMark? c).isSome

/-- Whether a character can be part of a word. -/
def isWordChar (c : Char) : Bool := !isSpace c && !isMark c && c ≠ '"'

/-- The lexeme at the front of a text that does not begin with white space, and the rest. -/
def Lexeme.scanOne? (c : Char) (rest : List Char) : Option (Lexeme × List Char) :=
  if isMark c then some (.mark c, rest)
  else if c = '"' then do
    let (parts, after) ← scanText? rest
    let cs ← joinParts? parts
    return (.text (String.ofList cs), after)
  else some (.word (c :: rest.takeWhile isWordChar), rest.dropWhile isWordChar)

theorem Lexeme.length_le_of_scanOne? {c : Char} {rest after : List Char} {l : Lexeme}
    (h : Lexeme.scanOne? c rest = some (l, after)) : after.length ≤ rest.length := by
  unfold scanOne? at h
  split at h
  · simp_all
  · split at h
    · simp only [bind, Option.bind_eq_some_iff, pure, Option.some.injEq, Prod.mk.injEq] at h
      obtain ⟨⟨parts, r⟩, hscan, cs, -, -, rfl⟩ := h
      exact Nat.le_of_lt (length_lt_of_scanText? hscan)
    · simp only [Option.some.injEq, Prod.mk.injEq] at h
      obtain ⟨-, rfl⟩ := h
      exact (List.dropWhile_sublist _).length_le

/-- The lexemes of a text, none when a text between quotes is malformed. -/
def Lexeme.scan? : List Char → Option (List Lexeme)
  | [] => some []
  | c :: rest =>
      if isSpace c then Lexeme.scan? rest
      else
        match h : Lexeme.scanOne? c rest with
        | none => none
        | some (l, after) =>
            have : after.length ≤ rest.length := Lexeme.length_le_of_scanOne? h
            (Lexeme.scan? after).map (l :: ·)
termination_by cs => cs.length
decreasing_by
  · exact Nat.lt_succ_self _
  · exact Nat.lt_succ_of_le this

/-! ### Trees -/

/-- A JSON text as a tree of its words and texts, which are not read any further: a number is the
characters that it is written with. -/
inductive Tree where
  | word (cs : List Char)
  | text (s : String)
  | array (items : List Tree)
  | object (members : List (String × Tree))

namespace Tree

mutual

/-- The lexemes of a text that has the tree. -/
def lexemes : Tree → List Lexeme
  | .word cs => [.word cs]
  | .text s => [.text s]
  | .array items => .mark '[' :: lexemesOfItems items ++ [.mark ']']
  | .object members => .mark '\x7b' :: lexemesOfMembers members ++ [.mark '\x7d']

/-- The lexemes of the items of an array, with commas between them. -/
def lexemesOfItems : List Tree → List Lexeme
  | [] => []
  | [t] => t.lexemes
  | t :: rest => t.lexemes ++ .mark ',' :: lexemesOfItems rest

/-- The lexemes of the members of an object, with their keys and with commas between them. -/
def lexemesOfMembers : List (String × Tree) → List Lexeme
  | [] => []
  | [(k, t)] => .text k :: .mark ':' :: t.lexemes
  | (k, t) :: rest => .text k :: .mark ':' :: t.lexemes ++ .mark ',' :: lexemesOfMembers rest

end

/-! ### Building trees -/

/-- An array or object that waits for a value, with what it holds so far, last one first. -/
inductive Frame where
  | items (done : List Tree)
  /-- The key is that of the value to come. -/
  | members (done : List (String × Tree)) (key : String)

/-- What is expected next. -/
inductive Stage where
  | value
  /-- A value, or the end of an array without items. -/
  | firstItem
  /-- A key, or the end of an object without members. -/
  | firstKey
  /-- A key behind a comma. -/
  | key (done : List (String × Tree))
  /-- The colon behind a key. -/
  | colon (done : List (String × Tree)) (key : String)
  /-- A value has been read. -/
  | after (t : Tree)

/-- Begin a value with a lexeme. -/
def begin? (stack : List Frame) : Lexeme → Option (Stage × List Frame)
  | .word cs => some (.after (.word cs), stack)
  | .text s => some (.after (.text s), stack)
  | .mark '[' => some (.firstItem, stack)
  | .mark '\x7b' => some (.firstKey, stack)
  | .mark _ => none

/-- Go on behind a value. -/
def continue? (t : Tree) : List Frame → Lexeme → Option (Stage × List Frame)
  | .items done :: stack, .mark ',' => some (.value, .items (t :: done) :: stack)
  | .items done :: stack, .mark ']' => some (.after (.array (t :: done).reverse), stack)
  | .members done key :: stack, .mark ',' => some (.key ((key, t) :: done), stack)
  | .members done key :: stack, .mark '\x7d' =>
      some (.after (.object ((key, t) :: done).reverse), stack)
  | _, _ => none

/-- Take one lexeme; none when it cannot come next. -/
def step? : Stage → List Frame → Lexeme → Option (Stage × List Frame)
  | .firstItem, stack, .mark ']' => some (.after (.array []), stack)
  | .firstItem, stack, l => begin? (.items [] :: stack) l
  | .value, stack, l => begin? stack l
  | .firstKey, stack, .mark '\x7d' => some (.after (.object []), stack)
  | .firstKey, stack, .text key => some (.colon [] key, stack)
  | .key done, stack, .text key => some (.colon done key, stack)
  | .colon done key, stack, .mark ':' => some (.value, .members done key :: stack)
  | .after t, stack, l => continue? t stack l
  | _, _, _ => none

/-- Read lexemes to their end; the tree read, if exactly one was. -/
def run? : Stage → List Frame → List Lexeme → Option Tree
  | .after t, [], [] => some t
  | _, _, [] => none
  | stage, stack, l :: rest =>
      match step? stage stack l with
      | some (next, stack) => run? next stack rest
      | none => none

/-- The tree that lexemes stand for. -/
def ofLexemes? (ls : List Lexeme) : Option Tree := run? .value [] ls

/-- The tree of a JSON text. -/
def ofChars? (cs : List Char) : Option Tree := (Lexeme.scan? cs).bind ofLexemes?

/-! ### Building a tree from its lexemes -/

/-- No value begins with the end of an array. -/
theorem run?_firstItem (t : Tree) (ts : List Tree) (stack : List Frame) (rest : List Lexeme) :
    run? .firstItem stack (lexemesOfItems (t :: ts) ++ rest) =
      run? .value (.items [] :: stack) (lexemesOfItems (t :: ts) ++ rest) := by
  cases ts <;> cases t <;> simp [lexemesOfItems, lexemes, run?, step?]

/-- An object with members begins with a key. -/
theorem run?_firstKey (k : String) (t : Tree) (ms : List (String × Tree)) (stack : List Frame)
    (rest : List Lexeme) :
    run? .firstKey stack (lexemesOfMembers ((k, t) :: ms) ++ rest) =
      run? (.key []) stack (lexemesOfMembers ((k, t) :: ms) ++ rest) := by
  cases ms <;> simp [lexemesOfMembers, run?, step?]

mutual

/-- The machine reads a tree off its lexemes, whatever is open around it and whatever follows. -/
theorem run?_lexemes : ∀ (t : Tree) (stack : List Frame) (rest : List Lexeme),
    run? .value stack (t.lexemes ++ rest) = run? (.after t) stack rest
  | .word cs, stack, rest => by simp [lexemes, run?, step?, begin?]
  | .text s, stack, rest => by simp [lexemes, run?, step?, begin?]
  | .array [], stack, rest => by simp [lexemes, lexemesOfItems, run?, step?, begin?]
  | .array (t :: ts), stack, rest => by
      have hitems := run?_lexemesOfItems (t :: ts) (List.cons_ne_nil t ts) [] stack rest
      have hfirst := run?_firstItem t ts stack (.mark ']' :: rest)
      simpa [lexemes, run?, step?, begin?] using hfirst.trans hitems
  | .object [], stack, rest => by simp [lexemes, lexemesOfMembers, run?, step?, begin?]
  | .object ((k, t) :: ms), stack, rest => by
      have hmembers :=
        run?_lexemesOfMembers ((k, t) :: ms) (List.cons_ne_nil _ ms) [] stack rest
      have hfirst := run?_firstKey k t ms stack (.mark '\x7d' :: rest)
      simpa [lexemes, run?, step?, begin?] using hfirst.trans hmembers

/-- The items of an array that has been begun, and its end. -/
theorem run?_lexemesOfItems : ∀ ts : List Tree, ts ≠ [] → ∀ (done : List Tree)
    (stack : List Frame) (rest : List Lexeme),
    run? .value (.items done :: stack) (lexemesOfItems ts ++ .mark ']' :: rest) =
      run? (.after (.array (done.reverse ++ ts))) stack rest
  | [], hne, done, stack, rest => absurd rfl hne
  | [t], _, done, stack, rest => by
      rw [lexemesOfItems, run?_lexemes t]
      simp [run?, step?, continue?]
  | t :: t' :: ts, _, done, stack, rest => by
      have hrest :=
        run?_lexemesOfItems (t' :: ts) (List.cons_ne_nil t' ts) (t :: done) stack rest
      rw [lexemesOfItems, List.append_assoc, run?_lexemes t]
      · simpa [run?, step?, continue?] using hrest
      · exact List.cons_ne_nil t' ts

/-- The members of an object that has been begun, and its end. -/
theorem run?_lexemesOfMembers : ∀ ms : List (String × Tree), ms ≠ [] →
    ∀ (done : List (String × Tree)) (stack : List Frame) (rest : List Lexeme),
    run? (.key done) stack (lexemesOfMembers ms ++ .mark '\x7d' :: rest) =
      run? (.after (.object (done.reverse ++ ms))) stack rest
  | [], hne, done, stack, rest => absurd rfl hne
  | [(k, t)], _, done, stack, rest => by
      have hvalue := run?_lexemes t (.members done k :: stack) (.mark '\x7d' :: rest)
      simpa [lexemesOfMembers, run?, step?, continue?] using hvalue
  | (k, t) :: m :: ms, _, done, stack, rest => by
      have hvalue := run?_lexemes t (.members done k :: stack)
        (.mark ',' :: lexemesOfMembers (m :: ms) ++ .mark '\x7d' :: rest)
      have hrest :=
        run?_lexemesOfMembers (m :: ms) (List.cons_ne_nil m ms) ((k, t) :: done) stack rest
      rw [List.cons_append, run?] at hvalue
      simpa [lexemesOfMembers, run?, step?, continue?] using hvalue.trans hrest

end

/-- The lexemes of a tree build the tree. -/
theorem ofLexemes?_lexemes (t : Tree) : ofLexemes? t.lexemes = some t := by
  have hrun := run?_lexemes t [] []
  rwa [List.append_nil] at hrun

end Tree

/-! ### Paths -/

/-- One step into a value. -/
inductive Key where
  | member (name : String)
  | item (index : Nat)

/-- The part of a tree at the end of a path. -/
def Tree.at? : Tree → List Key → Option Tree
  | t, [] => some t
  | .object members, .member name :: path =>
      match Entries.find? name members with
      | some t => t.at? path
      | none => none
  | .array items, .item index :: path =>
      match items[index]? with
      | some t => t.at? path
      | none => none
  | _, _ :: _ => none

/-- The tree of `null`. -/
def Tree.null : Tree := .word "null".toList

/-- Whether a JSON text holds `null` at the end of a path. -/
def HoldsNull (text : String) (path : List Key) : Prop :=
  (Tree.ofChars? text.toList).bind (·.at? path) = some .null

end MarkupActions.Json
