import MarkupActions.Xml.Node

/-!
# MarkupActions.Xml.Reader

**Documents out of text.** A byte order mark in front is skipped, and so is the declaration of the
markup's version. What follows is one root element with comments and processing instructions around
it; a document type is not accepted. `Node.read?` gives the root with its names resolved,
`Document.read?` its element tree.
-/

namespace MarkupActions.Xml

/-- The text without a byte order mark in front. -/
def skipMark : List Char → List Char
  | '\uFEFF' :: rest => rest
  | cs => cs

/-- White space, unless the declaration ends here. -/
def skipGap? (cs : List Char) : Option (List Char) :=
  if cs.head?.any isSpace || ['?', '>'].isPrefixOf cs || cs.isEmpty then some (skipSpaces cs)
  else none

/-- Skip an attribute of the declaration if one of that name comes next. -/
def skipOptional? (name : List Char) (cs : List Char) : Option (List Char) :=
  if name.isPrefixOf cs then (scanAttribute? cs).map Prod.snd else some cs

/-- Behind `<?xml`: a version, possibly an encoding and a word on standing alone, and the end. What
they say is not looked at. -/
def skipDeclaration? (cs : List Char) : Option (List Char) := do
  let atVersion ← skipGap? cs
  if !("version".toList.isPrefixOf atVersion) then none
  let atEncoding ← skipGap? (← skipOptional? "version".toList atVersion)
  let atStandalone ←
    if "encoding".toList.isPrefixOf atEncoding then
      skipGap? (← skipOptional? "encoding".toList atEncoding)
    else some atEncoding
  match skipSpaces (← skipOptional? "standalone".toList atStandalone) with
  | '?' :: '>' :: rest => some rest
  | _ => none

/-- The text behind the declaration, if there is one. -/
def skipProlog? (cs : List Char) : Option (List Char) :=
  if ("<?xml ".toList).isPrefixOf cs then skipDeclaration? (cs.drop 5) else some cs

/-- The root of the document that the characters are. -/
def Node.ofChars? (cs : List Char) : Option Node := do
  Node.ofMarkup? (← Markup.scan? (← skipProlog? (skipMark cs)))

/-- The root of the document that a text is. -/
def Node.read? (text : String) : Option Node := Node.ofChars? text.toList

end MarkupActions.Xml

namespace MarkupActions

/-- The document that a text is, none when it is not well formed. -/
def Document.read? (text : String) : Option Document :=
  (Xml.Node.read? text).map fun n => Document.ofRoot n.toElement

end MarkupActions
