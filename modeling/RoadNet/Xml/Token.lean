import RoadNet.Xml.Escape

/-!
# RoadNet.Xml.Token

The tags and other parts that an XML text is made of, in order. Comments, processing
instructions and character data are checked here; a document type declaration is refused.
-/

namespace RoadNet.Xml

/-- A name with an optional namespace in front of it; empty text stands for none. -/
structure QName where
  space : String
  name : String
deriving DecidableEq, Repr

/-- An attribute of a tag, its value already resolved. -/
structure RawAttribute where
  name : QName
  value : String
deriving DecidableEq, Repr

/-- A part of an XML text. -/
inductive Token where
  | startTag (name : QName) (attributes : List RawAttribute) (empty : Bool)
  | endTag (name : QName)
  /-- A comment or a processing instruction. -/
  | aside
  /-- White space between tags. -/
  | space
  /-- Character data. -/
  | text
deriving DecidableEq, Repr

namespace Token

/-! ## Names -/

/-- Check a name: it has at most one colon, and each part starts as `isNameStart` tells. An empty
first part counts as none. -/
def qname? (cs : List Char) : Option QName :=
  let startsWell (part : List Char) : Bool := (part.head?.map isNameStart).getD false
  match cs.span (· ≠ ':') with
  | (name, []) => if startsWell name then some ⟨"", String.ofList name⟩ else none
  | (ns, _ :: name) =>
    if (ns.isEmpty || startsWell ns) && startsWell name && !name.contains ':' then
      some ⟨String.ofList ns, String.ofList name⟩
    else none

/-- Read a name at the start of a text. -/
def takeName? (cs : List Char) : Option (QName × List Char) :=
  let (name, rest) := cs.span isNameChar
  (qname? name).map fun q => (q, rest)

/-! ## Text up to a mark -/

/-- Split a text at the first occurrence of `mark`, which is dropped. What stands before it may hold
XML characters only (`isXmlChar`). -/
def splitAt? (mark : List Char) : List Char → Option (List Char × List Char)
  | [] => none
  | c :: cs =>
    if mark.isPrefixOf (c :: cs) then some ([], (c :: cs).drop mark.length)
    else if isXmlChar c then (splitAt? mark cs).map fun p => (c :: p.1, p.2)
    else none

/-- Whether a text holds a mark somewhere. -/
def holds (mark : List Char) : List Char → Bool
  | [] => mark.isEmpty
  | c :: cs => mark.isPrefixOf (c :: cs) || holds mark cs

/-! ## Attributes -/

/-- Read an equals sign with white space around it. -/
def takeEquals? (cs : List Char) : Option (List Char) :=
  match dropSpaces cs with
  | '=' :: rest => some (dropSpaces rest)
  | _ => none

/-- Read a quoted text: XML characters up to the quote, none of them `<`. -/
def takeQuoted? (cs : List Char) : Option (List Char × List Char) :=
  match cs with
  | quote :: rest =>
    if quote = '"' || quote = '\'' then
      (splitAt? [quote] rest).filter fun p => !p.1.contains '<'
    else none
  | [] => none

/-- Read a name with `takeName?` and the text of `takeQuoted?` that is set equal to it. -/
def takeSetting? (cs : List Char) : Option (QName × List Char × List Char) := do
  let (name, rest) ← takeName? cs
  let (raw, rest) ← takeQuoted? (← takeEquals? rest)
  return (name, raw, rest)

/-- Read one attribute, its value by `attributeValue?`. -/
def takeAttribute? (cs : List Char) : Option (RawAttribute × List Char) := do
  let (name, raw, rest) ← takeSetting? cs
  let value ← attributeValue? raw
  return (⟨name, value⟩, rest)

/-- Read the attributes and the end of a start tag, at most `fuel` attributes. Each attribute
follows white space. -/
def takeAttributes? : Nat → List Char → Option (List RawAttribute × Bool × List Char)
  | 0, _ => none
  | fuel + 1, cs =>
    match dropSpaces cs with
    | '/' :: '>' :: rest => some ([], true, rest)
    | '>' :: rest => some ([], false, rest)
    | after =>
      if (cs.head?.map isSpace).getD false then do
        let (a, rest) ← takeAttribute? after
        let (more, empty, rest) ← takeAttributes? fuel rest
        return (a :: more, empty, rest)
      else none

/-! ## Tokens -/

/-- Read a start tag behind its `<`. -/
def takeStartTag? (cs : List Char) : Option (Token × List Char) := do
  let (name, rest) ← takeName? cs
  let (attributes, empty, rest) ← takeAttributes? (rest.length + 1) rest
  return (.startTag name attributes empty, rest)

/-- Read an end tag behind its `</`. -/
def takeEndTag? (cs : List Char) : Option (Token × List Char) := do
  let (name, rest) ← takeName? cs
  match dropSpaces rest with
  | '>' :: rest => return (.endTag name, rest)
  | _ => none

/-- Read a comment behind its `<!--`: two hyphens in a row only end it. -/
def takeComment? (cs : List Char) : Option (Token × List Char) := do
  let (body, rest) ← splitAt? ['-', '-', '>'] cs
  if holds ['-', '-'] (body ++ ['-']) then none else return (.aside, rest)

/-- Read a processing instruction behind its `<?`. Its target is a name; an XML declaration is
no processing instruction. -/
def takeInstruction? (cs : List Char) : Option (Token × List Char) :=
  if "xml ".toList.isPrefixOf cs || !(cs.head?.map isNameStart).getD false then none
  else (splitAt? ['?', '>'] (dropSpaces (cs.dropWhile isNameChar))).map fun p => (.aside, p.2)

/-- Read character data up to the next `<`, with its references; `]]>` may not occur in it. -/
def takeText? (cs : List Char) : Option (Token × List Char) :=
  let (body, rest) := cs.span (· ≠ '<')
  if !body.all isXmlChar || holds [']', ']', '>'] body then none
  else if body.all isSpace then some (.space, rest)
  else (resolve? none body).map fun _ => (.text, rest)

/-- Read the next token. -/
def take? (cs : List Char) : Option (Token × List Char) :=
  match cs with
  | '<' :: '!' :: '-' :: '-' :: rest => takeComment? rest
  | '<' :: '!' :: rest =>
    let mark := "[CDATA[".toList
    if mark.isPrefixOf rest then
      (splitAt? [']', ']', '>'] (rest.drop mark.length)).map fun p => (.text, p.2)
    else none
  | '<' :: '?' :: rest => takeInstruction? rest
  | '<' :: '/' :: rest => takeEndTag? rest
  | '<' :: rest => takeStartTag? rest
  | _ => takeText? cs

/-- Read a text as tokens, at most `fuel` of them. -/
def takeAll? : Nat → List Char → Option (List Token)
  | _, [] => some []
  | 0, _ => none
  | fuel + 1, cs => do
    let (token, rest) ← take? cs
    return token :: (← takeAll? fuel rest)

/-! ## The XML declaration -/

/-- Read an attribute of the XML declaration if it has the given name, and the white space that
must follow unless the declaration ends. -/
def takePseudoAttribute? (name : String) (cs : List Char) : Option (List Char) :=
  if name.toList.isPrefixOf cs then do
    let (_, _, rest) ← takeSetting? cs
    let ends := "?>".toList.isPrefixOf rest || rest.isEmpty
    if ends || (rest.head?.map isSpace).getD false then return dropSpaces rest else none
  else none

/-- Drop the XML declaration, behind its `<?xml `: a version, then perhaps an encoding and a
statement on standing alone. -/
def dropDeclaration? (cs : List Char) : Option (List Char) := do
  let rest ← takePseudoAttribute? "version" (dropSpaces cs)
  let rest := (takePseudoAttribute? "encoding" rest).getD rest
  let rest := match takeSetting? rest with
    | some (_, _, after) => if "standalone".toList.isPrefixOf rest then dropSpaces after else rest
    | none => rest
  match rest with
  | '?' :: '>' :: rest => return rest
  | _ => none

/-- The tokens of a document, by `takeAll?`: a byte order mark and an XML declaration may come
first. -/
def ofText? (s : String) : Option (List Token) := do
  let cs := match s.toList with
    | '\uFEFF' :: rest => rest
    | cs => cs
  let mark := "<?xml ".toList
  let body ← if mark.isPrefixOf cs then dropDeclaration? (cs.drop mark.length) else some cs
  takeAll? body.length body

end Token

end RoadNet.Xml
