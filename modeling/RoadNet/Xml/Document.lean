import RoadNet.Xml.Token

/-!
# RoadNet.Xml.Document

An XML document as a tree of elements. Namespaces are checked, and then only local names are
kept, those of elements as well as those of attributes.
-/

namespace RoadNet.Xml

/-- An element: its local name, its attributes by their local names, in order and without
namespace declarations, and its child elements. -/
structure Element where
  name : String
  attributes : List (String × String)
  children : List Element

namespace Element

/-- The value of the first attribute called `name`. -/
def attribute? (e : Element) (name : String) : Option String := e.attributes.lookup name

/-- The child elements called `name`, in order. -/
def childrenNamed (e : Element) (name : String) : List Element :=
  e.children.filter fun c => c.name = name

/-- The element reached through child positions. -/
def descend? : List Nat → Element → Option Element
  | [], e => some e
  | i :: path, e => e.children[i]?.bind (descend? path)

end Element

/-! ## Namespaces -/

/-- The namespace bound to the name `xml`. -/
def xmlNamespace : String := "http://www.w3.org/XML/1998/namespace"

/-- The namespace of namespace declarations. -/
def xmlnsNamespace : String := "http://www.w3.org/2000/xmlns/"

/-- The `Bindings` of namespace names in force; empty text is the default namespace. -/
abbrev Bindings := List (String × String)

/-- The bindings that the attributes of a tag declare, unless one of them is not allowed: the
name `xml` and its namespace belong together, and a name is declared once. -/
def declared? : Bindings → List RawAttribute → Option Bindings
  | seen, [] => some seen
  | seen, a :: rest =>
    if a.name.space = "xmlns" then
      if a.value = xmlnsNamespace || (a.name.name == "xml") != (a.value == xmlNamespace) ||
          (seen.lookup a.name.name).isSome then none
      else if a.value = xmlNamespace then declared? seen rest
      else declared? ((a.name.name, a.value) :: seen) rest
    else if a.name.name = "xmlns" then
      if a.value = xmlnsNamespace || a.value = xmlNamespace then none
      else declared? (("", a.value) :: seen) rest
    else declared? seen rest

/-- Whether an attribute declares a namespace. -/
def isDeclaration (a : RawAttribute) : Bool := a.name.space = "xmlns" || a.name.name = "xmlns"

/-- The namespace and local name of an attribute; without a namespace name it has none. -/
def expandedName? (bindings : Bindings) (n : QName) : Option (Option String × String) :=
  if n.space = "" then some (none, n.name)
  else if n.space = "xml" then some (some xmlNamespace, n.name)
  else (bindings.lookup n.space).map fun uri => (some uri, n.name)

/-! ## Trees -/

/-- A start tag whose end tag is still to come. -/
structure OpenTag where
  name : QName
  bindings : Bindings
  attributes : List (String × String)
  /-- The children read so far, last first. -/
  children : List Element

namespace OpenTag

/-- Open a start tag below the bindings `outer`. Every namespace name must be bound, and no two
attributes may have one `expandedName?`. -/
def ofTag? (outer : Bindings) (name : QName) (attributes : List RawAttribute) :
    Option OpenTag := do
  if name.space = "xmlns" then none
  let own ← declared? [] attributes
  let bindings := own ++ outer
  if name.space ≠ "" && (bindings.lookup name.space).isNone then none
  let plain := attributes.filter fun a => !isDeclaration a
  let names ← plain.mapM fun a => expandedName? bindings a.name
  if names.eraseDups.length ≠ names.length then none
  return ⟨name, bindings, plain.map fun a => (a.name.name, a.value), []⟩

/-- The element of a tag that is closed. -/
def close (t : OpenTag) : Element := ⟨t.name.name, t.attributes, t.children.reverse⟩

end OpenTag

namespace Element

/-- Put a finished element where it belongs: below the innermost open tag, or at the root. -/
def place? (e : Element) : List OpenTag → Option Element → Option (List OpenTag × Option Element)
  | [], none => some ([], some e)
  | [], some _ => none
  | t :: rest, root => some ({ t with children := e :: t.children } :: rest, root)

/-- Build the tree of a token list below the open tags, putting elements with `place?`. Outside of
the root there is white space at most. -/
def build? : List OpenTag → Option Element → List Token → Option Element
  | [], root, [] => root
  | _ :: _, _, [] => none
  | open_, root, .aside :: rest => build? open_ root rest
  | open_, root, .space :: rest => build? open_ root rest
  | open_, root, .text :: rest => if open_.isEmpty then none else build? open_ root rest
  | open_, root, .startTag name attributes empty :: rest => do
    let outer := (open_.head?.map OpenTag.bindings).getD []
    let tag ← OpenTag.ofTag? outer name attributes
    if empty then
      let (open_, root) ← place? tag.close open_ root
      build? open_ root rest
    else if open_.isEmpty && root.isSome then none
    else build? (tag :: open_) root rest
  | open_, root, .endTag name :: rest =>
    match open_ with
    | tag :: outer =>
      if tag.name = name then do
        let (open_, root) ← place? tag.close outer root
        build? open_ root rest
      else none
    | [] => none

/-- Read the root element of a document, by `Token.ofText?` and `build?`. -/
def parse? (s : String) : Option Element := (Token.ofText? s).bind (build? [] none)

end Element

end RoadNet.Xml
