import Extraction.Markup.Character
import Extraction.Markup.Event
import Extraction.Text.Ranges

/-!
# The reader of the general dialect

In the general dialect names mean nothing, every element is closed, and there is one element at the
top. Names may have a qualifier that stands for a namespace; it counts in the element that declares
it and in all elements there. What is not well formed is mended where that is easy: a reference to
nothing is dropped, a closing tag closes the innermost element whatever its name is. Where a tag has
no name, or something else than asides follows the element at the top, the reading ends.

## Main definitions

* `Markup.General.Frame` : an open element with the namespaces that are declared there.
* `Markup.General.readTag` : the parts of an opening tag.
* `Markup.General.events` : the events of a text.
* `Markup.General.document` : its document.
-/

namespace Extraction.Markup.General

open Text

/-- The characters with which a name may begin, apart from the colon. -/
def nameStarts : Ranges := ⟨
  [(0x41, 0x5A), (0x5F, 0x5F), (0x61, 0x7A), (0xC0, 0xD6), (0xD8, 0xF6), (0xF8, 0x2FF),
    (0x370, 0x37D), (0x37F, 0x1FFF), (0x200C, 0x200D), (0x2070, 0x218F), (0x2C00, 0x2FEF),
    (0x3001, 0xD7FF), (0xF900, 0xFDCF), (0xFDF0, 0xFFFD), (0x10000, 0xEFFFF)]⟩

/-- The other characters of names, apart from the colon. -/
def nameOthers : Ranges := ⟨
  [(0x2D, 0x2E), (0x30, 0x39), (0xB7, 0xB7), (0x300, 0x36F), (0x203F, 0x2040)]⟩

/-- Whether a name may begin with a character. -/
def startsName (c : Char) : Bool :=
  nameStarts.contains c || c = ':'

/-- Whether a name may have a character. -/
def isNameChar (c : Char) : Bool :=
  startsName c || nameOthers.contains c

/-- Whether a character is a blank of this dialect. -/
def isSpace (c : Char) : Bool :=
  [' ', '\n', '\t', '\r'].contains c

/-- The name at the start of a text, and what follows it. -/
def readName? (s : List Char) : Option (List Char × List Char) :=
  match s with
  | [] => none
  | c :: _ =>
    if startsName c then some (s.takeWhile isNameChar, s.dropWhile isNameChar) else none

/-- The qualifier of a name, if it has one, and the name itself. -/
def splitName (name : List Char) : Option String × String :=
  match cut? [':'] name with
  | some (q, rest) =>
    if q.isEmpty || rest.isEmpty then (none, String.ofList name)
    else (some (String.ofList q), String.ofList rest)
  | none => (none, String.ofList name)

/-- The characters that have names of their own in this dialect. -/
def ownNames : List (String × Char) :=
  [("lt", '<'), ("gt", '>'), ("amp", '&'), ("quot", '"'), ("apos", '\'')]

/-- The characters of the reference after an ampersand, and what follows it. A reference that means
nothing has no characters. -/
def readReference (s : List Char) : List Char × List Char :=
  match s with
  | '#' :: rest =>
    match readNumeral? rest with
    | some (n, true, after) =>
      (if n.value ≠ 0 && isCodePoint n.value then [Char.ofNat n.value] else [], after)
    | some (_, false, after) => ([], after)
    | none => ([], rest)
  | _ =>
    match readName? s with
    | none => ([], s)
    | some (name, rest) =>
      match rest with
      | ';' :: after =>
        ((ownNames.lookup (String.ofList name)).toList, after)
      | _ => ([], rest)

/-- A text with its references replaced, where `plain` is what other characters become: `fuel`
bounds its length. -/
def expand (plain : Char → Char) : Nat → List Char → List Char
  | 0, _ => []
  | _, [] => []
  | fuel + 1, '&' :: rest =>
    let (cs, after) := readReference rest
    cs ++ expand plain fuel after
  | fuel + 1, c :: rest => plain c :: expand plain fuel rest

/-- Line ends of two characters become one character. -/
def joinLines : List Char → List Char
  | '\r' :: '\n' :: rest => '\n' :: joinLines rest
  | '\r' :: rest => '\n' :: joinLines rest
  | c :: rest => c :: joinLines rest
  | [] => []

/-- The value of an attribute: its references are replaced, and its blanks are spaces. -/
def valueOf (s : List Char) : String :=
  String.ofList (expand (fun c => if isSpace c then ' ' else c) s.length s)

/-- The attribute at the start of a text, and what follows it: nothing if it is not well formed. -/
def readAttribute? (s : List Char) : Option ((List Char × String) × List Char) :=
  match readName? s with
  | none => none
  | some (name, rest) =>
    match rest.dropWhile isSpace with
    | '=' :: rest =>
      match rest.dropWhile isSpace with
      | c :: body =>
        if c = '"' || c = '\'' then
          match body.dropWhile (· ≠ c) with
          | _ :: after => some ((name, valueOf (body.takeWhile (· ≠ c))), after)
          | [] => none
        else none
      | [] => none
    | _ => none

/-- The attributes at the start of a text, and what follows them: `fuel` bounds their number. There
are blanks before every one of them. -/
def readAttributes : Nat → List Char → List (List Char × String) × List Char
  | 0, s => ([], s)
  | fuel + 1, s =>
    match s with
    | [] => ([], [])
    | c :: _ =>
      let rest := s.dropWhile isSpace
      if !isSpace c then ([], s)
      else
        match readAttribute? rest with
        | none => ([], rest)
        | some (a, after) =>
          let (more, tail) := readAttributes fuel after
          (a :: more, tail)

/-- The parts of an opening tag. -/
structure RawTag where
  /-- The name. -/
  name : List Char
  /-- The attributes. -/
  attributes : List (List Char × String)
  /-- Whether the tag closes the element at once. -/
  closes : Bool
  deriving Repr

/-- The opening tag at the start of a text, after its bracket, and what follows it. -/
def readTag? (s : List Char) : Option (RawTag × List Char) :=
  match readName? s with
  | none => none
  | some (name, rest) =>
    let (attributes, tail) := readAttributes rest.length rest
    match tail with
    | '/' :: '>' :: after => some (⟨name, attributes, true⟩, after)
    | '>' :: after => some (⟨name, attributes, false⟩, after)
    | _ => some (⟨name, attributes, false⟩, tail)

/-- An open element with the namespaces that are declared there. -/
structure Frame where
  /-- The name without a qualifier. -/
  name : String
  /-- The qualifier that the element is given. -/
  qualifier : Option String
  /-- The namespaces that are declared at the element, by their qualifiers; the empty qualifier is
  that of names without one. -/
  declared : List (String × String)
  deriving Repr

/-- The namespace of the qualifier that every document has. -/
def ownSpace : String × String := ("xml", "http://www.w3.org/XML/1998/namespace")

/-- The namespace in which declarations of namespaces are. -/
def declarationSpace : String := "http://www.w3.org/2000/xmlns/"

/-- The namespace of a qualifier, looked for from the innermost element outwards. -/
def spaceOf? (frames : List Frame) (qualifier : String) : Option String :=
  match frames.findSome? fun f => f.declared.reverse.lookup qualifier with
  | some space => if space.isEmpty then none else some space
  | none => if qualifier == ownSpace.1 then some ownSpace.2 else none

/-- The qualifier of a namespace, looked for from the innermost element outwards. -/
def qualifierOf? (frames : List Frame) (space : String) : Option String :=
  let within := fun (declared : List (String × String)) =>
    (declared.reverse.find? fun d => d.2 == space).map Prod.fst
  (frames.findSome? fun f => within f.declared).or (within [ownSpace])

/-- The qualifiers that count in the innermost element, with their namespaces. -/
def activeSpaces (frames : List Frame) : List (String × String) :=
  let put := fun (known : List (String × String)) (d : String × String) =>
    if d.1.isEmpty then known
    else if (known.lookup d.1).isSome then
      known.map fun k => if k.1 == d.1 then d else k
    else known ++ [d]
  frames.reverse.foldl (fun known f => f.declared.foldl put known) [ownSpace]

/-- The qualifier that an attribute declares, if it declares one; the empty one is that of names
without a qualifier. -/
def declared? (name : List Char) : Option String :=
  match splitName name with
  | (none, "xmlns") => some ""
  | (some "xmlns", q) => some q
  | _ => none

/-- Attributes with one more: a name that is present takes the new value. -/
def put (as : List Attribute) (a : Attribute) : List Attribute :=
  if as.any fun b => b.name == a.name then
    as.map fun b => if b.name == a.name then a else b
  else as ++ [a]

/-- The attribute that is kept for one that declares no namespace. -/
def attributeOf (frames : List Frame) (name : List Char) (value : String) : Attribute :=
  match splitName name with
  | (none, own) => { name := own, value }
  | (some q, own) =>
    match spaceOf? frames q with
    | none => { name := own, value }
    | some space =>
      let shown := match qualifierOf? frames space with
        | some "" | none => own
        | some q => q ++ ":" ++ own
      { name := shown, value, space := some (space, own) }

/-- The attribute that is kept for one that declares a namespace. -/
def declarationOf (qualifier space : String) : Attribute :=
  { name := if qualifier.isEmpty then "xmlns" else "xmlns:" ++ qualifier
    value := space
    space := some (declarationSpace, if qualifier.isEmpty then "xmlns" else qualifier) }

/-- The tag that is kept for the parts of one, and the open elements with its element. -/
def openTag (frames : List Frame) (t : RawTag) : Tag × List Frame :=
  let declared := t.attributes.filterMap fun (name, value) =>
    (declared? name).map fun q => (q, value)
  let (q, name) := splitName t.name
  let inside := Frame.mk name none declared :: frames
  let space := spaceOf? inside (q.getD "")
  let qualifier := space.bind (qualifierOf? inside)
  let plain := t.attributes.filterMap fun (name, value) =>
    if (declared? name).isSome then none else some (attributeOf inside name value)
  let declarations := declared.map fun (q, value) => declarationOf q value
  ({ name, qualifier, space
     attributes := (plain ++ declarations).foldl put []
     spaces := activeSpaces inside },
    Frame.mk name qualifier declared :: frames)

/-- Whether a text in quotes begins here: the text and what follows. -/
def readQuoted? (s : List Char) : Option (List Char × List Char) :=
  match s with
  | c :: rest =>
    if c = '"' || c = '\'' then
      match rest.dropWhile (· ≠ c) with
      | _ :: after => some (rest.takeWhile (· ≠ c), after)
      | [] => none
    else none
  | [] => none

/-- The text of a declaration of the document's type, and what follows it; the text begins after
the keyword. -/
def readDoctype? (s : List Char) : Option (List Char × List Char) :=
  match readName? (s.dropWhile isSpace) with
  | none => none
  | some (name, rest) =>
    let body := rest.dropWhile isSpace
    let finish := fun (value t : List Char) => (close t).map fun after => (value, after)
    match afterLead? "PUBLIC".toList body, afterLead? "SYSTEM".toList body with
    | some tail, _ =>
      match readQuoted? (tail.dropWhile isSpace) with
      | none => finish name tail
      | some (shown, tail) =>
        let value := name ++ " PUBLIC \"".toList ++ shown ++ ['"']
        match readQuoted? (tail.dropWhile isSpace) with
        | none => finish value tail
        | some (system, tail) => finish (value ++ " \"".toList ++ system ++ ['"']) tail
    | none, some tail =>
      match readQuoted? (tail.dropWhile isSpace) with
      | none => finish name tail
      | some (system, tail) =>
        finish (name ++ " SYSTEM \"".toList ++ system ++ ['"']) tail
    | none, none => finish name body
where
  /-- What follows the end of the declaration, after the declarations in square brackets. -/
  close (s : List Char) : Option (List Char) :=
    let outside := s.dropWhile isSpace
    let after := match outside with
      | '[' :: inner => ((inner.dropWhile (· ≠ ']')).drop 1).dropWhile isSpace
      | _ => outside
    match after.dropWhile (· ≠ '>') with
    | _ :: rest => some rest
    | [] => none

/-- The text of a processing instruction, and what follows it; the text begins after its opening. -/
def readInstruction? (s : List Char) : Option (List Char × List Char) :=
  match readName? s with
  | none => none
  | some (name, rest) =>
    (cut? "?>".toList rest).map fun (body, after) =>
      (name ++ ' ' :: body.dropWhile isSpace, after)

/-- An aside at the start of a text, and what follows it. A declaration of the type is one only
before the first element. -/
def readAside? (beforeTop : Bool) (s : List Char) : Option (Event × List Char) :=
  match afterLead? "<!--".toList s, afterLead? "<?".toList s, afterLead? "<!DOCTYPE".toList s with
  | some body, _, _ =>
    (cut? "-->".toList body).map fun (body, after) => (.aside .comment body, after)
  | none, some body, _ =>
    (readInstruction? body).map fun (body, after) => (.aside .closedInstruction body, after)
  | none, none, some body =>
    if beforeTop then
      (readDoctype? body).map fun (body, after) => (.aside .doctype body, after)
    else none
  | none, none, none => none

/-- The events of what stands outside of the element at the top, and what follows the asides. -/
def asides (beforeTop : Bool) : Nat → List Char → List Event × List Char
  | 0, s => ([], s)
  | fuel + 1, s =>
    let s := s.dropWhile isSpace
    match readAside? beforeTop s with
    | none => ([], s)
    | some (e, rest) =>
      let (more, tail) := asides beforeTop fuel rest
      (e :: more, tail)

/-- The events of what stands in open elements: `fuel` bounds the steps. When the last of them is
closed, only asides follow. -/
def content : Nat → List Frame → List Char → List Event
  | 0, _, _ => []
  | _, [], s => (asides false s.length s).1
  | _, _, [] => []
  | fuel + 1, f :: frames, s =>
    match s with
    | [] => []
    | '<' :: '/' :: rest =>
      let after := (rest.dropWhile (· ≠ '>')).drop 1
      .closed f.name f.qualifier :: content fuel frames after
    | '<' :: rest =>
      match readAside? false s, afterLead? "<![CDATA[".toList s with
      | some (e, after), _ => e :: content fuel (f :: frames) after
      | none, some body =>
        match cut? "]]>".toList body with
        | some (text, after) => .chars text :: content fuel (f :: frames) after
        | none => []
      | none, none =>
        match readTag? rest with
        | none => []
        | some (t, after) =>
          let (tag, inside) := openTag (f :: frames) t
          if t.closes then
            .opened tag :: .closed tag.name tag.qualifier :: content fuel (f :: frames) after
          else .opened tag :: content fuel inside after
    | _ =>
      let text := s.takeWhile (· ≠ '<')
      .chars (expand id text.length text) :: content fuel (f :: frames) (s.dropWhile (· ≠ '<'))

/-- The events from the element at the top on. -/
def top (s : List Char) : List Event :=
  match s with
  | '<' :: rest =>
    match readTag? rest with
    | none => []
    | some (t, after) =>
      let (tag, inside) := openTag [] t
      if t.closes then
        .opened tag :: .closed tag.name tag.qualifier :: content after.length [] after
      else .opened tag :: content after.length inside after
  | _ => []

/-- What follows the declaration of the document at the start of a text, if there is one. -/
def afterDeclaration (s : List Char) : List Char :=
  match afterLead? "<?xml".toList s with
  | some (c :: rest) =>
    if isSpace c then
      match cut? "?>".toList rest with
      | some (_, after) => after
      | none => s
    else s
  | _ => s

/-- The events of a text. -/
def events (s : List Char) : List Event :=
  let s := afterDeclaration (joinLines s)
  let (before, rest) := asides true s.length s
  before ++ top rest

/-- The qualifiers of the tags in events with their namespaces; the first one of a qualifier
counts. -/
def spacesOf (es : List Event) : List (String × String) :=
  es.foldl (fun known e =>
    match e with
    | .opened t => t.spaces.foldl (fun known d =>
        if (known.lookup d.1).isSome then known else known ++ [d]) known
    | _ => known) [ownSpace]

/-- The document of a text. -/
def document (s : List Char) : Document :=
  let es := events s
  ⟨.general, treeOf .general es, spacesOf es⟩

end Extraction.Markup.General
