import Extraction.Markup.Tree

/-!
# Writing markup

A tree is written with its attributes in the order of their names, and characters that would be
read as markup become references. The encoding that a document of hypertext declares for itself is
written as the one in which it is written.

## Main definitions

* `Markup.escape` : a text with references for the characters of markup.
* `Markup.quotedValue` : the value of an attribute in quotes.
* `Markup.Node.write`, `Markup.Document.write` : nodes and documents as texts.
-/

namespace Extraction.Markup

open Text

/-- A text with references for the characters of markup. -/
def escape : List Char → List Char
  | [] => []
  | '&' :: rest => "&amp;".toList ++ escape rest
  | '<' :: rest => "&lt;".toList ++ escape rest
  | '>' :: rest => "&gt;".toList ++ escape rest
  | c :: rest => c :: escape rest

/-- The value of an attribute in quotes: in double ones, unless it holds such and no single ones. -/
def quotedValue (s : List Char) : List Char :=
  let escaped := escape s
  if escaped.contains '"' then
    if escaped.contains '\'' then '"' :: replaceAll ['"'] "&quot;".toList escaped ++ ['"']
    else '\'' :: escaped ++ ['\'']
  else '"' :: escaped ++ ['"']

/-- The encoding in which documents are written. -/
def writtenCharset : List Char := "utf-8".toList

/-- A declaration of content with the name of every encoding in it replaced. A name stands after
`charset=` at the start, after a blank or after a semicolon, and runs to the next semicolon. -/
def replaceCharset (mayBegin : Bool) (s : List Char) : List Char :=
  match s with
  | [] => []
  | c :: rest =>
    match _h : if mayBegin then afterLead? "charset=".toList (c :: rest) else none with
    | some after =>
      "charset=".toList ++ writtenCharset ++ replaceCharset true (after.dropWhile (· ≠ ';'))
    | none => c :: replaceCharset (isBlank c || c = ';') rest
termination_by s.length
decreasing_by
  · split at _h
    · have h1 := congrArg List.length (afterLead?_eq_some.1 _h)
      have h2 := (List.dropWhile_suffix (fun c : Char => decide (c ≠ ';')) (l := after)).length_le
      simp only [List.length_cons, List.length_append] at *
      have : "charset=".toList.length = 8 := by decide
      omega
    · simp at _h
  · simp

/-- The value of an attribute as it is written: the encoding that hypertext declares is replaced. -/
def writtenValue (d : Dialect) (t : Tag) (a : Attribute) : List Char :=
  if d == .hypertext && t.name == "meta" then
    match t.get? "charset" with
    | some _ => if a.name == "charset" then writtenCharset else a.value.toList
    | none =>
      if a.name == "content" && (t.get? "http-equiv").any (asciiLower · == "content-type") then
        replaceCharset true a.value.toList
      else a.value.toList
  else a.value.toList
where
  /-- A text with its ASCII letters lowered. -/
  asciiLower (s : String) : String := s.map Char.toLower

/-- Whether an attribute comes before another. -/
def Attribute.before (a b : Attribute) : Bool :=
  decide (a.name < b.name)

/-- The attributes of a tag in the order of their names. -/
def Tag.sorted (t : Tag) : List Attribute :=
  t.attributes.mergeSort fun a b => !b.before a

/-- The attributes of a tag as they are written. -/
def writtenAttributes (d : Dialect) (t : Tag) : List Char :=
  t.sorted.flatMap fun a =>
    ' ' :: a.name.toList ++ '=' :: quotedValue (writtenValue d t a)

/-- The name of a tag with its qualifier. -/
def Tag.fullName (t : Tag) : List Char :=
  match t.qualifier with
  | some q => if q.isEmpty then t.name.toList else q.toList ++ ':' :: t.name.toList
  | none => t.name.toList

/-- A text that is no content, with the signs around it. -/
def writeAside (kind : TextKind) (s : List Char) : List Char :=
  match kind with
  | .comment => "<!--".toList ++ s ++ "-->".toList
  | .cdata => "<![CDATA[".toList ++ s ++ "]]>".toList
  | .instruction => "<?".toList ++ s ++ ">".toList
  | .closedInstruction | .declaration => "<?".toList ++ s ++ "?>".toList
  | .doctype => "<!DOCTYPE ".toList ++ s ++ ">\n".toList
  | _ => s

mutual

/-- A node as a text, inside an element of the given name. -/
def Node.write (d : Dialect) (parent : String) : Node → List Char
  | .text kind s =>
    if kind.isContent then if d.isVerbatim parent then s else escape s
    else writeAside kind s
  | .element t children =>
    if children.isEmpty && d.mayBeVoid t.name then
      '<' :: t.fullName ++ writtenAttributes d t ++ "/>".toList
    else
      '<' :: t.fullName ++ writtenAttributes d t ++ '>' :: writeNodes d t.name children ++
        "</".toList ++ t.fullName ++ ['>']

/-- Several nodes as a text, inside an element of the given name. -/
def writeNodes (d : Dialect) (parent : String) : List Node → List Char
  | [] => []
  | n :: rest => n.write d parent ++ writeNodes d parent rest

end

/-- What stands before a document: in the general dialect, its declaration. -/
def declaration : Dialect → List Char
  | .hypertext => []
  | .general => "<?xml version=\"1.0\" encoding=\"utf-8\"?>\n".toList

/-- A document as a text. -/
def Document.write (d : Document) : List Char :=
  declaration d.dialect ++ writeNodes d.dialect rootName d.children

end Extraction.Markup
