import Extraction.Selector.Direction
import Extraction.Selector.Form
import Extraction.Selector.Reader
import Extraction.Text.Fold

/-!
# Matching selectors

Whether a selector holds for an element depends on the place of the element and on where the search
began. Names of hypertext are compared without the case of ASCII letters, and other names exactly.
Asking whether the value of a control lies within its bounds may end in a fault; conditions are
asked in the order in which they are written, and none after the first that does not hold.

## Main definitions

* `Selector.AttributeTest.holds` : whether a value satisfies a test.
* `Selector.Alternative.holds`, `Selector.Condition.holds` : whether an element satisfies them.
* `Selector.select` : the elements in a place for which a selector holds.
-/

namespace Extraction.Selector

open Text Markup

/-- Whether two texts are equal, with or without case. -/
def sameText (folded : Bool) : List Char → List Char → Bool
  | [], [] => true
  | a :: as, b :: bs => (if folded then agrees a b else a == b) && sameText folded as bs
  | _, _ => false

/-- Whether a text begins with another. -/
def beginsWith (folded : Bool) (value s : List Char) : Bool :=
  sameText folded value (s.take value.length)

/-- Whether a text ends with another; a line break at its end may be left out. -/
def endsWith (folded : Bool) (value s : List Char) : Bool :=
  let ends (t : List Char) : Bool :=
    value.length ≤ t.length && sameText folded value (t.drop (t.length - value.length))
  ends s || (s.getLast? == some '\n' && ends s.dropLast)

/-- Whether a text is another; a line break at its end may be left out. -/
def equalsText (folded : Bool) (value s : List Char) : Bool :=
  sameText folded value s || (s.getLast? == some '\n' && sameText folded value s.dropLast)

/-- Whether a text has another as a part. -/
def hasText (folded : Bool) (value : List Char) : List Char → Bool
  | [] => value.isEmpty
  | c :: rest => beginsWith folded value (c :: rest) || hasText folded value rest

/-- The words of a text between the blanks of selectors. -/
def wordsOf (s : List Char) : List (List Char) :=
  (s.splitBy fun a b => isSpace a == isSpace b).filter fun w => !(w.head?.any isSpace)

/-- Whether a value satisfies a test. -/
def AttributeTest.holds (folded : Bool) (value : List Char) : AttributeTest → Bool
  | .present => true
  | .equals v => equalsText folded v value
  | .begins v => beginsWith folded v value
  | .ends v => endsWith folded v value
  | .contains v => hasText folded v value
  | .word v => !v.isEmpty && !v.any isSpace && (wordsOf value).any (sameText folded v)
  | .dashed v =>
    equalsText folded v value || beginsWith folded (v ++ ['-']) value

/-- The attribute of an element that a qualifier and a name mean. -/
def findAttribute? (c : Context) (t : Tag) (qualifier name : String) : Option String :=
  let plain := t.attributes.find? fun a => c.nameKey a.name == c.nameKey name
  if c.hasSpaces then
    if qualifier.isEmpty then plain.map Attribute.value
    else
      match c.spaces.lookup qualifier with
      | none => if qualifier = "*" then plain.map Attribute.value else none
      | some space =>
        (t.attributes.find? fun a =>
          match a.space with
          | some (uri, localName) =>
            (uri == space || qualifier == "*") && c.nameKey localName == c.nameKey name
          | none => false).map Attribute.value
  else
    (t.attributes.find? fun a => asciiLowerString a.name == asciiLowerString name).map
      Attribute.value

/-- Whether an element has a name, in the namespace of a qualifier. -/
def nameHolds (c : Context) (t : Tag) (qualifier : Option String) (name : String) : Bool :=
  let space := c.spaceOf t
  let inSpace :=
    match qualifier with
    | none => true
    | some "" => space.isEmpty
    | some "*" => true
    | some q => c.spaces.lookup q == some space
  inSpace && (name == "*" || c.nameKey name == c.nameKey t.name)

/-- Whether a node leaves an element empty: an aside, or a text of nothing but blanks. -/
def isEmptyNode (blank : Char → Bool) : Node → Bool
  | .text kind s => !kind.isContent || s.all blank
  | .element .. => false

/-- Whether a node keeps an element at the top from being the root. -/
def leavesRoot : Node → Bool
  | .text .cdata _ => false
  | n => isEmptyNode isBlank n

/-- Whether an element is the root of its document: the first element at the top, with nothing but
blanks and asides around it. An element right in a frame is one, too. -/
def isTop (c : Context) (p : Place) : Bool :=
  isFirst c p && p.nodesBefore.all leavesRoot && p.nodesAfter.all leavesRoot

/-- Whether the name of an element is not one that a writer has made up: those have a hyphen. -/
def isDefined (c : Context) (t : Tag) : Bool :=
  let name := (c.nameKey t.name).toList
  !name.contains '-' || name.contains ':' || t.qualifier.isSome

/-- Whether two elements have the same name. -/
def sameName (c : Context) (p q : Place) : Bool :=
  c.nameKey p.name == c.nameKey q.name && c.spaceOf p.tag == c.spaceOf q.tag

mutual

/-- The content of a node without that of frames. -/
def contentText (c : Context) : Node → List Char
  | .text kind s => if kind.isContent then s else []
  | .element t children => if isFrame c t then [] else contentTexts c children

/-- The content of several nodes without that of frames. -/
def contentTexts (c : Context) : List Node → List Char
  | [] => []
  | n :: rest => contentText c n ++ contentTexts c rest

end

/-- The texts of an element for the search of their parts: each text right in it, or all that is in
it as one. -/
def contentOf (own : Bool) (c : Context) (p : Place) : List (List Char) :=
  if !own then [contentText c p.node]
  else if isFrame c p.tag then []
  else p.node.children.filterMap Node.content?

/-- Whether a range of languages holds for a language, part by part. A part of the language that the
range does not name may stand between others, unless it is a single character. -/
def rangeHolds : List String → List String → Bool
  | [], _ => true
  | _, [] => false
  | r :: rs, s :: ss =>
    if r.isEmpty then false
    else if r == s then rangeHolds rs ss
    else if s.length == 1 then false
    else rangeHolds (r :: rs) ss

/-- The parts of a range of languages, without the stars between others, which mean nothing. Stars
at the end are an empty part, for which no language has anything. -/
def rangeParts (range : String) : List String :=
  let parts := (splitOn ['-'] (lower range.toList)).map String.ofList
  match parts with
  | [] => []
  | first :: rest =>
    first :: rest.filter (· ≠ "*") ++ (if rest.getLast? = some "*" then [""] else [])

/-- Whether a range of languages holds for a language. -/
def languageHolds (range language : String) : Bool :=
  let subtags := (splitOn ['-'] (lower language.toList)).map String.ofList
  match rangeParts range, subtags with
  | [""], [""] => true
  | r :: rs, s :: ss =>
    (if r == "*" then !(ss.isEmpty && s.isEmpty) else r == s) && rangeHolds rs ss
  | _, _ => false

/-- The namespace of the attributes that belong to every dialect. -/
def generalSpace : String := "http://www.w3.org/XML/1998/namespace"

/-- The language that an element declares for itself. -/
def declaredLanguage? (c : Context) (t : Tag) : Option String :=
  let hyper := c.spaceOf t == hypertextSpace
  (t.attributes.find? fun a =>
    (hyper && c.nameKey a.name == "lang") ||
      (c.hasSpaces && !hyper && a.space == some (generalSpace, "lang"))).map Attribute.value

/-- The language that the head of a document of hypertext declares. -/
def headLanguage? (c : Context) (d : Document) : Option String := do
  let find (p : Place) (name : String) : Option Place :=
    p.elements.find? fun q => c.nameKey q.name == name
  let html ← find (.root d) "html"
  let head ← find html "head"
  let declares (p : Place) : Bool :=
    c.nameKey p.name == "meta" &&
      (attributeOf? c p.tag "http-equiv").any (asciiLowerString · == "content-language")
  (head.elements.filter declares).findSome? fun p =>
    match attributeOf? c p.tag "content" with
    | some "" | none => none
    | found => found

/-- The language of an element: the one that it or the nearest element around it declares, or else
the one of the head of the document. -/
def languageOf? (c : Context) (p : Place) : Option String :=
  match (p :: p.ancestors).findSome? fun q =>
      match declaredLanguage? c q.tag with
      | some "" | none => none
      | found => found with
  | some language => some language
  | none =>
    match (p :: p.ancestors).findSome? fun q => declaredLanguage? c q.tag with
    | some language => some language
    | none => if c.dialect == .hypertext then headLanguage? c p.document else none

mutual

/-- Whether an element satisfies an alternative. -/
def Alternative.holds : Alternative → Context → Place → Except Fault Bool
  | .void, _, _ => return false
  | .all conditions, c, p => allHold conditions c p
  | .related conditions relation other, c, p => do
    if ← allHold conditions c p then
      match relation with
      | .ancestor => p.ancestors.anyM (other.holds c)
      | .parent => p.parent?.toList.anyM (other.holds c)
      | .earlierSibling => p.earlier.anyM (other.holds c)
      | .previousSibling => p.earlier.head?.toList.anyM (other.holds c)
      | .descendant => p.descendants.anyM (other.holds c)
      | .child => p.elements.anyM (other.holds c)
      | .laterSibling => p.later.anyM (other.holds c)
      | .nextSibling => p.later.head?.toList.anyM (other.holds c)
    else return false

/-- Whether an element satisfies some of several alternatives. -/
def someHolds : List Alternative → Context → Place → Except Fault Bool
  | [], _, _ => return false
  | a :: rest, c, p => do if ← a.holds c p then return true else someHolds rest c p

/-- Whether an element satisfies a condition. -/
def Condition.holds : Condition → Context → Place → Except Fault Bool
  | .name qualifier name, c, p => return nameHolds c p.tag qualifier name
  | .id value, c, p => return (attributeOf? c p.tag "id").getD "" == value
  | .className value, c, p =>
    return (wordsOf ((attributeOf? c p.tag "class").getD "").toList).contains value.toList
  | .hasAttribute qualifier name test casing, c, p =>
    match findAttribute? c p.tag qualifier name with
    | none => return false
    | some value =>
      let folded :=
        match casing with
        | .exact => false
        | .folded => true
        | .dialect => c.dialect == .hypertext
      return test.holds folded value.toList
  | .root, c, p => return isTop c p
  | .scope, c, p => return c.scope.any (·.same p)
  | .empty, c, p => return isFrame c p.tag || p.node.children.all (isEmptyNode isSpace)
  | .nth step fromLast among, c, p => do
    let counted := fun (q : Place) =>
      if among.isEmpty then return true else someHolds among c q
    if ← counted p then
      let siblings ← (if fromLast then p.later else p.earlier).filterM counted
      return step.holds (siblings.length + 1)
    else return false
  | .nthOfType step fromLast, c, p =>
    let siblings := if fromLast then p.later else p.earlier
    return step.holds ((siblings.filter (sameName c p)).length + 1)
  | .anyOf alternatives, c, p => someHolds alternatives c p
  | .noneOf alternatives, c, p => return !(← someHolds alternatives c p)
  | .inHypertext alternatives, c, p =>
    if c.isHypertext then
      someHolds alternatives { c with spaces := [("html", hypertextSpace)] } p
    else return false
  | .contains own parts, c, p =>
    return parts.any fun part => (contentOf own c p).any (hasPart part.toList)
  | .language ranges, c, p =>
    match languageOf? c p with
    | some language => return ranges.any fun range => languageHolds range language
    | none => return false
  | .direction d, c, p => return directionOf? c p == some d
  | .defined, c, p => return isDefined c p.tag
  | .formDefault, c, p => return isFormDefault c p
  | .undecided, c, p => return isUndecided c p
  | .bounded within, c, p => return (← (isWithinBounds c p).run) == some within
  | .unfilled, _, p => return [[], ['\n']].contains (p.node.texts TextKind.isContent)

/-- Whether an element satisfies all of several conditions. -/
def allHold : List Condition → Context → Place → Except Fault Bool
  | [], _, _ => return true
  | condition :: rest, c, p => do
    if ← condition.holds c p then allHold rest c p else return false

end

/-- The elements in a place for which a selector holds, in the order of the document. -/
def select (s : List Char) (p : Place) : Except Problem (List Place) := do
  let alternatives ← read s
  let c := Context.ofPlace p
  (p.descendants.filterM (someHolds alternatives c)).mapError .fault

end Extraction.Selector
