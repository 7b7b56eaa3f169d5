import Extraction.Markup.Standard.Modes

/-!
# Reading hypertext as browsers do

The text is cut into tokens, and every token changes the document by the rule of the mode. A token
may change the mode several times before a rule is done with it.

## Main definitions

* `Markup.Standard.step` : what a token does.
* `Markup.Standard.document` : the document of a text.
-/

namespace Extraction.Markup.Standard

/-- Whether a token in a drawing or a formula is read by the rules of hypertext. -/
def isPlainHere (st : State) : Token → Bool
  | .start name _ _ =>
    let t := st.tag st.current
    isAtHypertext st || holdsHypertext t ||
      (isFormulaText t && name != "mglyph" && name != "malignmark") ||
      (t.space == some formulaSpace && t.name == "annotation-xml" && name == "svg")
  | .text _ | .blanks _ =>
    let t := st.tag st.current
    isAtHypertext st || holdsHypertext t || isFormulaText t
  | _ => isAtHypertext st

/-- What a token does in a drawing or a formula. -/
def foreignRule (st : State) : Token → Outcome
  | .text s =>
    if s == ['\x00'] then done (st.insertText [unreadable])
    else done (if s.all isSpace then st.insertText s else st.forbidFrames.insertText s)
  | .blanks s => done (st.insertText s)
  | .start name as closes => foreignStart st name as closes
  | .stop name => foreignStop st name
  | .comment s => done (st.insertComment st.current s)
  | .doctype .. => done st

/-- What a token does by the rules of hypertext. -/
def plainRule (st : State) : Token → Outcome
  | .text s => textRule st s
  | .blanks s => done (blanksRule st s)
  | .start name as closes => startRule st name as closes
  | .stop name => stopRule st name
  | .comment s => commentRule st s
  | .doctype value old => doctypeRule st value old

/-- What a token does: `fuel` bounds how often it is read again. -/
def step : Nat → State → Token → State
  | 0, st, _ => st
  | fuel + 1, st, token =>
    let o := if isPlainHere st token then plainRule st token else foreignRule st token
    if o.again then step fuel o.state token else o.state

/-- The end of the text: `fuel` bounds how often it is met again. -/
def finish : Nat → State → State
  | 0, st => st
  | fuel + 1, st =>
    let o := endRule st
    if o.again then finish fuel o.state else o.state

/-- How often a token may be read again: for every open element and for every mode. -/
def patience (st : State) : Nat :=
  st.stack.length + 32

/-- The state after a text: `fuel` bounds the number of tokens. -/
def run : Nat → State → List Char → Except Fault State
  | 0, st, _ => return st
  | _, st, [] => return st
  | fuel + 1, st, s => do
    let (tokens, rest) ← readToken st.lexing (!isAtHypertext st) s
    let st := { st with lexing := if st.lexing == .nothing then .nothing else .markup }
    run fuel (tokens.foldl (fun st t => step (patience st) st t) st) rest

/-- Line ends of two characters become one character. -/
def joinLines : List Char → List Char
  | '\r' :: '\n' :: rest => '\n' :: joinLines rest
  | '\r' :: rest => '\n' :: joinLines rest
  | c :: rest => c :: joinLines rest
  | [] => []

/-- The document of a text. -/
def document (s : List Char) : Except Fault Document := do
  let s := joinLines s
  let st ← run (2 * s.length + 2) {} s
  let st := finish (patience st) st
  return ⟨.hypertext, st.forest.nodes, []⟩

end Extraction.Markup.Standard
