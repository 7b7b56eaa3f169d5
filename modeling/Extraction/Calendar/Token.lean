import Extraction.Text.Blank
import Extraction.Text.Word
import Extraction.Text.Case

/-!
# The tokens of a freely written date

A freely written date is cut into words, numbers, blanks and single signs. A run of letters and
dots, or of digits and dots, is read on as one; it is cut at its dots and commas afterwards, unless
it is a number with one decimal point.

## Main definitions

* `Calendar.tokens` : the tokens of a text.
-/

namespace Extraction.Calendar

open Text

/-- What a token that is being read consists of so far. -/
inductive TokenState where
  | letters
  | digits
  | lettersAndDots
  | digitsAndDots
  deriving DecidableEq, Repr

/-- What a token may go on with: the state after one more character, or nothing if it ends. The
token so far is given in reverse. -/
def TokenState.step (state : TokenState) (token : List Char) (c : Char) : Option TokenState :=
  match state with
  | .letters =>
    if isLetter c then some .letters else if c = '.' then some .lettersAndDots else none
  | .digits =>
    if isDigitLike c then some .digits
    else if c = '.' || (c = ',' && token.length ≥ 2) then some .digitsAndDots
    else none
  | .lettersAndDots =>
    if c = '.' || isLetter c then some .lettersAndDots
    else if isDigitLike c && token.head? = some '.' then some .digitsAndDots
    else none
  | .digitsAndDots =>
    if c = '.' || isDigitLike c then some .digitsAndDots
    else if isLetter c && token.head? = some '.' then some .lettersAndDots
    else none

/-- The rest of a token: its characters in reverse, the final state, whether it went on with
letters, and the text after it. -/
def readToken (state : TokenState) (seenLetters : Bool) (token : List Char) :
    List Char → List Char × TokenState × Bool × List Char
  | [] => (token, state, seenLetters, [])
  | c :: rest =>
    let seen := seenLetters || state = .letters || state = .lettersAndDots
    match state.step token c with
    | some next => readToken next seen (c :: token) rest
    | none => (token, state, seen, c :: rest)

theorem length_readToken (state : TokenState) (seen : Bool) (token s : List Char) :
    (readToken state seen token s).2.2.2.length ≤ s.length := by
  fun_induction readToken state seen token s with
  | case1 => exact Nat.le_refl _
  | case2 state seen token c rest seen' next hstep ih => exact Nat.le_succ_of_le ih
  | case3 => exact Nat.le_refl _

/-- A text cut at dots and commas, which become parts of their own. -/
def cutAtPoints (s : List Char) : List (List Char) :=
  match s with
  | [] => [[]]
  | c :: rest =>
    match cutAtPoints rest with
    | [] => [[c]]
    | part :: more =>
      if c = '.' || c = ',' then [] :: [c] :: part :: more else (c :: part) :: more

/-- The tokens that a token with dots or commas stands for. -/
def pointedTokens (state : TokenState) (seenLetters : Bool) (token : List Char) :
    List (List Char) :=
  let dotted := state = .lettersAndDots || state = .digitsAndDots
  let endsAtPoint := token.getLast? = some '.' || token.getLast? = some ','
  if dotted && (seenLetters || token.count '.' > 1 || endsAtPoint) then
    match cutAtPoints token with
    | [] => []
    | first :: more => first :: more.filter (!·.isEmpty)
  else if state = .digitsAndDots && token.count '.' = 0 then
    [token.map fun c => if c = ',' then '.' else c]
  else [token]

/-- The tokens of a text without null characters. -/
def tokensFrom (s : List Char) : List (List Char) :=
  match s with
  | [] => []
  | c :: rest =>
    let start? : Option TokenState :=
      if isLetter c then some .letters else if isDigitLike c then some .digits else none
    match start? with
    | none => [if isBlank c then ' ' else c] :: tokensFrom rest
    | some state =>
      let result := readToken state false [c] rest
      pointedTokens result.2.1 result.2.2.1 result.1.reverse ++ tokensFrom result.2.2.2
termination_by s.length
decreasing_by
  · simp
  · have := length_readToken state false [c] rest
    simp only [List.length_cons]
    omega

/-- The tokens of a text. -/
def tokens (s : List Char) : List String :=
  (tokensFrom (s.filter (· ≠ '\x00'))).map String.ofList

end Extraction.Calendar
