import Extraction.Fault
import Extraction.Pattern.Tree
import Extraction.Query.Descriptor
import Extraction.Selector.Problem

/-!
# Notices

What an evaluation reports besides its result is a list of notices. A notice is a datum; its
severity, the part of the library that it comes from and its wording are functions of it.

## Main definitions

* `Notice` : what is reported.
* `Notice.severity`, `Notice.origin`, `Notice.message` : the view of a notice as a log record.
-/

namespace Extraction

/-- What an evaluation reports besides its result. -/
inductive Notice where
  /-- A query is not in the store. -/
  | cacheMiss (query : String)
  /-- A query has been read. -/
  | queryRead (query : String) (descriptor : Query.Descriptor)
  /-- The store has been cleared of so many descriptors. -/
  | cacheCleared (count : Nat)
  /-- So many links have been resolved against an address. -/
  | linksResolved (count : Nat) (base : String)
  /-- An extractor begins, whose tree builder has the given name. -/
  | sessionStarted (treeBuilder : String)
  /-- A file has been read in the given encoding. -/
  | fileLoaded (name charset : String)
  /-- A page declares an encoding that is not known. -/
  | unknownCharset (charset : String)
  /-- A pattern to look for cannot be used. -/
  | badPattern (pattern : Value) (problem : Pattern.Problem)
  /-- A pattern to replace cannot be used. -/
  | badReplacePattern (pattern : Value) (problem : Pattern.Problem)
  /-- Not-a-number is no time stamp. -/
  | stampIsNaN
  /-- There is nothing to read a date from. -/
  | dateIsMissing
  /-- A time stamp lies beyond the calendar. -/
  | stampOutOfRange (stamp : Value)
  /-- A value names no date. -/
  | notDate (value : Value)
  /-- A text writes no size. -/
  | notSize (value : String)
  /-- A size has a unit that is not known. -/
  | unknownUnit (unit : String)
  /-- A query names a filter that is not registered. -/
  | unknownFilter (message query : String)
  /-- A filter has failed. -/
  | filterFailed (message : String)
  /-- A selector is refused. -/
  | badSelector (selector : String) (reason : String)
  deriving Repr

/-- How severe a notice is. -/
inductive Severity where
  | debug
  | warning
  | error
  deriving DecidableEq, Repr

namespace Severity

/-- The level of a severity. -/
def level : Severity → Nat
  | .debug => 10
  | .warning => 30
  | .error => 40

/-- The name of a severity. -/
def name : Severity → String
  | .debug => "DEBUG"
  | .warning => "WARNING"
  | .error => "ERROR"

end Severity

namespace Notice

/-- How severe a notice is. -/
def severity : Notice → Severity
  | .cacheMiss _ | .queryRead .. | .cacheCleared _ | .linksResolved .. | .sessionStarted _
  | .fileLoaded .. => .debug
  | .unknownCharset _ | .badPattern .. | .badReplacePattern .. | .stampIsNaN | .dateIsMissing
  | .stampOutOfRange _ | .notDate _ | .notSize _ | .unknownUnit _ => .warning
  | .unknownFilter .. | .filterFailed _ | .badSelector .. => .error

/-- The part of the library that a notice comes from. -/
def origin : Notice → String
  | .cacheMiss _ | .cacheCleared _ => "query_cache"
  | .queryRead .. => "query_parser"
  | .linksResolved .. | .unknownCharset _ | .badSelector .. => "document"
  | .sessionStarted _ | .fileLoaded .. => "main"
  | .badPattern .. | .badReplacePattern .. | .stampIsNaN | .dateIsMissing | .stampOutOfRange _
  | .notDate _ | .notSize _ | .unknownUnit _ => "filters"
  | .unknownFilter .. | .filterFailed _ => "evaluator"

/-- The wording of a notice up to the reason that an engine gives. -/
def lead : Notice → String
  | .cacheMiss query => "Cache miss for query: " ++ Text.quoted query
  | .queryRead query d => "Parsed query " ++ Text.quoted query ++ " -> " ++ d.quoted
  | .cacheCleared count => "Cleared " ++ toString count ++ " cached descriptors"
  | .linksResolved count base =>
    "Rewrote " ++ toString count ++ " relative URLs against " ++ base
  | .sessionStarted treeBuilder => "HTMLQuery initialized (parser=" ++ treeBuilder ++ ")"
  | .fileLoaded name charset => "Loaded " ++ name ++ " (" ++ charset ++ ")"
  | .unknownCharset charset =>
    "Unknown charset " ++ Text.quoted charset ++ " declared, decoding as utf-8"
  | .badPattern pattern _ => "Invalid regex pattern " ++ pattern.quoted ++ ": "
  | .badReplacePattern pattern _ => "Invalid replace pattern " ++ pattern.quoted ++ ": "
  | .stampIsNaN => "Can't interpret NaN as a date"
  | .dateIsMissing => "Can't interpret an empty value as a date"
  | .stampOutOfRange stamp => "Timestamp " ++ stamp.quoted ++ " is out of range for a date"
  | .notDate value => "Can't interpret " ++ value.quoted ++ " as a date"
  | .notSize value => "Can't interpret " ++ Text.quoted value ++ " as a size"
  | .unknownUnit unit => Text.quoted unit ++ " doesn't appear to be a valid size unit"
  | .unknownFilter message query => message ++ " (query " ++ Text.quoted query ++ ")"
  | .filterFailed message => message
  | .badSelector selector _ => "Invalid CSS '" ++ selector ++ "': "

/-- The reason that an engine gives for refusing a text, if the notice ends with one. -/
def engineReason? : Notice → Option String
  | .badPattern _ (.malformed reason) | .badReplacePattern _ (.malformed reason)
  | .badSelector _ reason => some reason
  | _ => none

/-- The wording of a notice, with the reason of an engine, if there is one, in given words. -/
def messageWith (explain : String → String) (n : Notice) : String :=
  match n with
  | .badPattern _ (.badFlag flag) | .badReplacePattern _ (.badFlag flag) =>
    n.lead ++ "invalid flag " ++ flag.quoted
  | _ => n.lead ++ ((n.engineReason?.map explain).getD "")

/-- The wording of a notice. -/
def message (n : Notice) : String :=
  n.messageWith id

end Notice

end Extraction
