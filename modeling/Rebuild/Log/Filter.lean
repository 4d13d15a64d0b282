import Rebuild.Log.Directive
import Rebuild.Log.Level

/-!
# Log filters

A filter is a set of directives. Some select events and some select spans, and one that asks for a
field without a value does both. The configured level and the directives of the environment are
merged, and text that is no list of directives never hides text that is.
-/

namespace Rebuild

/-- Directives with different selections. -/
structure LogFilter where
  forEvents : List Directive
  forSpans : List Directive
deriving DecidableEq, Repr

namespace LogFilter

/-- A directive replaces an earlier one with its selection. -/
def put (directives : List Directive) (directive : Directive) : List Directive :=
  directives.filter (!·.hasSameSelection directive) ++ [directive]

def ofDirectives (directives : List Directive) : LogFilter where
  forEvents := (directives.filter Directive.isForEvents).foldl put []
  forSpans := (directives.filter Directive.isForSpans).foldl put []

/-- Directives between commas; empty ones are ignored. -/
def parse? (text : String) : Option LogFilter :=
  (((cut ',' text.toList).filter (!·.isEmpty)).mapM fun part =>
    Directive.parse? (String.ofList part)).map ofDirectives

/-- The directives with commas between. -/
def print (filter : LogFilter) : String :=
  ",".intercalate ((filter.forEvents ++ filter.forSpans).map Directive.print)

/-- The most specific of the directives for an event. -/
def directive? (filter : LogFilter) (event : LogEvent) : Option Directive :=
  (filter.forEvents.filter (·.covers event)).foldl
    (fun best directive =>
      match best with
      | some found => if directive.goesBefore found then some directive else best
      | none => some directive)
    none

/-- No run has spans, so the directives for them enable nothing. -/
def enables (filter : LogFilter) (event : LogEvent) : Bool :=
  match filter.directive? event with
  | some directive => event.level.rank ≤ directive.level.rank
  | none => false

/-- What is used when the configured level is no list of directives. -/
def fallback : LogFilter := .ofDirectives [{ level := .warn }]

/-- A configured level as directives: a few more words are understood. -/
def normalizeLevel (level : String) : String :=
  let level := trimmed level
  if level.isEmpty then "warn"
  else match lowered level with
    | "trace" => "trace"
    | "debug" => "debug"
    | "info" => "info"
    | "warn" | "warning" => "warn"
    | "error" => "error"
    | "off" | "none" => "off"
    | _ => level

/-- The filter for a configured level and the directives of the environment, however filters are
read. Together they are used if they can be read, then the environment's alone, then the level alone,
and then what is always at hand. -/
def mergeWith (read? : String → Option φ) (fallback : φ) (level : String)
    (environment : Option String) : φ :=
  let ofLevel := (read? (normalizeLevel level)).getD fallback
  match (environment.map trimmed).filter (!·.isEmpty) with
  | none => ofLevel
  | some directives =>
    (read? (normalizeLevel level ++ "," ++ directives) <|> read? directives).getD ofLevel

def merge (level : String) (environment : Option String) : LogFilter :=
  mergeWith parse? fallback level environment

end LogFilter

end Rebuild
