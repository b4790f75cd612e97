import CephExport.Logging.Directive

/-!
Filters of the log. A filter is a list of directives; of those that an event meets the most specific
one decides.
-/

set_option autoImplicit false
set_option relaxedAutoImplicit false

namespace CephExport.Logging

/-- A filter of the log: the directives that hold for an event by itself, and those that hold within
spans, each the most specific first. -/
structure Filter where
  constant : List Directive
  spanning : List Directive
  deriving DecidableEq

namespace Filter

/-- The filter of a list of directives, as they are written. -/
def ofDirectives (directives : List Directive) : Filter :=
  let spanning := directives.filter (·.isSpanning)
  ⟨Directive.ordered (directives.filter (! ·.isSpanning) ++ spanning.filter (·.isConstant)),
    Directive.ordered spanning⟩

/-- The filter that shows the events that are of interest without any fault. -/
def standard : Filter := ofDirectives [{ verbosity := .upTo .info }]

/-- The filter that a text writes: directives with commas between them. -/
def parse (text : String) : Except FilterFault Filter :=
  (((text.splitOn ",").filter (! ·.isEmpty)).mapM Directive.parse).map ofDirectives

/-- The filter of a setting: the standard one where none is set or it does not read. None where a
cut falls within a character. -/
def ofSetting? : Option String → Option Filter
  | none => some standard
  | some text =>
    match parse text with
    | .ok filter => some filter
    | .error .malformed => some standard
    | .error .splitCharacter => none

def text (filter : Filter) : String :=
  String.intercalate "," ((filter.constant ++ filter.spanning).map (·.text))

/-- Whether an event of a target and level, with fields of the given names and outside all spans, is
shown: the most specific directive whose target its own starts with decides. -/
def shows (filter : Filter) (target : String) (fields : List String) (level : Level) : Bool :=
  let meets (directive : Directive) : Bool :=
    (directive.target.all fun start => target.startsWith start) &&
      directive.field.all fun field => fields.contains field.name
  match filter.constant.find? meets with
  | some directive => directive.verbosity.shows level
  | none => false

end Filter

end CephExport.Logging
