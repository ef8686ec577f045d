import Endorsement.Event
import Endorsement.Logging.Pattern
import Endorsement.Text.Blank
import Endorsement.Text.Case
import Endorsement.Text.Decimal
import Endorsement.Text.Letter
import Endorsement.Text.Slice

/-!
# Log filters

A filter is a list of directives with commas between them. A directive is a
level, or a target with an optional span and an optional level:

    info
    endorsement::cache=debug
    target[span{field=value}]=trace

A directive without a level lets everything pass that it speaks of. The value of
a field is a number or a pattern.

* `Threshold.ofText?`: levels, by name or number;
* `FieldMatch.ofText?`: fields with their values;
* `Directive`, `Directive.parse?`: a directive, read one character at a time;
* `Filter.parse?`: a filter;
* `Filter.allows`: whether an entry passes. Of the directives that speak of its
  target and its fields, the most specific one decides: the one with the
  longest target, then the one with the most fields, then the last in the order
  of their texts; of two that speak of the same, the later one.
-/

namespace Endorsement.Logging

/-- Entries up to a level, or none at all. -/
inductive Threshold where
  | off
  | upTo (level : Level)
  deriving DecidableEq, Repr

namespace Threshold

/-- The number of levels that pass. -/
def rank : Threshold → Nat
  | .off => 0
  | .upTo .error => 1
  | .upTo .warn => 2
  | .upTo .info => 3
  | .upTo .debug => 4
  | .upTo .trace => 5

/-- Whether entries of a level pass. -/
def allows (t : Threshold) (level : Level) : Bool :=
  (Threshold.upTo level).rank ≤ t.rank

/-- The threshold with a number. -/
def ofRank? : Nat → Option Threshold
  | 0 => some .off
  | 1 => some (.upTo .error)
  | 2 => some (.upTo .warn)
  | 3 => some (.upTo .info)
  | 4 => some (.upTo .debug)
  | 5 => some (.upTo .trace)
  | _ => none

/-- The threshold with a name, in any case of its letters. The empty name
    stands for errors. -/
def ofName? (name : String) : Option Threshold :=
  let name := Text.lower name
  if name = "" ∨ name = "error" then some (.upTo .error)
  else if name = "warn" then some (.upTo .warn)
  else if name = "info" then some (.upTo .info)
  else if name = "debug" then some (.upTo .debug)
  else if name = "trace" then some (.upTo .trace)
  else if name = "off" then some .off
  else none

/-- The threshold with a number or a name. -/
def ofText? (text : String) : Option Threshold :=
  ((Text.unsigned? Text.limit64 text).bind ofRank?).or (ofName? text)

/-- Everything passes. -/
def everything : Threshold := .upTo .trace

end Threshold

/-! ## Directives -/

/-- What a directive says of a field: its name, and the value it must have. -/
structure FieldMatch where
  name : String
  value : Option String
  deriving DecidableEq, Repr

/-- Whether a text can be the value of a field: a number, or a pattern for text. -/
def isFieldValue (text : String) : Bool :=
  Text.isNumber text || Pattern.isPattern text

/-- A field with the value it must have, if there is a `=`; from a second one on,
    nothing counts. -/
def FieldMatch.ofText? (text : String) : Option FieldMatch :=
  match text.splitOn "=" with
  | name :: value :: _ => if isFieldValue value then some ⟨name, some value⟩ else none
  | _ => some ⟨text, none⟩

/-- A part of a filter. -/
structure Directive where
  target : Option String := none
  span : Option String := none
  fields : List FieldMatch := []
  threshold : Threshold := .everything
  deriving DecidableEq, Repr

/-- Where a reader of a directive stands; positions, in bytes, are those at which
    the part in progress starts. -/
inductive Reading where
  | start
  | levelOrTarget (first : Nat)
  | span (first : Nat)
  | field (first : Nat)
  | fields
  | target
  | level (first : Nat)
  deriving DecidableEq, Repr

namespace Directive

/-- Whether a target may start with a character. -/
def isTargetStart (c : Char) : Bool :=
  c = '-' || c = ':' || c = '_' || Text.isLetterOrDigit c

/-- The part of a text between two positions. -/
def between (text : List Char) (first last : Nat) : Option String :=
  (Text.slice? first last text).map String.ofList

/-- The part of a text from a position on. -/
def onwards (text : List Char) (first : Nat) : Option String :=
  (Text.dropBytes? first text).map String.ofList

/-- Adds a field, which must not be empty. -/
def addField (d : Directive) (field : String) : Option Directive := do
  if field = "" then none
  return { d with fields := d.fields ++ [← FieldMatch.ofText? field] }

/-- Reads the character at a position of a text. -/
def step (text : List Char) (position : Nat) (c : Char) :
    Reading × Directive → Option (Reading × Directive)
  | (.start, d) =>
    if c = '[' then some (.span (position + 1), d)
    else if isTargetStart c then some (.levelOrTarget position, d)
    else none
  | (.levelOrTarget first, d) =>
    if c = '=' then do
      return (.level (position + 1), { d with target := ← between text first position })
    else if c = '[' then do
      return (.span (position + 1), { d with target := ← between text first position })
    else some (.levelOrTarget first, d)
  | (.span first, d) =>
    if c = ']' then do
      return (.target, { d with span := ← between text first position })
    else if c = '\x7b' then do
      let name ← between text first position
      return (.field (position + 1), { d with span := if name = "" then none else some name })
    else some (.span first, d)
  | (.field first, d) =>
    if c = '\x7d' then do return (.fields, ← d.addField (← between text first position))
    else if c = ',' then do
      return (.field (position + 1), ← d.addField (← between text first position))
    else some (.field first, d)
  | (.fields, d) => if c = ']' then some (.target, d) else none
  | (.target, d) => if c = '=' then some (.level (position + 1), d) else none
  | (.level first, d) => some (.level first, d)

/-- What a directive is once its text has ended. -/
def finish (text : List Char) : Reading × Directive → Option Directive
  | (.levelOrTarget first, d) => do
    let rest ← onwards text first
    -- What names a level is one, and no target.
    match Threshold.ofText? rest with
    | some threshold => return { d with threshold, target := none }
    | none => return { d with target := rest }
  | (.level first, d) => do
    let rest ← onwards text first
    if rest = "" then return d
    else return { d with threshold := ← Threshold.ofText? rest }
  | (.target, d) => some d
  | (.start, _) | (.span _, _) | (.field _, _) | (.fields, _) => none

/-- Reads characters, the first of which is at a position of a text. -/
def stepAll (text : List Char) : Nat → List Char → Reading × Directive →
    Option (Reading × Directive)
  | _, [], state => some state
  | position, c :: rest, state => do
    stepAll text (position + c.utf8Size) rest (← step text position c state)

/-- The directive written by a text. Blanks at its ends are not read, though
    positions count from the first character of the text; none may be within a
    character. -/
def parse? (text : String) : Option Directive := do
  finish text.toList (← stepAll text.toList 0 (Text.trim text.toList) (.start, {}))

/-- Whether a directive depends on the spans that an entry is logged in, or on
    the values of fields. -/
def isDynamic (d : Directive) : Bool :=
  d.span.isSome || d.fields.any fun f => f.value.isSome

/-- Whether a directive speaks of entries with a target and fields. -/
def caresAbout (d : Directive) (target : String) (fields : List String) : Bool :=
  (d.target.all fun t => t.toList.isPrefixOf target.toList) &&
    d.fields.all fun f => fields.contains f.name

/-- Whether two directives speak of the same. -/
def sameSubject (a b : Directive) : Bool :=
  a.target == b.target && a.fields.map FieldMatch.name == b.fields.map FieldMatch.name

/-- The length of the target in bytes, and one more; zero without a target. -/
def targetWeight (d : Directive) : Nat :=
  (d.target.map fun t => t.utf8ByteSize + 1).getD 0

/-- Whether a directive is at least as specific as another one. -/
def atLeastAsSpecific (a b : Directive) : Bool :=
  if a.targetWeight ≠ b.targetWeight then b.targetWeight < a.targetWeight
  else if a.fields.length ≠ b.fields.length then b.fields.length < a.fields.length
  else if a.target ≠ b.target then b.target.getD "" < a.target.getD ""
  else !decide (a.fields.map FieldMatch.name < b.fields.map FieldMatch.name)

end Directive

/-! ## Filters -/

/-- A filter: its directives. -/
abbrev Filter := List Directive

namespace Filter

/-- The filter written by a text; empty parts are skipped. -/
def parse? (text : String) : Option Filter :=
  ((text.splitOn ",").filter fun part => part ≠ "").mapM Directive.parse?

/-- The directives that decide without regard to spans and values; if there are
    no directives at all, errors pass. -/
def deciding (f : Filter) : List Directive :=
  if f.isEmpty then [{ threshold := .upTo .error }] else f.filter fun d => !d.isDynamic

/-- The directives in the order in which they are made to decide: those without
    fields come before those with fields. -/
def ordered (f : Filter) : List Directive :=
  let (plain, withFields) := f.deciding.partition fun d => d.fields.isEmpty
  plain ++ withFields

/-- Of two directives that decide, the more specific one; of two that speak of
    the same, the second. -/
def moreSpecific (a b : Directive) : Directive :=
  if a.sameSubject b then b else if a.atLeastAsSpecific b then a else b

/-- Whether an entry passes that is logged outside of all spans. -/
def allows (f : Filter) (level : Level) (target : String) (fields : List String) : Bool :=
  match f.ordered.filter fun d => d.caresAbout target fields with
  | [] => false
  | first :: rest => (rest.foldl moreSpecific first).threshold.allows level

end Filter

end Endorsement.Logging
