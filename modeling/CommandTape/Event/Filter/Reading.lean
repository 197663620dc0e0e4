import CommandTape.Event.Filter
import CommandTape.Event.Filter.Value
import CommandTape.Text.Bytes
import CommandTape.Text.Line
import CommandTape.Text.Trim

/-!
# Reading log filters

Directives are separated by commas. A directive is a level for everything, or a target, perhaps
with a span or field in brackets after it, and then perhaps an equals sign and a level; without a
level it lets everything through that it is about. A text without directives lets errors through.

White space around a directive does not count when its marks (`=` and the brackets) are looked for,
but its parts are cut out of the text with the white space, at the same distances in bytes from the
beginning. So a level with a blank before it is taken for a target.
-/

namespace CommandTape.LogFilter

/-- The levels from none to the most detailed one, by their numbers. -/
def levels : List (Option Level) :=
  [none, some .error, some .warn, some .info, some .debug, some .trace]

/-- A level by its name in any letter case or by its number. -/
def level? (word : List Char) : Option (Option Level) :=
  match Numeral.read 10 6 word with
  | .ok number => levels[number]?
  | .error _ =>
    match Command.lowered (String.ofList word) with
    | "off" => some none
    | "error" => some (some .error)
    | "warn" => some (some .warn)
    | "info" => some (some .info)
    | "debug" => some (some .debug)
    | "trace" => some (some .trace)
    | _ => none

/-- Whether a directive may begin with this character, if not with a bracket. -/
def isStart (c : Char) : Bool :=
  c = '-' || c = ':' || c = '_' || Text.Alphanumeric.isAlphanumeric c

/-- The level from a position on to the end of a directive. -/
def levelFrom? (text : List Char) (start : Nat) : Option (Option Level) := do
  let (_, word) ← Text.splitBytes? start text
  if word.isEmpty then some (some .trace) else level? word

/-- What a directive with this field is about. -/
def fieldScope? (word : List Char) : Option Scope :=
  match Text.fields '=' word with
  | [] | [[]] => none
  | [name] => some (.having name)
  | _ :: value :: _ => if isValue value then some .spans else none

/-- Reads what comes after the closing bracket. Here as below, `marks` is the rest of the directive
    in which the marks are looked for, `start` the position where it begins, and `text` the whole
    directive, out of which the parts are cut. -/
def ending? (text target : List Char) (scope : Scope) (start : Nat) (marks : List Char) :
    Option Directive :=
  match marks with
  | [] => some ⟨target, scope, some .trace⟩
  | '=' :: _ => do return ⟨target, scope, ← levelFrom? text (start + 1)⟩
  | _ => none

/-- Reads what comes after the opening bracket: the name of a span, and a field in braces. Of the
    name it only matters whether there is one. -/
def bracketed? (text target : List Char) (start : Nat) (marks : List Char) : Option Directive :=
  let name := marks.takeWhile fun c => c ≠ ']' && c ≠ '\x7b'
  let start := start + Text.byteCount name + 1
  match marks.drop name.length with
  | ']' :: marks => ending? text target .spans start marks
  | '\x7b' :: marks =>
    let field := marks.takeWhile (· ≠ '\x7d')
    let stop := start + Text.byteCount field
    match marks.drop field.length with
    | '\x7d' :: ']' :: marks => do
      let scope ← fieldScope? (← Text.slice? start stop text)
      ending? text target (if name.isEmpty then scope else .spans) (stop + 2) marks
    | _ => none
  | _ => none

/-- Reads a directive that is not empty. -/
def directive? (text : List Char) : Option Directive := do
  let marks := Text.trimmed text
  let word := marks.takeWhile fun c => c ≠ '=' && c ≠ '['
  if !(marks.head?.any fun c => c = '[' || isStart c) then none
  else match marks.drop word.length with
    | [] =>
      match level? text with
      | some level => return ⟨[], .all, level⟩
      | none => return ⟨text, .all, some .trace⟩
    | mark :: marks =>
      let stop := Text.byteCount word
      let target ← Text.slice? 0 stop text
      if mark = '[' then bracketed? text target (stop + 1) marks
      else return ⟨target, .all, ← levelFrom? text (stop + 1)⟩

/-- Reads a filter. -/
def read? (text : List Char) : Option LogFilter :=
  match (Text.fields ',' text).filter (· ≠ []) with
  | [] => some [⟨[], .all, some .error⟩]
  | directives => directives.mapM directive?

/-- The filter of a session: what the environment asks for, if that can be read, and else what
    the command line asks for. -/
def choose (environment : Option String) (verbose : Nat) : LogFilter :=
  (environment.bind fun text => read? text.toList).getD (ofVerbosity verbose)

end CommandTape.LogFilter
