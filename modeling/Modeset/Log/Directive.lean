import Modeset.Log
import Modeset.Text.Blank
import Modeset.Text.Decimal
import Modeset.Text.Letter
import Modeset.Text.Pattern
import Modeset.Text.Utf8

/-!
# Directives for the log

A directive says from which level on the entries are shown that it speaks of. It may speak of those
whose topic begins in a certain way.

In text it is a level, `topic`, `topic=level` or `topic=`; without a level all levels are shown. A
condition in square brackets may stand behind the topic or instead of it: `[span]`, `[span{field}]`
or `[{field=value}]`, where the value is a number or a pattern. The places of the marks are counted
in bytes from the first character that is no blank, but the parts between them are cut at these
places of the text as it stands, so a directive behind a blank seldom means what it seems to.

## Main definitions

* `Log.Directive` — one directive
* `Log.Directive.appliesTo`, `Log.Directive.shows` — which entries it speaks of, and which of them
  it lets through
* `Log.Directive.specificity` — how specific it is
* `Log.Directive.ofText` — the directive that a text is
* `Log.Directive.Flaw` — why a text is none
-/

namespace Modeset.Log

/-- What must hold of an entry beyond its topic. -/
inductive Condition
  | always
  /-- The entry has a field of this name. -/
  | field (name : String)
  /-- The entry lies in a span, or a field has a value. No entry does: its only field is its text,
  which has no value until it is shown. -/
  | never
  deriving DecidableEq, Repr

namespace Condition

/-- The name of the one field that every entry has. -/
def textField : String := "message"

/-- Whether entries meet the condition. All have the same fields. -/
def isMet : Condition → Bool
  | always => true
  | field name => name = textField
  | never => false

/-- A condition on a field makes a directive more specific. -/
def weight : Condition → Nat
  | field _ => 1
  | always | never => 0

end Condition

/-- A directive of a filter. -/
structure Directive where
  /-- The beginning of the topics that it speaks of, or of all. -/
  topic : Option String := none
  condition : Condition := .always
  /-- The least level that is shown, if any is. -/
  least : Option Level := some .trace
  deriving DecidableEq, Repr

namespace Directive

/-- Whether the directive speaks of an entry. -/
def appliesTo (directive : Directive) (entry : Entry) : Bool :=
  directive.topic.all (·.toList.isPrefixOf entry.topic.path.toList) && directive.condition.isMet

/-- How specific a directive is. The length of its topic counts first, then whether it names a
field. -/
def specificity (directive : Directive) : Nat :=
  2 * (directive.topic.map (·.length + 1)).getD 0 + directive.condition.weight

/-- Whether the directive lets an entry through that it speaks of. -/
def shows (directive : Directive) (entry : Entry) : Bool :=
  directive.least.any (·.rank ≤ entry.level.rank)

/-- What can be wrong with the text of a directive. -/
inductive Flaw
  /-- It is not formed as a directive. -/
  | form
  /-- What should be a level is none. -/
  | level
  /-- The value of a field is neither a number nor a pattern. -/
  | value
  /-- The value of a field is a pattern that looks for an edge of a word. -/
  | wordEdge
  deriving DecidableEq, Repr

/-- The message of a flaw. -/
def Flaw.message : Flaw → String
  | form => "invalid filter directive"
  | level =>
    "error parsing level filter: expected one of \"off\", \"error\", \"warn\", \"info\", " ++
      "\"debug\", \"trace\", or a number 0-5"
  | value => "invalid field filter: error building NFA"
  | wordEdge =>
    "invalid field filter: unsupported regex feature for DFAs: cannot build DFAs for regexes " ++
      "with Unicode word boundaries; switch to ASCII word boundaries, or heuristically enable " ++
      "Unicode word boundaries or use a different regex engine"

/-- The names of the least levels, from the one that shows nothing to the one that shows everything.
The place of a name in the list is its number. -/
def leastLevels : List (String × Option Level) :=
  [("off", none), ("error", some .error), ("warn", some .warn), ("info", some .info),
   ("debug", some .debug), ("trace", some .trace)]

/-- The least level that a text gives, by its number or by its name in any case of letters. -/
def least? (text : List Char) : Option (Option Level) :=
  match Decimal.unsigned? 5 text with
  | some number => leastLevels[number]?.map (·.2)
  | none => leastLevels.lookup (String.ofList (text.map Char.toLower))

/-- Whether a directive with a topic can begin with a character. -/
def isFirst (c : Char) : Bool := Text.isLetterOrDigit c || ['-', ':', '_'].contains c

/-- The part of a text between two places, which are counted in bytes. -/
def between (text : List Char) (start stop : Nat) : List Char :=
  (Utf8.splitAt (stop - start) (Utf8.splitAt start text).2).1

/-- The least level behind a topic or condition: after an equals sign, or else all levels. The text
behind the place without its blanks shows which; the level is cut from the text itself. -/
def readLeast (text : List Char) (place : Nat) : List Char → Except Flaw (Option Level)
  | [] => .ok (some .trace)
  | '=' :: _ =>
    match (Utf8.splitAt (place + 1) text).2 with
    | [] => .ok (some .trace)
    | level =>
      match least? level with
      | some least => .ok least
      | none => .error .level
  | _ => .error .form

/-- The condition that a field is. Only what stands between the first two equals signs is its
value. -/
def readField (field : List Char) : Except Flaw Condition :=
  match field, field.dropWhile (· ≠ '=') with
  | [], _ => .error .form
  | _, [] => .ok (.field (String.ofList field))
  | _, _ :: behind =>
    let value := behind.takeWhile (· ≠ '=')
    if Decimal.isReal value then .ok .never
    else
      match Text.Pattern.verdict value with
      | .sound => .ok .never
      | .wordEdge => .error .wordEdge
      | .malformed => .error .value

/-- A directive with a condition. What follows its opening bracket begins at the place, and is given
without the blanks at its end. -/
def readCondition (text : List Char) (topic : Option String) (place : Nat) (inner : List Char) :
    Except Flaw Directive :=
  let name := inner.takeWhile fun c => c ≠ ']' && c ≠ '\x7b'
  let stop := place + Utf8.size name
  match inner.drop name.length with
  | ']' :: rest => do
    let least ← readLeast text (stop + 1) rest
    return { topic, condition := .never, least }
  | '\x7b' :: behind =>
    let field := behind.takeWhile (· ≠ '\x7d')
    let fieldStop := stop + 1 + Utf8.size field
    match behind.drop field.length with
    | [] => .error .form
    | _ :: rest => do
      let condition ← readField (between text (stop + 1) fieldStop)
      match rest with
      | ']' :: rest =>
        let least ← readLeast text (fieldStop + 2) rest
        return { topic, condition := if name = [] then condition else .never, least }
      | _ => throw .form
  | _ => .error .form

/-- The directive that a text is. -/
def ofText (text : List Char) : Except Flaw Directive :=
  let trimmed := Text.trim text
  match trimmed with
  | [] => .error .form
  | '[' :: inner => readCondition text none 1 inner
  | first :: _ =>
    if !isFirst first then .error .form
    else
      let front := trimmed.takeWhile fun c => c ≠ '=' && c ≠ '['
      let place := Utf8.size front
      let topic := some (String.ofList (between text 0 place))
      match trimmed.drop front.length with
      | [] =>
        match least? text with
        | some least => .ok { least }
        | none => .ok { topic := some (String.ofList text) }
      | '[' :: inner => readCondition text topic (place + 1) inner
      | rest => do
        let least ← readLeast text place rest
        return { topic, least }

end Directive

end Modeset.Log
