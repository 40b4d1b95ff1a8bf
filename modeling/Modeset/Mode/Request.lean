import Modeset.Mode
import Modeset.Text.Decimal

/-!
# Mode requests

What a user types to ask for a mode: `WIDTHxHEIGHT`, or `WIDTHxHEIGHT@RATE` with or without a unit
behind the rate. The unit is any number of `hz` and then any number of `Hz`.

## Main definitions

* `ModeRequest` — a size and perhaps a rate
* `ModeRequest.parse` — a request from its text
* `ModeRequest.text` — the text of a request
* `ModeRequest.accepts` — whether a mode is what was asked for
-/

namespace Modeset

/-- A request for a mode of some size, and of some rate if one is given. -/
structure ModeRequest where
  width : UInt16
  height : UInt16
  refresh : Option UInt32
  deriving DecidableEq, Repr

namespace ModeRequest

/-- What is wrong with the text of a request. -/
inductive ParseError
  | refresh (text : String)
  | form (text : String)
  | width (text : String)
  | height (text : String)
  deriving DecidableEq, Repr

/-- What is shown for a text that is no request. -/
def ParseError.message : ParseError → String
  | refresh text => s!"Invalid refresh rate: {text}"
  | form text => s!"Invalid mode (expected WIDTHxHEIGHT[@HZ]): {text}"
  | width text => s!"Invalid width: {text}"
  | height text => s!"Invalid height: {text}"

/-- The text before and after the first character that `isCut` selects, if there is one. -/
def cut? (isCut : Char → Bool) : List Char → Option (List Char × List Char)
  | [] => none
  | c :: rest =>
    if isCut c then some ([], rest)
    else (cut? isCut rest).map fun (before, after) => (c :: before, after)

/-- A text read backwards, without the repetitions at its start of `z` and then `letter`. -/
def dropUnits (letter : Char) : List Char → List Char
  | 'z' :: c :: rest => if c = letter then dropUnits letter rest else 'z' :: c :: rest
  | text => text

/-- The text of a rate without its unit: first every `Hz` at the end is dropped, then every `hz`. -/
def dropUnit (text : List Char) : List Char :=
  (dropUnits 'h' (dropUnits 'H' text.reverse)).reverse

/-- The rate behind the `@`. -/
def parseRefresh (text : List Char) : Except ParseError UInt32 :=
  match Decimal.unsigned? (UInt32.size - 1) (dropUnit text) with
  | some n => .ok n.toUInt32
  | none => .error (.refresh (String.ofList text))

/-- A width or height; `wrong` says which, should it be none. -/
def parseLength (wrong : String → ParseError) (text : List Char) : Except ParseError UInt16 :=
  match Decimal.unsigned? (UInt16.size - 1) text with
  | some n => .ok n.toUInt16
  | none => .error (wrong (String.ofList text))

/-- A request for a rate, if one is given, and for the size that a text gives. If it gives none, the
whole text of the request is at fault. -/
def parseSize (whole : String) (size : List Char) (refresh : Option UInt32) :
    Except ParseError ModeRequest :=
  match cut? (fun c => c = 'x' ∨ c = 'X') size with
  | none => .error (.form whole)
  | some (width, height) => do
    let width ← parseLength .width width
    let height ← parseLength .height height
    return { width, height, refresh }

/-- A request from its text. A bad rate is reported before anything that is wrong with the size. -/
def parse (text : String) : Except ParseError ModeRequest :=
  match cut? (· = '@') text.toList with
  | some (size, rate) => do
    let hz ← parseRefresh rate
    parseSize text size (some hz)
  | none => parseSize text text.toList none

/-- The text of a request. -/
def text (request : ModeRequest) : String :=
  match request.refresh with
  | some hz => s!"{request.width}x{request.height}@{hz}"
  | none => s!"{request.width}x{request.height}"

/-- Whether a mode has the size that was asked for, and the rate if one was given. -/
def accepts (request : ModeRequest) (mode : Mode) : Bool :=
  mode.hdisplay = request.width ∧ mode.vdisplay = request.height ∧
    request.refresh.all (mode.vrefresh = ·)

end ModeRequest

end Modeset
