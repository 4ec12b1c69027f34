import PageMarkup.Function.Basic

/-!
# Writing function calls

A call is written with its hook and its parameters between double braces. The first parameter follows the
hook directly, and each of the others a pipe.
-/
namespace PageMarkup

/-- How a function call is written. -/
structure CallStyle where
  /-- What is put in front of the hook. -/
  lead : Text := []
  /-- Whether the hook is written in its canonical form. -/
  canonical : Bool := false
  /-- The order of the parameters, if they do not stay in their own. -/
  sorting : Option (Text → Text → Bool) := none
  breaksAfter : Text → Nat → Bool := fun _ _ => false

namespace CallStyle

/-- The parameters as they are written, each with a line break behind it if one is asked for. -/
def paramTexts (style : CallStyle) (params : List Text) : List Text :=
  let arranged := match style.sorting with
    | some le => params.mergeSort le
    | none => params
  arranged.zipIdx.map fun (param, i) => if style.breaksAfter param i then param ++ ['\n'] else param

def write (style : CallStyle) (hook : Text) (params : List Text) : Text :=
  ['{', '{'] ++ style.lead ++ hook ++ Text.joinWith ['|'] (style.paramTexts params) ++ ['}', '}']

end CallStyle

/-- The hook in the form that the style asks for. -/
def FunctionCall.styledHook (call : FunctionCall) (style : CallStyle) : Text :=
  if style.canonical then call.canonical else call.hook

def FunctionCall.render (call : FunctionCall) (style : CallStyle := {}) : Text :=
  style.write (call.styledHook style) call.params.strings

/-- The call as it is written; with `raw` and what was written around the hook. -/
def ScannedCall.render (call : ScannedCall) (raw : Bool := false) (style : CallStyle := {}) : Text :=
  let hook := call.styledHook style
  style.write (if raw then call.frame.fill call.scannedHook hook else hook) call.params.strings

end PageMarkup
