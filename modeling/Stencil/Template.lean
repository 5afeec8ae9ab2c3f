import Stencil.Node.Blocks
import Stencil.Node.Render
import Stencil.Token.Scan

/-!
Templates from end to end: a source is scanned into tokens, the tokens become a tree, and the tree
is rendered in a context. Each stage reports its own errors, with the place they belong to.
-/

namespace Stencil

inductive TemplateError where
  | scan (error : ScanError)
  | block (error : BlockError)
  | render (error : RenderError)

namespace TemplateError

def location : TemplateError → Location
  | .scan error => error.location
  | .block error => error.location
  | .render error => error.location

def detail : TemplateError → String
  | .scan error => error.fault.message
  | .block error => error.fault.message
  | .render error => error.fault.message

def stage : TemplateError → String
  | .scan _ => "Tokenizer"
  | .block _ => "Parser"
  | .render _ => "Evaluator"

def message (error : TemplateError) : String :=
  error.stage ++ " Error - " ++ error.detail ++ " " ++ error.location.text

end TemplateError

namespace Template

variable {State : Type}

def compile (tags : Tags) (load : Loader) (name source : String) :
    Except TemplateError Template :=
  match Token.scan tags load name source with
  | .error error => .error (.scan error)
  | .ok tokens => (Node.parse tokens).mapError .block

def render (host : Host State) (context : Context) (template : Template) :
    Evaluation State TemplateError String :=
  (Node.renderAll host context template).adapt .render

end Template

end Stencil
