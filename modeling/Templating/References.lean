import Templating.Template.Tokenizer

/-!
# Names that a value refers to

Templates stand in texts, and in the texts of nested maps; lists hold none.
-/

namespace Templating

/-- The names in a template, in order and as often as they occur. -/
def templateReferences (tokenizer : Tokenizer) (template : String) :
    Except TemplateError (List String) :=
  (tokenizer.tokenize template).map fun tokens => tokens.flatMap Token.references

namespace Value

mutual

/-- The names in all templates of a value, or the error of the first template that is refused. -/
def references (tokenizer : Tokenizer) : Value → Except TemplateError (List String)
  | string template => templateReferences tokenizer template
  | map entries => entryReferences tokenizer entries
  | _ => .ok []

def entryReferences (tokenizer : Tokenizer) :
    List (String × Value) → Except TemplateError (List String)
  | [] => .ok []
  | (_, value) :: rest =>
      match references tokenizer value with
      | .error error => .error error
      | .ok names => (entryReferences tokenizer rest).map (names ++ ·)

end

/-- Whether templates can stand in the value. -/
def isTemplated : Value → Bool
  | string _ => true
  | map _ => true
  | _ => false

end Value

end Templating
