import DtoForge.Document.Value

/-!
The example response of an interface description. Of each operation the first response with an
example counts, even if that example is null; the first one that is not null is taken.
-/

namespace DtoForge.Document

def jsonMediaType : Text := "application/json"

def Value.children : Value → List Value
  | .map entries => entries.map (·.2)
  | _ => []

def Value.field? (name : Text) : Value → Option Value
  | .map entries => Entries.get? entries name
  | _ => none

/-- The example of a media type, beside its schema or inside it. -/
def mediaExample? (media : Value) : Option Value :=
  (media.field? "example").or ((media.field? "schema").bind (·.field? "example"))

def responseExample? (response : Value) : Option Value := do
  let content ← response.field? "content"
  let media ← content.field? jsonMediaType
  mediaExample? media

def operationExample? (operation : Value) : Option Value := do
  let responses ← operation.field? "responses"
  let found ← responses.children.findSome? responseExample?
  if found.isNull then none else some found

def responseExample (paths : Value) : Option Value :=
  (paths.children.flatMap Value.children).findSome? operationExample?

end DtoForge.Document
