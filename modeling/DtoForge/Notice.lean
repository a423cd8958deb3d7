import DtoForge.Text.Basic

/-!
What a run reports about its progress. The notices are part of a run's result; whether they are
shown is up to the caller.
-/

namespace DtoForge

inductive Notice
  | unresolvedReference (pointer : Text)
  | forwardReference (name : Text)
  | inlined (name : Text)
  | promoted (name : Text)
  | sameShape (key name : Text)
  | passStarted (number pending : Nat)
  | graphResolved (records passes : Nat)
  | listDocument
  | exampleResponse
  | wholeDocument
  | definitionsLoaded (count : Nat) (path policy : Text)
  | unitWritten (path : Text)
  deriving Repr, DecidableEq

namespace Notice

def level : Notice → Text
  | .unresolvedReference _ | .forwardReference _ | .inlined _ | .promoted _ | .passStarted _ _ =>
    "DEBUG"
  | _ => "INFO"

/-- The part of the program that a notice comes from. -/
def channel : Notice → Text
  | .unresolvedReference _ | .forwardReference _ | .inlined _ | .promoted _ =>
    "type_resolution.type_resolver"
  | .sameShape _ _ | .passStarted _ _ | .graphResolved _ _ => "type_resolution.worklist_driver"
  | .listDocument | .exampleResponse | .wholeDocument => "document_loading.document_reader"
  | .definitionsLoaded _ _ _ => "generation_run.generation_use_case"
  | .unitWritten _ => "dart_rendering.dto_writer"

def message : Notice → Text
  | .unresolvedReference pointer =>
    "Unresolved schema reference " ++ pointer ++ "; using unknown type."
  | .forwardReference name => "Forward reference to " ++ name ++ " while it is being materialized."
  | .inlined name => "Inlined nested record " ++ name ++ "."
  | .promoted name => "Promoted nested record " ++ name ++ "."
  | .sameShape key name => "Definition " ++ key ++ " has the same shape as " ++ name ++
    "; reusing it."
  | .passStarted number pending =>
    "Resolution pass " ++ toString number ++ " over " ++ toString pending ++ " pending definitions."
  | .graphResolved records passes =>
    "Resolved " ++ toString records ++ " record definitions in " ++ toString passes ++ " passes."
  | .listDocument => "Input document is a list. Inferring schema from first element."
  | .exampleResponse => "No global schemas found. Inferred schema from example response."
  | .wholeDocument =>
    "No global schemas or paths found. Inferring schema from entire document."
  | .definitionsLoaded count path policy =>
    "Resolving " ++ toString count ++ " definitions from " ++ path ++ " with " ++ policy ++
      " policy."
  | .unitWritten path => "Generated: " ++ path

def line (notice : Notice) : Text :=
  notice.level ++ " schema_dto_generator." ++ notice.channel ++ ": " ++ notice.message

end Notice

end DtoForge
