import ApiReference.Http.Message
import ApiReference.Http.Uri
import ApiReference.Text.Split

/-!
# Requests and Responses as Text

A request is a line of a method, a blank and a target.  A response is a line with its status, a line
for each header, an empty line and the body.
-/

namespace ApiReference.Http

open Text

/-- A request: a method and a target. -/
structure Request where
  method : Method
  target : Uri
  deriving Repr, DecidableEq

def Request.ofLine? (line : String) : Option Request := do
  let (method, target) ← splitFirst ' ' (line.toList.filter fun c ↦ c != '\r' && c != '\n')
  let method ← Method.ofName? (String.ofList method)
  match Uri.parse (String.ofList target) with
  | .ok target => some { method, target }
  | .error _ => none

def Response.text (response : Response) : String :=
  toString response.status ++ "\n" ++
    String.join (response.headers.map fun (name, value) ↦ name ++ ": " ++ value ++ "\n") ++ "\n" ++
    response.body

end ApiReference.Http
