import ApiReference.Json.Printer
import ApiReference.Text.Utf8

/-!
# Methods and Responses

A response has a status, headers in the order in which they were set, and a text as its body.
-/

namespace ApiReference.Http

open Json

def isMethodChar (c : Char) : Bool :=
  c.isAlphanum ||
    c ∈ ['!', '#', '$', '%', '&', '\'', '*', '+', '-', '.', '^', '_', Char.ofNat 0x60, '|', '~']

/-- A request method. -/
structure Method where
  name : String
  deriving Repr, DecidableEq

namespace Method

def ofName? (name : String) : Option Method :=
  if !name.isEmpty && name.toList.all isMethodChar then some ⟨name⟩ else none

/-- The method that asks for a response. -/
def get : Method := ⟨"GET"⟩

/-- The method that asks for a response without its body. -/
def head : Method := ⟨"HEAD"⟩

end Method

/-- A response. -/
structure Response where
  status : Nat
  headers : List (String × String)
  body : String
  deriving Repr, DecidableEq

namespace Response

/-- A response that depends on the query, and so is not to be stored. -/
def content (contentType body : String) : Response where
  status := 200
  headers :=
    [("content-type", contentType), ("cache-control", "no-store"),
      ("x-content-type-options", "nosniff")]
  body := body

def json (status : Nat) (value : Value) : Response where
  status := status
  headers := [("content-type", "application/json")]
  body := value.toText

def error (status : Nat) (code message : String) : Response :=
  json status (.object [("error", .object [("code", .text code), ("message", .text message)])])

def bodyLength (response : Response) : Nat :=
  Text.Utf8.length response.body.toList

/-- The response with its length in place of its body. -/
def withoutBody (response : Response) : Response where
  status := response.status
  headers := response.headers ++ [("content-length", toString response.bodyLength)]
  body := ""

end Response

end ApiReference.Http
