import ApiReference.Json.Decode
import ApiReference.Text.Blank

/-!
# Document Catalogs

A catalog lists API documents in display order.  Its entries have different names, and no name and
no address is blank; an entry that would break this is refused and the catalog stays as it was.
-/

namespace ApiReference

open Json Decode

/-- A document: the name it is offered under and the address it is fetched from. -/
structure Document where
  name : String
  url : String
  deriving Repr, DecidableEq, Inhabited

/-- Why a document is refused, or a viewer does not start. -/
inductive DocumentError where
  | duplicateName (name : String)
  | blankName (name : String)
  | blankUrl (name : String)
  | viewerFailed (reason : String)
  deriving Repr, DecidableEq

def DocumentError.message : DocumentError → String
  | .duplicateName name => "Duplicate document name: " ++ name
  | .blankName name => "Invalid document entry '" ++ name ++ "': name must not be empty"
  | .blankUrl name => "Invalid document entry '" ++ name ++ "': url must not be empty"
  | .viewerFailed reason => "Viewer initialization failed: " ++ reason

/-- Documents in display order. -/
structure Catalog where
  documents : List Document
  deriving Repr, DecidableEq

namespace Catalog

def empty : Catalog := ⟨[]⟩

/-- The address of the document that is shown first when nothing else is asked for. -/
def defaultUrl : String := "/openapi/authn.v1.yaml"

/-- The four documents of the identity platform. -/
def platform : Catalog where
  documents :=
    [⟨"AuthN", "/openapi/authn.v1.yaml"⟩, ⟨"Identity", "/openapi/identity.v1.yaml"⟩,
      ⟨"AuthZ", "/openapi/authz.v1.yaml"⟩, ⟨"IDP", "/openapi/idp.v1.yaml"⟩]

def get? (catalog : Catalog) (name : String) : Option Document :=
  catalog.documents.find? fun document ↦ document.name == name

/-- The first document with an address. -/
def findUrl? (catalog : Catalog) (url : String) : Option Document :=
  catalog.documents.find? fun document ↦ document.url == url

def size (catalog : Catalog) : Nat :=
  catalog.documents.length

def isEmpty (catalog : Catalog) : Bool :=
  catalog.documents.isEmpty

def push (catalog : Catalog) (document : Document) : Except DocumentError Catalog :=
  if Text.isBlank document.name then .error (.blankName document.name)
  else if Text.isBlank document.url then .error (.blankUrl document.name)
  else if (catalog.get? document.name).isSome then .error (.duplicateName document.name)
  else .ok ⟨catalog.documents ++ [document]⟩

/-- The catalog of some documents, pushed in order. -/
def ofDocuments (documents : List Document) : Except DocumentError Catalog :=
  documents.foldlM push empty

end Catalog

/-! ## JSON -/

def Document.toJson (document : Document) : Value :=
  .object [("name", .text document.name), ("url", .text document.url)]

/-- A document from any source.  Both members are required and there are no others. -/
def Document.shape {m : Type → Type} [Source m] : Shape m Document where
  title := "DocumentEntry"
  members :=
    [required "name" Source.text fun name document ↦ { document with name },
      required "url" Source.text fun url document ↦ { document with url }]
  strict := true
  initial := ⟨"", ""⟩

def Catalog.toJson (catalog : Catalog) : Value :=
  .array (catalog.documents.map Document.toJson)

def Catalog.reader : Reader Catalog := do
  match ofDocuments (← Reader.list (Reader.record Document.shape)) with
  | .ok catalog => return catalog
  | .error error => Reader.refuse error.message

def Catalog.read (text : String) : Except Fault Catalog :=
  Reader.readAll reader text.toList

end ApiReference
