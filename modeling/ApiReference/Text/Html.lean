/-!
# HTML Text and Attribute Values

Five characters are written as entities.  The ampersand is replaced first, so that the entities
written afterwards keep theirs.
-/

namespace ApiReference.Text.Html

def replaceChar (c : Char) (replacement : List Char) (cs : List Char) : List Char :=
  cs.flatMap fun d ↦ if d = c then replacement else [d]

/-- The text as it is written in an element or between double quotes. -/
def escapeChars (cs : List Char) : List Char :=
  replaceChar '\'' ['&', '#', 'x', '2', '7', ';'] <|
    replaceChar '"' ['&', 'q', 'u', 'o', 't', ';'] <|
      replaceChar '>' ['&', 'g', 't', ';'] <|
        replaceChar '<' ['&', 'l', 't', ';'] <|
          replaceChar '&' ['&', 'a', 'm', 'p', ';'] cs

/-- The text as it is written in an element or between double quotes. -/
def escape (text : String) : String :=
  String.ofList (escapeChars text.toList)

end ApiReference.Text.Html
