import ApiReference.Text.Html
import ApiReference.Viewer

/-!
# The Viewer Page

The page is a fixed template with holes.  Texts in elements and attributes are escaped for HTML, and
the options in the inline script are JSON in which no character can end the script.
-/

namespace ApiReference

/-- The version of the viewer that is loaded when none is set. -/
def Frontend.defaultVersion : String := "5.18.2"

/-- The title of the page and where the viewer's files are loaded from. -/
structure Frontend where
  title : String := "API Reference - Swagger UI"
  version : String := Frontend.defaultVersion
  assetBase : Option String := none
  deriving Repr, DecidableEq

namespace Frontend

/-- The address before the names of the viewer's files. -/
def assetsUrl (frontend : Frontend) : String :=
  match frontend.assetBase with
  | some base => String.ofList (base.toList.reverse.dropWhile (· == '/')).reverse
  | none => "https://unpkg.com/swagger-ui-dist@" ++ frontend.version

/-- How one character of a JSON text is written in an inline script. -/
def scriptSafeChar (c : Char) : List Char :=
  match c with
  | '<' => ['\\', 'u', '0', '0', '3', 'c']
  | '>' => ['\\', 'u', '0', '0', '3', 'e']
  | '&' => ['\\', 'u', '0', '0', '2', '6']
  | '\u2028' => ['\\', 'u', '2', '0', '2', '8']
  | '\u2029' => ['\\', 'u', '2', '0', '2', '9']
  | c => [c]

/-- A JSON text as it is written in an inline script. -/
def scriptSafe (json : List Char) : List Char :=
  json.flatMap scriptSafeChar

def scriptStart : String :=
  "window.onload = function() \x7b
    const config = "

def scriptEnd : String :=
  ";
    config.presets = [
        SwaggerUIBundle.presets.apis,
        SwaggerUIStandalonePreset
    ];
    config.plugins = [
        SwaggerUIBundle.plugins.DownloadUrl
    ];

    window.ui = SwaggerUIBundle(config);
\x7d;
"

def optionsLiteral (options : ViewerOptions) : String :=
  String.ofList (scriptSafe options.toJson.print)

/-- The script that starts the viewer once the page is loaded. -/
def script (options : ViewerOptions) : String :=
  scriptStart ++ optionsLiteral options ++ scriptEnd

/-- The holes of the page. -/
inductive Hole where
  | title
  | assets
  | target
  | script
  deriving Repr, DecidableEq

/-- A piece of the page: fixed text or a hole. -/
inductive Piece where
  | fixed (text : String)
  | hole (hole : Hole)
  deriving Repr, DecidableEq

/-- The page with its holes. -/
def template : List Piece :=
  [.fixed "<!DOCTYPE html>
<html lang=\"en\">
<head>
    <meta charset=\"UTF-8\">
    <meta name=\"viewport\" content=\"width=device-width, initial-scale=1.0\">
    <title>",
    .hole .title,
    .fixed "</title>
    <link rel=\"stylesheet\" href=\"",
    .hole .assets,
    .fixed "/swagger-ui.css\" />
    <style>
        html \x7b
            box-sizing: border-box;
            overflow: -moz-scrollbars-vertical;
            overflow-y: scroll;
        \x7d
        *,
        *:before,
        *:after \x7b
            box-sizing: inherit;
        \x7d
        body \x7b
            margin: 0;
            background: #fafafa;
        \x7d
    </style>
</head>
<body>
    <div id=\"",
    .hole .target,
    .fixed "\"></div>
    <script src=\"",
    .hole .assets,
    .fixed "/swagger-ui-bundle.js\" charset=\"UTF-8\"></script>
    <script src=\"",
    .hole .assets,
    .fixed "/swagger-ui-standalone-preset.js\" charset=\"UTF-8\"></script>
    <script>
",
    .hole .script,
    .fixed "    </script>
</body>
</html>"]

/-- What a hole is filled with. -/
def fill (frontend : Frontend) (options : ViewerOptions) : Hole → String
  | .title => Text.Html.escape frontend.title
  | .assets => Text.Html.escape frontend.assetsUrl
  | .target => Text.Html.escape options.target
  | .script => script options

def Piece.fill (frontend : Frontend) (options : ViewerOptions) : Piece → String
  | .fixed text => text
  | .hole place => frontend.fill options place

/-- The page for the options of a page load. -/
def page (frontend : Frontend) (options : ViewerOptions) : String :=
  String.join (template.map (Piece.fill frontend options))

end Frontend

end ApiReference
