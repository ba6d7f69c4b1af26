import ApiReference.Text.Split
import ApiReference.Text.Utf8

/-!
# Request Targets

A target is a path with an optional query, an absolute address, or an authority alone.  Only the
path and the query of a target matter once it is read; a fragment is dropped.
-/

namespace ApiReference.Http

open Text

/-- Why a target is refused. -/
inductive UriError where
  | tooLong
  | empty
  | schemeTooLong
  | invalidFormat
  | invalidCharacter
  | invalidAuthority
  deriving Repr, DecidableEq

def UriError.message : UriError → String
  | .tooLong => "uri too long"
  | .empty => "empty string"
  | .schemeTooLong => "scheme too long"
  | .invalidFormat => "invalid format"
  | .invalidCharacter => "invalid uri character"
  | .invalidAuthority => "invalid authority"

/-- The path and the query of a target.  An authority alone has an empty path. -/
structure Uri where
  path : String
  query : Option String
  deriving Repr, DecidableEq

namespace Uri

/-- The longest target, in bytes. -/
def maxLength : Nat := 65534

def maxSchemeLength : Nat := 64

/-- The most colons of an authority before a bracket or an at sign forgets them. -/
def maxColons : Nat := 8

def isPathChar (c : Char) : Bool :=
  let n := c.toNat
  n == 0x21 || n == 0x22 || (0x24 ≤ n && n ≤ 0x3b) || n == 0x3d || (0x40 ≤ n && n ≤ 0x5f) ||
    (0x61 ≤ n && n ≤ 0x7e) || 0x80 ≤ n

def isQueryChar (c : Char) : Bool :=
  let n := c.toNat
  n == 0x21 || (0x24 ≤ n && n ≤ 0x3b) || n == 0x3d || (0x3f ≤ n && n ≤ 0x7e) || 0x80 ≤ n

def isSchemeChar (c : Char) : Bool :=
  c.isAlphanum || c == '+' || c == '-' || c == '.' || c == '~'

/-- Whether a character may stand in an authority, colons, brackets, at and percent signs apart. -/
def isAuthorityChar (c : Char) : Bool :=
  c.isAlphanum || c ∈ ['!', '$', '&', '\'', '(', ')', '*', '+', ',', '-', '.', ';', '=', '_', '~']

def endsAuthority (c : Char) : Bool :=
  c == '/' || c == '?' || c == '#'

/-- The path and the query that begin a text.  An empty path is a slash. -/
def pathAndQuery (text : List Char) : Except UriError Uri :=
  let path := text.takeWhile fun c ↦ c != '?' && c != '#'
  let rest := text.dropWhile fun c ↦ c != '?' && c != '#'
  if !path.all isPathChar then .error .invalidCharacter
  else
    let shown := if path.isEmpty then "/" else String.ofList path
    match rest with
    | '?' :: rest =>
      let query := rest.takeWhile (· != '#')
      if query.all isQueryChar then .ok ⟨shown, some (String.ofList query)⟩
      else .error .invalidCharacter
    | _ => .ok ⟨shown, none⟩

/-- What was seen of an authority: colons and percent signs since the last bracket or at sign, the
brackets, and whether an at sign came last. -/
structure Authority where
  colons : Nat := 0
  percent : Bool := false
  opened : Bool := false
  closed : Bool := false
  atLast : Bool := false

/-- What is seen of an authority with one more character. -/
def Authority.next (seen : Authority) (c : Char) : Except UriError Authority :=
  let seen := { seen with atLast := false }
  if c = ':' then
    if maxColons ≤ seen.colons then .error .invalidAuthority
    else .ok { seen with colons := seen.colons + 1 }
  else if c = '[' then
    if seen.percent || seen.opened then .error .invalidAuthority
    else .ok { seen with opened := true }
  else if c = ']' then
    if !seen.opened || seen.closed then .error .invalidAuthority
    else .ok { seen with closed := true, colons := 0, percent := false }
  else if c = '@' then .ok { seen with colons := 0, percent := false, atLast := true }
  else if c = '%' then .ok { seen with percent := true }
  else if isAuthorityChar c then .ok seen
  else .error .invalidCharacter

def checkAuthority (text : List Char) : Except UriError Unit := do
  let seen ← text.foldlM Authority.next {}
  if seen.opened != seen.closed || 1 < seen.colons || seen.atLast || seen.percent then
    .error .invalidAuthority

/-- The length of the scheme that begins a text, if one does. -/
def schemeLength? (text : List Char) : Option Nat :=
  if text.length ≤ 3 then none
  else
    let scheme := text.takeWhile isSchemeChar
    if "://".toList.isPrefixOf (text.drop scheme.length) then some scheme.length else none

def parse (text : String) : Except UriError Uri := do
  let cs := text.toList
  if maxLength < Utf8.length cs then .error .tooLong
  match cs with
  | [] => .error .empty
  | ['*'] => .ok ⟨"*", none⟩
  | '/' :: _ => pathAndQuery cs
  | _ =>
    match schemeLength? cs with
    | some length =>
      if maxSchemeLength < length then .error .schemeTooLong
      let rest := cs.drop (length + 3)
      if rest.isEmpty then .error .empty
      let authority := rest.takeWhile fun c ↦ !endsAuthority c
      checkAuthority authority
      if authority.isEmpty then .error .invalidFormat
      pathAndQuery (rest.dropWhile fun c ↦ !endsAuthority c)
    | none =>
      checkAuthority (cs.takeWhile fun c ↦ !endsAuthority c)
      if cs.any endsAuthority then
        .error (if cs.length = 1 then .invalidCharacter else .invalidFormat)
      return ⟨"", none⟩

end Uri

end ApiReference.Http
