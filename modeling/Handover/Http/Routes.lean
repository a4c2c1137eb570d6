import Handover.Markers
import Handover.Text.Quoted

namespace Handover.Http

structure Response where
  status : Nat
  contentType : Option String := none
  allow : Option String := none
  body : String := ""
deriving DecidableEq, Repr

/-- The character may stand in the name of a method. -/
def isMethodChar (c : Char) : Bool :=
  c.isAlphanum || "!#$%&'*+-.^_|~".toList.contains c || c.toNat == 0x60

/-- The name of a method, which is case-sensitive. -/
def isMethod (s : String) : Bool := !s.isEmpty && s.toList.all isMethodChar

/-- The character may stand in a path as it is. -/
def isPathChar (c : Char) : Bool :=
  let n := c.toNat
  n == 0x21 || n == 0x22 || (0x24 ≤ n && n ≤ 0x3B) || n == 0x3D || (0x40 ≤ n && n ≤ 0x5F) ||
    (0x61 ≤ n && n ≤ 0x7E) || 0x7F ≤ n

/-- The character may stand in a query as it is. -/
def isQueryChar (c : Char) : Bool :=
  let n := c.toNat
  n == 0x21 || (0x24 ≤ n && n ≤ 0x3B) || n == 0x3D || 0x3F ≤ n

/-- The path of a path and query: all before the query or the fragment. -/
def pathOf (l : List Char) : Option (List Char) :=
  let isEnd (c : Char) : Bool := c == '?' || c == '#'
  let path := l.takeWhile fun c => !isEnd c
  let query := match l.dropWhile fun c => !isEnd c with
    | '?' :: rest => rest.takeWhile (· != '#')
    | _ => []
  if path.all isPathChar && query.all isQueryChar then some path else none

/-- The character may stand in a host and port as it is. -/
def isAuthorityChar (c : Char) : Bool := c.isAlphanum || "!$&'()*+,-.:;=@[]_~".toList.contains c

/-- The rest of a text behind a scheme and the two slashes that end it. -/
def behindScheme? (l : List Char) : Option (List Char) :=
  let name := l.takeWhile fun c => c.isAlphanum || c == '+' || c == '-' || c == '.'
  match l.drop name.length with
  | ':' :: '/' :: '/' :: rest => if name.isEmpty then none else some rest
  | _ => none

/-- A host and port, with a user before it if there is one. -/
def isAuthority (l : List Char) : Bool :=
  let host := (l.reverse.takeWhile (· != '@')).reverse
  let outside := match host.dropWhile (· != ']') with
    | [] => host
    | _ :: port => port
  l.all (fun c => isAuthorityChar c || c == '%') && !host.isEmpty && !host.contains '%' &&
    outside.count ':' ≤ 1 && l.count '[' ≤ 1 && l.count '[' == l.count ']' &&
    (l.takeWhile (· != ']')).count '[' == l.count '['

/-- The path that a request's target asks for; a target without one asks for nothing that is there. -/
def target? (s : String) : Option String :=
  match s.toList with
  | [] => none
  | ['*'] => some "*"
  | '/' :: rest => (pathOf ('/' :: rest)).map String.ofList
  | l =>
    match behindScheme? l with
    | none => if isAuthority l then some "" else none
    | some rest =>
      let isEnd (c : Char) : Bool := c == '/' || c == '?' || c == '#'
      let authority := rest.takeWhile fun c => !isEnd c
      if isAuthority authority then
        (pathOf (rest.dropWhile fun c => !isEnd c)).map fun p =>
          if p.isEmpty then "/" else String.ofList p
      else none

/-- How a character stands in a quoted value of the body. -/
def escape (c : Char) : List Char :=
  if c = '"' then ['\\', '"']
  else if c = '\\' then ['\\', '\\']
  else if c = '\n' then ['\\', 'n']
  else if c = '\r' then ['\\', 'r']
  else if c = '\t' then ['\\', 't']
  else if c.toNat = 8 then ['\\', 'b']
  else if c.toNat = 12 then ['\\', 'f']
  else if c.toNat < 32 then
    let digits := Text.hexadecimal c.toNat
    ['\\', 'u'] ++ List.replicate (4 - digits.length) '0' ++ digits
  else [c]

def quoted (s : String) : String := String.ofList ('"' :: s.toList.flatMap escape ++ ['"'])

/-- Which process answers, as the body says it; the process number is a text of its own. -/
def identity (process : String) (role : Role) (address : String) : String :=
  "\x7b\"pid\":" ++ process ++ ",\"role\":" ++ quoted role.name ++ ",\"address\":" ++ quoted address ++ "\x7d"

/-- The type and the body at a path, if there is anything. -/
def resource? (process : String) (role : Role) (address path : String) : Option (String × String) :=
  if path = "/" then some ("application/json", identity process role address)
  else if path = "/health" then some ("text/plain; charset=utf-8", "ok")
  else none

/-- The answer to a request; there is none to what is no request. -/
def respond? (process : String) (role : Role) (address method target : String) : Option Response := do
  guard (isMethod method)
  let path ← target? target
  return match resource? process role address path with
    | none => { status := 404 }
    | some (kind, body) =>
      if method = "GET" then { status := 200, contentType := some kind, body }
      else if method = "HEAD" then { status := 200, contentType := some kind }
      else { status := 405, allow := some "GET,HEAD" }

end Handover.Http
