import CrashReporter.Remote.Host

/-!
# Addresses of the web

An absolute address, read as forgivingly as browsers read it: blanks around it and tabs and line ends
within it count for nothing, backslashes are slashes where the scheme is known, steps up and steps that
stay are taken, and a port that goes without saying is not said.
-/

namespace CrashReporter

/-- The part of an address that names the machine. -/
structure Authority where
  host : String
  port : Option Nat
  deriving DecidableEq, Inhabited

/-- An absolute address. -/
structure Url where
  scheme : String
  authority : Option Authority
  path : String
  query : Option String
  fragment : Option String
  deriving DecidableEq, Inhabited

namespace Url

open Text

/-- The known schemes, and the port that goes without saying. -/
def schemes : List (String × Option Nat) :=
  [("http", some 80), ("https", some 443), ("ws", some 80), ("wss", some 443), ("ftp", some 21), ("file", none)]

/-- The port that goes without saying. -/
def defaultPort? (scheme : String) : Option Nat := (schemes.lookup scheme).join

/-- Whether a scheme is known. -/
def isKnown (scheme : String) : Bool := (schemes.lookup scheme).isSome

/-- Whether the character parts segments of a path. -/
def isSlash (known : Bool) (c : Char) : Bool := c == '/' || (known && c == '\\')

/-- The characters that count: neither blanks at the ends nor tabs and line ends anywhere. -/
def counted (s : String) : List Char :=
  let trimmed := (s.toList.dropWhile (·.toNat ≤ 0x20)).reverse.dropWhile (·.toNat ≤ 0x20)
  trimmed.reverse.filter fun c => !"\t\n\r".contains c

/-- The scheme, and what follows its colon. -/
def scheme? (cs : List Char) : Option (String × List Char) :=
  match cs.span (· != ':') with
  | (c :: more, _ :: rest) =>
    if c.isAlpha && more.all (fun c => c.isAlphanum || "+-.".contains c) then
      some ((String.ofList (c :: more)).toLower, rest)
    else none
  | _ => none

/-- The port that a text names: nothing is the one that goes without saying. -/
def port? (scheme : String) (cs : List Char) : Option (Option Nat) :=
  if !cs.all Char.isDigit then none
  else match Host.digitsOf? 10 cs with
    | some n =>
      if 65535 < n then none
      else some (if cs.isEmpty || defaultPort? scheme = some n then none else some n)
    | none => none

/-- The host of an authority and what follows it. Colons between brackets belong to the host. -/
def splitHost (bracketed : Bool) : List Char → List Char × List Char
  | [] => ([], [])
  | c :: rest =>
    if c == ':' && !bracketed then ([], rest)
    else
      let (host, port) := splitHost (c == '[' || (bracketed && c != ']')) rest
      (c :: host, port)

/-- The authority that a text names; who asks, before the last `@`, is left out. -/
def authority? (scheme : String) (cs : List Char) : Option Authority := do
  let known := isKnown scheme
  let machine := (cs.reverse.takeWhile (· != '@')).reverse
  let (host, port) := splitHost false machine
  if scheme == "file" then
    if machine.isEmpty then return ⟨"", none⟩
    let host ← Host.ofSpecial? machine
    return ⟨if host == "localhost" then "" else host, none⟩
  let host ← if known then Host.ofSpecial? host else Host.ofOther? host
  let port ← port? scheme port
  if host.isEmpty && machine.length < cs.length then none
  return ⟨host, port⟩

/-- The segments between slashes. -/
def segments (known : Bool) : List Char → List (List Char)
  | [] => [[]]
  | c :: rest =>
    if isSlash known c then [] :: segments known rest
    else match segments known rest with
      | s :: more => (c :: s) :: more
      | [] => [[c]]

/-- Takes the steps among segments; `taken` holds the segments before them, latest first. A path whose
last segment is a step ends with a slash. -/
def walk (taken : List (List Char)) : List (List Char) → List (List Char)
  | [] => taken.reverse
  | s :: more =>
    let plain := ((String.ofList s).toLower.replace "%2e" ".")
    let after (taken : List (List Char)) := walk (if more.isEmpty then [] :: taken else taken) more
    if plain == ".." then after (taken.drop 1)
    else if plain == "." then after taken
    else walk (s :: taken) more

/-- A path that begins with a slash, without its steps. -/
def pathOf (known : Bool) (cs : List Char) : String :=
  String.ofList <| (walk [] (segments known cs)).flatMap fun s => '/' :: Percent.encode Percent.inPath s

/-- The address that a text names, if it names one by itself. -/
def parse? (s : String) : Option Url := do
  let (scheme, rest) ← scheme? (counted s)
  let known := isKnown scheme
  let (front, fragment) := rest.span (· != '#')
  let (front, query) := front.span (· != '?')
  let inQuery (c : Char) := Percent.inQuery c || (known && c == '\'')
  let query := query.head?.map fun _ => String.ofList (Percent.encode inQuery query.tail)
  let fragment := fragment.head?.map fun _ => String.ofList (Percent.encode Percent.inFragment fragment.tail)
  let slashes := front.takeWhile (isSlash known)
  if (known && scheme != "file") || (slashes.length ≥ 2) then
    let rest := if known && scheme != "file" then front.drop slashes.length else front.drop 2
    let (authority, path) := rest.span fun c => !isSlash known c
    let authority ← authority? scheme authority
    let path := if path.isEmpty && !known then "" else pathOf known path.tail
    return ⟨scheme, some authority, path, query, fragment⟩
  else if scheme == "file" then
    return ⟨scheme, some ⟨"", none⟩, pathOf known (front.drop slashes.length), query, fragment⟩
  else if !slashes.isEmpty then
    return ⟨scheme, none, pathOf known front.tail, query, fragment⟩
  else
    return ⟨scheme, none, String.ofList (Percent.encode Percent.isControl front), query, fragment⟩

/-- What is asked of the machine: the path and the query. -/
def target (u : Url) : String := u.path ++ (u.query.elim "" ("?" ++ ·))

/-- The address as a text. -/
def text (u : Url) : String :=
  let front := match u.authority with
    | some a => "//" ++ a.host ++ a.port.elim "" fun p => s!":{p}"
    | none => if u.path.startsWith "//" then "/." else ""
  u.scheme ++ ":" ++ front ++ u.target ++ u.fragment.elim "" ("#" ++ ·)

/-- Whether requests can be sent there. -/
def isWeb (u : Url) : Bool := u.scheme == "http" || u.scheme == "https"

end Url

end CrashReporter
