/-
# Http.Url — absolute web addresses

A text is brought to the form in which an address is sent and shown: the scheme and
the host in lower case, the default port dropped, `.` and `..` resolved in the path,
and what may not stand raw written as percent signs and digits. A text without a
scheme of the web, without a host, or with a port that is none, is no address;
`foreign?` tells those with another scheme.

Hosts are taken as ASCII names, or as numbers in the form in which they are shown.
-/
import InventorySync.Text.Percent

namespace InventorySync.Http

set_option autoImplicit false

structure Url where
  scheme : String
  host : String
  port : Option Nat
  /-- Begins with a slash. -/
  path : String
  query : Option String
  fragment : Option String
  deriving DecidableEq, Repr

namespace Url

/-- Path and query, as a request line has them. -/
def target (u : Url) : String :=
  u.path ++ (match u.query with
    | some q => "?" ++ q
    | none => "")

def text (u : Url) : String :=
  u.scheme ++ "://" ++ u.host ++
    (match u.port with
    | some p => ":" ++ toString p
    | none => "") ++
    u.target ++
    (match u.fragment with
    | some f => "#" ++ f
    | none => "")

/-- The address as a request carries it: the fragment stays behind. -/
def sent (u : Url) : Url := { u with fragment := none }

/-! ## Parts -/

/-- Controls, the space and everything beyond ASCII never stand raw. -/
def isRaw (banned : List Char) (c : Char) : Bool :=
  0x20 < c.toNat && c.toNat < 0x7F && !banned.contains c

def escape (banned : List Char) (s : List Char) : List Char :=
  s.flatMap fun c =>
    if isRaw banned c then [c]
    else (String.utf8EncodeChar c).flatMap Text.Percent.escapedByte

def pathBanned : List Char := ['"', '#', '<', '>', '?', '^', Char.ofNat 0x60, '{', '}']
def queryBanned : List Char := ['"', '#', '<', '>', '\'']
def fragmentBanned : List Char := ['"', '<', '>', Char.ofNat 0x60]

/-- Characters that a host may not have. -/
def hostBanned : List Char :=
  [' ', '"', '#', '%', '/', '<', '>', '?', '@', '[', '\\', ']', '^', Char.ofNat 0x60, '{', '|',
    '}', ':']

/-- The text up to the first character that ends a part, and the rest. -/
def cut (stops : Char → Bool) (s : List Char) : List Char × List Char :=
  (s.takeWhile fun c => !stops c, s.dropWhile fun c => !stops c)

/-- Segments between slashes of either lean. -/
def segments : List Char → List (List Char)
  | [] => [[]]
  | c :: rest =>
    match segments rest with
    | [] => [[c]]
    | s :: more => if c = '/' || c = '\\' then [] :: s :: more else (c :: s) :: more

def isDot (s : List Char) : Bool :=
  s == ['.'] || (s.map Char.toLower) == ['%', '2', 'e']

def isDoubleDot (s : List Char) : Bool :=
  [['.', '.'], ['.', '%', '2', 'e'], ['%', '2', 'e', '.'], ['%', '2', 'e', '%', '2', 'e']].contains
    (s.map Char.toLower)

/-- Resolve dot segments; `done` holds the segments so far, last first. -/
def resolveDots : List (List Char) → List (List Char) → List (List Char)
  | [], done => done.reverse
  | [s], done =>
    if isDoubleDot s then ([] :: done.drop 1).reverse
    else if isDot s then ([] :: done).reverse
    else (s :: done).reverse
  | s :: rest, done =>
    if isDoubleDot s then resolveDots rest (done.drop 1)
    else if isDot s then resolveDots rest done
    else resolveDots rest (s :: done)

/-- A path from its text, which is empty or begins with a slash. -/
def pathOf (s : List Char) : String :=
  let kept := resolveDots (segments (s.drop 1)) []
  String.ofList (kept.flatMap fun segment => '/' :: escape pathBanned segment)

def portOf (scheme : String) (s : List Char) : Option (Option Nat) :=
  if s.isEmpty then some none
  else if s.all Char.isDigit then
    let n := s.foldl (fun n c => n * 10 + (c.toNat - 48)) 0
    let usual := if scheme = "https" then 443 else 80
    if n < 65536 then some (if n = usual then none else some n) else none
  else none

/-- A number between brackets: hexadecimal groups with colons between them. -/
def isBracketed (host : List Char) : Bool :=
  match host, host.getLast? with
  | '[' :: inner, some ']' =>
    let groups := inner.dropLast
    2 ≤ groups.count ':' &&
      groups.all fun c => c.isDigit || c == ':' || c == '.' || ('a' ≤ c.toLower && c.toLower ≤ 'f')
  | _, _ => false

/-- A name or a number that a host may be. -/
def isHost (host : List Char) : Bool :=
  isBracketed host || (!host.isEmpty && host.all (isRaw hostBanned))

/-- The host, and the text from its port on. -/
def cutHost (s : List Char) : List Char × List Char :=
  if s.head? == some '[' then
    let (front, rest) := cut (· == ']') s
    (front ++ rest.take 1, rest.drop 1)
  else cut (· == ':') s

/-- Host and port of an authority. -/
def authorityOf (scheme : String) (s : List Char) : Option (String × Option Nat) :=
  -- what stands before the last @ names a user
  let s := (s.reverse.takeWhile (· != '@')).reverse
  let (host, port) := cutHost s
  if isHost host && (port.isEmpty || port.head? == some ':') then
    (portOf scheme (port.drop 1)).map fun p => (String.ofList (host.map Char.toLower), p)
  else none

/-- What follows a mark, if the text begins with it. -/
def after? (mark : Char) : List Char → Option (List Char)
  | c :: rest => if c = mark then some rest else none
  | [] => none

/-- Controls and blanks at either end, and line breaks and tabs anywhere, are dropped. -/
def clean (s : List Char) : List Char :=
  let isEdge (c : Char) : Bool := c.toNat ≤ 0x20
  let trimmed := ((s.dropWhile isEdge).reverse.dropWhile isEdge).reverse
  trimmed.filter fun c => c != '\t' && c != '\n' && c != '\r'

/-- A scheme is a letter, then letters, digits, and three marks. -/
def isScheme : List Char → Bool
  | c :: rest => c.isAlpha && rest.all fun d => d.isAlphanum || d == '+' || d == '-' || d == '.'
  | [] => false

/-- A text cut at its first colon: the scheme in lower case, and what follows. -/
def scheme? (s : List Char) : Option (String × List Char) := do
  let (scheme, rest) := cut (· == ':') s
  let rest ← after? ':' rest
  if isScheme scheme then some (String.ofList (scheme.map Char.toLower), rest) else none

def isWeb (scheme : String) : Bool := scheme == "http" || scheme == "https"

/-- A text with a scheme other than those of the web, as it is shown. -/
def foreign? (s : String) : Option String := do
  let (scheme, rest) ← scheme? (clean s.toList)
  let raw (c : Char) : Bool := c == ' ' || isRaw [] c
  let shown := rest.flatMap fun c =>
    if raw c then [c] else (String.utf8EncodeChar c).flatMap Text.Percent.escapedByte
  if isWeb scheme then none else some (scheme ++ ":" ++ String.ofList shown)

/-- The address that a text writes. -/
def parse? (s : String) : Option Url := do
  let (scheme, rest) ← scheme? (clean s.toList)
  if isWeb scheme then
    let isSlash (c : Char) : Bool := c == '/' || c == '\\'
    let (authority, rest) :=
      cut (fun c => isSlash c || c == '?' || c == '#') (rest.dropWhile isSlash)
    let (host, port) ← authorityOf scheme authority
    let (path, rest) := cut (fun c => c == '?' || c == '#') rest
    let (query, rest) := cut (· == '#') rest
    some {
      scheme := scheme
      host := host
      port := port
      path := pathOf path
      query := (after? '?' query).map fun q => String.ofList (escape queryBanned q)
      fragment := (after? '#' rest).map fun f => String.ofList (escape fragmentBanned f) }
  else none

end Url

end InventorySync.Http
