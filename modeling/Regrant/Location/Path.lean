import Regrant.Location.Host

/-!
# The path of a location

Tables are located by URLs such as `hdfs://namenode/warehouse/sales`, or by plain paths.  `path?`
reads a URL as browsers do and answers its path, still percent-encoded, or nothing if the text is
no URL.  Characters that must not stand in a path are encoded there.  Locations of files and of the
web have rules of their own.
-/

namespace Regrant.Location

inductive SchemeKind where
  | file
  /-- A scheme of the web, whose locations always have a host. -/
  | web
  | other
deriving DecidableEq

namespace SchemeKind

def ofName (name : String) : SchemeKind :=
  if name = "file" then file
  else if name ∈ ["http", "https", "ws", "wss", "ftp"] then web
  else other

/-- A backslash separates like a slash. -/
def special (k : SchemeKind) : Bool := k ≠ other

end SchemeKind

/-- Without control characters and blanks at either end, and without tabs and line ends. -/
def strip (cs : List Char) : List Char :=
  let outer (c : Char) : Bool := c.toNat ≤ 0x20
  let cs := ((cs.dropWhile outer).reverse.dropWhile outer).reverse
  cs.filter (fun c => c ≠ '\t' ∧ c ≠ '\n' ∧ c ≠ '\r')

/-- The scheme in lower case, and what follows its colon. -/
def splitScheme (cs : List Char) : Option (String × List Char) :=
  let isPart (c : Char) : Bool := c.isAlphanum || c = '+' || c = '-' || c = '.'
  match cs with
  | [] => none
  | c :: _ =>
    if c.isAlpha then
      match cs.dropWhile isPart with
      | ':' :: rest => some (String.ofList ((cs.takeWhile isPart).map Char.toLower), rest)
      | _ => none
    else none

/-- The characters that end an authority. -/
def endsAuthority (k : SchemeKind) (c : Char) : Bool :=
  c = '/' || c = '?' || c = '#' || (k.special && c = '\\')

/-! ### Authority -/

/-- The host up to its port, a colon in brackets being part of it. -/
def spanHost (inBrackets : Bool) : List Char → List Char × List Char
  | [] => ([], [])
  | c :: cs =>
    if c = ':' && !inBrackets then ([], c :: cs)
    else
      let (host, rest) := spanHost (c = '[' || (inBrackets && c ≠ ']')) cs
      (c :: host, rest)

/-- What follows the port, or nothing if there is no such port. -/
def afterPort (cs : List Char) : Option (List Char) :=
  let digits := cs.takeWhile Char.isDigit
  let rest := cs.dropWhile Char.isDigit
  if 65535 < natOfDigits digits then none
  else match rest with
    | [] => some []
    | c :: _ => if endsAuthority .web c then some rest else none

/-- What follows the last `@` of an authority, and whether that left any text before it. -/
def afterUser (authority : List Char) : List Char × Option (List Char) :=
  if authority.contains '@' then
    let host := (authority.reverse.takeWhile (· ≠ '@')).reverse
    (host, some (authority.take (authority.length - host.length - 1)))
  else (authority, none)

/-- A user that is written out, in contrast to `@` or `:@`. -/
def namesUser : Option (List Char) → Bool
  | none => false
  | some user => user ≠ [] ∧ user ≠ [':']

/-- What follows the authority, or nothing if it is malformed. -/
def afterAuthority (k : SchemeKind) (cs : List Char) : Option (List Char) :=
  let authority := cs.takeWhile (fun c => !endsAuthority k c)
  let rest := cs.dropWhile (fun c => !endsAuthority k c)
  let (hostAndPort, user) := afterUser authority
  if user == some [] && hostAndPort.isEmpty && !rest.isEmpty then none
  else
    let (host, port) := spanHost false hostAndPort
    let valid := match k with
      | .other => isOpaqueHost host
      | _ => isDomain host
    if !valid then none
    else if host.isEmpty && (k.special || !port.isEmpty || namesUser user) then none
    else match port with
      | [] => some rest
      | _ :: port => afterPort (port ++ rest)

/-! ### Segments -/

def isSingleDot (segment : List Char) : Bool :=
  let s := String.ofList (segment.map Char.toLower)
  s = "." || s = "%2e"

def isDoubleDot (segment : List Char) : Bool :=
  let s := String.ofList (segment.map Char.toLower)
  s = ".." || s = "%2e." || s = ".%2e" || s = "%2e%2e"

/-- A letter with a colon, which is the root of a drive. -/
def isDrive : List Char → Bool
  | [c, ':'] => c.isAlpha
  | _ => false

/-- Without the last of some segments that are kept in reverse; a drive stays. -/
def shorten (k : SchemeKind) : List (List Char) → List (List Char)
  | [] => []
  | [s] => if k = .file && isDrive s then [s] else []
  | _ :: before => before

/-- A first segment such as `C|` is a drive. -/
def asDrive (k : SchemeKind) (before : List (List Char)) (segment : List Char) : List Char :=
  match k, before, segment with
  | .file, [], [c, '|'] => if c.isAlpha then [c, ':'] else segment
  | _, _, _ => segment

/-- The segments of a path in reverse, on top of those that are there already. -/
def resolveDots (k : SchemeKind) : List (List Char) → List (List Char) → List (List Char)
  | before, [] => before
  | before, [segment] =>
    if isDoubleDot segment then [] :: shorten k before
    else if isSingleDot segment then [] :: before
    else asDrive k before segment :: before
  | before, segment :: rest =>
    if isDoubleDot segment then resolveDots k (shorten k before) rest
    else if isSingleDot segment then resolveDots k before rest
    else resolveDots k (asDrive k before segment :: before) rest

/-- Characters that are encoded wherever they stand: of ASCII the control characters, and all others
beyond. -/
def isEncoded (c : Char) : Bool := c.toNat < 0x20 || 0x7e < c.toNat

/-- Characters that are encoded in segments: also the blank, double quotes, `#`, `<`, `>`, `?`, `^`,
the backquote and braces. -/
def isEncodedInSegment (c : Char) : Bool :=
  isEncoded c || [0x20, 0x22, 0x23, 0x3c, 0x3e, 0x3f, 0x5e, 0x60, 0x7b, 0x7d].contains c.toNat

/-- Without the query and the fragment. -/
def beforeQuery (cs : List Char) : List Char := cs.takeWhile (fun c => c ≠ '?' ∧ c ≠ '#')

/-- The text that segments make up, each behind a slash. -/
def joinSegments (segments : List (List Char)) : List Char := segments.flatMap ('/' :: ·)

/-- A path from its first character on; the slash that it starts with may be missing. -/
def resolvePath (k : SchemeKind) (cs : List Char) : List Char :=
  let cs := (beforeQuery cs).map (fun c => if k.special && c = '\\' then '/' else c)
  let cs := match percentEncode isEncodedInSegment cs with
    | '/' :: rest => rest
    | rest => rest
  joinSegments (resolveDots k [] (splitAt '/' cs)).reverse

/-! ### Locations -/

/-- The path behind an authority: it may be empty, but not on the web. -/
def pathAfterAuthority (k : SchemeKind) (cs : List Char) : List Char :=
  if beforeQuery cs = [] && k = .other then [] else resolvePath k cs

/-- A path of a file starts with exactly one slash. -/
def filePath (cs : List Char) : List Char :=
  '/' :: (resolvePath .file cs).dropWhile (· = '/')

def isSlash (c : Char) : Bool := c = '/' || c = '\\'

/-- The path of a file, from behind the colon of its scheme on. -/
def pathOfFile (cs : List Char) : Option (List Char) :=
  match cs with
  | a :: b :: rest =>
    if isSlash a && isSlash b then
      let host := rest.takeWhile (fun c => !endsAuthority .file c)
      let after := rest.dropWhile (fun c => !endsAuthority .file c)
      match host with
      | [c, d] =>
        if c.isAlpha && (d = ':' || d = '|') then some (filePath rest)
        else if isDomain host then some (filePath after) else none
      | [] => some (filePath after)
      | host => if isDomain host then some (filePath after) else none
    else some (filePath cs)
  | cs => some (filePath cs)

/-- The path of a URL whose scheme has been read. -/
def pathOf : SchemeKind → List Char → Option (List Char)
  | .file, rest => pathOfFile rest
  | .web, rest =>
    (afterAuthority .web (rest.dropWhile isSlash)).map (pathAfterAuthority .web)
  | .other, '/' :: '/' :: rest =>
    (afterAuthority .other rest).map (pathAfterAuthority .other)
  | .other, '/' :: rest => some (resolvePath .other ('/' :: rest))
  | .other, rest => some (percentEncode isEncoded (beforeQuery rest))

/-- The path of a URL, still encoded, or nothing if the text is no URL. -/
def path? (s : String) : Option (List Char) := do
  let (scheme, rest) ← splitScheme (strip s.toList)
  pathOf (.ofName scheme) rest

end Regrant.Location
