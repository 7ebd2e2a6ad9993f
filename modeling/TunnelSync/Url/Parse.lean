import TunnelSync.Url.Basic
import TunnelSync.Url.Idna.Domain

/-!
# Reading a URL

`Url.parse` reads an absolute URL. Blanks and controls around it are dropped, and so are tabs and
line ends in it. The special schemes are those of the web and of files: there a backslash counts as
a slash, a host is needed except in a file, and the path is never empty.

* `Url.Host.readDomain`, `Url.Host.readPlain` : the host of a special scheme and of any other; in
  brackets stands an IPv6 address
* `Url.scheme?` : the scheme and what follows its colon
* `Url.readAuthority` : what follows the two slashes, up to the path
* `Url.resolve` : the segments of a path, with `.` and `..` worked out
-/

namespace TunnelSync.Url

/-! ### Hosts -/

namespace Host

/-- The address between brackets. -/
def readBracketed (t : Text) : Except UrlError Host :=
  if t.getLast? == some ']' then
    match Ipv6.parse? (t.drop 1).dropLast with
    | some pieces => .ok (.ipv6 pieces)
    | none => .error .invalidIpv6
  else .error .invalidIpv6

/-- The host of a URL with a special scheme. -/
def readDomain (t : Text) : Except UrlError Host :=
  if t.head? == some '[' then readBracketed t
  else
    match Idna.toAscii? (percentDecode (Text.encode t)) with
    | none => .error .invalidDomain
    | some domain =>
        if domain.isEmpty then .error .emptyHost
        else if Ipv4.endsInNumber domain then
          match Ipv4.parse? domain with
          | some address => .ok (.ipv4 address)
          | none => .error .invalidIpv4
        else .ok (.name domain)

/-- Whether a character may not stand in a host that is taken as it is written. -/
def isRefused (c : Char) : Bool :=
  c.toNat == 0 || "\t\n\r #/:<>?@[\\]^|".toList.contains c

/-- Whether a character is an ASCII control. -/
def isControl (c : Char) : Bool := c.toNat < 0x20 || c.toNat == 0x7F

/-- The host of any other URL; an empty one is none. -/
def readPlain (t : Text) : Except UrlError (Option Host) :=
  if t.head? == some '[' then (readBracketed t).map some
  else if t.any isRefused then .error .invalidHostCharacter
  else if t.isEmpty then .ok none
  else .ok (some (.name (percentEncode isControl t)))

end Host

/-! ### Schemes -/

/-- How a URL is read depends on its scheme. -/
inductive Kind
  | file
  /-- A scheme of the web. -/
  | web
  | other
  deriving DecidableEq, Repr

/-- The kind of a scheme. -/
def kindOf (scheme : Text) : Kind :=
  if scheme = "file".toList then .file
  else if ["http", "https", "ws", "wss", "ftp"].map String.toList |>.contains scheme then .web
  else .other

/-- The port that need not be written. -/
def defaultPort? (scheme : Text) : Option Nat :=
  if scheme = "http".toList ∨ scheme = "ws".toList then some 80
  else if scheme = "https".toList ∨ scheme = "wss".toList then some 443
  else if scheme = "ftp".toList then some 21
  else none

/-- Whether a character ends the authority and begins the path, the query or the fragment. -/
def endsAuthority (kind : Kind) (c : Char) : Bool :=
  c == '/' || c == '?' || c == '#' || (c == '\\' && kind != .other)

/-- Whether a character separates the segments of a path. -/
def isSeparator (kind : Kind) (c : Char) : Bool := c == '/' || (c == '\\' && kind != .other)

/-- Whether a character may stand in a scheme. -/
def isSchemeChar (c : Char) : Bool := c.isAlphanum || c == '+' || c == '-' || c == '.'

/-- The scheme in small letters, and what follows its colon. -/
def scheme? (t : Text) : Option (Text × Text) :=
  if (t.head?.map Char.isAlpha).getD false then
    match t.dropWhile isSchemeChar with
    | ':' :: rest => some ((t.takeWhile isSchemeChar).map Text.asciiLower, rest)
    | _ => none
  else none

/-! ### Characters that are written as percent triplets -/

/-- In a fragment. -/
def inFragment (c : Char) : Bool :=
  Host.isControl c || c == ' ' || c == '"' || c == '<' || c == '>' || c == '\x60'

/-- In a path. -/
def inPath (c : Char) : Bool := inFragment c || c == '#' || c == '?' || c == '\x7b' || c == '\x7d'

/-- In a user name or a password. -/
def inUserInfo (c : Char) : Bool := inPath c || "/:;=@[\\]^|".toList.contains c

/-- In a query. -/
def inQuery (kind : Kind) (c : Char) : Bool :=
  Host.isControl c || c == ' ' || c == '"' || c == '#' || c == '<' || c == '>'
    || (c == '\'' && kind != .other)

/-! ### The authority -/

/-- User name and password of the text before the last `@` of an authority. -/
def readUserInfo (t : Text) : Text × Option Text :=
  let username := percentEncode inUserInfo (t.takeWhile (· != ':'))
  let password := percentEncode inUserInfo ((t.dropWhile (· != ':')).drop 1)
  (username, if password.isEmpty then none else some password)

/-- The text before the last `@`, if there is one, and the text behind it. -/
def splitUserInfo (authority : Text) : Option Text × Text :=
  match authority.reverse.dropWhile (· != '@') with
  | [] => (none, authority)
  | _ :: before => (some before.reverse, (authority.reverse.takeWhile (· != '@')).reverse)

/-- The host before its colon, and the rest. A colon between brackets belongs to the host. -/
def splitHost (inBrackets : Bool) : Text → Text × Text
  | [] => ([], [])
  | c :: t =>
      if c == ':' && !inBrackets then ([], c :: t)
      else
        let (host, rest) := splitHost (c == '[' || (inBrackets && c != ']')) t
        (c :: host, rest)

/-- The port behind a colon, and the rest. A backslash ends the port in every URL. -/
def readPort (scheme : Text) (t : Text) : Except UrlError (Option Nat × Text) :=
  let ds := t.takeWhile (·.isDigit)
  let rest := t.dropWhile (·.isDigit)
  let port := ds.foldl (fun n c => n * 10 + (c.toNat - 0x30)) 0
  let ended := match rest with
    | [] => true
    | c :: _ => c == '/' || c == '\\' || c == '?' || c == '#'
  if port ≥ Nat.pow 2 16 || !ended then .error .invalidPort
  else if ds.isEmpty || some port == defaultPort? scheme then .ok (none, rest)
  else .ok (some port, rest)

/-- The host of a URL that is not a file. A URL of the web needs one. -/
def readHost (kind : Kind) (t : Text) : Except UrlError (Option Host) :=
  if kind = .other then Host.readPlain t
  else if t.isEmpty then .error .emptyHost
  else (Host.readDomain t).map some

/-- The authority behind the two slashes, and the rest of the URL. -/
def readAuthority (scheme : Text) (kind : Kind) (t : Text) :
    Except UrlError (Authority × Text) := do
  let upToPath := t.takeWhile (!endsAuthority kind ·)
  let behind := t.dropWhile (!endsAuthority kind ·)
  let (userInfo, hostPort) := splitUserInfo upToPath
  if userInfo == some [] && hostPort.isEmpty && !behind.isEmpty then throw .emptyHost
  let (username, password) := readUserInfo (userInfo.getD [])
  let (hostText, rest) := splitHost false hostPort
  let host ← readHost kind hostText
  if host.isNone && (!rest.isEmpty || !username.isEmpty || password.isSome) then throw .emptyHost
  let (port, rest) ← match rest with
    | [] => pure (none, [])
    | _ :: portText => readPort scheme portText
  return (⟨username, password, host, port⟩, rest ++ behind)

/-! ### The path -/

/-- The forms of a segment that stands for the same place. -/
def isSingleDot (s : Text) : Bool :=
  [".", "%2e"].map String.toList |>.contains (s.map Text.asciiLower)

/-- The forms of a segment that stands for the place above. -/
def isDoubleDot (s : Text) : Bool :=
  ["..", ".%2e", "%2e.", "%2e%2e"].map String.toList |>.contains (s.map Text.asciiLower)

/-- Whether a segment is the letter of a drive. -/
def isDrive : Text → Bool
  | [c, d] => c.isAlpha && (d == ':' || d == '|')
  | _ => false

/-- The segments without the last one; `done` has the last segment first. No path goes above a
drive. -/
def goUp (done : List Text) : List Text :=
  match done with
  | [] => []
  | s :: rest => if isDrive s then done else rest

/-- The written form of a segment. -/
def segmentText (kind : Kind) (s : Text) : Text :=
  match s with
  | [c, _] => if kind = .file && isDrive s then [c, ':'] else percentEncode inPath s
  | s => percentEncode inPath s

/-- The segments behind those in `done`, which has the last segment first. A path that ends in `.`
or `..` ends in a slash. -/
def resolveFrom (kind : Kind) (done : List Text) : List Text → List Text
  | [] => done.reverse
  | s :: rest =>
      let ends := rest.isEmpty
      if isDoubleDot s then
        resolveFrom kind (if ends then [] :: goUp done else goUp done) rest
      else if isSingleDot s then resolveFrom kind (if ends then [] :: done else done) rest
      else resolveFrom kind (segmentText kind s :: done) rest

/-- The segments of a path as it is written, without the slash before it. -/
def rawSegments (kind : Kind) (t : Text) : List Text :=
  Text.fields '/' (if kind = .other then t else t.map fun c => if c == '\\' then '/' else c)

/-- The segments of a path, worked out. -/
def resolve (kind : Kind) (t : Text) : List Text :=
  let segments := resolveFrom kind [] (rawSegments kind t)
  if kind = .file then
    match segments.dropWhile (·.isEmpty) with
    | [] => [[]]
    | kept => kept
  else segments

/-- The path without the slash before it. -/
def dropSeparator (kind : Kind) : Text → Text
  | [] => []
  | c :: t => if isSeparator kind c then t else c :: t

/-- The path behind an authority. Outside the special schemes it may be missing. -/
def readPath (kind : Kind) (t : Text) : Path :=
  if kind = .other && t.isEmpty then .rooted []
  else .rooted (resolve kind (dropSeparator kind t))

/-! ### Query and fragment -/

/-- Whether a character begins the query or the fragment. -/
def endsPath (c : Char) : Bool := c == '?' || c == '#'

/-- The query and the fragment of what stands behind the path. -/
def readTail (kind : Kind) (t : Text) : Option Text × Option Text :=
  let readFragment (t : Text) : Option Text :=
    match t with
    | [] => none
    | _ :: fragment => some (percentEncode inFragment fragment)
  match t with
  | '?' :: rest =>
      (some (percentEncode (inQuery kind) (rest.takeWhile (· != '#'))),
        readFragment (rest.dropWhile (· != '#')))
  | t => (none, readFragment t)

/-- The URL of its parts as they are read: everything but query and fragment, and those. -/
def assemble (scheme : Text) (kind : Kind) (authority : Option Authority) (path : Path)
    (tail : Text) : Url :=
  let (query, fragment) := readTail kind tail
  ⟨scheme, authority, path, query, fragment⟩

/-- The part of a text before the query or the fragment. -/
def pathPart (t : Text) : Text := t.takeWhile (!endsPath ·)

/-- The query and the fragment of a text. -/
def tailPart (t : Text) : Text := t.dropWhile (!endsPath ·)

/-! ### Whole URLs -/

/-- The text without blanks and controls around it, and without tabs and line ends in it. -/
def clean (t : Text) : Text :=
  let around (c : Char) : Bool := c.toNat ≤ 0x20
  (((t.dropWhile around).reverse.dropWhile around).reverse).filter fun c =>
    c != '\t' && c != '\n' && c != '\r'

/-- The host of a file. This machine is the same as none. -/
def readFileHost (t : Text) : Except UrlError (Option Host) :=
  if t.isEmpty then .ok none
  else (Host.readDomain t).map fun h => if h = .name "localhost" then none else some h

/-- The URL of a file, from behind the colon on. A drive in the path leaves no room for a host. -/
def parseFile (scheme t : Text) : Except UrlError Url := do
  let build (host : Option Host) (path : Text) : Url :=
    let p := readPath .file (pathPart path)
    let hasDrive := (rawSegments .file (pathPart path)).any isDrive
    assemble scheme .file (some { Authority.empty with host := if hasDrive then none else host }) p
      (tailPart path)
  match t with
  | c :: d :: rest =>
      if isSeparator .file c && isSeparator .file d then
        let hostText := rest.takeWhile (!endsAuthority .file ·)
        if isDrive hostText then return build none rest
        let host ← readFileHost hostText
        return build host (rest.dropWhile (!endsAuthority .file ·))
      else return build none t
  | t => return build none t

/-- The URL of another scheme, from behind the colon on. -/
def parseOther (scheme t : Text) : Except UrlError Url :=
  match t with
  | '/' :: '/' :: rest => do
      let (authority, rest) ← readAuthority scheme .other rest
      return assemble scheme .other (some authority) (readPath .other (pathPart rest)) (tailPart rest)
  | '/' :: _ =>
      .ok (assemble scheme .other none (readPath .other (pathPart t)) (tailPart t))
  | t =>
      .ok (assemble scheme .other none (.plain (percentEncode Host.isControl (pathPart t)))
        (tailPart t))

/-- The URL of the web, from behind the colon on. Any number of slashes may precede the host. -/
def parseWeb (scheme t : Text) : Except UrlError Url := do
  let (authority, rest) ← readAuthority scheme .web (t.dropWhile (isSeparator .web))
  return assemble scheme .web (some authority) (readPath .web (pathPart rest)) (tailPart rest)

/-- Reads an absolute URL. -/
def parse (t : Text) : Except UrlError Url :=
  match scheme? (clean t) with
  | none => .error .noScheme
  | some (scheme, rest) =>
      match kindOf scheme with
      | .file => parseFile scheme rest
      | .web => parseWeb scheme rest
      | .other => parseOther scheme rest

end TunnelSync.Url
