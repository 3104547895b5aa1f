import MarkerScan.Http.Address
import MarkerScan.Http.Punycode
import MarkerScan.Text.LetterCase
import MarkerScan.Text.Utf8
/-
  MarkerScan.Http.Url — absolute URLs in their normal form.

  Controls and spaces at the ends of the text and every tab and line end in it do not
  count. The scheme is in lower case. The schemes of the web are special: any number of
  slashes and backslashes leads to the host, a backslash is a slash in the path as well,
  the host is not empty and the path is at least `/`. A host of a special scheme is in
  ASCII and lower case, and an address in its usual form; the number after the host is
  left out where it goes with the scheme. `.` and `..` are taken out of a path. What a
  part cannot hold is written as percent signs and bytes. A user name and a password are
  dropped.

  What a host name outside ASCII becomes is a parameter (`HostNames`), and so is a name
  with a part that stands for such letters. The names to run with are in small letters and
  punycode; the mappings and the checks that the standard has for other letters are left
  out.
-/

namespace MarkerScan.Http

open Text

structure Url where
  scheme : List Char
  /-- No host and an empty host are different things: only the second one has `//` before it. -/
  host : Option (List Char)
  /-- The number after the host, where it is not the one that goes with the scheme. -/
  portNumber : Option Nat
  path : List Char
  query : Option (List Char)
  fragment : Option (List Char)
  deriving DecidableEq, Repr

/-- What a host name becomes that is not in ASCII, or has a part that stands for other letters. -/
class HostNames where
  ascii? : List Char → Option (List Char)

namespace Url

/-- The text of a URL. A path that could be taken for a host has `/.` before it. -/
def text (u : Url) : String :=
  String.ofList (u.scheme ++ ':' ::
    ((match u.host with
      | some host => '/' :: '/' :: host
      | none => if ['/', '/'].isPrefixOf u.path then ['/', '.'] else [])
    ++ (match u.portNumber with
      | some n => ':' :: (toString n).toList
      | none => [])
    ++ u.path
    ++ (match u.query with
      | some query => '?' :: query
      | none => [])
    ++ (match u.fragment with
      | some fragment => '#' :: fragment
      | none => [])))

def isWeb (u : Url) : Bool := u.scheme == "http".toList || u.scheme == "https".toList

/-! ## Percent signs -/

/-- A byte as a percent sign and two digits. -/
def percentByte (b : UInt8) : List Char :=
  ['%', (Nat.digitChar (b.toNat / 16)).toUpper, (Nat.digitChar (b.toNat % 16)).toUpper]

def isControl (c : Char) : Bool := decide (c.toNat < 32) || decide (126 < c.toNat)

/-- Writes the controls, the characters that are not ASCII and those of a set as bytes. -/
def percentEncode (set : List Char) (s : List Char) : List Char :=
  s.flatMap fun c => if isControl c || set.contains c then (String.singleton c).toUTF8.data.toList.flatMap percentByte
    else [c]

def fragmentSet : List Char := [' ', '"', '<', '>', '`']
def pathSet : List Char := fragmentSet ++ ['#', '?', '\x7b', '\x7d']
def querySet (special : Bool) : List Char := [' ', '"', '#', '<', '>'] ++ if special then ['\''] else []

/-- The bytes of a text, with those after percent signs read. -/
def percentBytes : List Char → List UInt8
  | '%' :: a :: b :: rest =>
    match Json.hexValue? a, Json.hexValue? b with
    | some a, some b => UInt8.ofNat (a * 16 + b) :: percentBytes rest
    | _, _ => '%'.toUInt8 :: percentBytes (a :: b :: rest)
  | c :: rest => (String.singleton c).toUTF8.data.toList ++ percentBytes rest
  | [] => []

/-! ## Scheme -/

def isSchemeChar (c : Char) : Bool := c.isAlphanum || c == '+' || c == '-' || c == '.'

/-- The scheme in lower case, and the text after its colon. -/
def scheme? (s : List Char) : Option (List Char × List Char) :=
  match s.dropWhile isSchemeChar with
  | ':' :: rest =>
    if (s.head?.map Char.isAlpha).getD false then some ((s.takeWhile isSchemeChar).map Char.toLower, rest) else none
  | _ => none

/-- The special schemes but `file`, with the number that goes with each. -/
def specialNumbers : List (List Char × Nat) :=
  [("http".toList, 80), ("https".toList, 443), ("ws".toList, 80), ("wss".toList, 443), ("ftp".toList, 21)]

def isFile (scheme : List Char) : Bool := scheme == "file".toList

def isSpecial (scheme : List Char) : Bool := (specialNumbers.lookup scheme).isSome || isFile scheme

/-! ## Host and number -/

def isDot (c : Char) : Bool := c == '.' || c == '。' || c == '．' || c == '｡'

/-- The characters that no host may hold. -/
def isHostBreaker (c : Char) : Bool :=
  [' ', '#', '/', ':', '<', '>', '?', '@', '[', '\\', ']', '^', '|'].contains c

def asciiLabel (label : List Char) : List Char :=
  if label.all (·.toNat < 128) then label else "xn--".toList ++ Punycode.encode label

/-- The names to run with. -/
instance : HostNames where
  ascii? name :=
    let name := (lower name).filter (· != '\u00AD') |>.map fun c => if isDot c then '.' else c
    some (join '.' ((split '.' name).map asciiLabel))

/-- A name in ASCII, none of whose parts stands for other letters. -/
def isPlainName (name : List Char) : Bool :=
  name.all (·.toNat < 128) && (split '.' name).all fun part => !"xn--".toList.isPrefixOf (part.map Char.toLower)

/-- The text of a host whose bytes may be written after percent signs. -/
def unescaped? (host : List Char) : Option (List Char) :=
  if host.contains '%' then (Utf8.decodeStrict ⟨(percentBytes host).toArray⟩).toOption else some host

/-- A name in ASCII and lower case, if it can be one. -/
def asciiHost? [HostNames] (host : List Char) : Option (List Char) := do
  let name ← unescaped? host
  let name ← if isPlainName name then some (name.map Char.toLower) else HostNames.ascii? name
  if name.isEmpty || name.any fun c => isControl c || isHostBreaker c || c == '%' then none else some name

/-- What stands between brackets around the whole text. -/
def bracketed? : List Char → Option (List Char)
  | '[' :: rest => if rest.getLast? = some ']' then some rest.dropLast else none
  | _ => none

/-- A host in its normal form. -/
def host? [HostNames] (special : Bool) (host : List Char) : Option (List Char) :=
  if host.head? = some '[' then do
    let groups ← eightGroups? (← bracketed? host)
    return '[' :: (eightGroupsText groups ++ [']'])
  else if special then do
    let name ← asciiHost? host
    if endsInNumber name then (fourBytes? name).map fourBytesText else some name
  else if host.any fun c => c == '\x00' || isHostBreaker c then none
  else some (percentEncode [] host)

/-- A host and the text after it. Colons in brackets belong to the host. -/
def splitHost (inBrackets : Bool) : List Char → List Char × List Char
  | [] => ([], [])
  | c :: rest =>
    if c == ':' && !inBrackets then ([], c :: rest)
    else
      let (host, after) := splitHost (c == '[' || (inBrackets && c != ']')) rest
      (c :: host, after)

/-- The number after a colon; one that goes without saying is left out. -/
def portNumber? (scheme : List Char) : List Char → Option (Option Nat)
  | ':' :: digits => do
    let n ← digitsIn 10 digits
    if 65535 < n then none
    else some (if digits.isEmpty || specialNumbers.lookup scheme == some n then none else some n)
  | _ => some none

/-! ## Path, query and fragment -/

/-- A segment with its written-out dots. -/
def plainDots : List Char → List Char
  | '%' :: '2' :: 'e' :: rest => '.' :: plainDots rest
  | '%' :: '2' :: 'E' :: rest => '.' :: plainDots rest
  | c :: rest => c :: plainDots rest
  | [] => []

/-- Takes `.` and `..` out of the segments; `kept` are those before, the latest first. -/
def resolve (kept : List (List Char)) : List (List Char) → List (List Char)
  | [] => kept.reverse
  | s :: rest =>
    let ending := if rest.isEmpty then [[]] else []
    if plainDots s = ['.', '.'] then resolve (ending ++ kept.drop 1) rest
    else if plainDots s = ['.'] then resolve (ending ++ kept) rest
    else resolve (s :: kept) rest

def isSlash (special : Bool) (c : Char) : Bool := c == '/' || (special && c == '\\')

/-- A path from its text, whose first character is a slash if there is one. -/
def pathOf (special : Bool) (s : List Char) : List Char :=
  if s.isEmpty && !special then []
  else
    let segments := split '/' ((s.map fun c => if isSlash special c then '/' else c).drop 1)
    '/' :: join '/' ((resolve [] segments).map (percentEncode pathSet))

def isPathEnd (c : Char) : Bool := c == '?' || c == '#'

/-- What comes after the path. -/
def withRest (u : Url) (rest : List Char) : Url :=
  let query := rest.takeWhile (· != '#')
  { u with
    query := if query.isEmpty then none else some (percentEncode (querySet (isSpecial u.scheme)) (query.drop 1))
    fragment := match rest.dropWhile (· != '#') with
      | _ :: fragment => some (percentEncode fragmentSet fragment)
      | [] => none }

def withPath (u : Url) (s : List Char) : Url :=
  { u with path := pathOf (isSpecial u.scheme) (s.takeWhile (!isPathEnd ·)) }.withRest (s.dropWhile (!isPathEnd ·))

/-! ## The whole URL -/

def bare (scheme : List Char) : Url := ⟨scheme, none, none, [], none, none⟩

/-- What comes after the slashes: the host behind the last `@`, and the rest. -/
def ofAuthority? [HostNames] (scheme s : List Char) : Option Url := do
  let special := isSpecial scheme
  let isEnd (c : Char) : Bool := isSlash special c || isPathEnd c
  let authority := split '@' (s.takeWhile (!isEnd ·))
  let (host, after) := splitHost false (authority.getLastD [])
  if host.isEmpty && (special || 1 < authority.length || !after.isEmpty) then none
  else
    let host ← host? special host
    let n ← portNumber? scheme after
    return { bare scheme with host := some host, portNumber := n }.withPath (s.dropWhile (!isEnd ·))

/-- What comes after `file:`. -/
def ofFile? [HostNames] (scheme : List Char) : List Char → Option Url
  | a :: b :: rest =>
    if isSlash true a && isSlash true b then do
      let isEnd (c : Char) : Bool := isSlash true c || isPathEnd c
      let name := rest.takeWhile (!isEnd ·)
      let host ← if name.isEmpty then some [] else host? true name
      return { bare scheme with host := some (if host = "localhost".toList then [] else host) }.withPath
        (rest.dropWhile (!isEnd ·))
    else some ({ bare scheme with host := some [] }.withPath
      (if isSlash true a then a :: b :: rest else '/' :: a :: b :: rest))
  | rest => some ({ bare scheme with host := some [] }.withPath
      (if (rest.head?.map (isSlash true)).getD true then rest else '/' :: rest))

/-- Without the controls and spaces at the ends and the tabs and line ends anywhere. -/
def clean (s : List Char) : List Char :=
  let isEdge (c : Char) : Bool := decide (c.toNat ≤ 32)
  (((s.dropWhile isEdge).reverse.dropWhile isEdge).reverse).filter fun c => c != '\t' && c != '\n' && c != '\r'

/-- A URL from its text, if it has a scheme and nothing in it is wrong. -/
def parse? [HostNames] (s : List Char) : Option Url := do
  let (scheme, rest) ← scheme? (clean s)
  if isFile scheme then ofFile? scheme rest
  else if isSpecial scheme then ofAuthority? scheme (rest.dropWhile (isSlash true))
  else match rest with
    | '/' :: '/' :: rest => ofAuthority? scheme rest
    | '/' :: rest => some ((bare scheme).withPath ('/' :: rest))
    | rest => some ({ bare scheme with path := percentEncode [] (rest.takeWhile (!isPathEnd ·)) }.withRest
        (rest.dropWhile (!isPathEnd ·)))

/-- Whether there is a host to send something to. -/
def hasHost (u : Url) : Bool := !(u.host.getD []).isEmpty

end Url

end MarkerScan.Http
