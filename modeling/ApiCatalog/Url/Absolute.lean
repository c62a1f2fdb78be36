import ApiCatalog.Url.Host

/-! # Absolute URLs

When a text is an absolute URL. Paths, queries and fragments are never at fault.
-/

namespace ApiCatalog.Url

/-- How the part after a scheme is read. -/
inductive SchemeKind where
  | file
  | special
  | other
  deriving DecidableEq

def SchemeKind.of (scheme : List Char) : SchemeKind :=
  let name := String.ofList (scheme.map Char.toLower)
  if name == "file" then .file
  else if ["http", "https", "ws", "wss", "ftp"].contains name then .special
  else .other

/-- The characters that are read as if they were not there. -/
def isSkipped (c : Char) : Bool := c == '\t' || c == '\n' || c == '\r'

/-- The text without the control characters and spaces around it, and without line breaks and
tabs. -/
def strip (text : String) : List Char :=
  let isEdge (c : Char) : Bool := c.toNat ≤ 0x20
  let cs := text.toList.dropWhile isEdge
  (cs.reverse.dropWhile isEdge).reverse.filter fun c => !isSkipped c

def isSchemeChar (c : Char) : Bool := c.isAlphanum || c == '+' || c == '-' || c == '.'

def scheme? (cs : List Char) : Option (List Char × List Char) :=
  match cs with
  | [] => none
  | first :: _ =>
    let (scheme, rest) := cs.span isSchemeChar
    match rest with
    | ':' :: rest' => if first.isAlpha then some (scheme, rest') else none
    | _ => none

def endsAuthority (special : Bool) (c : Char) : Bool :=
  c == '/' || c == '?' || c == '#' || (special && c == '\\')

/-- The host at the start of a text: up to a colon outside of brackets. -/
def spanHost : Bool → List Char → List Char × List Char
  | _, [] => ([], [])
  | inBrackets, c :: rest =>
    if c == ':' && !inBrackets then ([], c :: rest)
    else
      let inBrackets := if c == '[' then true else if c == ']' then false else inBrackets
      let (host, rest') := spanHost inBrackets rest
      (c :: host, rest')

/-- The fault of a port, which is empty or a number of 16 bits. Where the authority goes on after
the host, a backslash ends the port. -/
def checkPort (cs : List Char) : Option UrlFault :=
  let digits := cs.takeWhile (· != '\\')
  if digits.isEmpty then none
  else if (digitsValue? 10 digits).any (· < wordSize 16) then none
  else some .invalidPort

/-- The user part of an authority, if there is one, and what follows its last at sign. -/
def splitUser (authority : List Char) : Option (List Char) × List Char :=
  if authority.contains '@' then
    let host := (authority.reverse.takeWhile (· != '@')).reverse
    (some (authority.take (authority.length - host.length - 1)), host)
  else (none, authority)

def checkAuthority (special : Bool) (cs : List Char) : Option UrlFault :=
  let (authority, after) := cs.span fun c => !endsAuthority special c
  let (user, hostAndPort) := splitUser authority
  if user == some [] && hostAndPort.isEmpty && !after.isEmpty then some .emptyHost
  else
    let (host, rest) := spanHost false hostAndPort
    if host.isEmpty && (special || !rest.isEmpty) then some .emptyHost
    else
      match checkHost special host with
      | some fault => some fault
      | none =>
        match (if rest.isEmpty then none else checkPort (rest.drop 1)) with
        | some fault => some fault
        | none =>
          if host.isEmpty && user.any (fun u => u != [] && u != [':']) then some .emptyHost
          else none

def checkFile (cs : List Char) : Option UrlFault :=
  let isSlash (c : Char) : Bool := c == '/' || c == '\\'
  match cs with
  | a :: b :: rest =>
    if isSlash a && isSlash b then
      let host := rest.takeWhile fun c => !endsAuthority true c
      let isDrive := match host with
        | [letter, mark] => letter.isAlpha && (mark == ':' || mark == '|')
        | _ => false
      if host.isEmpty || isDrive then none else checkHost true host
    else none
  | _ => none

/-- The fault of a text as an absolute URL, if it has one. -/
def fault? (text : String) : Option UrlFault :=
  match scheme? (strip text) with
  | none => some .noBase
  | some (scheme, rest) =>
    match SchemeKind.of scheme with
    | .file => checkFile rest
    | .special => checkAuthority true (rest.dropWhile fun c => c == '/' || c == '\\')
    | .other =>
      match rest with
      | '/' :: '/' :: rest' => checkAuthority false rest'
      | _ => none

end ApiCatalog.Url
