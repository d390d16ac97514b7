import EndSession.Uri.Authority

/-
This file splits a URI into its parts and writes the parts as a URI. Blanks and controls in front are
dropped, and tabs and line ends everywhere.
-/

namespace EndSession.Uri

open Text

/-- The parts of a URI, each without its delimiters. An empty part and an absent one are the same. -/
structure Parts where
  scheme : List CodePoint
  authority : List CodePoint
  path : List CodePoint
  parameters : List CodePoint
  query : List CodePoint
  fragment : List CodePoint
deriving DecidableEq

namespace Parts

/-- The schemes whose last path segment may carry parameters. In this list, as in the next, there is no
`rtsps`: such a URI has no parameters, and without an authority it is written without two slashes. -/
def schemesWithParameters : List String :=
  ["", "ftp", "hdl", "prospero", "http", "imap", "https", "shttp", "rtsp", "rtspu", "sip",
   "sips", "mms", "sftp", "tel"]

/-- The schemes that are written with two slashes even in front of an empty authority. -/
def schemesWithAuthority : List String :=
  ["ftp", "http", "gopher", "nntp", "telnet", "imap", "wais", "file", "mms", "https", "shttp",
   "snews", "prospero", "rtsp", "rtspu", "rsync", "svn", "svn+ssh", "sftp", "nfs", "git",
   "git+ssh", "ws", "wss"]

/-- A letter of ASCII. -/
def isLetter (point : CodePoint) : Bool :=
  point.isAlpha

/-- A character of a scheme. -/
def isSchemeChar (point : CodePoint) : Bool :=
  point.isAlphanum || point == '+' || point == '-' || point == '.'

/-- A URI as it is read. -/
def clean (text : List CodePoint) : List CodePoint :=
  (text.dropWhile fun point => point.toNat ≤ 0x20).filter fun point =>
    point != '\t' && point != '\r' && point != '\n'

/-- The scheme in lower case and what follows it. A scheme starts with a letter. -/
def splitScheme (text : List CodePoint) : List CodePoint × List CodePoint :=
  let scheme := before ':' text
  if text.contains ':' && (scheme.head?.any isLetter) && scheme.all isSchemeChar then
    (scheme.map CodePoint.toLower, after ':' text)
  else ([], text)

/-- The code point ends an authority. -/
def endsAuthority (point : CodePoint) : Bool :=
  point == '/' || point == '?' || point == '#'

/-- The authority behind two slashes, and what follows it. -/
def splitAuthority : List CodePoint → List CodePoint × List CodePoint
  | .char '/' :: .char '/' :: rest =>
    (rest.takeWhile (!endsAuthority ·), rest.dropWhile (!endsAuthority ·))
  | text => ([], text)

/-- The path and its parameters, which start at the first semicolon of the last segment. -/
def splitParameters : List CodePoint → List CodePoint × List CodePoint
  | [] => ([], [])
  | point :: rest =>
    if point = ';' ∧ .char '/' ∉ rest then ([], rest)
    else
      let (path, parameters) := splitParameters rest
      (point :: path, parameters)

/-- The scheme is in a list of schemes. -/
def schemeIn (schemes : List String) (scheme : List CodePoint) : Bool :=
  schemes.any fun name => (name : Text).toList == scheme

/-- The parts of a URI, when its authority has no fault. -/
def read (text : List CodePoint) : Except Fault Parts :=
  let (scheme, rest) := splitScheme (clean text)
  let (authority, rest) := splitAuthority rest
  match Authority.checkBrackets authority with
  | .error fault => .error fault
  | .ok () =>
    match Authority.checkCharacters authority with
    | .error fault => .error fault
    | .ok () =>
      let fragment := after '#' rest
      let query := after '?' (before '#' rest)
      let path := before '?' (before '#' rest)
      let (path, parameters) :=
        if schemeIn schemesWithParameters scheme then splitParameters path else (path, [])
      .ok ⟨scheme, authority, path, parameters, query, fragment⟩

/-- A part with the character that introduces it, unless it is empty. -/
def introduced (mark : CodePoint) (part : List CodePoint) : List CodePoint :=
  if part.isEmpty then [] else mark :: part

/-- The path with its parameters, behind the authority. Two slashes are written for an authority,
and for a scheme that has one unless the path starts with them. -/
def writeHierarchy (parts : Parts) : List CodePoint :=
  let path := parts.path ++ introduced ';' parts.parameters
  if !parts.authority.isEmpty ||
      (schemeIn schemesWithAuthority parts.scheme && path.take 2 != CodePoint.ofChars ['/', '/']) then
    .char '/' :: .char '/' :: (parts.authority ++
      (if path.isEmpty || path.head? == some (CodePoint.char '/') then path else .char '/' :: path))
  else path

/-- The URI of the parts. -/
def write (parts : Parts) : List CodePoint :=
  (if parts.scheme.isEmpty then [] else parts.scheme ++ [CodePoint.char ':']) ++ parts.writeHierarchy ++
    introduced '?' parts.query ++ introduced '#' parts.fragment

/-- The host that the authority names. -/
def host (parts : Parts) : List CodePoint :=
  Authority.host parts.authority

end Parts

end EndSession.Uri
