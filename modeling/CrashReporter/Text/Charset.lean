import CrashReporter.Text.Utf8

/-!
# Character sets

How the bytes of a document become a text: by the character set that its media type names, unless they
begin with a byte order mark, which says better.
-/

namespace CrashReporter.Text

/-- A way to read bytes as characters. -/
inductive Charset where
  | utf8
  | utf16 (bigEndian : Bool)
  | windows1252
  deriving DecidableEq, Inhabited

namespace Charset

/-- The names of each character set. The old names of Latin-1 and ASCII mean their superset. -/
def labels : List (Charset × List String) := [
  (.utf8, ["utf-8", "utf8", "unicode-1-1-utf-8", "unicode11utf8", "unicode20utf8", "x-unicode20utf8"]),
  (.utf16 false, ["utf-16", "utf-16le", "csunicode", "iso-10646-ucs-2", "ucs-2", "unicode", "unicodefeff"]),
  (.utf16 true, ["utf-16be", "unicodefffe"]),
  (.windows1252, ["windows-1252", "cp1252", "x-cp1252", "iso-8859-1", "iso8859-1", "iso88591",
    "iso_8859-1", "iso_8859-1:1987", "latin1", "l1", "ascii", "us-ascii", "ansi_x3.4-1968", "cp819",
    "csisolatin1", "ibm819", "iso-ir-100"])]

/-- The character set of that name, in letters of either case. -/
def ofLabel? (name : String) : Option Charset :=
  (labels.find? (·.2.contains name.toLower)).map (·.1)

/-- The characters of the bytes from 0x80 to 0x9F. -/
def windowsUpper : List Nat :=
  [0x20AC, 0x81, 0x201A, 0x192, 0x201E, 0x2026, 0x2020, 0x2021, 0x2C6, 0x2030, 0x160, 0x2039, 0x152,
    0x8D, 0x17D, 0x8F, 0x90, 0x2018, 0x2019, 0x201C, 0x201D, 0x2022, 0x2013, 0x2014, 0x2DC, 0x2122,
    0x161, 0x203A, 0x153, 0x9D, 0x17E, 0x178]

/-- The character of a byte; beyond 0x9F it is the one of the same number. -/
def windowsChar (b : UInt8) : Char :=
  Char.ofNat (if 0x80 ≤ b && b ≤ 0x9F then windowsUpper.getD (b.toNat - 0x80) 0 else b.toNat)

/-- The 16-bit units of bytes, and whether one byte is left over. -/
def units (bigEndian : Bool) : Bytes → List Nat × Bool
  | a :: b :: rest =>
    let (us, odd) := units bigEndian rest
    ((if bigEndian then 256 * a.toNat + b.toNat else 256 * b.toNat + a.toNat) :: us, odd)
  | [_] => ([], true)
  | [] => ([], false)

/-- The characters of units. A half of a pair that stands alone is malformed; one that the bytes end
within is malformed together with the byte left over. -/
def unitChars (odd : Bool) : List Nat → List Char
  | [] => if odd then [replacement] else []
  | [u] => if 0xD800 ≤ u && u ≤ 0xDFFF then
      (if odd && 0xDC00 ≤ u then [replacement, replacement] else [replacement])
    else Char.ofNat u :: unitChars odd []
  | u :: v :: rest =>
    if 0xD800 ≤ u && u ≤ 0xDBFF && 0xDC00 ≤ v && v ≤ 0xDFFF then
      Char.ofNat (0x10000 + 1024 * (u - 0xD800) + (v - 0xDC00)) :: unitChars odd rest
    else (if 0xD800 ≤ u && u ≤ 0xDFFF then replacement else Char.ofNat u) :: unitChars odd (v :: rest)

/-- The text of bytes in a character set, with replacement characters where they are malformed. -/
def text (set : Charset) (bs : Bytes) : String :=
  match set with
  | .utf8 => ofUtf8Lossy bs
  | .utf16 bigEndian =>
    let (us, odd) := units bigEndian bs
    String.ofList (unitChars odd us)
  | .windows1252 => String.ofList (bs.map windowsChar)

/-- The text of a document, whose byte order mark, if it has one, says how to read it. -/
def decode (set : Charset) (bs : Bytes) : String :=
  match bs with
  | 0xEF :: 0xBB :: 0xBF :: rest => text .utf8 rest
  | 0xFE :: 0xFF :: rest => text (.utf16 true) rest
  | 0xFF :: 0xFE :: rest => text (.utf16 false) rest
  | bs => text set bs

/-- Whether a character may stand in a word of a media type. -/
def isTokenChar (c : Char) : Bool := c.isAlphanum || "!#$%&'*+-.^_`|~".contains c

/-- Whether a word of a media type. -/
def isToken (cs : List Char) : Bool := !cs.isEmpty && cs.all isTokenChar

/-- A parameter of a media type: its name and its value, which may stand between quotes. -/
def parameter? (cs : List Char) : Option (String × String) :=
  let cs := cs.dropWhile (· == ' ')
  let (name, rest) := cs.span (· != '=')
  let value? : Option (List Char) := match rest with
    | '=' :: '"' :: quoted =>
      if quoted.getLast? = some '"' && !quoted.dropLast.contains '"' then some quoted.dropLast else none
    | '=' :: value => if isToken value then some value else none
    | _ => none
  if isToken name then value?.map fun value => ((String.ofList name).toLower, String.ofList value)
  else none

/-- The parameters of a media type, if it is well formed. -/
def parameters? (mediaType : String) : Option (List (String × String)) :=
  match (mediaType.splitOn ";").map String.toList with
  | essence :: more =>
    let (main, rest) := essence.span (· != '/')
    if isToken main && isToken (rest.drop 1) then more.mapM parameter? else none
  | [] => none

/-- The character set of a document of that media type; without a known name it is UTF-8. -/
def ofMediaType (mediaType : Option String) : Charset :=
  (do (← parameters? (← mediaType)).lookup "charset" >>= ofLabel?).getD .utf8

end Charset

end CrashReporter.Text
