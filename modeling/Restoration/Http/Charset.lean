/-
The text of a body. Its first bytes can be a mark that tells the encoding;
if they are not, the content type can name it, and otherwise it is UTF-8.
Of the encodings that a content type can name, those of all characters are
known; a body in any other one is read as UTF-8.
-/
import Restoration.Http.Message
import Restoration.Text.Blank
import Restoration.Text.Utf16

namespace Restoration.Http

/-- An encoding of all characters. -/
inductive Charset
  | utf8
  | utf16 (order : Utf16.Order)
  deriving DecidableEq, Repr

namespace Charset

/-- Lossy reading. -/
def lossy : Charset → Bytes → String
  | .utf8, b => Utf8.lossy b
  | .utf16 order, b => Utf16.lossy order b

/-- The encoding with a name in small letters. -/
def ofName? : String → Option Charset
  | "utf-8" | "utf8" | "unicode-1-1-utf-8" | "unicode11utf8" | "unicode20utf8" |
      "x-unicode20utf8" =>
    some .utf8
  | "utf-16" | "utf-16le" | "unicode" | "unicodefeff" | "ucs-2" |
      "iso-10646-ucs-2" | "csunicode" =>
    some (.utf16 .lowFirst)
  | "utf-16be" | "unicodefffe" => some (.utf16 .highFirst)
  | _ => none

/-- The parameters of a content type: what stands between semicolons. -/
def parameters (contentType : String) : List (String × String) :=
  (contentType.toList.splitOn ';').drop 1 |>.map fun cs =>
    let value := Text.trim (String.ofList ((cs.dropWhile (· ≠ '=')).drop 1))
    ((Text.trim (String.ofList (cs.takeWhile (· ≠ '=')))).toLower,
      String.ofList (value.toLower.toList.filter (· ≠ '"')))

/-- The encoding that a content type names. -/
def ofContentType? (contentType : String) : Option Charset :=
  ((parameters contentType).lookup "charset").bind ofName?

/-- The encoding that a mark tells, and the bytes after the mark. -/
def ofMark? : Bytes → Option (Charset × Bytes)
  | 0xEF :: 0xBB :: 0xBF :: rest => some (.utf8, rest)
  | 0xFE :: 0xFF :: rest => some (.utf16 .highFirst, rest)
  | 0xFF :: 0xFE :: rest => some (.utf16 .lowFirst, rest)
  | _ => none

end Charset

/-- The text of a response's body. -/
def Response.text (r : Response) : String :=
  match Charset.ofMark? r.body with
  | some (charset, rest) => charset.lossy rest
  | none =>
    ((r.contentType.bind Charset.ofContentType?).getD .utf8).lossy r.body

end Restoration.Http
