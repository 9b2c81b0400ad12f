import PageRuntime.Unicode.Case

/-! Content types: the media type before the first semicolon, and the character set named after
it. -/
namespace PageRuntime.Wire
open Unicode

/-- The media type in small letters; no content type has the empty one. -/
def mediaType (contentType : Option String) : String :=
  lower (String.ofList (trimBlank ((contentType.getD "").toList.takeWhile (· != ';'))))

def isJson (contentType : Option String) : Bool :=
  let media := mediaType contentType
  media == "application/json" || media.endsWith "+json"

def yamlMediaTypes : List String :=
  ["application/yaml", "application/x-yaml", "text/yaml", "text/x-yaml"]

def isYaml (contentType : Option String) : Bool := yamlMediaTypes.contains (mediaType contentType)

/-- The rest after a word, whatever the case of its letters. The long s counts as an s. -/
def dropWord? : List Char → List Char → Option (List Char)
  | [], rest => some rest
  | w :: word, c :: rest =>
    if lowerChar c == [w] || (w == 's' && c.toNat == 0x17F) then dropWord? word rest else none
  | _ :: _, [] => none

def isCharsetChar (c : Char) : Bool := isWord c || c == '.' || c == ':' || c == '-'

/-- The name in `charset = "name`, if the text opens with that; the quote is optional. -/
def charsetHere? (text : List Char) : Option String := do
  let rest ← dropWord? "charset".toList text
  match trimBlankStart rest with
  | '=' :: rest =>
    let rest := trimBlankStart rest
    let rest := match rest with
      | '"' :: rest => rest
      | rest => rest
    match rest.takeWhile isCharsetChar with
    | [] => none
    | name => some (String.ofList name)
  | _ => none

/-- The first character set that a text names. -/
def charsetIn? : List Char → Option String
  | [] => none
  | c :: rest => (charsetHere? (c :: rest)).or (charsetIn? rest)

def charset? (contentType : Option String) : Option String :=
  charsetIn? (contentType.getD "").toList

end PageRuntime.Wire
