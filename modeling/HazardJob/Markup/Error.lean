/-! What can be wrong with a marked-up document, and how it is told. -/
namespace HazardJob.Markup

/-- What is wrong with a tag's attributes; positions count bytes from the start of the tag's
text. -/
inductive AttributeError where
  | expectedEquals (position : Nat)
  | expectedValue (position : Nat)
  | unquotedValue (position : Nat)
  | expectedQuote (position : Nat) (quote : Char)
deriving DecidableEq

def AttributeError.message : AttributeError → String
  | expectedEquals position =>
    "position " ++ toString position ++
      ": attribute key must be directly followed by `=` or space"
  | expectedValue position =>
    "position " ++ toString position ++ ": `=` must be followed by an attribute value"
  | unquotedValue position =>
    "position " ++ toString position ++ ": attribute value must be enclosed in `\"` or `\x27`"
  | expectedQuote position quote =>
    "position " ++ toString position ++ ": missing closing quote `" ++ quote.toString ++
      "` in attribute value"

/-- What is wrong with the number of a character reference. -/
inductive NumberError where
  | sign | empty | badDigit | tooLarge
  | nul
  | noCharacter (code : Nat)
deriving DecidableEq

def NumberError.message : NumberError → String
  | sign => "unexpected number sign"
  | empty => "cannot parse integer from empty string"
  | badDigit => "invalid digit found in string"
  | tooLarge => "number too large to fit in target type"
  | nul => "0x0 character is not permitted in XML"
  | noCharacter code => "`" ++ toString code ++ "` is not a valid codepoint"

/-- What is wrong with a reference in a text; positions count bytes from its start. -/
inductive ReferenceError where
  | unknownEntity (first last : Nat) (name : String)
  | unterminated (first last : Nat)
  | badNumber (error : NumberError)
deriving DecidableEq

/-- A range of positions, the last one excluded. -/
def rangeText (first last : Nat) : String := toString first ++ ".." ++ toString last

def ReferenceError.message : ReferenceError → String
  | unknownEntity first last name =>
    "at " ++ rangeText first last ++ ": unrecognized entity `" ++ name ++ "`"
  | unterminated first last =>
    "Error while escaping character at range " ++ rangeText first last ++
      ": Cannot find ';' after '&'"
  | badNumber error => "invalid character reference: " ++ error.message

/-- Markup that has no end. -/
inductive Unclosed where
  | tag | comment | characterData | doctype | instruction
deriving DecidableEq

def Unclosed.message : Unclosed → String
  | tag => "tag not closed: `>` not found before end of input"
  | comment => "comment not closed: `-->` not found before end of input"
  | characterData => "CDATA not closed: `]]>` not found before end of input"
  | doctype => "DOCTYPE not closed: `>` not found before end of input"
  | instruction =>
    "processing instruction or xml declaration not closed: `?>` not found before end of input"

inductive Error where
  | unclosed (what : Unclosed)
  | unknownMarkup
  | mismatchedEnd (expected found : String)
  | unmatchedEnd (found : String)
  | namelessDoctype
  | badAttribute (error : AttributeError)
  | badReference (error : ReferenceError)
deriving DecidableEq

def Error.message : Error → String
  | unclosed what => "syntax error: " ++ what.message
  | unknownMarkup => "syntax error: unknown or missed symbol in markup"
  | mismatchedEnd expected found =>
    "ill-formed document: expected `</" ++ expected ++ ">`, but `</" ++ found ++ ">` was found"
  | unmatchedEnd found =>
    "ill-formed document: close tag `</" ++ found ++ ">` does not match any open tag"
  | namelessDoctype =>
    "ill-formed document: `<!DOCTYPE>` declaration does not contain a name of a document type"
  | badAttribute error => "error while parsing attribute: " ++ error.message
  | badReference error => error.message

end HazardJob.Markup
