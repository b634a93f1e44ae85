import HelpFile.Markdown.Cursor

/-!
# Raw HTML

The tags, comments and declarations that may stand in text, and the lines that open a block of raw
HTML. Each reader takes the text behind what it has read so far and gives the rest.
-/
namespace HelpFile.Markdown

def isLetter (c : Char) : Bool := c.isAlpha

def isTagChar (c : Char) : Bool := c.isAlphanum || c == '-'

def isAttributeStart (c : Char) : Bool := c.isAlpha || c == '_' || c == ':'

def isAttributeChar (c : Char) : Bool := isAttributeStart c || c.isDigit || c == '.' || c == '-'

def isTagSpace (c : Char) : Bool := isSpace c || c == '\n'

def isUnquotedChar (c : Char) : Bool :=
  !isTagSpace c && c != '\x22' && c != '\x27' && c != '=' && c != '<' && c != '>' && c != '\x60'

def past? (mark : Char) (text : Text) : Option Text :=
  match text.dropWhile (· != mark) with
  | [] => none
  | _ :: rest => some rest

def pastText? (ending : Text) : Text → Option Text
  | [] => none
  | c :: rest => (Text.after? ending (c :: rest)).or (pastText? ending rest)

def tagName? : Text → Option Text
  | c :: rest => if isLetter c then some (rest.dropWhile isTagChar) else none
  | [] => none

def attributeValue? : Text → Option Text
  | '\x22' :: rest => past? '\x22' rest
  | '\x27' :: rest => past? '\x27' rest
  | c :: rest => if isUnquotedChar c then some (rest.dropWhile isUnquotedChar) else none
  | [] => none

def attribute? : Text → Option Text
  | [] => none
  | c :: rest =>
    if isAttributeStart c then
      let name := rest.dropWhile isAttributeChar
      match name.dropWhile isTagSpace with
      | '=' :: value => attributeValue? (value.dropWhile isTagSpace)
      | _ => some name
    else none

/-- Past the attributes and the end of an open tag. Every attribute takes at least one character,
so `steps` may be the length of the text. -/
def tagEnd? (steps : Nat) (text : Text) : Option Text :=
  match steps, text.dropWhile isTagSpace with
  | _, '>' :: rest => some rest
  | _, '/' :: '>' :: rest => some rest
  | 0, _ => none
  | steps + 1, inner =>
    if text.head?.any isTagSpace then (attribute? inner).bind (tagEnd? steps) else none

def openTag? (text : Text) : Option Text :=
  (tagName? text).bind fun rest => tagEnd? rest.length rest

def closingTag? (text : Text) : Option Text :=
  (tagName? text).bind fun rest =>
    match rest.dropWhile isTagSpace with
    | '>' :: more => some more
    | _ => none

def comment? : Text → Option Text
  | '>' :: rest => some rest
  | '-' :: '>' :: rest => some rest
  | text => pastText? ['-', '-', '>'] text

def rawHtml? : Text → Option Text
  | '/' :: rest => closingTag? rest
  | '?' :: rest => pastText? ['?', '>'] rest
  | '!' :: '-' :: '-' :: rest => comment? rest
  | '!' :: '[' :: 'C' :: 'D' :: 'A' :: 'T' :: 'A' :: '[' :: rest => pastText? [']', ']', '>'] rest
  | '!' :: c :: rest => if isLetter c then past? '>' rest else none
  | text => openTag? text

inductive HtmlEnding where
  /-- With the line that holds one of these texts, in any case. -/
  | after (endings : List Text)
  /-- Before the next blank line. -/
  | atBlank
  /-- Before the next blank line; such a block does not interrupt a paragraph. -/
  | loneTag

def lowerAscii (text : Text) : Text := text.map Char.toLower

def HtmlEnding.endsWith (line : Text) : HtmlEnding → Bool
  | after endings => endings.any fun e => Text.hasPart e (lowerAscii line)
  | atBlank | loneTag => false

def verbatimTags : List String := ["pre", "script", "style", "textarea"]

def blockTags : List String := [
  "address", "article", "aside", "base", "basefont", "blockquote", "body", "caption", "center",
  "col", "colgroup", "dd", "details", "dialog", "dir", "div", "dl", "dt", "fieldset", "figcaption",
  "figure", "footer", "form", "frame", "frameset", "h1", "h2", "h3", "h4", "h5", "h6", "head",
  "header", "hr", "html", "iframe", "legend", "li", "link", "main", "menu", "menuitem", "nav",
  "noframes", "ol", "optgroup", "option", "p", "param", "search", "section", "summary", "table",
  "tbody", "td", "tfoot", "th", "thead", "title", "tr", "track", "ul"]

def splitTagName (text : Text) : String × Text :=
  (String.ofList (lowerAscii (text.takeWhile isTagChar)), text.dropWhile isTagChar)

def endsTagName (afterName : Text) : Bool :=
  match afterName with
  | [] => true
  | c :: _ => isSpace c || c == '>'

def isBlockTag (text : Text) : Bool :=
  let (name, rest) := splitTagName text
  blockTags.contains name && (endsTagName rest || Text.startsWith ['/', '>'] rest)

def isVerbatimTag (text : Text) : Bool := verbatimTags.contains (splitTagName text).1

def isLoneTag (text : Text) : Bool :=
  match text with
  | '/' :: body => (closingTag? body).any onlySpaces
  | body => (openTag? body).any onlySpaces

def htmlBlock? : Text → Option HtmlEnding
  | '<' :: '!' :: '-' :: '-' :: _ => some (.after [['-', '-', '>']])
  | '<' :: '?' :: _ => some (.after [['?', '>']])
  | '<' :: '!' :: '[' :: 'C' :: 'D' :: 'A' :: 'T' :: 'A' :: '[' :: _ =>
    some (.after [[']', ']', '>']])
  | '<' :: '!' :: c :: _ => if isLetter c then some (.after [['>']]) else none
  | '<' :: '/' :: rest =>
    if isBlockTag rest then some .atBlank
    else if isLoneTag ('/' :: rest) then some .loneTag
    else none
  | '<' :: rest =>
    if isVerbatimTag rest && endsTagName (splitTagName rest).2 then
      some (.after (verbatimTags.map fun t => "</".toList ++ t.toList ++ ['>']))
    else if isBlockTag rest then some .atBlank
    else if isLoneTag rest then some .loneTag
    else none
  | _ => none

end HelpFile.Markdown
