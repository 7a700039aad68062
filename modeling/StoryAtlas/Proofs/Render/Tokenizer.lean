import Mathlib.Data.List.Basic

/-! The tags of a page.
The tokenizer of the HTML standard goes through a page character by character.  It is given with
all its states, as far as they bear on where tags begin and end and which attributes they have:
comments and document types are skipped, character references are left as they are, since they
change no tag, and a carriage return counts as the line feed it is read as.  Behind a start tag
text is read in the way the element asks for.
-/

namespace StoryAtlas.Render.Html

-----------------------------------------------------------------------------------------
-- Characters
-----------------------------------------------------------------------------------------

/-- Whether a character separates the parts of a tag. -/
def isSeparator (c : Char) : Bool :=
  c == '\t' || c == '\n' || c == '\x0C' || c == '\r' || c == ' '

/-- Whether a character ends the name of a tag. -/
def endsName (c : Char) : Bool :=
  isSeparator c || c == '/' || c == '>'

/-- A character of a name: letters are made small, and a null is replaced. -/
def nameChar (c : Char) : Char :=
  if c = '\x00' then '\uFFFD' else c.toLower

-----------------------------------------------------------------------------------------
-- States
-----------------------------------------------------------------------------------------

/-- A start tag or an end tag, with the names of its attributes. -/
structure Tag where
  closing : Bool
  name : List Char
  attributes : List (List Char) := []
  selfClosing : Bool := false
deriving DecidableEq

/-- The tag with another attribute, unless it has one of that name. -/
def Tag.addAttribute (tag : Tag) (name : List Char) : Tag :=
  if name ∈ tag.attributes then tag else { tag with attributes := tag.attributes ++ [name] }

/-- The ways in which text is read. -/
inductive Region
  | data
  /-- Text and character references, up to the end tag of the element. -/
  | rcdata
  /-- Text up to the end tag of the element. -/
  | rawtext
  | script
  /-- Script data behind `<!--`. -/
  | escaped
  /-- Script data behind `<!--` and `<script`, which the end tag of a script does not end. -/
  | doubleEscaped
  | plaintext
deriving DecidableEq

/-- How the text behind a start tag is read where scripts are run. -/
def Region.ofElement (name : List Char) : Region :=
  if name ∈ ["title".toList, "textarea".toList] then .rcdata
  else if name ∈ ["style".toList, "xmp".toList, "iframe".toList, "noembed".toList,
      "noframes".toList, "noscript".toList] then .rawtext
  else if name = "script".toList then .script
  else if name = "plaintext".toList then .plaintext
  else .data

/-- Where the tokenizer is between two characters. -/
inductive State
  | text (region : Region)
  | tagOpen
  | endTagOpen
  | tagName (tag : Tag)
  | beforeAttribute (tag : Tag)
  | attributeName (tag : Tag) (name : List Char)
  | afterAttribute (tag : Tag)
  | beforeValue (tag : Tag)
  | quotedValue (quote : Char) (tag : Tag)
  | unquotedValue (tag : Tag)
  | afterValue (tag : Tag)
  | selfClosing (tag : Tag)
  | declaration
  | declarationDash
  /-- In a document type or in what is skipped like one. -/
  | skipped
  | commentStart
  | commentStartDash
  | comment
  | commentDash
  | commentEnd
  | commentEndBang
  /-- Behind a `<` where only the end tag of the element can begin. -/
  | less (region : Region)
  | lessSlash (region : Region)
  | endName (region : Region) (name : List Char)
  /-- Behind `<!` in a script. -/
  | escapeStart
  | escapeStartDash
  /-- Behind one dash in escaped script data. -/
  | dash (region : Region)
  /-- Behind two dashes or more in escaped script data. -/
  | dashes (region : Region)
  /-- In the name behind a `<` that may begin doubly escaped script data. -/
  | doubleStart (name : List Char)
  /-- In the name behind a `</` that may end doubly escaped script data. -/
  | doubleEnd (name : List Char)
deriving DecidableEq

/-- What a character does: it leads to another state, or it ends a tag. -/
inductive Move
  | goto (state : State)
  | emit (tag : Tag)
deriving DecidableEq

-----------------------------------------------------------------------------------------
-- Steps
-----------------------------------------------------------------------------------------

/-- Reads a character of text. -/
def textNext (region : Region) (c : Char) : State :=
  if region = .plaintext then .text region
  else if c = '<' then
    if region = .data then .tagOpen else .less region
  else if c = '-' ∧ (region = .escaped ∨ region = .doubleEscaped) then .dash region
  else .text region

/-- Reads a character behind the name of an attribute. -/
def attributeNext (tag : Tag) (c : Char) : Move :=
  if isSeparator c then .goto (.afterAttribute tag)
  else if c = '/' then .goto (.selfClosing tag)
  else if c = '=' then .goto (.beforeValue tag)
  else if c = '>' then .emit tag
  else .goto (.attributeName tag [nameChar c])

/-- Reads a character in front of an attribute. -/
def beforeAttributeNext (tag : Tag) (c : Char) : Move :=
  if isSeparator c then .goto (.beforeAttribute tag)
  else if c = '=' then .goto (.attributeName tag ['='])
  else attributeNext tag c

/-- Reads a character of the name of a tag. -/
def tagNameNext (tag : Tag) (c : Char) : Move :=
  if isSeparator c then .goto (.beforeAttribute tag)
  else if c = '/' then .goto (.selfClosing tag)
  else if c = '>' then .emit tag
  else .goto (.tagName { tag with name := tag.name ++ [nameChar c] })

/-- Reads a character of an attribute without quotes. -/
def unquotedNext (tag : Tag) (c : Char) : Move :=
  if isSeparator c then .goto (.beforeAttribute tag)
  else if c = '>' then .emit tag
  else .goto (.unquotedValue tag)

/-- Reads a character of a comment. -/
def commentNext (c : Char) : State :=
  if c = '-' then .commentDash else .comment

/-- Reads a character of what is skipped up to a `>`. -/
def skippedNext (c : Char) : State :=
  if c = '>' then .text .data else .skipped

/-- Reads a character, where `last` is the name of the last start tag.  Only an end tag of that
name ends the text of an element.
-/
def next (last : List Char) : State → Char → Move
  | .text region, c => .goto (textNext region c)
  | .tagOpen, c =>
      if c = '!' then .goto .declaration
      else if c = '/' then .goto .endTagOpen
      else if c.isAlpha then .goto (.tagName { closing := false, name := [c.toLower] })
      else if c = '?' then .goto .skipped
      else .goto (textNext .data c)
  | .endTagOpen, c =>
      if c.isAlpha then .goto (.tagName { closing := true, name := [c.toLower] })
      else .goto (skippedNext c)
  | .tagName tag, c => tagNameNext tag c
  | .beforeAttribute tag, c => beforeAttributeNext tag c
  | .attributeName tag name, c =>
      if endsName c ∨ c = '=' then attributeNext (tag.addAttribute name) c
      else .goto (.attributeName tag (name ++ [nameChar c]))
  | .afterAttribute tag, c => attributeNext tag c
  | .beforeValue tag, c =>
      if isSeparator c then .goto (.beforeValue tag)
      else if c = '"' ∨ c = '\'' then .goto (.quotedValue c tag)
      else unquotedNext tag c
  | .quotedValue quote tag, c =>
      if c = quote then .goto (.afterValue tag) else .goto (.quotedValue quote tag)
  | .unquotedValue tag, c => unquotedNext tag c
  | .afterValue tag, c =>
      if endsName c then tagNameNext tag c else beforeAttributeNext tag c
  | .selfClosing tag, c =>
      if c = '>' then .emit { tag with selfClosing := true } else beforeAttributeNext tag c
  | .declaration, c =>
      if c = '-' then .goto .declarationDash else .goto (skippedNext c)
  | .declarationDash, c =>
      if c = '-' then .goto .commentStart else .goto (skippedNext c)
  | .skipped, c => .goto (skippedNext c)
  | .commentStart, c =>
      if c = '-' then .goto .commentStartDash
      else if c = '>' then .goto (.text .data)
      else .goto .comment
  | .commentStartDash, c =>
      if c = '-' then .goto .commentEnd
      else if c = '>' then .goto (.text .data)
      else .goto .comment
  | .comment, c => .goto (commentNext c)
  | .commentDash, c => if c = '-' then .goto .commentEnd else .goto .comment
  | .commentEnd, c =>
      if c = '>' then .goto (.text .data)
      else if c = '!' then .goto .commentEndBang
      else if c = '-' then .goto .commentEnd
      else .goto .comment
  | .commentEndBang, c =>
      if c = '>' then .goto (.text .data) else .goto (commentNext c)
  | .less region, c =>
      if c = '/' then
        if region = .doubleEscaped then .goto (.doubleEnd []) else .goto (.lessSlash region)
      else if c = '!' ∧ region = .script then .goto .escapeStart
      else if c.isAlpha ∧ region = .escaped then .goto (.doubleStart [c.toLower])
      else .goto (textNext region c)
  | .lessSlash region, c =>
      if c.isAlpha then .goto (.endName region [c.toLower]) else .goto (textNext region c)
  | .endName region name, c =>
      if c.isAlpha then .goto (.endName region (name ++ [c.toLower]))
      else if name = last ∧ endsName c then tagNameNext { closing := true, name } c
      else .goto (textNext region c)
  | .escapeStart, c =>
      if c = '-' then .goto .escapeStartDash else .goto (textNext .script c)
  | .escapeStartDash, c =>
      if c = '-' then .goto (.dashes .escaped) else .goto (textNext .script c)
  | .dash region, c =>
      if c = '-' then .goto (.dashes region) else .goto (textNext region c)
  | .dashes region, c =>
      if c = '-' then .goto (.dashes region)
      else if c = '>' then .goto (.text .script)
      else .goto (textNext region c)
  | .doubleStart name, c =>
      if c.isAlpha then .goto (.doubleStart (name ++ [c.toLower]))
      else if endsName c then
        .goto (.text (if name = "script".toList then .doubleEscaped else .escaped))
      else .goto (textNext .escaped c)
  | .doubleEnd name, c =>
      if c.isAlpha then .goto (.doubleEnd (name ++ [c.toLower]))
      else if endsName c then
        .goto (.text (if name = "script".toList then .escaped else .doubleEscaped))
      else .goto (textNext .doubleEscaped c)

-----------------------------------------------------------------------------------------
-- Runs
-----------------------------------------------------------------------------------------

/-- A tokenizer with the tags it has read and the name of the last start tag. -/
structure Tokenizer where
  tags : List Tag := []
  last : List Char := []
  state : State := .text .data
deriving DecidableEq

/-- Reads a character.  Behind a start tag text is read as its element asks for. -/
def Tokenizer.step (tokenizer : Tokenizer) (c : Char) : Tokenizer :=
  match next tokenizer.last tokenizer.state c with
  | .goto state => { tokenizer with state }
  | .emit tag =>
      if tag.closing then
        { tokenizer with tags := tokenizer.tags ++ [tag], state := .text .data }
      else
        { tags := tokenizer.tags ++ [tag]
          last := tag.name
          state := .text (.ofElement tag.name) }

/-- Reads characters. -/
def Tokenizer.run (tokenizer : Tokenizer) (chars : List Char) : Tokenizer :=
  chars.foldl step tokenizer

/-- The tags of a page. -/
def tags (page : String) : List Tag :=
  (Tokenizer.run {} page.toList).tags

-- The first end tag is that of the inner script.
example : tags "<script><!--<script></script>--></script>"
    = [{ closing := false, name := "script".toList },
      { closing := true, name := "script".toList }] := by
  decide

/-- A text is read by reading its parts. -/
theorem Tokenizer.run_append (tokenizer : Tokenizer) (left right : List Char)
    : tokenizer.run (left ++ right) = (tokenizer.run left).run right :=
  List.foldl_append

/-- A character that ends no tag only leads to another state. -/
theorem Tokenizer.step_of_goto {tokenizer : Tokenizer} {c : Char} {state : State}
    (h : next tokenizer.last tokenizer.state c = .goto state)
    : tokenizer.step c = { tokenizer with state } := by
  rw [step, h]

/-- Characters that all leave the state as it is change nothing, by induction on them. -/
theorem Tokenizer.run_eq_self {tokenizer : Tokenizer} {chars : List Char}
    (h : ∀ c ∈ chars, next tokenizer.last tokenizer.state c = .goto tokenizer.state)
    : tokenizer.run chars = tokenizer := by
  induction chars with
  | nil => rfl
  | cons c chars ih =>
      have hstep : tokenizer.step c = tokenizer := step_of_goto (h c List.mem_cons_self)
      rw [run, List.foldl_cons, hstep]
      exact ih fun d hd => h d (List.mem_cons_of_mem c hd)

/-- The tokenizer that has read some tags more before. -/
def Tokenizer.after (earlier : List Tag) (tokenizer : Tokenizer) : Tokenizer :=
  { tokenizer with tags := earlier ++ tokenizer.tags }

theorem Tokenizer.step_after (earlier : List Tag) (tokenizer : Tokenizer) (c : Char)
    : (tokenizer.after earlier).step c = (tokenizer.step c).after earlier := by
  unfold step after
  cases next tokenizer.last tokenizer.state c with
  | goto state => rfl
  | emit tag => cases hclosing : tag.closing <;> simp [hclosing]

/-- Tags read before stay in front of those that follow, by induction on the characters. -/
theorem Tokenizer.run_after (earlier : List Tag) (tokenizer : Tokenizer) (chars : List Char)
    : (tokenizer.after earlier).run chars = (tokenizer.run chars).after earlier := by
  induction chars generalizing tokenizer with
  | nil => rfl
  | cons c chars ih =>
      rw [run, List.foldl_cons, step_after]
      exact ih (tokenizer.step c)

end StoryAtlas.Render.Html
