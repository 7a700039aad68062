import StoryAtlas.Markup.Doctype
import StoryAtlas.Markup.Fault
import StoryAtlas.Span
import StoryAtlas.Text.Blank
import StoryAtlas.Text.Bytes

/-! The tokens of a markup text.
A token keeps everything between its delimiters, so that its written form is the piece of the
text it was read from.  Reading a token therefore splits the text into the written form and the
rest, and the tokens of a text with the unread remainder are the whole text.
-/

namespace StoryAtlas.Markup

open StoryAtlas.Text

/-- A piece of markup or a run of text. -/
inductive Token
  | startTag (content : List Char)
  | emptyTag (content : List Char)
  | endTag (content : List Char)
  /-- A run of text, which is never empty. -/
  | text (first : Char) (others : List Char)
  | reference (name : List Char)
  | cdata (chars : List Char)
  | comment (body : List Char)
  | instruction (body : List Char)
  | doctype (body : List Char)
deriving DecidableEq

/-- The characters a token was read from. -/
def Token.written : Token → List Char
  | startTag content => '<' :: (content ++ ['>'])
  | emptyTag content => '<' :: (content ++ ['/', '>'])
  | endTag content => '<' :: '/' :: (content ++ ['>'])
  | text first others => first :: others
  | reference name => '&' :: (name ++ [';'])
  | cdata chars =>
      ['<', '!', '[', 'C', 'D', 'A', 'T', 'A', '['] ++ chars ++ [']', ']', '>']
  | comment body => ['<', '!', '-', '-'] ++ body ++ ['-', '-', '>']
  | instruction body => '<' :: '?' :: (body ++ ['?', '>'])
  | doctype body => '<' :: '!' :: (body ++ ['>'])

/-- A fault and the number of bytes from the start of its token to its place. -/
structure TokenFault where
  cause : SyntaxFault
  offset : Nat := 0
deriving DecidableEq

/-- Whether a character opens a quoted value. -/
def isQuote (c : Char) : Bool :=
  c == '"' || c == '\''

/-- Splits a tag at the first `>` outside quotes; the first argument is the quote in which the
scan is.  Without such a `>` the scan ends in a quote or outside. -/
def splitTag : Option Char → List Char → Except (Option Char) (List Char × List Char)
  | quote, [] => .error quote
  | none, c :: rest =>
      if c = '>' then .ok ([], rest)
      else (splitTag (if isQuote c then some c else none) rest).map (consSplit c)
  | some quote, c :: rest =>
      (splitTag (if c = quote then none else some quote) rest).map (consSplit c)

theorem eq_append_of_splitTag {quote : Option Char} {chars content rest : List Char}
    (h : splitTag quote chars = .ok (content, rest)) : chars = content ++ '>' :: rest := by
  fun_induction splitTag quote chars generalizing content rest with
  | case1 => simp at h
  | case2 => simp_all
  | case3 c tail _ ih =>
      cases hs : splitTag (if isQuote c then some c else none) tail with
      | error => simp [hs, Except.map] at h
      | ok split =>
          simp only [hs, Except.map, Except.ok.injEq, consSplit, Prod.mk.injEq] at h
          obtain ⟨rfl, rfl⟩ := h
          simp [ih hs]
  | case4 q c tail ih =>
      cases hs : splitTag (if c = q then none else some q) tail with
      | error => simp [hs, Except.map] at h
      | ok split =>
          simp only [hs, Except.map, Except.ok.injEq, consSplit, Prod.mk.injEq] at h
          obtain ⟨rfl, rfl⟩ := h
          simp [ih hs]

/-- The fault of a tag without an end, by the quote in which the input ended. -/
def openTagFault : Option Char → SyntaxFault
  | none => .tagNotClosed
  | some quote => .valueNotClosed quote

/-- Whether the characters behind `<?` begin an XML declaration. -/
def isDeclaration (rest : List Char) : Bool :=
  match dropPiece? ['x', 'm', 'l'] rest with
  | none => false
  | some [] => true
  | some (c :: _) => isMarkupBlank c || c == '?'

/-- The fault of an instruction without an end, given what follows its `<?`. -/
def openInstructionFault (rest : List Char) : SyntaxFault :=
  if isDeclaration rest then .declarationNotClosed else .instructionNotClosed

/-- Reads a token that begins with `<!`, given what follows. -/
def readDeclared : List Char → Except TokenFault (Token × List Char)
  | '[' :: rest =>
      match dropPiece? ['C', 'D', 'A', 'T', 'A', '['] rest with
      | none => .error { cause := .cdataNotClosed }
      | some inner =>
          match splitOnce? [']', ']', '>'] inner with
          | none => .error { cause := .cdataNotClosed }
          | some (chars, rest) => .ok (.cdata chars, rest)
  | '-' :: rest =>
      match dropPiece? ['-'] rest with
      | none => .error { cause := .commentNotClosed }
      | some inner =>
          match splitOnce? ['-', '-', '>'] inner with
          | none => .error { cause := .commentNotClosed }
          | some (body, rest) => .ok (.comment body, rest)
  | c :: rest =>
      if c = 'D' ∨ c = 'd' then
        match splitDoctype? .head (c :: rest) with
        | none => .error { cause := .doctypeNotClosed }
        | some (body, rest) =>
            match dropDoctypeKeyword? body with
            | none => .error { cause := .doctypeNotClosed }
            | some content =>
                if content.all isMarkupBlank then
                  .error { cause := .doctypeWithoutName, offset := 2 + byteLength body }
                else .ok (.doctype body, rest)
      else .error { cause := .unknownMarkup }
  | [] => .error { cause := .unknownMarkup }

/-- A start tag, or an empty tag if its content ends in a slash. -/
def openingTag (content : List Char) : Token :=
  if content.getLast? = some '/' then .emptyTag content.dropLast else .startTag content

/-- Reads a token that begins with `<`, given what follows. -/
def readMarkup : List Char → Except TokenFault (Token × List Char)
  | '?' :: rest =>
      if rest.head? = some '>' then .error { cause := openInstructionFault rest }
      else
        match splitOnce? ['?', '>'] rest with
        | none => .error { cause := openInstructionFault rest }
        | some (body, rest) => .ok (.instruction body, rest)
  | '!' :: rest => readDeclared rest
  | '/' :: rest =>
      match splitTag none rest with
      | .error quote => .error { cause := openTagFault quote }
      | .ok (content, rest) => .ok (.endTag content, rest)
  | rest =>
      match splitTag none rest with
      | .error quote => .error { cause := openTagFault quote }
      | .ok (content, rest) => .ok (openingTag content, rest)

/-- Whether a character goes on a run of text. -/
def isTextChar (c : Char) : Bool :=
  c != '<' && c != '&'

/-- Whether a character goes on the name of a reference. -/
def isReferenceChar (c : Char) : Bool :=
  isTextChar c && c != ';'

/-- Reads a reference, given what follows its `&`. -/
def readReference (chars : List Char) : Except TokenFault (Token × List Char) :=
  match chars.dropWhile isReferenceChar with
  | ';' :: rest => .ok (.reference (chars.takeWhile isReferenceChar), rest)
  | _ => .error { cause := .referenceNotClosed }

/-- Reads the token that begins with the character. -/
def readToken (c : Char) (rest : List Char) : Except TokenFault (Token × List Char) :=
  if c = '<' then readMarkup rest
  else if c = '&' then readReference rest
  else .ok (.text c (rest.takeWhile isTextChar), rest.dropWhile isTextChar)

theorem written_openingTag {content : List Char}
    : (openingTag content).written = '<' :: (content ++ ['>']) := by
  unfold openingTag
  split
  · next h =>
      have hne : content ≠ [] := by
        rintro rfl
        simp at h
      have hlast : content.getLast hne = '/' := by
        rw [List.getLast?_eq_some_getLast hne] at h
        exact Option.some.inj h
      have hsplit := List.dropLast_concat_getLast hne
      rw [hlast] at hsplit
      calc '<' :: (content.dropLast ++ ['/', '>'])
        _ = '<' :: ((content.dropLast ++ ['/']) ++ ['>']) := by simp
        _ = '<' :: (content ++ ['>']) := by rw [hsplit]
  · simp [Token.written]

theorem readDeclared_split {chars rest : List Char} {token : Token}
    (h : readDeclared chars = .ok (token, rest))
    : '<' :: '!' :: chars = token.written ++ rest := by
  unfold readDeclared at h
  split at h
  · split at h
    · simp at h
    · next hkeyword =>
        split at h
        · simp at h
        · next hsplit =>
            obtain ⟨rfl, rfl⟩ := by simpa using h
            simp [dropPiece?_eq_some_iff.1 hkeyword, eq_append_of_splitOnce? hsplit,
              Token.written]
  · split at h
    · simp at h
    · next hkeyword =>
        split at h
        · simp at h
        · next hsplit =>
            obtain ⟨rfl, rfl⟩ := by simpa using h
            simp [dropPiece?_eq_some_iff.1 hkeyword, eq_append_of_splitOnce? hsplit,
              Token.written]
  · split at h
    · split at h
      · simp at h
      · next hsplit =>
          split at h
          · simp at h
          · split at h
            · simp at h
            · obtain ⟨rfl, rfl⟩ := by simpa using h
              simp [eq_append_of_splitDoctype? hsplit, Token.written]
    · simp at h
  · simp at h

theorem readMarkup_split {chars rest : List Char} {token : Token}
    (h : readMarkup chars = .ok (token, rest)) : '<' :: chars = token.written ++ rest := by
  unfold readMarkup at h
  split at h
  · split at h
    · simp at h
    · split at h
      · simp at h
      · next hsplit =>
          obtain ⟨rfl, rfl⟩ := by simpa using h
          simp [eq_append_of_splitOnce? hsplit, Token.written]
  · exact readDeclared_split h
  · split at h
    · simp at h
    · next hsplit =>
        obtain ⟨rfl, rfl⟩ := by simpa using h
        simp [eq_append_of_splitTag hsplit, Token.written]
  · split at h
    · simp at h
    · next hsplit =>
        obtain ⟨rfl, rfl⟩ := by simpa using h
        simp [eq_append_of_splitTag hsplit, written_openingTag]

theorem readReference_split {chars rest : List Char} {token : Token}
    (h : readReference chars = .ok (token, rest)) : '&' :: chars = token.written ++ rest := by
  unfold readReference at h
  split at h
  · next hdrop =>
      obtain ⟨rfl, rfl⟩ := by simpa using h
      have hsplit := List.takeWhile_append_dropWhile (p := isReferenceChar) (l := chars)
      rw [hdrop] at hsplit
      simp [Token.written, hsplit]
  · simp at h

/-- Reading a token splits the text into the written token and the rest. -/
theorem readToken_split {c : Char} {chars rest : List Char} {token : Token}
    (h : readToken c chars = .ok (token, rest)) : c :: chars = token.written ++ rest := by
  unfold readToken at h
  split at h
  · next hc => exact hc ▸ readMarkup_split h
  · split at h
    · next hc => exact hc ▸ readReference_split h
    · obtain ⟨rfl, rfl⟩ := by simpa using h
      simp [Token.written, List.takeWhile_append_dropWhile]

theorem Token.written_ne_nil (token : Token) : token.written ≠ [] := by
  cases token <;> simp [written]

/-- Reading a token leaves less text. -/
theorem length_lt_of_readToken {c : Char} {chars rest : List Char} {token : Token}
    (h : readToken c chars = .ok (token, rest)) : rest.length < (c :: chars).length := by
  rw [readToken_split h, List.length_append]
  exact Nat.lt_add_of_pos_left (List.length_pos_iff.2 token.written_ne_nil)

/-- A token and the bytes of the source it was read from. -/
structure Lexeme where
  token : Token
  span : Span
deriving DecidableEq

/-- How the tokens of a text end: with the text, or at a fault.  Positions are byte offsets. -/
inductive Ending
  | complete (position : Nat)
  | broken (cause : SyntaxFault) (position : Nat)
deriving DecidableEq

/-- The tokens of a text up to its end or the first fault, the text starting at a byte offset of
the source. -/
def lex (position : Nat) (chars : List Char) : List Lexeme × Ending :=
  match chars with
  | [] => ([], .complete position)
  | c :: chars =>
      match _ : readToken c chars with
      | .error fault => ([], .broken fault.cause (position + fault.offset))
      | .ok (token, rest) =>
          let stop := position + byteLength token.written
          let (lexemes, ending) := lex stop rest
          (⟨token, .between position stop⟩ :: lexemes, ending)
termination_by chars.length
decreasing_by exact length_lt_of_readToken ‹_›

end StoryAtlas.Markup
