import StoryAtlas.Journal
import StoryAtlas.Markup.Reader

/-! Records of reading a markup text.
Every tag that opens an element and every document type declaration has a record, up to the token
at which reading ends.
-/

namespace StoryAtlas.Markup

/-- The record of a token, if it has one. -/
def tokenRecord? : Token → Option Record
  | .startTag content => openingRecord content
  | .emptyTag content => openingRecord content
  | .doctype body =>
      some (.debug "DOCTYPE read" [("entities", toString (declaredEntities body).length)])
  | _ => none
where
  /-- The record of a tag that opens an element. -/
  openingRecord (content : List Char) : Record :=
    .trace "Element opened" [("tag", String.ofList (tagName content))]

/-- The records of tokens, the one at which reading ends included. -/
def Reader.records (reader : Reader) : List Lexeme → List Record
  | [] => []
  | lexeme :: rest =>
      let others :=
        match reader.step lexeme with
        | .ok reader => reader.records rest
        | .error _ => []
      (tokenRecord? lexeme.token).toList ++ others

/-- The records of reading a source text. -/
def journal (source : String) : List Record :=
  let finished :=
    match readSource source with
    | .ok document => [.debug "XML document read" [("elements", toString document.size)]]
    | .error _ => []
  Reader.records {} (lexSource source).1 ++ finished

end StoryAtlas.Markup
