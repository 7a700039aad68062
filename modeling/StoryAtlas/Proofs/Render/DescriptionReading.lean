import StoryAtlas.Proofs.Text.Lexing
import StoryAtlas.Render.Dot
import StoryAtlas.Text.Blank

/-! Descriptions read back.
A description is read in two steps, from characters to tokens and from tokens to statements.  A
quoted string ends at the first quote without a backslash, so whatever it holds is one token, and
the statements read are those of the nodes and edges in their order.
-/

namespace StoryAtlas.Render.Dot

open StoryAtlas.Text

-----------------------------------------------------------------------------------------
-- Tokens
-----------------------------------------------------------------------------------------

/-- A token of a description. -/
inductive Token
  | word (chars : List Char)
  | quoted (chars : List Char)
  | openBrace
  | closeBrace
  | openBracket
  | closeBracket
  | equals
  | semicolon
  | arrow
deriving DecidableEq

/-- The tokens that are one character. -/
def Token.mark? (c : Char) : Option Token :=
  if c = '\x7b' then some openBrace
  else if c = '\x7d' then some closeBrace
  else if c = '[' then some openBracket
  else if c = ']' then some closeBracket
  else if c = '=' then some equals
  else if c = ';' then some semicolon
  else none

/-- The name that a token is. -/
def Token.name? : Token → Option String
  | word chars => some (String.ofList chars)
  | quoted chars => some (String.ofList chars)
  | _ => none

/-- Whether a character goes on a word without quotes. -/
def isWordChar (c : Char) : Bool :=
  c.isAlphanum || c == '_' || 0x80 ≤ c.toNat

/-- Where a reader of tokens is between two characters, with what it has read of a token. -/
inductive Place
  /-- Outside of quotes, behind the given part of a word. -/
  | outside (word : List Char)
  /-- Behind the first character of an arrow. -/
  | dash
  | inQuotes (chars : List Char)
  /-- In quotes behind a backslash. -/
  | backslash (chars : List Char)
deriving DecidableEq

/-- The word that ends here, if there is one. -/
def endWord (word : List Char) : List Token :=
  if word = [] then [] else [.word word]

/-- Reads a character outside of quotes that is not of a word. -/
def mark (c : Char) : Option (List Token × Place) :=
  if isMarkupBlank c then some ([], .outside [])
  else if c = '"' then some ([], .inQuotes [])
  else if c = '-' then some ([], .dash)
  else (Token.mark? c).map fun token => ([token], .outside [])

/-- Reads a character.  In quotes a backslash is dropped in front of a quote or a backslash, which
then stand for themselves, and any other character stands for itself anyway.
-/
def step (place : Place) (c : Char) : Option (List Token × Place) :=
  match place with
  | .outside word =>
      if isWordChar c then some ([], .outside (word ++ [c]))
      else (mark c).map fun (ended, next) => (endWord word ++ ended, next)
  | .dash => if c = '>' then some ([.arrow], .outside []) else none
  | .inQuotes chars =>
      if c = '"' then some ([.quoted chars], .outside [])
      else if c = '\\' then some ([], .backslash chars)
      else some ([], .inQuotes (chars ++ [c]))
  | .backslash chars =>
      if c = '"' ∨ c = '\\' then some ([], .inQuotes (chars ++ [c]))
      else some ([], .inQuotes (chars ++ ['\\', c]))

/-- The tokens of a text, which must not end in quotes or behind half an arrow. -/
def tokens? (chars : List Char) : Option (List Token) :=
  (lexFrom step (.outside []) chars).bind fun (tokens, place) =>
    match place with
    | .outside word => some (tokens ++ endWord word)
    | _ => none

theorem tokens?_of_lexFrom {chars : List Char} {tokens : List Token}
    (h : lexFrom step (.outside []) chars = some (tokens, .outside []))
    : tokens? chars = some tokens := by
  simp [tokens?, h, endWord]

/-- The inside of quotes is read as what was quoted, by induction on the text. -/
theorem lexFrom_escapeQuoted (chars text : List Char)
    : lexFrom step (.inQuotes chars) (escapeQuoted text) = some ([], .inQuotes (chars ++ text)) := by
  rw [escapeQuoted_eq_flatMap]
  induction text generalizing chars with
  | nil => simp [lexFrom]
  | cons c text ih =>
      have hchar : lexFrom step (.inQuotes chars) (quotedChar c)
          = some ([], .inQuotes (chars ++ [c])) := by
        by_cases hbackslash : c = '\\'
        · subst hbackslash
          rfl
        · by_cases hquote : c = '"'
          · subst hquote
            rfl
          · simp [quotedChar, lexFrom, step, hbackslash, hquote]
      have hrest := ih (chars ++ [c])
      rw [List.append_assoc] at hrest
      exact lexFrom_append hchar hrest

theorem lexFrom_quoted (text : String)
    : lexFrom step (.outside []) (quoted text) = some ([.quoted text.toList], .outside []) := by
  have hopen : step (.outside []) '"' = some ([], .inQuotes []) := rfl
  have hclose : lexFrom step (.inQuotes text.toList) ['"']
      = some ([.quoted text.toList], .outside []) := rfl
  exact lexFrom_cons hopen (lexFrom_append (lexFrom_escapeQuoted [] text.toList) hclose)

/-- A word is read as far as it goes, by induction on its characters. -/
theorem lexFrom_word (word : List Char) {more : List Char}
    (h : ∀ c ∈ more, isWordChar c = true)
    : lexFrom step (.outside word) more = some ([], .outside (word ++ more)) := by
  induction more generalizing word with
  | nil => simp [lexFrom]
  | cons c more ih =>
      have hstep : step (.outside word) c = some ([], .outside (word ++ [c])) := by
        simp [step, h c List.mem_cons_self]
      have hrest := ih (word ++ [c]) fun d hd => h d (List.mem_cons_of_mem c hd)
      rw [List.append_assoc] at hrest
      exact lexFrom_cons hstep hrest

/-- The name of a graph is one token when a blank follows, in quotes or not. -/
theorem exists_lexFrom_graphName (name : String)
    : ∃ token, Token.name? token = some name
        ∧ lexFrom step (.outside []) (graphName name ++ [' ']) = some ([token], .outside []) := by
  simp only [graphName]
  split
  · next hplain =>
      obtain ⟨hfirst, hall⟩ := Bool.and_eq_true_iff.1 hplain
      have hword : ∀ c ∈ name.toList, isWordChar c = true := by
        intro c hc
        have hname := List.all_eq_true.1 hall c hc
        simp only [isNameChar] at hname
        simp [isWordChar, hname]
      have hne : name.toList ≠ [] := by
        intro hnil
        simp [hnil] at hfirst
      have hblank : lexFrom step (.outside name.toList) [' ']
          = some ([.word name.toList], .outside []) := by
        simp [lexFrom, step, isWordChar, mark, isMarkupBlank, endWord, hne]
      exact ⟨.word name.toList, by simp [Token.name?], lexFrom_append (lexFrom_word _ hword) hblank⟩
  · have hblank : lexFrom step (.outside []) [' '] = some ([], .outside []) := rfl
    exact ⟨.quoted name.toList, by simp [Token.name?], lexFrom_append (lexFrom_quoted name) hblank⟩

-----------------------------------------------------------------------------------------
-- Statements
-----------------------------------------------------------------------------------------

/-- A statement of a description, with its only attribute. -/
inductive Statement
  | setting (name value : String)
  | default (kind name value : String)
  | node (id name value : String)
  | edge (source target name value : String)
deriving DecidableEq

/-- The statements up to the brace that closes a description. -/
def readStatements : List Token → Option (List Statement)
  | [.closeBrace] => some []
  | .word name :: .equals :: .word value :: .semicolon :: rest =>
      (readStatements rest).map
        (.setting (String.ofList name) (String.ofList value) :: ·)
  | .word kind :: .openBracket :: .word name :: .equals :: .word value :: .closeBracket
      :: .semicolon :: rest =>
      (readStatements rest).map
        (.default (String.ofList kind) (String.ofList name) (String.ofList value) :: ·)
  | .quoted id :: .openBracket :: .word name :: .equals :: .quoted value :: .closeBracket
      :: .semicolon :: rest =>
      (readStatements rest).map
        (.node (String.ofList id) (String.ofList name) (String.ofList value) :: ·)
  | .quoted source :: .arrow :: .quoted target :: .openBracket :: .word name :: .equals
      :: .quoted value :: .closeBracket :: .semicolon :: rest =>
      (readStatements rest).map
        (.edge (String.ofList source) (String.ofList target) (String.ofList name)
          (String.ofList value) :: ·)
  | _ => none

/-- The name and the statements of a description, of which nothing may be left over. -/
def read (chars : List Char) : Option (String × List Statement) :=
  (tokens? chars).bind fun tokens =>
    match tokens with
    | .word keyword :: name :: .openBrace :: rest =>
        if keyword = "digraph".toList then
          (Token.name? name).bind fun name => (readStatements rest).map (name, ·)
        else none
    | _ => none

/-- The identifiers of the nodes with what is shown of them, in order. -/
def nodeEntries (display : Display) (graph : Graph) : List (String × String) :=
  graph.nodes.nodes.map fun node =>
    (node.id.text,
      match display with
      | .id => node.id.text
      | .label => node.label)

/-- The ends of the edges with the texts of their relations, in order. -/
def edgeEntries (graph : Graph) : List (String × String × String) :=
  graph.edges.map fun edge => (edge.source.text, edge.target.text, edge.relation.text)

/-- The statements that describe a graph. -/
def statements (display : Display) (graph : Graph) : List Statement :=
  [.setting "rankdir" "LR", .default "node" "shape" "box"]
    ++ (nodeEntries display graph).map (fun entry => .node entry.1 "label" entry.2)
    ++ (edgeEntries graph).map (fun entry => .edge entry.1 entry.2.1 "label" entry.2.2)

/-- The tokens of an attribute list that holds a label. -/
def labelTokens (label : String) : List Token :=
  [.openBracket, .word "label".toList, .equals, .quoted label.toList, .closeBracket, .semicolon]

theorem lexFrom_labelList (label : String)
    : lexFrom step (.outside []) (labelList label) = some (labelTokens label, .outside []) := by
  have hopen : lexFrom step (.outside []) " [label=".toList
      = some ([.openBracket, .word "label".toList, .equals], .outside []) := rfl
  have hclose : lexFrom step (.outside []) "];\n".toList
      = some ([.closeBracket, .semicolon], .outside []) := rfl
  exact lexFrom_append (lexFrom_append hopen (lexFrom_quoted label)) hclose

/-- The tokens of the statement of a node. -/
def nodeTokens (display : Display) (node : Node) : List Token :=
  .quoted node.id.text.toList :: labelTokens (shownLabel display node)

/-- The tokens of the statement of an edge. -/
def edgeTokens (edge : Edge) : List Token :=
  .quoted edge.source.text.toList :: .arrow :: .quoted edge.target.text.toList
    :: labelTokens edge.relation.text

theorem lexFrom_nodeStatement (display : Display) (node : Node)
    : lexFrom step (.outside []) (nodeStatement display node)
      = some (nodeTokens display node, .outside []) := by
  have hindent : lexFrom step (.outside []) "  ".toList = some ([], .outside []) := rfl
  exact lexFrom_append (lexFrom_append hindent (lexFrom_quoted _)) (lexFrom_labelList _)

theorem lexFrom_edgeStatement (edge : Edge)
    : lexFrom step (.outside []) (edgeStatement edge) = some (edgeTokens edge, .outside []) := by
  have hindent : lexFrom step (.outside []) "  ".toList = some ([], .outside []) := rfl
  have harrow : lexFrom step (.outside []) " -> ".toList = some ([.arrow], .outside []) := rfl
  exact lexFrom_append
    (lexFrom_append (lexFrom_append (lexFrom_append hindent (lexFrom_quoted _)) harrow)
      (lexFrom_quoted _))
    (lexFrom_labelList _)

/-- Tokens of nodes are read as their statements, by induction on the nodes. -/
theorem readStatements_nodes (display : Display) (nodes : List Node) (rest : List Token)
    : readStatements (nodes.flatMap (nodeTokens display) ++ rest)
      = (readStatements rest).map
          (nodes.map (fun node => .node node.id.text "label" (shownLabel display node)) ++ ·) := by
  induction nodes with
  | nil => simp
  | cons node nodes ih =>
      rw [List.flatMap_cons, List.append_assoc]
      simp only [nodeTokens, labelTokens, List.cons_append, List.nil_append, readStatements, ih,
        String.ofList_toList, Option.map_map]
      rfl

/-- Tokens of edges are read as their statements, by induction on the edges. -/
theorem readStatements_edges (edges : List Edge) (rest : List Token)
    : readStatements (edges.flatMap edgeTokens ++ rest)
      = (readStatements rest).map
          (edges.map (fun edge => .edge edge.source.text edge.target.text "label"
            edge.relation.text) ++ ·) := by
  induction edges with
  | nil => simp
  | cons edge edges ih =>
      rw [List.flatMap_cons, List.append_assoc]
      simp only [edgeTokens, labelTokens, List.cons_append, List.nil_append, readStatements, ih,
        String.ofList_toList, Option.map_map]
      rfl

-----------------------------------------------------------------------------------------
-- Descriptions
-----------------------------------------------------------------------------------------

/-- The tokens of the two statements in front of those of the nodes. -/
def settingTokens : List Token :=
  [.word "rankdir".toList, .equals, .word "LR".toList, .semicolon, .word "node".toList,
    .openBracket, .word "shape".toList, .equals, .word "box".toList, .closeBracket, .semicolon]

/-- The tokens of all statements and of the brace behind them. -/
def bodyTokens (display : Display) (graph : Graph) : List Token :=
  settingTokens ++ graph.nodes.nodes.flatMap (nodeTokens display)
    ++ graph.edges.flatMap edgeTokens ++ [.closeBrace]

theorem lexFrom_body (display : Display) (graph : Graph)
    : lexFrom step (.outside []) (body display graph ++ "\x7d\n".toList)
      = some (bodyTokens display graph, .outside []) := by
  have hsettings : lexFrom step (.outside []) "  rankdir=LR;\n  node [shape=box];\n".toList
      = some (settingTokens, .outside []) := rfl
  have hnodes := lexFrom_flatMap (lexFrom_nodeStatement display) graph.nodes.nodes
  have hedges := lexFrom_flatMap lexFrom_edgeStatement graph.edges
  have hend : lexFrom step (.outside []) "\x7d\n".toList = some ([.closeBrace], .outside []) := rfl
  exact lexFrom_append (lexFrom_append (lexFrom_append hsettings hnodes) hedges) hend

theorem readStatements_bodyTokens (display : Display) (graph : Graph)
    : readStatements (bodyTokens display graph) = some (statements display graph) := by
  rw [bodyTokens, settingTokens, List.append_assoc, List.append_assoc]
  simp only [List.cons_append, List.nil_append, readStatements, readStatements_nodes,
    readStatements_edges, Option.map_some, statements, nodeEntries, edgeEntries,
    List.map_map, List.append_nil]
  rfl

/-- The header of a description with a token that is the name of the graph. -/
theorem exists_lexFrom_header (name : String)
    : ∃ token, Token.name? token = some name
        ∧ lexFrom step (.outside []) ("digraph ".toList ++ graphName name ++ " \x7b\n".toList)
          = some ([.word "digraph".toList, token, .openBrace], .outside []) := by
  obtain ⟨token, hname, hlex⟩ := exists_lexFrom_graphName name
  have hkeyword : lexFrom step (.outside []) "digraph ".toList
      = some ([.word "digraph".toList], .outside []) := rfl
  have hbrace : lexFrom step (.outside []) ['\x7b', '\n'] = some ([.openBrace], .outside []) := rfl
  have hsplit : "digraph ".toList ++ graphName name ++ " \x7b\n".toList
      = "digraph ".toList ++ (graphName name ++ [' '] ++ ['\x7b', '\n']) := by
    rw [List.append_assoc, List.append_assoc]
    rfl
  refine ⟨token, hname, ?_⟩
  rw [hsplit]
  exact lexFrom_append hkeyword (lexFrom_append hlex hbrace)

/-- A description is read as the name and the statements of its graph.  Witness: its text is the
tokens of the header and of the statements one after the other.
-/
theorem read_render_eq (settings : RenderSettings) (graph : Graph)
    : read (render settings graph).toList
      = some (settings.graphName, statements settings.display graph) := by
  obtain ⟨token, hname, hheader⟩ := exists_lexFrom_header settings.graphName
  have htokens := tokens?_of_lexFrom
    (lexFrom_append hheader (lexFrom_body settings.display graph))
  have htext : (render settings graph).toList
      = "digraph ".toList ++ graphName settings.graphName ++ " \x7b\n".toList
        ++ (body settings.display graph ++ "\x7d\n".toList) := by
    rw [← List.append_assoc]
    exact String.toList_ofList
  rw [read, htext, htokens]
  simp only [Option.bind_some, List.cons_append, List.nil_append, if_true, hname,
    readStatements_bodyTokens, Option.map_some]

/-- What a statement says about a node, if it is about one. -/
def Statement.nodeEntry? : Statement → Option (String × String)
  | node id _ value => some (id, value)
  | _ => none

/-- What a statement says about an edge, if it is about one. -/
def Statement.edgeEntry? : Statement → Option (String × String × String)
  | edge source target _ value => some (source, target, value)
  | _ => none

theorem filterMap_nodeEntry?_statements (display : Display) (graph : Graph)
    : (statements display graph).filterMap Statement.nodeEntry? = nodeEntries display graph := by
  simp only [statements, List.filterMap_append, List.filterMap_map]
  simp [Function.comp_def, Statement.nodeEntry?]

theorem filterMap_edgeEntry?_statements (display : Display) (graph : Graph)
    : (statements display graph).filterMap Statement.edgeEntry? = edgeEntries graph := by
  simp only [statements, List.filterMap_append, List.filterMap_map]
  simp [Function.comp_def, Statement.edgeEntry?]

/-- A description is read as one statement for each node and then one for each edge, behind the
two that are always there, and only graphs that show the same have the same description.
-/
theorem read_render (settings : RenderSettings) (graph : Graph)
    : read (render settings graph).toList
          = some (settings.graphName,
            [.setting "rankdir" "LR", .default "node" "shape" "box"]
              ++ (nodeEntries settings.display graph).map
                (fun entry => .node entry.1 "label" entry.2)
              ++ (edgeEntries graph).map
                (fun entry => .edge entry.1 entry.2.1 "label" entry.2.2))
        ∧ ∀ otherSettings : RenderSettings, ∀ other : Graph,
          render otherSettings other = render settings graph →
            nodeEntries otherSettings.display other = nodeEntries settings.display graph
              ∧ edgeEntries other = edgeEntries graph := by
  refine ⟨read_render_eq settings graph, fun otherSettings other hrender => ?_⟩
  have hread := read_render_eq otherSettings other
  rw [hrender, read_render_eq] at hread
  have hsame : statements settings.display graph = statements otherSettings.display other :=
    congrArg Prod.snd (Option.some.inj hread)
  constructor
  · rw [← filterMap_nodeEntry?_statements, ← hsame, filterMap_nodeEntry?_statements]
  · rw [← filterMap_edgeEntry?_statements otherSettings.display, ← hsame,
      filterMap_edgeEntry?_statements]

end StoryAtlas.Render.Dot
