import StoryAtlas.Proofs.Markup.Reading

/-! Balanced tags.
Tags without attributes and text between them are read like an automaton reads them that keeps a
stack of names and remembers whether there was a root.  It tells which texts are accepted, and
the one problem of every other text.
-/

namespace StoryAtlas.Markup

open StoryAtlas.Text

-----------------------------------------------------------------------------------------
-- Tags and text
-----------------------------------------------------------------------------------------

/-- A name of ASCII letters. -/
structure LetterName where
  chars : List Char
  nonempty : chars ≠ []
  letters : ∀ c ∈ chars, c.isAlpha = true
deriving DecidableEq

/-- A run of text, possibly empty, without markup, references and byte order marks. -/
structure PlainText where
  chars : List Char
  plain : ∀ c ∈ chars, c ≠ '<' ∧ c ≠ '&' ∧ c ≠ '\uFEFF'
deriving DecidableEq

/-- A tag without attributes, or a run of text. -/
inductive Piece
  | opening (name : LetterName)
  | empty (name : LetterName)
  | closing (name : LetterName)
  | text (run : PlainText)
deriving DecidableEq

/-- The characters of a tag or a run of text. -/
def Piece.written : Piece → List Char
  | opening name => '<' :: (name.chars ++ ['>'])
  | empty name => '<' :: (name.chars ++ ['/', '>'])
  | closing name => '<' :: '/' :: (name.chars ++ ['>'])
  | text run => run.chars

/-- The characters of tags and text in a row. -/
def writtenPieces (pieces : List Piece) : List Char :=
  pieces.flatMap Piece.written

-----------------------------------------------------------------------------------------
-- The automaton
-----------------------------------------------------------------------------------------

/-- The names that are open, innermost first, with the bytes of their start tags, and whether
there was a root. -/
structure Balance where
  opened : List (LetterName × Span) := []
  rooted : Bool := false

/-- Reads a tag or a run of text that has the given bytes. -/
def Balance.step (balance : Balance) (piece : Piece) (span : Span) : Except ErrorCode Balance :=
  match piece with
  | .opening name =>
      if balance.opened.isEmpty && balance.rooted then .error .contentAfterRoot
      else .ok { opened := (name, span) :: balance.opened, rooted := true }
  | .empty _ =>
      if balance.opened.isEmpty && balance.rooted then .error .contentAfterRoot
      else .ok { balance with rooted := true }
  | .closing name =>
      match balance.opened with
      | [] => .error .malformed
      | (top, _) :: others =>
          if top = name then .ok { balance with opened := others } else .error .malformed
  | .text run =>
      if balance.opened.isEmpty && !isAllBlank run.chars then
        .error (if balance.rooted then .contentAfterRoot else .malformed)
      else .ok balance

/-- What is said about a text in the end. -/
inductive Verdict
  | accepted
  /-- Reading stopped with a problem of a kind. -/
  | stopped (code : ErrorCode)
  /-- The text ended in an element, whose start tag has these bytes. -/
  | unclosed (span : Span)

namespace Balance

/-- The verdict at the end of a text. -/
def finish (balance : Balance) : Verdict :=
  match balance.opened with
  | (_, span) :: _ => .unclosed span
  | [] => if balance.rooted then .accepted else .stopped .missingRoot

/-- The verdict on tags and text in a row that begin at a byte offset. -/
def verdict (balance : Balance) (position : Nat) : List Piece → Verdict
  | [] => balance.finish
  | piece :: rest =>
      let stop := position + byteLength piece.written
      match balance.step piece (.between position stop) with
      | .error code => .stopped code
      | .ok next => next.verdict stop rest

end Balance

/-- Whether a document or the diagnostics of a text are what a verdict says.  There is exactly one
diagnostic unless the text is accepted. -/
def Verdict.Describes : Verdict → Except ParseError Document → Prop
  | accepted, .ok _ => True
  | stopped code, .error error =>
      ∃ diagnostic, error.diagnostics = [diagnostic] ∧ diagnostic.code = code
  | unclosed span, .error error =>
      ∃ diagnostic,
        error.diagnostics = [diagnostic]
        ∧ diagnostic.code = .unclosedElement
        ∧ diagnostic.primarySpan? = some span
  | _, _ => False

theorem LetterName.isName (name : LetterName) : IsName name.chars :=
  isName_of_test (by decide) name.nonempty name.letters

-----------------------------------------------------------------------------------------
-- The reader and the automaton side by side
-----------------------------------------------------------------------------------------

/-- A reader that has met no problem and has the elements open, and a root, as a state says. -/
structure Balance.Tracks (balance : Balance) (reader : Reader) : Prop where
  opened
    : reader.opened.map (fun element => (element.tag, element.span))
      = balance.opened.map fun (name, span) => (String.ofList name.chars, span)
  root : reader.root.isSome = balance.rooted
  rooted : balance.opened ≠ [] → balance.rooted = true
  problems : reader.problems = []

/-- A step of the automaton and a step of the reader with the same outcome. -/
def Balance.SameStep : Except ErrorCode Balance → Except (List Problem) Reader → Prop
  | .ok balance, .ok reader => balance.Tracks reader
  | .error code, .error problems =>
      ∃ problem, problems = [problem] ∧ problem.diagnostic.code = code
  | _, _ => False

namespace Balance.Tracks

variable {balance : Balance} {reader : Reader}

theorem opened_eq_nil_iff (h : balance.Tracks reader)
    : reader.opened = [] ↔ balance.opened = [] := by
  have hlength := congrArg List.length h.opened
  simp only [List.length_map] at hlength
  rw [← List.length_eq_zero_iff, ← List.length_eq_zero_iff, hlength]

theorem stop_eq (h : balance.Tracks reader) (problem : Problem)
    : reader.stop problem = [problem] := by
  rw [Reader.stop, h.problems, List.nil_append]

/-- A tag that is only a name adds an element, unless it stands behind the root. -/
theorem addElement (h : balance.Tracks reader) (name : LetterName) (span : Span)
    : if balance.opened.isEmpty && balance.rooted then
        ∃ problem,
          reader.addElement name.chars span = .error [problem]
          ∧ problem.diagnostic.code = .contentAfterRoot
      else
        ∃ next element,
          reader.addElement name.chars span = .ok (next, element)
          ∧ (element.tag, element.span) = (String.ofList name.chars, span)
          ∧ next.opened = reader.opened
          ∧ next.root.isSome = true
          ∧ next.problems = [] := by
  unfold Reader.addElement
  rw [name.isName.attributesOf_eq_nil, name.isName.tagName_eq]
  simp only [Reader.readTag, List.append_nil]
  have hopened := h.opened_eq_nil_iff
  have hroot := h.root
  cases hr : reader.root with
  | none =>
      rw [hr] at hroot
      rw [if_neg (by simp [← hroot])]
      exact ⟨_, _, rfl, rfl, rfl, rfl, h.problems⟩
  | some root =>
      rw [hr] at hroot
      cases ho : reader.opened with
      | nil =>
          rw [if_pos (by simp [← hroot, hopened.1 ho])]
          exact ⟨_, congrArg Except.error (h.stop_eq _), rfl⟩
      | cons parent others =>
          have hne : balance.opened ≠ [] := by
            rw [ne_eq, ← hopened, ho]
            exact List.cons_ne_nil parent others
          rw [if_neg (by simp [hne])]
          exact ⟨_, _, rfl, rfl, rfl, rfl, h.problems⟩

theorem step_opening (h : balance.Tracks reader) (name : LetterName) (span : Span)
    : SameStep (balance.step (.opening name) span)
        (reader.step ⟨.startTag name.chars, span⟩) := by
  have hadd := h.addElement name span
  unfold Balance.step Reader.step
  dsimp only
  split at hadd
  · next hstop =>
      obtain ⟨problem, heq, hcode⟩ := hadd
      rw [if_pos hstop, heq]
      exact ⟨problem, rfl, hcode⟩
  · next hstop =>
      obtain ⟨next, element, heq, helement, hopened, hroot, hproblems⟩ := hadd
      rw [if_neg hstop, heq]
      exact {
        opened := by
          rw [List.map_cons, List.map_cons, hopened, h.opened, helement]
        root := hroot
        rooted := fun _ => rfl
        problems := hproblems
      }

theorem step_empty (h : balance.Tracks reader) (name : LetterName) (span : Span)
    : SameStep (balance.step (.empty name) span)
        (reader.step ⟨.emptyTag name.chars, span⟩) := by
  have hadd := h.addElement name span
  unfold Balance.step Reader.step
  dsimp only
  split at hadd
  · next hstop =>
      obtain ⟨problem, heq, hcode⟩ := hadd
      rw [if_pos hstop, heq]
      exact ⟨problem, rfl, hcode⟩
  · next hstop =>
      obtain ⟨next, element, heq, -, hopened, hroot, hproblems⟩ := hadd
      rw [if_neg hstop, heq]
      exact {
        opened := hopened ▸ h.opened
        root := hroot
        rooted := fun _ => rfl
        problems := hproblems
      }

/-- An end tag closes the innermost element exactly if it has its name. -/
theorem step_closing (h : balance.Tracks reader) (name : LetterName) (span : Span)
    : SameStep (balance.step (.closing name) span)
        (reader.step ⟨.endTag name.chars, span⟩) := by
  have hopened := h.opened
  simp only [Balance.step, Reader.step, name.isName.closeElement_eq]
  cases hb : balance.opened with
  | nil =>
      rw [h.opened_eq_nil_iff.2 hb]
      exact ⟨_, h.stop_eq _, rfl⟩
  | cons top others =>
      cases hr : reader.opened with
      | nil => exact absurd (h.opened_eq_nil_iff.1 hr) (by simp [hb])
      | cons element rest =>
          rw [hb, hr, List.map_cons, List.map_cons, List.cons.injEq] at hopened
          obtain ⟨hhead, htail⟩ := hopened
          have htag : element.tag = String.ofList name.chars ↔ top.1 = name := by
            rw [(Prod.mk.inj hhead).1, String.ofList_inj, LetterName.mk.injEq]
          by_cases hname : top.1 = name
          · simp only [if_pos hname, if_pos (htag.2 hname)]
            exact {
              opened := htail
              root := h.root
              rooted := fun _ => h.rooted (by simp [hb])
              problems := h.problems
            }
          · simp only [if_neg hname, if_neg (mt htag.1 hname)]
            exact ⟨_, h.stop_eq _, rfl⟩

/-- Text other than blanks has to stand in an element. -/
theorem step_text (h : balance.Tracks reader) (run : PlainText) (span : Span)
    : SameStep (balance.step (.text run) span)
        (reader.addText (normalizeLineBreaks run.chars) span) := by
  have hopened := h.opened_eq_nil_iff
  have hroot := h.root
  simp only [Balance.step, Reader.addText, isAllBlank_normalizeLineBreaks]
  cases ho : reader.opened with
  | nil =>
      rw [hopened.1 ho]
      cases hblank : isAllBlank run.chars with
      | true =>
          cases hr : reader.root <;> exact ⟨h.opened, h.root, h.rooted, h.problems⟩
      | false =>
          cases hr : reader.root with
          | none =>
              rw [hr] at hroot
              rw [← hroot]
              exact ⟨_, h.stop_eq _, rfl⟩
          | some root =>
              rw [hr] at hroot
              rw [← hroot]
              exact ⟨_, h.stop_eq _, rfl⟩
  | cons element others =>
      have hne : balance.opened ≠ [] := by
        rw [ne_eq, ← hopened, ho]
        exact List.cons_ne_nil element others
      rw [h.rooted hne] at hroot
      obtain ⟨root, hr⟩ := Option.isSome_iff_exists.1 hroot
      rw [hr, if_neg (by simp [hne])]
      exact ⟨ho ▸ h.opened, h.rooted hne ▸ rfl, h.rooted, h.problems⟩

end Balance.Tracks

-----------------------------------------------------------------------------------------
-- Whole texts
-----------------------------------------------------------------------------------------

/-- The error that shows some problems. -/
def errorOf (problems : List Problem) : ParseError :=
  ⟨problems.map Problem.diagnostic⟩

namespace Balance.Tracks

variable {balance : Balance} {reader : Reader}

/-- The end of a text leads to the verdict on it. -/
theorem finish (h : balance.Tracks reader) (position : Nat)
    : balance.finish.Describes ((reader.finish (.complete position)).mapError errorOf) := by
  have hopened := h.opened
  have hroot := h.root
  unfold Balance.finish Reader.finish
  cases hb : balance.opened with
  | nil =>
      rw [h.opened_eq_nil_iff.2 hb]
      cases hr : reader.root with
      | none =>
          rw [hr] at hroot
          rw [← hroot]
          exact ⟨_, congrArg (List.map Problem.diagnostic) (h.stop_eq _), rfl⟩
      | some root =>
          rw [hr] at hroot
          rw [← hroot, h.problems]
          trivial
  | cons top others =>
      cases ho : reader.opened with
      | nil => exact absurd (h.opened_eq_nil_iff.1 ho) (by simp [hb])
      | cons element rest =>
          rw [hb, ho, List.map_cons, List.map_cons, List.cons.injEq, Prod.mk.injEq] at hopened
          refine ⟨_, congrArg (List.map Problem.diagnostic) (h.stop_eq _), rfl, ?_⟩
          rw [← hopened.1.2]
          rfl

/-- A verdict describes what reading leads to if it does so behind the first step. -/
theorem describes_cons (piece : Piece) {pieces : List Piece} {position : Nat}
    {result : Except (List Problem) Reader} {goOn : Reader → Except (List Problem) Document}
    (hstep
      : SameStep (balance.step piece (.between position (position + byteLength piece.written)))
          result)
    (hrest
      : ∀ next reader,
          Balance.Tracks next reader
          → (next.verdict (position + byteLength piece.written) pieces).Describes
              ((goOn reader).mapError errorOf))
    : (balance.verdict position (piece :: pieces)).Describes
        ((result.bind goOn).mapError errorOf) := by
  rw [Balance.verdict]
  cases hb : balance.step piece
      (.between position (position + byteLength piece.written)) with
  | error code =>
      rw [hb] at hstep
      cases result with
      | error problems =>
          obtain ⟨problem, rfl, hcode⟩ := hstep
          exact ⟨problem.diagnostic, rfl, hcode⟩
      | ok next => exact hstep.elim
  | ok next =>
      rw [hb] at hstep
      cases result with
      | error problems => exact hstep.elim
      | ok reader => exact hrest next reader hstep

end Balance.Tracks

namespace PlainText

def empty : PlainText :=
  ⟨[], by simp⟩

/-- Two runs of text in a row. -/
def append (first second : PlainText) : PlainText :=
  ⟨first.chars ++ second.chars, fun c hc =>
    (List.mem_append.1 hc).elim (first.plain c) (second.plain c)⟩

theorem isTextChar_of_mem {run : PlainText} {c : Char} (h : c ∈ run.chars)
    : isTextChar c = true := by
  have hplain := run.plain c h
  simp [isTextChar, hplain]

end PlainText

namespace Balance

/-- Two runs of text in a row are read as one. -/
theorem verdict_text_text (balance : Balance) (position : Nat) (first second : PlainText)
    (pieces : List Piece)
    : balance.verdict position (.text first :: .text second :: pieces)
      = balance.verdict position (.text (first.append second) :: pieces) := by
  simp only [verdict, step, Piece.written, PlainText.append, isAllBlank, List.all_append,
    byteLength_append, Nat.add_assoc]
  by_cases hopened : balance.opened.isEmpty = true
  · by_cases hfirst : first.chars.all isBlank = true
    · simp [hopened, hfirst]
    · simp [hopened, hfirst]
  · simp [hopened]

theorem verdict_text_empty (balance : Balance) (position : Nat) (pieces : List Piece)
    : balance.verdict position (.text .empty :: pieces) = balance.verdict position pieces := by
  simp [verdict, step, Piece.written, PlainText.empty, isAllBlank]

end Balance

section Run

variable {balance : Balance} {reader : Reader}

/-- A run of text is read in front of a tag or the end of the text.  An empty run is no token at
all, and any other one is a single token. -/
theorem Balance.Tracks.describes_text (h : balance.Tracks reader) (run : PlainText)
    {pieces : List Piece} {position : Nat} {rest : List Char}
    (hhead : ∀ c ∈ rest.head?, isTextChar c = false)
    (hrest
      : ∀ next reader,
          Balance.Tracks next reader
          → (next.verdict (position + byteLength run.chars) pieces).Describes
              ((reader.readFrom (position + byteLength run.chars) rest).mapError errorOf))
    : (balance.verdict position (.text run :: pieces)).Describes
        ((reader.readFrom position (run.chars ++ rest)).mapError errorOf) := by
  cases hchars : run.chars with
  | nil =>
      have hempty : run = .empty := by
        cases run
        simpa [PlainText.empty] using hchars
      rw [hempty, Balance.verdict_text_empty]
      simpa [hchars] using hrest balance reader h
  | cons c others =>
      have htext {d : Char} (hd : d ∈ c :: others) : isTextChar d = true :=
        run.isTextChar_of_mem (hchars ▸ hd)
      have hread := readToken_text (htext List.mem_cons_self)
        (fun d hd => htext (List.mem_cons_of_mem c hd)) hhead
      rw [List.cons_append, Reader.readFrom_cons hread]
      have hwritten : (Token.text c others).written = run.chars := hchars.symm
      rw [hwritten]
      refine Balance.Tracks.describes_cons (.text run) ?_ hrest
      simp only [Reader.step, ← hchars]
      exact h.step_text run _

/-- A tag is read as a single token, in front of what its step leads to. -/
theorem Balance.describes_tag (inside : List Char) {piece : Piece} {token : Token}
    {pieces : List Piece} {position : Nat}
    (hpiece : piece.written = '<' :: inside) (htoken : token.written = piece.written)
    (hread
      : readToken '<' (inside ++ writtenPieces pieces) = .ok (token, writtenPieces pieces))
    (hstep : ∀ span, SameStep (balance.step piece span) (reader.step ⟨token, span⟩))
    (hrest
      : ∀ position next reader,
          Balance.Tracks next reader
          → (next.verdict position pieces).Describes
              ((reader.readFrom position (writtenPieces pieces)).mapError errorOf))
    : (balance.verdict position (piece :: pieces)).Describes
        ((reader.readFrom position (writtenPieces (piece :: pieces))).mapError errorOf) := by
  have hchars : writtenPieces (piece :: pieces) = '<' :: (inside ++ writtenPieces pieces) := by
    rw [writtenPieces, List.flatMap_cons, hpiece]
    rfl
  rw [hchars, Reader.readFrom_cons hread, htoken]
  exact Balance.Tracks.describes_cons piece (hstep _) (hrest _)

/-- Reading tags and text behind a run of text leads to the verdict on them, by induction on the
tags and runs to come with everything that stands before them in the state.  A run that follows
another one joins it, since both are one token.
-/
theorem Balance.Tracks.describes_pieces (h : balance.Tracks reader) (run : PlainText)
    (pieces : List Piece) (position : Nat)
    : (balance.verdict position (.text run :: pieces)).Describes
        ((reader.readFrom position (run.chars ++ writtenPieces pieces)).mapError errorOf) := by
  induction pieces generalizing balance reader run position with
  | nil =>
      refine h.describes_text run (by simp [writtenPieces]) fun next reader hnext => ?_
      rw [writtenPieces, List.flatMap_nil, Reader.readFrom_nil]
      exact hnext.finish _
  | cons piece pieces ih =>
      have hrest (position : Nat) (next : Balance) (reader : Reader)
          (hnext : next.Tracks reader)
          : (next.verdict position pieces).Describes
              ((reader.readFrom position (writtenPieces pieces)).mapError errorOf) := by
        have hempty := ih hnext .empty position
        rwa [Balance.verdict_text_empty] at hempty
      cases piece with
      | text second =>
          rw [Balance.verdict_text_text]
          have hjoined := ih h (run.append second) position
          rwa [PlainText.append, List.append_assoc] at hjoined
      | opening name =>
          refine h.describes_text run (by simp [writtenPieces, Piece.written, isTextChar])
            fun next reader hnext => ?_
          refine Balance.describes_tag (name.chars ++ ['>']) rfl rfl ?_
            (hnext.step_opening name) hrest
          rw [List.append_assoc]
          exact readToken_startTag (by simpa using name.isName.beginsName [])
            name.isName.unbroken name.isName.getLast?_ne _
      | empty name =>
          refine h.describes_text run (by simp [writtenPieces, Piece.written, isTextChar])
            fun next reader hnext => ?_
          refine Balance.describes_tag (name.chars ++ ['/', '>']) rfl rfl ?_
            (hnext.step_empty name) hrest
          rw [List.append_assoc]
          exact readToken_emptyTag (by simpa using name.isName.beginsName [])
            name.isName.unbroken _
      | closing name =>
          refine h.describes_text run (by simp [writtenPieces, Piece.written, isTextChar])
            fun next reader hnext => ?_
          refine Balance.describes_tag ('/' :: (name.chars ++ ['>'])) rfl rfl ?_
            (hnext.step_closing name) hrest
          rw [List.cons_append, List.append_assoc]
          exact readToken_endTag name.isName.unbroken _

end Run

theorem not_mem_writtenPieces (pieces : List Piece) : '\uFEFF' ∉ writtenPieces pieces := by
  intro hmem
  obtain ⟨piece, -, hpiece⟩ := List.mem_flatMap.1 hmem
  have hname (name : LetterName) : '\uFEFF' ∉ name.chars := fun hchar =>
    name.isName.2 _ hchar (by decide)
  cases piece with
  | opening name | empty name | closing name => simp [Piece.written, hname] at hpiece
  | text run => exact (run.plain _ hpiece).2.2 rfl

/-- The verdict of the automaton on tags and text is what parsing them leads to. -/
theorem parse_writtenPieces (pieces : List Piece)
    : (Balance.verdict {} 0 pieces).Describes
        (parse (String.ofList (writtenPieces pieces))) := by
  have htracks : Balance.Tracks {} {} := ⟨rfl, rfl, by simp, rfl⟩
  have hstart : (String.ofList (writtenPieces pieces)).toList.head? ≠ some '\uFEFF' := by
    rw [String.toList_ofList]
    exact fun hhead => not_mem_writtenPieces pieces (List.mem_of_mem_head? hhead)
  have hread := htracks.describes_pieces .empty pieces 0
  rw [Balance.verdict_text_empty] at hread
  rw [parse, readSource_eq_readFrom hstart, String.toList_ofList]
  exact hread

end StoryAtlas.Markup
