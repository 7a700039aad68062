import StoryAtlas.Proofs.Markup.LineFeeds
import StoryAtlas.Proofs.Outcome

/-! Tokens of a text whose line breaks are turned into line feeds.
No scan tells one line break from another and none of them is a delimiter, so that the scans go
on alike before and after, and the tokens only differ by the line breaks in them.
-/

namespace StoryAtlas.Markup

open StoryAtlas.Text

-----------------------------------------------------------------------------------------
-- Tags
-----------------------------------------------------------------------------------------

section Tags

variable {quote : Option Char} {c : Char}

/-- A line break goes on a scan for the end of a tag. -/
theorem splitTag_break (hquote : ∀ q ∈ quote, c ≠ q) (hc : c = '\r' ∨ c = '\n')
    (rest : List Char)
    : splitTag quote (c :: rest) = (splitTag quote rest).map (consSplit c) := by
  cases quote with
  | none => rcases hc with rfl | rfl <;> rfl
  | some q => rw [splitTag, if_neg (hquote q rfl)]

theorem splitTag_lineFeeds (hreturn : ∀ q ∈ quote, '\r' ≠ q) (hfeed : ∀ q ∈ quote, '\n' ≠ q)
    (afterReturn : Bool) (chars : List Char)
    : splitTag quote (lineFeeds afterReturn chars)
      = (splitTag quote chars).map (turnSplit afterReturn) := by
  fun_induction lineFeeds afterReturn chars generalizing quote with
  | case1 => cases quote <;> rfl
  | case2 afterReturn rest ih =>
      rw [splitTag_break hfeed (.inr rfl), splitTag_break hreturn (.inl rfl), ih hreturn hfeed,
        map_map, map_map]
      rfl
  | case3 afterReturn c rest hc hpassed ih =>
      obtain ⟨rfl, rfl⟩ := hpassed
      rw [splitTag_break hfeed (.inr rfl), ih hreturn hfeed, map_map]
      rfl
  | case4 afterReturn c rest hc hkept ih =>
      have hcons := turnSplit_kept hc hkept
      by_cases hbreak : c = '\n'
      · subst hbreak
        rw [splitTag_break hfeed (.inr rfl), splitTag_break hfeed (.inr rfl), ih hreturn hfeed,
          map_map, map_map]
        simp only [hcons]
      · cases quote with
        | none =>
            rw [splitTag, splitTag]
            split
            · simp [Except.map, turnSplit, lineFeeds]
            · rw [ih, map_map, map_map]
              · simp only [hcons]
              · split <;> simp [Ne.symm hc]
              · split <;> simp [Ne.symm hbreak]
        | some q =>
            rw [splitTag, splitTag, ih, map_map, map_map]
            · simp only [hcons]
            · split
              · simp
              · exact hreturn
            · split
              · simp
              · exact hfeed

end Tags

-----------------------------------------------------------------------------------------
-- Document type declarations
-----------------------------------------------------------------------------------------

/-- The pieces of a declaration that a scan takes at once, with the mode behind them. -/
inductive Delimits : DoctypeMode → List Char → DoctypeMode → Prop
  | instructionStart : Delimits .subset ['<', '?'] .instruction
  | instructionEnd : Delimits .instruction ['?', '>'] .subset
  | commentStart : Delimits .subset ['<', '!', '-', '-'] .comment
  | commentEnd : Delimits .comment ['-', '-', '>'] .subset

/-- The mode behind any other character, none behind the end of the declaration. -/
def DoctypeMode.next? (c : Char) (rest : List Char) : DoctypeMode → Option DoctypeMode
  | head =>
      if c = '>' then none
      else if c = '[' then some subset
      else if c = '"' ∨ c = '\'' then some (headLiteral c)
      else some head
  | headLiteral quote => some (if c = quote then head else headLiteral quote)
  | subset => some (if c = ']' then tail else if c = '<' then ofMarkup rest else subset)
  | instruction => some instruction
  | comment => some comment
  | declaration none =>
      some
        (if c = '>' then subset
          else declaration (if c = '"' ∨ c = '\'' then some c else none))
  | declaration (some quote) => some (declaration (if c = quote then none else some quote))
  | plain => some (if c = '>' then subset else plain)
  | tail => if c = '>' then none else some tail

/-- No quoted literal of the scan ends at a line break. -/
def DoctypeMode.Unbreaking : DoctypeMode → Prop
  | headLiteral quote | declaration (some quote) => '\r' ≠ quote ∧ '\n' ≠ quote
  | _ => True

section Doctype

variable {mode next : DoctypeMode} {c : Char} {piece rest : List Char}

theorem splitDoctype?_delimited (h : Delimits mode piece next) (after : List Char)
    : splitDoctype? mode (piece ++ after)
      = (splitDoctype? next after).map fun split => (piece ++ split.1, split.2) := by
  cases h <;> rfl

theorem splitDoctype?_step
    (h : ∀ {piece next}, Delimits mode piece next → ∀ after, c :: rest ≠ piece ++ after)
    : splitDoctype? mode (c :: rest)
      = match mode.next? c rest with
        | none => some ([], rest)
        | some next => (splitDoctype? next rest).map (consSplit c) := by
  have hnot {piece : List Char} {next : DoctypeMode} {d e : Char}
      (hpiece : Delimits mode (d :: e :: piece) next) (after : List Char) (hc : c = d)
      (hrest : rest = e :: (piece ++ after))
      : False :=
    h hpiece after (by rw [hc, hrest]; rfl)
  cases mode with
  | head =>
      rw [splitDoctype?]
      unfold DoctypeMode.next?
      split
      · rfl
      · split
        · rfl
        · split <;> rfl
  | headLiteral quote => rw [splitDoctype?, DoctypeMode.next?]
  | subset =>
      rw [splitDoctype?, DoctypeMode.next?]
      · exact hnot .instructionStart
      · exact hnot .commentStart
  | instruction =>
      rw [splitDoctype?, DoctypeMode.next?]
      exact hnot .instructionEnd
  | comment =>
      rw [splitDoctype?, DoctypeMode.next?]
      exact hnot .commentEnd
  | declaration quote => cases quote <;> rw [splitDoctype?, DoctypeMode.next?]
  | plain => rw [splitDoctype?, DoctypeMode.next?]
  | tail =>
      rw [splitDoctype?]
      unfold DoctypeMode.next?
      split <;> rfl

/-- A line break goes on in the same mode. -/
theorem splitDoctype?_break (hmode : mode.Unbreaking) (hc : c = '\r' ∨ c = '\n')
    (rest : List Char)
    : splitDoctype? mode (c :: rest) = (splitDoctype? mode rest).map (consSplit c) := by
  have hstart {piece : List Char} {next : DoctypeMode} (hpiece : Delimits mode piece next)
      (after : List Char)
      : c :: rest ≠ piece ++ after := by
    intro heq
    cases hpiece <;> rcases hc with rfl | rfl <;> cases heq
  have hnext : mode.next? c rest = some mode := by
    cases mode with
    | headLiteral quote =>
        rcases hc with rfl | rfl
        · exact congrArg some (if_neg hmode.1)
        · exact congrArg some (if_neg hmode.2)
    | declaration quote =>
        cases quote with
        | none => rcases hc with rfl | rfl <;> rfl
        | some quote =>
            rcases hc with rfl | rfl
            · exact congrArg (some ∘ DoctypeMode.declaration) (if_neg hmode.1)
            · exact congrArg (some ∘ DoctypeMode.declaration) (if_neg hmode.2)
    | _ => rcases hc with rfl | rfl <;> rfl
  rw [splitDoctype?_step hstart, hnext]

/-- Which declaration a markup begins is told without line breaks. -/
theorem ofMarkup_lineFeeds (chars : List Char)
    : DoctypeMode.ofMarkup (lineFeeds false chars) = DoctypeMode.ofMarkup chars := by
  have hpiece : ∀ piece ∈ literalDeclarations, Unbreaking piece := by
    simp [literalDeclarations, Unbreaking]
  have hany
      : (literalDeclarations.any fun piece => (dropPiece? piece (lineFeeds false chars)).isSome)
        = literalDeclarations.any fun piece => (dropPiece? piece chars).isSome := by
    rw [Bool.eq_iff_iff, List.any_eq_true, List.any_eq_true]
    refine exists_congr fun piece => and_congr_right fun hmem => ?_
    rw [dropPiece?_lineFeeds (hpiece piece hmem), Option.isSome_map]
  rw [DoctypeMode.ofMarkup, hany, DoctypeMode.ofMarkup]

theorem next?_lineFeeds (c : Char) (rest : List Char)
    : mode.next? c (lineFeeds false rest) = mode.next? c rest := by
  cases mode with
  | subset => rw [DoctypeMode.next?, ofMarkup_lineFeeds, DoctypeMode.next?]
  | declaration quote => cases quote <;> rfl
  | _ => rfl

/-- Behind a character that is no line break the mode is unbreaking again. -/
theorem unbreaking_of_next? (hmode : mode.Unbreaking) (hreturn : '\r' ≠ c) (hfeed : '\n' ≠ c)
    (h : mode.next? c rest = some next)
    : next.Unbreaking := by
  cases mode with
  | head =>
      rw [DoctypeMode.next?] at h
      split at h
      · cases h
      · split at h
        · cases h
          trivial
        · split at h <;> cases h
          · exact ⟨hreturn, hfeed⟩
          · trivial
  | headLiteral quote =>
      cases h
      split
      · trivial
      · exact hmode
  | subset =>
      cases h
      unfold DoctypeMode.ofMarkup
      split
      · trivial
      · split
        · split <;> trivial
        · trivial
  | instruction => cases h; trivial
  | comment => cases h; trivial
  | declaration quote =>
      cases quote with
      | none =>
          cases h
          split
          · trivial
          · split
            · exact ⟨hreturn, hfeed⟩
            · trivial
      | some quote =>
          cases h
          split
          · trivial
          · exact hmode
  | plain =>
      cases h
      split <;> trivial
  | tail =>
      rw [DoctypeMode.next?] at h
      split at h <;> cases h
      trivial

theorem Delimits.exists_cons (h : Delimits mode piece next)
    : ∃ p others, piece = p :: others ∧ Unbreaking (p :: others) ∧ next.Unbreaking := by
  cases h <;> exact ⟨_, _, rfl, ⟨by decide, by decide⟩, trivial⟩

/-- The scan goes alike behind a piece that is taken at once. -/
theorem splitDoctype?_lineFeeds_delimited (h : Delimits mode piece next) {after : List Char}
    (hgo
      : splitDoctype? next (lineFeeds false after)
        = (splitDoctype? next after).map (turnSplit false))
    (afterReturn : Bool)
    : splitDoctype? mode (lineFeeds afterReturn (piece ++ after))
      = (splitDoctype? mode (piece ++ after)).map (turnSplit afterReturn) := by
  obtain ⟨p, others, rfl, hunbreaking, -⟩ := h.exists_cons
  rw [List.cons_append, hunbreaking.lineFeeds_append, ← List.cons_append, ← List.cons_append,
    splitDoctype?_delimited h, splitDoctype?_delimited h, hgo, Option.map_map, Option.map_map]
  refine congrArg (Option.map · _) (funext fun split => ?_)
  exact congrArg (·, _) (hunbreaking.lineFeeds_append afterReturn split.1).symm

/-- The scan goes alike behind any other character that is no line break. -/
theorem splitDoctype?_lineFeeds_step (hmode : mode.Unbreaking) (hreturn : c ≠ '\r')
    (hfeed : c ≠ '\n')
    (hstart : ∀ {piece next}, Delimits mode piece next → ∀ after, c :: rest ≠ piece ++ after)
    (hgo
      : ∀ {next : DoctypeMode}, next.Unbreaking →
          splitDoctype? next (lineFeeds false rest)
            = (splitDoctype? next rest).map (turnSplit false))
    (afterReturn : Bool)
    : splitDoctype? mode (c :: lineFeeds false rest)
      = (splitDoctype? mode (c :: rest)).map (turnSplit afterReturn) := by
  have hturned {piece : List Char} {next : DoctypeMode} (hpiece : Delimits mode piece next)
      : ∀ after, c :: lineFeeds false rest ≠ piece ++ after := by
    obtain ⟨p, others, rfl, hunbreaking, -⟩ := hpiece.exists_cons
    rw [← lineFeeds_cons hreturn]
    exact lineFeeds_ne_append hunbreaking (hstart hpiece)
  rw [splitDoctype?_step hturned, splitDoctype?_step hstart, next?_lineFeeds]
  cases hnext : mode.next? c rest with
  | none => rfl
  | some next =>
      have hkept (split : List Char × List Char)
          : turnSplit afterReturn (consSplit c split) = consSplit c (turnSplit false split) :=
        turnSplit_kept hreturn (fun hpassed => hfeed hpassed.1) split
      dsimp only
      rw [hgo (unbreaking_of_next? hmode hreturn.symm hfeed.symm hnext), Option.map_map,
        Option.map_map]
      exact congrArg (Option.map · _) (funext fun split => (hkept split).symm)

/-- The scan goes alike before and after, by induction on the length of the text, as some pieces
are taken at once.
-/
theorem splitDoctype?_lineFeeds (hmode : mode.Unbreaking) (afterReturn : Bool)
    (chars : List Char)
    : splitDoctype? mode (lineFeeds afterReturn chars)
      = (splitDoctype? mode chars).map (turnSplit afterReturn) := by
  induction hlength : chars.length using Nat.strong_induction_on
    generalizing mode afterReturn chars with
  | _ length ih =>
      subst hlength
      by_cases hdelimited : ∃ piece next after, Delimits mode piece next ∧ chars = piece ++ after
      · obtain ⟨piece, next, after, hpiece, rfl⟩ := hdelimited
        obtain ⟨p, others, rfl, -, hnext⟩ := hpiece.exists_cons
        have hshort : after.length < (p :: others ++ after).length := by
          rw [List.length_append, List.length_cons]
          omega
        exact splitDoctype?_lineFeeds_delimited hpiece (ih _ hshort hnext false after rfl) _
      cases chars with
      | nil => cases mode <;> simp [lineFeeds, splitDoctype?]
      | cons c rest =>
          have hrest {mode : DoctypeMode} (hmode : mode.Unbreaking) (afterReturn : Bool) :=
            ih rest.length (Nat.lt_succ_self _) hmode afterReturn rest rfl
          by_cases hreturn : c = '\r'
          · rw [hreturn, lineFeeds_return, splitDoctype?_break hmode (.inr rfl), hrest hmode,
              splitDoctype?_break hmode (.inl rfl), Option.map_map, Option.map_map]
            rfl
          by_cases hpassed : c = '\n' ∧ afterReturn
          · obtain ⟨rfl, rfl⟩ := hpassed
            rw [lineFeeds_passed, hrest hmode, splitDoctype?_break hmode (.inr rfl),
              Option.map_map]
            rfl
          rw [lineFeeds_kept hreturn hpassed]
          have hkept (split : List Char × List Char) := turnSplit_kept hreturn hpassed split
          by_cases hfeed : c = '\n'
          · rw [splitDoctype?_break hmode (.inr hfeed), splitDoctype?_break hmode (.inr hfeed),
              hrest hmode, Option.map_map, Option.map_map]
            exact congrArg (Option.map · _) (funext fun split => (hkept split).symm)
          · refine splitDoctype?_lineFeeds_step hmode hreturn hfeed ?_ (hrest · false) afterReturn
            exact fun hpiece after heq => hdelimited ⟨_, _, after, hpiece, heq⟩

end Doctype

/-- A declaration has its keyword if it begins with one of the spellings of the keyword. -/
theorem dropDoctypeKeyword?_eq_some_iff {body content : List Char}
    : dropDoctypeKeyword? body = some content
      ↔ ∃ keyword,
          keyword.map Char.toLower = ['d', 'o', 'c', 't', 'y', 'p', 'e']
          ∧ body = keyword ++ content := by
  unfold dropDoctypeKeyword?
  constructor
  · intro h
    split at h
    · next hkeyword =>
        cases h
        exact ⟨body.take 7, hkeyword, (List.take_append_drop 7 body).symm⟩
    · cases h
  · rintro ⟨keyword, hkeyword, rfl⟩
    have hlength : keyword.length = 7 := by
      rw [← List.length_map (f := Char.toLower), hkeyword]
      rfl
    rw [← hlength, List.take_left, List.drop_left, if_pos hkeyword]

theorem dropDoctypeKeyword?_lineFeeds (body : List Char)
    : dropDoctypeKeyword? (lineFeeds false body)
      = (dropDoctypeKeyword? body).map (lineFeeds false) := by
  have hunbreaking {keyword : List Char}
      (h : keyword.map Char.toLower = ['d', 'o', 'c', 't', 'y', 'p', 'e'])
      : Unbreaking keyword := by
    refine ⟨fun hmem => ?_, fun hmem => ?_⟩ <;>
      · have hlower := List.mem_map_of_mem (f := Char.toLower) hmem
        rw [h] at hlower
        revert hlower
        decide
  refine Option.ext fun content => ?_
  rw [dropDoctypeKeyword?_eq_some_iff, Option.map_eq_some_iff]
  constructor
  · rintro ⟨keyword, hkeyword, hbody⟩
    have hdrop := dropPiece?_lineFeeds (hunbreaking hkeyword) body
    rw [dropPiece?_eq_some_iff.mpr hbody] at hdrop
    obtain ⟨rest, hrest, hturned⟩ := Option.map_eq_some_iff.mp hdrop.symm
    exact ⟨rest,
      dropDoctypeKeyword?_eq_some_iff.mpr
        ⟨keyword, hkeyword, dropPiece?_eq_some_iff.mp hrest⟩,
      hturned⟩
  · rintro ⟨rest, hrest, rfl⟩
    obtain ⟨keyword, hkeyword, rfl⟩ := dropDoctypeKeyword?_eq_some_iff.mp hrest
    have hdrop := dropPiece?_lineFeeds (hunbreaking hkeyword) (keyword ++ rest)
    rw [dropPiece?_eq_some_iff.mpr rfl] at hdrop
    exact ⟨keyword, hkeyword, dropPiece?_eq_some_iff.mp hdrop⟩

-----------------------------------------------------------------------------------------
-- Tokens
-----------------------------------------------------------------------------------------

/-- A token with its line breaks turned into line feeds. -/
def Token.turned : Token → Token
  | startTag content => .startTag (lineFeeds false content)
  | emptyTag content => .emptyTag (lineFeeds false content)
  | endTag content => .endTag (lineFeeds false content)
  | text first others =>
      if first = '\r' then .text '\n' (lineFeeds true others)
      else .text first (lineFeeds false others)
  | reference name => .reference (lineFeeds false name)
  | cdata chars => .cdata (lineFeeds false chars)
  | comment body => .comment (lineFeeds false body)
  | instruction body => .instruction (lineFeeds false body)
  | doctype body => .doctype (lineFeeds false body)

/-- A token and the rest behind it, before and after line breaks are turned. -/
def Turned (split other : Token × List Char) : Prop :=
  other = (split.1.turned, lineFeeds false split.2)

theorem openingTag_lineFeeds (content : List Char)
    : openingTag (lineFeeds false content) = (openingTag content).turned := by
  have hlast
      : (lineFeeds false content).getLast? = some '/' ↔ content.getLast? = some '/' :=
    getLast?_lineFeeds_eq_some_iff (by decide) (by decide) false content
  unfold openingTag
  by_cases h : content.getLast? = some '/'
  · obtain ⟨front, rfl⟩ := List.getLast?_eq_some_iff.mp h
    rw [if_pos h, if_pos (hlast.mpr h), lineFeeds_append_cons (by decide) (by decide)]
    simp [lineFeeds, Token.turned]
  · rw [if_neg h, if_neg fun hturned => h (hlast.mp hturned)]
    rfl

/-- A reference that is not ended by its semicolon is none. -/
theorem readReference_eq_error {chars : List Char}
    (h : (chars.dropWhile isReferenceChar).head? ≠ some ';')
    : readReference chars = .error { cause := .referenceNotClosed } := by
  unfold readReference
  split
  · next rest hrest => exact absurd (congrArg List.head? hrest) h
  · rfl

theorem readReference_alike (chars : List Char)
    : Alike Turned (readReference chars) (readReference (lineFeeds false chars)) := by
  have hreturn : isReferenceChar '\r' = true := by decide
  have hfeed : isReferenceChar '\n' = true := by decide
  have hdrop := dropWhile_lineFeeds hreturn hfeed false chars
  by_cases hend : (chars.dropWhile isReferenceChar).head? = some ';'
  · obtain ⟨rest, hrest⟩ := List.head?_eq_some_iff.mp hend
    rw [hrest] at hdrop
    rw [readReference, readReference, hrest, hdrop, takeWhile_lineFeeds hreturn hfeed]
    exact .ok rfl
  · have hturned
        : ((lineFeeds false chars).dropWhile isReferenceChar).head? ≠ some ';' := by
      rw [hdrop]
      exact fun h => hend ((head?_lineFeeds_eq_some_iff (by decide) (by decide) _).mp h)
    rw [readReference_eq_error hend, readReference_eq_error hturned]
    exact .error _ _

/-- What stands between a keyword and an ending piece is read alike. -/
theorem enclosed_alike {p : Char} {keyword piece : List Char} {fault : TokenFault}
    {token : List Char → Token} (hkeyword : Unbreaking keyword) (hpiece : Unbreaking (p :: piece))
    (htoken : ∀ chars, (token chars).turned = token (lineFeeds false chars)) (rest : List Char)
    : Alike Turned
        (match dropPiece? keyword rest with
          | none => .error fault
          | some inner =>
              match splitOnce? (p :: piece) inner with
              | none => .error fault
              | some (chars, rest) => .ok (token chars, rest))
        (match dropPiece? keyword (lineFeeds false rest) with
          | none => .error fault
          | some inner =>
              match splitOnce? (p :: piece) inner with
              | none => .error fault
              | some (chars, rest) => .ok (token chars, rest)) := by
  rw [dropPiece?_lineFeeds hkeyword]
  cases dropPiece? keyword rest with
  | none => exact .error _ _
  | some inner =>
      rw [Option.map_some]
      dsimp only
      rw [splitOnce?_lineFeeds hpiece]
      cases splitOnce? (p :: piece) inner with
      | none => exact .error _ _
      | some split =>
          refine .ok ?_
          rw [Turned, htoken]

theorem readDeclared_alike (chars : List Char)
    : Alike Turned (readDeclared chars) (readDeclared (lineFeeds false chars)) := by
  cases chars with
  | nil => exact .error _ _
  | cons c rest =>
      by_cases hreturn : c = '\r'
      · rw [hreturn]
        exact .error _ _
      rw [lineFeeds_cons hreturn]
      by_cases hcdata : c = '['
      · subst hcdata
        rw [readDeclared, readDeclared]
        exact enclosed_alike (by simp [Unbreaking]) (by simp [Unbreaking]) (fun _ => rfl) rest
      by_cases hcomment : c = '-'
      · subst hcomment
        rw [readDeclared, readDeclared]
        exact enclosed_alike (by simp [Unbreaking]) (by simp [Unbreaking]) (fun _ => rfl) rest
      have hhead : DoctypeMode.Unbreaking .head := trivial
      rw [readDeclared, readDeclared]
      · split
        · rw [← lineFeeds_cons hreturn, splitDoctype?_lineFeeds hhead]
          cases splitDoctype? .head (c :: rest) with
          | none => exact .error _ _
          | some split =>
              rw [Option.map_some]
              dsimp only [turnSplit]
              rw [dropDoctypeKeyword?_lineFeeds]
              cases dropDoctypeKeyword? split.1 with
              | none => exact .error _ _
              | some content =>
                  rw [Option.map_some]
                  dsimp only
                  rw [all_lineFeeds (by decide) (by decide)]
                  split
                  · exact .error _ _
                  · exact .ok rfl
        · exact .error _ _
      · exact hcdata
      · exact hcomment
      · exact hcdata
      · exact hcomment

/-- Reads the content of a tag of either kind, given what follows its `<`. -/
theorem readMarkup_of_other {c : Char} (hinstruction : c ≠ '?') (hdeclared : c ≠ '!')
    (hend : c ≠ '/') (rest : List Char)
    : readMarkup (c :: rest)
      = match splitTag none (c :: rest) with
        | .error quote => .error { cause := openTagFault quote }
        | .ok (content, rest) => .ok (openingTag content, rest) := by
  unfold readMarkup
  split
  · next heq => exact absurd (List.cons.inj heq).1 hinstruction
  · next heq => exact absurd (List.cons.inj heq).1 hdeclared
  · next heq => exact absurd (List.cons.inj heq).1 hend
  · rfl

theorem readMarkup_alike (chars : List Char)
    : Alike Turned (readMarkup chars) (readMarkup (lineFeeds false chars)) := by
  have hsplit := @splitTag_lineFeeds none (by simp) (by simp) false
  cases chars with
  | nil => exact .error _ _
  | cons c rest =>
      by_cases hinstruction : c = '?'
      · subst hinstruction
        rw [lineFeeds_cons (by decide), readMarkup, readMarkup]
        have hempty : (lineFeeds false rest).head? = some '>' ↔ rest.head? = some '>' :=
          head?_lineFeeds_eq_some_iff (by decide) (by decide) rest
        by_cases h : rest.head? = some '>'
        · rw [if_pos h, if_pos (hempty.mpr h)]
          exact .error _ _
        · rw [if_neg h, if_neg fun hturned => h (hempty.mp hturned),
            splitOnce?_lineFeeds (by simp [Unbreaking])]
          cases splitOnce? ['?', '>'] rest with
          | none => exact .error _ _
          | some split => exact .ok rfl
      by_cases hdeclared : c = '!'
      · subst hdeclared
        rw [lineFeeds_cons (by decide)]
        exact readDeclared_alike rest
      by_cases hend : c = '/'
      · subst hend
        rw [lineFeeds_cons (by decide), readMarkup, readMarkup, hsplit]
        cases splitTag none rest with
        | error quote => exact .error _ _
        | ok split => exact .ok rfl
      have hturned
          : readMarkup (lineFeeds false (c :: rest))
            = match splitTag none (lineFeeds false (c :: rest)) with
              | .error quote => .error { cause := openTagFault quote }
              | .ok (content, rest) => .ok (openingTag content, rest) := by
        by_cases hreturn : c = '\r'
        · rw [hreturn, lineFeeds_return]
          exact readMarkup_of_other (by decide) (by decide) (by decide) _
        · rw [lineFeeds_cons hreturn]
          exact readMarkup_of_other hinstruction hdeclared hend _
      rw [hturned, readMarkup_of_other hinstruction hdeclared hend, hsplit]
      cases splitTag none (c :: rest) with
      | error quote => exact .error _ _
      | ok split =>
          refine .ok ?_
          rw [Turned, ← openingTag_lineFeeds]

/-- The first token of a text and its first token with turned line breaks. -/
theorem readToken_alike (c : Char) (rest : List Char)
    : ∃ d others,
        lineFeeds false (c :: rest) = d :: others
        ∧ Alike Turned (readToken c rest) (readToken d others) := by
  have hreturn : isTextChar '\r' = true := by decide
  have hfeed : isTextChar '\n' = true := by decide
  by_cases hc : c = '\r'
  · refine ⟨'\n', lineFeeds true rest, by rw [hc, lineFeeds_return], ?_⟩
    rw [hc, readToken_textChar hreturn, readToken_textChar hfeed,
      takeWhile_lineFeeds hreturn hfeed, dropWhile_lineFeeds hreturn hfeed]
    exact .ok rfl
  refine ⟨c, lineFeeds false rest, lineFeeds_cons hc rest, ?_⟩
  unfold readToken
  split
  · exact readMarkup_alike rest
  · split
    · exact readReference_alike rest
    · refine .ok ?_
      rw [Turned, Token.turned, if_neg hc, takeWhile_lineFeeds hreturn hfeed,
        dropWhile_lineFeeds hreturn hfeed]

end StoryAtlas.Markup
