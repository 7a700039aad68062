import StoryAtlas.Markup.Token

/-! The attributes written in a tag.
A tag's content is its name, up to the first blank, and then attributes.  Reading goes on behind
a faulty attribute, so the result lists every attribute or fault in order.
-/

namespace StoryAtlas.Markup

open StoryAtlas.Text

/-- The part of a tag's content in front of the first blank. -/
def tagName (content : List Char) : List Char :=
  content.takeWhile fun c => !isMarkupBlank c

/-- An attribute as it is written: its key and the characters between its quotes. -/
structure RawAttribute where
  key : List Char
  value : List Char
deriving DecidableEq

/-- Whether a character goes on a key, of which it is not the first. -/
def isKeyChar (c : Char) : Bool :=
  c != '=' && !isMarkupBlank c

theorem length_dropWhile_le (test : Char → Bool) (chars : List Char)
    : (chars.dropWhile test).length ≤ chars.length :=
  (List.dropWhile_suffix test).length_le

/-- Reads attributes from a position of the tag on.  The keys of earlier attributes come with
their positions; a faulty attribute is left at the blank behind it, or where it breaks off. -/
def readAttributes (position : Nat) (seen : List (List Char × Nat)) (chars : List Char)
    : List (Except AttributeFault RawAttribute) :=
  match _hfirst : chars.dropWhile isMarkupBlank with
  | [] => []
  | first :: afterFirst =>
      let start := position + (chars.takeWhile isMarkupBlank).length
      let key := first :: afterFirst.takeWhile isKeyChar
      let afterKey := afterFirst.dropWhile isKeyChar
      let equalsAt :=
        start + byteLength key + (afterKey.takeWhile isMarkupBlank).length
      match _hequals : afterKey.dropWhile isMarkupBlank with
      | [] => [.error (.missingEquals equalsAt)]
      | c :: afterEquals =>
          if c = '=' then
            match seen.lookup key with
            | some previous =>
                let skipped := afterEquals.takeWhile fun c => !isMarkupBlank c
                .error (.duplicate start previous)
                  :: readAttributes (equalsAt + 1 + byteLength skipped) seen
                    (afterEquals.dropWhile fun c => !isMarkupBlank c)
            | none =>
                let seen := (key, start) :: seen
                let valueAt := equalsAt + 1 + (afterEquals.takeWhile isMarkupBlank).length
                match _hvalue : afterEquals.dropWhile isMarkupBlank with
                | [] => [.error (.missingValue valueAt)]
                | quote :: inner =>
                    if isQuote quote then
                      match hquote : splitOnce? [quote] inner with
                      | none =>
                          [.error (.missingQuote (valueAt + 1 + byteLength inner) quote)]
                      | some (value, rest) =>
                          .ok ⟨key, value⟩
                            :: readAttributes (valueAt + 2 + byteLength value) seen rest
                    else
                      let skipped := (quote :: inner).takeWhile fun c => !isMarkupBlank c
                      .error (.unquotedValue valueAt)
                        :: readAttributes (valueAt + byteLength skipped) seen
                          ((quote :: inner).dropWhile fun c => !isMarkupBlank c)
          else
            .error (.missingEquals equalsAt) :: readAttributes equalsAt seen (c :: afterEquals)
termination_by chars.length
decreasing_by
  all_goals
    have hfirst : (first :: afterFirst).length ≤ chars.length :=
      _hfirst ▸ length_dropWhile_le isMarkupBlank chars
    have hrest : (c :: afterEquals).length ≤ afterFirst.length :=
      _hequals ▸ Nat.le_trans (length_dropWhile_le _ _) (length_dropWhile_le _ _)
    simp only [List.length_cons] at hfirst hrest
  · have := length_dropWhile_le (fun c => !isMarkupBlank c) afterEquals
    omega
  · have hlen : (quote :: inner).length ≤ afterEquals.length :=
      _hvalue ▸ length_dropWhile_le _ _
    have := congrArg List.length (eq_append_of_splitOnce? hquote)
    simp only [List.length_append, List.length_cons, List.length_nil] at hlen this
    omega
  · have hlen : (quote :: inner).length ≤ afterEquals.length :=
      _hvalue ▸ length_dropWhile_le _ _
    have := length_dropWhile_le (fun c => !isMarkupBlank c) (quote :: inner)
    omega
  · simp only [List.length_cons]
    omega

/-- The attributes and faults of a tag's content, in order. -/
def attributesOf (content : List Char) : List (Except AttributeFault RawAttribute) :=
  readAttributes (byteLength (tagName content)) [] (content.drop (tagName content).length)

end StoryAtlas.Markup
