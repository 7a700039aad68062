import StoryAtlas.Proofs.Toml.Values

/-! Reading back written TOML documents.
The lines of a manuscript are read one after the other, each into the last of the tables that are
there, so that at the end the document holds the values of all sections under their keys.
-/

namespace StoryAtlas.Toml

open StoryAtlas.Settings StoryAtlas.Text
open Manuscript

-----------------------------------------------------------------------------------------
-- Tables that grow at their end
-----------------------------------------------------------------------------------------

namespace Entries

variable {entries : Entries} {key : String}

theorem lookup_of_not_mem (h : key ∉ entries.map Prod.fst) : entries.lookup key = none := by
  rw [List.lookup_eq_none_iff]
  intro entry hmem
  rw [bne_iff_ne]
  rintro rfl
  exact h (List.mem_map_of_mem hmem)

theorem put_of_not_mem (h : key ∉ entries.map Prod.fst) (item : Item)
    : entries.put key item = entries ++ [(key, item)] := by
  induction entries with
  | nil => rfl
  | cons entry entries ih =>
      rw [List.map_cons, List.mem_cons, not_or] at h
      rw [put, if_neg (Ne.symm h.1), ih h.2, List.cons_append]

theorem lookup_concat (h : key ∉ entries.map Prod.fst) (item : Item)
    : List.lookup key (entries ++ [(key, item)]) = some item := by
  rw [List.lookup_append, lookup_of_not_mem h, Option.none_or, List.lookup_cons_self]

theorem put_concat (h : key ∉ entries.map Prod.fst) (old item : Item)
    : put key item (entries ++ [(key, old)]) = entries ++ [(key, item)] := by
  induction entries with
  | nil => exact if_pos rfl
  | cons entry entries ih =>
      rw [List.map_cons, List.mem_cons, not_or] at h
      rw [List.cons_append, put, if_neg (Ne.symm h.1), ih h.2, List.cons_append]

theorem not_mem_of_nodup {item : Item} {rest : Entries}
    (h : ((entries ++ (key, item) :: rest).map Prod.fst).Nodup)
    : key ∉ entries.map Prod.fst := by
  rw [List.map_append, List.map_cons] at h
  exact fun hmem => (List.nodup_append.1 h).2.2 key hmem key List.mem_cons_self rfl

/-- A header with a new name opens a table at the end. -/
theorem openTable_of_not_mem (h : key ∉ entries.map Prod.fst)
    : entries.openTable [] key = .ok (entries ++ [(key, .table .header [])]) := by
  rw [openTable, updateAt, lookup_of_not_mem h]
  dsimp only
  rw [put_of_not_mem h]

/-- A value under a new key is added to the end of a table with a header. -/
theorem addValue_of_not_mem (h : key ∉ entries.map Prod.fst) (content : Value)
    : entries.addValue [] key content .header = .ok (entries ++ [(key, .value content)]) := by
  rw [addValue, updateAt, if_neg (by simp), lookup_of_not_mem h, put_of_not_mem h]
  rfl

end Entries

-----------------------------------------------------------------------------------------
-- Keys
-----------------------------------------------------------------------------------------

/-- A key begins with a character that is no mark of anything else. -/
theorem exists_chars_eq_cons (key : Key)
    : ∃ first others,
        key.chars = first :: others
        ∧ ∀ c, isKeyChar c = false → first ≠ c := by
  obtain ⟨first, others, hchars⟩ := List.exists_cons_of_ne_nil key.nonempty
  refine ⟨first, others, hchars, ?_⟩
  rintro c hc rfl
  have hfirst := key.allowed first (hchars ▸ List.mem_cons_self)
  rw [hc] at hfirst
  cases hfirst

/-- A key is read up to what may not stand in it. -/
theorem readKeyPart_key (key : Key) {rest : List Char}
    (hrest : ∀ c ∈ rest.head?, isKeyChar c = false)
    : readKeyPart (key.chars ++ rest) = .ok (key.text, rest) := by
  obtain ⟨first, others, hchars, hfirst⟩ := exists_chars_eq_cons key
  have hrun := takeWhile_append_of_head key.allowed hrest
  have hrun' : (first :: (others ++ rest)).takeWhile isKeyChar = key.chars := by
    rw [← List.cons_append, ← hchars, hrun]
  have hdrop : (first :: (others ++ rest)).drop key.chars.length = rest := by
    rw [← List.cons_append, ← hchars, List.drop_left]
  rw [hchars, List.cons_append, readKeyPart,
    if_neg (not_or.2 ⟨hfirst '"' (by decide), hfirst '\'' (by decide)⟩)]
  dsimp only
  rw [hrun', if_neg (by simpa using key.nonempty), hdrop]
  rfl

/-- A key without a dot behind it is read, with the blanks behind it. -/
theorem readKey_key (key : Key) (rest : List Char)
    (hrest : ∀ c ∈ rest.head?, isKeyChar c = false)
    (hdot : ∀ c ∈ (rest.dropWhile isSpace).head?, c ≠ '.') (steps : Nat)
    : readKey (steps + 1) (key.chars ++ rest) = .ok ([], key.text, rest.dropWhile isSpace) := by
  obtain ⟨first, others, hchars, hfirst⟩ := exists_chars_eq_cons key
  have hspace : isSpace first = false := by
    simp [isSpace, hfirst ' ' (by decide), hfirst '\t' (by decide)]
  have hstart : (key.chars ++ rest).dropWhile isSpace = key.chars ++ rest := by
    rw [hchars, List.cons_append, List.dropWhile_cons_of_neg (by simp [hspace])]
  rw [readKey, hstart, readKeyPart_key key hrest]
  simp only [bind, Except.bind]
  split
  · next tail heq => exact absurd rfl (hdot '.' (heq ▸ rfl))
  · rfl

-----------------------------------------------------------------------------------------
-- Lines
-----------------------------------------------------------------------------------------

/-- The table of lines under a header. -/
def tableOf (lines : List Line) : Entries :=
  lines.map fun line => (line.key.text, .value line.content.value)

/-- A document with sections. -/
def rootOf (parts : List Section) : Entries :=
  parts.map fun part => (part.name.text, .table .header (tableOf part.lines))

/-- What was read when the last section is only read in part. -/
def progressIn (done : Entries) (name : String) (entries : Entries) : Progress where
  root := done ++ [(name, .table .header entries)]
  current := [name]

/-- A value under a new key is added to the last section. -/
theorem updateAt_addValue {done entries : Entries} {name key : String}
    (hname : name ∉ done.map Prod.fst) (hkey : key ∉ entries.map Prod.fst) (content : Value)
    : Entries.updateAt false (fun origin entries => entries.addValue [] key content origin) [name]
          .header (progressIn done name entries).root
      = .ok (progressIn done name (entries ++ [(key, .value content)])).root := by
  unfold progressIn
  dsimp only
  rw [Entries.updateAt, Entries.lookup_concat hname]
  dsimp only
  rw [if_neg (by simp), Entries.updateAt, Entries.addValue_of_not_mem hkey]
  exact congrArg Except.ok (Entries.put_concat hname _ _)

theorem dropWhile_isSpace_content (content : Content) (rest : List Char)
    : (content.written ++ rest).dropWhile isSpace = content.written ++ rest := by
  obtain ⟨c, others, hwritten, hspace⟩
      : ∃ c others, content.written = c :: others ∧ isSpace c = false := by
    cases content with
    | text quotation =>
        obtain ⟨quote, inside, hwritten, hquote⟩ := written_eq_cons quotation
        exact ⟨quote, inside, hwritten, by rcases hquote with rfl | rfl <;> decide⟩
    | texts items => exact ⟨'[', _, rfl, by decide⟩
    | count value =>
        obtain ⟨c, digits, hdigits⟩ :=
          List.exists_cons_of_ne_nil (Nat.toDigits_ne_nil (n := value))
        have hc := isDigit_of_mem_toDigits value (hdigits ▸ List.mem_cons_self)
        refine ⟨c, digits, hdigits, Bool.eq_false_iff.2 fun hspace => ?_⟩
        simp only [isSpace, Bool.or_eq_true, beq_iff_eq] at hspace
        rcases hspace with rfl | rfl <;> exact absurd hc (by decide)
  rw [hwritten, List.cons_append, List.dropWhile_cons_of_neg (by simp [hspace])]

/-- A line is read into the last section, which must not have its key yet. -/
theorem readPair_line {done entries : Entries} {name : String} {key : Key}
    (hname : name ∉ done.map Prod.fst) (hkey : key.text ∉ entries.map Prod.fst)
    (content : Content) (rest : List Char)
    : readPair (progressIn done name entries)
          (key.chars ++ ' ' :: '=' :: ' ' :: (content.written ++ '\n' :: rest))
      = .ok
          (progressIn done name (entries ++ [(key.text, .value content.value)]),
            '\n' :: rest) := by
  have hsteps : content.written.length < (content.written ++ '\n' :: rest).length + 1 := by
    rw [List.length_append]
    omega
  have hvalue := readValue_content content (endsValue_cons (.inr (.inr rfl)) rest) hsteps
  have hbehind : (' ' :: '=' :: ' ' :: (content.written ++ '\n' :: rest)).dropWhile isSpace
      = '=' :: ' ' :: (content.written ++ '\n' :: rest) := rfl
  have hblank : (' ' :: (content.written ++ '\n' :: rest)).dropWhile isSpace
      = content.written ++ '\n' :: rest :=
    dropWhile_isSpace_content content _
  have hread :=
    readKey_key key (' ' :: '=' :: ' ' :: (content.written ++ '\n' :: rest))
      (by simp [isKeyChar]) (by rw [hbehind]; simp)
  unfold readPair
  rw [hread, hbehind]
  simp only [bind, Except.bind]
  rw [hblank, hvalue]
  dsimp only
  rw [show (progressIn done name entries).current = [name] from rfl,
    updateAt_addValue hname hkey]
  rfl

theorem skipLineEnd_feed (rest : List Char) : skipLineEnd false ('\n' :: rest) = .ok rest := by
  rw [skipLineEnd]

/-- A key begins something that means something. -/
theorem skipTrivia_key (key : Key) (rest : List Char)
    : skipTrivia false (key.chars ++ rest) = .ok (key.chars ++ rest) := by
  obtain ⟨first, others, hchars, hfirst⟩ := exists_chars_eq_cons key
  have hmeaningful : isMeaningful first = true := by
    simp [isMeaningful, isSpace, hfirst ' ' (by decide), hfirst '\t' (by decide),
      hfirst '\n' (by decide), hfirst '\r' (by decide), hfirst '#' (by decide)]
  rw [hchars, List.cons_append, skipTrivia_of_isMeaningful hmeaningful]

/-- A line with what stands in front of it is read in one step. -/
theorem readLinesFrom_line {done entries : Entries} {name : String} {line : Line}
    (hname : name ∉ done.map Prod.fst) (hkey : line.key.text ∉ entries.map Prod.fst)
    (rest : List Char) (steps : Nat)
    : readLinesFrom (steps + 1) (progressIn done name entries) (line.written ++ rest)
      = readLinesFrom steps
          (progressIn done name (entries ++ [(line.key.text, .value line.content.value)]))
          rest := by
  have hpair := readPair_line hname hkey line.content rest
  obtain ⟨first, others, hchars, hfirst⟩ := exists_chars_eq_cons line.key
  have hwritten : line.written ++ rest
      = line.gaps.flatMap Gap.written
        ++ (line.key.chars ++ ' ' :: '=' :: ' ' :: (line.content.written ++ '\n' :: rest)) := by
    simp [Line.written]
  rw [readLinesFrom, hwritten, skipTrivia_gaps, skipTrivia_key]
  rw [hchars, List.cons_append] at hpair ⊢
  simp only [bind, Except.bind]
  split
  · next heq => cases heq
  · next heq => exact absurd (List.cons.inj heq).1 (hfirst '[' (by decide))
  · rw [hpair]
    dsimp only
    rw [skipLineEnd_feed]

/-- Lines are read into their section in order, by induction on them. -/
theorem readLinesFrom_lines {done entries : Entries} {name : String} {lines : List Line}
    (hname : name ∉ done.map Prod.fst)
    (hkeys : ((entries ++ tableOf lines).map Prod.fst).Nodup) (rest : List Char) {steps : Nat}
    (hsteps : (lines.flatMap Line.written ++ rest).length < steps)
    : ∃ left,
        rest.length < left
        ∧ readLinesFrom steps (progressIn done name entries)
              (lines.flatMap Line.written ++ rest)
          = readLinesFrom left (progressIn done name (entries ++ tableOf lines)) rest := by
  induction lines generalizing entries steps with
  | nil =>
      rw [List.flatMap_nil, List.nil_append] at hsteps ⊢
      exact ⟨steps, hsteps, by rw [tableOf, List.map_nil, List.append_nil]⟩
  | cons line lines ih =>
      obtain ⟨steps, rfl⟩ := Nat.exists_eq_add_one_of_ne_zero (Nat.ne_zero_of_lt hsteps)
      have hkey := Entries.not_mem_of_nodup hkeys
      have hsplit : entries ++ tableOf (line :: lines)
          = entries ++ [(line.key.text, .value line.content.value)] ++ tableOf lines :=
        List.append_cons entries _ (tableOf lines)
      have hshorter : (lines.flatMap Line.written ++ rest).length < steps := by
        simp only [List.flatMap_cons, List.length_append, Line.written, List.length_cons]
          at hsteps ⊢
        omega
      rw [hsplit] at hkeys ⊢
      rw [List.flatMap_cons, List.append_assoc, readLinesFrom_line hname hkey]
      exact ih hkeys hshorter

-----------------------------------------------------------------------------------------
-- Sections
-----------------------------------------------------------------------------------------

/-- A header with a new name opens the last section. -/
theorem readLinesFrom_header {done : Entries} {current : List String} {part : Section}
    (hname : part.name.text ∉ done.map Prod.fst) (rest : List Char) (steps : Nat)
    : readLinesFrom (steps + 1) ⟨done, current⟩ (part.header ++ rest)
      = readLinesFrom steps (progressIn done part.name.text []) rest := by
  obtain ⟨first, others, hchars, hfirst⟩ := exists_chars_eq_cons part.name
  have hwritten : part.header ++ rest
      = part.gaps.flatMap Gap.written ++ '[' :: (part.name.chars ++ ']' :: '\n' :: rest) := by
    simp [Section.header]
  have hread :=
    readKey_key part.name (']' :: '\n' :: rest) (by simp [isKeyChar])
      (by rw [List.dropWhile_cons_of_neg (by decide)]; simp)
  rw [List.dropWhile_cons_of_neg (by decide)] at hread
  have hheader : readHeader ⟨done, current⟩ (part.name.chars ++ ']' :: '\n' :: rest)
      = .ok (progressIn done part.name.text [], '\n' :: rest) := by
    rw [hchars, List.cons_append] at hread ⊢
    unfold readHeader
    split
    · next heq => exact absurd (List.cons.inj heq).1 (hfirst '[' (by decide))
    · rw [hread]
      simp only [bind, Except.bind]
      rw [Entries.openTable_of_not_mem hname]
      rfl
  rw [readLinesFrom, hwritten, skipTrivia_gaps, skipTrivia_of_isMeaningful (by decide)]
  simp only [bind, Except.bind]
  rw [hheader]
  dsimp only
  rw [skipLineEnd_feed]

/-- Sections are read in order, by induction on them. -/
theorem readLinesFrom_sections {done : Entries} (current : List String) {parts : List Section}
    (hnames : ((done ++ rootOf parts).map Prod.fst).Nodup) (rest : List Char) {steps : Nat}
    (hsteps : (parts.flatMap Section.written ++ rest).length < steps)
    : ∃ left last,
        readLinesFrom steps ⟨done, current⟩ (parts.flatMap Section.written ++ rest)
          = readLinesFrom left ⟨done ++ rootOf parts, last⟩ rest := by
  induction parts generalizing done current steps with
  | nil => exact ⟨steps, current, by rw [rootOf, List.map_nil, List.append_nil]; rfl⟩
  | cons part parts ih =>
      obtain ⟨steps, rfl⟩ := Nat.exists_eq_add_one_of_ne_zero (Nat.ne_zero_of_lt hsteps)
      have hname := Entries.not_mem_of_nodup hnames
      have hsplit : done ++ rootOf (part :: parts)
          = done ++ [(part.name.text, .table .header (tableOf part.lines))] ++ rootOf parts :=
        List.append_cons done _ (rootOf parts)
      have hkeys : (([] ++ tableOf part.lines).map Prod.fst).Nodup := by
        have hdistinct := part.distinct
        rwa [List.nil_append, tableOf, List.map_map]
      have hshorter
          : (part.lines.flatMap Line.written ++ (parts.flatMap Section.written ++ rest)).length
            < steps := by
        simp only [List.flatMap_cons, List.length_append, Section.written, Section.header,
          List.length_cons] at hsteps ⊢
        omega
      obtain ⟨left, hleft, hlines⟩ :=
        readLinesFrom_lines hname hkeys (parts.flatMap Section.written ++ rest) hshorter
      rw [hsplit] at hnames ⊢
      obtain ⟨more, last, hsections⟩ := ih [part.name.text] hnames hleft
      refine ⟨more, last, ?_⟩
      rw [List.flatMap_cons, Section.written, List.append_assoc, List.append_assoc,
        readLinesFrom_header hname, hlines]
      exact hsections

-----------------------------------------------------------------------------------------
-- Documents
-----------------------------------------------------------------------------------------

/-- Nothing is read from gaps alone. -/
theorem readLinesFrom_gaps (gaps : List Gap) (progress : Progress) (steps : Nat)
    : readLinesFrom steps progress (gaps.flatMap Gap.written) = .ok progress := by
  cases steps with
  | zero => rw [readLinesFrom]
  | succ steps =>
      have hskip := skipTrivia_gaps gaps []
      rw [List.append_nil, skipTrivia] at hskip
      rw [readLinesFrom, hskip]
      rfl

theorem valuesOfEntries_eq_map (entries : Entries)
    : valuesOfEntries entries = entries.map fun (key, item) => (key, item.toValue) := by
  induction entries with
  | nil => rw [valuesOfEntries]; rfl
  | cons entry entries ih => rw [valuesOfEntries, ih]; rfl

/-- The values of the sections under their names. -/
def Manuscript.entries (manuscript : Manuscript) : List (String × Value) :=
  manuscript.sections.map fun part => (part.name.text, .table part.values)

theorem valuesOfEntries_rootOf (parts : List Section)
    : valuesOfEntries (rootOf parts)
      = parts.map fun part => (part.name.text, .table part.values) := by
  rw [valuesOfEntries_eq_map, rootOf, List.map_map]
  refine List.map_congr_left fun part _ => ?_
  have hvalues : valuesOfEntries (tableOf part.lines) = part.values := by
    rw [valuesOfEntries_eq_map, tableOf, List.map_map]
    refine List.map_congr_left fun line _ => ?_
    dsimp only [Function.comp_apply]
    rw [Item.toValue]
  dsimp only [Function.comp_apply]
  rw [Item.toValue, hvalues]

/-- Gaps do not begin with a byte order mark. -/
theorem head?_gaps_ne (gaps : List Gap) (rest : List Char)
    (hrest : ∀ c ∈ rest.head?, c ≠ '\uFEFF')
    : ∀ c ∈ (gaps.flatMap Gap.written ++ rest).head?, c ≠ '\uFEFF' := by
  cases gaps with
  | nil => exact hrest
  | cons gap gaps =>
      cases gap with
      | blank char allowed =>
          rintro c hc rfl
          obtain rfl : char = '\uFEFF' := Option.some.inj hc
          exact absurd allowed (by decide)
      | comment body allowed =>
          intro c hc
          obtain rfl : '#' = c := Option.some.inj hc
          decide

theorem head?_written_ne (manuscript : Manuscript)
    : ∀ c ∈ manuscript.written.head?, c ≠ '\uFEFF' := by
  unfold Manuscript.written
  cases manuscript.sections with
  | nil =>
      have hgaps := head?_gaps_ne manuscript.ending [] (by simp)
      rwa [List.append_nil] at hgaps
  | cons part parts =>
      rw [List.flatMap_cons, Section.written, Section.header, List.append_assoc,
        List.append_assoc, List.append_assoc]
      exact head?_gaps_ne part.gaps _ (by simp)

/-- A written document is read as what it says. -/
theorem read_text (manuscript : Manuscript)
    : read manuscript.text = .ok (.table manuscript.entries) := by
  have hnames : (([] ++ rootOf manuscript.sections).map Prod.fst).Nodup := by
    have hdistinct := manuscript.distinct
    rwa [List.nil_append, rootOf, List.map_map]
  obtain ⟨left, last, hsections⟩ :=
    readLinesFrom_sections [] hnames (manuscript.ending.flatMap Gap.written)
      (Nat.lt_succ_self _)
  rw [readLinesFrom_gaps, List.nil_append] at hsections
  unfold read
  rw [Manuscript.text, String.toList_ofList]
  dsimp only
  split
  · next rest heq => exact absurd rfl (head?_written_ne manuscript '\uFEFF' (heq ▸ rfl))
  · dsimp only [Manuscript.written]
    rw [hsections, Except.map, valuesOfEntries_rootOf]
    rfl

end StoryAtlas.Toml
