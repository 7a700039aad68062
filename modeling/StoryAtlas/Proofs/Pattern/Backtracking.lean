import Mathlib.Data.List.Basic
import StoryAtlas.Pattern.Search

/-! Searches told without their memory.
A search remembers what it has tried and tries nothing twice at one place.  Without this memory it
is a relation: what an instruction leads to at an offset, by the first way that does not fail.  In
a program without empty loops whatever is remembered fails or is still going on further in front,
so a search finds what the relation says.
-/

namespace StoryAtlas.Pattern

/-- The place of a text at an offset. -/
def placeAt (text : List Char) (offset : Nat) : Place :=
  ⟨if offset = 0 then none else text[offset - 1]?, text.drop offset, offset⟩

theorem drop_eq_cons {text : List Char} {offset : Nat} {c : Char} (h : text[offset]? = some c)
    : text.drop offset = c :: text.drop (offset + 1) := by
  obtain ⟨hlt, rfl⟩ := List.getElem?_eq_some_iff.1 h
  exact List.drop_eq_getElem_cons hlt

theorem placeAt_succ {text : List Char} {offset : Nat} {c : Char} (h : text[offset]? = some c)
    : placeAt text (offset + 1) = ⟨some c, text.drop (offset + 1), offset + 1⟩ := by
  simp [placeAt, h]

-----------------------------------------------------------------------------------------
-- What an instruction leads to
-----------------------------------------------------------------------------------------

/-- What an instruction does at an offset. -/
inductive Move
  | accept
  | fail
  /-- Goes on with an instruction at an offset, with more places noted. -/
  | go (number offset : Nat) (noted : Marks)
  | choose (preferred other : Nat)

/-- The move of the instruction with a number. -/
def Program.move (program : Program) (text : List Char) (number offset : Nat) : Move :=
  match program.code[number]? with
  | none => .fail
  | some .accept => .accept
  | some (.consume chars next) =>
      if text[offset]?.any chars.contains then .go next (offset + 1) [] else .fail
  | some (.choose preferred other) => .choose preferred other
  | some (.mark slot next) => .go next offset [(slot, offset)]
  | some (.check condition next) =>
      if condition.holds (placeAt text offset) then .go next offset [] else .fail

/-- What an instruction leads to at an offset: the offset of the end and the marks, or nothing if
all ways fail.  The other one of two ways counts only if the preferred one fails.
-/
inductive Program.Leads (program : Program) (text : List Char)
    : Nat → Nat → Marks → Option (Nat × Marks) → Prop
  | accept {number offset marks} (move : program.move text number offset = .accept)
    : program.Leads text number offset marks (some (offset, marks))
  | fail {number offset marks} (move : program.move text number offset = .fail)
    : program.Leads text number offset marks none
  | go {number offset marks next behind noted found}
    (move : program.move text number offset = .go next behind noted)
    (rest : program.Leads text next behind (noted ++ marks) found)
    : program.Leads text number offset marks found
  | preferred {number offset marks first second found}
    (move : program.move text number offset = .choose first second)
    (rest : program.Leads text first offset marks (some found))
    : program.Leads text number offset marks (some found)
  | other {number offset marks first second found}
    (move : program.move text number offset = .choose first second)
    (failed : program.Leads text first offset marks none)
    (rest : program.Leads text second offset marks found)
    : program.Leads text number offset marks found

/-- An instruction fails at an offset, whatever has been marked. -/
def Program.Fails (program : Program) (text : List Char) (number offset : Nat) : Prop :=
  ∀ marks, program.Leads text number offset marks none

section Leads

variable {program : Program} {text : List Char} {number offset : Nat} {marks : Marks}
  {found : Option (Nat × Marks)}

/-- An instruction leads to one thing only, by induction on the way. -/
theorem Program.Leads.unique (h : program.Leads text number offset marks found)
    {other : Option (Nat × Marks)} (hother : program.Leads text number offset marks other)
    : found = other := by
  induction h generalizing other with
  | accept move =>
      cases hother with
      | accept => rfl
      | _ => simp_all
  | fail move =>
      cases hother with
      | fail => rfl
      | _ => simp_all
  | go move rest ih =>
      cases hother with
      | go move' rest' =>
          rw [move] at move'
          cases move'
          exact ih rest'
      | _ => simp_all
  | preferred move rest ih =>
      cases hother with
      | preferred move' rest' =>
          rw [move] at move'
          cases move'
          exact ih rest'
      | other move' failed' rest' =>
          rw [move] at move'
          cases move'
          cases ih failed'
      | _ => simp_all
  | other move failed rest ihFailed ih =>
      cases hother with
      | preferred move' rest' =>
          rw [move] at move'
          cases move'
          cases ihFailed rest'
      | other move' failed' rest' =>
          rw [move] at move'
          cases move'
          exact ih rest'
      | _ => simp_all

/-- Marks do not decide whether an instruction fails, by induction on the way. -/
theorem Program.Leads.fails (h : program.Leads text number offset marks none)
    : program.Fails text number offset := by
  generalize hfound : (none : Option (Nat × Marks)) = found at h
  induction h with
  | accept move => cases hfound
  | fail move => exact fun others => .fail move
  | go move rest ih => exact fun others => .go move (ih hfound _)
  | preferred move rest ih => cases hfound
  | other move failed rest ihFailed ih =>
      exact fun others => .other move (ihFailed rfl _) (ih hfound _)

theorem Program.Leads.of_accept (here : program.code[number]? = some .accept)
    : program.Leads text number offset marks (some (offset, marks)) :=
  .accept (by rw [Program.move, here])

theorem Program.Leads.of_mark {slot next : Nat}
    (here : program.code[number]? = some (.mark slot next))
    (rest : program.Leads text next offset ((slot, offset) :: marks) found)
    : program.Leads text number offset marks found :=
  .go (by rw [Program.move, here]) rest

theorem Program.Leads.of_consume {chars : CharSet} {next : Nat}
    (here : program.code[number]? = some (.consume chars next))
    (fits : text[offset]?.any chars.contains = true)
    (rest : program.Leads text next (offset + 1) marks found)
    : program.Leads text number offset marks found := by
  have move : program.move text number offset = .go next (offset + 1) [] := by
    simp only [Program.move, here, fits, if_true]
  exact .go move rest

theorem Program.Leads.of_not_consume {chars : CharSet} {next : Nat}
    (here : program.code[number]? = some (.consume chars next))
    (differs : text[offset]?.any chars.contains = false)
    : program.Leads text number offset marks none :=
  .fail (by simp [Program.move, here, differs])

/-- A choice leads to what its preferred way leads to or else to what the other one does. -/
theorem Program.Leads.of_choose {first second : Nat} {other : Option (Nat × Marks)}
    (here : program.code[number]? = some (.choose first second))
    (preferred : program.Leads text first offset marks found)
    (rest : program.Leads text second offset marks other)
    : program.Leads text number offset marks (found.or other) := by
  have move : program.move text number offset = .choose first second := by
    rw [Program.move, here]
  cases found with
  | some stop => exact .preferred move preferred
  | none => exact .other move preferred rest

end Leads

-----------------------------------------------------------------------------------------
-- Programs without empty loops
-----------------------------------------------------------------------------------------

/-- The instructions that an instruction may go on with at the same place. -/
def Instr.skips : Instr → List Nat
  | accept => []
  | consume _ _ => []
  | choose preferred other => [preferred, other]
  | mark _ next => [next]
  | check _ next => [next]

/-- Ranks of instructions that fall on every way on which nothing is consumed. -/
structure Program.Ranked (program : Program) (rank : Nat → Nat) : Prop where
  below : ∀ number, rank number < program.code.size
  falls
    : ∀ number instr,
        program.code[number]? = some instr
        → ∀ next ∈ instr.skips, rank next < rank number

/-- A try comes before another one: it stands further in front, or at the same offset with a
higher rank.
-/
def Before (rank : Nat → Nat) (earlier later : Nat × Nat) : Prop :=
  earlier.2 < later.2 ∨ earlier.2 = later.2 ∧ rank later.1 < rank earlier.1

theorem Before.trans {rank : Nat → Nat} {first second third : Nat × Nat}
    (h : Before rank first second) (hsecond : Before rank second third)
    : Before rank first third := by
  unfold Before at *
  omega

/-- A bound for the rest of a way: each instruction once at each place, and the rank at the last
place.
-/
def Program.wayLeft (program : Program) (rank : Nat → Nat) (text : List Char) (tried : Nat × Nat)
    : Nat :=
  (text.length - tried.2) * program.code.size + rank tried.1

/-- A try that a way reaches from another one in one move. -/
structure Program.GoesOn (program : Program) (rank : Nat → Nat) (text : List Char)
    (earlier later : Nat × Nat)
    : Prop where
  before : Before rank earlier later
  shorter : program.wayLeft rank text later < program.wayLeft rank text earlier

/-- A way of so many steps reaches a try with one step less. -/
theorem Program.GoesOn.wayLeft_lt {program : Program} {rank : Nat → Nat} {text : List Char}
    {earlier later : Nat × Nat} {more : Nat} (h : program.GoesOn rank text earlier later)
    (hmore : program.wayLeft rank text earlier < more + 1)
    : program.wayLeft rank text later < more :=
  Nat.lt_of_lt_of_le h.shorter (Nat.le_of_lt_succ hmore)

section Ranked

variable {program : Program} {rank : Nat → Nat} {text : List Char} {number offset : Nat}

theorem Program.GoesOn.of_rank_lt {next : Nat} (h : rank next < rank number)
    : program.GoesOn rank text (number, offset) (next, offset) :=
  ⟨Or.inr ⟨rfl, h⟩, Nat.add_lt_add_left h _⟩

theorem Program.Ranked.goesOn_of_lt_length (ranked : program.Ranked rank) {next : Nat}
    (h : offset < text.length)
    : program.GoesOn rank text (number, offset) (next, offset + 1) := by
  refine ⟨Or.inl (Nat.lt_succ_self offset), ?_⟩
  have hbelow := ranked.below next
  have hlength : text.length - offset = text.length - (offset + 1) + 1 := by omega
  simp only [Program.wayLeft, hlength, Nat.add_mul, Nat.one_mul]
  omega

/-- A move consumes a character of the text, or the rank falls. -/
theorem Program.Ranked.goesOn_of_go (ranked : program.Ranked rank) {next behind : Nat}
    {noted : Marks} (move : program.move text number offset = .go next behind noted)
    : program.GoesOn rank text (number, offset) (next, behind) := by
  unfold Program.move at move
  split at move
  · cases move
  · cases move
  · next chars next' here =>
      split at move
      · next fits =>
          obtain ⟨rfl, rfl, -⟩ := Move.go.inj move
          refine ranked.goesOn_of_lt_length (Nat.lt_of_not_le fun hle => ?_)
          rw [List.getElem?_eq_none hle] at fits
          cases fits
      · cases move
  · cases move
  · next slot next' here =>
      obtain ⟨rfl, rfl, -⟩ := Move.go.inj move
      exact .of_rank_lt (ranked.falls _ _ here _ List.mem_cons_self)
  · next condition next' here =>
      split at move
      · obtain ⟨rfl, rfl, -⟩ := Move.go.inj move
        exact .of_rank_lt (ranked.falls _ _ here _ List.mem_cons_self)
      · cases move

theorem Program.Ranked.goesOn_of_choose (ranked : program.Ranked rank) {first second : Nat}
    (move : program.move text number offset = .choose first second)
    : program.GoesOn rank text (number, offset) (first, offset)
      ∧ program.GoesOn rank text (number, offset) (second, offset) := by
  unfold Program.move at move
  split at move
  · cases move
  · cases move
  · split at move <;> cases move
  · next here =>
      obtain ⟨rfl, rfl⟩ := Move.choose.inj move
      exact ⟨.of_rank_lt (ranked.falls _ _ here _ (by simp [Instr.skips])),
        .of_rank_lt (ranked.falls _ _ here _ (by simp [Instr.skips]))⟩
  · cases move
  · split at move <;> cases move

end Ranked

-----------------------------------------------------------------------------------------
-- The memory of a search
-----------------------------------------------------------------------------------------

section Explore

variable {program : Program} {rank : Nat → Nat} {text : List Char} {number offset : Nat}
  {marks : Marks} {visited : Visited}

/-- A search that has not been here before does what its move says. -/
theorem Program.explore_succ (program : Program) (text : List Char) (steps : Nat)
    (visited : Visited) (number offset : Nat) (marks : Marks)
    : program.explore (steps + 1) visited number (placeAt text offset) marks
      = if visited.contains (number, offset) then (visited, none)
        else
          match program.move text number offset with
          | .accept => (visited.insert (number, offset), some (placeAt text offset, marks))
          | .fail => (visited.insert (number, offset), none)
          | .go next behind noted =>
              program.explore steps (visited.insert (number, offset)) next (placeAt text behind)
                (noted ++ marks)
          | .choose preferred other =>
              match
                program.explore steps (visited.insert (number, offset)) preferred
                  (placeAt text offset) marks
              with
              | (visited, some found) => (visited, some found)
              | (visited, none) =>
                  program.explore steps visited other (placeAt text offset) marks := by
  have hoffset : (placeAt text offset).offset = offset := rfl
  have hahead : (placeAt text offset).ahead = text.drop offset := rfl
  rw [Program.explore, hoffset, hahead]
  by_cases hvisited : visited.contains (number, offset) = true
  · rw [if_pos hvisited, if_pos hvisited]
  · rw [if_neg hvisited, if_neg hvisited, Program.move]
    cases program.code[number]? with
    | none => rfl
    | some instr =>
        cases instr with
        | accept => rfl
        | consume chars next =>
            cases hc : text[offset]? with
            | none => simp [List.drop_eq_nil_of_le (List.getElem?_eq_none_iff.1 hc)]
            | some c =>
                rw [drop_eq_cons hc]
                dsimp only
                rw [← placeAt_succ hc]
                cases hfits : chars.contains c <;> simp [hfits]
        | choose preferred other => rfl
        | mark slot next => rfl
        | check condition next =>
            dsimp only
            cases condition.holds (placeAt text offset) <;> rfl

/-- Whatever is remembered fails, or was tried before the instruction at the offset. -/
def Program.Remembers (program : Program) (rank : Nat → Nat) (text : List Char)
    (visited : Visited) (here : Nat × Nat)
    : Prop :=
  ∀ tried ∈ visited, program.Fails text tried.1 tried.2 ∨ Before rank tried here

/-- What is remembered when a try goes on with a later one. -/
theorem Program.Remembers.insert {here later : Nat × Nat}
    (h : program.Remembers rank text visited here) (hlater : Before rank here later)
    : program.Remembers rank text (visited.insert here) later := by
  intro tried htried
  rcases Std.HashSet.mem_insert.1 htried with heq | hold
  · exact Or.inr (eq_of_beq heq ▸ hlater)
  · exact (h tried hold).imp_right fun hbefore => hbefore.trans hlater

/-- What is remembered behind a try that failed. -/
def Program.FailsSince (program : Program) (text : List Char) (before after : Visited) : Prop :=
  ∀ tried ∈ after, tried ∈ before ∨ program.Fails text tried.1 tried.2

theorem Program.FailsSince.trans {before between after : Visited}
    (h : program.FailsSince text before between) (hafter : program.FailsSince text between after)
    : program.FailsSince text before after :=
  fun tried htried => (hafter tried htried).elim (h tried) Or.inr

theorem Program.FailsSince.remembers {before after : Visited} {here : Nat × Nat}
    (hsince : program.FailsSince text before after)
    (h : program.Remembers rank text before here)
    : program.Remembers rank text after here :=
  fun tried htried => (hsince tried htried).elim (h tried) Or.inl

theorem Program.FailsSince.of_insert {after : Visited}
    (hsince : program.FailsSince text (visited.insert (number, offset)) after)
    (h : program.Fails text number offset)
    : program.FailsSince text visited after := by
  intro tried htried
  rcases hsince tried htried with hmem | hfails
  · rcases Std.HashSet.mem_insert.1 hmem with heq | hold
    · exact Or.inr (eq_of_beq heq ▸ h)
    · exact Or.inl hold
  · exact Or.inr hfails

/-- The place and the marks of a match. -/
def matchAt (text : List Char) (found : Nat × Marks) : Place × Marks :=
  (placeAt text found.1, found.2)

/-- A search finds what it should, and what it remembers more if that is nothing fails. -/
def Program.Finds (program : Program) (text : List Char) (steps : Nat) (visited : Visited)
    (number offset : Nat) (marks : Marks) (found : Option (Nat × Marks))
    : Prop :=
  ∃ after,
    program.explore steps visited number (placeAt text offset) marks
      = (after, found.map (matchAt text))
    ∧ (found = none → program.FailsSince text visited after)

/-- A try need be looked at only if it is not remembered: a remembered one fails, as it does not
come before itself.
-/
theorem Program.Leads.finds_of_fresh {found : Option (Nat × Marks)} {steps : Nat}
    (h : program.Leads text number offset marks found)
    (hsteps : program.wayLeft rank text (number, offset) < steps)
    (hvisited : program.Remembers rank text visited (number, offset))
    (fresh
      : ∀ more,
          program.wayLeft rank text (number, offset) < more + 1
          → ¬visited.contains (number, offset) = true
          → program.Finds text (more + 1) visited number offset marks found)
    : program.Finds text steps visited number offset marks found := by
  obtain ⟨more, rfl⟩ := Nat.exists_eq_add_one_of_ne_zero (Nat.ne_of_gt (Nat.zero_lt_of_lt hsteps))
  by_cases htried : visited.contains (number, offset) = true
  · have hfails : program.Fails text number offset :=
      (hvisited _ (Std.HashSet.mem_iff_contains.2 htried)).resolve_right (by simp [Before])
    rw [h.unique (hfails marks)]
    refine ⟨visited, ?_, fun _ tried hmem => Or.inl hmem⟩
    rw [program.explore_succ, if_pos htried]
    rfl
  · exact fresh more hsteps htried

/-- A search finds what its instruction leads to, by induction on the way. -/
theorem Program.Leads.finds (ranked : program.Ranked rank) {found : Option (Nat × Marks)}
    (h : program.Leads text number offset marks found) {steps : Nat}
    (hsteps : program.wayLeft rank text (number, offset) < steps)
    (hvisited : program.Remembers rank text visited (number, offset))
    : program.Finds text steps visited number offset marks found := by
  induction h generalizing steps visited with
  | @accept number offset marks move =>
      refine (Leads.accept move).finds_of_fresh hsteps hvisited fun more _ hfresh => ?_
      refine ⟨visited.insert (number, offset), ?_, fun hnone => by cases hnone⟩
      rw [program.explore_succ, if_neg hfresh, move]
      rfl
  | @fail number offset marks move =>
      refine (Leads.fail move).finds_of_fresh hsteps hvisited fun more _ hfresh => ?_
      refine ⟨visited.insert (number, offset), ?_, fun _ => ?_⟩
      · rw [program.explore_succ, if_neg hfresh, move]
        rfl
      · exact FailsSince.of_insert (fun tried hmem => Or.inl hmem) fun _ => .fail move
  | go move rest ih =>
      refine (Leads.go move rest).finds_of_fresh hsteps hvisited fun more hmore hfresh => ?_
      have hgoes := ranked.goesOn_of_go move
      obtain ⟨after, hfound, hsince⟩ :=
        ih (hgoes.wayLeft_lt hmore) (hvisited.insert hgoes.before)
      refine ⟨after, ?_, fun hnone => ?_⟩
      · rw [program.explore_succ, if_neg hfresh, move]
        exact hfound
      · exact (hsince hnone).of_insert (Leads.fails (hnone ▸ Leads.go move rest))
  | preferred move rest ih =>
      refine (Leads.preferred move rest).finds_of_fresh hsteps hvisited fun more hmore hfresh => ?_
      have hgoes := (ranked.goesOn_of_choose move).1
      obtain ⟨after, hfound, -⟩ :=
        ih (hgoes.wayLeft_lt hmore) (hvisited.insert hgoes.before)
      refine ⟨after, ?_, fun hnone => by cases hnone⟩
      rw [program.explore_succ, if_neg hfresh, move]
      simp only [hfound, Option.map_some]
  | other move failed rest ihFailed ih =>
      refine (Leads.other move failed rest).finds_of_fresh hsteps hvisited
        fun more hmore hfresh => ?_
      have hgoes := ranked.goesOn_of_choose move
      obtain ⟨between, hfailed, hbetween⟩ :=
        ihFailed (hgoes.1.wayLeft_lt hmore) (hvisited.insert hgoes.1.before)
      obtain ⟨after, hfound, hsince⟩ :=
        ih (hgoes.2.wayLeft_lt hmore) ((hbetween rfl).remembers (hvisited.insert hgoes.2.before))
      refine ⟨after, ?_, fun hnone => ?_⟩
      · rw [program.explore_succ, if_neg hfresh, move]
        simp only [hfailed, Option.map_none, hfound]
      · exact ((hbetween rfl).trans (hsince hnone)).of_insert
          (Leads.fails (hnone ▸ Leads.other move failed rest))

end Explore

-----------------------------------------------------------------------------------------
-- The first match of a text
-----------------------------------------------------------------------------------------

/-- The first match from an offset of a text on, if there is one. -/
inductive Program.Seeks (program : Program) (text : List Char) : Nat → Option Match → Prop
  | here {offset stop marks}
    (leads : program.Leads text program.start offset [] (some (stop, marks)))
    : program.Seeks text offset (some ⟨placeAt text offset, placeAt text stop, marks⟩)
  | on {offset found}
    (failed : program.Leads text program.start offset [] none)
    (isBefore : offset < text.length)
    (rest : program.Seeks text (offset + 1) found)
    : program.Seeks text offset found
  | done {offset}
    (failed : program.Leads text program.start offset [] none)
    (isEnd : text.length ≤ offset)
    : program.Seeks text offset none

section Seeks

variable {program : Program} {rank : Nat → Nat} {text : List Char} {offset : Nat}

/-- Each try of a text is within the bound for its ways. -/
theorem Program.Ranked.wayLeft_lt_wayBound (ranked : program.Ranked rank) (number offset : Nat)
    : program.wayLeft rank text (number, offset) < program.wayBound text.length := by
  have hbelow := ranked.below number
  have hlength : (text.length - offset) * program.code.size ≤ text.length * program.code.size :=
    Nat.mul_le_mul_right _ (Nat.sub_le _ _)
  rw [Program.wayLeft, Program.wayBound, Nat.mul_add, Nat.mul_comm program.code.size]
  dsimp only
  omega

/-- What a search does at an offset when all that it remembers fails. -/
theorem Program.Leads.searchFrom (ranked : program.Ranked rank) {found : Option (Nat × Marks)}
    (h : program.Leads text program.start offset [] found) {visited : Visited}
    (hvisited : ∀ tried ∈ visited, program.Fails text tried.1 tried.2)
    : ∃ after : Visited,
        (found = none → ∀ tried ∈ after, program.Fails text tried.1 tried.2)
        ∧ program.searchFrom (program.wayBound text.length) visited (placeAt text offset).before
              offset (text.drop offset)
          = match found with
            | some stop => some ⟨placeAt text offset, placeAt text stop.1, stop.2⟩
            | none =>
                match text.drop offset with
                | [] => none
                | c :: rest =>
                    program.searchFrom (program.wayBound text.length) after (some c) (offset + 1)
                      rest := by
  obtain ⟨after, hfinds, hsince⟩ :=
    h.finds ranked (ranked.wayLeft_lt_wayBound _ _) fun tried htried =>
      Or.inl (hvisited tried htried)
  refine ⟨after, fun hnone tried htried => ?_, ?_⟩
  · exact (hsince hnone tried htried).elim (hvisited tried) id
  · have hplace : placeAt text offset = ⟨(placeAt text offset).before, text.drop offset, offset⟩ :=
      rfl
    rw [hplace] at hfinds
    rw [Program.searchFrom.eq_def]
    dsimp only
    rw [hfinds]
    cases found <;> rfl

/-- A search for the first match finds it, by induction on the offsets that it tries, and whatever
it remembers on the way fails.
-/
theorem Program.Seeks.searchFrom (ranked : program.Ranked rank) {found : Option Match}
    (h : program.Seeks text offset found) {visited : Visited}
    (hvisited : ∀ tried ∈ visited, program.Fails text tried.1 tried.2)
    : program.searchFrom (program.wayBound text.length) visited (placeAt text offset).before offset
          (text.drop offset)
      = found := by
  induction h generalizing visited with
  | here leads =>
      obtain ⟨after, -, hsearch⟩ := leads.searchFrom ranked hvisited
      exact hsearch
  | on failed isBefore rest ih =>
      obtain ⟨after, hafter, hsearch⟩ := failed.searchFrom ranked hvisited
      rw [hsearch, ← ih (hafter rfl), List.drop_eq_getElem_cons isBefore,
        placeAt_succ (List.getElem?_eq_getElem isBefore)]
  | done failed isEnd =>
      obtain ⟨after, -, hsearch⟩ := failed.searchFrom ranked hvisited
      rw [hsearch, List.drop_eq_nil_of_le isEnd]

/-- A search finds the first match of a text without empty loops. -/
theorem Program.Seeks.search (ranked : program.Ranked rank) {found : Option Match}
    (h : program.Seeks text offset found)
    : program.search (program.wayBound text.length) (placeAt text offset) = found :=
  h.searchFrom ranked (by simp)

end Seeks

end StoryAtlas.Pattern
