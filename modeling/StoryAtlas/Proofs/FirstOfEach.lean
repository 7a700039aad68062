import Mathlib.Data.List.Find
import Mathlib.Data.List.Induction

/-! The first entry of each key in a list.
Adding entries one by one, each unless one with its key is there, keeps just these entries; so
both the registration of nodes and the collection of edges come down to them.
-/

namespace StoryAtlas

variable {α κ ι : Type} [DecidableEq κ] [DecidableEq ι]

/-- The entries whose key no earlier entry has. -/
def firstOfEach (key : α → κ) : List α → List α
  | [] => []
  | entry :: rest => entry :: (firstOfEach key rest).filter fun other => key other ≠ key entry

/-- Adds an entry at the end, unless one with its key is there already. -/
def addFirst (key : α → κ) (kept : List α) (entry : α) : List α :=
  if key entry ∈ kept.map key then kept else kept ++ [entry]

/-- Adding entries one by one appends the first of each key that was not there before, by list
induction. -/
theorem foldl_addFirst (key : α → κ) (kept entries : List α)
    : entries.foldl (addFirst key) kept
      = kept ++ (firstOfEach key entries).filter fun entry => key entry ∉ kept.map key := by
  induction entries generalizing kept with
  | nil => simp [firstOfEach]
  | cons entry rest ih =>
      rw [List.foldl_cons, ih, firstOfEach]
      by_cases h : key entry ∈ kept.map key
      · have hsame : ∀ other ∈ firstOfEach key rest,
            (decide (key other ∉ kept.map key))
              = (decide (key other ∉ kept.map key) && decide (key other ≠ key entry)) := by
          intro other _
          by_cases he : key other = key entry
          · simp [he, h]
          · simp [he]
        rw [addFirst, if_pos h, List.filter_cons_of_neg (by simpa using h), List.filter_filter]
        exact congrArg (kept ++ ·) (List.filter_congr hsame)
      · rw [addFirst, if_neg h, List.filter_cons_of_pos (by simpa using h), List.filter_filter,
          List.append_assoc, List.singleton_append]
        simp only [List.map_append, List.mem_append, List.map_cons, List.map_nil,
          List.mem_singleton, not_or, Bool.decide_and]

/-- Adding entries one by one to nothing keeps the first of each key. -/
theorem foldl_addFirst_nil (key : α → κ) (entries : List α)
    : entries.foldl (addFirst key) [] = firstOfEach key entries := by
  rw [foldl_addFirst]
  simp

theorem firstOfEach_sublist (key : α → κ) (entries : List α)
    : (firstOfEach key entries).Sublist entries := by
  induction entries with
  | nil => exact List.Sublist.refl []
  | cons entry rest ih => exact (List.filter_sublist.trans ih).cons_cons entry

theorem firstOfEach_eq_nil_iff {key : α → κ} {entries : List α}
    : firstOfEach key entries = [] ↔ entries = [] := by
  cases entries <;> simp [firstOfEach]

/-- The kept entries have all the keys. -/
theorem exists_mem_firstOfEach (key : α → κ) {entries : List α} {entry : α}
    (h : entry ∈ entries)
    : ∃ first ∈ firstOfEach key entries, key first = key entry := by
  induction entries with
  | nil => exact absurd h List.not_mem_nil
  | cons head rest ih =>
      by_cases hkey : key entry = key head
      · exact ⟨head, List.mem_cons_self, hkey.symm⟩
      · have hrest := (List.mem_cons.1 h).resolve_left fun heq => hkey (congrArg key heq)
        obtain ⟨first, hfirst, hsame⟩ := ih hrest
        have hother : key first ≠ key head := fun heq => hkey (hsame.symm.trans heq)
        exact ⟨first,
          List.mem_cons_of_mem _ (List.mem_filter.2 ⟨hfirst, decide_eq_true hother⟩), hsame⟩

theorem mem_map_firstOfEach_iff {key : α → κ} {entries : List α} {k : κ}
    : k ∈ (firstOfEach key entries).map key ↔ k ∈ entries.map key := by
  constructor
  · exact fun h => ((firstOfEach_sublist key entries).map key).mem h
  · intro h
    obtain ⟨entry, hentry, rfl⟩ := List.mem_map.1 h
    obtain ⟨first, hfirst, hsame⟩ := exists_mem_firstOfEach key hentry
    exact List.mem_map.2 ⟨first, hfirst, hsame⟩

/-- Adding an entry keeps the keys distinct. -/
theorem nodup_map_addFirst {key : α → κ} {kept : List α} (h : (kept.map key).Nodup) (entry : α)
    : ((addFirst key kept entry).map key).Nodup := by
  unfold addFirst
  split
  · exact h
  · next hnew =>
      rw [List.map_append, List.nodup_append]
      refine ⟨h, by simp, ?_⟩
      rintro k hk other hother rfl
      exact hnew (List.mem_singleton.1 hother ▸ hk)

theorem nodup_map_foldl_addFirst {key : α → κ} {kept : List α} (h : (kept.map key).Nodup)
    (entries : List α)
    : ((entries.foldl (addFirst key) kept).map key).Nodup := by
  induction entries generalizing kept with
  | nil => exact h
  | cons entry rest ih => exact ih (nodup_map_addFirst h entry)

theorem nodup_map_firstOfEach (key : α → κ) (entries : List α)
    : ((firstOfEach key entries).map key).Nodup := by
  rw [← foldl_addFirst_nil]
  exact nodup_map_foldl_addFirst (by simp) entries

/-- Entries whose keys are all there already add nothing. -/
theorem firstOfEach_append_of_mem {key : α → κ} {entries more : List α}
    (h : ∀ entry ∈ more, key entry ∈ entries.map key)
    : firstOfEach key (entries ++ more) = firstOfEach key entries := by
  have hnone
      : (firstOfEach key more).filter
            (fun entry => key entry ∉ (firstOfEach key entries).map key)
        = [] := by
    refine List.filter_eq_nil_iff.2 fun entry hentry => ?_
    have hmem := h entry ((firstOfEach_sublist key more).mem hentry)
    simpa using mem_map_firstOfEach_iff.2 hmem
  rw [← foldl_addFirst_nil, List.foldl_append, foldl_addFirst_nil, foldl_addFirst, hnone,
    List.append_nil]

/-- Entries with distinct keys are all kept. -/
theorem firstOfEach_eq_self {key : α → κ} {entries : List α} (h : (entries.map key).Nodup)
    : firstOfEach key entries = entries := by
  induction entries with
  | nil => rfl
  | cons entry rest ih =>
      rw [List.map_cons, List.nodup_cons] at h
      rw [firstOfEach, ih h.2, List.filter_eq_self.2]
      intro other hother
      have hne : key other ≠ key entry := fun heq => h.1 (heq ▸ List.mem_map_of_mem hother)
      simpa using hne

theorem firstOfEach_map {β : Type} (key : β → κ) (f : α → β) (entries : List α)
    : firstOfEach key (entries.map f) = (firstOfEach (key ∘ f) entries).map f := by
  induction entries with
  | nil => rfl
  | cons entry rest ih =>
      rw [List.map_cons, firstOfEach, ih, firstOfEach, List.map_cons, List.filter_map]
      rfl

/-- Keys that tell the same entries apart keep the same entries. -/
theorem firstOfEach_congr {key : α → κ} {other : α → ι} {entries : List α}
    (h : ∀ a ∈ entries, ∀ b ∈ entries, key a = key b ↔ other a = other b)
    : firstOfEach key entries = firstOfEach other entries := by
  induction entries with
  | nil => rfl
  | cons entry rest ih =>
      have hrest := ih fun a ha b hb =>
        h a (List.mem_cons_of_mem _ ha) b (List.mem_cons_of_mem _ hb)
      rw [firstOfEach, firstOfEach, hrest]
      congr 1
      refine List.filter_congr fun a ha => ?_
      have hmem := (firstOfEach_sublist other rest).mem ha
      simp [h a (List.mem_cons_of_mem _ hmem) entry List.mem_cons_self]

-----------------------------------------------------------------------------------------
-- Positions
-----------------------------------------------------------------------------------------

theorem firstOfEach_concat (key : α → κ) (entries : List α) (entry : α)
    : firstOfEach key (entries ++ [entry])
      = if key entry ∈ entries.map key then firstOfEach key entries
        else firstOfEach key entries ++ [entry] := by
  rw [← foldl_addFirst_nil, List.foldl_append, foldl_addFirst_nil, List.foldl_cons,
    List.foldl_nil, addFirst]
  exact if_congr mem_map_firstOfEach_iff rfl rfl

/-- An entry is kept exactly if no entry at an earlier position has its key, by induction from the
last entry.
-/
theorem firstOfEach_eq_filter_zipIdx (key : α → κ) (entries : List α)
    : firstOfEach key entries
      = (entries.zipIdx.filter fun entry =>
          key entry.1 ∉ (entries.take entry.2).map key).map Prod.fst := by
  induction entries using List.reverseRecOn with
  | nil => rfl
  | append_singleton entries entry ih =>
      have hfront
          : entries.zipIdx.filter
                (fun other => key other.1 ∉ ((entries ++ [entry]).take other.2).map key)
            = entries.zipIdx.filter
                (fun other => key other.1 ∉ (entries.take other.2).map key) := by
        refine List.filter_congr fun other hother => ?_
        have hlt := List.snd_lt_of_mem_zipIdx hother
        rw [List.take_append_of_le_length (by omega)]
      have htake : (entries ++ [entry]).take entries.length = entries := List.take_left
      rw [firstOfEach_concat, List.zipIdx_append, List.filter_append, List.map_append, hfront, ← ih,
        Nat.zero_add, List.zipIdx_singleton, List.filter_cons, htake]
      by_cases h : key entry ∈ entries.map key
      · rw [if_pos h, if_neg (by simpa using h)]
        simp
      · rw [if_neg h, if_pos (by simpa using h)]
        simp

-----------------------------------------------------------------------------------------
-- Looking up
-----------------------------------------------------------------------------------------

/-- The first entry of a key is kept. -/
theorem find?_firstOfEach (key : α → κ) (entries : List α) (k : κ)
    : ((firstOfEach key entries).find? fun entry => key entry = k)
      = entries.find? fun entry => key entry = k := by
  induction entries with
  | nil => rfl
  | cons entry rest ih =>
      rw [firstOfEach, List.find?_cons, List.find?_cons]
      by_cases hkey : key entry = k
      · simp [hkey]
      · have hsame : ∀ other ∈ firstOfEach key rest,
            (decide (decide (key other ≠ key entry) = true ∧ decide (key other = k) = true))
              = decide (key other = k) := by
          rintro other -
          by_cases hother : key other = k
          · simp [hother, Ne.symm hkey]
          · simp [hother]
        rw [decide_eq_false hkey, List.find?_filter, List.find?_congr hsame, ih]

section Lookup

variable {β : Type} [BEq κ] [LawfulBEq κ]

/-- Taking out the entries of one key leaves the other keys alone. -/
theorem lookup_filter_ne {key other : κ} (hother : other ≠ key) (entries : List (κ × β))
    : (entries.filter fun entry => entry.1 ≠ key).lookup other = entries.lookup other := by
  induction entries with
  | nil => rfl
  | cons entry rest ih =>
      rw [List.lookup_cons, List.filter_cons]
      by_cases hentry : entry.1 = key
      · rw [if_neg (by simp [hentry]), ih, hentry, beq_false_of_ne hother]
      · rw [if_pos (by simp [hentry]), List.lookup_cons, ih]

/-- What is looked up is the first entry of its key. -/
theorem lookup_firstOfEach (entries : List (κ × β)) (key : κ)
    : (firstOfEach Prod.fst entries).lookup key = entries.lookup key := by
  induction entries with
  | nil => rfl
  | cons entry rest ih =>
      rw [firstOfEach, List.lookup_cons, List.lookup_cons]
      by_cases hkey : key = entry.1
      · rw [beq_iff_eq.2 hkey]
      · rw [beq_false_of_ne hkey, lookup_filter_ne hkey, ih]

end Lookup

end StoryAtlas
