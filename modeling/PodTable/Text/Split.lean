/-!
# Splitting

The parts of a text between separators. A text has one part more than it has separators. It may
be a list of characters or of code points.
-/

namespace PodTable

namespace Text

variable {α : Type} [DecidableEq α]

/-- The parts of a text between the characters `sep`. -/
def split (sep : α) : List α → List (List α)
  | [] => [[]]
  | c :: cs =>
    match split sep cs with
    | [] => [[c]]
    | part :: parts => if c = sep then [] :: part :: parts else (c :: part) :: parts

theorem split_ne_nil (sep : α) (cs : List α) :
  split sep cs ≠ []
  := by
  cases cs with
  | nil => simp [split]
  | cons c cs =>
    rw [split]
    split
    · simp
    · split <;> simp

/-- Characters other than the separator go before the first part. -/
theorem split_append {sep : α} {cs ds part : List α} {parts : List (List α)} (h : sep ∉ cs)
    (hsplit : split sep ds = part :: parts) :
  split sep (cs ++ ds) = (cs ++ part) :: parts
  := by
  induction cs with
  | nil => exact hsplit
  | cons c cs ih =>
    rw [List.mem_cons, not_or] at h
    rw [List.cons_append, split, ih h.2]
    exact if_neg (Ne.symm h.1)

theorem split_cons_self (sep : α) (cs : List α) :
  split sep (sep :: cs) = [] :: split sep cs
  := by
  rw [split]
  split
  · rename_i hnil
    cases split_ne_nil sep cs hnil
  · rename_i part parts hsplit
    rw [if_pos rfl, hsplit]

/-- A text is one part when it has no separator. -/
theorem split_eq_singleton_iff {sep : α} {cs part : List α} :
  split sep cs = [part] ↔ sep ∉ cs ∧ cs = part
  := by
  have hpart (h : sep ∉ cs) : split sep cs = [cs] := by
    simpa using split_append h (show split sep [] = [[]] from rfl)
  constructor
  · intro h
    by_cases hmem : sep ∈ cs
    · obtain ⟨before, after, rfl, hbefore⟩ := List.eq_append_cons_of_mem hmem
      rw [split_append hbefore (split_cons_self sep after)] at h
      cases split_ne_nil sep after (List.cons.inj h).2
    · rw [hpart hmem] at h
      exact ⟨hmem, (List.cons.inj h).1⟩
  · rintro ⟨h, rfl⟩
    exact hpart h

/-- A text has a part in front of others when a separator stands behind this part. -/
theorem split_eq_cons_cons_iff {sep : α} {cs part next : List α} {parts : List (List α)} :
  split sep cs = part :: next :: parts ↔
    ∃ rest, sep ∉ part ∧ cs = part ++ sep :: rest ∧ split sep rest = next :: parts
  := by
  have hparts {before : List α} (hbefore : sep ∉ before) (after : List α) :
      split sep (before ++ sep :: after) = before :: split sep after := by
    simpa using split_append hbefore (split_cons_self sep after)
  constructor
  · intro h
    by_cases hmem : sep ∈ cs
    · obtain ⟨before, after, rfl, hbefore⟩ := List.eq_append_cons_of_mem hmem
      rw [hparts hbefore after] at h
      obtain ⟨rfl, hafter⟩ := List.cons.inj h
      exact ⟨after, hbefore, rfl, hafter⟩
    · rw [split_eq_singleton_iff.mpr ⟨hmem, rfl⟩] at h
      cases h
  · rintro ⟨rest, hpart, rfl, hrest⟩
    rw [hparts hpart rest, hrest]

/-- Parts without a separator are the parts of the text that has separators between them. -/
theorem split_intercalate {sep : α} {parts : List (List α)} (hne : parts ≠ [])
    (h : ∀ part ∈ parts, sep ∉ part) :
  split sep ([sep].intercalate parts) = parts
  := by
  induction parts with
  | nil => contradiction
  | cons part parts ih =>
    have hpart : sep ∉ part := h part List.mem_cons_self
    cases parts with
    | nil =>
      rw [List.intercalate_singleton]
      exact split_eq_singleton_iff.mpr ⟨hpart, rfl⟩
    | cons next parts =>
      have hrest := ih (List.cons_ne_nil next parts) (fun p hp => h p (List.mem_cons_of_mem part hp))
      rw [List.intercalate_cons_cons, List.append_assoc]
      exact split_eq_cons_cons_iff.mpr ⟨_, hpart, rfl, hrest⟩

end Text

end PodTable
