import PodTable.Proofs.Table.Rearranged
import PodTable.Proofs.Text.Digits
import PodTable.Text.Codes
import PodTable.Text.Split

/-!
# Labels in a cell

The cell for labels shows each label once, in the order of the keys, with a space between two of them,
and a placeholder when there are none. With neither spaces nor equals signs in keys and no spaces in
values, the labels can be read off the cell again: `Cell.readLabels_labels`. So tables of labels have
the same cell exactly when they have the same values under the same keys: `Cell.labels_tell_table`.
-/

namespace PodTable

namespace Cell

/-- The key of a label has neither a space nor an equals sign, and its value has no space. -/
structure IsPlain (l : String × String) : Prop where
  space_notMem_key : ' ' ∉ l.1.toList
  sign_notMem_key : '=' ∉ l.1.toList
  space_notMem_value : ' ' ∉ l.2.toList

instance (l : String × String) : Decidable (IsPlain l) :=
  decidable_of_iff (' ' ∉ l.1.toList ∧ '=' ∉ l.1.toList ∧ ' ' ∉ l.2.toList)
    ⟨fun h => ⟨h.1, h.2.1, h.2.2⟩, fun h => ⟨h.1, h.2, h.3⟩⟩

/-- The text of a label. -/
def labelText (l : String × String) : List Char := l.1.toList ++ '=' :: l.2.toList

/-- The label that a text shows, if any: its key ends at the first equals sign. -/
def label? (cs : List Char) : Option (String × String) :=
  match cs.dropWhile (· != '=') with
  | [] => none
  | _ :: value => some (String.ofList (cs.takeWhile (· != '=')), String.ofList value)

/-- The labels that a cell shows between spaces. The placeholder is not one. -/
def readLabels (s : String) : List (String × String) :=
  (Text.split ' ' s.toList).filterMap label?

variable {l : String × String} {ls ms : List (String × String)}

theorem label?_labelText (h : IsPlain l) :
  label? (labelText l) = some l
  := by
  have hkey : l.1.toList.all (· != '=') = true := by
    rw [List.all_eq_true]
    intro c hc
    exact bne_iff_ne.mpr (ne_of_mem_of_not_mem hc h.sign_notMem_key)
  have hsign : ∀ c ∈ ('=' :: l.2.toList).head?, (c != '=') = false := by simp
  rw [labelText, label?, Text.dropWhile_append_of_head hkey hsign,
    Text.takeWhile_append_of_head hkey hsign]
  simp

theorem space_notMem_labelText (h : IsPlain l) :
  ' ' ∉ labelText l
  := by
  simp [labelText, h.space_notMem_key, h.space_notMem_value]

/-- Labels stand in the cell in the order of their keys, with spaces between them. -/
theorem toList_labels (hne : ls ≠ []) :
  (labels ls).toList = [' '].intercalate ((Checked.byKey ls).map labelText)
  := by
  have hbyKey : ¬ (Checked.byKey ls).isEmpty := by
    rwa [List.isEmpty_iff, Checked.byKey_eq_nil_iff]
  have htext : (fun l : String × String => (l.1 ++ "=" ++ l.2).toList) = labelText := by
    funext l
    simp [labelText]
  rw [labels_eq_of_byKey, if_neg hbyKey, String.toList_intercalate, List.map_map, ← htext]
  rfl

theorem split_labels (h : ∀ l ∈ ls, IsPlain l) (hne : ls ≠ []) :
  Text.split ' ' (labels ls).toList = (Checked.byKey ls).map labelText
  := by
  rw [toList_labels hne]
  apply Text.split_intercalate
  · rwa [Ne, List.map_eq_nil_iff, Checked.byKey_eq_nil_iff]
  · intro part hpart
    obtain ⟨l, hl, rfl⟩ := List.mem_map.mp hpart
    exact space_notMem_labelText (h l ((Checked.byKey_perm ls).mem_iff.mp hl))

/-- The labels are read off their cell, in the order of their keys. -/
theorem readLabels_labels (h : ∀ l ∈ ls, IsPlain l) :
  readLabels (labels ls) = Checked.byKey ls
  := by
  by_cases hne : ls = []
  · subst hne
    rw [Checked.byKey_eq_nil_iff.mpr rfl]
    rfl
  · have hread : ∀ l ∈ Checked.byKey ls, label? (labelText l) = some l := by
      intro l hl
      exact label?_labelText (h l ((Checked.byKey_perm ls).mem_iff.mp hl))
    calc readLabels (labels ls)
        = (Checked.byKey ls).filterMap (label? ∘ labelText) := by
          rw [readLabels, split_labels h hne, List.filterMap_map]
      _ = (Checked.byKey ls).filterMap some := List.filterMap_congr hread
      _ = Checked.byKey ls := List.filterMap_some

theorem labels_perm (hkeys : (ls.map (·.1)).Nodup) (h : ls.Perm ms) :
  labels ls = labels ms
  := by
  rw [labels_eq_of_byKey, labels_eq_of_byKey, Checked.byKey_eq_of_perm hkeys h]

/-- No two tables of plain labels have the same cell, but for their order. -/
theorem perm_of_labels_eq (hls : ∀ l ∈ ls, IsPlain l) (hms : ∀ l ∈ ms, IsPlain l)
    (h : labels ls = labels ms) :
  ls.Perm ms
  := by
  have hbyKey : Checked.byKey ls = Checked.byKey ms := by
    rw [← readLabels_labels hls, h, readLabels_labels hms]
  exact (Checked.byKey_perm ls).symm.trans (hbyKey ▸ Checked.byKey_perm ms)

/-- Only a table without labels shows the placeholder. -/
theorem labels_eq_noLabels_iff (h : ∀ l ∈ ls, IsPlain l) :
  labels ls = noLabels ↔ ls = []
  := by
  have hnil : labels [] = noLabels := rfl
  rw [← hnil]
  constructor
  · intro heq
    exact (perm_of_labels_eq h (List.forall_mem_nil _) heq).eq_nil
  · rintro rfl
    rfl

/-- The cell for labels does not depend on the order in which a table holds its labels. Two tables of
plain labels have the same cell exactly when they have the same values under the same keys, and the cell
is the placeholder exactly when there are no labels. Else the parts of the cell between spaces are the
labels, each of them once, with keys that increase in the order of code points. In this order the labels
are read off the cell. -/
theorem labels_tell_table (hkeys : (ls.map (·.1)).Nodup) :
  (∀ ms, ls.Perm ms → labels ms = labels ls)
  ∧ ((∀ l ∈ ls, IsPlain l) →
      (labels ls = "<none>" ↔ ls = [])
      ∧ (∀ ms : List (String × String), (ms.map (·.1)).Nodup → (∀ l ∈ ms, IsPlain l) →
          (labels ls = labels ms ↔ ∀ key, ls.lookup key = ms.lookup key))
      ∧ ∃ sorted : List (String × String), sorted.Perm ls
          ∧ sorted.Pairwise (fun a b => Text.Codes.ofString a.1 < Text.Codes.ofString b.1)
          ∧ Text.split ' ' (labels ls).toList
              = (if ls = [] then ["<none>".toList]
                else sorted.map (fun l => l.1.toList ++ '=' :: l.2.toList))
          ∧ readLabels (labels ls) = sorted)
  := by
  refine ⟨fun ms h => (labels_perm hkeys h).symm, fun hplain => ⟨?_, ?_, ?_⟩⟩
  · exact labels_eq_noLabels_iff hplain
  · intro ms hkeys' hplain'
    rw [← perm_iff_lookup_eq hkeys hkeys']
    exact ⟨perm_of_labels_eq hplain hplain', labels_perm hkeys⟩
  · refine ⟨Checked.byKey ls, Checked.byKey_perm ls, ?_, ?_, readLabels_labels hplain⟩
    · exact (Checked.pairwise_byKey hkeys).imp Text.Codes.ofString_lt
    · split_ifs with hnil
      · subst hnil
        rfl
      · exact split_labels hplain hnil

/-- Labels in no order. In the order of their texts `a.b=` would come before `a=b=c`. -/
def unorderedLabels : List (String × String) := [("b", "c"), ("a.b", ""), ("a", "b=c")]

theorem labels_tell_table_of_unordered :
  (unorderedLabels.map (·.1)).Nodup ∧ (∀ l ∈ unorderedLabels, IsPlain l)
  ∧ labels unorderedLabels.reverse = "a=b=c a.b= b=c"
  ∧ labels unorderedLabels ≠ "<none>"
  ∧ labels unorderedLabels ≠ labels [("a", "b=c"), ("b", "c")]
  ∧ (readLabels "a=b=c a.b= b=c").Perm unorderedLabels
  := by
  have hkeys : (unorderedLabels.map (·.1)).Nodup := by decide
  have hplain : ∀ l ∈ unorderedLabels, IsPlain l := by decide
  have htext : labels unorderedLabels = "a=b=c a.b= b=c" := by
    simp [labels, unorderedLabels, List.mergeSort, List.MergeSort.Internal.splitInTwo]
  obtain ⟨hperm, htell⟩ := labels_tell_table hkeys
  obtain ⟨hnone, hsame, sorted, hsorted, -, -, hread⟩ := htell hplain
  refine ⟨hkeys, hplain, ?_, mt hnone.mp (by decide), ?_, ?_⟩
  · rw [hperm _ (List.reverse_perm _).symm, htext]
  · intro heq
    have hlookup := (hsame _ (by decide) (by decide)).mp heq "a.b"
    revert hlookup
    decide
  · rwa [← htext, hread]

/-- An equals sign in a key may be taken for the one behind the key. -/
example : labels [("a=b", "c")] = labels [("a", "b=c")] := by
  rw [labels, labels, List.mergeSort_singleton, List.mergeSort_singleton]
  decide

end Cell

end PodTable
