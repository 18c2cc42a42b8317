import AutomationIndex.Package.Attribute
import AutomationIndex.Proofs.Location.Written
import AutomationIndex.Proofs.Text.Case

/-! The items of attribute values: the fields between separators that are not blank, in order. -/

namespace AutomationIndex

namespace Text

/-- The parts between the occurrences of one character are the runs between them. -/
theorem partsBetween_single (separator : Char) (chars : List Char) :
    partsBetween [separator] 0 chars = runsBetween (· == separator) chars := by
  -- A separator of one character leaves nothing to pass over.
  induction chars with
  | nil => rfl
  | cons c rest ih =>
    change _ = runsBetween.step (· == separator) c (runsBetween (· == separator) rest)
    rw [← ih]
    by_cases divides : c = separator
    · simp [partsBetween, runsBetween.step, divides]
    · have other : separator ≠ c := fun same => divides same.symm
      simp [partsBetween, runsBetween.step, divides, other]

end Text

namespace Attribute

variable {separator : Char} {value : String}

/-- There is something to see in a value exactly if stripping leaves something of it. -/
theorem any_visible_iff :
    (value.toList.any fun c => !Text.isBlank c) = true ↔ Text.strip value ≠ "" := by
  rw [ne_eq, Text.strip_eq_empty_iff]
  simp

/-- The fields of a value between the occurrences of a character, without the blank ones. -/
def visibleFields (separator : Char) (value : String) : List String :=
  (Text.fields separator value).filter fun field => field.toList.any fun c => !Text.isBlank c

/-- The items between the occurrences of a character are the visible fields, stripped. -/
theorem itemsBetween_single (separator : Char) (value : String) :
    itemsBetween [separator] value = (visibleFields separator value).map Text.strip := by
  -- A run is blank exactly if stripping leaves nothing of it.
  have kept : ∀ run : List Char, (!(Text.stripChars run).isEmpty) =
      run.any fun c => !Text.isBlank c := by
    intro run
    have shown : _ ↔ Text.strip (String.ofList run) ≠ "" := any_visible_iff
    rw [Text.strip, ne_eq, ← String.toList_inj, String.toList_ofList, String.toList_ofList,
      String.toList_empty] at shown
    rw [Bool.eq_iff_iff, shown, Bool.not_eq_true', List.isEmpty_eq_false_iff]
  have runs : ((!·.isEmpty) ∘ Text.stripChars) =
      ((fun field : String => field.toList.any fun c => !Text.isBlank c) ∘ String.ofList) := by
    funext run
    simp only [Function.comp_apply, String.toList_ofList, kept]
  rw [itemsBetween, visibleFields, Text.fields, Text.partsBetween_single, List.filter_map,
    List.filter_map, List.map_map, List.map_map, runs]
  exact List.map_congr_left fun run _ => by simp [Text.strip]

/-- The visible fields of two values with a separator between them are those of the one and then those
of the other. -/
theorem visibleFields_divided (separator : Char) (first second : String) :
    visibleFields separator (first ++ separator.toString ++ second) =
      visibleFields separator first ++ visibleFields separator second := by
  -- The separator ends the last field of the first value, and opens the first one of the second.
  have divided : (first ++ separator.toString ++ second).toList =
      first.toList ++ separator :: second.toList := by
    simp [Char.toString]
  have runs := Text.runsBetween_divided (p := fun c => c == separator) first.toList
    (beq_self_eq_true separator) second.toList
  rw [visibleFields, Text.fields, divided, runs, List.map_append, List.filter_append]
  rfl

/-- The items of two values with the separator between them are those of the one and then those of
the other. -/
theorem itemsBetween_divided (separator : Char) (first second : String) :
    itemsBetween [separator] (first ++ separator.toString ++ second) =
      itemsBetween [separator] first ++ itemsBetween [separator] second := by
  simp only [itemsBetween_single, visibleFields_divided, List.map_append]

/-- A value without the separator is one item, stripped, or no item if it is blank. -/
theorem itemsBetween_undivided (undivided : separator ∉ value.toList) :
    itemsBetween [separator] value =
      if Text.strip value = "" then [] else [Text.strip value] := by
  have apart : ∀ c ∈ value.toList, (c == separator) = false := by
    intro c member
    rw [beq_eq_false_iff_ne]
    rintro rfl
    exact undivided member
  -- The only field of the value is the value itself.
  have whole : Text.fields separator value = [value] := by
    simp [Text.fields, Text.runsBetween_whole apart]
  rw [itemsBetween_single, visibleFields, whole]
  simp only [List.filter_cons, List.filter_nil, any_visible_iff]
  by_cases blank : Text.strip value = "" <;> simp [blank]

/-- Whether a text can be an item between the occurrences of a separator: there is something in it,
no blanks stand around it, and the separator is not in it. -/
structure IsItem (separator : Char) (item : String) : Prop where
  nonempty : item ≠ ""
  stripped : Text.strip item = item
  undivided : separator ∉ item.toList

/-- The items of a value are items. -/
theorem itemsBetween_isItem : ∀ item ∈ itemsBetween [separator] value, IsItem separator item := by
  -- An item is a stripped field, and stripping never brings a separator in.
  intro item member
  rw [itemsBetween_single] at member
  obtain ⟨field, visible, rfl⟩ := List.mem_map.mp member
  obtain ⟨between, shown⟩ := List.mem_filter.mp visible
  refine ⟨any_visible_iff.mp shown, ?_, ?_⟩
  · rw [Text.strip, Text.strip, String.toList_ofList, Text.stripChars_stripChars]
  · intro member
    obtain ⟨run, listed, rfl⟩ := List.mem_map.mp between
    rw [Text.strip, String.toList_ofList, String.toList_ofList] at member
    have apart := Text.runsBetween_apart listed separator (Text.stripChars_subset _ member)
    simp at apart

/-- Items that are joined by the separator are the items of the value that this makes. -/
theorem itemsBetween_intercalate {items : List String}
    (proper : ∀ item ∈ items, IsItem separator item) :
    itemsBetween [separator] (separator.toString.intercalate items) = items := by
  -- One item between separators is one field, which stripping keeps.
  have alone : ∀ item, IsItem separator item → itemsBetween [separator] item = [item] := by
    intro item sound
    rw [itemsBetween_undivided sound.undivided, sound.stripped, if_neg sound.nonempty]
  induction items with
  | nil => rfl
  | cons item rest ih =>
    obtain ⟨here, later⟩ := List.forall_mem_cons.mp proper
    cases rest with
    | nil => rw [String.intercalate_singleton, alone item here]
    | cons next more =>
      rw [String.intercalate_cons_cons, itemsBetween_divided, alone item here, ih later]
      rfl

/-- Texts that are joined by a separator of one character are the items of the value that this makes
exactly if all of them are items. A separator between two values divides their items, a value
without it has no item but what stripping leaves, and whatever a value is, all its items are items. -/
theorem itemsBetween_joined (separator : Char) :
    (∀ items, itemsBetween [separator] (separator.toString.intercalate items) = items ↔
      ∀ item ∈ items, IsItem separator item) ∧
    (∀ first second, itemsBetween [separator] (first ++ separator.toString ++ second) =
      itemsBetween [separator] first ++ itemsBetween [separator] second) ∧
    (∀ value, separator ∉ value.toList → itemsBetween [separator] value =
      if Text.strip value = "" then [] else [Text.strip value]) ∧
    ∀ value, ∀ item ∈ itemsBetween [separator] value, IsItem separator item := by
  -- The items of any value are sound, which is what the first clause needs for its one direction.
  refine ⟨fun items => ⟨fun same => ?_, itemsBetween_intercalate⟩, itemsBetween_divided separator,
    fun value => itemsBetween_undivided, fun value => itemsBetween_isItem⟩
  rw [← same]
  exact itemsBetween_isItem

/-- The separator may be a blank. Two texts that it joins are read back, one between tabulators is
one item, and what is read from a value with several blanks in a row is an item again. -/
theorem itemsBetween_joined_blank :
    ((∀ item ∈ ["-D", "Größe"], IsItem ' ' item) ∧
      itemsBetween [' '] "-D Größe" = ["-D", "Größe"]) ∧
    (' ' ∉ "\tGröße\t".toList ∧ itemsBetween [' '] "\tGröße\t" = ["Größe"]) ∧
    "Größe" ∈ itemsBetween [' '] "  Größe -D" ∧ IsItem ' ' "Größe" := by
  obtain ⟨joined, -, alone, sound⟩ := itemsBetween_joined ' '
  -- The separator is a blank itself, so fields between blanks are stripped of nothing.
  have proper : ∀ item ∈ ["-D", "Größe"], IsItem ' ' item :=
    List.forall_mem_cons.mpr ⟨⟨by decide, by decide, by decide⟩,
      List.forall_mem_singleton.mpr ⟨by decide, by decide, by decide⟩⟩
  have single : ' ' ∉ "\tGröße\t".toList := by decide
  have among : "Größe" ∈ itemsBetween [' '] "  Größe -D" := by decide
  exact ⟨⟨proper, (joined _).mpr proper⟩, ⟨single, alone _ single⟩, among, sound _ _ among⟩

end Attribute

end AutomationIndex
