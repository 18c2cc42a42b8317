import AutomationIndex.Proofs.Text.Case

/-! Characters that small letters leave alone: separators, colons and question marks are the small
form of themselves only, so a text and its small form have them in the same places. -/

namespace AutomationIndex.Text

/-- The characters that mark anchors in a path. -/
def marks : List Char :=
  ['/', '\\', ':', '?']

/-- No run of characters with another small form leads to one of these characters. -/
theorem smallRuns_marks : ∀ run ∈ smallRuns, ∀ mark ∈ marks,
    ¬ ((run.first : Int) ≤ mark.toNat - run.shift ∧ (mark.toNat - run.shift : Int) ≤ run.last) := by
  have checked : (smallRuns.all fun run => marks.all fun mark =>
      decide (¬ ((run.first : Int) ≤ mark.toNat - run.shift ∧
        (mark.toNat - run.shift : Int) ≤ run.last))) = true := by decide
  simpa only [List.all_eq_true, decide_eq_true_eq] using checked

/-- A mark is the small form of itself only. -/
theorem mem_smallForm_iff {c mark : Char} (among : mark ∈ marks) : mark ∈ smallForm c ↔ c = mark := by
  have forms : ∀ mark ∈ marks, 0 < mark.toNat ∧ mark ∈ smallForm mark ∧
      mark ∉ [Char.ofNat 0x69, Char.ofNat 0x307] := List.forall_iff_forall_mem.mp (by decide)
  obtain ⟨visible, own, plain⟩ := forms mark among
  refine ⟨fun member => ?_, fun same => same ▸ own⟩
  simp only [smallForm] at member
  split at member
  · exact (List.mem_singleton.mp member).symm
  · split at member
    · exact absurd member plain
    · split at member
      · next run found =>
        have lies := List.find?_some found
        simp only [Bool.and_eq_true, decide_eq_true_eq, beq_iff_eq] at lies
        -- The character would lie in a run that leads to the mark.
        have code : ((c.toNat : Int) + run.shift).toNat = mark.toNat :=
          toNat_of_ofNat_eq visible (List.mem_singleton.mp member).symm
        exact absurd ⟨by omega, by omega⟩
          (smallRuns_marks run (List.mem_of_find?_eq_some found) mark among)
      · exact (List.mem_singleton.mp member).symm

/-- Whether a list can be what a character becomes in small letters, as far as marks can tell: there
is something in it, and a mark is there exactly if it was the character. -/
structure IsFormOf (c : Char) (form : List Char) : Prop where
  nonempty : form ≠ []
  mark_iff : ∀ mark ∈ marks, mark ∈ form ↔ c = mark
  alone : c ∈ marks → form = [c]

/-- A form begins with a mark exactly if the character is that mark, and then it ends there. -/
theorem IsFormOf.begins {c : Char} {form : List Char} (of : IsFormOf c form) : ∃ d more,
    form = d :: more ∧ ∀ mark ∈ marks, (mark = d ↔ mark = c) ∧ (mark = d → more = []) := by
  -- A form keeps a mark alone and gives no mark for another character.
  obtain ⟨d, more, shape⟩ := List.exists_cons_of_ne_nil of.nonempty
  have own : ∀ mark ∈ marks, mark = d → mark = c := by
    rintro mark among rfl
    exact ((of.mark_iff mark among).mp (by simp [shape])).symm
  refine ⟨d, more, shape, fun mark among => ⟨⟨own mark among, ?_⟩, fun same => ?_⟩⟩
  · rintro rfl
    exact (List.cons.inj ((of.alone among).symm.trans shape)).1
  · have same := own mark among same
    subst same
    exact (List.cons.inj ((of.alone among).symm.trans shape)).2.symm

/-- The small form of a character is one in this sense. -/
theorem smallForm_isFormOf (c : Char) : IsFormOf c (smallForm c) where
  nonempty := by rcases smallForm_cases c with ⟨d, form⟩ | form <;> simp [form]
  mark_iff := fun _ among => mem_smallForm_iff among
  alone := by
    revert c
    exact List.forall_iff_forall_mem.mp (by decide)

/-- So are both forms of a capital sigma. -/
theorem sigma_isFormOf (final : Bool) :
    IsFormOf (Char.ofNat 0x3A3) [Char.ofNat (if final then 0x3C2 else 0x3C3)] where
  nonempty := List.cons_ne_nil _ _
  mark_iff := List.forall_iff_forall_mem.mp (by cases final <;> decide)
  alone := fun among => absurd among (by decide)

/-- Small letters replace each character by a form of it. -/
theorem smallFormsAfter_forms (before chars : List Char) : ∃ forms : List (List Char),
    smallFormsAfter before chars = forms.flatten ∧ List.Forall₂ IsFormOf chars forms := by
  induction chars generalizing before with
  | nil => exact ⟨[], rfl, .nil⟩
  | cons c rest ih =>
    obtain ⟨forms, written, each⟩ := ih (c :: before)
    rw [smallFormsAfter, written]
    -- Only the form of a capital sigma depends on its neighbours.
    by_cases sigma : c.toNat = 0x3A3
    · have same : c = Char.ofNat 0x3A3 := Char.toNat_inj.mp sigma
      exact ⟨_ :: forms, by simp only [sigma]; rfl, .cons (same ▸ sigma_isFormOf _) each⟩
    · exact ⟨smallForm c :: forms, by simp [sigma], .cons (smallForm_isFormOf c) each⟩

section Forms

variable {chars : List Char} {forms : List (List Char)} {mark : Char}

/-- Forms of characters have a mark exactly if the characters do. -/
theorem mem_forms_iff (each : List.Forall₂ IsFormOf chars forms) (among : mark ∈ marks) :
    mark ∈ forms.flatten ↔ mark ∈ chars := by
  induction each with
  | nil => simp
  | cons form _ ih => simp [form.mark_iff mark among, ih, eq_comm]

/-- Forms of characters begin with marks exactly if the characters do. -/
theorem prefix_forms_iff {written : List Char} (each : List.Forall₂ IsFormOf chars forms)
    (among : written ⊆ marks) : written <+: forms.flatten ↔ written <+: chars := by
  -- A form that begins with a mark is that mark alone, so the next mark begins the next form.
  induction each generalizing written with
  | nil => simp
  | cons form _ ih =>
    cases written with
    | nil => simp
    | cons mark later =>
      obtain ⟨here, there⟩ := List.cons_subset.mp among
      obtain ⟨d, more, rfl, exact⟩ := form.begins
      obtain ⟨same, alone⟩ := exact mark here
      rw [List.flatten_cons, List.cons_append, List.cons_prefix_cons, List.cons_prefix_cons, ← same,
        ← ih there]
      exact and_congr_right fun first => by rw [alone first, List.nil_append]

/-- Forms of characters are marks only exactly if the characters are these marks. -/
theorem forms_eq_iff {written : List Char} (each : List.Forall₂ IsFormOf chars forms)
    (among : written ⊆ marks) : written = forms.flatten ↔ written = chars := by
  -- Both lists are walked together: a mark is its own form, and no other form begins with one.
  induction each generalizing written with
  | nil => simp
  | cons form _ ih =>
    obtain ⟨d, more, rfl, exact⟩ := form.begins
    cases written with
    | nil => simp
    | cons mark later =>
      obtain ⟨here, there⟩ := List.cons_subset.mp among
      obtain ⟨same, alone⟩ := exact mark here
      rw [List.flatten_cons, List.cons_append, List.cons.injEq, List.cons.injEq, ← same,
        ← ih there]
      exact and_congr_right fun first => by rw [alone first, List.nil_append]

/-- Forms of characters end with a mark exactly if the characters do. -/
theorem getLast?_forms_iff (each : List.Forall₂ IsFormOf chars forms) (among : mark ∈ marks) :
    forms.flatten.getLast? = some mark ↔ chars.getLast? = some mark := by
  induction each with
  | nil => simp
  | @cons c form _ _ first each ih =>
    cases each with
    | nil =>
      simp only [List.flatten_cons, List.flatten_nil, List.append_nil, List.getLast?_singleton,
        Option.some.injEq]
      constructor
      · exact fun last => (first.mark_iff mark among).mp (List.mem_of_getLast? last)
      · rintro rfl
        simp [first.alone among]
    | cons second _ =>
      -- The last character is one of a later form.
      rw [List.flatten_cons, List.getLast?_append_of_ne_nil _ (by simp [second.nonempty]), ih]
      simp

end Forms

/-- The characters of a text in small letters. -/
theorem toSmall_forms (text : String) : ∃ forms : List (List Char),
    (toSmall text).toList = forms.flatten ∧ List.Forall₂ IsFormOf text.toList forms := by
  simpa [toSmall] using smallFormsAfter_forms [] text.toList

/-- A mark is in the small letters of a text exactly if it is in the text. -/
theorem mem_toSmall_iff {mark : Char} (among : mark ∈ marks) (text : String) :
    mark ∈ (toSmall text).toList ↔ mark ∈ text.toList := by
  obtain ⟨forms, written, each⟩ := toSmall_forms text
  rw [written, mem_forms_iff each among]

/-- The small letters of a text begin with marks exactly if the text does. -/
theorem prefix_toSmall_iff {written : List Char} (among : written ⊆ marks)
    (text : String) : written <+: (toSmall text).toList ↔ written <+: text.toList := by
  obtain ⟨forms, small, each⟩ := toSmall_forms text
  rw [small, prefix_forms_iff each among]

/-- The small letters of a text are marks only exactly if the text is these marks. -/
theorem toSmall_eq_iff {written : String} (among : written.toList ⊆ marks)
    (text : String) : toSmall text = written ↔ text = written := by
  obtain ⟨forms, small, each⟩ := toSmall_forms text
  rw [← String.toList_inj, ← String.toList_inj, small, eq_comm, forms_eq_iff each among, eq_comm]

/-- The small letters of a text end with a mark exactly if the text does. -/
theorem getLast?_toSmall_iff {mark : Char} (among : mark ∈ marks) (text : String) :
    (toSmall text).toList.getLast? = some mark ↔ text.toList.getLast? = some mark := by
  obtain ⟨forms, small, each⟩ := toSmall_forms text
  rw [small, getLast?_forms_iff each among]

/-- A backslash after the neighbours of a character is neither a letter nor passed over. -/
theorem meetsCased_backslash (neighbours : List Char) :
    meetsCased (neighbours ++ ['\\']) = meetsCased neighbours := by
  have bare : isCaseIgnorable '\\' = false ∧ isCased '\\' = false := by decide +kernel
  unfold meetsCased
  -- The search for a letter ends before the backslash, or at it without one.
  induction neighbours with
  | nil => simp [bare.1, bare.2]
  | cons c rest ih =>
    by_cases passed : isCaseIgnorable c = true
    · simpa [passed] using ih
    · simp [passed]

/-- A backslash at the end of a text is still there in small letters, and changes nothing else. -/
theorem smallFormsAfter_backslash (before chars : List Char) :
    smallFormsAfter before (chars ++ ['\\']) = smallFormsAfter before chars ++ ['\\'] := by
  -- The separator is at the end, so only the last character's context could see it.
  induction chars generalizing before with
  | nil =>
    have own : smallForm '\\' = ['\\'] := by decide
    simp [smallFormsAfter, own]
  | cons c rest ih =>
    simp only [List.cons_append, smallFormsAfter, meetsCased_backslash, ih, List.append_assoc]

/-- A backslash at the end of a text is still there in small letters. -/
theorem toSmall_backslash (text : String) : toSmall (text ++ "\\") = toSmall text ++ "\\" := by
  rw [toSmall, String.toList_append]
  have one : "\\".toList = ['\\'] := rfl
  rw [one, smallFormsAfter_backslash, String.ofList_append]
  rfl

end AutomationIndex.Text
