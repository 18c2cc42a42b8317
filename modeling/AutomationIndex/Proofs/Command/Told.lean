import AutomationIndex.Command.Output
import AutomationIndex.Proofs.Json.RoundTrip

/-! The JSON that the commands print: it holds texts and flags only, and no key twice, so all of it
is read back. -/

namespace AutomationIndex

open Json (IsTold)

section

variable {α : Type} {told : α → Json}

/-- A list is told in full if each of its items is. -/
theorem isTold_map (each : ∀ item, IsTold (told item)) (items : List α) :
    IsTold (.list (items.map told)) := by
  refine .list fun value member => ?_
  obtain ⟨item, -, rfl⟩ := List.mem_map.mp member
  exact each item

/-- What may be missing is told in full if it is where it is there. -/
theorem isTold_getD (each : ∀ item, IsTold (told item)) (value : Option α) :
    IsTold ((value.map told).getD .null) := by
  cases value with
  | none => exact .null
  | some item => exact each item

end

/-- An optional flag is told in full. -/
theorem isTold_optionalFlag (flag : Option Bool) : IsTold (optionalFlag flag) := by
  cases flag with
  | none => exact .null
  | some flag => exact .bool flag

/-- A declared object is told in full. -/
theorem ChildObject.isTold (object : ChildObject) : IsTold object.toJson := by
  refine .object (by simp) ?_
  simp only [List.forall_mem_cons]
  exact ⟨.text _, .text _, .optionalText _, .bool _, .optionalText _, List.forall_mem_nil _⟩

/-- A package is told in full, whatever its role adds to what all packages have. -/
theorem PackageFile.isTold (p : PackageFile) {key : String} {value : Json}
    (new : key ∉ p.fields.map (·.1)) (told : IsTold value) :
    IsTold (.object (p.fields ++ [(key, value)])) := by
  refine .object ?_ fun field member => ?_
  -- The added key is new, and the fields of the file have distinct keys already.
  · rw [List.map_append, List.nodup_append]
    refine ⟨by simp [fields], by simp, ?_⟩
    intro first among last added same
    rw [List.map_singleton, List.mem_singleton] at added
    exact new (by rwa [same, added] at among)
  · have own : ∀ field ∈ p.fields, IsTold field.2 := by
      simp only [fields, List.forall_mem_cons]
      exact ⟨.text _, .text _, .optionalText _, isTold_map ChildObject.isTold _,
        List.forall_mem_nil _⟩
    rcases List.mem_append.mp member with first | last
    · exact own field first
    · rw [List.mem_singleton.mp last]
      exact told

/-- Build settings are told in full. -/
theorem BuildSettings.isTold (build : BuildSettings) : IsTold build.toJson := by
  refine .object (by simp) ?_
  simp only [List.forall_mem_cons]
  exact ⟨.optionalText _, .texts _, .texts _, .texts _, .texts _, .optionalText _,
    List.forall_mem_nil _⟩

/-- The settings of a controller are told in full. -/
theorem CpuSettings.isTold (settings : CpuSettings) : IsTold settings.toJson := by
  refine .object (by simp) ?_
  simp only [List.forall_mem_cons]
  exact ⟨.optionalText _, .optionalText _, isTold_getD BuildSettings.isTold _,
    List.forall_mem_nil _⟩

/-- A configuration is told in full. -/
theorem Configuration.isTold (c : Configuration) : IsTold c.toJson := by
  -- Both package files are told with one field of their own added.
  have package : IsTold c.package.toJson :=
    c.package.isTold (by simp [PackageFile.fields]) (.text _)
  have cpu : IsTold c.cpu.toJson :=
    c.cpu.isTold (by simp [PackageFile.fields]) (CpuSettings.isTold _)
  refine .object (by simp) ?_
  simp only [List.forall_mem_cons]
  exact ⟨.text _, .text _, .optionalText _, .text _, .optionalText _, package, cpu,
    List.forall_mem_nil _⟩

/-- A project descriptor is told in full. -/
theorem Descriptor.isTold (d : Descriptor) : IsTold d.toJson := by
  refine .object (by simp) ?_
  simp only [List.forall_mem_cons]
  exact ⟨.text _, .optionalText _, .optionalText _, .optionalText _, .optionalText _,
    .optionalText _, isTold_optionalFlag _, List.forall_mem_nil _⟩

/-- A project is told in full. -/
theorem Project.isTold (p : Project) : IsTold p.toJson := by
  refine .object (by simp) ?_
  simp only [List.forall_mem_cons]
  exact ⟨.text _, .text _, Descriptor.isTold _, .optionalText _, isTold_map Configuration.isTold _,
    List.forall_mem_nil _⟩

/-- Build information is told in full. -/
theorem BuildInfo.isTold (info : BuildInfo) : IsTold info.toJson := by
  refine .object (by simp) ?_
  simp only [List.forall_mem_cons]
  exact ⟨.text _, .text _, .optionalText _, .optionalText _, .texts _, .texts _,
    List.forall_mem_nil _⟩

namespace Command

/-- What is known about a location is told in full. -/
theorem isTold_locationJson (l : Location) (p : Project) (info : Option BuildInfo) :
    IsTold (locationJson l p info) := by
  refine .object (by simp) ?_
  simp only [List.forall_mem_cons]
  exact ⟨.text _, .text _, .text _, .optionalText _, isTold_getD BuildInfo.isTold _,
    List.forall_mem_nil _⟩

/-- A value that is told in full is read back from the lines that print it. -/
theorem read_printed {value : Json} (told : IsTold value) (printed : Printed) :
    Json.read (succeed true value printed).output.toList = .ok value := by
  -- The printed line is the written value and a line end, which is blank.
  have line : (succeed true value printed).output.toList =
      (Json.write Json.indented 0 value).toList ++ ['\n'] := by
    rw [succeed, if_pos rfl]
    exact String.toList_append
  rw [line]
  exact Json.read_write Json.indented_isSpaced told 0 (by simp [Json.IsBlank, Text.isSpace])

end Command

end AutomationIndex
