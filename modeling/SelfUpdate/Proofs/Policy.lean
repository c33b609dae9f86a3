import SelfUpdate.Policy
import SelfUpdate.Proofs.Disk.Rereading
import SelfUpdate.Proofs.Disk.Texts
import SelfUpdate.Proofs.Json.Fields
import SelfUpdate.Proofs.Json.Records
import SelfUpdate.Proofs.World

/-!
# Policies in files

Every policy is read back from the text of its file, whatever the time, the release and the address in
it, and what a store has saved is what it loads.
-/

namespace SelfUpdate

namespace Json

/-- An optional number, for which null stands when it is absent. -/
def ofOption (n : Option UInt32) : Value := (n.map fun n => Value.ofNat n.toNat).getD .null

theorem orNull_ofOption (n : Option UInt32) : orNull asNatural32 (ofOption n) = .ok n := by
  cases n with
  | none => rfl
  | some n =>
      change (asNatural32 (.ofNat n.toNat)).map some = _
      rw [asNatural32_ofNat, map_ok]

theorem exact_ofOption (n : Option UInt32) : (ofOption n).Exact := by
  cases n with
  | none => exact .null
  | some n => exact exact_ofNat (Nat.lt_trans n.toNat_lt (by decide))

end Json

namespace Policy

open Json

theorem toMembers_eq (policy : Policy) :
    policy.toMembers = [("last_update_check", .ofInt policy.lastCheck.toInt),
      ("auto_update_check", .boolean policy.autoCheck),
      ("dismissed_update_version", ofOption policy.dismissed)] ++
        (policy.customUrl.map fun url => ("update_check_url", Value.string url)).toList :=
  rfl

variable (policy : Policy)

theorem ofMembers_toMembers : ofMembers policy.toMembers = .ok policy := by
  obtain ⟨lastCheck, autoCheck, dismissed, customUrl⟩ := policy
  rw [toMembers_eq]
  cases customUrl with
  | none => simp [ofMembers, Members.withDefault, Members.get?, asInteger64_ofInt, asBoolean,
      orNull_ofOption]
  | some url => simp [ofMembers, Members.withDefault, Members.get?, asInteger64_ofInt, asBoolean,
      orNull_ofOption, orNull_string]

/-- Each member has a field that takes it, and a key of its own. -/
theorem holds_toMembers : shape.Holds policy.toMembers := by
  obtain ⟨lastCheck, autoCheck, dismissed, customUrl⟩ := policy
  have time := Field.test_withDefault "last_update_check" (asInteger64_ofInt lastCheck)
  have code := Field.test_withDefault "dismissed_update_version" (orNull_ofOption dismissed)
  rw [toMembers_eq]
  cases customUrl with
  | none =>
      refine ⟨?_, ?_, (by decide : ["last_update_check", "auto_update_check",
        "dismissed_update_version"].Nodup)⟩
      · simp only [Option.map_none, Option.toList_none, List.append_nil, List.forall_mem_cons]
        exact ⟨exact_ofInt _, .boolean _, exact_ofOption _, nofun⟩
      · simp only [Option.map_none, Option.toList_none, List.append_nil, List.forall_mem_cons]
        exact ⟨⟨_, rfl, time⟩, ⟨_, rfl, rfl⟩, ⟨_, rfl, code⟩, nofun⟩
  | some url =>
      refine ⟨?_, ?_, (by decide : ["last_update_check", "auto_update_check",
        "dismissed_update_version", "update_check_url"].Nodup)⟩
      · simp only [Option.map_some, Option.toList_some, List.cons_append, List.nil_append,
          List.forall_mem_cons]
        exact ⟨exact_ofInt _, .boolean _, exact_ofOption _, .string url, nofun⟩
      · simp only [Option.map_some, Option.toList_some, List.cons_append, List.nil_append,
          List.forall_mem_cons]
        exact ⟨⟨_, rfl, time⟩, ⟨_, rfl, rfl⟩, ⟨_, rfl, code⟩, ⟨_, rfl, rfl⟩, nofun⟩

/-- Every policy is read back from the text of its file. -/
theorem parse_fileText : parse policy.fileText = .ok policy :=
  parse_indented policy.holds_toMembers policy.ofMembers_toMembers rfl

/-- The file at a path decodes to a policy. -/
def IsStored (disk : Disk) (path : Path) : Prop :=
  ∃ bytes text, disk.readFile path = .ok bytes ∧ Text.decode? bytes = some text ∧
    parse text = .ok policy

variable {policy} {disk after : Disk} {path : Path}

theorem IsStored.of_read (read : disk.readFile path = .ok (Text.encode policy.fileText)) :
    policy.IsStored disk path :=
  ⟨_, _, read, Text.decode?_encode _, policy.parse_fileText⟩

theorem IsStored.of_readText {text : String} (read : disk.readText path = .ok text)
    (parsed : parse text = .ok policy) : policy.IsStored disk path :=
  ⟨_, text, Disk.readText_eq_ok_iff.mp read, Text.decode?_encode text, parsed⟩

theorem IsStored.mono (stored : policy.IsStored disk path)
    (kept : Disk.KeepsFile path disk after) : policy.IsStored after path := by
  obtain ⟨bytes, text, read, decoded, parsed⟩ := stored
  exact ⟨bytes, text, kept bytes read, decoded, parsed⟩

end Policy

namespace PolicyStore

variable {policy : Policy} {path : Path} {world : World}

/-- A store loads the policy that its file decodes to, and changes nothing. -/
theorem load_of_isStored (stored : policy.IsStored world.disk path) :
    (file path).load world = (.ok policy, world) := by
  obtain ⟨bytes, text, read, decoded, parsed⟩ := stored
  rw [Text.decode?_eq_some_iff] at decoded
  have read : world.disk.readText path = .ok text := Disk.readText_eq_ok_iff.mpr (decoded ▸ read)
  rw [load, loadFile]
  simp only [Stateful.bind_run, Stateful.get_run, read, parsed]
  rfl

/-- Saving replaces the file by the text of the policy. -/
theorem save_file (path : Path) (policy : Policy) (world : World) :
    ((file path).save policy world).1.1 =
        (Disk.replaceFile path (Text.encode policy.fileText) world.disk).1.mapError (.write path) ∧
      ((file path).save policy world).1.2 = file path ∧
      ((file path).save policy world).2 =
        world.setDisk (Disk.replaceFile path (Text.encode policy.fileText) world.disk).2 :=
  ⟨rfl, rfl, rfl⟩

/-- What a store has saved is what it loads. -/
theorem isStored_of_save (tree : world.disk.IsTree)
    (straight : (world.disk.prepared path).Straight path)
    (saved : ((file path).save policy world).1.1 = .ok ()) :
    policy.IsStored ((file path).save policy world).2.disk path := by
  obtain ⟨result, -, later⟩ := save_file path policy world
  rw [result] at saved
  rw [later, World.disk_setDisk]
  refine .of_read (Disk.readFile_replaceFile tree straight ?_)
  cases replaced : (Disk.replaceFile path (Text.encode policy.fileText) world.disk).1 with
  | ok done => rfl
  | error error =>
      rw [replaced] at saved
      cases saved

/-- When it cannot save a policy a store leaves all files as they were. -/
theorem spares_of_save {error : PolicyError} (tree : world.disk.IsTree)
    (failed : ((file path).save policy world).1.1 = .error error) :
    Disk.Spares world.disk ((file path).save policy world).2.disk := by
  obtain ⟨result, -, later⟩ := save_file path policy world
  rw [result] at failed
  rw [later, World.disk_setDisk]
  cases replaced : (Disk.replaceFile path (Text.encode policy.fileText) world.disk).1 with
  | ok done =>
      rw [replaced] at failed
      cases failed
  | error error => exact Disk.replaceFile_spares tree replaced

end PolicyStore

end SelfUpdate
