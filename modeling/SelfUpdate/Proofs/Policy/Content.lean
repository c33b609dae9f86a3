import SelfUpdate.Proofs.Json.Texts
import SelfUpdate.Proofs.Manager.Persistence

/-!
# What a policy file may hold

A text that is the JSON of a policy is loaded as that policy, fields that are absent with their
defaults, and every other text as the default policy. Octets that are no text are an error.
-/

namespace SelfUpdate

namespace Policy

open Json

variable {members : Members} {policy : Policy} {text : String}

/-- What the members of an object tell of a policy. -/
structure Told (members : Members) (policy : Policy) : Prop where
  lastCheck : members.GivesOr "last_update_check" IsInteger64 0 policy.lastCheck
  autoCheck : members.GivesOr "auto_update_check" IsBoolean true policy.autoCheck
  dismissed : members.GivesOr "dismissed_update_version" (OrNull IsNatural32) none policy.dismissed
  customUrl : members.GivesOr "update_check_url" (OrNull IsString) none policy.customUrl

/-- A text is the JSON of a policy. -/
def IsWritten (text : String) (policy : Policy) : Prop :=
  ∃ members, shape.Written text.toList members ∧ policy.Told members

theorem ofMembers_eq_ok_iff (proper : members.Proper) :
    ofMembers members = .ok policy ↔ policy.Told members := by
  constructor
  · intro built
    obtain ⟨lastCheck, first, built⟩ := bind_eq_ok_iff.mp built
    obtain ⟨autoCheck, second, built⟩ := bind_eq_ok_iff.mp built
    obtain ⟨dismissed, third, built⟩ := bind_eq_ok_iff.mp built
    obtain ⟨customUrl, fourth, built⟩ := bind_eq_ok_iff.mp built
    cases built
    exact {
      lastCheck := (Members.withDefault_eq_ok_iff proper decodes_asInteger64).mp first
      autoCheck := (Members.withDefault_eq_ok_iff proper decodes_asBoolean).mp second
      dismissed := (Members.withDefault_eq_ok_iff proper decodes_natural32OrNull).mp third
      customUrl := (Members.withDefault_eq_ok_iff proper decodes_stringOrNull).mp fourth }
  · intro told
    have lastCheck := (Members.withDefault_eq_ok_iff proper decodes_asInteger64).mpr told.lastCheck
    have autoCheck := (Members.withDefault_eq_ok_iff proper decodes_asBoolean).mpr told.autoCheck
    have dismissed :=
      (Members.withDefault_eq_ok_iff proper decodes_natural32OrNull).mpr told.dismissed
    have customUrl := (Members.withDefault_eq_ok_iff proper decodes_stringOrNull).mpr told.customUrl
    simp only [ofMembers, default, lastCheck, autoCheck, dismissed, customUrl, ok_bind, pure_eq_ok]

theorem builds : shape.Builds ofMembers where
  keys := by decide
  congr := by
    intro one other same
    simp only [shape, List.forall_mem_cons, Field.key_withDefault] at same
    simp only [ofMembers, Members.withDefault, same]
  passes := by
    intro members policy proper built
    have told := (ofMembers_eq_ok_iff proper).mp built
    simp only [Shape.Passes, shape, List.forall_mem_cons]
    exact ⟨Shape.passes_withDefault proper decodes_asInteger64 told.lastCheck,
      Shape.passes_withDefault proper decodes_asBoolean told.autoCheck,
      Shape.passes_withDefault proper decodes_natural32OrNull told.dismissed,
      Shape.passes_withDefault proper decodes_stringOrNull told.customUrl, List.forall_mem_nil _⟩
  complete := by
    intro members policy proper built
    simp only [shape, List.forall_mem_cons]
    exact ⟨Shape.not_lacks_withDefault, Shape.not_lacks_withDefault, Shape.not_lacks_withDefault,
      Shape.not_lacks_withDefault, List.forall_mem_nil _⟩

theorem lenient : shape.Lenient where
  plain := by
    simp only [shape, List.forall_mem_cons]
    exact ⟨plain_asInteger64.withDefault _, plain_asBoolean.withDefault _,
      plain_asNatural32.orNull.withDefault _, plain_asString.orNull.withDefault _,
      List.forall_mem_nil _⟩
  optional := by
    simp only [shape, List.forall_mem_cons]
    exact ⟨rfl, rfl, rfl, rfl, List.forall_mem_nil _⟩

/-- A text is read as the policy of which it is the JSON. -/
theorem parse_eq_ok_iff : parse text = .ok policy ↔ policy.IsWritten text := by
  rw [parse, Shape.parse_eq_ok_iff builds lenient]
  exact exists_congr fun members => and_congr_right fun written =>
    ofMembers_eq_ok_iff (written.proper builds.keys)

end Policy

namespace PolicyStore

variable {world : World} {path : Path} {bytes : Bytes} {text : String} {policy : Policy}

theorem load_of_isWritten (read : world.disk.readFile path = .ok (Text.encode text))
    (written : policy.IsWritten text) : ((file path).load world).1 = .ok policy := by
  have stored : policy.IsStored world.disk path :=
    ⟨_, text, read, Text.decode?_encode text, Policy.parse_eq_ok_iff.mpr written⟩
  rw [load_of_isStored stored]

theorem load_of_not_isWritten (read : world.disk.readFile path = .ok (Text.encode text))
    (corrupt : ∀ policy : Policy, ¬ policy.IsWritten text) :
    ((file path).load world).1 = .ok .default := by
  rw [load, loadFile]
  simp only [Stateful.bind_run, Stateful.get_run, Disk.readText_eq_ok_iff.mpr read]
  cases parsed : Policy.parse text with
  | ok policy => exact absurd (Policy.parse_eq_ok_iff.mp parsed) (corrupt policy)
  | error error => rfl

theorem load_of_binary (read : world.disk.readFile path = .ok bytes)
    (binary : ∀ text, bytes ≠ Text.encode text) :
    ((file path).load world).1 = .error (.read path .notUtf8) := by
  rw [load, loadFile]
  simp only [Stateful.bind_run, Stateful.get_run, Disk.readText_of_binary read binary]
  rfl

/-- A policy file with text in it is loaded as the policy that the text tells, or as the default
policy when it tells none; one with other octets is refused. What was saved is loaded. -/
theorem load_tolerates (path : Path) :
    (∀ (world : World) (bytes : Bytes), world.disk.readFile path = .ok bytes →
      (∀ text, bytes = Text.encode text →
        (∀ policy : Policy, policy.IsWritten text → ((file path).load world).1 = .ok policy) ∧
        ((∀ policy : Policy, ¬ policy.IsWritten text) →
          ((file path).load world).1 = .ok .default)) ∧
      ((∀ text, bytes ≠ Text.encode text) →
        ((file path).load world).1 = .error (.read path .notUtf8))) ∧
    ∀ (world : World) (policy : Policy), world.disk.IsTree →
      (world.disk.prepared path).Straight path →
      ((file path).save policy world).1.1 = .ok () →
      ((file path).load ((file path).save policy world).2).1 = .ok policy := by
  refine ⟨fun world bytes read => ⟨?_, load_of_binary read⟩,
    fun world policy tree straight saved => ?_⟩
  · rintro text rfl
    exact ⟨fun policy => load_of_isWritten read, load_of_not_isWritten read⟩
  · rw [load_of_isStored (isStored_of_save tree straight saved)]

/-- The world in which the policy file has the given content. -/
def holding (bytes : Bytes) : World :=
  Transfer.worldOf (Manager.storedDisk bytes) Transfer.oneChunk

theorem readFile_holding (bytes : Bytes) :
    (holding bytes).disk.readFile "policy.json" = .ok bytes := by
  have replaced := Manager.replaceFile_privateDisk bytes
  have read := Disk.readFile_replaceFile Manager.privateDisk_isTree
    (Manager.privateDisk_linkFree.straight_prepared "policy.json") (congrArg Prod.fst replaced)
  rwa [replaced] at read

/-- A policy that differs from the default one in every field. -/
def dismissive : Policy := ⟨-1, false, some 4294967295, some "https://m/\"\n"⟩

/-- Fields that are absent have their defaults, one field of the wrong type makes all of them count
for nothing, and what was saved is loaded. -/
theorem load_tolerates_partial :
    ((file "policy.json").load (holding (Text.encode
        "\x7b\"auto_update_check\":false,\"new\":[1]\x7d"))).1 =
      .ok ⟨0, false, none, none⟩ ∧
    ((file "policy.json").load (holding (Text.encode
        "\x7b\"last_update_check\":5,\"auto_update_check\":1\x7d"))).1 = .ok .default ∧
    ((file "policy.json").load ((file "policy.json").save dismissive
        (Transfer.worldOf Manager.privateDisk Transfer.oneChunk)).2).1 = .ok dismissive := by
  obtain ⟨content, saving⟩ := load_tolerates "policy.json"
  refine ⟨?_, ?_, ?_⟩
  · have told := ((content _ _ (readFile_holding _)).1
      "\x7b\"auto_update_check\":false,\"new\":[1]\x7d" rfl).1 ⟨0, false, none, none⟩
    exact told (Policy.parse_eq_ok_iff.mp rfl)
  · have refused := ((content _ _ (readFile_holding _)).1
      "\x7b\"last_update_check\":5,\"auto_update_check\":1\x7d" rfl).2
    refine refused fun policy written => ?_
    cases Policy.parse_eq_ok_iff.mpr written
  · refine saving _ dismissive Manager.privateDisk_isTree
      (Manager.privateDisk_linkFree.straight_prepared _) ?_
    have disk : (Transfer.worldOf Manager.privateDisk Transfer.oneChunk).disk =
      Manager.privateDisk := rfl
    rw [(save_file _ _ _).1, disk, Manager.replaceFile_privateDisk]
    rfl

/-- A file that is no text is not taken for a corrupt one. -/
theorem binary_policy_refused : (holding [0xff]).disk.readFile "policy.json" = .ok [0xff] ∧
    ∀ policy, ((file "policy.json").load (holding [0xff])).1 ≠ .ok policy := by
  refine ⟨readFile_holding [0xff], fun policy loaded => ?_⟩
  have binary : ∀ text, [0xff] ≠ Text.encode text := by
    intro text same
    have undecoded : Text.decode? [0xff] = none := by decide
    rw [same, Text.decode?_encode] at undecoded
    cases undecoded
  rw [load_of_binary (readFile_holding [0xff]) binary] at loaded
  cases loaded

end PolicyStore

end SelfUpdate
