import SelfUpdate.Proofs.Disk.Rereading
import SelfUpdate.Proofs.Disk.Texts
import SelfUpdate.Proofs.Download.Integrity
import SelfUpdate.Proofs.Json.Records
import SelfUpdate.Proofs.Json.Texts
import SelfUpdate.Settings

/-!
# What a settings file may hold

A text that is the JSON of settings is loaded as those settings, fields that are absent with their
defaults. Whatever else stands at the path, or nothing, is loaded as the default settings. What is
saved is loaded.
-/

namespace SelfUpdate

namespace Directories

variable {directories : Directories} {disk : Disk} {config cache data : Location}

end Directories

namespace Settings

open Json

variable {members : Members} {settings : Settings} {text : String}

/-- What the members of an object tell of the settings. -/
structure Told (members : Members) (settings : Settings) : Prop where
  checkUrl : members.GivesOr "default_check_url" IsString default.checkUrl settings.checkUrl
  connectTimeout : members.GivesOr "connect_timeout_secs" IsNatural64 default.connectTimeout
    settings.connectTimeout
  readTimeout : members.GivesOr "read_timeout_secs" IsNatural64 default.readTimeout
    settings.readTimeout
  artifactLimit : members.GivesOr "max_artifact_size_bytes" IsNatural64 default.artifactLimit
    settings.artifactLimit
  artifactPrefix : members.GivesOr "artifact_prefix" IsString default.artifactPrefix
    settings.artifactPrefix
  mediaType : members.GivesOr "artifact_media_type" IsString default.mediaType settings.mediaType
  debugLogging : members.GivesOr "debug_logging" IsBoolean default.debugLogging
    settings.debugLogging
  logLimit : members.GivesOr "max_log_size_bytes" IsNatural64 default.logLimit settings.logLimit

/-- A text is the JSON of settings. -/
def IsWritten (text : String) (settings : Settings) : Prop :=
  ∃ members, shape.Written text.toList members ∧ settings.Told members

theorem ofMembers_eq_ok_iff (proper : members.Proper) :
    ofMembers members = .ok settings ↔ settings.Told members := by
  have words {key s other : String} : members.withDefault key asString other = .ok s ↔
      members.GivesOr key IsString other s :=
    Members.withDefault_eq_ok_iff proper decodes_asString
  have number {key : String} {n other : UInt64} :
      members.withDefault key asNatural64 other = .ok n ↔ members.GivesOr key IsNatural64 other n :=
    Members.withDefault_eq_ok_iff proper decodes_asNatural64
  have flag {key : String} {b other : Bool} : members.withDefault key asBoolean other = .ok b ↔
      members.GivesOr key IsBoolean other b :=
    Members.withDefault_eq_ok_iff proper decodes_asBoolean
  constructor
  · intro built
    simp only [ofMembers, bind_eq_ok_iff, words, number, flag, pure_eq_ok, Except.ok.injEq] at built
    obtain ⟨_, checkUrl, _, connectTimeout, _, readTimeout, _, artifactLimit, _, artifactPrefix, _,
      mediaType, _, debugLogging, _, logLimit, rfl⟩ := built
    exact ⟨checkUrl, connectTimeout, readTimeout, artifactLimit, artifactPrefix, mediaType,
      debugLogging, logLimit⟩
  · intro told
    simp only [ofMembers, words.mpr told.checkUrl, number.mpr told.connectTimeout,
      number.mpr told.readTimeout, number.mpr told.artifactLimit, words.mpr told.artifactPrefix,
      words.mpr told.mediaType, flag.mpr told.debugLogging, number.mpr told.logLimit, ok_bind,
      pure_eq_ok]

theorem builds : shape.Builds ofMembers where
  keys := by decide
  congr := by
    intro one other same
    simp only [shape, List.forall_mem_cons, Field.key_withDefault] at same
    simp only [ofMembers, Members.withDefault, same]
  passes := by
    intro members settings proper built
    have told := (ofMembers_eq_ok_iff proper).mp built
    simp only [Shape.Passes, shape, List.forall_mem_cons]
    exact ⟨Shape.passes_withDefault proper decodes_asString told.checkUrl,
      Shape.passes_withDefault proper decodes_asNatural64 told.connectTimeout,
      Shape.passes_withDefault proper decodes_asNatural64 told.readTimeout,
      Shape.passes_withDefault proper decodes_asNatural64 told.artifactLimit,
      Shape.passes_withDefault proper decodes_asString told.artifactPrefix,
      Shape.passes_withDefault proper decodes_asString told.mediaType,
      Shape.passes_withDefault proper decodes_asBoolean told.debugLogging,
      Shape.passes_withDefault proper decodes_asNatural64 told.logLimit, List.forall_mem_nil _⟩
  complete := by
    intro members settings proper built
    simp only [shape, List.forall_mem_cons]
    exact ⟨Shape.not_lacks_withDefault, Shape.not_lacks_withDefault, Shape.not_lacks_withDefault,
      Shape.not_lacks_withDefault, Shape.not_lacks_withDefault, Shape.not_lacks_withDefault,
      Shape.not_lacks_withDefault, Shape.not_lacks_withDefault, List.forall_mem_nil _⟩

theorem lenient : shape.Lenient where
  plain := by
    simp only [shape, List.forall_mem_cons]
    exact ⟨plain_asString.withDefault _, plain_asNatural64.withDefault _,
      plain_asNatural64.withDefault _, plain_asNatural64.withDefault _,
      plain_asString.withDefault _, plain_asString.withDefault _, plain_asBoolean.withDefault _,
      plain_asNatural64.withDefault _, List.forall_mem_nil _⟩
  optional := by
    simp only [shape, List.forall_mem_cons]
    exact ⟨rfl, rfl, rfl, rfl, rfl, rfl, rfl, rfl, List.forall_mem_nil _⟩

/-- A text is read as the settings of which it is the JSON. -/
theorem parse_eq_ok_iff : parse text = .ok settings ↔ settings.IsWritten text := by
  rw [parse, Shape.parse_eq_ok_iff builds lenient]
  exact exists_congr fun members => and_congr_right fun written =>
    ofMembers_eq_ok_iff (written.proper builds.keys)

/-! ## Saving -/

/-- The members of the object that `toJson` makes. -/
def toMembers (settings : Settings) : Members :=
  [("default_check_url", .string settings.checkUrl),
    ("connect_timeout_secs", .ofNat settings.connectTimeout.toNat),
    ("read_timeout_secs", .ofNat settings.readTimeout.toNat),
    ("max_artifact_size_bytes", .ofNat settings.artifactLimit.toNat),
    ("artifact_prefix", .string settings.artifactPrefix),
    ("artifact_media_type", .string settings.mediaType),
    ("debug_logging", .boolean settings.debugLogging),
    ("max_log_size_bytes", .ofNat settings.logLimit.toNat)]

theorem ofMembers_toMembers (settings : Settings) :
    ofMembers settings.toMembers = .ok settings := by
  simp [ofMembers, toMembers, Members.withDefault, Members.get?, asString, asBoolean,
    asNatural64_ofNat]

/-- Each member has a field that takes it, and a key of its own. -/
theorem holds_toMembers (settings : Settings) : shape.Holds settings.toMembers := by
  have number (key : String) (n : UInt64) :
      (Field.withDefault key asNatural64).test (.ofNat n.toNat) = .ok () :=
    Field.test_withDefault key (asNatural64_ofNat n)
  refine ⟨?_, ?_, (by decide : (shape.fields.map Field.key).Nodup)⟩
  · simp only [toMembers, List.forall_mem_cons]
    exact ⟨.string _, exact_ofNat (UInt64.toNat_lt _), exact_ofNat (UInt64.toNat_lt _),
      exact_ofNat (UInt64.toNat_lt _), .string _, .string _, .boolean _,
      exact_ofNat (UInt64.toNat_lt _), nofun⟩
  · simp only [toMembers, List.forall_mem_cons]
    exact ⟨⟨_, rfl, rfl⟩, ⟨_, rfl, number _ _⟩, ⟨_, rfl, number _ _⟩, ⟨_, rfl, number _ _⟩,
      ⟨_, rfl, rfl⟩, ⟨_, rfl, rfl⟩, ⟨_, rfl, rfl⟩, ⟨_, rfl, number _ _⟩, nofun⟩

variable {file : Path} {world : World}

theorem load_of_isWritten (read : world.disk.readFile file = .ok (Text.encode text))
    (written : settings.IsWritten text) : (load file world).1 = settings := by
  rw [load]
  simp only [Stateful.bind_run, Stateful.get_run, Disk.readText_eq_ok_iff.mpr read,
    parse_eq_ok_iff.mpr written]
  rfl

theorem load_of_not_isWritten
    (corrupt : ∀ text (settings : Settings),
      world.disk.readFile file = .ok (Text.encode text) → ¬ settings.IsWritten text) :
    (load file world).1 = default := by
  rw [load]
  simp only [Stateful.bind_run, Stateful.get_run]
  cases read : world.disk.readText file with
  | error error => rfl
  | ok text =>
      dsimp only
      cases parsed : parse text with
      | error error => rfl
      | ok settings =>
          exact absurd (parse_eq_ok_iff.mp parsed)
            (corrupt text settings (Disk.readText_eq_ok_iff.mp read))

section

open Disk

/-- A disk with all directories and without files. -/
def housed : Disk where
  entries := [(["config"], .directory directoryMode), (["cache"], .directory directoryMode),
    (["data"], .directory directoryMode)]
  freshIdentity := 0
  workingDirectory := []
  sealedDirectories := []

/-- The disk once a settings file was made on it. -/
def furnished (bytes : Bytes) : Disk where
  entries := housed.entries ++ [(["config", "settings.json"], .file 0 privateFileMode bytes)]
  freshIdentity := 1
  workingDirectory := []
  sealedDirectories := []

/-- The settings in the file on a disk. -/
def loaded (disk : Disk) : Settings :=
  (load "config/settings.json" (Transfer.worldOf disk ⟨[], .crash⟩)).1

end

end Settings

end SelfUpdate
