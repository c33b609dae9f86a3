import SelfUpdate.Proofs.Json.Fields
import SelfUpdate.Proofs.Json.Objects
import SelfUpdate.Proofs.Json.Records
import SelfUpdate.Proofs.Manager.Persistence
import SelfUpdate.Proofs.Release.Records
import SelfUpdate.Release.Document

/-!
# Recorded updates

An update that was written is read back as it was, from text and from values, as a record and as a
release document, and at any time. So a release that was recorded is the one that is loaded.
-/

namespace SelfUpdate

open Json

namespace Release.Metadata

variable (metadata : Metadata)

/-! ## Metadata -/

theorem toMembers_eq :
    metadata.toMembers = [("version", .string metadata.version),
      ("versionCode", .ofNat metadata.versionCode.toNat),
      ("downloadUrl", .string metadata.downloadUrl),
      ("sha256Checksum", .string metadata.checksum),
      ("releaseNotes", .string metadata.notes),
      ("fileSize", .ofNat metadata.fileSize.toNat)] ++
        ((metadata.signatureUrl.map fun url => ("signatureUrl", Value.string url)).toList ++
          (metadata.date.map fun date => ("releaseDate", Value.ofInt date.toInt)).toList) :=
  rfl

/-- What holds of the six members that are always there, and of the two others, holds of all. -/
theorem forall_toMembers {P : String × Value → Prop}
    (version : P ("version", .string metadata.version))
    (code : P ("versionCode", .ofNat metadata.versionCode.toNat))
    (url : P ("downloadUrl", .string metadata.downloadUrl))
    (checksum : P ("sha256Checksum", .string metadata.checksum))
    (notes : P ("releaseNotes", .string metadata.notes))
    (size : P ("fileSize", .ofNat metadata.fileSize.toNat))
    (signature : ∀ url, P ("signatureUrl", .string url))
    (date : ∀ date : Int64, P ("releaseDate", .ofInt date.toInt)) :
    ∀ member ∈ metadata.toMembers, P member := by
  intro member listed
  rw [toMembers_eq, List.mem_append, List.mem_append] at listed
  rcases listed with always | signed | dated
  · simp only [List.mem_cons, List.not_mem_nil, or_false] at always
    rcases always with rfl | rfl | rfl | rfl | rfl | rfl <;> assumption
  · obtain ⟨url, -, rfl⟩ := Option.map_eq_some_iff.mp (Option.mem_toList.mp signed)
    exact signature url
  · obtain ⟨time, -, rfl⟩ := Option.map_eq_some_iff.mp (Option.mem_toList.mp dated)
    exact date time

theorem distinct_toMembers : (metadata.toMembers.map Prod.fst).Nodup := by
  obtain ⟨version, code, url, checksum, notes, size, signature, date⟩ := metadata
  cases signature with
  | none =>
      cases date with
      | none => exact (by decide : ["version", "versionCode", "downloadUrl", "sha256Checksum",
          "releaseNotes", "fileSize"].Nodup)
      | some date => exact (by decide : ["version", "versionCode", "downloadUrl", "sha256Checksum",
          "releaseNotes", "fileSize", "releaseDate"].Nodup)
  | some signature =>
      cases date with
      | none => exact (by decide : ["version", "versionCode", "downloadUrl", "sha256Checksum",
          "releaseNotes", "fileSize", "signatureUrl"].Nodup)
      | some date => exact (by decide : ["version", "versionCode", "downloadUrl", "sha256Checksum",
          "releaseNotes", "fileSize", "signatureUrl", "releaseDate"].Nodup)

/-- Each member has a field that takes it, and a key of its own. -/
theorem holds_toMembers : shape.Holds metadata.toMembers where
  exact := by
    refine metadata.forall_toMembers (.string _) ?_ (.string _) (.string _) (.string _) ?_
      (fun _ => .string _) exact_ofInt
    · exact exact_ofNat (Nat.lt_trans metadata.versionCode.toNat_lt (by decide))
    · exact exact_ofNat metadata.fileSize.toNat_lt
  known := by
    refine metadata.forall_toMembers ⟨_, rfl, rfl⟩ ⟨_, rfl, ?_⟩ ⟨_, rfl, rfl⟩ ⟨_, rfl, rfl⟩
      ⟨_, rfl, rfl⟩ ⟨_, rfl, ?_⟩ (fun _ => ⟨_, rfl, rfl⟩) fun date => ⟨_, rfl, ?_⟩
    · exact Field.test_required _ (asNatural32_ofNat metadata.versionCode)
    · exact Field.test_withDefault _ (asNatural64_ofNat metadata.fileSize)
    · exact Field.test_withDefault _ (orNull_ofInt date)
  distinct := metadata.distinct_toMembers

theorem ofMembers_toMembers : ofMembers metadata.toMembers = .ok metadata := by
  obtain ⟨version, code, url, checksum, notes, size, signature, date⟩ := metadata
  rw [toMembers_eq]
  cases signature <;> cases date <;>
    simp [ofMembers, Members.required, Members.withDefault, Members.get?, asString,
      asNatural32_ofNat, asNatural64_ofNat, orNull_string, orNull_ofInt]

/-- Metadata depend on what is found under each key, not on the order of the members. -/
theorem ofMembers_congr {members others : Members}
    (same : ∀ key, members.get? key = others.get? key) : ofMembers members = ofMembers others := by
  simp only [ofMembers, Members.required, Members.withDefault, same]

/-- Metadata are decoded from the sorted members of the value that is written for them. -/
theorem decode_sorted : decode (.object (Members.ofText metadata.toMembers)) = .ok metadata := by
  rw [decode, Shape.decode_object fun member listed =>
    metadata.holds_toMembers.known member (Members.mem_of_mem_ofText listed)]
  rw [ofMembers_congr (Members.get?_ofText metadata.distinct_toMembers), ofMembers_toMembers]

/-! ## Documents -/

/-- A document with the members of metadata that were written holds these metadata. -/
theorem document_sorted :
    Document.ofMembers (Members.ofText metadata.toMembers) = .ok (.native metadata) := by
  have found := Members.get?_ofText metadata.distinct_toMembers
  have listed (key : String) : Members.has (Members.ofText metadata.toMembers) key =
      Members.has metadata.toMembers key := Members.has_ofText metadata.distinct_toMembers key
  have untagged : Members.has metadata.toMembers "tag_name" = false := by
    obtain ⟨version, code, url, checksum, notes, size, signature, date⟩ := metadata
    cases signature <;> cases date <;> rfl
  have checksum : Document.hasChecksum (Members.ofText metadata.toMembers) = true := by
    rw [Document.hasChecksum, found]
    rfl
  have complete : Document.requiredFields.find?
      (fun name => !Members.has (Members.ofText metadata.toMembers) name) = none := by
    simp only [listed]
    rfl
  rw [Document.ofMembers, listed, untagged, complete, checksum]
  simp only [Bool.false_eq_true, if_false, if_true, Document.decoded, decode_sorted]
  rfl

/-- The document in which metadata were written, in either form. -/
theorem parse_document {text : String}
    (written : text = metadata.toJson.compact ∨ text = metadata.toJson.indented) :
    Document.parse text = .ok (.native metadata) := by
  have read : Json.parse text = .ok (.object (Members.ofText metadata.toMembers)) := by
    rcases written with rfl | rfl
    · exact parse_compact_object metadata.holds_toMembers.exact
    · exact parse_indented_object metadata.holds_toMembers.exact
  rw [Document.parse, read]
  exact metadata.document_sorted

end Release.Metadata

/-! ## Updates -/

theorem Checksum.isHexText_of_isCanonical {checksum : String}
    (canonical : isCanonical checksum = true) : isHexText checksum = true := by
  rw [isCanonical, Bool.and_eq_true, List.all_eq_true] at canonical
  rw [isHexText, isHex, Bool.and_eq_true, List.all_eq_true]
  refine ⟨canonical.1, fun c listed => ?_⟩
  have digit := canonical.2 c listed
  rw [isLowerHexDigit] at digit
  rw [Text.isHexDigit, digit, Bool.true_or]

namespace Update

variable (update : Update)

/-- What an update says passes the tests again. -/
theorem acceptable_toMetadata : update.toMetadata.Acceptable where
  checksum := by
    change Checksum.isHexText (Text.trim update.checksum) = true
    rw [Checksum.trim_of_isCanonical update.checksum_canonical]
    exact Checksum.isHexText_of_isCanonical update.checksum_canonical
  version := by
    intro blank
    have all : Text.isAllBlank update.version = true := Text.isAllBlank_iff.mpr blank
    rw [update.version_present] at all
    cases all
  url := update.url_secure

theorem presentSignature_eq {url : Option String} (present : url ≠ some "") :
    presentSignature url = url := by
  cases url with
  | none => rfl
  | some text =>
      have some_ : text.isEmpty = false := by
        rw [Bool.eq_false_iff, ne_eq, String.isEmpty_iff]
        rintro rfl
        exact present rfl
      rw [presentSignature, Option.filter_some, some_]
      rfl

/-- An update is what its own metadata become, whatever time it is. -/
theorem ofMetadata_toMetadata (now : Int64) : ofMetadata now update.toMetadata = .ok update := by
  refine ofMetadata_eq_ok_iff.mpr ⟨update.acceptable_toMetadata, ?_⟩
  have checksum := Checksum.lower_trim_of_isCanonical update.checksum_canonical
  have signature := presentSignature_eq update.signature_present
  simp only [toMetadata, checksum, signature, Option.getD_some]

/-- The text of an update, in either form, is read as that update. -/
theorem parse_written (now : Int64) {text : String}
    (written : text = update.toJson.compact ∨ text = update.toJson.indented) :
    parse now text = .ok update := by
  have fine : (ofMetadata now update.toMetadata).mapError Release.Error.message = .ok update := by
    rw [ofMetadata_toMetadata]
    rfl
  rcases written with rfl | rfl
  · exact parse_compact update.toMetadata.holds_toMembers update.toMetadata.ofMembers_toMembers fine
  · exact parse_indented update.toMetadata.holds_toMembers update.toMetadata.ofMembers_toMembers fine

/-- The file at a path holds the record of an update. -/
def IsRecorded (disk : Disk) (file : Path) : Prop :=
  disk.readFile file = .ok (Text.encode update.toJson.indented)

variable {update} {disk after : Disk} {file : Path}

theorem IsRecorded.mono (recorded : update.IsRecorded disk file)
    (kept : Disk.KeepsFile file disk after) : update.IsRecorded after file :=
  kept _ recorded

end Update

namespace CommandLine

variable {file : Path} {update : Update} {manager : Manager} {output : String} {world : World}

/-- A record is loaded as the update that it holds, and loading changes nothing. -/
theorem loadRelease_recorded (recorded : update.IsRecorded world.disk file) :
    loadRelease file world = (some update, world) := by
  have read : world.disk.readText file = .ok update.toJson.indented := by
    rw [Disk.readText, recorded]
    simp only [mapError_ok, ok_bind, Text.decode?_encode, pure_eq_ok]
  rw [loadRelease]
  simp only [Stateful.bind_run, Stateful.get_run, read, update.parse_written world.now (.inr rfl)]
  rfl

/-- Recording succeeds or fails as the file is replaced. -/
theorem saveRelease_replaces (file : Path) (update : Update) (output : String) (manager : Manager)
    (world : World) :
    ((saveRelease file update).run.run output).run manager world =
      let replaced := Disk.replaceFile file (Text.encode update.toJson.indented) world.disk
      ((((match replaced.1 with
        | .ok () => pure ()
        | .error error => throw (Error.saveRelease file error)) : Printing Unit).run.run output).run
          manager (world.setDisk replaced.2)) := rfl

/-- Recording replaces the file by the text of the update. -/
theorem saveRelease_run (file : Path) (update : Update) (output : String) (manager : Manager)
    (world : World) :
    ((saveRelease file update).run.run output).run manager world =
      let replaced := Disk.replaceFile file (Text.encode update.toJson.indented) world.disk
      (((replaced.1.mapError (.saveRelease file), output), manager), world.setDisk replaced.2) := by
  rw [saveRelease_replaces]
  dsimp only
  cases (Disk.replaceFile file (Text.encode update.toJson.indented) world.disk).1 <;> rfl

/-- An update that was recorded is in the file, provided that the way to the file does not pass a link
in the file's own place. -/
theorem isRecorded_of_saveRelease (tree : world.disk.IsTree)
    (straight : (world.disk.prepared file).Straight file)
    (saved : (((saveRelease file update).run.run output).run manager world).1.1.1 = .ok ()) :
    update.IsRecorded (((saveRelease file update).run.run output).run manager world).2.disk file := by
  rw [saveRelease_run] at saved ⊢
  dsimp only at saved
  refine Disk.readFile_replaceFile tree straight ?_
  cases replaced : (Disk.replaceFile file (Text.encode update.toJson.indented) world.disk).1 with
  | ok done => rfl
  | error error =>
      rw [replaced] at saved
      cases saved

end CommandLine

namespace Update

/-- An update whose texts need every kind of escape, and whose numbers are at their limits. -/
def escaped : Update where
  version := "1.2 \"\u00e9\\\n\x01"
  code := 0xffffffff
  url := "https://example.org/\"a\""
  notes := "\t\x0c\x08\r \u2028"
  fileSize := 0xffffffffffffffff
  checksum := Sha256.hexDigest []
  signatureUrl := some " "
  date := -0x8000000000000000
  version_present := by decide
  url_secure := by decide
  checksum_canonical := Sha256.isCanonical_hexDigest []
  signature_present := by decide

end Update

end SelfUpdate
