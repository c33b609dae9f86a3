import SelfUpdate.Proofs.Json.Decoding
import SelfUpdate.Release.Document

/-!
# Which documents announce a release

A release document is accepted exactly when it is an object with the contents of a hosted release, or
one without a tag and with those of metadata. What it says is what was written under the known keys;
their order and all other keys count for nothing.
-/

namespace SelfUpdate.Release

open Json

/-! ## Records -/

/-- What the members of an object tell of an asset. -/
structure Asset.Told (members : Members) (asset : Asset) : Prop where
  name : members.Gives "name" IsString asset.name
  url : members.Gives "browser_download_url" IsString asset.url
  size : members.GivesOr "size" IsNatural64 0 asset.size
  digest : members.GivesOr "digest" (OrNull IsString) none asset.digest

/-- An asset is an object, or a list of the values of its fields. -/
inductive IsAsset : Value → Asset → Prop where
  | object {members : Members} {asset : Asset} (told : asset.Told members) :
      IsAsset (.object members) asset
  | list {items : List Value} {asset : Asset} (short : items.length ≤ 4)
      (told : asset.Told (["name", "browser_download_url", "size", "digest"].zip items)) :
      IsAsset (.array items) asset

/-- What the members of an object tell of a hosted release. -/
structure Hosted.Told (members : Members) (release : Hosted) : Prop where
  tag : members.Gives "tag_name" IsString release.tag
  body : members.GivesOr "body" (OrNull IsString) none release.body
  publishedAt : members.GivesOr "published_at" (OrNull IsString) none release.publishedAt
  assets : members.GivesOr "assets" (IsList IsAsset) [] release.assets

/-- What the members of an object tell of metadata. -/
structure Metadata.Told (members : Members) (metadata : Metadata) : Prop where
  version : members.Gives "version" IsString metadata.version
  code : members.Gives "versionCode" IsNatural32 metadata.versionCode
  url : members.Gives "downloadUrl" IsString metadata.downloadUrl
  checksum : members.Gives "sha256Checksum" IsString metadata.checksum
  notes : members.GivesOr "releaseNotes" IsString "" metadata.notes
  fileSize : members.GivesOr "fileSize" IsNatural64 0 metadata.fileSize
  signatureUrl : members.GivesOr "signatureUrl" (OrNull IsString) none metadata.signatureUrl
  date : members.GivesOr "releaseDate" (OrNull IsInteger64) none metadata.date

variable {members : Members}

namespace Asset

variable {asset : Asset}

theorem ofMembers_eq_ok_iff (proper : members.Proper) :
    ofMembers members = .ok asset ↔ asset.Told members := by
  constructor
  · intro built
    obtain ⟨name, first, built⟩ := bind_eq_ok_iff.mp built
    obtain ⟨url, second, built⟩ := bind_eq_ok_iff.mp built
    obtain ⟨size, third, built⟩ := bind_eq_ok_iff.mp built
    obtain ⟨digest, fourth, built⟩ := bind_eq_ok_iff.mp built
    cases built
    exact {
      name := (Members.required_eq_ok_iff proper decodes_asString).mp first
      url := (Members.required_eq_ok_iff proper decodes_asString).mp second
      size := (Members.withDefault_eq_ok_iff proper decodes_asNatural64).mp third
      digest := (Members.withDefault_eq_ok_iff proper decodes_stringOrNull).mp fourth }
  · intro told
    simp only [ofMembers, (Members.required_eq_ok_iff proper decodes_asString).mpr told.name,
      (Members.required_eq_ok_iff proper decodes_asString).mpr told.url,
      (Members.withDefault_eq_ok_iff proper decodes_asNatural64).mpr told.size,
      (Members.withDefault_eq_ok_iff proper decodes_stringOrNull).mpr told.digest, ok_bind,
      pure_eq_ok]

theorem builds : shape.Builds ofMembers where
  keys := by decide
  congr := by
    intro one other same
    simp only [shape, List.forall_mem_cons, Field.key_required, Field.key_withDefault] at same
    simp only [ofMembers, Members.required, Members.withDefault, same]
  passes := by
    intro members asset proper built
    have told := (ofMembers_eq_ok_iff proper).mp built
    simp only [Shape.Passes, shape, List.forall_mem_cons]
    exact ⟨Shape.passes_required proper decodes_asString told.name,
      Shape.passes_required proper decodes_asString told.url,
      Shape.passes_withDefault proper decodes_asNatural64 told.size,
      Shape.passes_withDefault proper decodes_stringOrNull told.digest,
      List.forall_mem_nil _⟩
  complete := by
    intro members asset proper built
    have told := (ofMembers_eq_ok_iff proper).mp built
    simp only [shape, List.forall_mem_cons]
    exact ⟨fun _ => told.name.not_lacks, fun _ => told.url.not_lacks, Shape.not_lacks_withDefault,
      Shape.not_lacks_withDefault, List.forall_mem_nil _⟩

/-- An asset is decoded from the values that are assets. -/
theorem decodes : Decodes decode IsAsset := by
  intro value asset sorted
  rw [decode]
  cases sorted with
  | scalar list object =>
      constructor
      · intro read
        unfold Shape.decode at read
        split at read
        · exact absurd rfl (object _)
        · exact absurd rfl (list _)
        · cases read
      · intro means
        cases means with
        | object => exact absurd rfl (object _)
        | list => exact absurd rfl (list _)
  | object sorted inside =>
      have proper : Members.Proper _ := ⟨sorted.distinct, inside⟩
      rw [Shape.decode_object_eq_ok_iff builds proper, ofMembers_eq_ok_iff proper]
      constructor
      · exact .object
      · rintro ⟨told⟩
        exact told
  | array inside =>
      rw [Shape.decode_array_eq_ok_iff builds inside,
        ofMembers_eq_ok_iff (builds.proper_zip inside)]
      constructor
      · rintro ⟨short, told⟩
        exact .list short told
      · intro means
        cases means with
        | list short told => exact ⟨short, told⟩

end Asset

namespace Hosted

variable {release : Hosted}

theorem ofMembers_eq_ok_iff (proper : members.Proper) :
    ofMembers members = .ok release ↔ release.Told members := by
  constructor
  · intro built
    obtain ⟨tag, first, built⟩ := bind_eq_ok_iff.mp built
    obtain ⟨body, second, built⟩ := bind_eq_ok_iff.mp built
    obtain ⟨publishedAt, third, built⟩ := bind_eq_ok_iff.mp built
    obtain ⟨assets, fourth, built⟩ := bind_eq_ok_iff.mp built
    cases built
    exact {
      tag := (Members.required_eq_ok_iff proper decodes_asString).mp first
      body := (Members.withDefault_eq_ok_iff proper decodes_stringOrNull).mp second
      publishedAt := (Members.withDefault_eq_ok_iff proper decodes_stringOrNull).mp third
      assets := (Members.withDefault_eq_ok_iff proper Asset.decodes.asList).mp fourth }
  · intro told
    simp only [ofMembers, (Members.required_eq_ok_iff proper decodes_asString).mpr told.tag,
      (Members.withDefault_eq_ok_iff proper decodes_stringOrNull).mpr told.body,
      (Members.withDefault_eq_ok_iff proper decodes_stringOrNull).mpr told.publishedAt,
      (Members.withDefault_eq_ok_iff proper Asset.decodes.asList).mpr told.assets, ok_bind,
      pure_eq_ok]

theorem builds : shape.Builds ofMembers where
  keys := by decide
  congr := by
    intro one other same
    simp only [shape, List.forall_mem_cons, Field.key_required, Field.key_withDefault] at same
    simp only [ofMembers, Members.required, Members.withDefault, same]
  passes := by
    intro members release proper built
    have told := (ofMembers_eq_ok_iff proper).mp built
    simp only [Shape.Passes, shape, List.forall_mem_cons]
    exact ⟨Shape.passes_required proper decodes_asString told.tag,
      Shape.passes_withDefault proper decodes_stringOrNull told.body,
      Shape.passes_withDefault proper decodes_stringOrNull told.publishedAt,
      Shape.passes_withDefault proper Asset.decodes.asList told.assets,
      List.forall_mem_nil _⟩
  complete := by
    intro members release proper built
    have told := (ofMembers_eq_ok_iff proper).mp built
    simp only [shape, List.forall_mem_cons]
    exact ⟨fun _ => told.tag.not_lacks, Shape.not_lacks_withDefault, Shape.not_lacks_withDefault,
      Shape.not_lacks_withDefault, List.forall_mem_nil _⟩

theorem decode_eq_ok_iff (proper : members.Proper) :
    decode (.object members) = .ok release ↔ release.Told members := by
  rw [decode, Shape.decode_object_eq_ok_iff builds proper, ofMembers_eq_ok_iff proper]

end Hosted

namespace Metadata

variable {metadata : Metadata}

theorem ofMembers_eq_ok_iff (proper : members.Proper) :
    ofMembers members = .ok metadata ↔ metadata.Told members := by
  constructor
  · intro built
    obtain ⟨version, first, built⟩ := bind_eq_ok_iff.mp built
    obtain ⟨code, second, built⟩ := bind_eq_ok_iff.mp built
    obtain ⟨url, third, built⟩ := bind_eq_ok_iff.mp built
    obtain ⟨checksum, fourth, built⟩ := bind_eq_ok_iff.mp built
    obtain ⟨notes, fifth, built⟩ := bind_eq_ok_iff.mp built
    obtain ⟨fileSize, sixth, built⟩ := bind_eq_ok_iff.mp built
    obtain ⟨signatureUrl, seventh, built⟩ := bind_eq_ok_iff.mp built
    obtain ⟨date, eighth, built⟩ := bind_eq_ok_iff.mp built
    cases built
    exact {
      version := (Members.required_eq_ok_iff proper decodes_asString).mp first
      code := (Members.required_eq_ok_iff proper decodes_asNatural32).mp second
      url := (Members.required_eq_ok_iff proper decodes_asString).mp third
      checksum := (Members.required_eq_ok_iff proper decodes_asString).mp fourth
      notes := (Members.withDefault_eq_ok_iff proper decodes_asString).mp fifth
      fileSize := (Members.withDefault_eq_ok_iff proper decodes_asNatural64).mp sixth
      signatureUrl := (Members.withDefault_eq_ok_iff proper decodes_stringOrNull).mp seventh
      date := (Members.withDefault_eq_ok_iff proper decodes_integerOrNull).mp eighth }
  · intro told
    simp only [ofMembers, (Members.required_eq_ok_iff proper decodes_asString).mpr told.version,
      (Members.required_eq_ok_iff proper decodes_asNatural32).mpr told.code,
      (Members.required_eq_ok_iff proper decodes_asString).mpr told.url,
      (Members.required_eq_ok_iff proper decodes_asString).mpr told.checksum,
      (Members.withDefault_eq_ok_iff proper decodes_asString).mpr told.notes,
      (Members.withDefault_eq_ok_iff proper decodes_asNatural64).mpr told.fileSize,
      (Members.withDefault_eq_ok_iff proper decodes_stringOrNull).mpr told.signatureUrl,
      (Members.withDefault_eq_ok_iff proper decodes_integerOrNull).mpr told.date, ok_bind,
      pure_eq_ok]

theorem builds : shape.Builds ofMembers where
  keys := by decide
  congr := by
    intro one other same
    simp only [shape, List.forall_mem_cons, Field.key_required, Field.key_withDefault] at same
    simp only [ofMembers, Members.required, Members.withDefault, same]
  passes := by
    intro members metadata proper built
    have told := (ofMembers_eq_ok_iff proper).mp built
    simp only [Shape.Passes, shape, List.forall_mem_cons]
    exact ⟨Shape.passes_required proper decodes_asString told.version,
      Shape.passes_required proper decodes_asNatural32 told.code,
      Shape.passes_required proper decodes_asString told.url,
      Shape.passes_required proper decodes_asString told.checksum,
      Shape.passes_withDefault proper decodes_asString told.notes,
      Shape.passes_withDefault proper decodes_asNatural64 told.fileSize,
      Shape.passes_withDefault proper decodes_stringOrNull told.signatureUrl,
      Shape.passes_withDefault proper decodes_integerOrNull told.date,
      List.forall_mem_nil _⟩
  complete := by
    intro members metadata proper built
    have told := (ofMembers_eq_ok_iff proper).mp built
    simp only [shape, List.forall_mem_cons]
    exact ⟨fun _ => told.version.not_lacks, fun _ => told.code.not_lacks,
      fun _ => told.url.not_lacks, fun _ => told.checksum.not_lacks,
      Shape.not_lacks_withDefault, Shape.not_lacks_withDefault, Shape.not_lacks_withDefault,
      Shape.not_lacks_withDefault, List.forall_mem_nil _⟩

theorem decode_eq_ok_iff (proper : members.Proper) :
    decode (.object members) = .ok metadata ↔ metadata.Told members := by
  rw [decode, Shape.decode_object_eq_ok_iff builds proper, ofMembers_eq_ok_iff proper]

end Metadata

/-! ## Documents -/

namespace Document

/-- What an object without a tag is refused for before it is decoded: the first of the required keys
that it lacks, and else the checksum. -/
inductive Misses (members : Members) : Error → Prop where
  | field {before after : List String} {name : String} (untagged : members.Lacks "tag_name")
      (order : ["version", "versionCode", "downloadUrl"] = before ++ name :: after)
      (earlier : ∀ key ∈ before, ¬ members.Lacks key) (lacks : members.Lacks name) :
      Misses members (.missingField name)
  | checksum {version : String} (untagged : members.Lacks "tag_name")
      (present : ∀ key ∈ ["version", "versionCode", "downloadUrl"], ¬ members.Lacks key)
      (absent : members.Lacks "sha256Checksum" ∨ ("sha256Checksum", .null) ∈ members)
      (told : members.Gives "version" IsString version ∨
        version = "" ∧ ∀ other, ¬ members.Gives "version" IsString other) :
      Misses members (.checksumMissing version)

/-- The keys that count in a document. -/
def keys : List String :=
  ["tag_name", "body", "published_at", "assets", "version", "versionCode", "downloadUrl",
    "sha256Checksum", "releaseNotes", "fileSize", "signatureUrl", "releaseDate"]

theorem has_eq_true_iff {key : String} : members.has key = true ↔ ¬ members.Lacks key := by
  rw [← Members.has_eq_false_iff, Bool.not_eq_false]

theorem ofMembers_tagged (tagged : ¬ members.Lacks "tag_name") :
    ofMembers members = (decoded Hosted.decode members).map .hosted := by
  rw [ofMembers, if_pos (has_eq_true_iff.mpr tagged)]

theorem hasChecksum_eq_false_iff (distinct : (members.map Prod.fst).Nodup) :
    hasChecksum members = false ↔
      members.Lacks "sha256Checksum" ∨ ("sha256Checksum", .null) ∈ members := by
  rw [← Members.get?_eq_none_iff, ← Members.get?_eq_some_iff distinct, hasChecksum]
  rcases members.get? "sha256Checksum" with _ | (_ | _ | _ | _ | _ | _) <;> simp

theorem versionOf_eq_iff (distinct : (members.map Prod.fst).Nodup) {version : String} :
    versionOf members = version ↔ members.Gives "version" IsString version ∨
      version = "" ∧ ∀ other, ¬ members.Gives "version" IsString other := by
  have gives (s : String) : members.Gives "version" IsString s ↔
      members.get? "version" = some (.string s) := by
    rw [Members.get?_eq_some_iff distinct]
    constructor
    · rintro ⟨value, listed, rfl⟩
      exact listed
    · exact fun listed => ⟨_, listed, rfl⟩
  simp only [gives, versionOf]
  rcases members.get? "version" with _ | (_ | _ | _ | s | _ | _) <;> simp [eq_comm]

/-- A document without a tag that lacks nothing. -/
structure Complete (members : Members) : Prop where
  untagged : members.Lacks "tag_name"
  present : ∀ key ∈ ["version", "versionCode", "downloadUrl"], ¬ members.Lacks key
  checksum : ¬ (members.Lacks "sha256Checksum" ∨ ("sha256Checksum", .null) ∈ members)

theorem ofMembers_untagged (untagged : members.Lacks "tag_name") :
    ofMembers members = match requiredFields.find? (fun name => !members.has name) with
      | some name => .error (.missingField name)
      | none =>
        if hasChecksum members then (decoded Metadata.decode members).map .native
        else .error (.checksumMissing (versionOf members)) := by
  have tagless := Members.has_eq_false_iff.mpr untagged
  cases missing : requiredFields.find? (fun name => !members.has name) with
  | some name => simp only [ofMembers, tagless, missing, Bool.false_eq_true, if_false]
  | none => simp only [ofMembers, tagless, missing, Bool.false_eq_true, if_false]

theorem find?_requiredFields_eq_none_iff :
    requiredFields.find? (fun name => !members.has name) = none ↔
      ∀ key ∈ ["version", "versionCode", "downloadUrl"], ¬ members.Lacks key := by
  rw [List.find?_eq_none, requiredFields]
  simp only [Bool.not_eq_true', Members.has_eq_false_iff]

theorem ofMembers_complete (distinct : (members.map Prod.fst).Nodup)
    (complete : Complete members) :
    ofMembers members = (decoded Metadata.decode members).map .native := by
  have checked : hasChecksum members = true := by
    rw [← Bool.not_eq_false, hasChecksum_eq_false_iff distinct]
    exact complete.checksum
  rw [ofMembers_untagged complete.untagged,
    find?_requiredFields_eq_none_iff.mpr complete.present, checked]
  rfl

theorem ofMembers_misses (distinct : (members.map Prod.fst).Nodup) {error : Error}
    (misses : Misses members error) : ofMembers members = .error error := by
  cases misses with
  | @field before after name untagged order earlier lacks =>
      have found : requiredFields.find? (fun name => !members.has name) = some name := by
        rw [List.find?_eq_some_iff_append]
        refine ⟨by simpa [Members.has_eq_false_iff] using lacks, before, after, order, ?_⟩
        intro key listed
        simpa [has_eq_true_iff] using earlier key listed
      rw [ofMembers_untagged untagged, found]
  | checksum untagged present absent told =>
      rw [ofMembers_untagged untagged, find?_requiredFields_eq_none_iff.mpr present,
        (hasChecksum_eq_false_iff distinct).mpr absent, (versionOf_eq_iff distinct).mpr told]
      rfl

/-- A document has a tag, or lacks something, or neither. -/
theorem tagged_or_misses_or_complete (distinct : (members.map Prod.fst).Nodup) :
    ¬ members.Lacks "tag_name" ∨ (∃ error, Misses members error) ∨ Complete members := by
  by_cases untagged : members.Lacks "tag_name"
  · refine .inr ?_
    cases found : requiredFields.find? (fun name => !members.has name) with
    | some name =>
        obtain ⟨lacks, before, after, order, earlier⟩ := List.find?_eq_some_iff_append.mp found
        refine .inl ⟨_, .field untagged order (fun key listed => ?_) ?_⟩
        · simpa [has_eq_true_iff] using earlier key listed
        · simpa [Members.has_eq_false_iff] using lacks
    | none =>
        have present := find?_requiredFields_eq_none_iff.mp found
        by_cases absent : members.Lacks "sha256Checksum" ∨ ("sha256Checksum", .null) ∈ members
        · exact .inl ⟨_, .checksum untagged present absent ((versionOf_eq_iff distinct).mp rfl)⟩
        · exact .inr ⟨untagged, present, absent⟩
  · exact .inl untagged

theorem decoded_eq_ok_iff {α : Type} {decode : Decoder α} {record : α} :
    decoded decode members = .ok record ↔ decode (.object members) = .ok record :=
  mapError_eq_ok_iff

theorem decoded_eq_error {α : Type} {decode : Decoder α} {error : Error}
    (refused : decoded decode members = .error error) : ∃ reason, error = .json reason := by
  rw [decoded] at refused
  cases read : decode (.object members) with
  | ok record =>
      rw [read] at refused
      cases refused
  | error cause =>
      rw [read] at refused
      cases refused
      exact ⟨_, rfl⟩

/-! ### By the members -/

theorem ofMembers_eq_hosted_iff (proper : members.Proper) {release : Hosted} :
    ofMembers members = .ok (.hosted release) ↔ release.Told members := by
  constructor
  · intro made
    rcases tagged_or_misses_or_complete proper.distinct with tagged | ⟨error, misses⟩ | complete
    · rw [ofMembers_tagged tagged] at made
      obtain ⟨other, read, same⟩ := map_eq_ok_iff.mp made
      cases same
      exact (Hosted.decode_eq_ok_iff proper).mp (decoded_eq_ok_iff.mp read)
    · cases (ofMembers_misses proper.distinct misses).symm.trans made
    · rw [ofMembers_complete proper.distinct complete] at made
      obtain ⟨other, -, same⟩ := map_eq_ok_iff.mp made
      cases same
  · intro told
    rw [ofMembers_tagged told.tag.not_lacks,
      decoded_eq_ok_iff.mpr ((Hosted.decode_eq_ok_iff proper).mpr told), map_ok]

theorem Complete.of_told {metadata : Metadata} (proper : members.Proper)
    (untagged : members.Lacks "tag_name") (told : metadata.Told members) : Complete members where
  untagged := untagged
  present := by
    simp only [List.forall_mem_cons]
    exact ⟨told.version.not_lacks, told.code.not_lacks, told.url.not_lacks, nofun⟩
  checksum := by
    rintro (lacks | null)
    · exact told.checksum.not_lacks lacks
    · obtain ⟨value, listed, text⟩ := told.checksum
      cases List.inj_on_of_nodup_map proper.distinct null listed rfl
      cases text

theorem ofMembers_eq_native_iff (proper : members.Proper) {metadata : Metadata} :
    ofMembers members = .ok (.native metadata) ↔
      members.Lacks "tag_name" ∧ metadata.Told members := by
  constructor
  · intro made
    rcases tagged_or_misses_or_complete proper.distinct with tagged | ⟨error, misses⟩ | complete
    · rw [ofMembers_tagged tagged] at made
      obtain ⟨other, -, same⟩ := map_eq_ok_iff.mp made
      cases same
    · cases (ofMembers_misses proper.distinct misses).symm.trans made
    · rw [ofMembers_complete proper.distinct complete] at made
      obtain ⟨other, read, same⟩ := map_eq_ok_iff.mp made
      cases same
      exact ⟨complete.untagged, (Metadata.decode_eq_ok_iff proper).mp (decoded_eq_ok_iff.mp read)⟩
  · rintro ⟨untagged, told⟩
    rw [ofMembers_complete proper.distinct (.of_told proper untagged told),
      decoded_eq_ok_iff.mpr ((Metadata.decode_eq_ok_iff proper).mpr told), map_ok]

theorem map_eq_error {α β ε : Type} {f : α → β} {result : Except ε α} {error : ε}
    (failed : result.map f = .error error) : result = .error error := by
  cases result with
  | error other => exact congrArg Except.error (Except.error.inj failed)
  | ok a => cases failed

theorem ofMembers_eq_error (distinct : (members.map Prod.fst).Nodup) {error : Error}
    (failed : ofMembers members = .error error) :
    (∃ reason, error = .json reason) ∨ Misses members error := by
  rcases tagged_or_misses_or_complete distinct with tagged | ⟨other, misses⟩ | complete
  · rw [ofMembers_tagged tagged] at failed
    exact .inl (decoded_eq_error (map_eq_error failed))
  · cases (ofMembers_misses distinct misses).symm.trans failed
    exact .inr misses
  · rw [ofMembers_complete distinct complete] at failed
    exact .inl (decoded_eq_error (map_eq_error failed))

/-- Documents that hold the same under each key that counts are the same. -/
theorem ofMembers_congr {one other : Members} (first : one.Sorted) (second : other.Sorted)
    (same : ∀ key ∈ keys, ∀ value, (key, value) ∈ one ↔ (key, value) ∈ other) :
    ofMembers one = ofMembers other := by
  have found : ∀ key ∈ keys, one.get? key = other.get? key := by
    intro key counts
    refine Option.ext fun value => ?_
    rw [Members.get?_eq_some_iff first.distinct, Members.get?_eq_some_iff second.distinct]
    exact same key counts value
  have hosted : decoded Hosted.decode one = decoded Hosted.decode other := by
    rw [decoded, decoded, Hosted.decode, Shape.decode_congr first second]
    intro field among
    have counts : ∀ field ∈ Hosted.shape.fields, field.key ∈ keys := by decide
    exact same _ (counts field among)
  have native : decoded Metadata.decode one = decoded Metadata.decode other := by
    rw [decoded, decoded, Metadata.decode, Shape.decode_congr first second]
    intro field among
    have counts : ∀ field ∈ Metadata.shape.fields, field.key ∈ keys := by decide
    exact same _ (counts field among)
  have lists : ∀ key ∈ keys, one.has key = other.has key := by
    intro key counts
    rw [Members.has, Members.has, found key counts]
  have checked : hasChecksum one = hasChecksum other := by
    rw [hasChecksum, hasChecksum, found _ (by decide)]
  have version : versionOf one = versionOf other := by
    rw [versionOf, versionOf, found _ (by decide)]
  have required : requiredFields.find? (fun name => !one.has name) =
      requiredFields.find? (fun name => !other.has name) := by
    simp only [requiredFields, List.find?, lists "version" (by decide),
      lists "versionCode" (by decide), lists "downloadUrl" (by decide)]
  rw [ofMembers, ofMembers, lists _ (by decide), required, hosted, native, checked, version]

/-! ### By the text -/

theorem parse_eq_ok_iff {body : String} {document : Document} :
    parse body = .ok document ↔
      ∃ members, Json.parse body = .ok (.object members) ∧ ofMembers members = .ok document := by
  rw [parse, bind_eq_ok_iff]
  constructor
  · rintro ⟨value, read, made⟩
    cases value with
    | object members => exact ⟨members, mapError_eq_ok_iff.mp read, made⟩
    | null | boolean | number | string | array => cases made
  · rintro ⟨members, read, made⟩
    exact ⟨_, mapError_eq_ok_iff.mpr read, made⟩

theorem parse_of_object {body : String} (read : Json.parse body = .ok (.object members)) :
    parse body = ofMembers members := by
  rw [parse, read]
  rfl

theorem parse_eq_error {body : String} {error : Error} (failed : parse body = .error error) :
    (∃ reason, error = .json reason) ∨
      ∃ members, Json.parse body = .ok (.object members) ∧ ofMembers members = .error error := by
  cases read : Json.parse body with
  | error cause =>
      rw [parse, read] at failed
      exact .inl ⟨_, (Except.error.inj failed).symm⟩
  | ok value =>
      cases value with
      | object members => exact .inr ⟨members, rfl, (parse_of_object read).symm.trans failed⟩
      | null | boolean | number | string | array =>
          rw [parse, read] at failed
          exact .inl ⟨_, (Except.error.inj failed).symm⟩

/-- The members of an object that was read are sorted, and so are their values. -/
theorem sorted_of_parse {body : String} (read : Json.parse body = .ok (.object members)) :
    members.Sorted ∧ members.Proper := by
  cases Json.sorted_of_parse read with
  | scalar _ object => exact absurd rfl (object members)
  | object sorted inside => exact ⟨sorted, sorted.distinct, inside⟩

/-- Documents are accepted exactly by their grammar. A text is a hosted release when it is an object
that tells of one, and metadata when it is an object without a tag that tells of them. Every other text
is refused: an object without a tag for the first required key that it lacks, one with all these keys
for a checksum that is absent or null, and all else for what is wrong with it as JSON. No other key
and no order of the keys makes a difference. -/
theorem parse_grammar (body : String) :
    (∀ release, parse body = .ok (.hosted release) ↔
      ∃ members, Json.parse body = .ok (.object members) ∧ release.Told members) ∧
    (∀ metadata, parse body = .ok (.native metadata) ↔
      ∃ members : Members, Json.parse body = .ok (.object members) ∧ members.Lacks "tag_name" ∧
        metadata.Told members) ∧
    (∀ error, (∀ reason, error ≠ .json reason) → (parse body = .error error ↔
      ∃ members, Json.parse body = .ok (.object members) ∧ Misses members error)) ∧
    ∀ other members others, Json.parse body = .ok (.object members) →
      Json.parse other = .ok (.object others) →
      (∀ key ∈ keys, ∀ value, (key, value) ∈ members ↔ (key, value) ∈ others) →
      parse body = parse other := by
  refine ⟨fun release => ?_, fun metadata => ?_, fun error other => ?_, ?_⟩
  · rw [parse_eq_ok_iff]
    refine exists_congr fun members => and_congr_right fun read => ?_
    exact ofMembers_eq_hosted_iff (sorted_of_parse read).2
  · rw [parse_eq_ok_iff]
    refine exists_congr fun members => and_congr_right fun read => ?_
    exact ofMembers_eq_native_iff (sorted_of_parse read).2
  · constructor
    · intro failed
      rcases parse_eq_error failed with ⟨reason, same⟩ | ⟨members, read, refused⟩
      · exact absurd same (other reason)
      · refine ⟨members, read, ?_⟩
        exact (ofMembers_eq_error (sorted_of_parse read).1.distinct refused).resolve_left
          fun ⟨reason, same⟩ => other reason same
    · rintro ⟨members, read, misses⟩
      rw [parse_of_object read]
      exact ofMembers_misses (sorted_of_parse read).1.distinct misses
  · intro other members others first second same
    rw [parse_of_object first, parse_of_object second]
    exact ofMembers_congr (sorted_of_parse first).1 (sorted_of_parse second).1 same

/-- A release of nothing but a tag is read, with an unknown key behind it or another before it, and
metadata of nothing but a version lack their code. -/
theorem parse_grammar_bare :
    parse (Value.object [("tag_name", .string "v0.2"), ("draft", .boolean true)]).compact =
        .ok (.hosted ⟨"v0.2", none, none, []⟩) ∧
      parse (Value.object [("draft", .null), ("tag_name", .string "v0.2")]).compact =
        .ok (.hosted ⟨"v0.2", none, none, []⟩) ∧
      parse (Value.object [("version", .string "1")]).compact =
        .error (.missingField "versionCode") := by
  have tagged : Json.parse (Value.object
      [("tag_name", .string "v0.2"), ("draft", .boolean true)]).compact = .ok (.object _) :=
    parse_compact_object (by simp [Value.Exact.string, Value.Exact.boolean])
  have drafted : Json.parse (Value.object
      [("draft", .null), ("tag_name", .string "v0.2")]).compact = .ok (.object _) :=
    parse_compact_object (by simp [Value.Exact.string, Value.Exact.null])
  have versioned : Json.parse (Value.object [("version", .string "1")]).compact =
      .ok (.object _) := parse_compact_object (by simp [Value.Exact.string])
  have listed {key : String} {value : Value} : (key, value) ∈ Members.ofText
      [("tag_name", .string "v0.2"), ("draft", .boolean true)] ↔
        (key, value) ∈ [("tag_name", .string "v0.2"), ("draft", .boolean true)] :=
    Members.mem_ofText_iff (by decide)
  have lacks (key : String) (other : key ≠ "tag_name" ∧ key ≠ "draft") : Members.Lacks
      (Members.ofText [("tag_name", .string "v0.2"), ("draft", .boolean true)]) key := by
    intro value
    rw [listed]
    simp [other]
  have told : Hosted.Told (Members.ofText [("tag_name", .string "v0.2"), ("draft", .boolean true)])
      ⟨"v0.2", none, none, []⟩ :=
    ⟨⟨_, listed.mpr List.mem_cons_self, rfl⟩, .inl ⟨lacks _ (by decide), rfl⟩,
      .inl ⟨lacks _ (by decide), rfl⟩, .inl ⟨lacks _ (by decide), rfl⟩⟩
  have read := ((parse_grammar _).1 _).mpr ⟨_, tagged, told⟩
  refine ⟨read, ?_, ?_⟩
  · rw [← (parse_grammar _).2.2.2 _ _ _ tagged drafted, read]
    intro key counts value
    have known : key ≠ "draft" := by
      rintro rfl
      exact absurd counts (by decide)
    rw [listed, Members.mem_ofText_iff (by decide)]
    simp [known]
  · have lacks (key : String) (other : key ≠ "version") :
        Members.Lacks (Members.ofText [("version", .string "1")]) key := by
      intro value
      rw [Members.mem_ofText_iff (by decide)]
      simp [other]
    refine ((parse_grammar _).2.2.1 (.missingField "versionCode") nofun).mpr ⟨_, versioned, ?_⟩
    refine @Misses.field _ ["version"] ["downloadUrl"] _ (lacks _ (by decide)) rfl ?_
      (lacks _ (by decide))
    intro key earlier
    cases List.mem_singleton.mp earlier
    exact fun nothing => nothing (.string "1")
      ((Members.mem_ofText_iff (by decide)).mpr List.mem_cons_self)

end Document

end SelfUpdate.Release
