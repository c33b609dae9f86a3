import SelfUpdate.Proofs.Json.Decoding
import SelfUpdate.Proofs.Json.Skipping

/-!
# Records as they may stand in a text

A record whose fields may all be absent and hold plain values is an object or a list in a text. In an
object its fields come in any order, each at most once, among members of other names with any value;
in a list they come in the order of declaration, and the last ones may be missing. The reader of
records accepts these texts and no others, with these contents.
-/

namespace SelfUpdate.Json

variable {text rest start : List Char} {value : Value} {c : Char} {key : String} {first : Bool}
  {members read : Members} {fuel : Nat}

/-! ## Scalars -/

/-- A value without brackets that can be told exactly, and what it tells. -/
inductive Scalar : List Char → Value → List Char → Prop where
  | null {rest : List Char} : Scalar ('n' :: 'u' :: 'l' :: 'l' :: rest) .null rest
  | yes {rest : List Char} : Scalar ('t' :: 'r' :: 'u' :: 'e' :: rest) (.boolean true) rest
  | no {rest : List Char} : Scalar ('f' :: 'a' :: 'l' :: 's' :: 'e' :: rest) (.boolean false) rest
  | natural {n : Nat} {rest : List Char} (fits : n ≤ greatestNatural) :
      Scalar (Nat.toDigits 10 n ++ rest) (.number (.natural n)) rest
  | negative {n : Nat} {rest : List Char} (fits : n < 1 <<< 63) :
      Scalar ('-' :: (Nat.toDigits 10 (n + 1) ++ rest)) (.number (.negative n)) rest
  | string {text chars rest : List Char} (told : Quoted Escaped text chars rest) :
      Scalar ('"' :: text) (.string (String.ofList chars)) rest

theorem Scalar.exact (scalar : Scalar text value rest) : value.Exact := by
  cases scalar with
  | null => exact .null
  | yes => exact .boolean true
  | no => exact .boolean false
  | natural fits => exact .natural fits
  | negative fits => exact .negative fits
  | string told => exact .string _

theorem Value.Exact.sorted (exact : value.Exact) : value.Sorted := by
  cases exact <;> exact .scalar nofun nofun

theorem Scalar.eq_cons (scalar : Scalar text value rest) :
    ∃ c more, text = c :: more ∧ Solid c := by
  cases scalar with
  | null => exact ⟨'n', _, rfl, by decide⟩
  | yes => exact ⟨'t', _, rfl, by decide⟩
  | no => exact ⟨'f', _, rfl, by decide⟩
  | @natural n _ fits =>
      obtain ⟨d, more, digits, digit⟩ := toDigits_eq_cons n
      exact ⟨d, _, by rw [digits, List.cons_append], solid_of_isDigit digit⟩
  | negative fits => exact ⟨'-', _, rfl, by decide⟩
  | string told => exact ⟨'"', _, rfl, by decide⟩

theorem Scalar.length_le (scalar : Scalar text value rest) : rest.length ≤ text.length := by
  cases scalar with
  | string told =>
      have shorter := told.length_lt fun _ _ _ => Escaped.length_lt
      exact Nat.le_succ_of_le (Nat.le_of_lt shorter)
  | _ =>
      simp only [List.length_cons, List.length_append]
      omega

theorem readScalar_of_scalar (scalar : Scalar text value rest) (ends : Ends rest) :
    readScalar text = .ok (value, rest) := by
  cases scalar with
  | null => rfl
  | yes => rfl
  | no => rfl
  | natural fits => exact readScalar_scalarText (.natural fits) ends
  | negative fits => exact readScalar_scalarText (.negative fits) ends
  | string told =>
      rw [readScalar, readString_eq_ok_iff.mpr ⟨_, told, rfl⟩]
      rfl

theorem scalar_of_readScalar (read : readScalar text = .ok (value, rest)) (exact : value.Exact) :
    Scalar text value rest := by
  unfold readScalar at read
  split at read
  · cases read
  · obtain ⟨⟨⟨⟩, behind⟩, word, same⟩ := map_eq_ok_iff.mp read
    rw [readWord_eq_ok_iff] at word
    cases same
    exact word ▸ .null
  · obtain ⟨⟨⟨⟩, behind⟩, word, same⟩ := map_eq_ok_iff.mp read
    rw [readWord_eq_ok_iff] at word
    cases same
    exact word ▸ .yes
  · obtain ⟨⟨⟨⟩, behind⟩, word, same⟩ := map_eq_ok_iff.mp read
    rw [readWord_eq_ok_iff] at word
    cases same
    exact word ▸ .no
  · obtain ⟨⟨number, behind⟩, done, same⟩ := map_eq_ok_iff.mp read
    cases same
    obtain ⟨n, told, fits, whole⟩ := toDigits_of_readNumber done (by rintro z rfl; cases exact)
    rw [integerOf, if_neg (by decide)] at whole
    split at whole
    · rename_i range
      cases whole
      obtain ⟨m, rfl⟩ := Nat.exists_eq_succ_of_ne_zero (Nat.ne_of_gt range.1)
      rw [told]
      exact .negative range.2
    · cases whole
  · obtain ⟨⟨s, behind⟩, done, same⟩ := map_eq_ok_iff.mp read
    obtain ⟨chars, told, rfl⟩ := readString_eq_ok_iff.mp done
    cases same
    exact .string told
  · split at read
    · obtain ⟨⟨number, behind⟩, done, same⟩ := map_eq_ok_iff.mp read
      cases same
      obtain ⟨n, told, fits, whole⟩ := toDigits_of_readNumber done (by rintro z rfl; cases exact)
      cases whole
      rw [told]
      exact .natural fits
    · cases read

/-! ## What comes next -/

theorem nextKey_gap (gap : Gap text rest) : nextKey first text = nextKey first rest := by
  rw [nextKey, nextKey, gap.skipSpace_eq]

theorem nextItem_gap (gap : Gap text rest) : nextItem first text = nextItem first rest := by
  rw [nextItem, nextItem, gap.skipSpace_eq]

theorem nextItem_comma (rest : List Char) :
    nextItem false (',' :: rest) =
      match skipSpace rest with
      | [] => .error (.next .endInValue [])
      | ']' :: rest => .error (.next .trailingComma (']' :: rest))
      | rest => .ok (.item rest) := rfl

theorem nextKey_eq_done_iff :
    nextKey first text = .ok (.done rest) ↔ Gap text ('\x7d' :: rest) := by
  constructor
  · intro done
    rw [nextKey] at done
    split at done
    · cases done
    · rename_i skipped
      cases done
      exact (skipSpace_eq_cons_iff.mp skipped).1
    · split at done
      · split at done <;> cases done
      · split at done
        · split at done <;> cases done
        · cases done
  · intro gap
    rw [nextKey, skipSpace_eq_cons_iff.mpr ⟨gap, by decide⟩]
    rfl

theorem nextKey_eq_key_iff :
    nextKey first text = .ok (.key rest) ↔ Between first text ('"' :: rest) := by
  constructor
  · intro done
    rw [nextKey] at done
    split at done
    · cases done
    · cases done
    · rename_i c behind _ skipped
      have gap := (skipSpace_eq_cons_iff.mp skipped).1
      cases first with
      | true =>
          rw [if_pos rfl] at done
          split at done
          · rename_i quote
            cases done
            exact .first (quote ▸ gap)
          · cases done
      | false =>
          rw [if_neg (by decide)] at done
          split at done
          · rename_i comma
            subst comma
            split at done
            · cases done
            · rename_i quoted
              cases done
              exact .further gap (skipSpace_eq_cons_iff.mp quoted).1
            · cases done
            · cases done
          · cases done
  · intro between
    cases between with
    | first gap =>
        rw [nextKey, skipSpace_eq_cons_iff.mpr ⟨gap, by decide⟩]
        rfl
    | further gap blank =>
        rw [nextKey_gap gap, Layout.nextKey_comma, skipSpace_eq_cons_iff.mpr ⟨blank, by decide⟩]
        rfl

theorem nextItem_eq_done_iff :
    nextItem first text = .ok (.done rest) ↔ Gap text (']' :: rest) := by
  constructor
  · intro done
    rw [nextItem] at done
    split at done
    · cases done
    · rename_i skipped
      cases done
      exact (skipSpace_eq_cons_iff.mp skipped).1
    · split at done
      · cases done
      · split at done
        · split at done <;> cases done
        · cases done
  · intro gap
    rw [nextItem, skipSpace_eq_cons_iff.mpr ⟨gap, by decide⟩]
    rfl

theorem between_of_nextItem (done : nextItem first text = .ok (.item rest)) :
    Between first text rest := by
  rw [nextItem] at done
  split at done
  · cases done
  · cases done
  · rename_i c behind _ skipped
    have gap := (skipSpace_eq_cons_iff.mp skipped).1
    cases first with
    | true =>
        rw [if_pos rfl] at done
        cases done
        exact .first gap
    | false =>
        rw [if_neg (by decide)] at done
        split at done
        · rename_i comma
          subst comma
          split at done
          · cases done
          · cases done
          · cases done
            exact .further gap (gap_skipSpace behind)
        · cases done

theorem nextItem_of_between (between : Between first text (c :: rest)) (solid : isSpace c = false)
    (other : c ≠ ']') : nextItem first text = .ok (.item (c :: rest)) := by
  cases between with
  | first gap =>
      rw [nextItem, skipSpace_eq_cons_iff.mpr ⟨gap, solid⟩]
      split
      · rename_i same
        cases same
      · rename_i same
        cases same
        exact absurd rfl other
      · rename_i same
        cases same
        rfl
  | further gap blank =>
      rw [nextItem_gap gap, nextItem_comma, skipSpace_eq_cons_iff.mpr ⟨blank, solid⟩]
      split
      · rename_i same
        cases same
      · rename_i same
        cases same
        exact absurd rfl other
      · rfl

/-! ## Fields -/

/-- The fields of a record that holds plain values only, all of which may be absent. -/
structure Shape.Lenient (shape : Shape) : Prop where
  plain : ∀ field ∈ shape.fields, ∀ value, field.test value = .ok () → value.Exact
  optional : ∀ field ∈ shape.fields, field.optional = true

/-- The members of an object that are fields of a record, up to the closing brace. -/
inductive Shape.Fields (shape : Shape) : Bool → List Char → Members → List Char → Prop where
  | close {first : Bool} {text rest : List Char} (gap : Gap text ('\x7d' :: rest)) :
      Shape.Fields shape first text [] rest
  | unknown {first : Bool} {text chars start behind rest : List Char} {members : Members}
      (keyed : Keyed Escaped first text chars start)
      (other : shape.field? (String.ofList chars) = none) (value : Derives .value start behind)
      (more : Shape.Fields shape false behind members rest) :
      Shape.Fields shape first text members rest
  | known {first : Bool} {text chars start behind rest : List Char} {members : Members}
      {field : Field} {value : Value} (keyed : Keyed Escaped first text chars start)
      (field : shape.field? (String.ofList chars) = some field) (scalar : Scalar start value behind)
      (more : Shape.Fields shape false behind members rest) :
      Shape.Fields shape first text ((String.ofList chars, value) :: members) rest

/-- The items of a list as the values of fields in their order, up to the closing bracket. -/
inductive Items : Bool → List Field → List Char → Members → List Char → Prop where
  | close {first : Bool} {fields : List Field} {text rest : List Char}
      (gap : Gap text (']' :: rest)) : Items first fields text [] rest
  | item {first : Bool} {field : Field} {fields : List Field} {text start behind rest : List Char}
      {members : Members} {value : Value} (between : Between first text start)
      (scalar : Scalar start value behind) (more : Items false fields behind members rest) :
      Items first (field :: fields) text ((field.key, value) :: members) rest

/-- A text that is a record and nothing else, and the fields that stand in it. -/
inductive Shape.Written (shape : Shape) (text : List Char) (members : Members) : Prop where
  | object {inner rest : List Char} (gap : Gap text ('\x7b' :: inner))
      (fields : shape.Fields true inner members rest) (distinct : (members.map Prod.fst).Nodup)
      (blank : Gap rest [])
  | list {inner rest : List Char} (gap : Gap text ('[' :: inner))
      (items : Items true shape.fields inner members rest) (blank : Gap rest [])

variable {fields : List Field}

theorem Items.ends (items : Items false fields text members rest) : Ends text := by
  cases items with
  | close gap => exact gap.ends (ends_cons (by decide))
  | item between scalar more => exact between.ends

theorem Items.exact (items : Items first fields text members rest) :
    ∀ member ∈ members, member.2.Exact := by
  induction items with
  | close gap => exact List.forall_mem_nil _
  | item between scalar more ih => exact List.forall_mem_cons.mpr ⟨scalar.exact, ih⟩

theorem Items.keys_isPrefix (items : Items first fields text members rest) :
    members.map Prod.fst <+: fields.map Field.key := by
  induction items with
  | close gap => exact List.nil_prefix
  | item between scalar more ih => exact (List.prefix_cons_inj _).mpr ih

namespace Shape

variable {shape : Shape} {field : Field} {all : Members}

theorem readField_of_scalar (gap : Gap text start) (scalar : Scalar start value rest)
    (passes : field.test value = .ok ()) (ends : Ends rest) :
    readField field text = .ok (value, rest) := by
  obtain ⟨c, more, rfl, solid⟩ := scalar.eq_cons
  have skipped := skipSpace_eq_cons_iff.mpr ⟨gap, solid.1⟩
  have done := readScalar_of_scalar scalar ends
  unfold readField
  rw [skipped]
  dsimp only
  split
  · rename_i same
    cases same
    exact absurd rfl solid.2.1
  · rename_i same
    cases same
    exact absurd rfl solid.2.2.2.1
  · rw [done, ok_bind]
    simp only [passes, pure_eq_ok]

theorem scalar_of_readField (plain : ∀ value, field.test value = .ok () → value.Exact)
    (done : readField field text = .ok (value, rest)) :
    ∃ start, Gap text start ∧ Scalar start value rest := by
  unfold readField at done
  dsimp only at done
  split at done
  · -- a list passes no test
    split at done
    · cases done
    · rename_i passes
      cases plain _ passes
  · split at done
    · cases done
    · rename_i passes
      cases plain _ passes
  · obtain ⟨⟨other, behind⟩, scalar, done⟩ := bind_eq_ok_iff.mp done
    dsimp only at done
    split at done
    · cases done
    · rename_i passes
      cases done
      exact ⟨_, gap_skipSpace text, scalar_of_readScalar scalar (plain _ passes)⟩

theorem has_cons_eq_false_iff {other : String} :
    Members.has ((other, value) :: read) key = false ↔
      other ≠ key ∧ Members.has read key = false := by
  rw [Members.has_eq_false_iff, Members.has_eq_false_iff]
  constructor
  · intro lacks
    refine ⟨?_, fun value listed => lacks value (List.mem_cons_of_mem _ listed)⟩
    rintro rfl
    exact lacks value List.mem_cons_self
  · rintro ⟨differs, lacks⟩ found listed
    rcases List.mem_cons.mp listed with same | listed
    · cases same
      exact differs rfl
    · exact lacks found listed

theorem fields_of_readFieldsWithin (lenient : shape.Lenient)
    (done : shape.readFieldsWithin fuel first read text = .ok (all, rest)) :
    ∃ members, all = read.reverse ++ members ∧ shape.Fields first text members rest ∧
      (members.map Prod.fst).Nodup ∧ ∀ member ∈ members, Members.has read member.1 = false := by
  induction fuel generalizing first read text with
  | zero => cases done
  | succ fuel ih =>
      rw [readFieldsWithin] at done
      obtain ⟨next, comes, done⟩ := bind_eq_ok_iff.mp done
      cases next with
      | done behind =>
          cases done
          exact ⟨[], (List.append_nil _).symm, .close (nextKey_eq_done_iff.mp comes),
            List.nodup_nil, List.forall_mem_nil _⟩
      | key quoted =>
          rw [nextKey_eq_key_iff] at comes
          obtain ⟨⟨key, colon⟩, told, done⟩ := bind_eq_ok_iff.mp done
          obtain ⟨chars, spelled, rfl⟩ := readString_eq_ok_iff.mp told
          dsimp only at done
          split at done
          · rename_i other
            obtain ⟨behind, between, done⟩ := bind_eq_ok_iff.mp done
            obtain ⟨after, passed, done⟩ := bind_eq_ok_iff.mp done
            obtain ⟨start, gap, value⟩ := derives_of_skipValue passed
            obtain ⟨members, same, more, distinct, new⟩ := ih done
            have keyed : Keyed Escaped first text chars start :=
              ⟨comes, spelled, readColon_eq_ok_iff.mp between, gap⟩
            exact ⟨members, same, .unknown keyed other value more, distinct, new⟩
          · rename_i field known
            cases has : Members.has read (String.ofList chars) with
            | true =>
                rw [has, if_pos rfl] at done
                cases done
            | false =>
                rw [has, if_neg (by decide)] at done
                obtain ⟨behind, between, done⟩ := bind_eq_ok_iff.mp done
                obtain ⟨⟨value, after⟩, content, done⟩ := bind_eq_ok_iff.mp done
                have plain := lenient.plain field (List.mem_of_find?_eq_some known)
                obtain ⟨start, gap, scalar⟩ := scalar_of_readField plain content
                obtain ⟨members, same, more, distinct, new⟩ := ih done
                have keyed : Keyed Escaped first text chars start :=
                  ⟨comes, spelled, readColon_eq_ok_iff.mp between, gap⟩
                have apart := fun member listed => has_cons_eq_false_iff.mp (new member listed)
                refine ⟨(String.ofList chars, value) :: members, ?_, .known keyed known scalar more,
                  ?_, ?_⟩
                · rw [same, List.reverse_cons, List.append_assoc, List.singleton_append]
                · refine List.nodup_cons.mpr ⟨fun listed => ?_, distinct⟩
                  obtain ⟨member, listed, again⟩ := List.mem_map.mp listed
                  exact (apart member listed).1 again.symm
                · exact List.forall_mem_cons.mpr ⟨has, fun member listed => (apart member listed).2⟩

theorem Fields.ends (fields : shape.Fields false text members rest) : Ends text := by
  cases fields with
  | close gap => exact gap.ends (ends_cons (by decide))
  | unknown keyed other value more =>
      obtain ⟨between, -, -, -⟩ := keyed
      exact between.ends
  | known keyed field scalar more =>
      obtain ⟨between, -, -, -⟩ := keyed
      exact between.ends

theorem readFieldsWithin_of_fields (fields : shape.Fields first text members rest)
    (passes : ∀ member ∈ members, ∀ field, shape.field? member.1 = some field →
      field.test member.2 = .ok ())
    (distinct : (members.map Prod.fst).Nodup)
    (new : ∀ member ∈ members, Members.has read member.1 = false) (enough : text.length < fuel) :
    shape.readFieldsWithin fuel first read text = .ok (read.reverse ++ members, rest) := by
  induction fields generalizing fuel read with
  | close gap =>
      obtain ⟨fuel, rfl⟩ := Nat.exists_eq_succ_of_ne_zero (Nat.ne_zero_of_lt enough)
      rw [readFieldsWithin, nextKey_eq_done_iff.mpr gap, ok_bind, List.append_nil]
      rfl
  | unknown keyed other value more ih =>
      obtain ⟨fuel, rfl⟩ := Nat.exists_eq_succ_of_ne_zero (Nat.ne_zero_of_lt enough)
      have shorter := keyed.length_lt fun _ _ _ => Escaped.length_lt
      have passed := value.length_le more.ends
      obtain ⟨between, told, colon, blank⟩ := keyed
      rw [readFieldsWithin, nextKey_eq_key_iff.mpr between, ok_bind]
      dsimp only
      rw [readString_eq_ok_iff.mpr ⟨_, told, rfl⟩, ok_bind]
      dsimp only
      rw [other]
      dsimp only
      rw [readColon_eq_ok_iff.mpr colon, ok_bind, skipValue_of_derives blank value more.ends,
        ok_bind]
      exact ih passes distinct new (by omega)
  | @known first text chars start behind rest members field value keyed known scalar more ih =>
      obtain ⟨fuel, rfl⟩ := Nat.exists_eq_succ_of_ne_zero (Nat.ne_zero_of_lt enough)
      have shorter := keyed.length_lt fun _ _ _ => Escaped.length_lt
      have passed := scalar.length_le
      obtain ⟨between, told, colon, blank⟩ := keyed
      obtain ⟨test, passes⟩ := List.forall_mem_cons.mp passes
      obtain ⟨single, distinct⟩ := List.nodup_cons.mp distinct
      obtain ⟨fresh, new⟩ := List.forall_mem_cons.mp new
      have apart (member : String × Value) (listed : member ∈ members) :
          Members.has ((String.ofList chars, value) :: read) member.1 = false := by
        refine has_cons_eq_false_iff.mpr ⟨fun same => single ?_, new member listed⟩
        exact List.mem_map.mpr ⟨member, listed, same.symm⟩
      rw [readFieldsWithin, nextKey_eq_key_iff.mpr between, ok_bind]
      dsimp only
      rw [readString_eq_ok_iff.mpr ⟨_, told, rfl⟩, ok_bind]
      dsimp only
      rw [known]
      dsimp only
      rw [fresh, if_neg (by decide), readColon_eq_ok_iff.mpr colon, ok_bind,
        readField_of_scalar blank scalar (test field known) more.ends, ok_bind]
      dsimp only
      rw [ih passes distinct apart (by omega), List.reverse_cons, List.append_assoc,
        List.singleton_append]

variable {index : Nat}

theorem closeList_eq_ok_iff : closeList text = .ok rest ↔ Gap text (']' :: rest) := by
  constructor
  · intro done
    rw [closeList] at done
    split at done
    · cases done
    · rename_i skipped
      cases done
      exact (skipSpace_eq_cons_iff.mp skipped).1
    · split at done <;> cases done
    · cases done
  · intro gap
    rw [closeList, skipSpace_eq_cons_iff.mpr ⟨gap, by decide⟩]
    rfl

theorem items_of_readItemsAs
    (plain : ∀ field ∈ fields, ∀ value, field.test value = .ok () → value.Exact)
    (done : shape.readItemsAs index fields read text = .ok (all, start))
    (closed : closeList start = .ok rest) :
    ∃ members, all = read.reverse ++ members ∧ Items (index == 0) fields text members rest := by
  induction fields generalizing index read text with
  | nil =>
      cases done
      exact ⟨[], (List.append_nil _).symm, .close (closeList_eq_ok_iff.mp closed)⟩
  | cons field fields ih =>
      obtain ⟨own, others⟩ := List.forall_mem_cons.mp plain
      rw [readItemsAs] at done
      obtain ⟨next, comes, done⟩ := bind_eq_ok_iff.mp done
      cases next with
      | done behind =>
          have gap := nextItem_eq_done_iff.mp comes
          dsimp only at done
          split at done
          · obtain ⟨members, same, items⟩ := ih others done
            -- the bracket was put back, so that no more items come
            cases items with
            | close back =>
                obtain ⟨-, rfl⟩ := back.cons_inj (by decide) (by decide)
                exact ⟨[], same, .close gap⟩
            | item between scalar more =>
                cases between with
                | further comma blank =>
                    obtain ⟨other, -⟩ := comma.cons_inj (by decide) (by decide)
                    exact absurd other (by decide)
          · cases done
      | item behind =>
          obtain ⟨⟨value, after⟩, content, done⟩ := bind_eq_ok_iff.mp done
          obtain ⟨_, gap, scalar⟩ := scalar_of_readField own content
          obtain ⟨members, same, more⟩ := ih others done
          refine ⟨(field.key, value) :: members, ?_,
            .item ((between_of_nextItem comes).gap gap) scalar more⟩
          rw [same, List.reverse_cons, List.append_assoc, List.singleton_append]

theorem readItemsAs_of_items (items : Items (index == 0) fields text members rest)
    (passes : ∀ field ∈ fields, ∀ value, (field.key, value) ∈ members →
      field.test value = .ok ())
    (optional : ∀ field ∈ fields, field.optional = true) :
    ∃ start, shape.readItemsAs index fields read text = .ok (read.reverse ++ members, start) ∧
      closeList start = .ok rest := by
  induction fields generalizing index read text members with
  | nil =>
      cases items with
      | close gap =>
          rw [List.append_nil]
          exact ⟨text, rfl, closeList_eq_ok_iff.mpr gap⟩
  | cons field fields ih =>
      obtain ⟨own, others⟩ := List.forall_mem_cons.mp optional
      cases items with
      | close gap =>
          rw [readItemsAs, nextItem_eq_done_iff.mpr gap, ok_bind]
          dsimp only
          rw [if_pos own]
          exact ih (.close (.refl _)) (fun _ _ value listed => absurd listed List.not_mem_nil) others
      | item between scalar more =>
          obtain ⟨test, passes⟩ := List.forall_mem_cons.mp passes
          obtain ⟨c, inside, rfl, solid⟩ := scalar.eq_cons
          have content := readField_of_scalar (.refl _) scalar (test _ List.mem_cons_self) more.ends
          rw [readItemsAs, nextItem_of_between between solid.1 solid.2.2.1, ok_bind]
          dsimp only
          rw [content, ok_bind]
          dsimp only
          have later : Items (index + 1 == 0) fields _ _ rest := more
          obtain ⟨start, done, closed⟩ := ih later (fun field among value listed =>
            passes field among value (List.mem_cons_of_mem _ listed)) others
          refine ⟨start, ?_, closed⟩
          rw [done, List.reverse_cons, List.append_assoc, List.singleton_append]

/-! ## Whole texts -/

theorem expectEnd_eq_ok_iff {done : Unit} : expectEnd text = .ok done ↔ Gap text [] := by
  rw [expectEnd, ← skipSpace_eq_nil_iff]
  split
  · rename_i ended
    exact ⟨fun _ => ended, fun _ => rfl⟩
  · rename_i more
    exact ⟨nofun, fun ended => (more ended).elim⟩

variable {α : Type} {build : Members → Except Cause α} {record : α}

theorem Fields.exact (fields : shape.Fields first text members rest) :
    ∀ member ∈ members, member.2.Exact := by
  induction fields with
  | close gap => exact List.forall_mem_nil _
  | unknown keyed other value more ih => exact ih
  | known keyed field scalar more ih => exact List.forall_mem_cons.mpr ⟨scalar.exact, ih⟩

/-- The fields in a text have a key each, and plain values. -/
theorem Written.proper (keys : (shape.fields.map Field.key).Nodup)
    (written : shape.Written text members) : members.Proper := by
  cases written with
  | object gap fields distinct blank =>
      exact ⟨distinct, fun member listed => (fields.exact member listed).sorted⟩
  | list gap items blank =>
      exact ⟨keys.sublist items.keys_isPrefix.sublist,
        fun member listed => (items.exact member listed).sorted⟩

theorem written_of_readRecord (lenient : shape.Lenient)
    (done : shape.readRecord build text = .ok (record, rest)) (blank : Gap rest []) :
    ∃ members, shape.Written text members ∧ build members = .ok record := by
  have gap := gap_skipSpace text
  unfold readRecord at done
  dsimp only at done
  split at done
  · rename_i inner opened
    rw [opened] at gap
    obtain ⟨⟨members, behind⟩, read, done⟩ := bind_eq_ok_iff.mp done
    obtain ⟨told, same, fields, distinct, -⟩ := fields_of_readFieldsWithin lenient read
    split at done
    · rename_i built
      cases done
      cases same
      exact ⟨told, .object gap fields distinct blank, built⟩
    · cases done
  · rename_i inner opened
    rw [opened] at gap
    obtain ⟨⟨members, behind⟩, read, done⟩ := bind_eq_ok_iff.mp done
    obtain ⟨after, closed, done⟩ := bind_eq_ok_iff.mp done
    obtain ⟨told, same, items⟩ := items_of_readItemsAs lenient.plain read closed
    split at done
    · rename_i built
      cases done
      cases same
      exact ⟨told, .list gap items blank, built⟩
    · cases done
  · obtain ⟨⟨value, behind⟩, -, done⟩ := bind_eq_ok_iff.mp done
    cases done

theorem readRecord_of_written (builds : shape.Builds build) (lenient : shape.Lenient)
    (written : shape.Written text members) (built : build members = .ok record) :
    ∃ rest, shape.readRecord build text = .ok (record, rest) ∧ Gap rest [] := by
  have passes := builds.passes members record (written.proper builds.keys) built
  cases written with
  | @object inner rest gap fields distinct blank =>
      have tests (member : String × Value) (listed : member ∈ members) (field : Field)
          (known : shape.field? member.1 = some field) : field.test member.2 = .ok () := by
        obtain ⟨among, same⟩ := (field?_eq_some_iff builds.keys).mp known
        exact passes field among member.2 (same ▸ listed)
      have read : shape.readFieldsWithin (inner.length + 1) true [] inner = .ok (members, rest) :=
        readFieldsWithin_of_fields fields tests distinct (fun _ _ => rfl) (Nat.lt_succ_self _)
      refine ⟨rest, ?_, blank⟩
      rw [readRecord, skipSpace_eq_cons_iff.mpr ⟨gap, by decide⟩]
      simp only [read, ok_bind, built]
  | @list inner rest gap items blank =>
      obtain ⟨start, read, closed⟩ : ∃ start,
          shape.readItemsAs 0 shape.fields [] inner = .ok (members, start) ∧
            closeList start = .ok rest := readItemsAs_of_items items passes lenient.optional
      refine ⟨rest, ?_, blank⟩
      rw [readRecord, skipSpace_eq_cons_iff.mpr ⟨gap, by decide⟩]
      simp only [read, closed, ok_bind, built]

/-- A text is read as a record exactly when it is one, and then as the record of its fields. -/
theorem parse_eq_ok_iff (builds : shape.Builds build) (lenient : shape.Lenient) {content : String} :
    shape.parse build Except.ok content = .ok record ↔
      ∃ members, shape.Written content.toList members ∧ build members = .ok record := by
  constructor
  · intro done
    rw [parse] at done
    split at done
    · cases done
    · rename_i told rest read
      dsimp only at done
      split at done
      · cases done
      · rename_i ended
        cases done
        exact written_of_readRecord lenient read (expectEnd_eq_ok_iff.mp ended)
  · rintro ⟨members, written, built⟩
    obtain ⟨rest, read, blank⟩ := readRecord_of_written builds lenient written built
    have ended : expectEnd rest = .ok () := expectEnd_eq_ok_iff.mpr blank
    rw [parse, read]
    simp only [ended]

end Shape

end SelfUpdate.Json
