import Mathlib.Data.List.Infix
import Mathlib.Data.List.Perm.Subperm
import SelfUpdate.Download.Transfer

/-!
# The percentages of a stream

What has come of a stream is a beginning of its chunks, and a percentage of the total. A beginning is a
mark when its percentage is larger than that of every earlier beginning, so percentages increase from mark
to mark and there are a hundred and one of them at most.
-/

namespace SelfUpdate

/-- The chunks that a stream brings before it breaks off. -/
def StreamEvent.chunks : List StreamEvent → List Bytes
  | [] => []
  | .chunk bytes :: rest => bytes :: chunks rest
  | .interference _ :: rest => chunks rest
  | .failure _ :: _ => []
  | .crash :: _ => []

/-- Whether a stream comes to its end. -/
def StreamEvent.isWhole : List StreamEvent → Bool
  | [] => true
  | .chunk _ :: rest => isWhole rest
  | .interference _ :: rest => isWhole rest
  | .failure _ :: _ => false
  | .crash :: _ => false

/-- The percentage that is told. -/
def Progress.percent? : Progress → Option Nat
  | .downloading percent _ _ => some percent
  | .verifying => none

namespace Transfer

variable {total : Nat} {part other chunks : List Bytes} {chunk : Bytes}

/-! ## Percentages -/

/-- How many octets chunks have. -/
def octets (part : List Bytes) : Nat := part.flatten.length

@[simp] theorem octets_concat (part : List Bytes) (chunk : Bytes) :
    octets (part ++ [chunk]) = octets part + chunk.length := by
  simp [octets]

theorem octets_mono (early : part <+: other) : octets part ≤ octets other := by
  obtain ⟨rest, rfl⟩ := early
  rw [octets, octets, List.flatten_append, List.length_append]
  exact Nat.le_add_right _ _

/-- The part of the total that has come, in whole percent and at most a hundred. -/
def percentAt (total : Nat) (part : List Bytes) : Nat := min 100 (100 * octets part / total)

theorem percent?_octets (total : Nat) (part : List Bytes) :
    percent? (octets part) total = if total = 0 then none else some (percentAt total part) := by
  rw [percent?, percentAt, Nat.min_comm, Nat.mul_comm]

theorem percentAt_le (total : Nat) (part : List Bytes) : percentAt total part ≤ 100 :=
  Nat.min_le_left _ _

theorem percentAt_mono (early : part <+: other) : percentAt total part ≤ percentAt total other := by
  have share : 100 * octets part / total ≤ 100 * octets other / total :=
    Nat.div_le_div_right (Nat.mul_le_mul_left 100 (octets_mono early))
  simp only [percentAt]
  omega

/-- All of it is a hundred percent. -/
theorem percentAt_octets (some_ : 0 < octets part) : percentAt (octets part) part = 100 := by
  rw [percentAt, Nat.mul_div_cancel _ some_, Nat.min_self]

/-! ## The arithmetic of the program -/

/-- The percentage as it is computed: with factors of 64 bits and a product of 128. -/
def percentBits? (downloaded total : UInt64) : Option UInt8 :=
  if total = 0 then none
  else
    let percent := BitVec.ofNat 128 downloaded.toNat * 100#128 / BitVec.ofNat 128 total.toNat
    some (UInt8.ofNat (min percent.toNat 100))

/-- The product does not overflow, and the percentage fits. -/
theorem percentBits?_eq (downloaded total : UInt64) :
    (percentBits? downloaded total).map UInt8.toNat =
      percent? downloaded.toNat total.toNat := by
  have small := downloaded.toNat_lt
  have bound := total.toNat_lt
  by_cases zero : total = 0
  · simp [percentBits?, percent?, zero]
  · have some_ : total.toNat ≠ 0 := fun same => zero (UInt64.toNat_inj.mp same)
    have quotient : (BitVec.ofNat 128 downloaded.toNat * 100#128 /
        BitVec.ofNat 128 total.toNat).toNat = downloaded.toNat * 100 / total.toNat := by
      rw [BitVec.toNat_udiv, BitVec.toNat_mul, BitVec.toNat_ofNat, BitVec.toNat_ofNat,
        BitVec.toNat_ofNat, Nat.mod_eq_of_lt (by omega), Nat.mod_eq_of_lt (by omega),
        Nat.mod_eq_of_lt (by omega), Nat.mod_eq_of_lt (by omega)]
    have fits : min (downloaded.toNat * 100 / total.toNat) 100 < 256 := by omega
    simp only [percentBits?, percent?, zero, some_, if_false, quotient, Option.map_some,
      UInt8.toNat_ofNat', Nat.mod_eq_of_lt fits]

/-! ## Marks -/

/-- The beginnings of a stream that have a chunk, the shortest first. -/
def beginnings (chunks : List Bytes) : List (List Bytes) := chunks.inits.tail

@[simp] theorem beginnings_nil : beginnings [] = [] := rfl

theorem beginnings_concat (chunks : List Bytes) (chunk : Bytes) :
    beginnings (chunks ++ [chunk]) = beginnings chunks ++ [chunks ++ [chunk]] := by
  have some_ : chunks.inits ≠ [] := by
    cases chunks <;> simp
  rw [beginnings, beginnings, List.inits_append, List.tail_append_of_ne_nil some_]
  rfl

theorem mem_beginnings_iff : part ∈ beginnings chunks ↔ part <+: chunks ∧ part ≠ [] := by
  induction chunks using List.reverseRecOn with
  | nil => simp
  | append_singleton chunks chunk ih =>
      rw [beginnings_concat, List.mem_append, ih, List.mem_singleton, List.prefix_concat_iff]
      constructor
      · rintro (⟨early, some_⟩ | rfl)
        · exact ⟨.inr early, some_⟩
        · exact ⟨.inl rfl, by simp⟩
      · rintro ⟨rfl | early, some_⟩
        · exact .inr rfl
        · exact .inl ⟨early, some_⟩

/-- A beginning whose percentage is larger than that of every earlier one. The first one always is. -/
def IsMark (total : Nat) (part : List Bytes) : Prop :=
  ∀ earlier ∈ beginnings part.dropLast, percentAt total earlier < percentAt total part

instance : Decidable (IsMark total part) :=
  inferInstanceAs (Decidable (∀ earlier ∈ beginnings part.dropLast, _))

/-- The marks among the beginnings of a stream. -/
def marks (total : Nat) (chunks : List Bytes) : List (List Bytes) :=
  (beginnings chunks).filter fun part => IsMark total part

theorem marks_concat (total : Nat) (chunks : List Bytes) (chunk : Bytes) :
    marks total (chunks ++ [chunk]) =
      marks total chunks ++ [chunks ++ [chunk]].filter fun part => IsMark total part := by
  rw [marks, beginnings_concat, List.filter_append, marks]

/-- The beginning just before has the largest percentage of the earlier ones. -/
theorem isMark_concat_iff :
    IsMark total (chunks ++ [chunk]) ↔
      (chunks ≠ [] → percentAt total chunks < percentAt total (chunks ++ [chunk])) := by
  rw [IsMark, List.dropLast_concat]
  constructor
  · exact fun mark some_ => mark chunks (mem_beginnings_iff.mpr ⟨List.prefix_refl _, some_⟩)
  · intro larger earlier listed
    obtain ⟨early, some_⟩ := mem_beginnings_iff.mp listed
    refine Nat.lt_of_le_of_lt (percentAt_mono early) (larger ?_)
    rintro rfl
    exact some_ (List.prefix_nil.mp early)

/-- The percentages of the marks. -/
def percentages (total : Nat) (chunks : List Bytes) : List Nat :=
  (marks total chunks).map (percentAt total)

theorem percentages_pairwise (total : Nat) (chunks : List Bytes) :
    (percentages total chunks).Pairwise (· < ·) := by
  induction chunks using List.reverseRecOn with
  | nil => exact .nil
  | append_singleton chunks chunk ih =>
      rw [percentages, marks_concat, List.map_append, List.pairwise_append]
      refine ⟨ih, ?_, ?_⟩
      · by_cases mark : IsMark total (chunks ++ [chunk]) <;> simp [mark]
      · intro early listed late among
        obtain ⟨earlier, found, rfl⟩ := List.mem_map.mp listed
        obtain ⟨last, found', rfl⟩ := List.mem_map.mp among
        obtain ⟨same, mark⟩ := List.mem_filter.mp found'
        obtain rfl := List.mem_singleton.mp same
        rw [decide_eq_true_eq, IsMark, List.dropLast_concat] at mark
        exact mark earlier (List.mem_filter.mp found).1

theorem percentages_le {percent : Nat} (listed : percent ∈ percentages total chunks) :
    percent ≤ 100 := by
  obtain ⟨part, -, rfl⟩ := List.mem_map.mp listed
  exact percentAt_le total part

/-- Different percentages up to a hundred are a hundred and one at most. -/
theorem length_percentages_le (total : Nat) (chunks : List Bytes) :
    (percentages total chunks).length ≤ 101 := by
  have different : (percentages total chunks).Nodup :=
    (percentages_pairwise total chunks).imp Nat.ne_of_lt
  have among : percentages total chunks ⊆ List.range 101 := fun percent listed =>
    List.mem_range.mpr (Nat.lt_succ_of_le (percentages_le listed))
  simpa using (List.subperm_of_subset different among).length_le

/-- The last percentage is that of all that has come. -/
theorem getLast?_percentages (some_ : chunks ≠ []) :
    (percentages total chunks).getLast? = some (percentAt total chunks) := by
  induction chunks using List.reverseRecOn with
  | nil => exact absurd rfl some_
  | append_singleton chunks chunk ih =>
      rw [percentages, marks_concat]
      by_cases mark : IsMark total (chunks ++ [chunk])
      · simp [mark]
      · rw [isMark_concat_iff, Classical.not_imp, Nat.not_lt] at mark
        have same : percentAt total chunks = percentAt total (chunks ++ [chunk]) :=
          Nat.le_antisymm (percentAt_mono (List.prefix_append _ _)) mark.2
        have last := ih mark.1
        rw [percentages, same] at last
        simpa [isMark_concat_iff, mark] using last

/-! ## What is taken in -/

/-- What is taken in of some chunks: as many of them, from the first, as fit the limit together. -/
structure Intake (limit : Nat) (chunks taken : List Bytes) : Prop where
  early : taken <+: chunks
  fits : octets taken ≤ limit
  longest : ∀ part, part <+: chunks → octets part ≤ limit → part <+: taken

theorem Intake.of_excess {limit : Nat} {taken rest : List Bytes} {bytes : Bytes}
    (fits : octets taken ≤ limit) (long : limit < octets (taken ++ [bytes])) :
    Intake limit (taken ++ bytes :: rest) taken where
  early := List.prefix_append _ _
  fits := fits
  longest part early short := by
    rcases List.prefix_or_prefix_of_prefix early (List.prefix_append taken (bytes :: rest)) with
      within | beyond
    · exact within
    · obtain ⟨more, rfl⟩ := beyond
      cases more with
      | nil => simp
      | cons next more =>
          rw [List.prefix_append_right_inj, List.cons_prefix_cons] at early
          obtain ⟨rfl, -⟩ := early
          -- with the next chunk it would be too long
          have longer : taken ++ [next] <+: taken ++ next :: more :=
            (List.prefix_append_right_inj taken).mpr
              (List.cons_prefix_cons.mpr ⟨rfl, List.nil_prefix⟩)
          have exceeded := Nat.lt_of_lt_of_le long (octets_mono longer)
          exact absurd short (Nat.not_le.mpr exceeded)

/-- When nothing follows, all is taken in. -/
theorem Intake.of_end {limit : Nat} {taken : List Bytes} (fits : octets taken ≤ limit) :
    Intake limit (taken ++ []) taken := by
  rw [List.append_nil]
  exact ⟨List.prefix_refl taken, fits, fun _ early _ => early⟩

/-! ## What is told -/

/-- What is told of a beginning of the stream. -/
def notice (total : Nat) (part : List Bytes) : Progress :=
  .downloading (percentAt total part) (octets part) total

/-- What is told of chunks that are taken in: their marks, when the total is known. -/
def announced (total : Nat) (taken : List Bytes) : List Progress :=
  if total = 0 then [] else (marks total taken).map (notice total)

theorem announced_concat {total : Nat} (known : total ≠ 0) (taken : List Bytes) (bytes : Bytes) :
    announced total (taken ++ [bytes]) = announced total taken ++
      if IsMark total (taken ++ [bytes]) then [notice total (taken ++ [bytes])] else [] := by
  rw [announced, announced, if_neg known, if_neg known, marks_concat, List.map_append]
  by_cases mark : IsMark total (taken ++ [bytes]) <;> simp [mark]

/-- What the percentages are that are told of chunks. -/
structure Mounting (total : Nat) (taken : List Bytes) (told : List Progress) : Prop where
  /-- All tell the same total. -/
  same : ∀ event ∈ told, ∃ percent downloaded, event = .downloading percent downloaded total
  increasing : (told.filterMap Progress.percent?).Pairwise (· < ·)
  bounded : ∀ percent ∈ told.filterMap Progress.percent?, percent ≤ 100
  few : told.length ≤ 101
  /-- Without a total nothing is told. -/
  unknown : total = 0 → told = []
  last : total ≠ 0 → taken ≠ [] →
    (told.filterMap Progress.percent?).getLast? = some (percentAt total taken)

theorem percents_announced {total : Nat} (known : total ≠ 0) (taken : List Bytes) :
    (announced total taken).filterMap Progress.percent? = percentages total taken := by
  rw [announced, if_neg known, List.filterMap_map, percentages, ← List.filterMap_eq_map]
  rfl

theorem mounting_announced (total : Nat) (taken : List Bytes) :
    Mounting total taken (announced total taken) := by
  by_cases known : total = 0
  · subst known
    exact ⟨nofun, .nil, nofun, Nat.zero_le _, fun _ => rfl, absurd rfl⟩
  · have percents := percents_announced known taken
    have marked : announced total taken = (marks total taken).map (notice total) := if_neg known
    refine ⟨?_, ?_, ?_, ?_, fun unknown => absurd unknown known, fun _ some_ => ?_⟩
    · rw [marked]
      intro event listed
      obtain ⟨part, -, rfl⟩ := List.mem_map.mp listed
      exact ⟨_, _, rfl⟩
    · exact percents ▸ percentages_pairwise total taken
    · exact percents ▸ fun percent => percentages_le
    · have few := length_percentages_le total taken
      rw [percentages, List.length_map] at few
      rwa [marked, List.length_map]
    · exact percents ▸ getLast?_percentages some_

/-- An empty chunk brings no mark about. -/
example : announced 4 [[7], [], [7, 7], [7]] =
    [.downloading 25 1 4, .downloading 75 3 4, .downloading 100 4 4] := by decide

end Transfer

end SelfUpdate
