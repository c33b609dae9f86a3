import SelfUpdate.Proofs.Disk.Rereading
import SelfUpdate.Proofs.Disk.Veils

/-!
# A directory beside a hidden place

What is done to the files of a directory comes to the same whatever is at a place outside of it, as long
as neither the way to the directory nor any entry of it depends on what is there.
-/

namespace SelfUpdate.Disk

variable {disk before after : Disk} {hidden : Option Location} {directory folder path : Path}
  {home above location : Location} {name : String}

/-! ## A directory without its links -/

/-- Whether there is a link among the entries of a directory. -/
def isLinkIn (disk : Disk) (home location : Location) : Bool :=
  location.dropLast == home && match disk.get? location with
    | some (.link _) => true
    | _ => false

theorem isLinkIn_iff : disk.isLinkIn home location = true ↔
    location.dropLast = home ∧ ∃ target, disk.get? location = some (.link target) := by
  rw [isLinkIn, Bool.and_eq_true, beq_iff_eq]
  refine and_congr_right fun _ => ?_
  split
  · rename_i target found
    simp [found]
  · rename_i noLink
    simpa using noLink

/-- A disk on which a directory has no links. -/
def unlinked (home : Location) (disk : Disk) : Disk :=
  { disk with entries := disk.entries.filter fun entry => !disk.isLinkIn home entry.1 }

theorem get?_unlinked (home location : Location) (disk : Disk) :
    (disk.unlinked home).get? location =
      if disk.isLinkIn home location then none else disk.get? location := by
  by_cases root : location = []
  · subst root
    have noLink : disk.isLinkIn home [] = false := Bool.and_false _
    rw [if_neg (by simp [noLink])]
    rfl
  rw [get?_eq_find root, get?_eq_find root, unlinked, List.find?_filter]
  by_cases link : disk.isLinkIn home location = true
  · rw [if_pos link, Option.map_eq_none_iff, List.find?_eq_none]
    intro entry _ held
    obtain ⟨kept, found⟩ := of_decide_eq_true held
    rw [eq_of_beq found, link] at kept
    cases kept
  · have same : (fun entry : Location × Node => decide
        ((!disk.isLinkIn home entry.1) = true ∧ (entry.1 == location) = true)) =
        fun entry => entry.1 == location := by
      funext entry
      by_cases found : entry.1 = location
      · simp [found, link]
      · simp [found]
    rw [if_neg link, same]

theorem keepsWays_unlinked (home : Location) (disk : Disk) : KeepsWays (disk.unlinked home) disk := by
  refine .of_lookups fun location node found _ => ?_
  rw [get?_unlinked] at found
  split at found
  · cases found
  · exact found

/-! ## What may change -/

/-- Files come and go in a directory and at the hidden place, and links of the directory go. Nothing else
changes. -/
structure OnlyFiles (home : Location) (hidden : Option Location) (before after : Disk) : Prop where
  tree : after.IsTree
  fresh : after.Fresh
  workingDirectory : after.workingDirectory = before.workingDirectory
  lookups : ∀ location, after.get? location = before.get? location ∨
    before.isDirectoryAt location = false ∧ after.IsOffWay location ∧
      ((∃ name, location = home ++ [name] ∧ Path.isName name = true) ∨ hidden = some location)

/-- A directory and a hidden place outside of it. Neither the way to the directory nor what its entries
lead to depends on the other. -/
structure Beside (directory : Path) (home : Location) (hidden : Option Location) (disk : Disk) :
    Prop extends Veiled hidden disk where
  text : checkText directory = .ok ()
  /-- The way to the directory passes none of its own links. -/
  way : (disk.unlinked home).Leads directory home
  entries : ∀ name, (disk.get? (home ++ [name])).isSome → Path.isName name = true
  outside : ∀ place, hidden = some place → ¬ home <+: place
  /-- No entry of the directory leads to the hidden place. -/
  clear : ∀ place, hidden = some place → ∀ name, Path.isName name = true →
    (disk.veil hidden).locate (Path.join directory name) ≠ .ok place

/-- Where there are no links no entry of the directory leads out of it. -/
theorem Veiled.beside (veiled : Veiled hidden disk) (linkFree : disk.LinkFree)
    (text : checkText directory = .ok ()) (way : (disk.unlinked home).Leads directory home)
    (entries : ∀ name, (disk.get? (home ++ [name])).isSome → Path.isName name = true)
    (outside : ∀ place, hidden = some place → ¬ home <+: place) :
    Beside directory home hidden disk where
  toVeiled := veiled
  text := text
  way := way
  entries := entries
  outside := outside
  clear place held name named located := by
    have leads := veiled.leads_iff.mpr (way.mono (keepsWays_unlinked home disk) rfl)
    have solid (target : Path) : (disk.veil hidden).get? (home ++ [name]) ≠ some (.link target) := by
      intro found
      rw [get?_veil veiled.named] at found
      split at found
      · cases found
      · obtain ⟨node, there, face⟩ := Option.map_eq_some_iff.mp found
        exact linkFree _ _ (there.trans (congrArg some (Node.face_eq_link.mp face)))
    obtain ⟨rfl, -⟩ := locate_join_eq_ok named leads solid located
    exact outside _ held (List.prefix_append _ _)

namespace OnlyFiles

theorem refl (veiled : Veiled hidden disk) (home : Location) : OnlyFiles home hidden disk disk :=
  ⟨veiled.tree, veiled.fresh, rfl, fun _ => .inl rfl⟩

theorem unlinked (only : OnlyFiles home hidden before after) (veiled : Veiled hidden before) :
    KeepsWays (before.unlinked home) (after.unlinked home) := by
  refine .of_lookups fun location node found noFile => ?_
  rw [get?_unlinked] at found ⊢
  split at found
  · cases found
  · rename_i noLink
    rcases only.lookups location with same | ⟨free, -, place⟩
    · rw [isLinkIn, same, ← isLinkIn, if_neg noLink, found]
    · -- what has gone was no directory, and of the links only those of the directory go
      cases node with
      | directory mode => cases free.symm.trans (isDirectoryAt_iff.mpr ⟨mode, found⟩)
      | file identity mode bytes => cases noFile
      | link target =>
          rcases place with ⟨name, rfl, -⟩ | here
          · exact absurd (isLinkIn_iff.mpr ⟨List.dropLast_concat, target, found⟩) noLink
          · exact absurd found ((veiled.free location here).2 target)

theorem leads (only : OnlyFiles home hidden before after) (veiled : Veiled hidden before)
    (way : (before.unlinked home).Leads folder above) : (after.unlinked home).Leads folder above :=
  way.mono (only.unlinked veiled) only.workingDirectory

theorem veiled (only : OnlyFiles home hidden before after) (veiled : Veiled hidden before) :
    Veiled hidden after where
  tree := only.tree
  fresh := only.fresh
  free place held := by
    rcases only.lookups place with same | ⟨-, free, -⟩
    · have free := veiled.free place held
      rwa [IsOffWay, isDirectoryAt, same]
    · exact free
  inside place held := by
    have inside := veiled.inside place held
    rcases only.lookups place.dropLast with same | ⟨free, -⟩
    · rwa [isDirectoryAt, same]
    · cases free.symm.trans inside

theorem beside (only : OnlyFiles home hidden before after)
    (beside : Beside directory home hidden before) : Beside directory home hidden after where
  toVeiled := only.veiled beside.toVeiled
  text := beside.text
  way := only.leads beside.toVeiled beside.way
  entries name present := by
    rcases only.lookups (home ++ [name]) with same | ⟨-, -, ⟨other, here, named⟩ | here⟩
    · exact beside.entries name (by rwa [← same])
    · cases List.append_cancel_left here
      exact named
    · exact absurd (List.prefix_append _ _) (beside.outside _ here)
  outside := beside.outside
  clear place held name named located := by
    -- no directory and no link has come, so the same path led to the hidden place before
    have still := only.veiled beside.toVeiled
    have back : KeepsWays (after.veil hidden) (before.veil hidden) := by
      refine .of_lookups fun location node found noFile => ?_
      rw [get?_veil still.named] at found
      rw [get?_veil beside.named]
      split at found
      · cases found
        cases noFile
      · rename_i aside
        obtain ⟨old, there, rfl⟩ := Option.map_eq_some_iff.mp found
        rw [if_neg aside]
        rcases only.lookups location with same | ⟨-, free, -⟩
        · rw [← same, there]
          rfl
        · cases old with
          | directory mode => cases free.1.symm.trans (isDirectoryAt_iff.mpr ⟨mode, there⟩)
          | file identity mode bytes => cases noFile
          | link target => exact absurd there (free.2 target)
    obtain ⟨text, left, reached⟩ := locate_eq_ok_iff.mp located
    refine beside.clear place held name named (locate_eq_ok_iff.mpr ⟨text, left, ?_⟩)
    have end_ : (before.veil hidden).get? place = some veiledFile := by
      rw [get?_veil beside.named, if_pos held]
    rw [show (after.veil hidden).workingDirectory = (before.veil hidden).workingDirectory from
      only.workingDirectory] at reached
    exact reached.mono back ⟨_, end_, nofun⟩

end OnlyFiles

/-! ## Files of the directory -/

theorem Fresh.erase (fresh : disk.Fresh) (location : Location) : (disk.erase location).Fresh :=
  fun entry listed => fresh entry (List.mem_of_mem_filter listed)

theorem Fresh.move (fresh : disk.Fresh) (source target : Location) : (disk.move source target).Fresh := by
  intro entry listed
  rw [entries_move] at listed
  obtain ⟨old, member, rfl⟩ := List.mem_map.mp listed
  exact fresh old member

theorem Fresh.modifyFile (fresh : disk.Fresh) (identity : Nat) (change : Bytes → Bytes) :
    (disk.modifyFile identity change).Fresh := by
  intro entry listed
  rw [modifyFile_eq] at listed ⊢
  obtain ⟨old, member, rfl⟩ := List.mem_map.mp listed
  rw [Node.identity?_alter]
  exact fresh old member

theorem mem_put {node : Node} {entry : Location × Node}
    (listed : entry ∈ (disk.put location node).entries) :
    entry = (location, node) ∨ entry ∈ disk.entries := by
  rw [put] at listed
  split at listed
  · obtain ⟨old, member, same⟩ := List.mem_map.mp listed
    split at same
    · exact .inl same.symm
    · exact .inr (same ▸ member)
  · rcases List.mem_append.mp listed with old | new
    · exact .inr old
    · exact .inl (List.mem_singleton.mp new)

theorem Fresh.putNewFile (fresh : disk.Fresh) (location : Location) (mode : Nat) (bytes : Bytes) :
    (disk.putNewFile location mode bytes).Fresh := by
  intro entry listed identity own
  rcases mem_put listed with rfl | old
  · cases own
    exact Nat.lt_succ_self _
  · exact Nat.lt_succ_of_lt (fresh entry old identity own)

/-- A new file is the only one with its identity, and the only one in its place. -/
theorem isSole_putNewFile (fresh : disk.Fresh) (some_ : location ≠ [])
    (vacant : disk.get? location = none) (mode : Nat) (bytes : Bytes) :
    (disk.putNewFile location mode bytes).IsSole disk.freshIdentity location := by
  refine ⟨Nat.lt_succ_self _, fun entry listed => ?_⟩
  rcases mem_put listed with rfl | old
  · exact ⟨fun _ => rfl, fun _ => rfl⟩
  · constructor
    · intro own
      exact absurd (fresh entry old _ own) (Nat.lt_irrefl _)
    · intro here
      have present : (disk.get? location).isSome :=
        (isSome_get?_iff some_).mpr ⟨entry.2, here ▸ old⟩
      rw [vacant] at present
      cases present

theorem IsSole.modifyFile {identity : Nat} (sole : disk.IsSole identity location) (other : Nat)
    (change : Bytes → Bytes) : (disk.modifyFile other change).IsSole identity location := by
  refine ⟨sole.given, fun entry listed => ?_⟩
  rw [modifyFile_eq] at listed
  obtain ⟨old, member, rfl⟩ := List.mem_map.mp listed
  rw [Node.identity?_alter]
  exact sole.listed old member

/-- A sole file is a file. -/
theorem IsSole.isOffWay {identity : Nat} (sole : disk.IsSole identity location)
    (some_ : location ≠ []) : disk.IsOffWay location := by
  cases found : disk.get? location with
  | none => exact .of_vacant found
  | some node =>
      have own := (sole.listed _ (mem_entries_of_get? some_ found)).mpr rfl
      cases node with
      | directory mode => cases own
      | file i mode bytes => exact .of_file found
      | link target => cases own

namespace Beside

theorem leads (beside : Beside directory home hidden disk) : disk.Leads directory home :=
  beside.way.mono (keepsWays_unlinked home disk) rfl

theorem aside (beside : Beside directory home hidden disk) (name : String) :
    hidden ≠ some (home ++ [name]) :=
  fun held => beside.outside _ held (List.prefix_append _ _)

theorem outside_entry (beside : Beside directory home hidden disk) (name : String) (place : Location)
    (held : hidden = some place) : ¬ home ++ [name] <+: place :=
  fun within => beside.outside place held ((List.prefix_append _ _).trans within)

theorem get?_entry (beside : Beside directory home hidden disk) (name : String) :
    (disk.veil hidden).get? (home ++ [name]) = (disk.get? (home ++ [name])).map Node.face :=
  get?_veil_of_ne beside.named (beside.aside name)

theorem place_join (beside : Beside directory home hidden disk) (named : Path.isName name = true)
    (text : checkText (Path.join directory name) = .ok ()) :
    disk.place (Path.join directory name) = .ok ⟨home, .name name, false⟩ ∧
      (disk.veil hidden).place (Path.join directory name) = .ok ⟨home, .name name, false⟩ :=
  ⟨(place_join_eq_ok_iff named).mpr ⟨text, home, beside.leads, rfl⟩,
    (place_join_eq_ok_iff named).mpr ⟨text, home, beside.leads_iff.mpr beside.leads, rfl⟩⟩

theorem place_illegal {error : IoError} (text : checkText path = .error error) :
    disk.place path = .error error := by
  rw [Disk.place, text]
  rfl

/-! ## Removing -/

theorem removeFile_veil (beside : Beside directory home hidden disk)
    (named : Path.isName name = true) :
    (disk.removeFile (Path.join directory name)).map (veil hidden) =
      (disk.veil hidden).removeFile (Path.join directory name) := by
  cases text : checkText (Path.join directory name) with
  | error error => rw [removeFile, removeFile, place_illegal text, place_illegal text]; rfl
  | ok _ =>
      cases long : isTooLong name with
      | true =>
          obtain ⟨placed, behind⟩ := beside.place_join named text
          rw [removeFile, removeFile, placed, behind]
          simp [Place.locate, long]
      | false =>
          rw [removeFile_join named long text beside.leads,
            removeFile_join named long text (beside.leads_iff.mpr beside.leads), beside.get?_entry,
            isSealed_veil]
          cases disk.get? (home ++ [name]) with
          | none => rfl
          | some node =>
              simp only [Option.map_some, Node.isDirectory_face]
              split
              · rfl
              · split
                · rfl
                · exact congrArg Except.ok (veil_erase (beside.outside_entry name))

theorem removeFile_onlyFiles (beside : Beside directory home hidden disk)
    (named : Path.isName name = true)
    (removed : disk.removeFile (Path.join directory name) = .ok after) :
    OnlyFiles home hidden disk after := by
  obtain ⟨location, node, names, found, solid, rfl⟩ := removeFile_eq_ok removed
  obtain ⟨other, leads, -, -, rfl⟩ := names.join named
  obtain rfl := beside.leads.eq leads
  have free := (isDirectoryAt_of_get? found).trans solid
  have lookup := beside.tree.get?_erase_solid names.ne_nil free
  refine ⟨(removeFile_change removed).isTree beside.tree, beside.fresh.erase _, rfl, fun place => ?_⟩
  by_cases here : place = home ++ [name]
  · subst here
    exact .inr ⟨free, .of_vacant ((lookup _).trans (if_pos rfl)), .inl ⟨name, rfl, named⟩⟩
  · exact .inl ((lookup place).trans (if_neg here))

/-! ## Making files -/

theorem createNew_veil (beside : Beside directory home hidden disk)
    (named : Path.isName name = true) :
    (disk.createNew (Path.join directory name)).map (fun made => made.2.veil hidden) =
      ((disk.veil hidden).createNew (Path.join directory name)).map
        (fun made => made.2.veil hidden) := by
  cases text : checkText (Path.join directory name) with
  | error error => rw [createNew, createNew, place_illegal text, place_illegal text]; rfl
  | ok _ =>
      obtain ⟨placed, behind⟩ := beside.place_join named text
      have behindLeads := beside.leads_iff.mpr beside.leads
      have seen := beside.get?_entry name
      cases long : isTooLong name with
      | true =>
          rw [createNew, createNew, placed, behind]
          simp [Place.locate, long]
      | false =>
          cases found : disk.get? (home ++ [name]) with
          | some node =>
              rw [found] at seen
              rw [createNew, createNew, placed, behind]
              simp [Place.locate, long, found, seen]
          | none =>
              rw [found] at seen
              rw [createNew_join named long text beside.leads found,
                createNew_join named long text behindLeads seen, isSealed_veil]
              split
              · rfl
              · have aside := beside.aside name
                simp only [Except.map, veil_putNewFile aside, veil_veil]

theorem createNew_onlyFiles (beside : Beside directory home hidden disk)
    (named : Path.isName name = true) {handle : Handle}
    (made : disk.createNew (Path.join directory name) = .ok (handle, after)) :
    OnlyFiles home hidden disk after ∧ handle.position = 0 ∧
      after.IsSole handle.identity (home ++ [name]) := by
  have change := createNew_change made
  obtain ⟨location, names, vacant, rfl, rfl⟩ := createNew_eq_ok made
  obtain ⟨other, leads, -, -, rfl⟩ := names.join named
  obtain rfl := beside.leads.eq leads
  refine ⟨⟨change.isTree beside.tree, beside.fresh.putNewFile _ _ _, change.workingDirectory,
    fun place => ?_⟩, rfl, isSole_putNewFile beside.fresh names.ne_nil vacant _ _⟩
  have lookup := get?_putNewFile disk fileMode [] place names.ne_nil
  by_cases here : place = home ++ [name]
  · rw [if_pos here] at lookup
    refine .inr ⟨?_, .of_file lookup, .inl ⟨name, here, named⟩⟩
    rw [here, isDirectoryAt, vacant, Option.any_none]
  · rw [if_neg here] at lookup
    exact .inl lookup

/-! ## Writing -/

theorem write_onlyFiles (beside : Beside directory home hidden disk)
    (named : Path.isName name = true) {handle : Handle}
    (sole : disk.IsSole handle.identity (home ++ [name])) (bytes : Bytes) :
    OnlyFiles home hidden disk (disk.write handle bytes).2 ∧
      (disk.write handle bytes).2.IsSole handle.identity (home ++ [name]) := by
  have tree := (write_changes disk handle bytes).isTree beside.tree
  rw [Disk.write] at tree ⊢
  split
  · exact ⟨⟨beside.tree, beside.fresh, rfl, fun _ => .inl rfl⟩, sole⟩
  · rename_i some_
    rw [if_neg some_] at tree
    refine ⟨⟨tree, beside.fresh.modifyFile _ _, rfl, fun place => ?_⟩, sole.modifyFile _ _⟩
    by_cases here : place = home ++ [name]
    · subst here
      exact .inr ⟨(sole.isOffWay (by simp)).1, (sole.modifyFile _ _).isOffWay (by simp),
        .inl ⟨name, rfl, named⟩⟩
    · left
      rw [get?_modifyFile]
      cases found : disk.get? place with
      | none => rfl
      | some node =>
          by_cases root : place = []
          · subst root
            cases found
            rfl
          · have listed := mem_entries_of_get? root found
            rw [Option.map_some, Node.alter_of_ne (mt (sole.listed _ listed).mp here)]

/-- The same octets at the same place of the same file are seen alike. -/
theorem write_veil {one other : Disk} {handle twin : Handle}
    (beside : Beside directory home hidden one)
    (soleOne : one.IsSole handle.identity (home ++ [name]))
    (soleOther : other.IsSole twin.identity (home ++ [name]))
    (same : one.veil hidden = other.veil hidden) (position : handle.position = twin.position)
    (bytes : Bytes) :
    (one.write handle bytes).2.veil hidden = (other.write twin bytes).2.veil hidden := by
  have aside := beside.aside name
  rw [Disk.write, Disk.write, position]
  split
  · exact same
  · rw [veil_modifyFile soleOne aside, veil_modifyFile soleOther aside, same]

/-! ## Renaming -/

theorem replaceError?_veil (beside : Beside directory home hidden disk) (node : Node)
    (name : String) :
    (disk.veil hidden).replaceError? node.face (home ++ [name]) =
      disk.replaceError? node (home ++ [name]) := by
  have children : (disk.veil hidden).children (home ++ [name]) = disk.children (home ++ [name]) :=
    children_veil (fun other held => beside.outside_entry name _ held (List.prefix_append _ _))
      beside.named
  rw [replaceError?, replaceError?, beside.get?_entry, children, Node.isDirectory_face]
  cases disk.get? (home ++ [name]) with
  | none => rfl
  | some old => simp only [Option.map_some, Node.isDirectory_face]

/-- What renaming an entry comes to. -/
theorem rename_join_run {source : String} (leads : disk.Leads directory home)
    (sourceNamed : Path.isName source = true) (named : Path.isName name = true)
    (differ : source ≠ name) (sourceText : checkText (Path.join directory source) = .ok ())
    (text : checkText (Path.join directory name) = .ok ()) :
    disk.rename (Path.join directory source) (Path.join directory name) =
      if isTooLong source then .error .nameTooLong
      else match disk.get? (home ++ [source]) with
        | none => .error .notFound
        | some node =>
          if isTooLong name then .error .nameTooLong
          else if disk.isSealed home then .error .permissionDenied
          else match disk.replaceError? node (home ++ [name]) with
            | some error => .error error
            | none => .ok ((disk.erase (home ++ [name])).move (home ++ [source]) (home ++ [name])) := by
  have sourcePlaced := (place_join_eq_ok_iff sourceNamed).mpr ⟨sourceText, home, leads, rfl⟩
  have placed := (place_join_eq_ok_iff named).mpr ⟨text, home, leads, rfl⟩
  rw [rename, checkNul_of_checkText sourceText, checkNul_of_checkText text, ok_bind, ok_bind,
    sourcePlaced, ok_bind, placed, ok_bind, Place.locate]
  cases long : isTooLong source with
  | true => simp [Place.isNamed, long]
  | false =>
      cases found : disk.get? (home ++ [source]) with
      | none => simp [Place.isNamed, long, found]
      | some node =>
          have moved : disk.renameFrom (home ++ [source]) (Path.join directory name) =
              if isTooLong name then .error .nameTooLong
              else if disk.isSealed home then .error .permissionDenied
              else match disk.replaceError? node (home ++ [name]) with
                | some error => .error error
                | none =>
                  .ok ((disk.erase (home ++ [name])).move (home ++ [source]) (home ++ [name])) := by
            rw [renameFrom, placed, ok_bind, Place.locate]
            cases nameLong : isTooLong name with
            | true => simp [nameLong]
            | false =>
                cases locked : disk.isSealed home with
                | true => simp [nameLong, found, differ, differ.symm, locked]
                | false =>
                    cases refused : disk.replaceError? node (home ++ [name]) <;>
                      simp [nameLong, found, differ, differ.symm, locked, refused]
          simp [Place.isNamed, long, found, moved]

theorem rename_veil (beside : Beside directory home hidden disk) {source : String}
    (sourceNamed : Path.isName source = true) (named : Path.isName name = true)
    (differ : source ≠ name) :
    (disk.rename (Path.join directory source) (Path.join directory name)).map (veil hidden) =
      (disk.veil hidden).rename (Path.join directory source) (Path.join directory name) := by
  cases sourceText : checkText (Path.join directory source) with
  | error error =>
      simp only [rename, place_illegal sourceText]
      cases checkNul (Path.join directory source) <;>
        cases checkNul (Path.join directory name) <;> rfl
  | ok _ =>
      cases text : checkText (Path.join directory name) with
      | error error =>
          obtain ⟨placed, behind⟩ := beside.place_join sourceNamed sourceText
          simp only [rename, placed, behind, place_illegal text]
          cases checkNul (Path.join directory source) <;>
            cases checkNul (Path.join directory name) <;> rfl
      | ok _ =>
          rw [rename_join_run beside.leads sourceNamed named differ sourceText text,
            rename_join_run (beside.leads_iff.mpr beside.leads) sourceNamed named differ sourceText
              text, beside.get?_entry, isSealed_veil]
          split
          · rfl
          · cases disk.get? (home ++ [source]) with
            | none => rfl
            | some node =>
                simp only [Option.map_some, beside.replaceError?_veil]
                split
                · rfl
                · split
                  · rfl
                  · cases disk.replaceError? node (home ++ [name]) with
                    | some error => rfl
                    | none =>
                        refine congrArg Except.ok ?_
                        rw [veil_move, veil_erase (beside.outside_entry name)]
                        exact fun place held => ⟨beside.outside_entry source place held,
                          beside.outside_entry name place held⟩

theorem rename_onlyFiles (beside : Beside directory home hidden disk) {source : String}
    (sourceNamed : Path.isName source = true) (named : Path.isName name = true)
    (differ : source ≠ name) (file : disk.IsOffWay (home ++ [source]))
    (renamed : disk.rename (Path.join directory source) (Path.join directory name) = .ok after) :
    OnlyFiles home hidden disk after := by
  have changes := rename_changes renamed
  obtain ⟨other, node, leads, -, -, found, free, rfl⟩ :=
    rename_join_eq_ok sourceNamed named differ renamed
  obtain rfl := beside.leads.eq leads
  have solid : node.isDirectory = false := by
    have noDirectory := file.1
    rwa [isDirectoryAt, found] at noDirectory
  have targetFree := replaceError?_eq_none solid free
  have lookup (place : Location) := get?_erase_move disk place (by simp) (by simp)
    (append_ne home differ) (append_ne home differ.symm)
  refine ⟨changes.isTree beside.tree, (beside.fresh.erase _).move _ _, rfl, fun place => ?_⟩
  by_cases target : home ++ [name] <+: place
  · by_cases here : place = home ++ [name]
    · subst here
      have moved := lookup (home ++ [name])
      rw [if_pos target, List.drop_length, List.append_nil] at moved
      refine .inr ⟨targetFree, ?_, .inl ⟨name, rfl, named⟩⟩
      rwa [IsOffWay, isDirectoryAt, moved]
    · left
      obtain ⟨rest, rfl⟩ := target
      have some_ : rest ≠ [] := by
        rintro rfl
        exact here (List.append_nil _)
      rw [lookup, if_pos (List.prefix_append _ _), List.drop_left,
        beside.tree.get?_below file.1 (List.prefix_append _ _) (by simpa using some_),
        beside.tree.get?_below targetFree (List.prefix_append _ _) (by simpa using some_)]
  · rw [lookup, if_neg target]
    split
    · rename_i within
      by_cases here : place = home ++ [source]
      · subst here
        refine .inr ⟨file.1, .of_vacant ?_, .inl ⟨source, rfl, sourceNamed⟩⟩
        rw [lookup, if_neg target, if_pos within]
      · exact .inl (beside.tree.get?_below file.1 within (Ne.symm here)).symm
    · exact .inl rfl

/-! ## Looking -/

theorem list (beside : Beside directory home hidden disk) :
    disk.list directory = .ok ((disk.children home).map (Path.join directory)) := by
  rw [Disk.list, locate_directory beside.leads beside.text, ok_bind, beside.leads.2]
  rfl

theorem children (beside : Beside directory home hidden disk) :
    (disk.veil hidden).children home = disk.children home :=
  children_veil beside.aside beside.named

theorem clearOf (beside : Beside directory home hidden disk) (named : Path.isName name = true)
    (place : Location) (held : hidden = some place) :
    (disk.veil hidden).locate (Path.join directory name) ≠ .ok place :=
  beside.clear place held name named

theorem makeDirectories (beside : Beside directory home hidden disk) :
    Disk.makeDirectories directory disk = (.ok (), disk) :=
  makeDirectories_of_located (locate_directory beside.leads beside.text) beside.leads.2

end Beside

end SelfUpdate.Disk
